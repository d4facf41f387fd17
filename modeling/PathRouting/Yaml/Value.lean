import PathRouting.Number.Binary64
import PathRouting.Yaml.Node

/-!
# Values

The value of a document is free of anchors and of spellings. A plain scalar without a tag is no
value, a truth value or a number if it is written like one, and a text otherwise.
-/

namespace PathRouting.Yaml

/-- A value. -/
inductive Value where
  /-- No value. -/
  | null
  /-- A truth value. -/
  | boolean (b : Bool)
  /-- A whole number. -/
  | integer (n : Int)
  /-- A number that is not written as a whole one. -/
  | floating (x : Binary64)
  /-- A text. -/
  | string (t : Text)
  /-- A sequence of values. -/
  | sequence (items : List Value)
  /-- A mapping, as its keys with their values in order. -/
  | mapping (entries : List (Value × Value))
  /-- A value with a tag that the author of the text made up. -/
  | tagged (tag : Text) (v : Value)

namespace Value

/-- A value without the tags around it. -/
def untagged : Value → Value
  | tagged _ v => v.untagged
  | v => v

/-- Whether two numbers are the same; both zeros are, and so is what is no number. -/
def sameNumber (x y : Binary64) : Bool :=
  match x, y with
  | .finite _ 0 _, .finite _ 0 _ => true
  | _, _ => x == y

mutual

/-- Whether two values are the same. The order of a mapping does not count. -/
def same : Value → Value → Bool
  | null, null => true
  | boolean a, boolean b => a == b
  | integer a, integer b => a == b
  | floating x, floating y => sameNumber x y
  | string s, string t => s == t
  | sequence as, sequence bs => sameItems as bs
  | mapping as, mapping bs => as.length == bs.length && eachIn as bs
  | tagged s v, tagged t w => s == t && v.same w
  | _, _ => false

/-- Whether two lists hold the same values. -/
def sameItems : List Value → List Value → Bool
  | [], [] => true
  | a :: as, b :: bs => a.same b && sameItems as bs
  | _, _ => false

/-- Whether every pair of one mapping is in another one. -/
def eachIn : List (Value × Value) → List (Value × Value) → Bool
  | [], _ => true
  | (key, value) :: rest, entries =>
    entries.any (fun (k, v) => key.same k && value.same v) && eachIn rest entries

end

end Value

namespace Scalar

/-- The truth value that a text spells. -/
def boolean? (t : Text) : Option Bool :=
  if ["true", "True", "TRUE"].any (·.toList == t) then some true
  else if ["false", "False", "FALSE"].any (·.toList == t) then some false
  else none

/-- Whether a text spells the absence of a value. -/
def isNull (t : Text) : Bool :=
  ["null", "Null", "NULL", "~"].any (·.toList == t)

/-- The value of digits in a base, of which there is at least one. -/
def digits? (base : Nat) (t : Text) : Option Nat := do
  let values ← t.mapM fun c => (Text.hexValue? c).filter (· < base)
  if values.isEmpty then none else some (Text.ofDigits base values)

/-- A text without a sign before it, with whether the sign is a minus. -/
def splitSign : Text → Bool × Text
  | '-' :: rest => (true, rest)
  | '+' :: rest => (false, rest)
  | t => (false, t)

/-- Whether a text is a zero with digits behind it, which is not a number, with or without a sign
before it. -/
def isPaddedDigits (t : Text) : Bool :=
  match (splitSign t).2 with
  | '0' :: c :: rest => (c :: rest).all Text.isDigit
  | _ => false

/-- The number of digits behind the mark of their base, if there is one. -/
def magnitude? (t : Text) : Option Nat :=
  match t with
  | '0' :: 'x' :: rest => digits? 16 rest
  | '0' :: 'o' :: rest => digits? 8 rest
  | '0' :: 'b' :: rest => digits? 2 rest
  | _ => digits? 10 t

/-- What a text is as a whole number. -/
inductive Whole where
  /-- It is no whole number, or too large to be taken for one. -/
  | no
  /-- It is a whole number that is out of range. -/
  | tooLarge
  /-- It is a whole number. -/
  | number (n : Int)

/-- The bound of an unsigned word of a given number of bits. -/
def wordBound (bits : Nat) : Nat :=
  Nat.pow 2 bits

/-- The whole number that a text spells. Words of 64 bits are in range, and up to 128 bits the text
is still taken for a whole number. -/
def whole (t : Text) : Whole :=
  if isPaddedDigits t then .no
  else
    let (isNegative, rest) := splitSign t
    match magnitude? rest with
    | none => .no
    | some n =>
      if isNegative then
        if n ≤ wordBound 63 then .number (-n)
        else if n ≤ wordBound 127 then .tooLarge
        else .no
      else if n < wordBound 64 then .number n
      else if n < wordBound 128 then .tooLarge
      else .no

/-- The decimal exponent that a text spells behind its mark, or zero if there is no text. -/
def exponent? : Text → Option Int
  | [] => some 0
  | c :: rest =>
    if c = 'e' ∨ c = 'E' then
      let (isNegative, digits) := splitSign rest
      (digits? 10 digits).map fun n => if isNegative then -n else (n : Int)
    else none

/-- The number that a text spells in decimal notation, which has digits before its point or behind
it. -/
def decimal? (t : Text) : Option Binary64 := do
  let (isNegative, rest) := splitSign t
  let whole := rest.takeWhile Text.isDigit
  let behind := rest.drop whole.length
  let fraction := match behind with
    | '.' :: more => more.takeWhile Text.isDigit
    | _ => []
  let tail := match behind with
    | '.' :: more => more.drop fraction.length
    | _ => behind
  let digits ← digits? 10 (whole ++ fraction)
  return Binary64.ofDecimal isNegative digits ((← exponent? tail) - fraction.length)

/-- The number that a text spells: an infinity, no number, or a finite number in decimal
notation. -/
def number? (t : Text) : Option Binary64 :=
  let (isNegative, rest) := splitSign t
  if [".inf", ".Inf", ".INF"].any (·.toList == rest) then some (.infinite isNegative)
  else if [".nan", ".NaN", ".NAN"].any (·.toList == t) then some .nan
  else (decimal? t).filter (·.isFinite)

/-- The value of a plain scalar. -/
def resolve (t : Text) : Except Error Value :=
  if t.isEmpty ∨ isNull t then .ok .null
  else match boolean? t with
    | some b => .ok (.boolean b)
    | none =>
      match whole t with
      | .number n => .ok (.integer n)
      | .tooLarge => .error .numberRange
      | .no =>
        match if isPaddedDigits t then none else number? t with
        | some x => .ok (.floating x)
        | none => .ok (.string t)

/-- The value of a scalar under a tag that tells its kind. -/
def resolveTagged (tag : Tag) (t : Text) (isPlain : Bool) : Except Error Value :=
  match tag with
  | .boolean => (boolean? t).elim (.error .scalarKind) fun b => .ok (.boolean b)
  | .integer =>
    match whole t with
    | .number n => .ok (.integer n)
    | .tooLarge => .error .numberRange
    | .no => .error .scalarKind
  | .number => (number? t).elim (.error .scalarKind) fun x => .ok (.floating x)
  | .null => if isNull t then .ok .null else .error .scalarKind
  | .other => .ok (.string t)
  | .named name => do
    return .tagged name (← if isPlain then resolve t else .ok (.string t))
  | .absent => if isPlain then resolve t else .ok (.string t)

end Scalar

namespace Document

/-- A value under a tag, if the tag is a name. -/
def tagged (tag : Tag) (v : Value) : Value :=
  match tag with
  | .named name => .tagged name v
  | _ => v

/-- Follows an alias, which counts as one of the jumps that a document allows. The state is the
number of jumps so far. -/
def follow (d : Document) (n : Node) : StateT Nat (Except Error) Node := do
  match n with
  | .aliasOf anchor =>
    let jumps := (← get) + 1
    set jumps
    if 100 * d.parts < jumps then throw .repetition
    match d.node? anchor with
    | some n => return n
    | none => throw .unknownAlias
  | n => return n

/-- The value of a node that is no deeper than a number of collections within each other. -/
def valueOf (d : Document) : Nat → Node → StateT Nat (Except Error) Value
  | depth, n => do
    match ← d.follow n, depth with
    | .scalar tag text isPlain, _ => Scalar.resolveTagged tag text isPlain
    | .sequence tag items, depth + 1 =>
      return tagged tag (.sequence (← items.mapM (d.valueOf depth)))
    | .mapping tag entries, depth + 1 =>
      let entries ← entries.foldlM (fun done (key, value) => do
        let key ← d.valueOf depth key
        if done.any fun (k, _) => k.same key then throw Error.duplicateKey
        return (key, ← d.valueOf depth value) :: done) []
      return tagged tag (.mapping entries.reverse)
    | _, _ => throw .nesting

/-- How many collections may stand within each other. -/
def depthLimit : Nat := 128

/-- The value of a document. -/
def value (d : Document) : Except Error Value :=
  (d.valueOf depthLimit d.root).run' 0

/-- The items of a document that is a sequence; one without a value has none. -/
def items (d : Document) : Except Error (List Value) :=
  match d.root with
  | .sequence _ items => (items.mapM (d.valueOf (depthLimit - 1))).run' 0
  | .scalar _ [] true => .ok []
  | _ => .error .notSequence

end Document

/-- Reads the value of a text. -/
def Value.read (t : Text) : Except Error Value := do
  (← Document.read t).value

/-- Reads a text as a sequence of values. -/
def Value.readItems (t : Text) : Except Error (List Value) := do
  (← Document.read t).items

end PathRouting.Yaml
