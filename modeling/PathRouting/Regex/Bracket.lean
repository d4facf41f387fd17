import PathRouting.Regex.Primitive

/-!
# Bracketed classes

A bracketed class lists characters, ranges, escapes and further classes. The operators `&&`, `--`
and `~~` join what stands on their sides, from left to right. How deeply classes are nested is
counted while they are read, as it counts towards the nesting of the whole expression.
-/

namespace PathRouting.Regex

/-- A set of characters with the depth of the class that it was written as. -/
structure Nested where
  /-- The characters. -/
  set : CharSet
  /-- How deeply the text of the set is nested. -/
  height : Nat

/-- An operator of bracketed classes. -/
inductive SetOp where
  /-- The characters of both sides. -/
  | inter
  /-- The characters of the left side alone. -/
  | diff
  /-- The characters of exactly one side. -/
  | symmDiff

/-- Joins two sets by an operator. -/
def SetOp.join : SetOp → CharSet → CharSet → CharSet
  | inter => .inter
  | diff => .diff
  | symmDiff => .symmDiff

/-- What has been read of one open bracket. -/
structure Bracket where
  /-- Whether the class holds what it does not list. -/
  negated : Bool
  /-- The left side of an operator whose right side is being read. -/
  pending : Option (SetOp × Nested)
  /-- What has been listed since the bracket or the last operator, last item first. -/
  items : List Nested

namespace Bracket

/-- A bracket with one more item. -/
def add (b : Bracket) (item : Nested) : Bracket :=
  { b with items := item :: b.items }

/-- The items since the bracket or the last operator as one set; two or more of them count as one
more level. -/
def listed (b : Bracket) : Nested :=
  match b.items with
  | [] => ⟨.none, 0⟩
  | [item] => item
  | items => ⟨.unions (items.reverse.map (·.set)), (items.map (·.height)).foldl Nat.max 0 + 1⟩

/-- All that has been read since the bracket. Both sides of an operator are closed under case
variants before they are joined. -/
def total (f : Flags) (b : Bracket) : Nested :=
  match b.pending with
  | none => b.listed
  | some (op, left) =>
    let right := b.listed
    ⟨op.join (f.close left.set) (f.close right.set), Nat.max left.height right.height + 1⟩

/-- The bracket after an operator has been read. -/
def operator (f : Flags) (b : Bracket) (op : SetOp) : Bracket :=
  { b with pending := some (op, b.total f), items := [] }

end Bracket

/-- The ranges of a named class of ASCII. -/
def asciiClassNamed? (name : String) : Option CharSet :=
  match name with
  | "alnum" => some (.unions [.range '0' '9', .range 'A' 'Z', .range 'a' 'z'])
  | "alpha" => some (.union (.range 'A' 'Z') (.range 'a' 'z'))
  | "ascii" => some (.range '\x00' '\x7f')
  | "blank" => some (.union (.single '\t') (.single ' '))
  | "cntrl" => some (.union (.range '\x00' '\x1f') (.single '\x7f'))
  | "digit" => some asciiDigits
  | "graph" => some (.range '!' '~')
  | "lower" => some (.range 'a' 'z')
  | "print" => some (.range ' ' '~')
  | "punct" =>
    some (.unions [.range '!' '/', .range ':' '@', .range '[' '\x60', .range '\x7b' '~'])
  | "space" => some asciiSpace
  | "upper" => some (.range 'A' 'Z')
  | "word" => some asciiWord
  | "xdigit" => some (.unions [.range '0' '9', .range 'A' 'F', .range 'a' 'f'])
  | _ => none

/-- Reads the name of a class up to `:]`, if there is one: the set and what follows. -/
def asciiClassFrom? (negated : Bool) (t : Text) : Option ((Bool × CharSet) × Text) :=
  match t.dropWhile (· != ':') with
  | ':' :: ']' :: left =>
    (asciiClassNamed? (String.ofList (t.takeWhile (· != ':')))).map fun set =>
      ((negated, set), left)
  | _ => none

/-- Reads a named class such as `[:^alpha:]` from behind its bracket, if there is one: whether it
is negated, its set and what follows. -/
def asciiClass? (t : Text) : Option ((Bool × CharSet) × Text) :=
  match t with
  | ':' :: '^' :: rest => asciiClassFrom? true rest
  | ':' :: rest => asciiClassFrom? false rest
  | _ => none

/-- Reads one character or escape sequence of a class. -/
def classMember (f : Flags) (t : Text) : Except Error (Primitive × Text) :=
  match t with
  | [] => .error .classUnclosed
  | '\\' :: rest => primitive f rest
  | c :: rest => .ok (.char c false, rest)

/-- The one character of a member. Without the Unicode flag it is one of ASCII. -/
def Primitive.char? (f : Flags) : Primitive → Except Error Char
  | .char c isByte => do
    let c ← f.literal c isByte
    if !f.unicode && 128 ≤ c.toNat then .error .unicodeNeeded else .ok c
  | _ => .error .classRange

/-- The characters of a member. -/
def Primitive.set? (f : Flags) : Primitive → Except Error CharSet
  | .set s => .ok s
  | .look _ => .error .classEscape
  | p => (p.char? f).map .single

/-- Reads what makes a range of its first member, if anything does. A hyphen before a closing bracket
or before another hyphen makes no range. -/
def rangeFrom (f : Flags) (first : Primitive) (t : Text) : Except Error (CharSet × Text) :=
  match t with
  | '-' :: rest =>
    let next := peekPastBlanks f.verbose rest
    if next == some ']' || next == some '-' then do return (← first.set? f, '-' :: rest)
    else do
      let (last, left) ← classMember f (skipBlanks f.verbose rest)
      let low ← first.char? f
      let high ← last.char? f
      if high < low then .error .classRange else return (.range low high, left)
  | left => do return (← first.set? f, left)

/-- Reads a member or a range of members. -/
def classItem (f : Flags) (t : Text) : Except Error (CharSet × Text) := do
  let (first, left) ← classMember f t
  rangeFrom f first (skipBlanks f.verbose left)

/-- Reads hyphens or one closing bracket that stand for themselves at the start of a class. -/
def firstItems (verbose negated : Bool) (t : Text) : Bracket × Text :=
  match collect verbose (· == '-') t with
  | ([], ']' :: rest) => (⟨negated, none, [⟨.single ']', 0⟩]⟩, skipBlanks verbose rest)
  | (hyphens, t) => (⟨negated, none, hyphens.map fun c => ⟨.single c, 0⟩⟩, t)

/-- Reads the start of a class from behind its bracket: the sign of negation and the first items. -/
def openBracket (verbose : Bool) (t : Text) : Bracket × Text :=
  match skipBlanks verbose t with
  | '^' :: rest => firstItems verbose true (skipBlanks verbose rest)
  | t => firstItems verbose false t

/-- What reading a part of a class leads to. -/
inductive ClassStep where
  /-- The outermost class is closed. -/
  | done (n : Nested)
  /-- Reading goes on inside of the innermost open bracket, those around it being given. -/
  | more (outer : List Bracket) (b : Bracket)

/-- Reads the next part of a class: an item, an operator, or a bracket that opens or closes. -/
def classPart (f : Flags) (outer : List Bracket) (b : Bracket) (t : Text) :
    Except Error (ClassStep × Text) :=
  match t with
  | [] => .error .classUnclosed
  | '[' :: rest =>
    match asciiClass? rest with
    | some ((negated, set), left) => do
      return (.more outer (b.add ⟨← f.closeNegate negated set, 0⟩), left)
    | none =>
      let (inner, left) := openBracket f.verbose rest
      .ok (.more (b :: outer) inner, left)
  | ']' :: rest => do
    let inner := b.total f
    let closed : Nested := ⟨← f.closeNegate b.negated inner.set, inner.height + 1⟩
    match outer with
    | [] => return (.done closed, rest)
    | parent :: outer => return (.more outer (parent.add closed), rest)
  | '&' :: '&' :: rest => .ok (.more outer (b.operator f .inter), rest)
  | '-' :: '-' :: rest => .ok (.more outer (b.operator f .diff), rest)
  | '~' :: '~' :: rest => .ok (.more outer (b.operator f .symmDiff), rest)
  | t => do
    let (set, left) ← classItem f t
    return (.more outer (b.add ⟨set, 0⟩), left)

/-- Reads classes until the outermost of the open ones is closed; the amount of fuel bounds the
number of parts. -/
def classFrom (f : Flags) :
    Nat → List Bracket → Bracket → Text → Except Error (Nested × Text)
  | 0, _, _, _ => .error .classUnclosed
  | fuel + 1, outer, b, t => do
    match ← classPart f outer b (skipBlanks f.verbose t) with
    | (.done n, left) => return (n, left)
    | (.more outer b, left) => classFrom f fuel outer b left

/-- Reads a bracketed class from behind its bracket. -/
def bracketedClass (f : Flags) (t : Text) : Except Error (Nested × Text) :=
  let (b, left) := openBracket f.verbose t
  classFrom f (t.length + 1) [] b left

end PathRouting.Regex
