import PathRouting.Regex.Bracket

/-!
# Reading expressions

An expression is read from left to right. What has been read of the innermost open group is a
level: the branches that are finished and the pieces of the branch that is not. Opening a group
lays the level aside and closing it makes one piece of the group. Flags are applied where they
stand, so the expression that results has none.

The text of an expression has a height: a piece counts one level more than what it is made of if it
is a group, a repetition, a bracketed class, or a row of two or more pieces or branches. Texts
higher than `nestingLimit` are refused.
-/

namespace PathRouting.Regex

/-- The greatest height of an expression. -/
def nestingLimit : Nat := 250

/-- The greatest count that a repetition can have. -/
def countLimit : Nat := Nat.pow 2 32 - 1

/-- A part of a branch. -/
structure Piece where
  /-- What the part matches. -/
  expr : Expr
  /-- The height of its text. -/
  height : Nat
  /-- Whether the part may be repeated; a list of flags may not. -/
  repeatable : Bool

/-- What has been read of an open group, or of the whole expression. -/
structure Level where
  /-- The finished branches, last one first. -/
  branches : List (Expr × Nat)
  /-- The pieces of the current branch, last one first. -/
  pieces : List Piece

namespace Level

/-- The level of a group of which nothing has been read. -/
def start : Level :=
  ⟨[], []⟩

/-- A level with one more piece. -/
def add (l : Level) (p : Piece) : Level :=
  { l with pieces := p :: l.pieces }

/-- The current branch, with its height. -/
def branch (l : Level) : Expr × Nat :=
  match l.pieces with
  | [] => (.empty, 0)
  | [p] => (p.expr, p.height)
  | pieces =>
    (.concat (pieces.reverse.map (·.expr)), (pieces.map (·.height)).foldl Nat.max 0 + 1)

/-- The level after a bar. -/
def nextBranch (l : Level) : Level :=
  ⟨l.branch :: l.branches, []⟩

/-- All that has been read of a group, with its height. -/
def whole (l : Level) : Expr × Nat :=
  match l.branches with
  | [] => l.branch
  | branches =>
    let all := (l.branch :: branches).reverse
    (.oneOf (all.map (·.1)), (all.map (·.2)).foldl Nat.max 0 + 1)

end Level

/-- What is laid aside while a group is read. -/
structure Frame where
  /-- The level outside the group. -/
  level : Level
  /-- The flags outside the group. -/
  flags : Flags
  /-- The number under which the group remembers where it matched, if it does. -/
  index : Option Nat

/-- How far an expression has been read. -/
structure Reading where
  /-- The flags in force. -/
  flags : Flags
  /-- The innermost open group. -/
  level : Level
  /-- The groups around it, innermost first. -/
  outer : List Frame
  /-- The named groups so far, last one first. -/
  names : List (Text × Nat)
  /-- The number of the next group that remembers where it matched. -/
  nextIndex : Nat

namespace Reading

/-- The state before anything has been read. -/
def start (f : Flags) : Reading :=
  ⟨f, .start, [], [], 1⟩

/-- Adds a piece that can be repeated. -/
def add (r : Reading) (e : Expr) (height : Nat) : Except Error Reading :=
  if nestingLimit < height then .error .nesting
  else .ok { r with level := r.level.add ⟨e, height, true⟩ }

/-- Adds a piece of height zero. -/
def addFlat (r : Reading) (e : Expr) : Reading :=
  { r with level := r.level.add ⟨e, 0, true⟩ }

/-- Adds what an escape sequence stands for. -/
def addPrimitive (r : Reading) (p : Primitive) : Except Error Reading :=
  match p with
  | .char c isByte => do
    let c ← r.flags.literal c isByte
    return r.addFlat (.set (r.flags.close (.single c)))
  | .set s => .ok (r.addFlat (.set s))
  | .look l => .ok (r.addFlat (.look l))

/-- Opens a group. -/
def openGroup (r : Reading) (flags : Flags) (index : Option Nat) : Reading :=
  { r with flags := flags, level := .start, outer := ⟨r.level, r.flags, index⟩ :: r.outer }

/-- Opens a group that remembers where it matched. -/
def openCapture (r : Reading) (name : Option Text) : Except Error Reading :=
  let r' := { r.openGroup r.flags (some r.nextIndex) with nextIndex := r.nextIndex + 1 }
  match name with
  | none => .ok r'
  | some name =>
    if r.names.any (·.1 == name) then .error .groupNameRepeated
    else .ok { r' with names := (name, r.nextIndex) :: r.names }

/-- Closes the innermost group. -/
def closeGroup (r : Reading) : Except Error Reading :=
  match r.outer with
  | [] => .error .groupUnopened
  | frame :: outer =>
    let (e, height) := r.level.whole
    let e := match frame.index with
      | some index => .group index e
      | none => e
    { r with flags := frame.flags, level := frame.level, outer := outer }.add e (height + 1)

/-- Repeats the last piece. -/
def repeatLast (r : Reading) (min : Nat) (max : Option Nat) (greedy : Bool) :
    Except Error Reading :=
  match r.level.pieces with
  | [] => .error .repetitionMissing
  | p :: pieces =>
    if !p.repeatable then .error .repetitionMissing
    else
      { r with level := { r.level with pieces := pieces } }.add
        (.repeated min max (greedy != r.flags.swapGreed) p.expr) (p.height + 1)

end Reading

/-- Whether a character may stand in the name of a group. -/
def isNameChar (first : Bool) (c : Char) : Bool :=
  if first then c == '_' || isAlphabetic c
  else c == '_' || c == '.' || c == '[' || c == ']' || isAlphanumeric c

/-- Reads the name of a group up to its angle bracket. -/
def groupName (t : Text) : Except Error (Text × Text) :=
  match t.takeWhile (· != '>'), t.dropWhile (· != '>') with
  | c :: name, _ :: left =>
    if isNameChar true c && name.all (isNameChar false) then .ok (c :: name, left)
    else .error .groupName
  | _, _ => .error .groupName

/-- Reads a list of flags, and the colon that opens a group or the parenthesis behind the list. -/
def flagList (r : Reading) (t : Text) : Except Error (Reading × Text) :=
  let isEnd (c : Char) := c == ':' || c == ')'
  let letters := t.takeWhile (!isEnd ·)
  match t.dropWhile (!isEnd ·) with
  | [] => .error .groupUnclosed
  | c :: left =>
    match r.flags.adjusted? letters with
    | none => .error .flags
    | some flags =>
      if c = ':' then .ok (r.openGroup flags none, left)
      else if letters.isEmpty then .error .repetitionMissing
      else .ok ({ r with flags := flags, level := r.level.add ⟨.empty, 0, false⟩ }, left)

/-- Reads a group, or a list of flags, from behind its parenthesis. -/
def groupStart (r : Reading) (t : Text) : Except Error (Reading × Text) :=
  match skipBlanks r.flags.verbose t with
  | '?' :: '=' :: _ => .error .lookAround
  | '?' :: '!' :: _ => .error .lookAround
  | '?' :: '<' :: '=' :: _ => .error .lookAround
  | '?' :: '<' :: '!' :: _ => .error .lookAround
  | '?' :: 'P' :: '<' :: rest => do
    let (name, left) ← groupName rest
    return (← r.openCapture (some name), left)
  | '?' :: '<' :: rest => do
    let (name, left) ← groupName rest
    return (← r.openCapture (some name), left)
  | '?' :: rest => flagList r rest
  | t => do return (← r.openCapture none, t)

/-- Reads a decimal number with blanks around it. -/
def decimal (verbose : Bool) (t : Text) : Option Nat × Text :=
  let (digits, left) := collect verbose Text.isDigit (t.dropWhile isSpace)
  let value := Text.ofDigits 10 (digits.map fun c => c.toNat - '0'.toNat)
  (if digits.isEmpty then none else some value, left.dropWhile isSpace)

/-- Reads the counts of a repetition from behind its brace: the least and the greatest count. -/
def counts (verbose : Bool) (t : Text) : Except Error ((Nat × Option Nat) × Text) :=
  let (least, left) := decimal verbose (skipBlanks verbose t)
  match least with
  | none => .error .repetitionCount
  | some min =>
    match left with
    | '\x7d' :: left => .ok ((min, some min), left)
    | ',' :: left =>
      match skipBlanks verbose left with
      | '\x7d' :: left => .ok ((min, none), left)
      | left =>
        match decimal verbose left with
        | (some max, '\x7d' :: left) => .ok ((min, some max), left)
        | _ => .error .repetitionCount
    | _ => .error .repetitionCount

/-- Repeats the last piece; a question mark right behind the sign or the counts makes the repetition
lazy. -/
def signRepetition (r : Reading) (min : Nat) (max : Option Nat) (t : Text) :
    Except Error (Reading × Text) := do
  match t with
  | '?' :: left => return (← r.repeatLast min max false, left)
  | left => return (← r.repeatLast min max true, left)

/-- Reads a repetition with counts from behind its brace. -/
def countedRepetition (r : Reading) (t : Text) : Except Error (Reading × Text) := do
  let ((min, max), left) ← counts r.flags.verbose t
  if countLimit < min || max.any (fun max => countLimit < max || max < min) then
    .error .repetitionCount
  else signRepetition r min max (skipBlanks r.flags.verbose left)

/-- What the dot matches. -/
def dot (f : Flags) : Except Error Expr :=
  if !f.unicode then .error .partialCharacter
  else if f.dotAll then .ok (.set .any)
  else if f.crlf then .ok (.set (.compl (.union (.single '\r') (.single '\n'))))
  else .ok (.set (.compl (.single '\n')))

/-- What `^` asks for. -/
def startLook (f : Flags) : Look :=
  if !f.multiLine then .textStart else if f.crlf then .crlfStart else .lineStart

/-- What `$` asks for. -/
def endLook (f : Flags) : Look :=
  if !f.multiLine then .textEnd else if f.crlf then .crlfEnd else .lineEnd

/-- Reads the part of an expression that starts with a given character. -/
def readPart (r : Reading) (c : Char) (rest : Text) : Except Error (Reading × Text) :=
  match c with
  | '(' => groupStart r rest
  | ')' => do return (← r.closeGroup, rest)
  | '|' => .ok ({ r with level := r.level.nextBranch }, rest)
  | '[' => do
    let (nested, left) ← bracketedClass r.flags rest
    return (← r.add (.set nested.set) nested.height, left)
  | '?' => signRepetition r 0 (some 1) rest
  | '*' => signRepetition r 0 none rest
  | '+' => signRepetition r 1 none rest
  | '\x7b' => countedRepetition r rest
  | '\\' => do
    let (p, left) ← primitive r.flags rest
    return (← r.addPrimitive p, left)
  | '.' => do return (r.addFlat (← dot r.flags), rest)
  | '^' => .ok (r.addFlat (.look (startLook r.flags)), rest)
  | '$' => .ok (r.addFlat (.look (endLook r.flags)), rest)
  | c => .ok (r.addFlat (.set (r.flags.close (.single c))), rest)

/-- Reads an expression to its end; the amount of fuel is more than the number of parts, as each
part takes some of the text. -/
def readParts : Nat → Reading → Text → Except Error Reading
  | 0, _, _ => .error .nesting
  | fuel + 1, r, t =>
    match skipBlanks r.flags.verbose t with
    | [] => .ok r
    | c :: rest => do
      let (r, left) ← readPart r c rest
      readParts fuel r left

/-- An expression as it was read from a text. -/
structure Parsed where
  /-- What the text matches. -/
  expr : Expr
  /-- The named groups with their numbers. -/
  names : List (Text × Nat)

/-- Reads the text of an expression. -/
def parse (f : Flags) (t : Text) : Except Error Parsed := do
  let r ← readParts (t.length + 1) (.start f) t
  match r.outer with
  | _ :: _ => .error .groupUnclosed
  | [] =>
    let (e, height) := r.level.whole
    if nestingLimit < height then .error .nesting else return ⟨e, r.names.reverse⟩

end PathRouting.Regex
