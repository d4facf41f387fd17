/-!
# Sets of code points

A set of code points is a list of strides, in ascending order and without overlap. The tables of
the character database are written as texts and read once: `41-5A` is a run of code points and
`100-12E/2` is every second one of a run, all numbers being hexadecimal.
-/

namespace PathRouting.Unicode

/-- The code points `first`, `first + step`, `first + 2 * step` and so on up to `last`. -/
structure Stride where
  /-- The least code point. -/
  first : Nat
  /-- The bound that no code point exceeds. -/
  last : Nat
  /-- The distance of two neighbours. -/
  step : Nat
deriving DecidableEq, Repr

/-- Whether `n` is one of the code points of a stride. -/
def Stride.contains (s : Stride) (n : Nat) : Bool :=
  s.first ≤ n && n ≤ s.last && (n - s.first) % s.step == 0

/-- A set of code points, as strides in ascending order. -/
abbrev CodeSet := List Stride

namespace CodeSet

/-- Whether `n` is in the set; the search stops at the first stride that starts above `n`. -/
def contains : CodeSet → Nat → Bool
  | [], _ => false
  | s :: rest, n => if n < s.first then false else s.contains n || contains rest n

/-- The value of a hexadecimal digit; any other character counts as zero. -/
def hexDigit (c : Char) : Nat :=
  if '0' ≤ c ∧ c ≤ '9' then c.toNat - '0'.toNat
  else if 'A' ≤ c ∧ c ≤ 'F' then c.toNat - 'A'.toNat + 10
  else 0

/-- One to three numbers as a stride: a single point, a run, or a run with a step. -/
def strideOf : List Nat → CodeSet
  | [a] => [⟨a, a, 1⟩]
  | [b, a] => [⟨a, b, 1⟩]
  | [s, b, a] => [⟨a, b, s⟩]
  | _ => []

/-- Reads the strides of a text, with the numbers of the current stride before it, last first. -/
def readFrom : List Nat → List Char → CodeSet
  | seen, [] => strideOf seen
  | seen, c :: rest =>
    if c = ' ' ∨ c = '\n' then strideOf seen ++ readFrom [] rest
    else if c = '-' ∨ c = '/' then readFrom (0 :: seen) rest
    else match seen with
      | [] => readFrom [hexDigit c] rest
      | n :: seen => readFrom ((n * 16 + hexDigit c) :: seen) rest

/-- Reads a set from its text. -/
def read (text : String) : CodeSet :=
  readFrom [] text.toList

end CodeSet

/-- A set of a table with the names that it goes by. -/
structure NamedSet where
  /-- The short name, the long name and any further ones. -/
  names : List String
  /-- The strides of the set, as a text. -/
  text : String

/-- A name without case, spaces, hyphens, underscores and anything outside ASCII, which is how
names of properties and of their values are compared. -/
def bareName (name : List Char) : List Char :=
  (name.filter fun c => c.toNat < 128 && c != ' ' && c != '_' && c != '-').map Char.toLower

/-- The set of a table that has the given bare name. -/
def NamedSet.find? (table : List NamedSet) (bare : List Char) : Option CodeSet :=
  (table.find? fun entry => entry.names.any fun name => bareName name.toList == bare).map
    fun entry => CodeSet.read entry.text

/-- The set of a table under a name that the table is known to have. -/
def NamedSet.get (table : List NamedSet) (name : String) : CodeSet :=
  (NamedSet.find? table (bareName name.toList)).getD []

end PathRouting.Unicode
