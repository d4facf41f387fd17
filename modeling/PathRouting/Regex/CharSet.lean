import PathRouting.Unicode.CaseFolding
import PathRouting.Unicode.CodeSet
import PathRouting.Unicode.Property

/-!
# Sets of characters

A set of characters is kept as it was written: ranges and tables joined by the operations of a
bracketed class. Membership is read off that form, so each operation is a law of membership and no
set is ever computed.
-/

namespace PathRouting.Regex

/-- A set of characters. -/
inductive CharSet where
  /-- No character. -/
  | none
  /-- The characters from `first` to `last`. -/
  | range (first last : Char)
  /-- The characters of a table. -/
  | table (codes : Unicode.CodeSet)
  /-- The characters of either set. -/
  | union (a b : CharSet)
  /-- The characters of both sets. -/
  | inter (a b : CharSet)
  /-- The characters of the first set that are not in the second. -/
  | diff (a b : CharSet)
  /-- The characters of exactly one of the sets. -/
  | symmDiff (a b : CharSet)
  /-- The characters that are not in the set. -/
  | compl (a : CharSet)
  /-- The characters with a case variant in the set. -/
  | ignoreCase (a : CharSet)
  /-- The characters that are in the set when the case of ASCII letters is disregarded. -/
  | ignoreAsciiCase (a : CharSet)
deriving DecidableEq

/-- The other case of an ASCII letter; every other character stays as it is. -/
def swapAsciiCase (c : Char) : Char :=
  if 'a' ≤ c ∧ c ≤ 'z' then Char.ofNat (c.toNat - 32)
  else if 'A' ≤ c ∧ c ≤ 'Z' then Char.ofNat (c.toNat + 32)
  else c

namespace CharSet

/-- Whether a character is in the set. -/
def contains : CharSet → Char → Bool
  | none, _ => false
  | range first last, c => first ≤ c && c ≤ last
  | table codes, c => codes.contains c.toNat
  | union a b, c => a.contains c || b.contains c
  | inter a b, c => a.contains c && b.contains c
  | diff a b, c => a.contains c && !b.contains c
  | symmDiff a b, c => a.contains c != b.contains c
  | compl a, c => !a.contains c
  | ignoreCase a, c => (Unicode.caseVariants c).any a.contains
  | ignoreAsciiCase a, c => a.contains c || a.contains (swapAsciiCase c)

/-- The set of one character. -/
def single (c : Char) : CharSet :=
  range c c

/-- The characters of any of the sets. -/
def unions (sets : List CharSet) : CharSet :=
  sets.foldr union none

/-- Every character. -/
def any : CharSet :=
  compl none

/-- The set itself, or its complement. -/
def negatedIf (negated : Bool) (s : CharSet) : CharSet :=
  if negated then compl s else s

end CharSet

/-- The characters that count as blank: the white space of Unicode. -/
def whiteSpace : Unicode.CodeSet :=
  Unicode.NamedSet.get Unicode.properties "White_Space"

/-- Whether a character is white space. -/
def isSpace (c : Char) : Bool :=
  whiteSpace.contains c.toNat

end PathRouting.Regex
