/-!
# Texts

A text is the list of its characters, so that what the library does to a text is a recursion on a
list. Positions in a text are counted in bytes of its UTF-8 form where they are reported.
-/

namespace PathRouting

/-- A text, as the list of its characters. -/
abbrev Text := List Char

namespace Text

/-- The number of bytes of the UTF-8 form of a text. -/
def utf8Length (t : Text) : Nat :=
  t.foldl (fun length c => length + c.utf8Size) 0

/-- A text without the leading occurrences of a character. -/
def trimStart (c : Char) (t : Text) : Text :=
  t.dropWhile (· == c)

/-- A text without the trailing occurrences of a character. -/
def trimEnd (c : Char) (t : Text) : Text :=
  (t.reverse.dropWhile (· == c)).reverse

/-- A text without the leading and trailing occurrences of a character. -/
def trim (c : Char) (t : Text) : Text :=
  trimEnd c (trimStart c t)

/-- What stands before and after the first occurrence of a character. -/
def splitFirst (c : Char) : Text → Option (Text × Text)
  | [] => none
  | d :: rest =>
    if d = c then some ([], rest)
    else (splitFirst c rest).map fun (before, after) => (d :: before, after)

/-- What stands before and after the last occurrence of a character. -/
def splitLast (c : Char) : Text → Option (Text × Text)
  | [] => none
  | d :: rest =>
    match splitLast c rest with
    | some (before, after) => some (d :: before, after)
    | none => if d = c then some ([], rest) else none

/-- The pieces of a text between the occurrences of a character, which are one more than those. -/
def splitAll (c : Char) : Text → List Text
  | [] => [[]]
  | d :: rest =>
    if d = c then [] :: splitAll c rest
    else match splitAll c rest with
      | [] => [[d]]
      | piece :: pieces => (d :: piece) :: pieces

/-- Whether a character is a decimal digit of ASCII. -/
def isDigit (c : Char) : Bool :=
  '0' ≤ c && c ≤ '9'

/-- Whether a character is a letter of ASCII. -/
def isLetter (c : Char) : Bool :=
  ('a' ≤ c && c ≤ 'z') || ('A' ≤ c && c ≤ 'Z')

/-- The value of a hexadecimal digit. -/
def hexValue? (c : Char) : Option Nat :=
  if '0' ≤ c ∧ c ≤ '9' then some (c.toNat - '0'.toNat)
  else if 'a' ≤ c ∧ c ≤ 'f' then some (c.toNat - 'a'.toNat + 10)
  else if 'A' ≤ c ∧ c ≤ 'F' then some (c.toNat - 'A'.toNat + 10)
  else none

/-- The value of a text of digits in a base, the digits being given with their values. -/
def ofDigits (base : Nat) (digits : List Nat) : Nat :=
  digits.foldl (fun value digit => value * base + digit) 0

/-- The character with a code point, if the code point is one of a character. -/
def charOfCode? (n : Nat) : Option Char :=
  if h : n.isValidChar then some (Char.ofNatAux n h) else none

end Text

end PathRouting
