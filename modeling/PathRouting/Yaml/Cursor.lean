import PathRouting.Text.Basic
import PathRouting.Yaml.Error

/-!
# Reading characters of a stream

All forms of line ends but two count as a line feed, so every character stands for itself once the
stream has been prepared. A cursor is a place in a prepared stream, with what is still to come.
-/

namespace PathRouting.Yaml

/-- Whether a character may occur in a stream. -/
def isAllowed (c : Char) : Bool :=
  let n := c.toNat
  n == 0x09 || n == 0x0A || n == 0x0D || (0x20 ≤ n && n ≤ 0x7E) || n == 0x85
    || (0xA0 ≤ n && n ≤ 0xFFFD) || 0x10000 ≤ n

/-- Whether a character ends a line. -/
def isBreak (c : Char) : Bool :=
  c == '\n' || c == '\u2028' || c == '\u2029'

/-- Whether a character is a blank within a line. -/
def isBlank (c : Char) : Bool :=
  c == ' ' || c == '\t'

/-- Whether a character is white space. -/
def isSpace (c : Char) : Bool :=
  isBlank c || isBreak c

/-- Whether a character can be in the name of an anchor, a handle or a directive. -/
def isNameChar (c : Char) : Bool :=
  Text.isLetter c || Text.isDigit c || c == '_' || c == '-'

/-- The mark that may start a stream or a line of it. -/
def byteOrderMark : Char := '\ufeff'

/-- A text with line feeds in place of carriage returns, pairs of both and next-line controls. -/
def unifyBreaks : Text → Text
  | [] => []
  | '\r' :: '\n' :: rest => '\n' :: unifyBreaks rest
  | c :: rest => (if c = '\r' ∨ c = '\u0085' then '\n' else c) :: unifyBreaks rest

/-- Prepares a stream. -/
def prepare (t : Text) : Except Error Text :=
  if t.all isAllowed then
    match t with
    | [] => .ok []
    | c :: rest => .ok (unifyBreaks (if c = byteOrderMark then rest else c :: rest))
  else .error .character

/-- A place in a stream. -/
structure Cursor where
  /-- The characters that are still to come. -/
  rest : Text
  /-- The number of characters before. -/
  index : Nat := 0
  /-- The number of lines before. -/
  line : Nat := 0
  /-- The number of characters before in the same line. -/
  column : Nat := 0

namespace Cursor

/-- The place behind a character, with the characters behind that. -/
def past (c : Cursor) (char : Char) (rest : Text) : Cursor :=
  if isBreak char then ⟨rest, c.index + 1, c.line + 1, 0⟩
  else ⟨rest, c.index + 1, c.line, c.column + 1⟩

/-- The place behind the next character. -/
def next (c : Cursor) : Cursor :=
  match c.rest with
  | [] => c
  | char :: rest => c.past char rest

/-- The place behind the next `n` characters. -/
def skip (c : Cursor) : Nat → Cursor
  | 0 => c
  | n + 1 => c.next.skip n

/-- The characters up to the first one without a property, and the place before that one. -/
def span (c : Cursor) (p : Char → Bool) : Text × Cursor :=
  let taken := c.rest.takeWhile p
  (taken, c.skip taken.length)

/-- The place before the first character without a property. -/
def skipWhile (c : Cursor) (p : Char → Bool) : Cursor :=
  (c.span p).2

/-- The next character. -/
def head? (c : Cursor) : Option Char :=
  c.rest.head?

/-- Whether a given character is next. -/
def isAt (c : Cursor) (char : Char) : Bool :=
  c.head? == some char

/-- Whether the stream, the line or a word ends here. -/
def isEnd (t : Text) : Bool :=
  t.head?.all isSpace

/-- Whether a line or the stream ends here. -/
def isLineEnd (c : Cursor) : Bool :=
  c.head?.all isBreak

/-- Whether three given characters start a line here and nothing follows them in their word. -/
def isMarker (c : Cursor) (char : Char) : Bool :=
  match c.rest with
  | x :: y :: z :: rest => c.column == 0 && x == char && y == char && z == char && isEnd rest
  | _ => false

/-- Whether the start or the end of a document is marked here. -/
def isDocumentMarker (c : Cursor) : Bool :=
  c.isMarker '-' || c.isMarker '.'

/-- The place behind a comment, if there is one here. -/
def skipComment (c : Cursor) : Cursor :=
  if c.isAt '#' then c.skipWhile (!isBreak ·) else c

/-- The place behind the rest of a line that holds blanks and a comment only. -/
def endLine? (c : Cursor) : Option Cursor :=
  let c := (c.skipWhile isBlank).skipComment
  if c.isLineEnd then some c.next else none

end Cursor

end PathRouting.Yaml
