import PathRouting.Text.Basic

/-!
# Literal text inside an expression

Escaping puts a backslash before every character that the expression language gives a meaning, and
unescaping drops the backslashes again.
-/

namespace PathRouting.Regex

/-- Whether a character has a meaning of its own in expressions. -/
def isMeta (c : Char) : Bool :=
  c ∈ ['\\', '.', '+', '*', '?', '(', ')', '|', '[', ']', '\x7b', '\x7d', '^', '$', '#', '&', '-',
    '~']

/-- The expression that matches a text literally. -/
def escape : Text → Text
  | [] => []
  | c :: rest => if isMeta c then '\\' :: c :: escape rest else c :: escape rest

/-- A text without its backslashes, each of which hands on the character behind it unread; a
backslash at the very end is dropped. -/
def unescape : Text → Text
  | [] => []
  | ['\\'] => []
  | '\\' :: c :: rest => c :: unescape rest
  | c :: rest => c :: unescape rest

end PathRouting.Regex
