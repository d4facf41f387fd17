import PathRouting.Text.Basic
import PathRouting.Unicode.Category
import PathRouting.Unicode.Property

/-!
# Quoted text

A text in double quotes on one line, in which every character can be seen: quotes, backslashes and
four controls are written with a backslash, and whatever has no shape of its own is written as its
code point.
-/

namespace PathRouting.Quoted

open Unicode (NamedSet)

/-- The categories of characters that are never shown, the blank apart. -/
def hiddenCategories : List String :=
  ["Cc", "Cf", "Co", "Zl", "Zp", "Zs"]

/-- The hidden categories as sets. -/
def hiddenSets : List Unicode.CodeSet :=
  hiddenCategories.map (NamedSet.get Unicode.categories)

/-- The characters that have a category. -/
def assignedSets : List Unicode.CodeSet :=
  Unicode.categories.map fun entry => Unicode.CodeSet.read entry.text

/-- The characters that attach to the one before them. -/
def attachingSet : Unicode.CodeSet :=
  NamedSet.get Unicode.properties "Grapheme_Extend"

/-- Whether a character is shown as it is. Those of ASCII from the blank to the tilde are. -/
def isShown (c : Char) : Bool :=
  let n := c.toNat
  if n < 0x80 then 0x20 ≤ n && n < 0x7F
  else assignedSets.any (·.contains n)
    && !hiddenSets.any (·.contains n)
    && !attachingSet.contains n

/-- A character as its code point in braces. -/
def codePoint (c : Char) : Text :=
  '\\' :: 'u' :: '\x7b' :: Nat.toDigits 16 c.toNat ++ ['\x7d']

/-- A character within quotes. -/
def encodeChar (c : Char) : Text :=
  if c = '\x00' then ['\\', '0']
  else if c = '\t' then ['\\', 't']
  else if c = '\r' then ['\\', 'r']
  else if c = '\n' then ['\\', 'n']
  else if c = '\\' ∨ c = '"' then ['\\', c]
  else if isShown c then [c]
  else codePoint c

/-- A text in quotes. -/
def encode (t : Text) : Text :=
  '"' :: t.flatMap encodeChar ++ ['"']

end PathRouting.Quoted
