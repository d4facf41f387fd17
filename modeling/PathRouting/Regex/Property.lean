import PathRouting.Regex.CharSet
import PathRouting.Text.Basic
import PathRouting.Unicode.Age
import PathRouting.Unicode.Category
import PathRouting.Unicode.Property
import PathRouting.Unicode.Script
import PathRouting.Unicode.ScriptExtension
import PathRouting.Unicode.Segmentation

/-!
# Character properties by name

A property class names a set of characters: a binary property, a general category or a script by
its name alone, any enumerated property by its name and a value. Names are compared without case,
spaces, hyphens and underscores, and a leading "is" is dropped.
-/

namespace PathRouting.Regex

open Unicode (NamedSet bareName)

/-- A name as it is compared, without a leading "is". The one name that would lose its meaning
with those letters is the short name of an unsupported property, and it stays whole. -/
def looseName (name : Text) : Text :=
  match name with
  | i :: s :: rest =>
    if (i == 'i' || i == 'I') && (s == 's' || s == 'S') then
      let bare := bareName rest
      if bare == ['c'] then ['i', 's', 'c'] else bare
    else bareName name
  | _ => bareName name

/-- The general categories that are unions of others, with their members. -/
def categoryGroups : List (List String × List String) := [
  (["L", "Letter"], ["Lu", "Ll", "Lt", "Lm", "Lo"]),
  (["LC", "Cased_Letter"], ["Lu", "Ll", "Lt"]),
  (["M", "Mark", "Combining_Mark"], ["Mn", "Mc", "Me"]),
  (["N", "Number"], ["Nd", "Nl", "No"]),
  (["P", "Punctuation", "Punct"], ["Pc", "Pd", "Ps", "Pe", "Pi", "Pf", "Po"]),
  (["S", "Symbol"], ["Sm", "Sc", "Sk", "So"]),
  (["Z", "Separator"], ["Zs", "Zl", "Zp"])]

/-- The characters of a general category given by its short name. -/
def category (name : String) : CharSet :=
  .table (NamedSet.get Unicode.categories name)

/-- The characters that have been assigned. -/
def assigned : CharSet :=
  .unions (Unicode.categories.map fun entry => .table (Unicode.CodeSet.read entry.text))

/-- The characters of a general category given by a bare name. -/
def categoryNamed? (bare : Text) : Option CharSet :=
  let among (names : List String) := names.any fun name => bareName name.toList == bare
  if among ["Any"] then some .any
  else if among ["Assigned"] then some assigned
  else if among ["ASCII"] then some (.range '\x00' '\x7f')
  else if among ["Cn", "Unassigned"] then some (.compl assigned)
  else if among ["C", "Other"] then
    some (.unions [category "Cc", category "Cf", category "Co", .compl assigned])
  else match categoryGroups.find? fun group => among group.1 with
    | some group => some (.unions (group.2.map category))
    | none => (NamedSet.find? Unicode.categories bare).map .table

/-- The characters of the property that a name alone stands for: a binary property, else a general
category, else a script. -/
def namedProperty? (name : Text) : Option CharSet :=
  let bare := looseName name
  (NamedSet.find? Unicode.properties bare).map .table
    <|> categoryNamed? bare
    <|> (NamedSet.find? Unicode.scripts bare).map .table

/-- The code points that had been assigned by the version with a bare name. -/
def assignedBy? (bare : Text) : Option CharSet :=
  let isVersion (entry : NamedSet) := entry.names.any fun name => bareName name.toList == bare
  let before := Unicode.ages.takeWhile fun entry => !isVersion entry
  (Unicode.ages.find? isVersion).map fun entry =>
    .unions ((before ++ [entry]).map fun e => .table (Unicode.CodeSet.read e.text))

/-- The characters for which a property has a value, both given by name. -/
def valuedProperty? (property value : Text) : Option CharSet :=
  let bare := looseName property
  let among (names : List String) := names.any fun name => bareName name.toList == bare
  let value := looseName value
  if among ["gc", "General_Category"] then categoryNamed? value
  else if among ["sc", "Script"] then (NamedSet.find? Unicode.scripts value).map .table
  else if among ["scx", "Script_Extensions"] then
    (NamedSet.find? Unicode.scriptExtensions value).map .table
  else if among ["age"] then assignedBy? value
  else if among ["GCB", "Grapheme_Cluster_Break"] then
    (NamedSet.find? Unicode.graphemeBreaks value).map .table
  else if among ["WB", "Word_Break"] then (NamedSet.find? Unicode.wordBreaks value).map .table
  else if among ["SB", "Sentence_Break"] then
    (NamedSet.find? Unicode.sentenceBreaks value).map .table
  else none

/-- The decimal digits. -/
def digitChars : CharSet :=
  category "Nd"

/-- White space. -/
def spaceChars : CharSet :=
  .table whiteSpace

/-- The characters of words: letters, marks, digits, connectors and joiners. -/
def wordChars : CharSet :=
  .unions ([.table (NamedSet.get Unicode.properties "Alphabetic")]
    ++ ["Mn", "Mc", "Me", "Nd", "Pc"].map category
    ++ [.table (NamedSet.get Unicode.properties "Join_Control")])

/-- The decimal digits of ASCII. -/
def asciiDigits : CharSet :=
  .range '0' '9'

/-- The white space of ASCII. -/
def asciiSpace : CharSet :=
  .union (.range '\x09' '\x0d') (.single ' ')

/-- The characters of words within ASCII. -/
def asciiWord : CharSet :=
  .unions [.range '0' '9', .range 'A' 'Z', .single '_', .range 'a' 'z']

/-- Whether a character is alphabetic. For the letters of ASCII no table is needed. -/
def isAlphabetic (c : Char) : Bool :=
  Text.isLetter c || (NamedSet.get Unicode.properties "Alphabetic").contains c.toNat

/-- Whether a character is alphabetic or a number. For the digits of ASCII no table is needed. -/
def isAlphanumeric (c : Char) : Bool :=
  Text.isDigit c || isAlphabetic c
    || (CharSet.unions (["Nd", "Nl", "No"].map category)).contains c

end PathRouting.Regex
