import PathRouting.Text.Utf8
import PathRouting.Yaml.Cursor

/-!
# Tags

A tag is written as a handle and a suffix; the handle stands for a prefix that a directive declares
or that is known without one. Tags of the language itself tell the kind of a scalar. A tag that
starts with an exclamation mark is a name that the author of the text made up.
-/

namespace PathRouting.Yaml

/-- Whether a character can be in a tag; more of them can between angle brackets. -/
def isTagChar (inBrackets : Bool) (c : Char) : Bool :=
  isNameChar c || ";/?:@&=+$.!~*'()".toList.contains c || (inBrackets && ",[]".toList.contains c)

/-- The number of bytes of a character that starts with a byte. -/
def utf8Width? (b : Nat) : Option Nat :=
  if b < 0x80 then some 1
  else if b < 0xC0 then none
  else if b < 0xE0 then some 2
  else if b < 0xF0 then some 3
  else if b < 0xF8 then some 4
  else none

/-- Reads on in a tag, with the number of bytes that the current character still needs. Bytes that
are written with a percent sign have to make up characters. -/
def tagBytes (inBrackets : Bool) (cursor : Cursor) (needed : Nat) :
    Text → Except Error (List UInt8 × Cursor)
  | '%' :: a :: b :: rest => do
    let high ← ((Text.hexValue? a).elim (.error .tag) .ok : Except Error Nat)
    let low ← ((Text.hexValue? b).elim (.error .tag) .ok : Except Error Nat)
    let byte := high * 16 + low
    let needed ←
      if needed = 0 then
        match utf8Width? byte with
        | some width => .ok (width - 1)
        | none => .error Error.tag
      else if byte / 64 = 2 then .ok (needed - 1)
      else .error Error.tag
    let (bytes, cursor) ← tagBytes inBrackets (cursor.skip 3) needed rest
    return (UInt8.ofNat byte :: bytes, cursor)
  | [] => if needed = 0 then .ok ([], cursor) else .error .tag
  | c :: rest =>
    if needed ≠ 0 ∨ c = '%' then .error .tag
    else if isTagChar inBrackets c then do
      let (bytes, cursor) ← tagBytes inBrackets cursor.next 0 rest
      return (String.utf8EncodeChar c ++ bytes, cursor)
    else .ok ([], cursor)

/-- Reads the characters of a tag. -/
def scanTagBytes (inBrackets : Bool) (cursor : Cursor) : Except Error (List UInt8 × Cursor) :=
  tagBytes inBrackets cursor 0 cursor.rest

/-- Reads a handle: an exclamation mark, a name, and an exclamation mark if there is one. -/
def scanHandle (cursor : Cursor) : Except Error (Text × Cursor) :=
  if cursor.isAt '!' then
    let (name, cursor) := cursor.next.span isNameChar
    if cursor.isAt '!' then .ok ('!' :: name ++ ['!'], cursor.next)
    else .ok ('!' :: name, cursor)
  else .error .tag

/-- A tag as it is written. -/
structure WrittenTag where
  /-- The handle, which is empty if the suffix is the whole tag. -/
  handle : Text
  /-- The bytes of the suffix. -/
  suffix : List UInt8
deriving DecidableEq

/-- Reads a tag within angle brackets. -/
def scanVerbatimTag (cursor : Cursor) : Except Error (WrittenTag × Cursor) := do
  let (suffix, cursor) ← scanTagBytes true (cursor.skip 2)
  if suffix.isEmpty ∨ !cursor.isAt '>' then .error .tag
  return (⟨[], suffix⟩, cursor.next)

/-- Reads a tag that starts with a handle. An exclamation mark alone is a tag of its own. -/
def scanShorthandTag (cursor : Cursor) : Except Error (WrittenTag × Cursor) := do
  let (handle, cursor) ← scanHandle cursor
  let (suffix, cursor) ← scanTagBytes false cursor
  if 2 ≤ handle.length ∧ handle.getLast? = some '!' then
    if suffix.isEmpty then .error .tag
    return (⟨handle, suffix⟩, cursor)
  else
    let suffix := Utf8.encode handle.tail ++ suffix
    if suffix.isEmpty then return (⟨[], Utf8.encode ['!']⟩, cursor)
    return (⟨['!'], suffix⟩, cursor)

/-- Reads a tag, which white space has to follow, or a comma in a flow collection. -/
def scanTag (inFlow : Bool) (cursor : Cursor) : Except Error (WrittenTag × Cursor) := do
  let (tag, cursor) ←
    if cursor.next.isAt '<' then scanVerbatimTag cursor else scanShorthandTag cursor
  if Cursor.isEnd cursor.rest ∨ (inFlow ∧ cursor.isAt ',') then return (tag, cursor)
  else .error .tag

/-- What a tag says about a node. -/
inductive Tag where
  /-- Nothing, or nothing that could be read. -/
  | absent
  /-- The node is tagged with a name. -/
  | named (name : Text)
  /-- The scalar is a truth value. -/
  | boolean
  /-- The scalar is a whole number. -/
  | integer
  /-- The scalar is a number. -/
  | number
  /-- The scalar is no value. -/
  | null
  /-- Anything else; a scalar with such a tag is a text. -/
  | other
deriving DecidableEq

namespace Tag

/-- The prefix of the tags of the language itself. -/
def corePrefix : String := "tag:yaml.org,2002:"

/-- A name without an exclamation mark before it. -/
def dropMark : Text → Text
  | '!' :: c :: rest => c :: rest
  | name => name

/-- What the bytes of a tag say. -/
def ofBytes (bytes : List UInt8) : Tag :=
  if bytes.head? = some 0x21 then
    match Utf8.decode? bytes with
    | some text => named (dropMark (dropMark text))
    | none => absent
  else
    let isCore (name : String) : Bool := bytes == Utf8.encode (corePrefix ++ name).toList
    if isCore "bool" then boolean
    else if isCore "int" then integer
    else if isCore "float" then number
    else if isCore "null" then null
    else other

end Tag

/-- The prefixes of handles. -/
abbrev Handles := List (Text × List UInt8)

/-- The handles that need no directive. -/
def Handles.known : Handles :=
  [(['!'], Utf8.encode ['!']), (['!', '!'], Utf8.encode Tag.corePrefix.toList)]

/-- What a written tag says, with the handles that have been declared. -/
def WrittenTag.resolve (t : WrittenTag) (handles : Handles) : Except Error Tag :=
  if t.handle.isEmpty then .ok (Tag.ofBytes t.suffix)
  else match handles.lookup t.handle with
    | some start => .ok (Tag.ofBytes (start ++ t.suffix))
    | none => .error .tagHandle

end PathRouting.Yaml
