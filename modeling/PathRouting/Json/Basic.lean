import PathRouting.Dict
import PathRouting.Number.Binary64

/-!
# JSON

The values of JSON and their text form, in which only quotes, backslashes and control characters are
escaped.
-/

namespace PathRouting

/-- A JSON value. -/
inductive Json where
  /-- No value. -/
  | null
  /-- A truth value. -/
  | boolean (b : Bool)
  /-- A whole number. -/
  | integer (n : Int)
  /-- A number that is not written as a whole one. -/
  | floating (x : Binary64)
  /-- A text. -/
  | string (t : Text)
  /-- A list of values. -/
  | array (items : List Json)
  /-- Values by names, in order. -/
  | object (entries : List (Text × Json))

namespace Json

/-- A control character as its code point. -/
def escapeControl (c : Char) : Text :=
  let digits := Nat.toDigits 16 c.toNat
  '\\' :: 'u' :: List.replicate (4 - digits.length) '0' ++ digits

/-- A character within quotes. -/
def encodeChar (c : Char) : Text :=
  if c = '"' ∨ c = '\\' then ['\\', c]
  else if c = '\x08' then ['\\', 'b']
  else if c = '\t' then ['\\', 't']
  else if c = '\n' then ['\\', 'n']
  else if c = '\x0c' then ['\\', 'f']
  else if c = '\r' then ['\\', 'r']
  else if c.toNat < 0x20 then escapeControl c
  else [c]

/-- A text in quotes. -/
def quote (t : Text) : Text :=
  '"' :: t.flatMap encodeChar ++ ['"']

mutual

/-- A value as it is written. -/
def render : Json → Text
  | null => "null".toList
  | boolean b => (if b then "true" else "false").toList
  | integer n => (toString n).toList
  | floating x => if x.isFinite then x.render.toList else "null".toList
  | string t => quote t
  | array items => '[' :: renderItems true items ++ [']']
  | object entries => '\x7b' :: renderEntries true entries ++ ['\x7d']

/-- The items of a list, with commas between them. -/
def renderItems : (isFirst : Bool) → List Json → Text
  | _, [] => []
  | isFirst, v :: rest => (if isFirst then [] else [',']) ++ v.render ++ renderItems false rest

/-- The entries of an object, with commas between them. -/
def renderEntries : (isFirst : Bool) → List (Text × Json) → Text
  | _, [] => []
  | isFirst, (name, v) :: rest =>
    (if isFirst then [] else [',']) ++ quote name ++ ':' :: v.render ++ renderEntries false rest

end

/-- The object of a dictionary. -/
def ofDict {α : Type} (f : α → Json) (d : Dict α) : Json :=
  .object (d.toList.map fun (key, value) => (key, f value))

/-- A text, or no value. -/
def ofText? (t : Option Text) : Json :=
  t.elim .null .string

end Json

end PathRouting
