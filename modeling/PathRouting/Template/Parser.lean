import PathRouting.Template.Basic

/-!
# Reading templates

A template is read character by character. A brace opens or closes a placeholder unless it is
doubled, and a doubled brace stands for itself. Errors name the place where reading stopped, in
bytes from the start.
-/

namespace PathRouting.Template

/-- A reason why a text is no template. -/
inductive ParseError where
  /-- A closing brace has nothing to close. -/
  | unexpectedClosing (position : Nat)
  /-- Something stands between the sign of an optional parameter and the closing brace. -/
  | expectedClosing (found : Char) (position : Nat)
  /-- A placeholder is not closed. -/
  | unclosed (start : Nat)
  /-- A character cannot be in the name of a parameter. -/
  | invalidNameChar (found : Char) (position : Nat)
  /-- A placeholder has no name. -/
  | emptyName (position : Nat)
  /-- A name starts with a digit. -/
  | leadingDigit (name : Text)
  /-- An opening brace stands in a default value. -/
  | openingInDefault (position : Nat)
deriving DecidableEq, Repr

/-- A parse error in words. -/
def ParseError.message : ParseError → String
  | unexpectedClosing position => s!"Unexpected closing brace at position {position}"
  | expectedClosing found position =>
    s!"Expected '\x7d' but found '{found}' at position {position}"
  | unclosed start => s!"Unclosed placeholder starting at position {start}"
  | invalidNameChar found position =>
    s!"Invalid character '{found}' in parameter name at position {position}"
  | emptyName position => s!"Empty parameter name at position {position}"
  | leadingDigit name =>
    let name := String.ofList name
    s!"Parameter name '{name}' must not start with a digit"
  | openingInDefault position =>
    s!"Unexpected opening brace in default value at position {position}"

/-- Whether a character can be in the name of a parameter. -/
def isNameChar (c : Char) : Bool :=
  Text.isLetter c || Text.isDigit c || c == '_'

/-- What is being read. Each text that has been read so far is kept with its last character
first. -/
inductive Mode where
  /-- Literal text. -/
  | literal (text : Text)
  /-- The name of the placeholder that starts at a position. -/
  | name (start : Nat) (text : Text)
  /-- The default value of the placeholder that starts at a position. -/
  | value (start : Nat) (name text : Text)
  /-- The end of a placeholder. -/
  | closing (start : Nat) (p : Placeholder)

/-- Literal text as parts, of which there is none if there is no text. -/
def literalPart (text : Text) : Template :=
  if text.isEmpty then [] else [.literal text.reverse]

/-- The name that ends at a position, from its characters with the last one first. -/
def finishName (position : Nat) (text : Text) : Except ParseError Text :=
  match text.reverse with
  | [] => .error (.emptyName position)
  | c :: name => if Text.isDigit c then .error (.leadingDigit (c :: name)) else .ok (c :: name)

/-- Reads on from a position. -/
def readFrom (position : Nat) (mode : Mode) (t : Text) : Except ParseError Template :=
  match mode, t with
  | .literal text, [] => .ok (literalPart text)
  | .literal text, '\x7b' :: '\x7b' :: rest =>
    readFrom (position + 2) (.literal ('\x7b' :: text)) rest
  | .literal text, '\x7d' :: '\x7d' :: rest =>
    readFrom (position + 2) (.literal ('\x7d' :: text)) rest
  | .literal text, c :: rest =>
    if c = '\x7b' then do
      return literalPart text ++ (← readFrom (position + 1) (.name position []) rest)
    else if c = '\x7d' then .error (.unexpectedClosing position)
    else readFrom (position + c.utf8Size) (.literal (c :: text)) rest
  | .name start text, [] => do
    let _ ← finishName position text
    .error (.unclosed start)
  | .name start text, c :: rest =>
    if isNameChar c then readFrom (position + 1) (.name start (c :: text)) rest
    else if c = '?' then do
      let name ← finishName position text
      readFrom (position + 1) (.closing start ⟨name, .optional⟩) rest
    else if c = '=' then do
      let name ← finishName position text
      readFrom (position + 1) (.value start name []) rest
    else if c = '\x7d' then do
      let name ← finishName position text
      return .placeholder ⟨name, .none⟩ :: (← readFrom (position + 1) (.literal []) rest)
    else .error (.invalidNameChar c position)
  | .value start _ _, [] => .error (.unclosed start)
  | .value start name text, c :: rest =>
    if c = '\x7d' then do
      let p : Placeholder := ⟨name, .value text.reverse⟩
      return .placeholder p :: (← readFrom (position + 1) (.literal []) rest)
    else if c = '\x7b' then .error (.openingInDefault position)
    else readFrom (position + c.utf8Size) (.value start name (c :: text)) rest
  | .closing start _, [] => .error (.unclosed start)
  | .closing _ p, c :: rest =>
    if c = '\x7d' then do
      return .placeholder p :: (← readFrom (position + 1) (.literal []) rest)
    else .error (.expectedClosing c position)

/-- Reads a template. -/
def parse (t : Text) : Except ParseError Template :=
  readFrom 0 (.literal []) t

end PathRouting.Template
