import PathRouting.Json.Token
import PathRouting.Settings.Basic

/-!
# Definitions in JSON

A definition is an object with the fields by name, or a list with the fields in order, of which the
last ones may be left out. It is read token by token, so of several faults the first one counts. A
name that is given twice in a map counts once, with its later value.
-/

namespace PathRouting.Settings

open Json (Token)

/-- Why a text is refused as a definition. -/
inductive BodyError where
  /-- The text is not JSON. -/
  | notJson
  /-- The text starts like JSON, but a value in it is not what is expected. -/
  | notDefinition
deriving DecidableEq, Repr

/-- A step of reading tokens. -/
abbrev Parse := StateT (List Token) (Except BodyError)

namespace Parse

/-- The next token; there has to be one. -/
def next : Parse Token := do
  match ← get with
  | [] => throw .notJson
  | t :: rest => set rest; return t

/-- The next token, which stays. -/
def peek : Parse (Option Token) := do
  return (← get).head?

/-- Refuses a token that starts no value of the kind that is expected. -/
def refuse (t : Token) : Parse Unit :=
  match t with
  | .closeBrace => throw .notJson
  | .closeBracket => throw .notJson
  | .comma => throw .notJson
  | .colon => throw .notJson
  | .malformed => throw .notJson
  | _ => throw .notDefinition

/-- Reads a given token. -/
def expect (t : Token) : Parse Unit := do
  if (← next) ≠ t then throw .notJson

/-- Reads a text. -/
def text : Parse Text := do
  match ← next with
  | .string t => return t
  | t => refuse t; return []

/-- Reads a text or its absence. -/
def optionalText : Parse (Option Text) := do
  match ← next with
  | .string t => return some t
  | .null => return none
  | t => refuse t; return none

/-- Reads what stands before the next item of a collection, and tells whether there is one. -/
def hasNext (close : Token) (isFirst : Bool) : Parse Bool := do
  if (← peek) = some close then return false
  if isFirst then return true
  expect .comma
  if (← peek) = some close then throw .notJson
  return true

/-- Reads the name of an entry. -/
def entryName : Parse Text := do
  match ← next with
  | .string t => return t
  | _ => throw .notJson

/-- Reads the entries of a map. Each takes at least one token. -/
def entries {α : Type} (value : Parse α) : Nat → (isFirst : Bool) → Parse (List (Text × α))
  | 0, _ => throw .notJson
  | fuel + 1, isFirst => do
    if ← hasNext .closeBrace isFirst then
      let name ← entryName
      expect .colon
      let v ← value
      return (name, v) :: (← entries value fuel false)
    else
      expect .closeBrace
      return []

/-- Reads a map. -/
def dict {α : Type} (value : Parse α) : Parse (Dict α) := do
  match ← next with
  | .openBrace => return .ofList (← entries value ((← get).length + 1) true)
  | t => refuse t; return ∅

/-- Takes the outcome of a check, whose faults are those of a definition. -/
def check {α : Type} (e : Except Fault α) : Parse α :=
  match e with
  | .ok a => return a
  | .error _ => throw .notDefinition

/-- Reads the fields of a definition by name. -/
def fields : Nat → (isFirst : Bool) → Draft → Parse Settings
  | 0, _, _ => throw .notJson
  | fuel + 1, isFirst, d => do
    if ← hasNext .closeBrace isFirst then
      let field ← check (d.field (← entryName))
      expect .colon
      let d ← match field with
        | .name => do pure { d with name := some (← optionalText) }
        | .template => do pure { d with template := some (← text) }
        | .defaults => do pure { d with defaults := some (← dict optionalText) }
        | .constraints => do pure { d with constraints := some (← dict text) }
      fields fuel false d
    else
      let settings ← check d.finish
      expect .closeBrace
      return settings

/-- Reads the next item of a list, if there is one. -/
def item? {α : Type} (isFirst : Bool) (value : Parse α) : Parse (Option α) := do
  if ← hasNext .closeBracket isFirst then some <$> value else return none

/-- Reads the fields of a definition in order. -/
def fieldsInOrder : Parse Settings := do
  let name ← item? true optionalText
  let template ← item? name.isNone text
  let d : Draft := { name, template }
  let d ← match template with
    | none => pure d
    | some _ => do
      let defaults ← item? false (dict optionalText)
      let constraints ← match defaults with
        | none => pure none
        | some _ => item? false (dict text)
      pure { d with defaults, constraints }
  let settings ← check d.finish
  expect .closeBracket
  return settings

/-- Reads a definition. -/
def definition : Parse Settings := do
  match ← next with
  | .openBrace => fields ((← get).length + 1) true {}
  | .openBracket => fieldsInOrder
  | t => refuse t; throw .notDefinition

end Parse

/-- The definition of tokens, which it takes all. -/
def ofTokens (tokens : List Token) : Except BodyError Settings := do
  let (settings, rest) ← Parse.definition.run tokens
  if rest.isEmpty then return settings else throw .notJson

/-- Reads a definition. -/
def parse (t : Text) : Except BodyError Settings :=
  ofTokens (Token.scan t)

end PathRouting.Settings
