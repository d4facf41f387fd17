import PathRouting.Number.Binary64
import PathRouting.Text.Quoted

/-!
# Faults in definitions

What can be wrong with the shape of an entry of a routes file, or of a definition of a route.
-/

namespace PathRouting.Settings

/-- A value that stands where something else is expected. -/
inductive Found where
  /-- No value. -/
  | unit
  /-- A truth value. -/
  | boolean (b : Bool)
  /-- A whole number. -/
  | integer (n : Int)
  /-- A number that is not whole. -/
  | floating (x : Binary64)
  /-- A text. -/
  | text (t : Text)
  /-- A sequence of values. -/
  | sequence
  /-- A map of values. -/
  | map
deriving DecidableEq

/-- A found value in words. -/
def Found.message : Found → String
  | unit => "unit value"
  | boolean b => s!"boolean `{b}`"
  | integer n => s!"integer `{n}`"
  | floating x =>
    let shown := x.render
    s!"floating point `{shown}`"
  | text t =>
    let quoted := String.ofList (Quoted.encode t)
    s!"string {quoted}"
  | sequence => "sequence"
  | map => "map"

/-- What is expected of a value. -/
inductive Expected where
  /-- A text. -/
  | text
  /-- A map. -/
  | map
  /-- The name of a field. -/
  | fieldName
deriving DecidableEq

/-- An expectation in words. -/
def Expected.message : Expected → String
  | text => "a string"
  | map => "a map"
  | fieldName => "field identifier"

/-- A field of a definition. -/
inductive Field where
  /-- The name of the route. -/
  | name
  /-- The template. -/
  | template
  /-- The defaults. -/
  | defaults
  /-- The constraints. -/
  | constraints
deriving DecidableEq

/-- The name of a field. -/
def Field.text : Field → String
  | name => "name"
  | template => "template"
  | defaults => "defaults"
  | constraints => "constraints"

/-- The field with a name. -/
def Field.ofText? (t : Text) : Option Field :=
  [name, template, defaults, constraints].find? fun f => f.text.toList == t

/-- What is wrong with an entry or a definition. -/
inductive Fault where
  /-- The entry has no value. -/
  | emptyEntry
  /-- The entry is a truth value or a number. -/
  | scalarEntry
  /-- The entry is a sequence. -/
  | sequenceEntry
  /-- The entry has a tag. -/
  | taggedEntry
  /-- A value is not what is expected. -/
  | unexpected (found : Found) (expected : Expected)
  /-- A definition has a field that it cannot have. -/
  | unknownField (name : Text)
  /-- A definition has a field twice. -/
  | duplicateField (field : Field)
  /-- A definition lacks a field. -/
  | missingField (field : Field)
deriving DecidableEq

/-- A fault in words. -/
def Fault.message : Fault → String
  | emptyEntry => "empty entry"
  | scalarEntry => "scalar value"
  | sequenceEntry => "sequence"
  | taggedEntry => "tagged value"
  | unexpected found expected =>
    let found := found.message
    let expected := expected.message
    s!"invalid type: {found}, expected {expected}"
  | unknownField name =>
    let name := String.ofList name
    s!"unknown field `{name}`, "
      ++ "expected one of `name`, `template`, `defaults`, `constraints`"
  | duplicateField field =>
    let field := field.text
    s!"duplicate field `{field}`"
  | missingField field =>
    let field := field.text
    s!"missing field `{field}`"

end PathRouting.Settings
