import PathRouting.Settings.Basic
import PathRouting.Yaml.Value

/-!
# Entries of a routes file

An entry is a template or a mapping with the fields of a definition. Tags play no part within a
definition, and a map that is left out may also be written without a value.
-/

namespace PathRouting

namespace Settings

open Yaml (Value)

/-- A value as it is found where something else is expected. -/
def found (v : Value) : Found :=
  match v.untagged with
  | .boolean b => .boolean b
  | .integer n => .integer n
  | .floating x => .floating x
  | .string t => .text t
  | .sequence _ => .sequence
  | .mapping _ => .map
  | _ => .unit

/-- The text of a value, which is expected to be one. -/
def textOf (expected : Expected) (v : Value) : Except Fault Text :=
  match v.untagged with
  | .string t => .ok t
  | _ => .error (.unexpected (found v) expected)

/-- The text of a value, if there is a value. -/
def optionalTextOf : Value → Except Fault (Option Text)
  | .null => .ok none
  | v => (textOf .text v).map some

/-- The map of a value, given how the values in it are read. -/
def dictOf {α : Type} (read : Value → Except Fault α) (v : Value) : Except Fault (Dict α) :=
  match v.untagged with
  | .null => .ok ∅
  | .mapping entries =>
    Dict.ofList <$> entries.mapM fun (key, value) => do
      return (← textOf .text key, ← read value)
  | _ => .error (.unexpected (found v) .map)

/-- Reads one field of a definition. -/
def readField (d : Draft) (entry : Value × Value) : Except Fault Draft := do
  let (key, value) := entry
  match ← d.field (← textOf .fieldName key) with
  | .name => return { d with name := some (← optionalTextOf value) }
  | .template => return { d with template := some (← textOf .text value) }
  | .defaults => return { d with defaults := some (← dictOf optionalTextOf value) }
  | .constraints => return { d with constraints := some (← dictOf (textOf .text) value) }

/-- The definition that the entries of a mapping make up. -/
def ofEntries (entries : List (Value × Value)) : Except Fault Settings := do
  (← entries.foldlM readField {}).finish

end Settings

/-- An entry of a routes file. -/
inductive RouteEntry where
  /-- A template alone. -/
  | template (text : Text)
  /-- A definition. -/
  | definition (s : Settings)
deriving DecidableEq

namespace RouteEntry

/-- The entry that a value stands for. -/
def ofValue : Yaml.Value → Except Settings.Fault RouteEntry
  | .string t => .ok (.template t)
  | .mapping entries => definition <$> Settings.ofEntries entries
  | .null => .error .emptyEntry
  | .boolean _ => .error .scalarEntry
  | .integer _ => .error .scalarEntry
  | .floating _ => .error .scalarEntry
  | .sequence _ => .error .sequenceEntry
  | .tagged .. => .error .taggedEntry

/-- The route that an entry describes. -/
def toRoute : RouteEntry → Route
  | template text => { template := text }
  | definition s => s.toRoute

end RouteEntry

end PathRouting
