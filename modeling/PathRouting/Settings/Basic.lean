import PathRouting.Route.Basic
import PathRouting.Settings.Fault

/-!
# Definitions of routes

A definition gives the fields of a route as they are written down. A default without a value marks
its parameter as one that may be absent.
-/

namespace PathRouting

/-- A definition of a route. -/
structure Settings where
  /-- The name of the route. -/
  name : Option Text
  /-- The template. -/
  template : Text
  /-- The defaults; one without a value marks an optional parameter. -/
  defaults : Dict (Option Text)
  /-- The constraints. -/
  constraints : Dict Text
deriving DecidableEq

namespace Settings

/-- The default that a written default stands for. -/
def toDefault (value : Option Text) : ParameterDefault :=
  value.elim .optional .value

/-- The route that a definition describes. -/
def toRoute (s : Settings) : Route :=
  { name := s.name
    template := s.template
    defaults := s.defaults.map toDefault
    constraints := s.constraints }

/-- The fields of a definition that have been read. -/
structure Draft where
  /-- The name, which may have been read as absent. -/
  name : Option (Option Text) := none
  /-- The template. -/
  template : Option Text := none
  /-- The defaults. -/
  defaults : Option (Dict (Option Text)) := none
  /-- The constraints. -/
  constraints : Option (Dict Text) := none

namespace Draft

/-- Whether a field has been read. -/
def has (d : Draft) : Field → Bool
  | .name => d.name.isSome
  | .template => d.template.isSome
  | .defaults => d.defaults.isSome
  | .constraints => d.constraints.isSome

/-- The definition with the fields that have been read. Only the template has to be among them. -/
def finish (d : Draft) : Except Fault Settings :=
  match d.template with
  | none => .error (.missingField .template)
  | some template =>
    .ok ⟨d.name.join, template, d.defaults.getD ∅, d.constraints.getD ∅⟩

/-- The field with a name, which must not have been read before. -/
def field (d : Draft) (name : Text) : Except Fault Field :=
  match Field.ofText? name with
  | none => .error (.unknownField name)
  | some f => if d.has f then .error (.duplicateField f) else .ok f

end Draft

end Settings

end PathRouting
