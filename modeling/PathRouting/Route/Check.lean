import PathRouting.Regex.Basic
import PathRouting.Route.Basic
import PathRouting.Route.Error
import PathRouting.Template.Layout

/-!
# Checking a route

A route is checked placeholder by placeholder, left to right, and refused for the first one that is
at fault. The faults of one placeholder are looked for in a fixed order. What the query string of a
request holds plays no part in it.
-/

namespace PathRouting.Route

/-- Refuses a placeholder that repeats the name of an earlier one. -/
def checkName (earlier : List Text) (p : Placeholder) : Except RouteError Unit :=
  if p.name ∈ earlier then .error (.duplicateParameter p.name) else .ok ()

/-- Refuses a placeholder that declares a default for which the route has one too. -/
def checkDefault (r : Route) (p : Placeholder) : Except RouteError Unit :=
  if p.default ≠ .none ∧ r.defaults.contains p.name then .error (.defaultConflict p.name)
  else .ok ()

/-- Refuses a placeholder that directly follows another one. The name of the one right before, if
there is one, is the last among the earlier names. -/
def checkGap (earlier : List Text) (gap : Text) (p : Placeholder) : Except RouteError Unit :=
  match earlier.head?, gap with
  | some first, [] => .error (.adjacentPlaceholders first p.name)
  | _, _ => .ok ()

/-- Refuses a placeholder with a constraint that is no expression. -/
def checkConstraint (r : Route) (p : Placeholder) : Except RouteError Unit :=
  match r.constraints.get? p.name with
  | none => .ok ()
  | some constraint =>
    match Regex.compile {} constraint with
    | .ok _ => .ok ()
    | .error e => .error (.invalidConstraint p.name (.expression e))

/-- Checks placeholders that follow others, whose names are given with the last one first. -/
def checkAfter (r : Route) : List Text → List Template.Placed → Except RouteError Unit
  | _, [] => .ok ()
  | earlier, ⟨gap, p⟩ :: rest => do
    checkName earlier p
    r.checkDefault p
    checkGap earlier gap p
    r.checkConstraint p
    r.checkAfter (p.name :: earlier) rest

/-- Checks the placeholders of a route. -/
def check (r : Route) (l : Template.Layout) : Except RouteError Unit :=
  r.checkAfter [] l.placed

end PathRouting.Route
