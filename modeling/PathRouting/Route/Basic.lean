import PathRouting.Dict

/-!
# Routes

A route is a template with optional extras: a name to find it by, defaults for parameters that may
be absent from a path, and constraints on the values of parameters. A match of a route gives the
values of its parameters.
-/

namespace PathRouting

/-- What is known about a parameter that may be absent. -/
inductive ParameterDefault where
  /-- The parameter has this value when it is absent. -/
  | value (text : Text)
  /-- The parameter may be absent and then has no value. -/
  | optional
deriving DecidableEq

/-- The value to use when the parameter is absent. -/
def ParameterDefault.value? : ParameterDefault → Option Text
  | value text => some text
  | optional => none

/-- Values by the names of parameters, as a query string gives them or as a match does. -/
abbrev Values := Dict Text

/-- A route. -/
structure Route where
  /-- The name to find the route by. -/
  name : Option Text := none
  /-- The text of the template. -/
  template : Text
  /-- The defaults that are given apart from the template. -/
  defaults : Dict ParameterDefault := ∅
  /-- Expressions that the values of parameters have to match. -/
  constraints : Dict Text := ∅
deriving DecidableEq

/-- A route that a path matches. -/
structure RouteMatch where
  /-- The route, with the defaults of its template among its defaults. -/
  route : Route
  /-- The values that the path or the query string gives. -/
  values : Values
deriving DecidableEq

/-- The value of a parameter: that of the match, else the value to use when it is absent. -/
def RouteMatch.value? (m : RouteMatch) (parameter : Text) : Option Text :=
  (m.values.get? parameter).or ((m.route.defaults.get? parameter).bind (·.value?))

/-- The value that a query string gives to a parameter, if it is not empty. -/
def Values.nonempty? (v : Values) (parameter : Text) : Option Text :=
  (v.get? parameter).filter (!·.isEmpty)

end PathRouting
