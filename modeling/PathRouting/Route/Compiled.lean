import PathRouting.Route.Segments
import PathRouting.Segment.Borders
import PathRouting.Segment.Pattern
import PathRouting.Template.Escaping
import PathRouting.Text.Percent

/-!
# Compiled routes

A route is compiled against the query values of one request, as a parameter with such a value may
be absent from the path. Values are taken from the path as it is written and decoded afterwards, so
an encoded slash stays inside its value.
-/

namespace PathRouting

/-- A route that is ready to be matched. -/
structure CompiledRoute where
  /-- The text of the expression. -/
  pattern : Text
  /-- The expression. -/
  regex : Regex
  /-- The segments. -/
  segments : List Segment
  /-- The defaults of the route and of its placeholders. -/
  defaults : Dict ParameterDefault
  /-- The outline of the segments. -/
  outline : Text

/-- The flags under which paths are matched: case plays no part, and a dot takes line ends too. -/
def pathFlags : Regex.Flags :=
  { ignoreCase := true, dotAll := true }

/-- Compiles the expression of a row of segments. -/
def compilePattern (pattern : Text) : Except Regex.Error Regex :=
  Regex.compile pathFlags pattern

namespace Segment

/-- The value that a match gives to a parameter: what was taken from the path, decoded, or else a
value of the query string that is not empty. Fails if what was taken is no text once decoded. -/
def value? (m : Regex.Match) (query : Values) (name : Text) : Option (Option Text) :=
  match (m.named? name).filter (!·.isEmpty) with
  | some taken => (Percent.decode? taken).map some
  | none => some (query.nonempty? name)

/-- The values of the parameters of a row of segments in a path, if the expression matches it. -/
def valuesIn? (r : Regex) (segments : List Segment) (path : Text) (query : Values) :
    Option Values := do
  let m ← r.search path
  let values ← (segments.filterMap (·.name)).mapM fun name => do
    return (← value? m query name).map (name, ·)
  return .ofList (values.filterMap id)

end Segment

namespace Route

/-- Compiles a route. Slashes around the template make no difference. -/
def compile (r : Route) (query : Values) : Except RouteError CompiledRoute := do
  let template ← (Template.parse (Text.trim '/' r.template)).mapError
    fun e => .invalidTemplate r.template (.template e)
  let built ← r.segments template.escapeLiterals query
  let segments := Segment.markBorders built.segments
  let pattern := Segment.joinedPattern segments
  let regex ← (compilePattern pattern).mapError
    fun e => .invalidTemplate r.template (.expression e)
  return ⟨pattern, regex, segments, built.defaults, Segment.joinedOutline query segments⟩

end Route

/-- The values of the parameters in a path, if it matches. -/
def CompiledRoute.valuesIn? (c : CompiledRoute) (path : Text) (query : Values) : Option Values :=
  Segment.valuesIn? c.regex c.segments path query

end PathRouting
