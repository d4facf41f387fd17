import PathRouting.Route.Check
import PathRouting.Segment.Basic

/-!
# The segments of a route

The text between two placeholders belongs to both of them: what stands before its first slash is
attached to the left one and what stands behind its last slash to the right one, and what is left
in the middle is a segment of its own. Without a slash the two are glued together by the text.
-/

namespace PathRouting

/-- What a placeholder declares, as a default of the route. -/
def InlineDefault.toDefault? : InlineDefault → Option ParameterDefault
  | none => Option.none
  | value text => some (.value text)
  | optional => some .optional

namespace Segment

/-- The literal segments of a text, of which there is none if the text is empty. -/
def literals (text : Text) : List Segment :=
  if text.isEmpty then [] else [literal text]

/-- Splits the text before the first placeholder into the segments before it and the text that is
attached to it. -/
def splitLeading (text : Text) : List Segment × Text :=
  match Text.splitLast '/' text with
  | some (front, back) => (literals front, back)
  | none => ([], text)

/-- Ends a placeholder's segment before the text that leads to the next placeholder, and splits the
text into the segments in between and the text that is attached to the next one. -/
def splitBetween (s : Segment) (text : Text) : List Segment × Text :=
  match Text.splitFirst '/' text with
  | none => ([{ s with isGlued := true }], text)
  | some (head, rest) =>
    let s := { s with after := head }
    match Text.splitLast '/' rest with
    | none => ([s], rest)
    | some (middle, tail) => (s :: literals middle, tail)

/-- Ends the last placeholder's segment before the text behind it. -/
def splitTrailing (s : Segment) (text : Text) : List Segment :=
  match Text.splitFirst '/' text with
  | none => [{ s with after := text }]
  | some (head, rest) => { s with after := head } :: literals rest

end Segment

namespace Route

/-- The defaults of a route together with those that placeholders declare. -/
def mergedDefaults (r : Route) (placed : List Template.Placed) : Dict ParameterDefault :=
  placed.foldl (fun defaults ⟨_, p⟩ =>
    p.default.toDefault?.elim defaults (defaults.insert p.name)) r.defaults

/-- Whether a parameter may be absent from a path: it has a default, or the query string gives it a
value that is not empty. -/
def isOptional (defaults : Dict ParameterDefault) (query : Values) (name : Text) : Bool :=
  defaults.contains name || (query.nonempty? name).isSome

/-- The expression that matches the value of a parameter and remembers it. Without a constraint a
value is whatever holds no slash. -/
def valuePattern (r : Route) (name : Text) (isOptional : Bool) : Text :=
  let body := match r.constraints.get? name with
    | some constraint =>
      "(?:".toList ++ constraint ++ if isOptional then ")|".toList else ")".toList
    | none => if isOptional then "[^/]*".toList else "[^/]+".toList
  "(?P<".toList ++ name ++ '>' :: body ++ [')']

/-- The segment of a placeholder with text right before it. -/
def segmentOf (r : Route) (defaults : Dict ParameterDefault) (query : Values) (p : Placeholder)
    (before : Text) : Segment :=
  let isOptional := isOptional defaults query p.name
  { name := some p.name, pattern := r.valuePattern p.name isOptional, isOptional, before }

/-- The segments from a placeholder's segment on, given what comes behind it. -/
def segmentsFrom (r : Route) (defaults : Dict ParameterDefault) (query : Values) (trailing : Text) :
    Segment → List Template.Placed → List Segment
  | s, [] => s.splitTrailing trailing
  | s, ⟨gap, p⟩ :: rest =>
    let (done, before) := s.splitBetween gap
    done ++ r.segmentsFrom defaults query trailing (r.segmentOf defaults query p before) rest

/-- The segments of a layout. A template without placeholders is a single piece of literal text. -/
def layoutSegments (r : Route) (defaults : Dict ParameterDefault) (query : Values)
    (l : Template.Layout) : List Segment :=
  match l.placed with
  | [] => [.literal l.trailing]
  | ⟨gap, p⟩ :: rest =>
    let (leading, before) := Segment.splitLeading gap
    leading ++ r.segmentsFrom defaults query l.trailing (r.segmentOf defaults query p before) rest

/-- The segments of a route with the defaults in effect. -/
structure Built where
  /-- The segments, left to right. -/
  segments : List Segment
  /-- The defaults of the route and of the placeholders. -/
  defaults : Dict ParameterDefault

/-- The segments of a route for a request with given query values, its template having been read
and its literal text escaped. -/
def segments (r : Route) (t : Template) (query : Values) : Except RouteError Built := do
  let l := t.layout
  r.check l
  let defaults := r.mergedDefaults l.placed
  return ⟨r.layoutSegments defaults query l, defaults⟩

end Route

end PathRouting
