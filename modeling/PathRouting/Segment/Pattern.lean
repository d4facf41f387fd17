import PathRouting.Regex.Escape
import PathRouting.Route.Basic
import PathRouting.Segment.Basic

/-!
# The expression of a row of segments

The expressions of the segments are joined by separators and anchored at both ends. The outline of
the segments shows the same row to a reader, with parameters in braces or replaced by the values of
a query string.
-/

namespace PathRouting.Segment

/-- The expression of the separator behind a segment. It may be missing only where what follows may
be missing; before a row of optional segments, only at the end of the path. -/
def separator (s : Segment) : Text :=
  if s.isGlued then []
  else if s.optionalRest && !s.isOptional then "(?:/|$)".toList
  else if s.isOptional || s.isLast || s.optionalRest then "/?".toList
  else "/".toList

/-- The expression of a segment with the text attached to it and the separator behind it. -/
def expression (s : Segment) : Text :=
  s.before ++ s.pattern ++ s.after ++ s.separator

/-- The expression of a row of segments, which matches whole paths only. -/
def joinedPattern (segments : List Segment) : Text :=
  '^' :: segments.flatMap expression ++ ['$']

/-- What stands for the value of a segment in an outline. -/
def outlineValue (query : Values) (s : Segment) : Text :=
  match s.name with
  | some name => (query.nonempty? name).getD ('\x7b' :: name ++ ['\x7d'])
  | none => Regex.unescape s.pattern

/-- A segment in an outline. -/
def outlineOf (query : Values) (s : Segment) : Text :=
  Regex.unescape s.before ++ outlineValue query s ++ Regex.unescape s.after
    ++ if s.isGlued then [] else ['/']

/-- The outline of a row of segments, without slashes at the end. -/
def joinedOutline (query : Values) (segments : List Segment) : Text :=
  Text.trimEnd '/' (segments.flatMap (outlineOf query))

end PathRouting.Segment
