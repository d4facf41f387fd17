import PathRouting.Segment.Basic

/-!
# Borders

Which separator follows a segment depends on what comes behind it: nothing, optional segments only,
or something that is required.
-/

namespace PathRouting.Segment

/-- Marks the last segment, and those behind which all segments are optional. -/
def markBorders : List Segment → List Segment
  | [] => []
  | s :: rest =>
    { s with
      isLast := s.isLast || rest.isEmpty
      optionalRest := s.optionalRest || (!rest.isEmpty && rest.all (·.isOptional)) }
      :: markBorders rest

end PathRouting.Segment
