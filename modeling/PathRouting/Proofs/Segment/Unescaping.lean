import PathRouting.Proofs.Segment.Escaping

/-!
# Segments before and after escaping

A route is built from a template whose literal text has been escaped. The result is that of the
template as it is read: the faults are the same, and the segments differ only in their literal text,
which is escaped piece by piece and can be read back from each piece on its own.
-/

namespace PathRouting

/-- A segment with its literal text unescaped. -/
def Segment.unescape (s : Segment) : Segment :=
  { s with
    pattern := if s.name.isSome then s.pattern else Regex.unescape s.pattern
    before := Regex.unescape s.before
    after := Regex.unescape s.after }

/-- A segment can be read back from the escaped one. -/
@[simp] theorem Segment.unescape_escape (s : Segment) : s.escape.unescape = s := by
  unfold Segment.unescape Segment.escape
  rcases s with ⟨_ | name, pattern, _, before, after⟩ <;> simp

namespace Route

/-- The segments that are built with one function applied to each of them. -/
def Built.mapSegments (f : Segment → Segment) (b : Built) : Built where
  segments := b.segments.map f
  defaults := b.defaults

/-- Applying two functions in turn is applying one. -/
theorem Built.mapSegments_mapSegments (f g : Segment → Segment) (b : Built) :
    (b.mapSegments f).mapSegments g = b.mapSegments (g ∘ f) := by
  rw [mapSegments, mapSegments, mapSegments, List.map_map]

/-- Applying a function that changes nothing changes nothing. -/
theorem Built.mapSegments_id (b : Built) : b.mapSegments id = b := by
  rw [mapSegments, List.map_id]

variable (r : Route) (t : Template) (query : Values)

/-- What is built from an escaped template is what is built from the template, escaped. -/
theorem segments_escapeLiterals_eq : r.segments t.escapeLiterals query =
    (r.segments t query).map (Built.mapSegments Segment.escape) := by
  unfold segments
  dsimp only
  rw [Template.layout_escapeLiterals, check_escape, mergedDefaults_escape, layoutSegments_escape]
  cases r.check t.layout with
  | error e => rfl
  | ok u => rfl

/-- It makes no difference whether text is cut into segments before or after it is escaped. The
faults are the same, and the segments agree in number, order, names, flags and the expressions of
their values; their literal text has been escaped, and each piece of it can be unescaped. -/
theorem segments_escapeLiterals :
    r.segments t.escapeLiterals query =
      (r.segments t query).map (Built.mapSegments Segment.escape) ∧
    (r.segments t.escapeLiterals query).map (Built.mapSegments Segment.unescape) =
      r.segments t query := by
  refine ⟨segments_escapeLiterals_eq r t query, ?_⟩
  have hback : Segment.unescape ∘ Segment.escape = id := funext Segment.unescape_escape
  rw [segments_escapeLiterals_eq]
  cases r.segments t query with
  | error e => rfl
  | ok b =>
    change Except.ok ((b.mapSegments Segment.escape).mapSegments Segment.unescape) = _
    rw [Built.mapSegments_mapSegments, hback, Built.mapSegments_id]

end Route

end PathRouting
