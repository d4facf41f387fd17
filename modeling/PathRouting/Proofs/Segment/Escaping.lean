import Mathlib.Data.List.Basic
import Mathlib.Tactic.Common
import PathRouting.Route.Compiled

/-!
# Segments of escaped text

Segments are built from a template whose literal text has been escaped. As a slash has no meaning
in expressions, it makes no difference whether the text is cut into segments before or after it is
escaped. So the segments of a route are the escaped segments of its template.
-/

namespace PathRouting

namespace Regex

/-- Unescaping gives back what was escaped. -/
@[simp] theorem unescape_escape (t : Text) : unescape (escape t) = t := by
  induction t with
  | nil => rfl
  | cons c t ih =>
    unfold escape
    split
    · rw [unescape, ih]
    · rename_i hc
      have hne : c ≠ '\\' := by
        rintro rfl
        exact hc (by decide)
      rw [unescape, ih]
      · simp [hne]
      · simp [hne]

/-- Only the empty text is escaped to the empty text. -/
@[simp] theorem escape_eq_nil_iff {t : Text} : escape t = [] ↔ t = [] := by
  cases t with
  | nil => simp [escape]
  | cons c t =>
    unfold escape
    split <;> simp

/-- Escaping goes character by character. -/
theorem escape_append (t u : Text) : escape (t ++ u) = escape t ++ escape u := by
  induction t with
  | nil => rfl
  | cons c t ih =>
    rw [List.cons_append, escape, escape]
    split <;> simp [ih]

end Regex

open Regex

namespace Text

/-- A text is cut at the first slash alike before and after it is escaped. -/
theorem splitFirst_escape (t : Text) : splitFirst '/' (escape t) =
    (splitFirst '/' t).map fun (before, after) => (escape before, escape after) := by
  induction t with
  | nil => rfl
  | cons c t ih =>
    by_cases hc : c = '/'
    · subst hc
      rfl
    · rw [escape, splitFirst, if_neg hc, Option.map_map]
      split
      · rename_i hmeta
        rw [splitFirst, if_neg (by decide), splitFirst, if_neg hc, ih, Option.map_map,
          Option.map_map]
        congr 1
        funext p
        simp [escape, hmeta]
      · rename_i hmeta
        rw [splitFirst, if_neg hc, ih, Option.map_map]
        congr 1
        funext p
        simp [escape, hmeta]

/-- A text is cut at the last slash alike before and after it is escaped. -/
theorem splitLast_escape (t : Text) : splitLast '/' (escape t) =
    (splitLast '/' t).map fun (before, after) => (escape before, escape after) := by
  induction t with
  | nil => rfl
  | cons c t ih =>
    by_cases hc : c = '/'
    · subst hc
      have hescape : escape ('/' :: t) = '/' :: escape t := rfl
      rw [hescape, splitLast, splitLast, ih]
      cases splitLast '/' t with
      | none => rfl
      | some p => rfl
    · rw [escape, splitLast]
      split
      · rename_i hmeta
        rw [splitLast, splitLast, ih]
        cases splitLast '/' t with
        | none => simp [hc]
        | some p => simp [escape, hmeta]
      · rename_i hmeta
        rw [splitLast, ih]
        cases splitLast '/' t with
        | none => simp [hc]
        | some p => simp [escape, hmeta]

end Text

/-- A layout with its literal text escaped. -/
def Template.Layout.escape (l : Template.Layout) : Template.Layout where
  placed := l.placed.map fun p => { p with gap := Regex.escape p.gap }
  trailing := Regex.escape l.trailing

/-- A segment with its literal text escaped. -/
def Segment.escape (s : Segment) : Segment :=
  { s with
    pattern := if s.name.isSome then s.pattern else Regex.escape s.pattern
    before := Regex.escape s.before
    after := Regex.escape s.after }

/-- The layout of an escaped template is the escaped layout. -/
theorem Template.layoutAfter_escapeLiterals (gap : Text) (t : Template) :
    layoutAfter (Regex.escape gap) t.escapeLiterals = (layoutAfter gap t).escape := by
  induction t generalizing gap with
  | nil => rfl
  | cons part rest ih =>
    cases part with
    | literal text =>
      have hrest := ih (gap ++ text)
      rw [layoutAfter, ← hrest, escape_append]
      cases text with
      | nil =>
        rw [Regex.escape, List.append_nil]
        rfl
      | cons c text => rfl
    | placeholder p =>
      have hrest := ih []
      change (⟨⟨Regex.escape gap, p⟩ :: (layoutAfter [] (escapeLiterals rest)).placed,
        (layoutAfter [] (escapeLiterals rest)).trailing⟩ : Layout) = _
      change layoutAfter [] (escapeLiterals rest) = _ at hrest
      rw [hrest]
      rfl

/-- The layout of an escaped template is the escaped layout. -/
theorem Template.layout_escapeLiterals (t : Template) :
    t.escapeLiterals.layout = t.layout.escape :=
  layoutAfter_escapeLiterals [] t

namespace Segment

/-- Literal text makes no segments if it is empty, escaped or not. -/
theorem literals_escape (text : Text) :
    literals (Regex.escape text) = (literals text).map escape := by
  cases text with
  | nil => rfl
  | cons c text =>
    unfold literals
    rw [if_neg (by simp), if_neg (by simp)]
    rfl

/-- Text before the first placeholder is cut alike before and after it is escaped. -/
theorem splitLeading_escape (text : Text) : splitLeading (Regex.escape text) =
    ((splitLeading text).1.map escape, Regex.escape (splitLeading text).2) := by
  unfold splitLeading
  rw [Text.splitLast_escape]
  cases Text.splitLast '/' text with
  | none => rfl
  | some p => simp [literals_escape]

/-- Text between placeholders is cut alike before and after it is escaped. -/
theorem splitBetween_escape (s : Segment) (text : Text) :
    s.escape.splitBetween (Regex.escape text) =
      ((s.splitBetween text).1.map escape, Regex.escape (s.splitBetween text).2) := by
  unfold splitBetween
  rw [Text.splitFirst_escape]
  cases Text.splitFirst '/' text with
  | none => rfl
  | some p =>
    simp only [Option.map_some]
    rw [Text.splitLast_escape]
    cases Text.splitLast '/' p.2 with
    | none => rfl
    | some q =>
      simp only [Option.map_some, literals_escape, List.map_cons]
      rfl

/-- Text behind the last placeholder is cut alike before and after it is escaped. -/
theorem splitTrailing_escape (s : Segment) (text : Text) :
    s.escape.splitTrailing (Regex.escape text) = (s.splitTrailing text).map escape := by
  unfold splitTrailing
  rw [Text.splitFirst_escape]
  cases Text.splitFirst '/' text with
  | none => rfl
  | some p =>
    simp only [Option.map_some, literals_escape, List.map_cons]
    rfl

/-- Escaping makes no segment optional and none required. -/
theorem all_isOptional_map_escape (segments : List Segment) :
    (segments.map escape).all (·.isOptional) = segments.all (·.isOptional) := by
  rw [List.all_map]
  rfl

/-- Marking borders and escaping do not interfere. -/
theorem markBorders_map_escape (segments : List Segment) :
    markBorders (segments.map escape) = (markBorders segments).map escape := by
  induction segments with
  | nil => rfl
  | cons s rest ih =>
    rw [List.map_cons, markBorders, markBorders, List.map_cons, ih, all_isOptional_map_escape,
      List.isEmpty_map]
    rfl

end Segment

namespace Route

variable (r : Route) (defaults : Dict ParameterDefault) (query : Values)

/-- The segments from a placeholder on are built alike before and after escaping. -/
theorem segmentsFrom_escape (trailing : Text) (s : Segment) (placed : List Template.Placed) :
    r.segmentsFrom defaults query (Regex.escape trailing) s.escape
        (placed.map fun p => { p with gap := Regex.escape p.gap }) =
      (r.segmentsFrom defaults query trailing s placed).map Segment.escape := by
  induction placed generalizing s with
  | nil => exact s.splitTrailing_escape trailing
  | cons p rest ih =>
    rw [List.map_cons, segmentsFrom, segmentsFrom, Segment.splitBetween_escape]
    dsimp only
    rw [List.map_append, ← ih]
    rfl

/-- The segments of a layout are built alike before and after escaping. -/
theorem layoutSegments_escape (l : Template.Layout) :
    r.layoutSegments defaults query l.escape =
      (r.layoutSegments defaults query l).map Segment.escape := by
  unfold layoutSegments Template.Layout.escape
  cases l.placed with
  | nil => rfl
  | cons p rest =>
    rw [List.map_cons]
    dsimp only
    rw [Segment.splitLeading_escape]
    dsimp only
    rw [List.map_append, ← segmentsFrom_escape]
    rfl

/-- Escaping changes nothing about the faults of a layout. -/
theorem check_escape (l : Template.Layout) : r.check l.escape = r.check l := by
  have hafter : ∀ (placed : List Template.Placed) (earlier : List Text),
      r.checkAfter earlier (placed.map fun p => { p with gap := Regex.escape p.gap }) =
        r.checkAfter earlier placed := by
    intro placed
    induction placed with
    | nil => exact fun _ => rfl
    | cons p rest ih =>
      intro earlier
      have hgap : checkGap earlier (Regex.escape p.gap) p.placeholder =
          checkGap earlier p.gap p.placeholder := by
        unfold checkGap
        cases hgap : p.gap with
        | nil => rfl
        | cons c gap =>
          have hne : Regex.escape (c :: gap) ≠ [] := by simp
          cases earlier.head? with
          | none => rfl
          | some first =>
            obtain ⟨d, t, ht⟩ := List.exists_cons_of_ne_nil hne
            rw [ht]
      rw [List.map_cons, checkAfter, checkAfter, hgap, ih]
  exact hafter l.placed []

/-- Escaping changes nothing about the defaults of a layout. -/
theorem mergedDefaults_escape (l : Template.Layout) :
    r.mergedDefaults l.escape.placed = r.mergedDefaults l.placed := by
  unfold mergedDefaults Template.Layout.escape
  rw [List.foldl_map]

end Route

end PathRouting
