import PathRouting.Proofs.Route.Components
import PathRouting.Proofs.Route.Outline
import PathRouting.Proofs.Segment.Counting
import PathRouting.Proofs.Template.Names

/-!
# The outline of a template as a path

What is kept of a template in its outline is a path that the segments of its routes can be cut from:
each of them takes its own text, and a parameter takes its name in braces. No value of this cut holds
a percent sign or a question mark, so that these stand in the outline as often as in the literal text
of the segments. No other cut of a path has more of them in its values than the path has beyond that.
-/

namespace PathRouting

/-- What is left out of a text is a slash. -/
theorem Text.mem_kept_iff {c : Char} (hc : c ≠ '/') {t : Text} : c ∈ t.kept ↔ c ∈ t := by
  by_cases h : t.IsDoubled
  · obtain ⟨head, tail, rfl, hhead, htail⟩ := h
    rw [kept_doubled hhead htail]
    simp [hc]
  · rw [kept_of_not_isDoubled h]

namespace Template

/-- What is left out of a layout are slashes. -/
theorem Layout.mem_outline_kept_iff {c : Char} (hc : c ≠ '/') {l : Layout} :
    c ∈ l.kept.outline ↔ c ∈ l.outline := by
  have hplaced : ∀ p : Placed, c ∈ p.kept.outline ↔ c ∈ p.outline := fun p => by
    unfold Placed.outline Placed.kept
    rw [List.mem_append, List.mem_append, Text.mem_kept_iff hc]
  unfold outline kept
  cases l.placed with
  | nil => rfl
  | cons p rest => simp [hplaced]

/-- A character that no placeholder shows stands in an outline if it stands in literal text. -/
theorem mem_outline_iff {c : Char} {t : Template}
    (hc : ∀ p ∈ t.placeholders, c ∉ p.outline) :
    c ∈ t.outline ↔ ∃ text, Part.literal text ∈ t ∧ c ∈ text := by
  unfold outline
  rw [List.mem_flatMap]
  constructor
  · rintro ⟨part, hpart, hmem⟩
    cases part with
    | literal text => exact ⟨text, hpart, hmem⟩
    | placeholder p => exact absurd hmem (hc p (List.mem_filterMap.mpr ⟨_, hpart, rfl⟩))
  · rintro ⟨text, hpart, hmem⟩
    exact ⟨_, hpart, hmem⟩

/-- What is kept of a layout starts with a slash only if the template does. -/
theorem head?_symbols_of_outline_kept {t : Template}
    (h : t.layout.kept.outline.head? = some '/') : t.symbols.head? = some (.char '/') := by
  cases hplaced : t.layout.placed with
  | nil =>
    have houtline : t.layout.kept.outline = t.layout.trailing := by
      unfold Layout.outline Layout.kept
      rw [hplaced]
      rfl
    rw [← symbols_layout, hplaced, List.flatMap_nil, List.nil_append, List.head?_map, ← houtline, h]
    rfl
  | cons p rest =>
    refine head?_symbols_of_gap hplaced ?_
    unfold Layout.outline Layout.kept at h
    rw [hplaced, List.flatMap_cons] at h
    unfold Placed.outline Placeholder.outline at h
    cases hgap : p.gap with
    | nil => simp [hgap] at h
    | cons c gap =>
      rw [hgap] at h
      exact h

end Template

/-- The name of a group holds only letters, digits and underscores. -/
theorem Regex.IsGroupName.notMem {name : Text} (h : IsGroupName name) {c : Char}
    (hletter : Text.isLetter c = false) (hdigit : Text.isDigit c = false) (hline : c ≠ '_') :
    c ∉ name := by
  intro hc
  rcases h.1 c hc with hc | hc | hc
  · rw [hletter] at hc
    cases hc
  · rw [hdigit] at hc
    cases hc
  · exact hline hc

/-- A name in braces holds no percent sign and no question mark. -/
theorem Placeholder.notMem_outline {p : Placeholder} (h : Regex.IsGroupName p.name) :
    '%' ∉ p.outline ∧ '?' ∉ p.outline := by
  have hpercent : '%' ∉ p.name := h.notMem (by decide) (by decide) (by decide)
  have hquestion : '?' ∉ p.name := h.notMem (by decide) (by decide) (by decide)
  unfold outline
  constructor
  · simp [hpercent]
  · simp [hquestion]

namespace Segment

/-- What a segment of text that is not escaped takes of its outline: its own text, or the name of its
parameter in braces, and a slash if more segments follow and none is glued to it. -/
def ownShare (s : Segment) (more : Bool) : Share where
  before := s.before
  value := s.name.elim s.pattern fun name => Placeholder.outline ⟨name, .none⟩
  after := s.after
  slash := !s.isGlued && more

/-- What the segments take of their outline. -/
def ownShares : List Segment → List Share
  | [] => []
  | s :: rest => s.ownShare (!rest.isEmpty) :: ownShares rest

/-- A segment before others takes all of its outline. -/
theorem text_ownShare_true (s : Segment) : (s.ownShare true).text = s.outline := by
  unfold Share.text ownShare outline
  cases s.isGlued <;> rfl

/-- The last segment leaves the slash behind its outline. -/
theorem text_ownShare_false {s : Segment} (h : s.isGlued = false) :
    (s.ownShare false).text ++ ['/'] = s.outline := by
  unfold Share.text ownShare outline
  rw [h]
  simp

/-- All that the segments take is their outline, but for the last slash. -/
theorem flatMap_text_ownShares {segments : List Segment} (hne : segments ≠ [])
    (hlast : (segments.map (·.isGlued)).getLast? ≠ some true) :
    (ownShares segments).flatMap Share.text ++ ['/'] = segments.flatMap outline := by
  induction segments with
  | nil => exact absurd rfl hne
  | cons s rest ih =>
    rw [ownShares, List.flatMap_cons, List.flatMap_cons, List.append_assoc]
    cases rest with
    | nil =>
      have hown := text_ownShare_false (s := s) (by simpa using hlast)
      rw [List.flatMap_nil, List.append_nil, ← hown]
      rfl
    | cons d rest =>
      rw [List.map_cons, List.map_cons, List.getLast?_cons_cons] at hlast
      rw [ih (List.cons_ne_nil d rest) hlast]
      exact congrArg (· ++ _) s.text_ownShare_true

/-- The segments of a route can be cut from what they take of their outline. -/
theorem isCut_ownShares {segments : List Segment}
    (hname : ∀ name ∈ segments.filterMap (·.name), '/' ∉ name) :
    IsCut PlainValue ((markBorders segments).map escape) (ownShares segments)
      ((ownShares segments).flatMap Share.text) := by
  induction segments with
  | nil => rfl
  | cons s rest ih =>
    have hrest : ∀ name ∈ rest.filterMap (·.name), '/' ∉ name := fun name h =>
      hname name (((List.sublist_cons_self s rest).filterMap _).subset h)
    rw [markBorders, List.map_cons, ownShares, List.flatMap_cons]
    refine ⟨_, rfl, ?_, ih hrest⟩
    constructor
    · exact congrArg _ (Regex.unescape_escape s.before).symm
    · intro hnone
      have hnone : s.name = none := hnone
      unfold ownShare escape
      rw [hnone]
      exact congrArg _ (Regex.unescape_escape s.pattern).symm
    · intro hsome
      obtain ⟨name, hsome⟩ := Option.ne_none_iff_exists'.mp hsome
      have hsome : s.name = some name := hsome
      have hslash : '/' ∉ name := hname name (List.mem_filterMap.mpr ⟨s, List.mem_cons_self, hsome⟩)
      unfold ownShare
      rw [hsome]
      exact ⟨by simp [Placeholder.outline, hslash], fun _ => List.cons_ne_nil _ _⟩
    · exact congrArg _ (Regex.unescape_escape s.after).symm
    · -- The last segment needs no slash, and each segment before others takes one unless it is glued.
      unfold ownShare Separates escape
      cases rest with
      | nil => cases s.isGlued <;> simp [ownShares]
      | cons d rest => cases s.isGlued <;> simp

/-- A value that is taken of an outline is the name of a parameter in braces. -/
theorem mem_captured_ownShares {segments escaped : List Segment}
    (hnames : escaped.map (·.name) = segments.map (·.name)) {p : Text × Text}
    (h : p ∈ captured escaped (ownShares segments)) :
    p.2 = Placeholder.outline ⟨p.1, .none⟩ := by
  induction segments generalizing escaped with
  | nil =>
    rw [List.map_nil, List.map_eq_nil_iff] at hnames
    subst hnames
    exact absurd h List.not_mem_nil
  | cons s rest ih =>
    cases escaped with
    | nil => exact absurd hnames (by simp)
    | cons d escaped =>
      rw [List.map_cons, List.map_cons, List.cons.injEq] at hnames
      rw [ownShares, captured_cons, List.mem_append] at h
      rcases h with h | h
      · rw [hnames.1] at h
        obtain ⟨name, hname, rfl⟩ := Option.map_eq_some_iff.mp (Option.mem_toList.mp h)
        unfold ownShare
        rw [hname]
        rfl
      · exact ih hnames.2 h

end Segment

namespace Route

variable {r : Route} {defaults : Dict ParameterDefault} {query : Values}

/-- The last of the segments from a placeholder on is glued to nothing. -/
theorem getLast?_isGlued_segmentsFrom {trailing : Text} {s : Segment} (hs : s.isGlued = false)
    (placed : List Template.Placed) :
    ((r.segmentsFrom defaults query trailing s placed).map (·.isGlued)).getLast? = some false := by
  induction placed generalizing s with
  | nil =>
    rw [segmentsFrom]
    obtain ⟨-, hcut⟩ | ⟨head, rest, -, -, hcut⟩ := s.splitTrailing_cases trailing
    · rw [hcut, List.map_singleton, hs]
      rfl
    · rw [hcut]
      unfold Segment.literals
      split
      · rw [List.map_singleton, hs]
        rfl
      · rfl
  | cons p rest ih =>
    rw [segmentsFrom, List.map_append, List.getLast?_append, ih rfl]
    rfl

/-- The last segment of a layout is glued to nothing. -/
theorem getLast?_isGlued_layoutSegments (l : Template.Layout) :
    ((r.layoutSegments defaults query l).map (·.isGlued)).getLast? = some false := by
  unfold layoutSegments
  split
  · rfl
  · dsimp only
    rw [List.map_append, List.getLast?_append, getLast?_isGlued_segmentsFrom rfl]
    rfl

/-- What is kept of a template in its outline is a path of its routes, with values that hold no percent
sign and no question mark. -/
theorem exists_isCut_outline {t : Template} {c : CompiledRoute}
    (ht : Template.parse (Text.trim '/' r.template) = .ok t) (hc : r.compile query = .ok c) :
    ∃ shares, IsCut Segment.PlainValue c.segments shares t.layout.kept.outline ∧
      ∀ p ∈ captured c.segments shares, '%' ∉ p.2 ∧ '?' ∉ p.2 := by
  have hlast : t.layout.trailing.getLast? ≠ some '/' := fun h =>
    Template.getLast?_symbols_of_parse ht (Template.getLast?_symbols_of_trailing h)
  have hhead : ∀ p rest, t.layout.placed = p :: rest → p.gap.head? ≠ some '/' :=
    fun p rest hplaced h =>
      Template.head?_symbols_of_parse ht (Template.head?_symbols_of_gap hplaced h)
  have hcompiled := segments_of_compile ht hc
  unfold templateSegments at hcompiled
  obtain ⟨segments, hsegments⟩ : ∃ segments,
      r.layoutSegments (r.mergedDefaults t.layout.placed) query t.layout = segments := ⟨_, rfl⟩
  have hglued : (segments.map (·.isGlued)).getLast? = some false := by
    rw [← hsegments]
    exact getLast?_isGlued_layoutSegments t.layout
  have houtline : segments.flatMap Segment.outline = t.layout.kept.outline ++ ['/'] := by
    rw [← hsegments]
    exact flatMap_outline_layoutSegments hhead hlast
  rw [hsegments] at hcompiled
  have hne : segments ≠ [] := by
    rintro rfl
    cases hglued
  have htext : (Segment.ownShares segments).flatMap Share.text = t.layout.kept.outline := by
    have hown := Segment.flatMap_text_ownShares hne (by rw [hglued]; decide)
    rw [houtline] at hown
    exact List.append_cancel_right hown
  have hnames : c.segments.map (·.name) = segments.map (·.name) := by
    rw [hcompiled, List.map_map]
    exact Segment.map_markBorders (f := (·.name)) (fun _ _ _ => rfl) segments
  have hgroup : ∀ name ∈ c.segments.filterMap (·.name), Regex.IsGroupName name := by
    rw [filterMap_name_of_compile ht hc]
    exact List.forall_mem_map.mpr (Template.isGroupName_of_parse ht)
  have hslash : ∀ name ∈ segments.filterMap (·.name), '/' ∉ name := fun name hname => by
    rw [← Segment.filterMap_name_markBorders] at hname
    refine (hgroup name ?_).notMem (by decide) (by decide) (by decide)
    rw [hcompiled, List.filterMap_map]
    exact hname
  have hcut : IsCut Segment.PlainValue c.segments (Segment.ownShares segments)
      t.layout.kept.outline := by
    rw [hcompiled, ← htext]
    exact Segment.isCut_ownShares hslash
  refine ⟨_, hcut, fun p hp => ?_⟩
  have hname : p.1 ∈ c.segments.filterMap (·.name) := by
    rw [← map_fst_captured hcut]
    exact List.mem_map_of_mem hp
  rw [Segment.mem_captured_ownShares hnames hp]
  exact Placeholder.notMem_outline (hgroup p.1 hname)

end Route

end PathRouting
