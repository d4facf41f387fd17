import PathRouting.Proofs.Template.Components

/-!
# Outlines of compiled routes

The text of a template is cut at slashes when the segments are built, and slashes are put between the
segments again when their expression and their outline are. All of the text comes back in its order,
with one exception: where the text between two placeholders has two slashes and nothing between them,
no segment is made of what stands between the first slash and the last one, so that only one slash
comes back. More slashes in a row do make a segment, and so do two of them elsewhere.
-/

namespace PathRouting

namespace Text

/-- The only slashes of a text are two that follow each other. -/
def IsDoubled (t : Text) : Prop :=
  ∃ head tail, t = head ++ '/' :: '/' :: tail ∧ '/' ∉ head ∧ '/' ∉ tail

/-- The text between two placeholders with one of two slashes left out that follow each other, if
there are no other ones. -/
def kept (t : Text) : Text :=
  match splitFirst '/' t with
  | some (head, '/' :: tail) => if '/' ∈ tail then t else head ++ '/' :: tail
  | _ => t

/-- Whether the only slashes are two that follow each other shows behind the first one. -/
theorem isDoubled_append_iff {head rest : Text} (hhead : '/' ∉ head) :
    IsDoubled (head ++ '/' :: rest) ↔ ∃ tail, rest = '/' :: tail ∧ '/' ∉ tail := by
  constructor
  · rintro ⟨head', tail, heq, hhead', htail⟩
    have hsplit := splitFirst_append hhead rest
    rw [heq, splitFirst_append hhead'] at hsplit
    cases hsplit
    exact ⟨tail, rfl, htail⟩
  · rintro ⟨tail, rfl, htail⟩
    exact ⟨head, tail, rfl, hhead, htail⟩

/-- One of two slashes that follow each other is left out if there are no other ones. -/
theorem kept_doubled {head tail : Text} (hhead : '/' ∉ head) (htail : '/' ∉ tail) :
    kept (head ++ '/' :: '/' :: tail) = head ++ '/' :: tail := by
  unfold kept
  rw [splitFirst_append hhead]
  exact if_neg htail

/-- Nothing is left out of other text. -/
theorem kept_of_not_isDoubled {t : Text} (h : ¬t.IsDoubled) : t.kept = t := by
  unfold kept
  split
  · rename_i head tail hsplit
    obtain ⟨rfl, hhead⟩ := splitFirst_eq_some hsplit
    rw [if_pos]
    by_contra htail
    exact h ⟨head, tail, rfl, hhead, htail⟩
  · rfl

/-- A text is shorter if something is left out of it. -/
theorem length_kept_lt {t : Text} (h : t.IsDoubled) : t.kept.length < t.length := by
  obtain ⟨head, tail, rfl, hhead, htail⟩ := h
  rw [kept_doubled hhead htail]
  simp

/-- Something is left out only of a text with two slashes that follow each other and no other ones. -/
theorem kept_eq_self_iff {t : Text} : t.kept = t ↔ ¬t.IsDoubled := by
  refine ⟨fun h hdoubled => ?_, kept_of_not_isDoubled⟩
  have := length_kept_lt hdoubled
  rw [h] at this
  exact Nat.lt_irrefl _ this

instance (t : Text) : Decidable t.IsDoubled :=
  decidable_of_iff (t.kept ≠ t) (not_congr kept_eq_self_iff |>.trans not_not)

/-- A text is not longer if something is left out of it. -/
theorem length_kept_le (t : Text) : t.kept.length ≤ t.length := by
  by_cases h : t.IsDoubled
  · exact (length_kept_lt h).le
  · rw [kept_of_not_isDoubled h]

end Text

/-- A placeholder in an outline. -/
def Placeholder.outline (p : Placeholder) : Text :=
  '\x7b' :: p.name ++ ['\x7d']

/-- A part of a template in an outline. -/
def Part.outline : Part → Text
  | .literal text => text
  | .placeholder p => p.outline

namespace Template

/-- A template with its literal text as it stands for itself and the names of its placeholders in
braces. -/
def outline (t : Template) : Text :=
  t.flatMap Part.outline

/-- A placeholder in an outline, with the text before it. -/
def Placed.outline (p : Placed) : Text :=
  p.gap ++ p.placeholder.outline

/-- A placeholder with what is kept of the text between it and the one before. -/
def Placed.kept (p : Placed) : Placed :=
  { p with gap := p.gap.kept }

/-- A layout in an outline. -/
def Layout.outline (l : Layout) : Text :=
  l.placed.flatMap Placed.outline ++ l.trailing

/-- A layout with what is kept of the text between its placeholders. -/
def Layout.kept (l : Layout) : Layout where
  placed := match l.placed with
    | [] => []
    | first :: rest => first :: rest.map Placed.kept
  trailing := l.trailing

/-- A template and its layout have the same outline. -/
theorem outline_layoutAfter (gap : Text) (t : Template) :
    (layoutAfter gap t).outline = gap ++ t.outline := by
  induction t generalizing gap with
  | nil => exact (List.append_nil gap).symm
  | cons part rest ih =>
    cases part with
    | literal text =>
      rw [layoutAfter, ih, List.append_assoc]
      rfl
    | placeholder p =>
      have hrest := ih []
      unfold Layout.outline at hrest ⊢
      rw [layoutAfter, List.flatMap_cons, List.append_assoc, hrest]
      exact List.append_assoc ..

/-- A template and its layout have the same outline. -/
theorem outline_layout (t : Template) : t.layout.outline = t.outline :=
  outline_layoutAfter [] t

section

variable {placed : List Placed}

/-- What is kept of a row of placeholders is not longer than the row. -/
theorem length_flatMap_kept_le (placed : List Placed) :
    ((placed.map Placed.kept).flatMap Placed.outline).length ≤
      (placed.flatMap Placed.outline).length := by
  induction placed with
  | nil => exact Nat.le_refl 0
  | cons p rest ih =>
    have hgap : p.kept.outline.length ≤ p.outline.length := by
      unfold Placed.outline
      rw [List.length_append, List.length_append]
      exact Nat.add_le_add_right p.gap.length_kept_le _
    rw [List.map_cons, List.flatMap_cons, List.flatMap_cons, List.length_append, List.length_append]
    exact Nat.add_le_add hgap ih

/-- All of the text of a row of placeholders is kept if none of it is two slashes in a row. -/
theorem flatMap_kept_eq_iff : (placed.map Placed.kept).flatMap Placed.outline =
    placed.flatMap Placed.outline ↔ ∀ p ∈ placed, ¬p.gap.IsDoubled := by
  constructor
  · intro h
    induction placed with
    | nil => exact fun _ hp => absurd hp List.not_mem_nil
    | cons p rest ih =>
      rw [List.map_cons, List.flatMap_cons, List.flatMap_cons] at h
      have hlength := congrArg List.length h
      have hgap := p.gap.length_kept_le
      have hrest := length_flatMap_kept_le rest
      have hkept : p.kept.outline.length = p.gap.kept.length + p.placeholder.outline.length :=
        List.length_append
      have hown : p.outline.length = p.gap.length + p.placeholder.outline.length :=
        List.length_append
      rw [List.length_append, List.length_append, hkept, hown] at hlength
      refine List.forall_mem_cons.mpr ⟨fun hdoubled => ?_, ih (List.append_inj_right h ?_)⟩
      · have := Text.length_kept_lt hdoubled
        omega
      · omega
  · intro h
    have hkept : placed.map Placed.kept = placed := by
      refine (List.map_congr_left fun p hp => ?_).trans (List.map_id placed)
      unfold Placed.kept
      rw [Text.kept_of_not_isDoubled (h p hp)]
      rfl
    rw [hkept]

end

/-- All of the text of a layout is kept if none of it is two slashes between placeholders. -/
theorem Layout.outline_kept_eq_iff (l : Layout) :
    l.kept.outline = l.outline ↔ ∀ p ∈ l.placed.tail, ¬p.gap.IsDoubled := by
  unfold outline kept
  cases l.placed with
  | nil => simp
  | cons p rest =>
    rw [List.flatMap_cons, List.flatMap_cons, List.append_cancel_right_eq,
      List.append_cancel_left_eq]
    exact flatMap_kept_eq_iff

/-- The outline of a layout ends with a slash only if the text behind its last placeholder does. -/
theorem Layout.getLast?_outline {l : Layout} (h : l.outline.getLast? = some '/') :
    l.trailing.getLast? = some '/' := by
  unfold outline at h
  obtain hnil | ⟨front, c, htrailing⟩ := l.trailing.eq_nil_or_concat'
  · obtain hnone | ⟨front, p, hplaced⟩ := l.placed.eq_nil_or_concat'
    · rw [hnil, hnone] at h
      cases h
    · have hlast : p.outline = (p.gap ++ '\x7b' :: p.placeholder.name) ++ ['\x7d'] :=
        (List.append_assoc ..).symm
      rw [hnil, hplaced, List.append_nil, List.flatMap_append, List.flatMap_singleton, hlast,
        ← List.append_assoc, List.getLast?_concat] at h
      cases h
  · rwa [htrailing, ← List.append_assoc, List.getLast?_concat, ← List.getLast?_concat (l := front),
      ← htrailing] at h

end Template

namespace Segment

/-- A segment of text that is not escaped, in an outline. -/
def outline (s : Segment) : Text :=
  s.before ++ (s.name.elim s.pattern fun name => Placeholder.outline ⟨name, .none⟩) ++ s.after ++
    if s.isGlued then [] else ['/']

/-- Without query values, the outline of an escaped segment shows its own text. -/
theorem outlineOf_escape (s : Segment) : outlineOf ∅ s.escape = s.outline := by
  have hvalue : outlineValue ∅ s.escape =
      s.name.elim s.pattern fun name => Placeholder.outline ⟨name, .none⟩ := by
    unfold outlineValue escape
    cases s.name with
    | none => exact Regex.unescape_escape s.pattern
    | some name => rfl
  unfold outlineOf outline
  rw [hvalue]
  unfold escape
  rw [Regex.unescape_escape, Regex.unescape_escape]

/-- Marking borders does not show in an outline. -/
theorem flatMap_outline_markBorders (segments : List Segment) :
    (markBorders segments).flatMap outline = segments.flatMap outline := by
  rw [List.flatMap_def, List.flatMap_def, map_markBorders (fun _ _ _ => rfl)]

/-- A piece of literal text has a slash behind it. -/
theorem flatMap_outline_literals {text : Text} (h : text ≠ []) :
    (literals text).flatMap outline = text ++ ['/'] := by
  unfold literals
  rw [if_neg (by simpa using h), List.flatMap_singleton]
  change [] ++ text ++ [] ++ ['/'] = _
  rw [List.nil_append, List.append_nil]

/-- All of the text before the first placeholder comes back. -/
theorem flatMap_outline_splitLeading {text : Text} (h : text.head? ≠ some '/') :
    (splitLeading text).1.flatMap outline ++ (splitLeading text).2 = text := by
  obtain ⟨-, hcut⟩ | ⟨front, back, rfl, -, hcut⟩ := splitLeading_cases text
  · rw [hcut]
    rfl
  · have hfront : front ≠ [] := by
      rintro rfl
      exact h rfl
    rw [hcut, flatMap_outline_literals hfront, List.append_assoc]
    rfl

end Segment

namespace Route

variable {r : Route} {defaults : Dict ParameterDefault} {query : Values}

/-- The segment of a placeholder and the segments up to the next one show what is kept of the text
between the two. -/
theorem flatMap_outline_splitBetween (r : Route) (defaults : Dict ParameterDefault)
    (query : Values) (p : Placeholder) (before gap : Text) :
    ((r.segmentOf defaults query p before).splitBetween gap).1.flatMap Segment.outline ++
        ((r.segmentOf defaults query p before).splitBetween gap).2 =
      before ++ p.outline ++ gap.kept := by
  have hown : ∀ after, Segment.outline { r.segmentOf defaults query p before with after } =
      before ++ p.outline ++ after ++ ['/'] := fun _ => rfl
  obtain ⟨hslash, hcut⟩ | ⟨head, tail, rfl, hhead, htail, hcut⟩ |
    ⟨head, middle, tail, rfl, hhead, htail, hcut⟩ :=
      (r.segmentOf defaults query p before).splitBetween_cases gap
  · have hgap : ¬gap.IsDoubled := by
      rintro ⟨head, tail, rfl, -⟩
      exact hslash (by simp)
    have houtline : Segment.outline { r.segmentOf defaults query p before with isGlued := true } =
        before ++ p.outline ++ [] ++ [] := rfl
    rw [hcut, Text.kept_of_not_isDoubled hgap, List.flatMap_singleton, houtline, List.append_nil,
      List.append_nil]
  · have hgap : ¬Text.IsDoubled (head ++ '/' :: tail) := by
      rw [Text.isDoubled_append_iff hhead]
      rintro ⟨rest, rfl, -⟩
      exact htail List.mem_cons_self
    rw [hcut, Text.kept_of_not_isDoubled hgap, List.flatMap_singleton, hown]
    simp
  · rw [hcut, List.flatMap_cons, hown]
    by_cases hmiddle : middle = []
    · subst hmiddle
      rw [List.nil_append, Text.kept_doubled hhead htail]
      simp [Segment.literals]
    · have hgap : ¬Text.IsDoubled (head ++ '/' :: (middle ++ '/' :: tail)) := by
        rw [Text.isDoubled_append_iff hhead]
        rintro ⟨rest, heq, hrest⟩
        obtain ⟨c, middle, rfl⟩ := List.exists_cons_of_ne_nil hmiddle
        obtain ⟨-, rfl⟩ := List.cons.inj heq
        exact hrest (by simp)
      rw [Text.kept_of_not_isDoubled hgap, Segment.flatMap_outline_literals hmiddle]
      simp

/-- The segments from a placeholder on show its name and what is kept of the text behind it. -/
theorem flatMap_outline_segmentsFrom {trailing : Text} (htrailing : trailing.getLast? ≠ some '/')
    (p : Placeholder) (before : Text) (placed : List Template.Placed) :
    (r.segmentsFrom defaults query trailing (r.segmentOf defaults query p before) placed).flatMap
        Segment.outline =
      before ++ p.outline ++ (placed.map Template.Placed.kept).flatMap Template.Placed.outline ++
        trailing ++ ['/'] := by
  induction placed generalizing p before with
  | nil =>
    have hown : ∀ after, Segment.outline { r.segmentOf defaults query p before with after } =
        before ++ p.outline ++ after ++ ['/'] := fun _ => rfl
    rw [segmentsFrom, List.map_nil, List.flatMap_nil, List.append_nil]
    obtain ⟨-, hcut⟩ | ⟨head, rest, rfl, -, hcut⟩ :=
      (r.segmentOf defaults query p before).splitTrailing_cases trailing
    · rw [hcut, List.flatMap_singleton, hown]
    · have hrest : rest ≠ [] := by
        rintro rfl
        exact htrailing (by simp)
      rw [hcut, List.flatMap_cons, hown, Segment.flatMap_outline_literals hrest]
      simp
  | cons q placed ih =>
    have hbetween := flatMap_outline_splitBetween r defaults query p before q.gap
    have hq : q.kept.outline = q.gap.kept ++ q.placeholder.outline := rfl
    rw [segmentsFrom, List.flatMap_append, ih, List.map_cons, List.flatMap_cons, hq]
    simp only [← List.append_assoc] at hbetween ⊢
    rw [hbetween]

/-- The segments of a layout show its names and what is kept of its text. -/
theorem flatMap_outline_layoutSegments {l : Template.Layout}
    (hhead : ∀ p rest, l.placed = p :: rest → p.gap.head? ≠ some '/')
    (hlast : l.trailing.getLast? ≠ some '/') :
    (r.layoutSegments defaults query l).flatMap Segment.outline = l.kept.outline ++ ['/'] := by
  unfold layoutSegments Template.Layout.kept Template.Layout.outline
  split
  · rename_i hplaced
    rw [hplaced, List.flatMap_singleton]
    change [] ++ l.trailing ++ [] ++ ['/'] = _
    rw [List.append_nil]
    rfl
  · rename_i gap p rest hplaced
    have hleading := Segment.flatMap_outline_splitLeading (hhead _ _ hplaced)
    rw [hplaced, List.flatMap_append, flatMap_outline_segmentsFrom hlast, List.flatMap_cons]
    simp only [← List.append_assoc]
    rw [hleading]
    rfl

end Route

section

variable {r : Route} {t : Template} {c : CompiledRoute}

/-- The outline of a compiled route without query values shows the names and what is kept of the text
of its template. It is the template with its braces made single, unless the text between two
placeholders has two slashes that follow each other and no other ones. -/
theorem outline_eq_kept (ht : Template.parse (Text.trim '/' r.template) = .ok t)
    (hc : r.compile ∅ = .ok c) :
    c.segments.flatMap (Segment.outlineOf ∅) = t.layout.kept.outline ++ ['/'] ∧
    c.outline = t.layout.kept.outline ∧
    (c.outline = t.outline ↔ ∀ p ∈ t.layout.placed.tail, ¬p.gap.IsDoubled) := by
  have hlast : t.layout.trailing.getLast? ≠ some '/' := fun h =>
    Template.getLast?_symbols_of_parse ht (Template.getLast?_symbols_of_trailing h)
  have hsegments : c.segments.flatMap (Segment.outlineOf ∅) = t.layout.kept.outline ++ ['/'] := by
    have houtline : (fun s : Segment => Segment.outlineOf ∅ s.escape) = Segment.outline :=
      funext Segment.outlineOf_escape
    rw [Route.segments_of_compile ht hc, List.flatMap_map, houtline]
    unfold Route.templateSegments
    rw [Segment.flatMap_outline_markBorders]
    refine Route.flatMap_outline_layoutSegments (fun p rest hplaced hhead => ?_) hlast
    exact Template.head?_symbols_of_parse ht (Template.head?_symbols_of_gap hplaced hhead)
  have hkept : c.outline = t.layout.kept.outline := by
    obtain ⟨-, -, -, -, -, -, -, houtline⟩ := Route.compile_eq_ok hc
    rw [houtline, Segment.joinedOutline, hsegments]
    rw [Text.trimEnd_concat]
    exact Text.trimEnd_of_getLast? fun h =>
      hlast (Template.Layout.getLast?_outline (l := t.layout.kept) h)
  refine ⟨hsegments, hkept, ?_⟩
  rw [hkept, ← t.outline_layout]
  exact t.layout.outline_kept_eq_iff

/-- A route with braces in its text and with two slashes or more in a row. -/
def chapterRoute : Route :=
  { template := "/docs.{{v}}/{page}///x.{tab?}//end/".toList }

/-- What the template of the route is read as. -/
def chapterTemplate : Template :=
  [.literal "docs.{v}/".toList, .placeholder ⟨"page".toList, .none⟩, .literal "///x.".toList,
    .placeholder ⟨"tab".toList, .optional⟩, .literal "//end".toList]

/-- All of the text of the template comes back. -/
theorem chapterRoute_outline_eq : ∃ c, chapterRoute.compile ∅ = .ok c ∧
    c.segments.flatMap (Segment.outlineOf ∅) = "docs.{v}/{page}///x.{tab}//end/".toList ∧
    c.outline = "docs.{v}/{page}///x.{tab}//end".toList := by
  have hany : (chapterRoute.compile ∅).toOption.any (fun _ => true) = true := by decide +kernel
  obtain ⟨c, hc, -⟩ := exists_ok_of_any_toOption hany
  have ht : Template.parse (Text.trim '/' chapterRoute.template) = .ok chapterTemplate := by
    decide +kernel
  have hdoubled : ∀ p ∈ chapterTemplate.layout.placed.tail, ¬p.gap.IsDoubled := by decide
  have houtline : chapterTemplate.outline = "docs.{v}/{page}///x.{tab}//end".toList := by decide
  obtain ⟨hsegments, hkept, hiff⟩ := outline_eq_kept ht hc
  have hall := hiff.mpr hdoubled
  refine ⟨c, hc, ?_, hall.trans houtline⟩
  rw [hsegments, ← hkept, hall, houtline]
  rfl

/-- A route with two slashes between its placeholders. -/
def doubledRoute : Route :=
  { template := "{a}//{b}".toList }

/-- One of two slashes between placeholders is lost, so that a path needs only one of them. -/
theorem doubledRoute_outline_ne : ∃ t c,
    Template.parse (Text.trim '/' doubledRoute.template) = .ok t ∧ doubledRoute.compile ∅ = .ok c ∧
    t.outline = "{a}//{b}".toList ∧ c.outline = "{a}/{b}".toList ∧
    c.valuesIn? "x//y".toList ∅ = none ∧
    c.valuesIn? "x/y".toList ∅ = some (.ofList [("a".toList, ['x']), ("b".toList, ['y'])]) := by
  have ht : Template.parse (Text.trim '/' doubledRoute.template) = .ok
      [.placeholder ⟨"a".toList, .none⟩, .literal "//".toList, .placeholder ⟨"b".toList, .none⟩] := by
    decide +kernel
  have hany : (doubledRoute.compile ∅).toOption.any (fun c =>
      decide (c.outline = "{a}/{b}".toList) && decide (c.valuesIn? "x//y".toList ∅ = none) &&
        decide (c.valuesIn? "x/y".toList ∅ =
          some (.ofList [("a".toList, ['x']), ("b".toList, ['y'])]))) = true := by decide +kernel
  obtain ⟨c, hc, hall⟩ := exists_ok_of_any_toOption hany
  simp only [Bool.and_eq_true, decide_eq_true_eq] at hall
  obtain ⟨⟨houtline, hdoubled⟩, hsingle⟩ := hall
  exact ⟨_, c, ht, hc, by decide, houtline, hdoubled, hsingle⟩

end

end PathRouting
