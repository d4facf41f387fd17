import PathRouting.Proofs.Route.Substitution
import PathRouting.Proofs.Template.Rows

/-!
# Routes that are rows of components

The segments of a route whose template is a row are its literal text and its placeholders, nothing
else. A path may stop behind any of them if the parameters of the others have a value in the query
string: each of these can be absent then, and no separator is needed before them.
-/

namespace PathRouting

namespace Route

variable {r : Route} {defaults : Dict ParameterDefault} {query : Values} {text : Text}
  {ps : List Placeholder}

/-- Where only slashes stand between placeholders, each of them is a segment without text. -/
theorem segmentsFrom_slashed (p : Placeholder) (ps : List Placeholder) :
    r.segmentsFrom defaults query [] (r.segmentOf defaults query p []) (ps.map (⟨['/'], ·⟩)) =
      (p :: ps).map (r.segmentOf defaults query · []) := by
  induction ps generalizing p with
  | nil => rfl
  | cons q ps ih =>
    rw [List.map_cons, List.map_cons, ← ih q]
    rfl

/-- The segments of a row are its text and its placeholders. -/
theorem layoutSegments_row (h : text ≠ [] ∨ ps ≠ []) :
    r.layoutSegments defaults query (Template.row text ps).layout =
      Segment.literals text ++ ps.map (r.segmentOf defaults query · []) := by
  cases ps with
  | nil =>
    have htext : text.isEmpty = false := by simpa using h
    rw [Template.layout_row_nil]
    unfold layoutSegments Segment.literals
    rw [htext]
    rfl
  | cons p ps =>
    have hleading : Segment.splitLeading (if text.isEmpty then [] else text ++ ['/']) =
        (Segment.literals text, []) := by
      cases text with
      | nil => rfl
      | cons c text =>
        unfold Segment.splitLeading
        rw [List.isEmpty_cons, if_neg Bool.false_ne_true,
          Text.splitLast_append (c :: text) List.not_mem_nil]
    rw [Template.layout_row_cons]
    unfold layoutSegments
    dsimp only
    rw [hleading, segmentsFrom_slashed]

/-- The segments of a row have no text around a value. -/
theorem bare_of_mem_row {s : Segment}
    (hs : s ∈ r.layoutSegments defaults query (Template.row text ps).layout) :
    s.before = [] ∧ s.after = [] := by
  by_cases h : text ≠ [] ∨ ps ≠ []
  · rw [layoutSegments_row h] at hs
    rcases List.mem_append.mp hs with hs | hs
    · unfold Segment.literals at hs
      split at hs
      · exact absurd hs List.not_mem_nil
      · obtain rfl := List.mem_singleton.mp hs
        exact ⟨rfl, rfl⟩
    · obtain ⟨p, -, rfl⟩ := List.mem_map.mp hs
      exact ⟨rfl, rfl⟩
  · rw [not_or, not_not, not_not] at h
    obtain ⟨rfl, rfl⟩ := h
    obtain rfl := List.mem_singleton.mp hs
    exact ⟨rfl, rfl⟩

end Route

section

variable {r : Route} {query : Values} {c : CompiledRoute} {text : Text} {ps : List Placeholder}
  {assign : Text → Text}

/-- No text is attached to the parameters of a row. -/
theorem bare_of_compile_row
    (ht : Template.parse (Text.trim '/' r.template) = .ok (Template.row text ps))
    (hc : r.compile query = .ok c) : ∀ s ∈ c.segments, s.Bare := by
  intro s hs _
  rw [Route.segments_of_compile ht hc] at hs
  obtain ⟨d, hd, rfl⟩ := List.mem_map.mp hs
  obtain ⟨e, he, _, _, rfl⟩ := Segment.exists_mem_of_mem_markBorders hd
  obtain ⟨hbefore, hafter⟩ := Route.bare_of_mem_row he
  unfold Segment.escape
  rw [Regex.unescape_escape, Regex.unescape_escape]
  exact ⟨hbefore, hafter⟩

/-- The names of the segments of a row, with what is made for each of them. -/
theorem map_own_row
    (ht : Template.parse (Text.trim '/' r.template) = .ok (Template.row text ps))
    (hc : r.compile query = .ok c) (h : text ≠ [] ∨ ps ≠ []) (assign : Text → Text) :
    c.segments.map (fun s => (s.name, (s.filled assign false).own)) =
      (if text.isEmpty then [] else [(none, text)]) ++
        ps.map fun p => (some p.name, Percent.encode (assign p.name)) := by
  have hliterals : (Segment.literals text).map
      (fun s => (s.escape.name, (s.escape.filled assign false).own)) =
        if text.isEmpty then [] else [(none, text)] := by
    have hown : ((Segment.literal text).escape.filled assign false).own = text := by
      change [] ++ Regex.unescape (Regex.escape text) ++ [] = text
      rw [Regex.unescape_escape, List.nil_append, List.append_nil]
    unfold Segment.literals
    split
    · rfl
    · rw [List.map_singleton, hown]
      rfl
  rw [Route.segments_of_compile ht hc, List.map_map]
  unfold Route.templateSegments
  rw [Segment.map_markBorders (fun _ _ _ => rfl), Route.layoutSegments_row h, List.map_append,
    List.map_map]
  change (Segment.literals text).map
    (fun s => (s.escape.name, (s.escape.filled assign false).own)) ++ _ = _
  rw [hliterals, List.append_cancel_left_eq]
  refine List.map_congr_left fun p _ => ?_
  change (some p.name, [] ++ Percent.encode (assign p.name) ++ []) = _
  rw [List.nil_append, List.append_nil]

/-- The segments of a row can be parted behind each of its placeholders. -/
theorem exists_append_row
    (ht : Template.parse (Text.trim '/' r.template) = .ok (Template.row text ps))
    (hc : r.compile query = .ok c) (assign : Text → Text) (k : Nat) : ∃ front back,
      c.segments = front ++ back ∧
      filledPath assign front = ['/'].intercalate
        (Text.pieces text ((ps.take k).map fun p => Percent.encode (assign p.name))) ∧
      front.filterMap (·.name) = (ps.take k).map (·.name) ∧
      back.map (·.name) = (ps.drop k).map fun p => some p.name := by
  by_cases h : text ≠ [] ∨ ps ≠ []
  · have hown := map_own_row ht hc h assign
    generalize hlead : (if text.isEmpty then [] else [((none : Option Text), text)]) = lead at hown
    have hleadNames : lead.filterMap Prod.fst = [] := by
      rw [← hlead]
      split <;> rfl
    have hleadTexts : lead.map Prod.snd = if text.isEmpty then [] else [text] := by
      rw [← hlead]
      split <;> rfl
    have hfront : (c.segments.take (lead.length + k)).map
        (fun s => (s.name, (s.filled assign false).own)) =
          lead ++ (ps.take k).map fun p => (some p.name, Percent.encode (assign p.name)) := by
      rw [List.map_take, hown, List.take_length_add_append, List.map_take]
    have hback : (c.segments.drop (lead.length + k)).map
        (fun s => (s.name, (s.filled assign false).own)) =
          (ps.drop k).map fun p => (some p.name, Percent.encode (assign p.name)) := by
      rw [List.map_drop, hown, List.drop_length_add_append, List.map_drop]
    refine ⟨_, _, (List.take_append_drop (lead.length + k) c.segments).symm, ?_, ?_, ?_⟩
    · have htexts := congrArg (List.map Prod.snd) hfront
      rw [List.map_map, List.map_append, hleadTexts, List.map_map] at htexts
      rw [filledPath_eq_intercalate]
      exact congrArg ['/'].intercalate htexts
    · have hnames := congrArg (List.filterMap Prod.fst) hfront
      rw [List.filterMap_map, List.filterMap_append, hleadNames, List.nil_append,
        List.filterMap_map] at hnames
      exact hnames.trans (congrFun (List.filterMap_eq_map (f := Placeholder.name)) _)
    · have hnames := congrArg (List.map Prod.fst) hback
      rwa [List.map_map, List.map_map] at hnames
  · rw [not_or, not_not, not_not] at h
    obtain ⟨rfl, rfl⟩ := h
    refine ⟨c.segments, [], (List.append_nil _).symm, ?_, ?_, ?_⟩
    · rw [Route.segments_of_compile ht hc, List.take_nil]
      rfl
    · rw [Route.segments_of_compile ht hc, List.take_nil]
      rfl
    · rw [List.drop_nil]
      rfl

/-- A route without constraints whose template is a row matches the path that is made of a first part
of the row, if the query string has values that are not empty for the other parameters. -/
theorem valuesIn?_row (hr : r.ConstraintFree)
    (ht : Template.parse (Text.trim '/' r.template) = .ok (Template.row text ps))
    (hc : r.compile query = .ok c) (hassign : ∀ p ∈ ps, assign p.name ≠ []) {k : Nat}
    (hquery : ∀ p ∈ ps.drop k, query.nonempty? p.name = some (assign p.name)) :
    c.valuesIn? (['/'].intercalate
        (Text.pieces text ((ps.take k).map fun p => Percent.encode (assign p.name)))) query =
      some (.ofList (ps.map fun p => (p.name, assign p.name))) := by
  obtain ⟨front, back, happend, hpath, hfront, hback⟩ := exists_append_row ht hc assign k
  obtain ⟨hmarked, hwhole⟩ := Route.whole_of_compile ht Template.unglued_row hc
  have hbare := bare_of_compile_row ht hc
  rw [happend] at hmarked hwhole hbare
  have hnamesFront : ∀ name ∈ (ps.take k).map (·.name), assign name ≠ [] :=
    List.forall_mem_map.mpr fun p hp => hassign p (List.mem_of_mem_take hp)
  have hnamesBack : ∀ name ∈ (ps.drop k).map (·.name), query.nonempty? name = some (assign name) :=
    List.forall_mem_map.mpr hquery
  have hassignFront : ∀ s ∈ front, ∀ name, s.name = some name → assign name ≠ [] := by
    intro s hs name hname
    refine hnamesFront name ?_
    rw [← hfront]
    exact List.mem_filterMap.mpr ⟨s, hs, hname⟩
  have hopt : ∀ s ∈ back, s.isOptional = true := by
    intro s hs
    have hmem : s.name ∈ back.map (·.name) := List.mem_map_of_mem hs
    rw [hback] at hmem
    obtain ⟨p, hp, hname⟩ := List.mem_map.mp hmem
    rw [(hwhole s (List.mem_append_right _ hs)).named p.name hname.symm]
    unfold Route.mayBeAbsent
    rw [hquery p hp, Option.isSome_some, Bool.or_true]
  have hnames : back.filterMap (·.name) = (ps.drop k).map (·.name) := by
    have hjoin := congrArg (List.filterMap id) hback
    rw [List.filterMap_map, List.filterMap_map] at hjoin
    exact hjoin.trans (congrFun (List.filterMap_eq_map (f := Placeholder.name)) _)
  have hcut := head?_cuts_filledPath_append hmarked hwhole hassignFront hopt
    fun s hs => hbare s (List.mem_append_right _ hs)
  rw [valuesIn?_eq_delivered? hr hc, happend, ← hpath, hcut, Option.map_some, Option.bind_some,
    captured_filledShares_append, hfront, hnames, delivered?_append hnamesFront hnamesBack,
    ← List.map_append, List.take_append_drop, List.map_map]
  rfl

end

end PathRouting
