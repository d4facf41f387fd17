import PathRouting.Proofs.Route.Defaults
import PathRouting.Proofs.Route.Match
import PathRouting.Proofs.Segment.FirstCut

/-!
# Routes that are matched component by component

Where no placeholders are glued together and the optional parameters come last, each as a component
of its own, a compiled route without constraints gives the same values as the plain matcher that
goes through the components of its template.
-/

namespace PathRouting

/-- A parameter may be absent from a path: its placeholder or the route has a default for it, or the
query string has a value for it that is not empty. -/
def Route.mayBeAbsent (r : Route) (t : Template) (query : Values) (name : Text) : Bool :=
  t.placeholders.any (fun p => p.name == name && p.default != .none) || r.defaults.contains name ||
    (query.nonempty? name).isSome

/-- A component belongs to a parameter that may be absent. -/
def Component.IsOptional (isOptional : Text → Bool) (c : Component) : Prop :=
  c.name.any isOptional = true

/-- The parameters that may be absent come last, each as a component of its own. -/
structure Template.OptionalTail (isOptional : Text → Bool) (t : Template) : Prop where
  /-- No text is attached to them. -/
  bare : ∀ c ∈ t.components, c.IsOptional isOptional → c.before = [] ∧ c.after = []
  /-- Nothing else follows them. -/
  last : t.components.Pairwise fun c d => c.IsOptional isOptional → d.IsOptional isOptional

/-- The values of parameters, from what a path gives to them: what is not empty is decoded, and for
the others a value of the query string may stand in. -/
def delivered? (query : Values) (taken : List (Text × Text)) : Option Values := do
  let values ← taken.mapM fun (name, text) =>
    if text.isEmpty then some ((query.nonempty? name).map (name, ·))
    else (Percent.decode? text).map fun value => some (name, value)
  return .ofList (values.filterMap id)

/-- The values of the parameters in a path that is matched component by component. -/
def Route.matchComponents? (r : Route) (t : Template) (query : Values) (path : Text) :
    Option Values := do
  delivered? query (← captured? (r.mayBeAbsent t query) t.components (path.splitOn '/'))

/-- A parameter may be absent if it has a default once those of the placeholders are merged in. -/
theorem Route.isOptional_mergedDefaults (r : Route) (t : Template) (query : Values) (name : Text) :
    isOptional (r.mergedDefaults t.layout.placed) query name = r.mayBeAbsent t query name := by
  have hplaced : t.layout.placed.map (·.placeholder) = t.placeholders :=
    Template.map_placeholder_layoutAfter [] t
  unfold isOptional mayBeAbsent
  rw [contains_mergedDefaults, ← hplaced, List.any_map]
  rfl

namespace Segment

/-- A segment is part of no other component, and its borders are not marked yet. -/
structure Separate (s : Segment) : Prop where
  /-- The next segment does not follow directly. -/
  isGlued : s.isGlued = false
  /-- The mark of the last segment is not set. -/
  isLast : s.isLast = false
  /-- The mark of segments before optional ones is not set. -/
  optionalRest : s.optionalRest = false
  /-- The text before the value is part of a component. -/
  before : '/' ∉ s.before
  /-- The text behind the value is part of a component. -/
  after : '/' ∉ s.after

/-- Pieces of literal text are separate. -/
theorem separate_literals (text : Text) : ∀ s ∈ literals text, s.Separate := by
  intro s hs
  unfold literals at hs
  split at hs
  · exact absurd hs List.not_mem_nil
  · obtain rfl := List.mem_singleton.mp hs
    exact ⟨rfl, rfl, rfl, List.not_mem_nil, List.not_mem_nil⟩

end Segment

namespace Route

variable {r : Route} {defaults : Dict ParameterDefault} {query : Values}

/-- The segments from a placeholder on are separate if a slash stands in every gap. -/
theorem separate_segmentsFrom {trailing : Text} {s : Segment} {placed : List Template.Placed}
    (hs : s.Separate) (hglue : ∀ p ∈ placed, '/' ∈ p.gap) :
    ∀ d ∈ r.segmentsFrom defaults query trailing s placed, d.Separate := by
  have hafter : ∀ {s : Segment} {after : Text}, s.Separate → '/' ∉ after →
      Segment.Separate { s with after } := fun hs hafter =>
    ⟨hs.isGlued, hs.isLast, hs.optionalRest, hs.before, hafter⟩
  induction placed generalizing s with
  | nil =>
    intro d hd
    rw [segmentsFrom] at hd
    obtain ⟨hslash, hcut⟩ | ⟨head, rest, -, hhead, hcut⟩ := s.splitTrailing_cases trailing
    · rw [hcut] at hd
      obtain rfl := List.mem_singleton.mp hd
      exact hafter hs hslash
    · rw [hcut] at hd
      rcases List.mem_cons.mp hd with rfl | hd
      · exact hafter hs hhead
      · exact Segment.separate_literals _ d hd
  | cons p rest ih =>
    obtain ⟨hgap, hglue⟩ := List.forall_mem_cons.mp hglue
    have hnext : ∀ before : Text, '/' ∉ before →
        (r.segmentOf defaults query p.placeholder before).Separate := fun before hbefore =>
      ⟨rfl, rfl, rfl, hbefore, List.not_mem_nil⟩
    have hbetween : (∀ d ∈ (s.splitBetween p.gap).1, d.Separate) ∧
        '/' ∉ (s.splitBetween p.gap).2 := by
      obtain ⟨hslash, -⟩ | ⟨head, tail, -, hhead, htail, hcut⟩ |
        ⟨head, middle, tail, -, hhead, htail, hcut⟩ := s.splitBetween_cases p.gap
      · exact absurd hgap hslash
      · rw [hcut]
        exact ⟨List.forall_mem_singleton.mpr (hafter hs hhead), htail⟩
      · rw [hcut]
        exact ⟨List.forall_mem_cons.mpr ⟨hafter hs hhead, Segment.separate_literals middle⟩, htail⟩
    intro d hd
    rw [segmentsFrom] at hd
    rcases List.mem_append.mp hd with hd | hd
    · exact hbetween.1 d hd
    · exact ih (hnext _ hbetween.2) hglue d hd

/-- The segments of an unglued template are separate. -/
theorem separate_layoutSegments {t : Template} (hglue : t.Unglued) :
    ∀ s ∈ r.layoutSegments defaults query t.layout, s.Separate := by
  unfold Template.Unglued at hglue
  intro s hs
  unfold layoutSegments at hs
  split at hs
  · obtain rfl := List.mem_singleton.mp hs
    exact ⟨rfl, rfl, rfl, List.not_mem_nil, List.not_mem_nil⟩
  · rename_i gap p rest hplaced
    rw [hplaced] at hglue
    have hleading : (∀ d ∈ (Segment.splitLeading gap).1, d.Separate) ∧
        '/' ∉ (Segment.splitLeading gap).2 := by
      obtain ⟨hslash, hcut⟩ | ⟨front, back, -, hback, hcut⟩ := Segment.splitLeading_cases gap
      · rw [hcut]
        exact ⟨fun d hd => absurd hd List.not_mem_nil, hslash⟩
      · rw [hcut]
        exact ⟨Segment.separate_literals front, hback⟩
    rcases List.mem_append.mp hs with hs | hs
    · exact hleading.1 s hs
    · exact separate_segmentsFrom (s := r.segmentOf defaults query p _)
        ⟨rfl, rfl, rfl, hleading.2, List.not_mem_nil⟩ hglue s hs

/-- The segments of a compiled route are marked as they should be, and they stand for whole
components. -/
theorem whole_of_compile {t : Template} (ht : Template.parse (Text.trim '/' r.template) = .ok t)
    (hglue : t.Unglued) {c : CompiledRoute} (hc : r.compile query = .ok c) :
    Segment.Marked c.segments ∧ ∀ s ∈ c.segments, s.Whole (r.mayBeAbsent t query) := by
  rw [segments_of_compile ht hc]
  constructor
  · refine (Segment.marked_markBorders fun s hs => ?_).map_escape
    have hsep := separate_layoutSegments hglue s hs
    exact ⟨hsep.isLast, hsep.optionalRest⟩
  · intro s hs
    obtain ⟨d, hd, rfl⟩ := List.mem_map.mp hs
    have hbuilt := builtFor_templateSegments d hd
    obtain ⟨e, he, isLast, optionalRest, rfl⟩ := Segment.exists_mem_of_mem_markBorders hd
    have hsep := separate_layoutSegments hglue e he
    refine ⟨hsep.isGlued, ?_, ?_, fun hname => ?_, fun name hname => ?_⟩
    · change '/' ∉ Regex.unescape (Regex.escape e.before)
      rw [Regex.unescape_escape]
      exact hsep.before
    · change '/' ∉ Regex.unescape (Regex.escape e.after)
      rw [Regex.unescape_escape]
      exact hsep.after
    · obtain ⟨hopt, -, hbefore, hafter⟩ := hbuilt.literal hname
      refine ⟨?_, ?_, hopt⟩
      · change Regex.unescape (Regex.escape e.before) = []
        rw [Regex.unescape_escape]
        exact hbefore
      · change Regex.unescape (Regex.escape e.after) = []
        rw [Regex.unescape_escape]
        exact hafter
    · rw [← isOptional_mergedDefaults]
      exact (hbuilt.named name hname).2.1

/-- The segments of a compiled route stand for the components of its template. -/
theorem flatMap_components_of_compile {t : Template}
    (ht : Template.parse (Text.trim '/' r.template) = .ok t) (hglue : t.Unglued)
    (hempty : t.NoEmptyComponent) {c : CompiledRoute} (hc : r.compile query = .ok c) :
    c.segments.flatMap Segment.components = t.components := by
  rw [segments_of_compile ht hc]
  exact flatMap_components_templateSegments hglue hempty (Template.head?_symbols_of_parse ht)
    (Template.getLast?_symbols_of_parse ht)

end Route

/-- If the optional parameters come last, each as a component of its own, the segments that stand for
the components are so too. -/
theorem Segment.bare_of_optionalTail {isOptional : Text → Bool} {segments : List Segment}
    {t : Template} (hwhole : ∀ s ∈ segments, s.Whole isOptional)
    (hcomponents : segments.flatMap components = t.components) (htail : t.OptionalTail isOptional) :
    (∀ s ∈ segments, s.Bare) ∧
      segments.Pairwise fun s d => s.isOptional = true → d.isOptional = true := by
  -- An optional segment stands for an optional component.
  have hcomponent : ∀ s ∈ segments, s.isOptional = true → ∃ c ∈ s.components,
      c.IsOptional isOptional ∧ c.before = Regex.unescape s.before ∧
        c.after = Regex.unescape s.after := by
    intro s hs hopt
    cases hname : s.name with
    | none =>
      rw [((hwhole s hs).literal hname).2.2] at hopt
      cases hopt
    | some name =>
      refine ⟨⟨Regex.unescape s.before, some name, Regex.unescape s.after⟩, ?_, ?_, rfl, rfl⟩
      · unfold components
        rw [hname]
        exact List.mem_singleton_self _
      · have := (hwhole s hs).named name hname
        rw [hopt] at this
        exact this.symm
  have hsegment : ∀ s ∈ segments, ∀ c ∈ s.components, c.IsOptional isOptional →
      s.isOptional = true := by
    intro s hs c hc hopt
    unfold components at hc
    split at hc
    · obtain ⟨text, -, rfl⟩ := List.mem_map.mp hc
      cases hopt
    · rename_i name hname
      obtain rfl := List.mem_singleton.mp hc
      rw [(hwhole s hs).named name hname]
      exact hopt
  constructor
  · intro s hs hopt
    obtain ⟨c, hc, hcopt, hbefore, hafter⟩ := hcomponent s hs hopt
    rw [← hbefore, ← hafter]
    refine htail.bare c ?_ hcopt
    rw [← hcomponents]
    exact List.mem_flatMap_of_mem hs hc
  · have hlast := htail.last
    rw [← hcomponents, List.pairwise_flatMap] at hlast
    refine hlast.2.imp_of_mem ?_
    intro s d hs hd h hopt
    obtain ⟨c, hc, hcopt, -⟩ := hcomponent s hs hopt
    obtain ⟨e, he⟩ := List.exists_mem_of_ne_nil _ d.components_ne_nil
    exact hsegment d hd e he (h c hc e he hcopt)

/-- The names of what was taken are those of the parameters. -/
theorem map_fst_captured {allowed : Segment → Text → Prop} {segments : List Segment}
    {shares : List Share} {path : Text} (h : IsCut allowed segments shares path) :
    (captured segments shares).map Prod.fst = segments.filterMap (·.name) := by
  induction h using IsCut.induction with
  | nil => rfl
  | cons s segments x shares rest _ _ ih =>
    rw [captured_cons, List.map_append, ih, List.filterMap_cons]
    cases s.name with
    | none => rfl
    | some name => rfl

/-- What was taken for a parameter is the value of its share. -/
theorem exists_isShareOf_of_mem_captured {segments : List Segment} {shares : List Share}
    {name text : Text} (h : (name, text) ∈ captured segments shares) :
    ∃ start x, IsShareOf segments shares name start x ∧ x.value = text := by
  obtain ⟨⟨s, x⟩, hmem, heq⟩ := List.mem_filterMap.mp h
  obtain ⟨name', hname, heq⟩ := Option.map_eq_some_iff.mp heq
  cases heq
  obtain ⟨i, hi⟩ := List.mem_iff_getElem?.mp hmem
  rw [List.getElem?_zip_eq_some] at hi
  exact ⟨_, x, ⟨i, s, hi.1, hname, hi.2, rfl⟩, rfl⟩

/-- Steps over the names of pairs and over the pairs give the same if they agree. -/
theorem mapM_map_fst {α β γ : Type} {f : α → Option γ} {g : α × β → Option γ} {l : List (α × β)}
    (h : ∀ p ∈ l, f p.1 = g p) : (l.map Prod.fst).mapM f = l.mapM g := by
  rw [List.mapM_map]
  exact mapM_congr_of_mem h

section

variable {r : Route} {query : Values} {c : CompiledRoute}

/-- What is delivered is what the first cut gives to the parameters. -/
theorem valuesIn?_eq_delivered? (hr : r.ConstraintFree) (hc : r.compile query = .ok c)
    (path : Text) : c.valuesIn? path query =
      (((cuts c.segments path).head?.map (captured c.segments)).bind (delivered? query)) := by
  unfold CompiledRoute.valuesIn? Segment.valuesIn?
  cases hcuts : (cuts c.segments path).head? with
  | none =>
    rw [search_eq_cuts hr hc, hcuts]
    rfl
  | some shares =>
    obtain ⟨m, hm⟩ : ∃ m, c.regex.search path = some m := by
      rw [search_eq_cuts hr hc, hcuts]
      exact ⟨_, rfl⟩
    have hcut := mem_cuts.mp (List.mem_of_mem_head? hcuts)
    have hvalues : ∀ p ∈ captured c.segments shares,
        (do return (← Segment.value? m query p.1).map (p.1, ·) : Option _) =
          if p.2.isEmpty then some ((query.nonempty? p.1).map (p.1, ·))
          else (Percent.decode? p.2).map fun value => some (p.1, value) := by
      rintro ⟨name, text⟩ hp
      obtain ⟨start, x, hx, rfl⟩ := exists_isShareOf_of_mem_captured hp
      dsimp only
      rw [value?_of_search hr hc hcuts hm hx]
      by_cases hempty : x.value = []
      · simp [hempty]
      · cases Percent.decode? x.value <;> simp [hempty]
    rw [hm, ← map_fst_captured hcut]
    dsimp only [Option.bind_eq_bind, Option.bind_some, Option.map_some]
    rw [mapM_map_fst hvalues]
    rfl

/-- Where the optional parameters come last, each as a component of its own, a route without
constraints gives the values that the plain matcher finds component by component. -/
theorem values_eq_componentwise {t : Template} (hr : r.ConstraintFree)
    (ht : Template.parse (Text.trim '/' r.template) = .ok t) (hglue : t.Unglued)
    (hempty : t.NoEmptyComponent) (htail : t.OptionalTail (r.mayBeAbsent t query))
    (hc : r.compile query = .ok c) {path : Text} (hpath : path.getLast? ≠ some '/') :
    c.valuesIn? path query = r.matchComponents? t query path := by
  obtain ⟨hmarked, hwhole⟩ := Route.whole_of_compile ht hglue hc
  have hcomponents := Route.flatMap_components_of_compile ht hglue hempty hc
  obtain ⟨hbare, hpair⟩ := Segment.bare_of_optionalTail hwhole hcomponents htail
  have hne : c.segments ≠ [] := by
    intro hnil
    rw [hnil] at hcomponents
    have hsplit := List.splitOn_ne_nil (Symbol.char '/') t.symbols
    unfold Template.components at hcomponents
    exact hsplit (List.map_eq_nil_iff.mp hcomponents.symm)
  rw [valuesIn?_eq_delivered? hr hc, head?_cuts_eq_captured? hne hmarked hwhole hbare hpair hpath,
    hcomponents]
  rfl

/-- A route with text before a required parameter and with an optional one at the end. -/
def archiveRoute : Route :=
  { template := "/blog/v{year}/{slug?}/".toList }

/-- What the template of the route is read as. -/
def archiveTemplate : Template :=
  [.literal "blog/v".toList, .placeholder ⟨"year".toList, .none⟩, .literal "/".toList,
    .placeholder ⟨"slug".toList, .optional⟩]

/-- The optional parameter is absent where its component is missing. -/
theorem archiveRoute_values_eq_componentwise : ∃ c, archiveRoute.compile ∅ = .ok c ∧
    c.valuesIn? "Blog/V2020".toList ∅ = some (.ofList [("year".toList, "2020".toList)]) := by
  have hany : (archiveRoute.compile ∅).toOption.any (fun _ => true) = true := by decide +kernel
  obtain ⟨c, hc, -⟩ := exists_ok_of_any_toOption hany
  have ht : Template.parse (Text.trim '/' archiveRoute.template) = .ok archiveTemplate := by
    decide +kernel
  have hglue : archiveTemplate.Unglued := by
    unfold Template.Unglued
    decide
  have hempty : archiveTemplate.NoEmptyComponent := by
    unfold Template.NoEmptyComponent
    decide
  have htail : archiveTemplate.OptionalTail (archiveRoute.mayBeAbsent archiveTemplate ∅) := by
    constructor
    · unfold Component.IsOptional
      decide +kernel
    · unfold Component.IsOptional
      decide +kernel
  have hpath : "Blog/V2020".toList.getLast? ≠ some '/' := by decide
  refine ⟨c, hc, ?_⟩
  rw [values_eq_componentwise (fun _ _ _ _ => rfl) ht hglue hempty htail hc hpath]
  decide +kernel

end

end PathRouting
