import Mathlib.Data.List.Forall2
import PathRouting.Proofs.Route.Match
import PathRouting.Proofs.Segment.FirstCut

/-!
# Routes for different query values

A value of the query string makes its parameter optional, and nothing else depends on the query
values when a route is compiled. So every cut of a path into the shares of the segments that were
compiled without any is one for the segments that were compiled with some.
-/

namespace PathRouting

/-- A name belongs to a parameter of a route: a placeholder of its template has the name. -/
def Route.HasParameter (r : Route) (name : Text) : Prop :=
  ∃ t, Template.parse (Text.trim '/' r.template) = .ok t ∧ ∃ p ∈ t.placeholders, p.name = name

/-- What is placed in the layout of a template is a placeholder of the template. -/
theorem Template.mem_placeholders_of_placed {t : Template} {p : Placed} (hp : p ∈ t.layout.placed) :
    p.placeholder ∈ t.placeholders := by
  rw [← map_placeholder_layoutAfter [] t]
  exact List.mem_map_of_mem hp

/-- A segment of a route as it is for given query values. -/
def Route.refit (r : Route) (defaults : Dict ParameterDefault) (query : Values) (s : Segment) :
    Segment :=
  { s with
    pattern := s.name.elim s.pattern fun name =>
      r.valuePattern name (isOptional defaults query name)
    isOptional := s.name.elim s.isOptional fun name => isOptional defaults query name }

namespace Route

variable {r : Route} {defaults : Dict ParameterDefault} {query query' : Values}

/-- Literal text does not depend on query values. -/
theorem map_refit_literals (text : Text) :
    (Segment.literals text).map (r.refit defaults query) = Segment.literals text := by
  unfold Segment.literals
  split <;> rfl

/-- Which text is behind a placeholder does not depend on query values. -/
theorem splitTrailing_refit (s : Segment) (text : Text) :
    (r.refit defaults query s).splitTrailing text =
      (s.splitTrailing text).map (r.refit defaults query) := by
  unfold Segment.splitTrailing
  split
  · rfl
  · rw [List.map_cons, map_refit_literals]
    rfl

/-- How the text between two placeholders is split does not depend on query values. -/
theorem splitBetween_refit (s : Segment) (text : Text) :
    (r.refit defaults query s).splitBetween text =
      ((s.splitBetween text).1.map (r.refit defaults query), (s.splitBetween text).2) := by
  unfold Segment.splitBetween
  split
  · rfl
  · dsimp only
    split
    · rfl
    · rw [List.map_cons, map_refit_literals]
      rfl

/-- The segments from a placeholder on are those for other query values, refitted. -/
theorem segmentsFrom_refit {trailing : Text} (s : Segment) (placed : List Template.Placed) :
    r.segmentsFrom defaults query trailing (r.refit defaults query s) placed =
      (r.segmentsFrom defaults query' trailing s placed).map (r.refit defaults query) := by
  induction placed generalizing s with
  | nil => exact splitTrailing_refit s trailing
  | cons p rest ih =>
    rw [segmentsFrom, segmentsFrom, splitBetween_refit]
    dsimp only
    rw [List.map_append, ← ih]
    rfl

/-- The segments of a layout are those for other query values, refitted. -/
theorem layoutSegments_eq_map_refit (query query' : Values) (l : Template.Layout) :
    r.layoutSegments defaults query l =
      (r.layoutSegments defaults query' l).map (r.refit defaults query) := by
  unfold layoutSegments
  split
  · rfl
  · rename_i gap p rest _
    have hleading : (Segment.splitLeading gap).1.map (r.refit defaults query) =
        (Segment.splitLeading gap).1 := by
      unfold Segment.splitLeading
      split
      · exact map_refit_literals _
      · rfl
    dsimp only
    rw [List.map_append, ← segmentsFrom_refit, hleading]
    rfl

end Route

/-- A segment is another one whose parameter, or what follows it, may be absent more often. -/
structure Segment.Loosens (d s : Segment) : Prop where
  /-- They belong to the same parameter. -/
  name : d.name = s.name
  /-- The text before the value is the same. -/
  before : d.before = s.before
  /-- The text behind the value is the same. -/
  after : d.after = s.after
  /-- A piece of literal text is the same. -/
  literal : s.name = none → d.pattern = s.pattern
  /-- What may be absent still may. -/
  isOptional : s.isOptional = true → d.isOptional = true
  /-- The same segments are glued to the next one. -/
  isGlued : d.isGlued = s.isGlued
  /-- The same segment is the last one. -/
  isLast : d.isLast = s.isLast
  /-- What followed only what may be absent still does. -/
  optionalRest : s.optionalRest = true → d.optionalRest = true
  /-- Nothing follows the last segment. -/
  last : d.isLast = true → d.optionalRest = false

namespace Segment.Loosens

variable {d s : Segment}

/-- What has to be there had to be there before. -/
theorem isOptional_eq_false (h : d.Loosens s) (hreq : d.isOptional = false) :
    s.isOptional = false :=
  Bool.eq_false_iff.mpr (mt h.isOptional (Bool.eq_false_iff.mp hreq))

/-- What is followed by something that has to be there was so before. -/
theorem optionalRest_eq_false (h : d.Loosens s) (hrest : d.optionalRest = false) :
    s.optionalRest = false :=
  Bool.eq_false_iff.mpr (mt h.optionalRest (Bool.eq_false_iff.mp hrest))

/-- A separator may be as it was. -/
theorem separates (h : d.Loosens s) {slash : Bool} {rest : Text} (hsep : s.Separates slash rest) :
    d.Separates slash rest := by
  unfold Separates at hsep ⊢
  rw [h.isGlued, h.isLast]
  have hlast := h.last
  rw [h.isLast] at hlast
  cases hglued : s.isGlued with
  | true =>
    rw [hglued] at hsep
    exact hsep
  | false =>
    rw [hglued] at hsep
    cases hdo : d.isOptional with
    | true => simp
    | false =>
      rw [h.isOptional_eq_false hdo] at hsep
      cases hl : s.isLast with
      | true => simp [hlast hl]
      | false =>
        rw [hl] at hsep
        cases hdr : d.optionalRest with
        | false =>
          rw [h.optionalRest_eq_false hdr] at hsep
          simpa using hsep
        | true =>
          cases hsr : s.optionalRest with
          | false =>
            rw [hsr] at hsep
            exact .inl hsep
          | true =>
            rw [hsr] at hsep
            exact hsep

/-- A share may be as it was if a value may. -/
theorem takes {allowed : Segment → Text → Prop} (h : d.Loosens s)
    (hallowed : ∀ value, allowed s value → allowed d value) {x : Share} {rest : Text}
    (hx : s.Takes allowed x rest) : d.Takes allowed x rest where
  before := by
    rw [h.before]
    exact hx.before
  literal hname := by
    rw [h.name] at hname
    rw [h.literal hname]
    exact hx.literal hname
  value hname := by
    rw [h.name] at hname
    exact hallowed _ (hx.value hname)
  after := by
    rw [h.after]
    exact hx.after
  separator := h.separates hx.separator

/-- A value without a constraint may be as it was. -/
theorem plainValue (h : d.Loosens s) {value : Text} (hvalue : s.PlainValue value) :
    d.PlainValue value := by
  exact ⟨hvalue.1, fun hreq => hvalue.2 (h.isOptional_eq_false hreq)⟩

/-- The segments stand for the same components. -/
theorem components_eq (h : d.Loosens s) : d.components = s.components := by
  unfold components
  rw [h.name]
  cases hname : s.name with
  | none => rw [h.literal hname]
  | some name => rw [h.before, h.after]

/-- Literal text is escaped alike. -/
theorem escape (h : d.Loosens s) : d.escape.Loosens s.escape where
  name := h.name
  before := congrArg Regex.escape h.before
  after := congrArg Regex.escape h.after
  literal hname := by
    change s.name = none at hname
    unfold Segment.escape
    rw [h.name, hname, h.literal hname]
  isOptional := h.isOptional
  isGlued := h.isGlued
  isLast := h.isLast
  optionalRest := h.optionalRest
  last := h.last

end Segment.Loosens

section

variable {ds segments : List Segment}

/-- If all segments may be absent, they still may. -/
theorem Segment.all_isOptional_of_loosens (h : List.Forall₂ Segment.Loosens ds segments)
    (hall : segments.all (·.isOptional) = true) : ds.all (·.isOptional) = true := by
  induction h with
  | nil => rfl
  | cons hfirst _ ih =>
    rw [List.all_cons, Bool.and_eq_true] at hall ⊢
    exact ⟨hfirst.isOptional hall.1, ih hall.2⟩

/-- The borders of segments that had no marks are marked alike. -/
theorem Segment.forall₂_loosens_markBorders
    (h : List.Forall₂ (fun d s => d.Loosens s ∧ s.isLast = false ∧ d.optionalRest = false) ds
      segments) : List.Forall₂ Segment.Loosens (markBorders ds) (markBorders segments) := by
  induction h with
  | nil => exact .nil
  | @cons d s ds segments hfirst hrest ih =>
    obtain ⟨hloosens, hlast, hunmarked⟩ := hfirst
    have hempty : ds.isEmpty = segments.isEmpty := by
      cases hrest <;> rfl
    have hall : segments.all (·.isOptional) = true → ds.all (·.isOptional) = true :=
      Segment.all_isOptional_of_loosens (hrest.imp fun _ _ h => h.1)
    refine .cons ⟨hloosens.name, hloosens.before, hloosens.after, hloosens.literal,
      hloosens.isOptional, hloosens.isGlued, ?_, ?_, ?_⟩ ih
    · change (d.isLast || _) = (s.isLast || _)
      rw [hloosens.isLast, hempty]
    · change (s.optionalRest || _) = true → (d.optionalRest || _) = true
      rw [hempty]
      intro h
      rcases (Bool.or_eq_true _ _).mp h with h | h
      · rw [hloosens.optionalRest h, Bool.true_or]
      · obtain ⟨hne, h⟩ := (Bool.and_eq_true _ _).mp h
        rw [hne, hall h]
        exact Bool.or_true _
    · change (d.isLast || _) = true → (d.optionalRest || _) = false
      rw [hloosens.isLast, hlast, hunmarked]
      intro h
      change ds.isEmpty = true at h
      rw [h]
      rfl

/-- A cut is one for segments that may be absent more often. -/
theorem IsCut.loosen {allowed : Segment → Text → Prop}
    (hallowed : ∀ {d s : Segment}, d.Loosens s → ∀ value, allowed s value → allowed d value)
    (hloosens : List.Forall₂ Segment.Loosens ds segments) {shares : List Share} {path : Text}
    (h : IsCut allowed segments shares path) : IsCut allowed ds shares path := by
  induction hloosens generalizing shares path with
  | nil => exact h
  | cons hfirst _ ih =>
    obtain ⟨x, shares, rest, rfl, hpath, htakes, h⟩ := isCut_cons_iff.mp h
    exact ⟨rest, hpath, hfirst.takes (hallowed hfirst) htakes, ih h⟩

/-- The segments belong to the same parameters. -/
theorem Segment.map_name_of_loosens (hloosens : List.Forall₂ Segment.Loosens ds segments) :
    ds.map (·.name) = segments.map (·.name) := by
  induction hloosens with
  | nil => rfl
  | cons hfirst _ ih => rw [List.map_cons, List.map_cons, hfirst.name, ih]

/-- A segment may be absent more often in the place that it has. -/
theorem Segment.exists_mem_of_loosens (hloosens : List.Forall₂ Segment.Loosens ds segments)
    {s : Segment} (hs : s ∈ segments) : ∃ d ∈ ds, d.Loosens s := by
  induction hloosens with
  | nil => exact absurd hs List.not_mem_nil
  | cons hfirst _ ih =>
    rcases List.mem_cons.mp hs with rfl | hs
    · exact ⟨_, List.mem_cons_self, hfirst⟩
    · obtain ⟨d, hd, h⟩ := ih hs
      exact ⟨d, List.mem_cons_of_mem _ hd, h⟩

/-- The segments stand for the same components. -/
theorem Segment.flatMap_components_of_loosens
    (hloosens : List.Forall₂ Segment.Loosens ds segments) :
    ds.flatMap Segment.components = segments.flatMap Segment.components := by
  induction hloosens with
  | nil => rfl
  | cons hfirst _ ih => rw [List.flatMap_cons, List.flatMap_cons, hfirst.components_eq, ih]

/-- The shares give the same values to the parameters. -/
theorem captured_of_loosens (hloosens : List.Forall₂ Segment.Loosens ds segments)
    (shares : List Share) : captured ds shares = captured segments shares := by
  induction hloosens generalizing shares with
  | nil => rfl
  | cons hfirst _ ih =>
    cases shares with
    | nil => rfl
    | cons x shares => rw [captured_cons, captured_cons, hfirst.name, ih]

/-- Which shares belong to which parameters goes by the names of the segments. -/
theorem isShareOf_congr (h : ds.map (·.name) = segments.map (·.name)) {shares : List Share}
    {name : Text} {start : Nat} {x : Share} (hx : IsShareOf ds shares name start x) :
    IsShareOf segments shares name start x := by
  obtain ⟨i, d, hd, hname, hshare, hstart⟩ := hx
  have hsome : (segments.map (·.name))[i]? = some (some name) := by
    rw [← h, List.getElem?_map, hd, Option.map_some, hname]
  rw [List.getElem?_map] at hsome
  obtain ⟨s, hs, hname⟩ := Option.map_eq_some_iff.mp hsome
  exact ⟨i, s, hs, hname, hshare, hstart⟩

end

namespace Route

variable {r : Route} {query query' : Values} {t : Template}

/-- A parameter that is optional for some query values is so for those that have a value for it if
the others have one. -/
theorem isOptional_mono {defaults : Dict ParameterDefault} {name : Text}
    (hquery : (query'.nonempty? name).isSome = true → (query.nonempty? name).isSome = true)
    (h : isOptional defaults query' name = true) : isOptional defaults query name = true := by
  unfold isOptional at h ⊢
  rcases (Bool.or_eq_true _ _).mp h with h | h
  · rw [h, Bool.true_or]
  · rw [hquery h, Bool.or_true]

/-- Where more parameters have a value in the query string, more may be absent. -/
theorem loosens_templateSegments (hquery : ∀ p ∈ t.placeholders,
    (query'.nonempty? p.name).isSome = true → (query.nonempty? p.name).isSome = true) :
    List.Forall₂ Segment.Loosens ((r.templateSegments query t).map Segment.escape)
      ((r.templateSegments query' t).map Segment.escape) := by
  rw [List.forall₂_map_left_iff, List.forall₂_map_right_iff]
  refine List.Forall₂.imp (fun _ _ h => h.escape) (Segment.forall₂_loosens_markBorders ?_)
  rw [layoutSegments_eq_map_refit query query', List.forall₂_map_left_iff,
    List.forall₂_same]
  intro s hs
  have hpart := partOf_layoutSegments t.layout s hs
  obtain ⟨hlast, hunmarked⟩ := hpart.unmarked
  refine ⟨⟨rfl, rfl, rfl, fun hname => ?_, fun hopt => ?_, rfl, rfl, id, fun _ => hunmarked⟩, hlast,
    hunmarked⟩
  · unfold refit
    rw [hname]
    rfl
  · change s.name.elim s.isOptional _ = true
    cases hname : s.name with
    | none => exact hopt
    | some name =>
      obtain ⟨⟨p, hp, rfl⟩, heq, -⟩ := hpart.builtFor.named name hname
      rw [heq] at hopt
      exact isOptional_mono (hquery p.placeholder (Template.mem_placeholders_of_placed hp)) hopt

/-- Where the same parameters are optional, the segments are the same. -/
theorem templateSegments_congr
    (h : ∀ p ∈ t.placeholders, isOptional (r.mergedDefaults t.layout.placed) query p.name =
      isOptional (r.mergedDefaults t.layout.placed) query' p.name) :
    r.templateSegments query t = r.templateSegments query' t := by
  unfold templateSegments
  rw [layoutSegments_eq_map_refit query query']
  congr 1
  refine (List.map_congr_left fun s hs => ?_).trans (List.map_id _)
  have hbuilt := (partOf_layoutSegments t.layout s hs).builtFor
  obtain ⟨name, pattern, optional, before, after, isGlued, isLast, optionalRest⟩ := s
  cases name with
  | none => rfl
  | some name =>
    obtain ⟨⟨p, hp, hname⟩, hopt, hpattern⟩ := hbuilt.named name rfl
    have hsame : isOptional (r.mergedDefaults t.layout.placed) query name =
        isOptional (r.mergedDefaults t.layout.placed) query' name := by
      rw [← hname]
      exact h p.placeholder (Template.mem_placeholders_of_placed hp)
    dsimp only at hopt hpattern
    unfold refit
    dsimp only [Option.elim_some]
    rw [hsame, ← hopt, ← hpattern]
    rfl

variable {c c' : CompiledRoute}

/-- The segments of a route may be absent more often if more parameters have a value in the query
string. -/
theorem loosens_of_compile (hc' : r.compile query' = .ok c') (hc : r.compile query = .ok c)
    (hquery : ∀ name, r.HasParameter name → (query'.nonempty? name).isSome = true →
      (query.nonempty? name).isSome = true) :
    List.Forall₂ Segment.Loosens c.segments c'.segments := by
  obtain ⟨t, ht, -⟩ := compile_eq_ok hc
  rw [segments_of_compile ht hc, segments_of_compile ht hc']
  exact loosens_templateSegments fun p hp => hquery p.name ⟨t, ht, p, hp, rfl⟩

/-- A route is the same if the same parameters are optional. -/
theorem compile_congr (ht : Template.parse (Text.trim '/' r.template) = .ok t)
    (hc' : r.compile query' = .ok c') (hc : r.compile query = .ok c)
    (h : ∀ p ∈ t.placeholders, isOptional (r.mergedDefaults t.layout.placed) query p.name =
      isOptional (r.mergedDefaults t.layout.placed) query' p.name) :
    c.segments = c'.segments ∧ c.regex = c'.regex := by
  obtain ⟨-, -, -, -, hregex, -⟩ := compile_eq_ok hc
  obtain ⟨-, -, -, -, hregex', -⟩ := compile_eq_ok hc'
  have hsame : c.segments = c'.segments := by
    rw [segments_of_compile ht hc, segments_of_compile ht hc', templateSegments_congr h]
  rw [hsame] at hregex
  exact ⟨hsame, Except.ok.inj (hregex.symm.trans hregex')⟩

end Route

end PathRouting
