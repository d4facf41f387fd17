import PathRouting.Proofs.Route.Components
import PathRouting.Proofs.Route.Constraints
import PathRouting.Proofs.Segment.Separated

/-!
# Values between slashes

Where no placeholders are glued together and no segment stands behind an optional parameter, what a
parameter takes of a path, with the text around it, stands between slashes or the ends of the path.
The separator behind an optional parameter may be missing anywhere, so a parameter behind it can take
the rest of a component that the optional one has torn apart. Without constraints this does not
happen where only optional parameters follow, each as a component of its own: the first one takes
all of the component.
-/

namespace PathRouting

open Regex

/-- A text stands in a path from a given place on, between slashes or the ends of the path. -/
def StandsWhole (path : Text) (start : Nat) (text : Text) : Prop :=
  ∃ front back, path = front ++ text ++ back ∧ front.length = start ∧
    (front = [] ∨ front.getLast? = some '/') ∧ (back = [] ∨ back.head? = some '/')

/-- Nothing stands behind a text that ends with a separator. -/
theorem StandsWhole.behind {path text front : Text} {start : Nat} (h : StandsWhole path start text)
    (hfront : front.getLast? = some '/') :
    StandsWhole (front ++ path) (front.length + start) text := by
  obtain ⟨before, back, rfl, rfl, hbefore, hback⟩ := h
  refine ⟨front ++ before, back, by simp, List.length_append, .inr ?_, hback⟩
  rcases hbefore with rfl | hbefore
  · rwa [List.append_nil]
  · rw [List.getLast?_append, hbefore, Option.some_or]

/-- A required segment with others behind it leaves a separator behind, or nothing at all. -/
theorem Segment.Separates.slash_or_nil {s : Segment} {slash : Bool} {rest : Text}
    (h : s.Separates slash rest) (hglue : s.isGlued = false) (hreq : s.isOptional = false)
    (hlast : s.isLast = false) : slash = true ∨ rest = [] := by
  unfold Segment.Separates at h
  rw [hglue, hreq, hlast, if_neg Bool.false_ne_true] at h
  cases hrest : s.optionalRest with
  | false =>
    rw [hrest] at h
    exact .inl h
  | true =>
    rw [hrest] at h
    exact h

/-- A share is taken by the segment that it belongs to. -/
theorem IsCut.exists_takes {allowed : Segment → Text → Prop} {segments : List Segment}
    {shares : List Share} {path : Text} (h : IsCut allowed segments shares path) {name : Text}
    {start : Nat} {x : Share} (hx : IsShareOf segments shares name start x) :
    ∃ s ∈ segments, s.name = some name ∧ ∃ rest, s.Takes allowed x rest := by
  induction h using IsCut.induction generalizing start with
  | nil =>
    obtain ⟨i, s, hs, -⟩ := hx
    simp at hs
  | cons s segments y shares rest htakes _ ih =>
    rcases isShareOf_cons hx with ⟨hname, rfl, -⟩ | ⟨later, hlater, -⟩
    · exact ⟨s, List.mem_cons_self, hname, rest, htakes⟩
    · obtain ⟨d, hd, hname, htakes⟩ := ih hlater
      exact ⟨d, List.mem_cons_of_mem s hd, hname, htakes⟩

section

variable {allowed : Segment → Text → Prop} {segments : List Segment} {shares : List Share}
  {path : Text}

/-- No share of a cut is torn off from the next one, if no segment stands behind an optional one. -/
theorem IsCut.separated (h : IsCut allowed segments shares path) (hmarked : Segment.Marked segments)
    (hglue : ∀ s ∈ segments, s.isGlued = false)
    (hreq : ∀ s ∈ segments.dropLast, s.isOptional = false) : Separated shares := by
  induction h using IsCut.induction with
  | nil => trivial
  | cons s segments x shares rest htakes hcut ih =>
    obtain ⟨hlast, -, hmarked⟩ := hmarked
    obtain ⟨hsGlue, hglue⟩ := List.forall_mem_cons.mp hglue
    cases segments with
    | nil =>
      obtain ⟨rfl, rfl⟩ := isCut_nil_iff.mp hcut
      exact ⟨.inr rfl, trivial⟩
    | cons d segments =>
      rw [List.dropLast_cons_of_ne_nil (List.cons_ne_nil d segments)] at hreq
      obtain ⟨hsReq, hreq⟩ := List.forall_mem_cons.mp hreq
      refine ⟨?_, ih hmarked hglue hreq⟩
      rw [← hcut.eq_flatMap_text]
      exact htakes.separator.slash_or_nil hsGlue hsReq hlast

/-- If no share of a cut is torn off from the next one, the shares stand between slashes. -/
theorem IsCut.standsWhole_of_separated (h : IsCut allowed segments shares path)
    (hsep : Separated shares) {name : Text} {start : Nat} {x : Share}
    (hx : IsShareOf segments shares name start x) (hne : x.value ≠ []) :
    ∃ place, start = place + x.before.length ∧ StandsWhole path place x.own := by
  induction h using IsCut.induction generalizing start with
  | nil =>
    obtain ⟨i, s, hs, -⟩ := hx
    simp at hs
  | cons s segments z shares rest _ hcut ih =>
    obtain ⟨hend, hsep⟩ := hsep
    rw [← hcut.eq_flatMap_text] at hend
    rcases isShareOf_cons hx with ⟨-, rfl, rfl⟩ | ⟨later, hlater, rfl⟩
    · refine ⟨0, (Nat.zero_add _).symm, [], (if x.slash then ['/'] else []) ++ rest, ?_, rfl,
        .inl rfl, ?_⟩
      · rw [x.text_eq_own, List.append_assoc]
        rfl
      · rcases hend with hslash | rfl
        · rw [hslash]
          exact .inr rfl
        · cases x.slash with
          | true => exact .inr rfl
          | false => exact .inl rfl
    · obtain ⟨place, rfl, hstands⟩ := ih hsep hlater
      rcases hend with hslash | rfl
      · refine ⟨z.text.length + place, (Nat.add_assoc _ _ _).symm, hstands.behind ?_⟩
        rw [z.text_eq_own, hslash, if_pos rfl, List.getLast?_concat]
      · obtain ⟨front, back, hpath, -⟩ := hcut.split_value hlater
        have hvalue : x.value = [] := by
          have hlen := congrArg List.length hpath
          simp only [List.length_nil, List.length_append] at hlen
          exact List.eq_nil_of_length_eq_zero (by omega)
        exact absurd hvalue hne

end

section

variable {r : Route} {query : Values} {c : CompiledRoute} {t : Template}

/-- What the parameter of a name takes of a path stands between slashes, together with the text of its
segment. -/
def CompiledRoute.StandsWhole (c : CompiledRoute) (m : Regex.Match) (path name : Text) : Prop :=
  ∃ s ∈ c.segments, s.name = some name ∧ ∃ (start : Nat) (x : Share),
    m.span? name = some (start, start + x.value.length) ∧
    SameFolding x.before (unescape s.before) ∧ SameFolding x.after (unescape s.after) ∧
    (x.value ≠ [] → ∃ place, start = place + x.before.length ∧
      PathRouting.StandsWhole path place x.own)

/-- If no share of a cut is torn off from the next one, what the parameters take stands between
slashes. -/
theorem standsWhole_of_separated (ht : Template.parse (Text.trim '/' r.template) = .ok t)
    (hc : r.compile query = .ok c) {allowed : Segment → Text → Prop} {shares : List Share}
    {path : Text} (hcut : IsCut allowed c.segments shares path) (hsep : Separated shares)
    {m : Regex.Match} (hspans : ∀ name start x, IsShareOf c.segments shares name start x →
      m.span? name = some (start, start + x.value.length))
    {p : Placeholder} (hp : p ∈ t.placeholders) : c.StandsWhole m path p.name := by
  have hmem : p.name ∈ c.segments.filterMap (·.name) := by
    rw [Route.filterMap_name_of_compile ht hc]
    exact List.mem_map_of_mem hp
  obtain ⟨start, x, hx⟩ := hcut.exists_isShareOf hmem
  obtain ⟨s, hs, hname, rest, htakes⟩ := hcut.exists_takes hx
  exact ⟨s, hs, hname, start, x, hspans p.name start x hx, htakes.before, htakes.after,
    hcut.standsWhole_of_separated hsep hx⟩

/-- What the parameters of a route take of a path stands between slashes, together with the text of
their segments, if no placeholders are glued together and no optional parameter can tear a component
apart. This is so if nothing stands behind an optional parameter, and also, without constraints, if
the optional parameters come last, each as a component of its own. -/
theorem values_standWhole (ht : Template.parse (Text.trim '/' r.template) = .ok t)
    (hglue : t.Unglued) (hc : r.compile query = .ok c) {path : Text}
    (hrow : (r.Enclosable ∧ ∀ s ∈ c.segments.dropLast, s.isOptional = false) ∨
      (r.ConstraintFree ∧ t.NoEmptyComponent ∧ t.OptionalTail (r.mayBeAbsent t query) ∧
        path.getLast? ≠ some '/'))
    {m : Regex.Match} (hm : c.regex.search path = some m) {p : Placeholder}
    (hp : p ∈ t.placeholders) : c.StandsWhole m path p.name := by
  obtain ⟨hmarked, hwhole⟩ := Route.whole_of_compile ht hglue hc
  obtain ⟨henc, hreq⟩ | ⟨hr, hempty, htail, hpath⟩ := hrow
  · obtain ⟨-, shares, hcut, hshares⟩ := exists_cut_of_search henc hc hm
    have hsep := hcut.separated hmarked (fun s hs => (hwhole s hs).isGlued) hreq
    exact standsWhole_of_separated ht hc hcut hsep
      (fun name start x hx => (hshares name start x hx).1) hp
  · obtain ⟨hbare, hpair⟩ := Segment.bare_of_optionalTail hwhole
      (Route.flatMap_components_of_compile ht hglue hempty hc) htail
    obtain ⟨shares, hhead, -⟩ :=
      Option.map_eq_some_iff.mp ((search_eq_cuts hr hc path).symm.trans hm)
    have hcut := mem_cuts.mp (List.mem_of_mem_head? hhead)
    have hsep := separated_of_head?_cuts hmarked hwhole hbare hpair hpath hhead
    exact standsWhole_of_separated ht hc hcut hsep
      (fun _ _ _ hx => span?_of_search hr hc hhead hm hx) hp

/-- A route with text around a value, and an optional parameter at its end. -/
def issueRoute : Route :=
  { template := "log/v{year}.x/{page?}".toList
    constraints := .ofList [("page".toList, "[0-9]+".toList)] }

/-- What the template of this route is read as. -/
def issueTemplate : Template :=
  [.literal "log/v".toList, .placeholder ⟨"year".toList, .none⟩, .literal ".x/".toList,
    .placeholder ⟨"page".toList, .optional⟩]

/-- A route with two optional parameters at its end. -/
def diaryRoute : Route :=
  { template := "diary/{year?}/{page?}".toList }

/-- What the template of this route is read as. -/
def diaryTemplate : Template :=
  [.literal "diary/".toList, .placeholder ⟨"year".toList, .optional⟩, .literal "/".toList,
    .placeholder ⟨"page".toList, .optional⟩]

/-- The year stands between slashes, with the text around it if there is any. -/
theorem issueRoute_year_standsWhole :
    (∃ c, issueRoute.compile ∅ = .ok c ∧ ∃ m, c.regex.search "log/v2020.x/7".toList = some m ∧
      c.StandsWhole m "log/v2020.x/7".toList "year".toList) ∧
    (∃ c, diaryRoute.compile ∅ = .ok c ∧ ∃ m, c.regex.search "diary/2020".toList = some m ∧
      c.StandsWhole m "diary/2020".toList "year".toList) := by
  constructor
  · have hany : (issueRoute.compile ∅).toOption.any (fun c =>
        (c.regex.search "log/v2020.x/7".toList).isSome &&
          decide (∀ s ∈ c.segments.dropLast, s.isOptional = false)) = true := by decide +kernel
    obtain ⟨c, hc, hboth⟩ := exists_ok_of_any_toOption hany
    obtain ⟨hsome, hreq⟩ := (Bool.and_eq_true _ _).mp hboth
    obtain ⟨m, hm⟩ := Option.isSome_iff_exists.mp hsome
    have henc : issueRoute.Enclosable := Route.enclosable_of_values (by decide +kernel)
    have ht : Template.parse (Text.trim '/' issueRoute.template) = .ok issueTemplate := by
      decide +kernel
    have hglue : issueTemplate.Unglued := by
      unfold Template.Unglued
      decide
    exact ⟨c, hc, m, hm, values_standWhole ht hglue hc (.inl ⟨henc, of_decide_eq_true hreq⟩) hm
      (p := ⟨"year".toList, .none⟩) (by decide)⟩
  · have hany : (diaryRoute.compile ∅).toOption.any (fun c =>
        (c.regex.search "diary/2020".toList).isSome) = true := by decide +kernel
    obtain ⟨c, hc, hsome⟩ := exists_ok_of_any_toOption hany
    obtain ⟨m, hm⟩ := Option.isSome_iff_exists.mp hsome
    have ht : Template.parse (Text.trim '/' diaryRoute.template) = .ok diaryTemplate := by
      decide +kernel
    have hglue : diaryTemplate.Unglued := by
      unfold Template.Unglued
      decide
    have hempty : diaryTemplate.NoEmptyComponent := by
      unfold Template.NoEmptyComponent
      decide
    have htail : diaryTemplate.OptionalTail (diaryRoute.mayBeAbsent diaryTemplate ∅) := by
      constructor
      · unfold Component.IsOptional
        decide +kernel
      · unfold Component.IsOptional
        decide +kernel
    exact ⟨c, hc, m, hm, values_standWhole ht hglue hc
      (.inr ⟨fun _ _ _ _ => rfl, hempty, htail, by decide⟩) hm (p := ⟨"year".toList, .optional⟩)
      (by decide)⟩

/-- An optional parameter in the middle takes the start of a component whose rest goes to the
parameter behind it. -/
theorem gapRoute_tears_component : ∃ c, gapRoute.compile ∅ = .ok c ∧
    (∀ s ∈ c.segments, s.before = [] ∧ s.after = []) ∧
    c.valuesIn? "x/yz".toList ∅ =
      some (.ofList [("a".toList, ['x']), ("b".toList, ['y']), ("c".toList, ['z'])]) ∧
    (∃ m, c.regex.search "x/yz".toList = some m ∧ m.span? "c".toList = some (3, 4)) ∧
    ¬StandsWhole "x/yz".toList 3 ['z'] := by
  have hany : (gapRoute.compile ∅).toOption.any (fun c =>
      decide (∀ s ∈ c.segments, s.before = [] ∧ s.after = []) &&
        decide (c.valuesIn? "x/yz".toList ∅ =
          some (.ofList [("a".toList, ['x']), ("b".toList, ['y']), ("c".toList, ['z'])])) &&
        (c.regex.search "x/yz".toList).any (fun m => m.span? "c".toList = some (3, 4))) = true := by
    decide +kernel
  obtain ⟨c, hc, hall⟩ := exists_ok_of_any_toOption hany
  simp only [Bool.and_eq_true, decide_eq_true_eq] at hall
  obtain ⟨⟨hbare, hvalues⟩, hsearch⟩ := hall
  obtain ⟨m, hm, hspan⟩ := (Option.any_eq_true _ _).mp hsearch
  refine ⟨c, hc, hbare, hvalues, ⟨m, hm, of_decide_eq_true hspan⟩, ?_⟩
  rintro ⟨front, back, hpath, hlen, hborder, -⟩
  have hfront : front = "x/y".toList := by
    have htake := congrArg (List.take 3) hpath
    rw [List.append_assoc, List.take_left' hlen] at htake
    exact htake.symm
  subst hfront
  revert hborder
  decide

end

end PathRouting
