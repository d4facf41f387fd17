import PathRouting.Proofs.Regex.Avoiding
import PathRouting.Proofs.Route.Acceptance
import PathRouting.Proofs.Route.Borders
import PathRouting.Proofs.Route.Loosening
import PathRouting.Proofs.RouteTable.Precedence
import PathRouting.Proofs.Segment.Separated

/-!
# Values of the path and of the query string

A value of the query string makes its parameter optional, and then the path may be cut in other
ways. If none of these comes before the cut that was found without query values, the path still
gives the values that it gave, and the query string adds values for the other parameters. This is so
where the path can be cut in one way only, where the query values make no parameter optional that was
not, and where optional parameters come last. Elsewhere a value of the query string can take the
place of a value of the path.
-/

namespace PathRouting

open Regex

/-- A cut of a path whose values meet their constraints where they stand. -/
structure IsBoundCut (constraint? : Text → Option Text) (segments : List Segment)
    (shares : List Share) (path : Text) : Prop where
  /-- The path is cut. -/
  cut : IsCut (Segment.BoundValue constraint?) segments shares path
  /-- A value meets the constraint of its parameter. -/
  bound : ∀ name start x, IsShareOf segments shares name start x →
    ∃ s ∈ segments, s.name = some name ∧ s.Bound constraint? path start x.value

/-- All cuts of a path give the same values to the parameters. -/
def CutsAlike (constraint? : Text → Option Text) (segments : List Segment) (path : Text) : Prop :=
  ∀ xs ys, IsBoundCut constraint? segments xs path → IsBoundCut constraint? segments ys path →
    captured segments xs = captured segments ys

/-- Reasons why values of the query string cannot take the place of values of the path. -/
inductive Route.PathDecides (r : Route) (t : Template) (query : Values) (path : Text) : Prop
  /-- The query string has values only for parameters that may be absent anyway. -/
  | optional (h : ∀ p ∈ t.placeholders, (query.nonempty? p.name).isSome = true →
      r.mayBeAbsent t ∅ p.name = true)
  /-- All parameters are required otherwise, and each of them stays within its component. -/
  | required (hreq : ∀ p ∈ t.placeholders, r.mayBeAbsent t ∅ p.name = false) (hglue : t.Unglued)
    (henc : r.Enclosable) (havoids : ∀ p ∈ t.placeholders, ∀ constraint,
      r.constraints.get? p.name = some constraint → Avoids pathFlags constraint '/')
  /-- There are no constraints, and the parameters that may be absent otherwise come last. -/
  | last (hr : r.ConstraintFree) (hglue : t.Unglued) (hempty : t.NoEmptyComponent)
    (htail : t.OptionalTail (r.mayBeAbsent t ∅))
  /-- The path can be cut in one way only. -/
  | alike (henc : r.Enclosable)
    (h : ∀ c, r.compile query = .ok c → CutsAlike r.constraints.get? c.segments path)

section

variable {constraint? : Text → Option Text} {segments ds : List Segment} {shares : List Share}
  {path name : Text} {start : Nat} {s : Segment} {x y : Share}

/-- The first share belongs to the parameter of the first segment. -/
theorem IsShareOf.first (segments : List Segment) (hname : s.name = some name) (x : Share)
    (shares : List Share) : IsShareOf (s :: segments) (x :: shares) name x.before.length x :=
  ⟨0, s, rfl, hname, rfl, (Nat.zero_add _).symm⟩

/-- The other shares belong to the parameters of the other segments. -/
theorem IsShareOf.behind (h : IsShareOf segments shares name start y) (s : Segment) (x : Share) :
    IsShareOf (s :: segments) (x :: shares) name (x.text.length + start) y := by
  obtain ⟨i, d, hd, hname, hy, rfl⟩ := h
  refine ⟨i + 1, d, hd, hname, hy, ?_⟩
  rw [List.take_succ_cons, List.flatMap_cons, List.length_append, Nat.add_assoc]

/-- A cut is one into values without slashes if the values of its shares hold none. -/
theorem IsCut.slashFree {allowed : Segment → Text → Prop} (h : IsCut allowed segments shares path)
    (hfree : ∀ name start x, IsShareOf segments shares name start x → '/' ∉ x.value) :
    IsCut Segment.SlashFree segments shares path := by
  induction h using IsCut.induction with
  | nil => exact rfl
  | cons s segments x shares rest htakes _ ih =>
    refine ⟨rest, rfl, ⟨htakes.before, htakes.literal, fun hname => ?_, htakes.after,
      htakes.separator⟩, ih fun name start y hy => hfree name _ y (hy.behind s x)⟩
    obtain ⟨name, hname⟩ := Option.ne_none_iff_exists'.mp hname
    exact hfree name _ x (.first segments hname x shares)

namespace IsBoundCut

/-- A cut is one for segments that may be absent more often. -/
theorem loosen (h : IsBoundCut constraint? segments shares path)
    (hloosens : List.Forall₂ Segment.Loosens ds segments) :
    IsBoundCut constraint? ds shares path where
  cut := by
    refine h.cut.loosen (fun hds value hvalue hfree => ?_) hloosens
    refine hds.plainValue (hvalue fun name hname => hfree name ?_)
    rw [hds.name, hname]
  bound name start x hx := by
    have hnames := Segment.map_name_of_loosens hloosens
    obtain ⟨s, hs, hname, hbound⟩ := h.bound name start x (isShareOf_congr hnames hx)
    obtain ⟨d, hd, hds⟩ := Segment.exists_mem_of_loosens hloosens hs
    refine ⟨d, hd, hds.name.trans hname, fun name' constraint hname' hconstraint => ?_⟩
    rw [hds.name] at hname'
    exact (hbound name' constraint hname' hconstraint).imp_left fun h => ⟨h.1, hds.isOptional h.2⟩

/-- The values of a cut hold no slash if their constraints take none. -/
theorem slashFree (h : IsBoundCut constraint? segments shares path)
    (havoids : ∀ s ∈ segments, ∀ name constraint, s.name = some name →
      constraint? name = some constraint → Avoids pathFlags constraint '/') :
    IsCut Segment.SlashFree segments shares path := by
  refine h.cut.slashFree fun name start x hx => ?_
  obtain ⟨s, hs, hname, hbound⟩ := h.bound name start x hx
  cases hconstraint : constraint? name with
  | none =>
    obtain ⟨d, hd, hdname, rest, htakes⟩ := h.cut.exists_takes hx
    refine (htakes.value (by rw [hdname]; exact Option.some_ne_none name) fun name' hname' => ?_).1
    rw [hdname, Option.some.injEq] at hname'
    rw [← hname', hconstraint]
  | some constraint =>
    obtain ⟨hnil, -⟩ | hmatches := hbound name constraint hname hconstraint
    · rw [hnil]
      exact List.not_mem_nil
    · obtain ⟨front, back, hpath, rfl⟩ := h.cut.split_value hx
      rw [hpath] at hmatches
      exact hmatches.notMem (havoids s hs name constraint hname hconstraint)

end IsBoundCut

end

section

variable {r : Route} {t : Template} {query : Values} {path : Text} {c c' : CompiledRoute}

/-- What a match finds for the parameters are the values of a cut. -/
theorem exists_boundCut_of_search (henc : r.Enclosable) (hc : r.compile query = .ok c)
    {m : Regex.Match} (hm : c.regex.search path = some m) :
    ∃ shares, IsBoundCut r.constraints.get? c.segments shares path ∧
      ∀ name text, (name, text) ∈ captured c.segments shares → m.named? name = some text := by
  obtain ⟨hinput, shares, hcut, hshares⟩ := exists_cut_of_search henc hc hm
  refine ⟨shares, ⟨hcut, fun name start x hx => (hshares name start x hx).2⟩, ?_⟩
  intro name text htext
  obtain ⟨start, x, hx, rfl⟩ := exists_isShareOf_of_mem_captured htext
  exact hcut.named?_eq hx hinput (hshares name start x hx).1

/-- If all cuts of a path are alike for given query values, the parameters take of the path what they
take without query values. -/
theorem named?_eq_of_cutsAlike (henc : r.Enclosable) (hc' : r.compile ∅ = .ok c')
    (hc : r.compile query = .ok c) (halike : CutsAlike r.constraints.get? c.segments path)
    {m' m : Regex.Match} (hm' : c'.regex.search path = some m') (hm : c.regex.search path = some m)
    {name : Text} (hname : name ∈ c'.segments.filterMap (·.name)) :
    m.named? name = m'.named? name := by
  have hloosens := Route.loosens_of_compile hc' hc fun _ _ h => nomatch h
  obtain ⟨xs, hxs, hcaptured'⟩ := exists_boundCut_of_search henc hc' hm'
  obtain ⟨ys, hys, hcaptured⟩ := exists_boundCut_of_search henc hc hm
  have hsame : captured c'.segments xs = captured c.segments ys := by
    rw [← captured_of_loosens hloosens]
    exact halike xs ys (hxs.loosen hloosens) hys
  rw [← map_fst_captured hxs.cut] at hname
  obtain ⟨⟨name, text⟩, htext, rfl⟩ := List.mem_map.mp hname
  rw [hcaptured' name text htext]
  rw [hsame] at htext
  exact hcaptured name text htext

/-- Without optional parameters, and if each parameter stays within its component, a path that was
matched without query values can be cut in one way only. -/
theorem cutsAlike_of_required (ht : Template.parse (Text.trim '/' r.template) = .ok t)
    (hreq : ∀ p ∈ t.placeholders, r.mayBeAbsent t ∅ p.name = false) (hglue : t.Unglued)
    (henc : r.Enclosable) (havoids : ∀ p ∈ t.placeholders, ∀ constraint,
      r.constraints.get? p.name = some constraint → Avoids pathFlags constraint '/')
    (hc' : r.compile ∅ = .ok c') (hc : r.compile query = .ok c) (hpath : path.getLast? ≠ some '/')
    {m' : Regex.Match} (hm' : c'.regex.search path = some m') :
    CutsAlike r.constraints.get? c.segments path := by
  have hloosens := Route.loosens_of_compile hc' hc fun _ _ h => nomatch h
  obtain ⟨hmarked, hwhole'⟩ := Route.whole_of_compile ht hglue hc'
  obtain ⟨-, hwhole⟩ := Route.whole_of_compile ht hglue hc
  have hslash : ∀ {query : Values} {c : CompiledRoute}, r.compile query = .ok c →
      ∀ s ∈ c.segments, ∀ name constraint, s.name = some name →
        r.constraints.get? name = some constraint → Avoids pathFlags constraint '/' := by
    intro query c hc s hs name constraint hname hconstraint
    obtain ⟨⟨p, hp, rfl⟩, -⟩ := pattern_of_compile ht hc hs hname
    exact havoids p hp constraint hconstraint
  have hsreq : ∀ s ∈ c'.segments, s.isOptional = false := by
    intro s hs
    cases hname : s.name with
    | none => exact ((hwhole' s hs).literal hname).2.2
    | some name =>
      obtain ⟨⟨p, hp, rfl⟩, -⟩ := pattern_of_compile ht hc' hs hname
      rw [(hwhole' s hs).named p.name hname, hreq p hp]
  obtain ⟨shares, hshares, -⟩ := exists_boundCut_of_search henc hc' hm'
  intro xs ys hxs hys
  have hxs := hxs.slashFree (hslash hc)
  have hys := hys.slashFree (hslash hc)
  by_cases hne : c'.segments = []
  · rw [hne, List.forall₂_nil_right_iff] at hloosens
    rw [hloosens]
    rfl
  · have hcount := (hshares.slashFree (hslash hc')).count_eq hne hmarked hwhole' hsreq hpath
    rw [← Segment.flatMap_components_of_loosens hloosens] at hcount
    rw [hxs.eq_of_count_eq hwhole hys hpath hcount]

/-- If optional parameters come last, and without constraints, the parameters take of a path what
they take without query values. -/
theorem named?_eq_of_optionalTail (ht : Template.parse (Text.trim '/' r.template) = .ok t)
    (hr : r.ConstraintFree) (hglue : t.Unglued) (hempty : t.NoEmptyComponent)
    (htail : t.OptionalTail (r.mayBeAbsent t ∅)) (hc' : r.compile ∅ = .ok c')
    (hc : r.compile query = .ok c) (hpath : path.getLast? ≠ some '/')
    {m' m : Regex.Match} (hm' : c'.regex.search path = some m') (hm : c.regex.search path = some m)
    {name : Text} (hname : name ∈ c'.segments.filterMap (·.name)) :
    m.named? name = m'.named? name := by
  have hloosens := Route.loosens_of_compile hc' hc fun _ _ h => nomatch h
  obtain ⟨hmarked, hwhole'⟩ := Route.whole_of_compile ht hglue hc'
  obtain ⟨-, hwhole⟩ := Route.whole_of_compile ht hglue hc
  obtain ⟨hbare, hpair⟩ := Segment.bare_of_optionalTail hwhole'
    (Route.flatMap_components_of_compile ht hglue hempty hc') htail
  -- The first cut without query values is also the first one with them.
  obtain ⟨shares, hhead', -⟩ := Option.map_eq_some_iff.mp ((search_eq_cuts hr hc' path).symm.trans hm')
  have hcut' := mem_cuts.mp (List.mem_of_mem_head? hhead')
  have hsep := separated_of_head?_cuts hmarked hwhole' hbare hpair hpath hhead'
  have hcut : IsCut Segment.PlainValue c.segments shares path := by
    refine hcut'.loosen ?_ hloosens
    exact fun hds _ hvalue => hds.plainValue hvalue
  have hhead := head?_cuts_of_separated hwhole hcut hsep
  obtain ⟨start, x, hx⟩ := hcut'.exists_isShareOf hname
  have hnames := Segment.map_name_of_loosens hloosens
  rw [named?_of_search hr hc' hhead' hm' hx,
    named?_of_search hr hc hhead hm (isShareOf_congr hnames.symm hx)]

/-- If a reason for it is known, the parameters take of a path what they take without query
values. -/
theorem named?_eq_of_pathDecides (ht : Template.parse (Text.trim '/' r.template) = .ok t)
    (h : r.PathDecides t query path) (hc' : r.compile ∅ = .ok c') (hc : r.compile query = .ok c)
    (hpath : path.getLast? ≠ some '/') {m' m : Regex.Match} (hm' : c'.regex.search path = some m')
    (hm : c.regex.search path = some m) {name : Text}
    (hname : name ∈ c'.segments.filterMap (·.name)) : m.named? name = m'.named? name := by
  cases h with
  | optional h =>
    have hregex : c.regex = c'.regex := by
      refine (Route.compile_congr ht hc' hc fun p hp => ?_).2
      rw [Route.isOptional_mergedDefaults, Route.isOptional_mergedDefaults]
      have hp := h p hp
      cases hsome : (query.nonempty? p.name).isSome with
      | true =>
        rw [hp hsome]
        unfold Route.mayBeAbsent
        rw [hsome, Bool.or_true]
      | false =>
        unfold Route.mayBeAbsent
        rw [hsome]
        rfl
    rw [hregex, hm', Option.some.injEq] at hm
    rw [hm]
  | required hreq hglue henc havoids =>
    have halike := cutsAlike_of_required ht hreq hglue henc havoids hc' hc hpath hm'
    exact named?_eq_of_cutsAlike henc hc' hc halike hm' hm hname
  | last hr hglue hempty htail =>
    exact named?_eq_of_optionalTail ht hr hglue hempty htail hc' hc hpath hm' hm hname
  | alike henc h => exact named?_eq_of_cutsAlike henc hc' hc (h c hc) hm' hm hname

/-- Where the parameters take of a path what they take without query values, the values are those
that were found without, and values of the query string for the other parameters. -/
theorem get?_eq_or_of_named?_eq (ht : Template.parse (Text.trim '/' r.template) = .ok t)
    (hc' : r.compile ∅ = .ok c') (hc : r.compile query = .ok c) {values' values : Values}
    (hvalues' : c'.valuesIn? path ∅ = some values') (hvalues : c.valuesIn? path query = some values)
    (hsame : ∀ m' m, c'.regex.search path = some m' → c.regex.search path = some m →
      ∀ name ∈ c'.segments.filterMap (·.name), m.named? name = m'.named? name) (name : Text) :
    values.get? name = (values'.get? name).or
      (if name ∈ t.placeholders.map (·.name) then query.nonempty? name else none) := by
  obtain ⟨m', hm', hfound', hother'⟩ := Segment.get?_of_valuesIn? (nodup_names_of_compile hc') hvalues'
  obtain ⟨m, hm, hfound, hother⟩ := Segment.get?_of_valuesIn? (nodup_names_of_compile hc) hvalues
  have hsame := hsame m' m hm' hm
  rw [Route.filterMap_name_of_compile ht hc'] at hfound' hother' hsame
  rw [Route.filterMap_name_of_compile ht hc] at hfound hother
  by_cases hname : name ∈ t.placeholders.map (·.name)
  · rw [if_pos hname]
    have hvalue' := hfound' name hname
    have hvalue := hfound name hname
    unfold Segment.value? at hvalue hvalue'
    rw [hsame name hname] at hvalue
    cases htaken : (m'.named? name).filter (!·.isEmpty) with
    | some taken =>
      rw [htaken] at hvalue hvalue'
      obtain ⟨w, -, hw⟩ := Option.map_eq_some_iff.mp hvalue'
      rw [← Option.some.inj (hvalue'.symm.trans hvalue), ← hw, Option.some_or]
    | none =>
      rw [htaken] at hvalue hvalue'
      rw [← Option.some.inj hvalue', ← Option.some.inj hvalue]
      rfl
  · rw [if_neg hname, hother name hname, hother' name hname]
    rfl

end

namespace RouteTable

variable {r : Route} {t : Template} {query : Values} {path : Text} {m' m : RouteMatch}

/-- A value that the path gives to a parameter wins over the query string, if there is a reason why
values of the query string cannot take its place. Where a route matches a path with and without
query values, the values that it gives are those that it gives without query values, and the query
string adds its own values for the other parameters of the template. -/
theorem query_adds_values (ht : Template.parse (Text.trim '/' r.template) = .ok t)
    (h : r.PathDecides t query (normalizePath path)) (hm' : r.IsMatch (normalizePath path) ∅ m')
    (hm : r.IsMatch (normalizePath path) query m) (name : Text) :
    m.values.get? name = (m'.values.get? name).or
      (if name ∈ t.placeholders.map (·.name) then query.nonempty? name else none) := by
  obtain ⟨c', hc', hvalues', -⟩ := hm'
  obtain ⟨c, hc, hvalues, -⟩ := hm
  have hpath : (normalizePath path).getLast? ≠ some '/' := Text.getLast?_trim '/' _
  exact get?_eq_or_of_named?_eq ht hc' hc hvalues' hvalues (fun _ _ hm' hm _ hname =>
    named?_eq_of_pathDecides ht h hc' hc hpath hm' hm hname) name

/-- A route with two required parameters, one of which is a number. -/
def tabRoute : Route :=
  { template := "user/{id}/{tab}".toList
    constraints := .ofList [("id".toList, "[0-9]+".toList)] }

/-- What the template of the route is read as. -/
def tabTemplate : Template :=
  [.literal "user/".toList, .placeholder ⟨"id".toList, .none⟩, .literal "/".toList,
    .placeholder ⟨"tab".toList, .none⟩]

/-- A query string with other values for both parameters, and with one that is not asked for. -/
def tabQuery : Values :=
  .ofList [("id".toList, "7".toList), ("tab".toList, "x".toList), ("page".toList, "2".toList)]

/-- The values of the path are delivered, and no others. -/
theorem tabRoute_query_adds_values :
    ∃ m, tabRoute.IsMatch (normalizePath "/user/42/posts".toList) tabQuery m ∧
      m.values.get? "id".toList = some "42".toList ∧
      m.values.get? "tab".toList = some "posts".toList ∧ m.values.get? "page".toList = none := by
  have ht : Template.parse (Text.trim '/' tabRoute.template) = .ok tabTemplate := by decide +kernel
  have hglue : tabTemplate.Unglued := by
    unfold Template.Unglued
    decide
  have henc : tabRoute.Enclosable := Route.enclosable_of_values (by decide +kernel)
  have hdecides : tabRoute.PathDecides tabTemplate tabQuery
      (normalizePath "/user/42/posts".toList) := by
    have havoids : ∀ constraint ∈ tabRoute.constraints.values, Avoids pathFlags constraint '/' := by
      decide +kernel
    exact .required (by decide +kernel) hglue henc fun p hp constraint hconstraint =>
      havoids constraint (Dict.mem_values_of_get?_eq_some hconstraint)
  have hm' : tabRoute.IsMatch (normalizePath "/user/42/posts".toList) ∅
      ⟨tabRoute, .ofList [("id".toList, "42".toList), ("tab".toList, "posts".toList)]⟩ :=
    matchRoute?_eq_some_iff.mp (by decide +kernel)
  obtain ⟨m, hm⟩ : ∃ m, matchRoute? (normalizePath "/user/42/posts".toList) tabQuery tabRoute =
      some m := Option.isSome_iff_exists.mp (by decide +kernel)
  have hm := matchRoute?_eq_some_iff.mp hm
  have hvalues := query_adds_values ht hdecides hm' hm
  refine ⟨m, hm, ?_, ?_, ?_⟩
  · rw [hvalues]
    decide +kernel
  · rw [hvalues]
    decide +kernel
  · rw [hvalues]
    decide +kernel

/-- A value of the query string takes the place of a value of the path. As it lets the last
parameter be absent, the component goes to the optional one before it. -/
theorem gapRoute_query_replaces_value :
    RouteTable.empty.add gapRoute = .ok ⟨[gapRoute]⟩ ∧
      (matchRoute? (normalizePath "/x/z".toList) ∅ gapRoute).map (·.values) =
        some (.ofList [("a".toList, ['x']), ("c".toList, ['z'])]) ∧
      (matchRoute? (normalizePath "/x/z".toList) (.ofList [("c".toList, ['1'])]) gapRoute).map
          (·.values) =
        some (.ofList [("a".toList, ['x']), ("b".toList, ['z']), ("c".toList, ['1'])]) := by
  refine ⟨?_, ?_, ?_⟩ <;> decide +kernel

end RouteTable

end PathRouting
