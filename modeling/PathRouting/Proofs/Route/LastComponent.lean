import PathRouting.Proofs.Route.ConstrainedMatch
import PathRouting.Proofs.Route.Rows

/-!
# A constraint on the last component

A template may be some text, the stem, with one placeholder behind it as a component of its own. The
paths of such a route are the stem with a value behind a slash, and what the value may be is up to the
constraint alone. If the placeholder is optional the stem is a path of the route too.
-/

namespace PathRouting

open Regex

/-- Some text with a placeholder behind it is read as such. -/
theorem Template.parse_stem {stem : Text} {p : Placeholder} (hstem : stem.IsPiece)
    (hbraces : '\x7b' ∉ stem ∧ '\x7d' ∉ stem) (hp : p.Canonical) :
    parse (Text.trim '/' (stem ++ '/' :: p.render)) = .ok (row stem [p]) := by
  have hps : ∀ q ∈ [p], q.Canonical := List.forall_mem_singleton.mpr hp
  have hrow := parse_trim_row hps hstem.last
  rwa [doubleBraces_of_notMem hbraces.1 hbraces.2, Text.trimStart_of_head? hstem.head,
    List.flatMap_singleton] at hrow

/-- A path is cut between two segments into what they take. -/
theorem isCut_pair_iff {allowed : Segment → Text → Prop} {s d : Segment} {shares : List Share}
    {path : Text} : IsCut allowed [s, d] shares path ↔ ∃ x y, shares = [x, y] ∧
      path = x.text ++ y.text ∧ s.Takes allowed x y.text ∧ d.Takes allowed y [] := by
  constructor
  · intro h
    obtain ⟨x, shares, rest, rfl, rfl, hx, hcut⟩ := isCut_cons_iff.mp h
    obtain ⟨y, shares, left, rfl, rfl, hy, hcut⟩ := isCut_cons_iff.mp hcut
    obtain ⟨rfl, rfl⟩ := isCut_nil_iff.mp hcut
    rw [List.append_nil] at hx ⊢
    exact ⟨x, y, rfl, rfl, hx, hy⟩
  · rintro ⟨x, y, rfl, rfl, hx, hy⟩
    exact ⟨y.text, rfl, hx, [], (List.append_nil _).symm, hy, rfl⟩

namespace Route

variable (r : Route) (query : Values) (defaults : Dict ParameterDefault) (stem : Text)
  (p : Placeholder)

/-- The segments of some text with a placeholder behind it. -/
def stemSegments : List Segment :=
  [{ Segment.literal (escape stem) with optionalRest := isOptional defaults query p.name },
    { r.segmentOf defaults query p [] with isLast := true }]

variable {r query defaults stem p} {c : CompiledRoute}

/-- A compiled route whose template is some text with a placeholder behind it has these segments. -/
theorem segments_of_stem (hstem : stem ≠ [])
    (ht : Template.parse (Text.trim '/' r.template) = .ok (Template.row stem [p]))
    (hc : r.compile query = .ok c) : c.segments = r.stemSegments query c.defaults stem p := by
  obtain ⟨t, ht', -, hsegments, -, -, hdefaults, -⟩ := Route.compile_eq_ok hc
  obtain rfl : Template.row stem [p] = t := Except.ok.inj (ht.symm.trans ht')
  have hliterals : Segment.literals stem = [.literal stem] := by
    unfold Segment.literals
    rw [if_neg (by simpa using hstem)]
  rw [hsegments, templateSegments, layoutSegments_row (.inl hstem), hliterals, hdefaults,
    List.map_singleton]
  unfold stemSegments segmentOf
  generalize isOptional _ query p.name = optional
  cases optional <;> rfl

/-- A path is cut into the stem up to case, a slash and a value. The slash may be missing at the end
of the path, if the placeholder is optional. -/
theorem isCut_stemSegments_iff {allowed : Segment → Text → Prop} {shares : List Share} {path : Text} :
    IsCut allowed (r.stemSegments query defaults stem p) shares path ↔
      ∃ text value slash tail, shares = [⟨[], text, [], slash⟩, ⟨[], value, [], tail⟩] ∧
        path = text ++ ((if slash then ['/'] else []) ++ (value ++ if tail then ['/'] else [])) ∧
        SameFolding text stem ∧
        (slash = true ∨ (isOptional defaults query p.name = true ∧ value = [] ∧ tail = false)) ∧
        allowed { r.segmentOf defaults query p [] with isLast := true } value := by
  have htext : ∀ (value : Text) (slash : Bool),
      (⟨[], value, [], slash⟩ : Share).text = value ++ if slash then ['/'] else [] := by
    intro value slash
    simp [Share.text]
  -- The first segment is required and not the last one, the second one is the last one.
  have hfirst : ∀ slash rest, Segment.Separates
      { Segment.literal (escape stem) with optionalRest := isOptional defaults query p.name }
      slash rest ↔ slash = true ∨ (isOptional defaults query p.name = true ∧ rest = []) := by
    intro slash rest
    unfold Segment.Separates Segment.literal
    cases isOptional defaults query p.name <;> simp
  have hlast : ∀ slash rest, Segment.Separates
      { r.segmentOf defaults query p [] with isLast := true } slash rest := by
    intro slash rest
    simp [Segment.Separates, segmentOf]
  have hend : ∀ (value : Text) (tail : Bool), value ++ (if tail then ['/'] else []) = [] ↔
      value = [] ∧ tail = false := by
    intro value tail
    cases tail <;> simp
  constructor
  · intro h
    obtain ⟨x, y, rfl, hpath, hstem, hvalue⟩ := isCut_pair_iff.mp h
    obtain ⟨before, text, after, slash⟩ := x
    obtain ⟨before', value, after', tail⟩ := y
    obtain rfl := sameFolding_nil_iff.mp hstem.before
    obtain rfl := sameFolding_nil_iff.mp hstem.after
    obtain rfl := sameFolding_nil_iff.mp hvalue.before
    obtain rfl := sameFolding_nil_iff.mp hvalue.after
    have hliteral := hstem.literal rfl
    have hslash := (hfirst _ _).mp hstem.separator
    rw [htext, hend] at hslash
    rw [htext, htext, List.append_assoc] at hpath
    exact ⟨text, value, slash, tail, rfl, hpath, by simpa [Segment.literal] using hliteral, hslash,
      hvalue.value (Option.some_ne_none _)⟩
  · rintro ⟨text, value, slash, tail, rfl, rfl, hfolding, hslash, hallowed⟩
    refine isCut_pair_iff.mpr ⟨_, _, rfl, ?_, ⟨rfl, fun _ => ?_, fun hname => ?_, rfl, ?_⟩,
      ⟨rfl, fun hname => ?_, fun _ => hallowed, rfl, hlast _ _⟩⟩
    · rw [htext, htext, List.append_assoc]
    · change SameFolding text (unescape (escape stem))
      rwa [unescape_escape]
    · exact absurd rfl hname
    · rw [htext, hfirst, hend]
      exact hslash
    · cases hname

/-- A path that is the stem with a value behind a slash can only be cut at that slash. -/
theorem eq_of_isCut_slash {allowed : Segment → Text → Prop} {shares : List Share} {value : Text}
    (hvalue : '/' ∉ value)
    (h : IsCut allowed (r.stemSegments query defaults stem p) shares (stem ++ '/' :: value)) :
    shares = [⟨[], stem, [], true⟩, ⟨[], value, [], false⟩] := by
  obtain ⟨text, found, slash, tail, rfl, hpath, hfolding, hslash, -⟩ := isCut_stemSegments_iff.mp h
  have hlength := hfolding.length_eq
  cases slash with
  | true =>
    obtain ⟨rfl, hrest⟩ := List.append_inj hpath hlength.symm
    obtain rfl : value = found ++ if tail then ['/'] else [] := (List.cons.inj hrest).2
    cases tail with
    | true => exact absurd (by simp) hvalue
    | false => simp
  | false =>
    -- Without the slash nothing would be left for it.
    obtain hslash | ⟨-, rfl, rfl⟩ := hslash
    · cases hslash
    · have hwhole := congrArg List.length hpath
      simp only [List.length_append, List.length_cons, List.length_nil, Bool.false_eq_true,
        if_false] at hwhole
      omega

/-- A path that is the stem with something behind it cannot be cut without a slash. -/
theorem not_isCut_append {allowed : Segment → Text → Prop} {shares : List Share} {value : Text}
    (hne : value ≠ []) (hvalue : '/' ∉ value) :
    ¬IsCut allowed (r.stemSegments query defaults stem p) shares (stem ++ value) := by
  intro h
  obtain ⟨text, found, slash, tail, -, hpath, hfolding, hslash, -⟩ := isCut_stemSegments_iff.mp h
  obtain ⟨rfl, hrest⟩ := List.append_inj hpath hfolding.length_eq.symm
  cases slash with
  | true => exact hvalue (by rw [hrest]; simp)
  | false =>
    obtain hslash | ⟨-, rfl, rfl⟩ := hslash
    · cases hslash
    · exact hne hrest

/-- What holds for the constraint of the only placeholder holds for each constraint. -/
theorem eachConstraint_of_stem {good : Text → Prop} {constraint : Text}
    (ht : Template.parse (Text.trim '/' r.template) = .ok (Template.row stem [p]))
    (hconstraint : r.constraints.get? p.name = some constraint) (h : good constraint) :
    r.EachConstraint good := by
  intro t ht' q hq other hother
  obtain rfl : Template.row stem [p] = t := Except.ok.inj (ht.symm.trans ht')
  rw [← Template.map_placeholder_layoutAfter [], ← Template.layout, Template.layout_row_cons] at hq
  obtain rfl := List.mem_singleton.mp hq
  rw [hconstraint, Option.some.injEq] at hother
  rwa [← hother]

/-- What it means that a value of the placeholder meets its constraint. -/
theorem meetsConstraint_stem_iff {constraint value : Text}
    (hconstraint : r.constraints.get? p.name = some constraint) :
    Segment.MeetsConstraint r.constraints.get?
        { r.segmentOf defaults query p [] with isLast := true } value ↔
      (value = [] ∧ isOptional defaults query p.name = true) ∨
        MatchesWhole pathFlags constraint value :=
  Segment.meetsConstraint_iff (show (some p.name).bind r.constraints.get? = _ from hconstraint)

/-- An optional placeholder may be absent. -/
theorem isOptional_of_stem
    (ht : Template.parse (Text.trim '/' r.template) = .ok (Template.row stem [p]))
    (hc : r.compile query = .ok c) (hdefault : p.default ≠ .none) :
    isOptional c.defaults query p.name = true := by
  obtain ⟨t, ht', -, -, -, -, hdefaults, -⟩ := Route.compile_eq_ok hc
  obtain rfl : Template.row stem [p] = t := Except.ok.inj (ht.symm.trans ht')
  unfold isOptional
  rw [hdefaults, contains_mergedDefaults, Template.layout_row_cons]
  simp [hdefault]

end Route

section

variable {r : Route} {query : Values} {c : CompiledRoute} {stem : Text} {p : Placeholder}
  {constraint : Text}

/-- The stem alone is a path of the route if the placeholder may be absent. -/
theorem isSome_search_stem_iff (henc : r.Enclosable)
    (hlook : r.EachConstraint (LookFree pathFlags)) (hstem : stem ≠ [])
    (ht : Template.parse (Text.trim '/' r.template) = .ok (Template.row stem [p]))
    (hconstraint : r.constraints.get? p.name = some constraint) (hc : r.compile query = .ok c) :
    (c.regex.search stem).isSome = true ↔ Route.isOptional c.defaults query p.name = true := by
  rw [isSome_search_iff_isCut henc hlook hc, Route.segments_of_stem hstem ht hc]
  constructor
  · rintro ⟨shares, hcut⟩
    obtain ⟨text, value, slash, tail, -, hpath, hfolding, hslash, -⟩ :=
      Route.isCut_stemSegments_iff.mp hcut
    obtain rfl | ⟨hopt, -⟩ := hslash
    · have hwhole := congrArg List.length hpath
      have hlength := hfolding.length_eq
      simp only [List.length_append, if_true, List.length_singleton] at hwhole
      omega
    · exact hopt
  · intro hopt
    refine ⟨_, Route.isCut_stemSegments_iff.mpr ⟨stem, [], false, false, rfl, by simp, rfl,
      .inr ⟨hopt, rfl, rfl⟩, ?_⟩⟩
    exact (Route.meetsConstraint_stem_iff hconstraint).mpr (.inl ⟨rfl, hopt⟩)

/-- The constraint of the last component decides about the component, and about nothing else: the
path with a value behind the stem is matched if and only if the constraint matches the whole value,
which is then what the parameter takes. Without the slash nothing is matched, and without a value
the stem is, if the placeholder is optional. -/
theorem constraint_decides_lastComponent (hstem : stem.IsPiece)
    (hbraces : '\x7b' ∉ stem ∧ '\x7d' ∉ stem) (hp : p.Canonical)
    (htemplate : r.template = stem ++ '/' :: p.render)
    (hconstraint : r.constraints.get? p.name = some constraint)
    (hlook : LookFree pathFlags constraint) (hplain : VerboseFree pathFlags constraint)
    (hc : r.compile query = .ok c) :
    (∀ value, value ≠ [] → '/' ∉ value →
      ((c.regex.search (stem ++ '/' :: value)).isSome = true ↔
        MatchesWhole pathFlags constraint value) ∧
      (∀ m, c.regex.search (stem ++ '/' :: value) = some m → m.named? p.name = some value) ∧
      c.regex.search (stem ++ value) = none) ∧
    (p.default ≠ .none → (c.regex.search stem).isSome = true) := by
  have ht : Template.parse (Text.trim '/' r.template) = .ok (Template.row stem [p]) := by
    rw [htemplate]
    exact Template.parse_stem hstem hbraces hp
  have hfree := Route.eachConstraint_of_stem ht hconstraint hlook
  have henc := Route.enclosable_of_compile (Route.eachConstraint_of_stem ht hconstraint hplain) hc
  have hsegments := Route.segments_of_stem hstem.ne_nil ht hc
  refine ⟨fun value hne hvalue => ⟨?_, fun m hm => ?_, ?_⟩, fun hdefault => ?_⟩
  · rw [isSome_search_iff_isCut henc hfree hc, hsegments]
    constructor
    · rintro ⟨shares, hcut⟩
      obtain rfl := Route.eq_of_isCut_slash hvalue hcut
      obtain ⟨_, _, _, _, hshares, -, -, -, hmeets⟩ := Route.isCut_stemSegments_iff.mp hcut
      cases hshares
      obtain ⟨hnil, -⟩ | hmatches := (Route.meetsConstraint_stem_iff hconstraint).mp hmeets
      · exact absurd hnil hne
      · exact hmatches
    · intro hmatches
      exact ⟨_, Route.isCut_stemSegments_iff.mpr ⟨stem, value, true, false, rfl, by simp, rfl,
        .inl rfl, (Route.meetsConstraint_stem_iff hconstraint).mpr (.inr hmatches)⟩⟩
  · obtain ⟨shares, hcut, hnamed⟩ := exists_isCut_of_search henc hfree hc hm
    rw [hsegments] at hcut hnamed
    obtain rfl := Route.eq_of_isCut_slash hvalue hcut
    exact hnamed p.name _ _ ⟨1, _, rfl, rfl, rfl, rfl⟩
  · rw [← Option.not_isSome_iff_eq_none, isSome_search_iff_isCut henc hfree hc, hsegments]
    rintro ⟨shares, hcut⟩
    exact Route.not_isCut_append hne hvalue hcut
  · exact (isSome_search_stem_iff henc hfree hstem.ne_nil ht hconstraint hc).mpr
      (Route.isOptional_of_stem ht hc hdefault)

/-- A route whose last component is a number or a word, or is missing. -/
def orderRoute : Route :=
  { template := "shop/order/{id?}".toList
    constraints := .ofList [("id".toList, "0*([1-9]+?)|new".toList)] }

/-- The route matches a number as a whole, and the stem. -/
theorem orderRoute_constraint_decides : ∃ c, orderRoute.compile ∅ = .ok c ∧
    MatchesWhole pathFlags "0*([1-9]+?)|new".toList "0042".toList ∧
    (∀ m, c.regex.search "shop/order/0042".toList = some m →
      m.named? "id".toList = some "0042".toList) ∧
    c.regex.search "shop/order0042".toList = none ∧
    (c.regex.search "shop/order".toList).isSome = true := by
  have hsome : (orderRoute.compile ∅).toOption.any (fun c =>
      (c.regex.search "shop/order/0042".toList).isSome) = true := by decide +kernel
  obtain ⟨c, hc, hsome⟩ := exists_ok_of_any_toOption hsome
  have hstem : Text.IsPiece "shop/order".toList := ⟨by decide, by decide, by decide⟩
  have hp : Placeholder.Canonical ⟨"id".toList, .optional⟩ :=
    ⟨⟨.inl rfl, List.forall_mem_singleton.mpr (.inl rfl)⟩, nofun⟩
  have htemplate : orderRoute.template =
      "shop/order".toList ++ '/' :: Placeholder.render ⟨"id".toList, .optional⟩ := rfl
  have hconstraint : orderRoute.constraints.get? "id".toList =
      some "0*([1-9]+?)|new".toList := rfl
  obtain ⟨hvalues, hpath⟩ := constraint_decides_lastComponent hstem (by decide) hp htemplate
    hconstraint (by decide +kernel) (by decide +kernel) hc
  obtain ⟨hmatches, hnamed, hnone⟩ := hvalues "0042".toList (by decide) (by decide)
  exact ⟨c, hc, hmatches.mp hsome, hnamed, hnone, hpath nofun⟩

end

end PathRouting
