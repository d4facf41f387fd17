import PathRouting.Proofs.Route.Match
import PathRouting.Proofs.RouteTable.Precedence
import PathRouting.Proofs.Segment.LetterCase

/-!
# The case of letters in request paths

The case of letters plays no part in routing. Two paths that differ only in the case of letters of
ASCII are matched by the same route of a table without constraints, whose parameters take the same
places of both, and each value is read from its own path, with the case that it has there.
-/

namespace PathRouting

/-- A match in a text, as one in the text in lower case. -/
def Regex.Match.lower (m : Regex.Match) : Regex.Match :=
  { m with input := m.input.map Char.toLower }

/-- What a group took in the text in lower case. -/
theorem Regex.Match.named?_lower (m : Regex.Match) (name : Text) :
    m.lower.named? name = (m.named? name).map Text.lower := by
  have hspan : m.lower.span? name = m.span? name := rfl
  unfold named?
  rw [hspan, Option.map_map]
  refine congrFun (congrArg _ (funext fun p => ?_)) _
  change ((m.input.map Char.toLower).extract p.1 p.2).toList =
    (m.input.extract p.1 p.2).toList.map Char.toLower
  rw [← Array.map_extract, Array.toList_map]

/-- The value for a parameter in the text in lower case is the same, up to case. -/
theorem Segment.value?_lower (m : Regex.Match) (query : Values) (name : Text) :
    (value? m.lower query name).map (Option.map Text.lower) =
      (value? m query name).map (Option.map Text.lower) := by
  have hdecode : ∀ t : Text, ((Percent.decode? t.lower).map some).map (Option.map Text.lower) =
      ((Percent.decode? t).map some).map (Option.map Text.lower) := fun t => by
    have hsome := congrArg (Option.map some) (Percent.decode?_lower t)
    rw [Option.map_map, Option.map_map] at hsome ⊢
    exact hsome
  unfold value?
  rw [m.named?_lower]
  cases m.named? name with
  | none => rfl
  | some taken =>
    cases taken with
    | nil => rfl
    | cons c taken => exact hdecode (c :: taken)

/-- What the path gives to a parameter between two places, decoded, or what the query string has for
it if nothing stands there. -/
def valueBetween? (path : Text) (query : Values) (name : Text) (start stop : Nat) : Option Text :=
  if start = stop then query.nonempty? name else Percent.decode? (path.extract start stop)

section

variable {r : Route} {query : Values} {c : CompiledRoute}

/-- An expression without constraints finds the same match in a path in lower case. -/
theorem search_lower (hr : r.ConstraintFree) (hc : r.compile query = .ok c) (path : Text) :
    c.regex.search path.lower = (c.regex.search path).map Regex.Match.lower := by
  rw [search_eq_cuts hr hc, search_eq_cuts hr hc, cuts_lower, List.head?_map, Option.map_map,
    Option.map_map]
  refine congrFun (congrArg _ (funext fun shares => ?_)) _
  dsimp only [Function.comp]
  rw [Regex.Spot.afterShares_lower]
  unfold Regex.Match.lower
  rw [List.map_toArray]
  rfl

/-- Values are found in a path in lower case if they are found in the path. -/
theorem valuesIn?_lower_eq_none_iff (hr : r.ConstraintFree) (hc : r.compile query = .ok c)
    (path : Text) : c.valuesIn? path.lower query = none ↔ c.valuesIn? path query = none := by
  have hvalue : ∀ m name, Segment.value? m.lower query name = none ↔
      Segment.value? m query name = none := fun m name => by
    rw [← Option.map_eq_none_iff (f := Option.map Text.lower), Segment.value?_lower,
      Option.map_eq_none_iff]
  unfold CompiledRoute.valuesIn?
  rw [Segment.valuesIn?_eq_none_iff, Segment.valuesIn?_eq_none_iff, search_lower hr hc]
  constructor
  · intro h m hm
    obtain ⟨name, hname, hnone⟩ := h m.lower (by rw [hm]; rfl)
    exact ⟨name, hname, (hvalue m name).mp hnone⟩
  · intro h m' hm'
    obtain ⟨m, hm, rfl⟩ := Option.map_eq_some_iff.mp hm'
    obtain ⟨name, hname, hnone⟩ := h m hm
    exact ⟨name, hname, (hvalue m name).mpr hnone⟩

/-- A parameter of a route without constraints takes what stands between two places of the path, which
the match shows. -/
theorem exists_span_of_valuesIn? (hr : r.ConstraintFree) (hc : r.compile query = .ok c) {path : Text}
    {values : Values} (hvalues : c.valuesIn? path query = some values) {m : Regex.Match}
    (hm : c.regex.search path = some m) {name : Text} (hname : name ∈ c.segments.filterMap (·.name)) :
    ∃ start stop, m.span? name = some (start, stop) ∧
      values.get? name = valueBetween? path query name start stop := by
  have hfound := hm
  rw [search_eq_cuts hr hc] at hfound
  obtain ⟨shares, hcuts, -⟩ := Option.map_eq_some_iff.mp hfound
  have hcut := mem_cuts.mp (List.mem_of_mem_head? hcuts)
  obtain ⟨start, x, hx⟩ := hcut.exists_isShareOf hname
  obtain ⟨m', hm', hvalue, -⟩ := Segment.get?_of_valuesIn? (nodup_names_of_compile hc) hvalues
  obtain rfl := Option.some.inj (hm.symm.trans hm')
  have hget := hvalue name hname
  rw [value?_of_search hr hc hcuts hm hx] at hget
  refine ⟨start, start + x.value.length, span?_of_search hr hc hcuts hm hx, ?_⟩
  unfold valueBetween?
  by_cases hempty : x.value = []
  · rw [if_pos hempty] at hget
    rw [hempty, List.length_nil, Nat.add_zero, if_pos rfl]
    exact (Option.some.inj hget).symm
  · have hlength : x.value.length ≠ 0 := mt List.length_eq_zero_iff.mp hempty
    obtain ⟨front, back, hpath, hstart⟩ := hcut.split_value hx
    have hslice : path.extract start (start + x.value.length) = x.value := by
      rw [hpath, ← hstart]
      simp
    rw [if_neg hempty] at hget
    rw [if_neg (by omega), hslice]
    obtain ⟨v, hv, hsome⟩ := Option.map_eq_some_iff.mp hget
    rw [hv, hsome]

/-- Paths that differ only in the case of letters have something between two places both or neither of
which can be decoded. -/
theorem isSome_valueBetween?_of_lower {path other : Text} (hcase : path.lower = other.lower)
    (query : Values) (name : Text) (start stop : Nat) :
    (valueBetween? path query name start stop).isSome =
      (valueBetween? other query name start stop).isSome := by
  unfold valueBetween?
  split
  · rfl
  · have hslice : Text.lower (path.extract start stop) = Text.lower (other.extract start stop) := by
      unfold Text.lower at hcase ⊢
      rw [List.extract_eq_take_drop, List.extract_eq_take_drop, List.map_take, List.map_drop, hcase,
        List.map_take, List.map_drop]
    rw [← Option.isSome_map (f := Text.lower), ← Percent.decode?_lower, hslice,
      Percent.decode?_lower, Option.isSome_map]

/-- The parameters of a route take the same places of two paths that differ only in the case of letters,
and their values stand at these places, each in its own path. -/
theorem values_of_lower (hr : r.ConstraintFree) (hc : r.compile query = .ok c) {path other : Text}
    (hcase : path.lower = other.lower) {values values' : Values}
    (hvalues : c.valuesIn? path query = some values)
    (hvalues' : c.valuesIn? other query = some values') :
    ∃ found found', c.regex.search path = some found ∧ c.regex.search other = some found' ∧
      (∀ name, found.span? name = found'.span? name ∧
        (values.get? name).isSome = (values'.get? name).isSome) ∧
      (∀ name ∈ c.segments.filterMap (·.name), ∃ start stop,
        found.span? name = some (start, stop) ∧
        values.get? name = valueBetween? path query name start stop ∧
        values'.get? name = valueBetween? other query name start stop) ∧
      ∀ name ∉ c.segments.filterMap (·.name),
        values.get? name = none ∧ values'.get? name = none := by
  have hnodup := nodup_names_of_compile hc
  obtain ⟨found, hfound, -, hnone⟩ := Segment.get?_of_valuesIn? hnodup hvalues
  obtain ⟨found', hfound', -, hnone'⟩ := Segment.get?_of_valuesIn? hnodup hvalues'
  have hlower : found.lower = found'.lower := by
    have hsearch := search_lower hr hc path
    rw [hcase, search_lower hr hc, hfound, hfound'] at hsearch
    exact (Option.some.inj hsearch).symm
  have hspan : ∀ name, found.span? name = found'.span? name := fun name =>
    congrArg (·.span? name) hlower
  have htaken : ∀ name ∈ c.segments.filterMap (·.name), ∃ start stop,
      found.span? name = some (start, stop) ∧
      values.get? name = valueBetween? path query name start stop ∧
      values'.get? name = valueBetween? other query name start stop := fun name hname => by
    obtain ⟨start, stop, hplaces, hget⟩ := exists_span_of_valuesIn? hr hc hvalues hfound hname
    obtain ⟨start', stop', hplaces', hget'⟩ := exists_span_of_valuesIn? hr hc hvalues' hfound' hname
    rw [← hspan, hplaces] at hplaces'
    cases hplaces'
    exact ⟨start, stop, hplaces, hget, hget'⟩
  refine ⟨found, found', hfound, hfound', fun name => ⟨hspan name, ?_⟩, htaken,
    fun name hname => ⟨hnone name hname, hnone' name hname⟩⟩
  by_cases hname : name ∈ c.segments.filterMap (·.name)
  · obtain ⟨start, stop, -, hget, hget'⟩ := htaken name hname
    rw [hget, hget', isSome_valueBetween?_of_lower hcase]
  · rw [hnone name hname, hnone' name hname]

end

namespace RouteTable

variable {r : Route} {t : RouteTable} {path other : Text} {query : Values} {m : RouteMatch}

/-- A path in lower case is normalized to the normalized path in lower case. -/
theorem normalizePath_lower (path : Text) : normalizePath path.lower = (normalizePath path).lower := by
  have hquestion : ((· != '?') ∘ Char.toLower) = (· != '?') := funext fun c => by
    rw [Function.comp, Bool.eq_iff_iff, bne_iff_ne, bne_iff_ne, ne_eq, ne_eq,
      toLower_eq_iff (by decide) (by decide)]
  have hslash : ((· == '/') ∘ Char.toLower) = (· == '/') := funext fun c => by
    rw [Function.comp, Bool.eq_iff_iff, beq_iff_eq, beq_iff_eq, toLower_eq_slash_iff]
  unfold normalizePath Text.trim Text.trimEnd Text.trimStart Text.lower
  rw [List.takeWhile_map, hquestion, List.dropWhile_map, hslash, ← List.map_reverse,
    List.dropWhile_map, hslash, List.map_reverse]

/-- A route without constraints matches paths in either case. -/
theorem matchRoute?_eq_none_iff_of_lower (hr : r.ConstraintFree) (hcase : path.lower = other.lower)
    (query : Values) :
    matchRoute? (normalizePath path) query r = none ↔
      matchRoute? (normalizePath other) query r = none := by
  cases hc : r.compile query with
  | error e =>
    unfold matchRoute?
    rw [hc]
    exact Iff.rfl
  | ok c =>
    rw [matchRoute?_eq_none_iff_of_compile hc, matchRoute?_eq_none_iff_of_compile hc,
      ← valuesIn?_lower_eq_none_iff hr hc, ← valuesIn?_lower_eq_none_iff hr hc (normalizePath other),
      ← normalizePath_lower, ← normalizePath_lower, hcase]

/-- The route that answers for a path in one case answers for it in the other case. -/
theorem exists_answersAt_of_lower (hfree : ∀ r ∈ t.routes, r.ConstraintFree)
    (hcase : path.lower = other.lower) {i : Nat} (h : t.AnswersAt path query i m) :
    ∃ m', t.AnswersAt other query i m' := by
  obtain ⟨⟨r, hr, hmatch⟩, hfirst⟩ := h
  have hnone : matchRoute? (normalizePath other) query r ≠ none := fun hnone => by
    have := (matchRoute?_eq_none_iff_of_lower (hfree r (List.mem_of_getElem? hr)) hcase query).mpr hnone
    rw [matchRoute?_eq_some_iff.mpr hmatch] at this
    cases this
  obtain ⟨m', hm'⟩ := Option.ne_none_iff_exists'.mp hnone
  refine ⟨m', ⟨r, hr, matchRoute?_eq_some_iff.mp hm'⟩, fun j hj d hd => ?_⟩
  rw [← matchRoute?_eq_none_iff,
    ← matchRoute?_eq_none_iff_of_lower (hfree d (List.mem_of_getElem? hd)) hcase query,
    matchRoute?_eq_none_iff]
  exact hfirst j hj d hd

/-- The case of letters plays no part in routing. A table of routes without constraints answers for
both or for none of two paths that differ only in the case of letters of ASCII. The same route answers,
its parameters take the same places of both normalized paths, and the same ones have a value: what
stands in the path itself at these places, decoded, or what the query string has if nothing stands
there. -/
theorem resolve_letterCase (hfree : ∀ r ∈ t.routes, r.ConstraintFree)
    (hcase : path.lower = other.lower) (query : Values) :
    (t.resolve path query = none ↔ t.resolve other query = none) ∧
    ∀ m m', t.resolve path query = some m → t.resolve other query = some m' →
      m.route = m'.route ∧ ∃ i r c found found', t.routes[i]? = some r ∧
        t.AnswersAt path query i m ∧ t.AnswersAt other query i m' ∧ r.compile query = .ok c ∧
        c.regex.search (normalizePath path) = some found ∧
        c.regex.search (normalizePath other) = some found' ∧
        (∀ name, found.span? name = found'.span? name ∧
          (m.values.get? name).isSome = (m'.values.get? name).isSome) ∧
        (∀ name ∈ c.segments.filterMap (·.name), ∃ start stop,
          found.span? name = some (start, stop) ∧
          m.values.get? name = valueBetween? (normalizePath path) query name start stop ∧
          m'.values.get? name = valueBetween? (normalizePath other) query name start stop) ∧
        ∀ name ∉ c.segments.filterMap (·.name),
          m.values.get? name = none ∧ m'.values.get? name = none := by
  have hnone : ∀ {p q : Text}, p.lower = q.lower → t.resolve p query = none →
      t.resolve q query = none := fun {p q} h hp => by
    by_contra hq
    obtain ⟨m, hm⟩ := Option.ne_none_iff_exists'.mp hq
    obtain ⟨i, hi⟩ := resolve_eq_some_iff.mp hm
    obtain ⟨m', hm'⟩ := exists_answersAt_of_lower hfree h.symm hi
    rw [resolve_eq_some_iff.mpr ⟨i, hm'⟩] at hp
    cases hp
  refine ⟨⟨hnone hcase, hnone hcase.symm⟩, fun m m' hm hm' => ?_⟩
  obtain ⟨i, hi⟩ := resolve_eq_some_iff.mp hm
  obtain ⟨m'', hi'⟩ := exists_answersAt_of_lower hfree hcase hi
  obtain rfl : m'' = m' :=
    Option.some.inj ((resolve_eq_some_iff.mpr ⟨i, hi'⟩).symm.trans hm')
  obtain ⟨r, hr, c, hc, hvalues, hroute⟩ := hi.matched
  obtain ⟨r', hr', c', hc', hvalues', hroute'⟩ := hi'.matched
  obtain rfl := Option.some.inj (hr.symm.trans hr')
  obtain rfl := Except.ok.inj (hc.symm.trans hc')
  have hnormal : (normalizePath path).lower = (normalizePath other).lower := by
    rw [← normalizePath_lower, hcase, normalizePath_lower]
  obtain ⟨found, found', hfound, hfound', hrest⟩ :=
    values_of_lower (hfree r (List.mem_of_getElem? hr)) hc hnormal hvalues hvalues'
  exact ⟨hroute.trans hroute'.symm, i, r, c, found, found', hr, hi, hi', hc, hfound, hfound', hrest⟩

/-- A table with a route for files and one for what the query string may name. -/
def folderTable : RouteTable :=
  ⟨[{ template := "/Files/{name}.{kind}".toList }, { template := "/{page?}".toList }]⟩

/-- The same route answers for a path in another case, with the letters of each path as they are. -/
theorem folderTable_resolve_letterCase : ∃ m m',
    folderTable.resolve "/FILES/Read%2fMe.tar.GZ".toList ∅ = some m ∧
    folderTable.resolve "/files/rEAD%2Fme.TAR.gz".toList ∅ = some m' ∧ m.route = m'.route ∧
    m.values = .ofList [("name".toList, "Read/Me.tar".toList), ("kind".toList, "GZ".toList)] ∧
    m'.values = .ofList [("name".toList, "rEAD/me.TAR".toList), ("kind".toList, "gz".toList)] := by
  have hfree : ∀ r ∈ folderTable.routes, r.ConstraintFree :=
    List.forall_mem_cons.mpr ⟨fun _ _ _ _ => rfl, List.forall_mem_singleton.mpr fun _ _ _ _ => rfl⟩
  have hcase : Text.lower "/FILES/Read%2fMe.tar.GZ".toList =
      Text.lower "/files/rEAD%2Fme.TAR.gz".toList := by decide
  have hvalues : (folderTable.resolve "/FILES/Read%2fMe.tar.GZ".toList ∅).map (·.values) =
      some (.ofList [("name".toList, "Read/Me.tar".toList), ("kind".toList, "GZ".toList)]) := by
    decide +kernel
  have hvalues' : (folderTable.resolve "/files/rEAD%2Fme.TAR.gz".toList ∅).map (·.values) =
      some (.ofList [("name".toList, "rEAD/me.TAR".toList), ("kind".toList, "gz".toList)]) := by
    decide +kernel
  obtain ⟨m, hm, hget⟩ := Option.map_eq_some_iff.mp hvalues
  obtain ⟨m', hm', hget'⟩ := Option.map_eq_some_iff.mp hvalues'
  obtain ⟨hroute, -⟩ := (resolve_letterCase hfree hcase ∅).2 m m' hm hm'
  exact ⟨m, m', hm, hm', hroute, hget, hget'⟩

end RouteTable

end PathRouting
