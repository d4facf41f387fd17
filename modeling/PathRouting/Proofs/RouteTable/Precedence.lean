import PathRouting.Proofs.Regex.Reading
import PathRouting.Proofs.Segment.Values
import PathRouting.RouteTable

/-!
# Precedence

The order of registration is the order of precedence: a table answers with the match of the first
route that matches, and routes that are registered later play no part then. A route is passed over
if it does not compile for the query values, if its expression does not match the path, or if what
a parameter has taken of the path is no text once it is decoded.
-/

namespace PathRouting

namespace Route

/-- A match of a route with a normalized path: the route compiles for the query values, the values
are those that the compiled route finds in the path, and the route is shown with the defaults of its
template. -/
def IsMatch (r : Route) (path : Text) (query : Values) (m : RouteMatch) : Prop :=
  ∃ c, r.compile query = .ok c ∧ c.valuesIn? path query = some m.values ∧
    m.route = { r with defaults := c.defaults }

/-- A reason why a route has no match with a normalized path. -/
inductive PassedOver (r : Route) (path : Text) (query : Values) : Prop
  /-- The route does not compile. -/
  | refused {e : RouteError} (h : r.compile query = .error e)
  /-- The expression does not match the path. -/
  | unmatched {c : CompiledRoute} (hc : r.compile query = .ok c) (h : c.regex.search path = none)
  /-- What a parameter has taken of the path is no text once it is decoded. -/
  | undecodable {c : CompiledRoute} {m : Regex.Match} {name taken : Text}
    (hc : r.compile query = .ok c) (hm : c.regex.search path = some m)
    (hname : name ∈ c.segments.filterMap (·.name)) (htaken : m.named? name = some taken)
    (hne : taken ≠ []) (h : Percent.decode? taken = none)

end Route

/-- No value is delivered for a parameter only if what it has taken of the path cannot be decoded. -/
theorem Segment.value?_eq_none_iff {m : Regex.Match} {query : Values} {name : Text} :
    value? m query name = none ↔
      ∃ taken, m.named? name = some taken ∧ taken ≠ [] ∧ Percent.decode? taken = none := by
  unfold value?
  cases hnamed : m.named? name with
  | none => simp
  | some taken =>
    cases taken with
    | nil => simp [Option.filter]
    | cons c taken => simp [Option.filter]

namespace RouteTable

variable {r : Route} {path : Text} {query : Values} {m : RouteMatch} {t : RouteTable}

/-- A route with a match is matched. -/
theorem matchRoute?_eq_some_iff : matchRoute? path query r = some m ↔ r.IsMatch path query m := by
  constructor
  · intro h
    obtain ⟨c, hcompile, h⟩ := Option.bind_eq_some_iff.mp h
    obtain ⟨values, hvalues, heq⟩ := Option.bind_eq_some_iff.mp h
    cases heq
    cases hc : r.compile query with
    | error e =>
      rw [hc] at hcompile
      cases hcompile
    | ok c' =>
      rw [hc] at hcompile
      cases hcompile
      exact ⟨c, hc, hvalues, rfl⟩
  · rintro ⟨c, hc, hvalues, hroute⟩
    unfold matchRoute?
    rw [hc, Except.toOption, Option.bind_eq_bind, Option.bind_some, hvalues, ← hroute]
    rfl

/-- A route that compiles is matched if its values are found in the path. -/
theorem matchRoute?_eq_none_iff_of_compile {c : CompiledRoute} (hc : r.compile query = .ok c) :
    matchRoute? path query r = none ↔ c.valuesIn? path query = none := by
  unfold matchRoute?
  rw [hc, Except.toOption, Option.bind_eq_bind, Option.bind_some]
  cases c.valuesIn? path query <;> simp

/-- A route is matched unless there is a reason to pass it over. -/
theorem matchRoute?_eq_none_iff : matchRoute? path query r = none ↔ r.PassedOver path query := by
  cases hc : r.compile query with
  | error e =>
    refine iff_of_true ?_ (.refused hc)
    unfold matchRoute?
    rw [hc]
    rfl
  | ok c =>
    rw [matchRoute?_eq_none_iff_of_compile hc, CompiledRoute.valuesIn?,
      Segment.valuesIn?_eq_none_iff]
    constructor
    · intro h
      cases hm : c.regex.search path with
      | none => exact .unmatched hc hm
      | some found =>
        obtain ⟨name, hname, hnone⟩ := h found hm
        obtain ⟨taken, htaken, hne, hdecode⟩ := Segment.value?_eq_none_iff.mp hnone
        exact .undecodable hc hm hname htaken hne hdecode
    · intro h found hfound
      cases h with
      | refused h =>
        rw [hc] at h
        cases h
      | unmatched hc' h =>
        rw [hc, Except.ok.injEq] at hc'
        subst hc'
        rw [hfound] at h
        cases h
      | undecodable hc' hm hname htaken hne h =>
        rw [hc, Except.ok.injEq] at hc'
        subst hc'
        rw [hfound, Option.some.injEq] at hm
        subst hm
        exact ⟨_, hname, Segment.value?_eq_none_iff.mpr ⟨_, htaken, hne, h⟩⟩

/-- The route at an index of a table answers for a request path: it has a match, and all routes
before it are passed over. -/
structure AnswersAt (t : RouteTable) (path : Text) (query : Values) (i : Nat) (m : RouteMatch) :
    Prop where
  /-- The route at the index has the match. -/
  matched : ∃ r, t.routes[i]? = some r ∧ r.IsMatch (normalizePath path) query m
  /-- The routes before it are passed over. -/
  first : ∀ j < i, ∀ r, t.routes[j]? = some r → r.PassedOver (normalizePath path) query

/-- A table answers with the match of the first route that has one. -/
theorem resolve_eq_some_iff :
    t.resolve path query = some m ↔ ∃ i, t.AnswersAt path query i m := by
  unfold resolve
  rw [List.findSome?_eq_some_iff]
  constructor
  · rintro ⟨front, r, back, hroutes, hr, hfront⟩
    refine ⟨front.length, ⟨r, by simp [hroutes], matchRoute?_eq_some_iff.mp hr⟩, ?_⟩
    intro j hj d hd
    rw [hroutes, List.getElem?_append_left hj] at hd
    exact matchRoute?_eq_none_iff.mp (hfront d (List.mem_of_getElem? hd))
  · rintro ⟨i, ⟨r, hr, hmatch⟩, hfirst⟩
    obtain ⟨hi, hget⟩ := List.getElem?_eq_some_iff.mp hr
    refine ⟨t.routes.take i, r, t.routes.drop (i + 1), ?_, matchRoute?_eq_some_iff.mpr hmatch, ?_⟩
    · rw [← hget, List.getElem_cons_drop, List.take_append_drop]
    · intro d hd
      obtain ⟨j, hj, hdj⟩ := List.mem_take_iff_getElem.mp hd
      refine matchRoute?_eq_none_iff.mpr (hfirst j (by omega) d ?_)
      rw [← hdj]
      exact List.getElem?_eq_getElem _

/-- A table has no answer if all of its routes are passed over. -/
theorem resolve_eq_none_iff :
    t.resolve path query = none ↔ ∀ r ∈ t.routes, r.PassedOver (normalizePath path) query := by
  unfold resolve
  rw [List.findSome?_eq_none_iff]
  exact forall₂_congr fun r _ => matchRoute?_eq_none_iff

/-- The routes of two tables one behind the other answer as the first table does, or else as the
second one. -/
theorem resolve_append (routes later : List Route) :
    resolve ⟨routes ++ later⟩ path query =
      (resolve ⟨routes⟩ path query).or (resolve ⟨later⟩ path query) :=
  List.findSome?_append

/-- A table after a route has been offered to it. If the route is refused, the table stays as it
is. -/
def offer (t : RouteTable) (r : Route) : RouteTable :=
  (t.add r).toOption.getD t

/-- A table after routes have been offered to it one after another. -/
def offerAll (t : RouteTable) (offered : List Route) : RouteTable :=
  offered.foldl offer t

/-- Those of the routes offered to a table one after another that are not refused. -/
def accepted (t : RouteTable) : List Route → List Route
  | [] => []
  | r :: rest =>
    match t.add r with
    | .ok bigger => r :: bigger.accepted rest
    | .error _ => t.accepted rest

/-- A route is added behind all others if its name is new and it compiles without query values. -/
theorem add_eq_ok_iff {bigger : RouteTable} :
    t.add r = .ok bigger ↔
      t.hasNameOf r = false ∧ (∃ c, r.compile ∅ = .ok c) ∧ bigger = ⟨t.routes ++ [r]⟩ := by
  unfold add
  constructor
  · intro h
    split at h
    · cases h
    · rename_i hname
      obtain ⟨c, hc, h⟩ := Regex.bind_eq_ok h
      cases h
      exact ⟨Bool.eq_false_iff.mpr hname, ⟨c, hc⟩, rfl⟩
  · rintro ⟨hname, ⟨c, hc⟩, rfl⟩
    rw [hname, hc]
    rfl

/-- The routes that are not refused stand behind those of the table, in their order. -/
theorem routes_offerAll (t : RouteTable) (offered : List Route) :
    (t.offerAll offered).routes = t.routes ++ t.accepted offered := by
  unfold offerAll
  induction offered generalizing t with
  | nil => exact (List.append_nil _).symm
  | cons r rest ih =>
    rw [List.foldl_cons, ih, accepted]
    cases h : t.add r with
    | ok bigger =>
      have hoffer : t.offer r = bigger := by
        rw [offer, h]
        rfl
      obtain ⟨-, -, rfl⟩ := add_eq_ok_iff.mp h
      rw [hoffer, List.append_assoc, List.singleton_append]
    | error e =>
      have hoffer : t.offer r = t := by
        rw [offer, h]
        rfl
      rw [hoffer]

/-- The first route that matches a path answers for it. A table has an answer exactly when one of
its routes compiles for the query values and matches the path, the answer is the match of the first
such route, and the routes behind that one play no part. So routes that are offered later leave
every answer as it is, and where there was none, those that are not refused answer by themselves. -/
theorem resolve_first_match (t : RouteTable) (path : Text) (query : Values) :
    ((∃ m, t.resolve path query = some m) ↔
      ∃ r ∈ t.routes, ∃ m, r.IsMatch (normalizePath path) query m) ∧
    (∀ m, t.resolve path query = some m ↔ ∃ i, t.AnswersAt path query i m) ∧
    (∀ m i, t.AnswersAt path query i m → ∀ later : List Route,
      resolve ⟨t.routes.take (i + 1) ++ later⟩ path query = some m) ∧
    ∀ offered : List Route, (t.offerAll offered).routes = t.routes ++ t.accepted offered ∧
      (∀ m, t.resolve path query = some m → (t.offerAll offered).resolve path query = some m) ∧
      (t.resolve path query = none →
        (t.offerAll offered).resolve path query = resolve ⟨t.accepted offered⟩ path query) := by
  have hoffered : ∀ offered, (t.offerAll offered).resolve path query =
      (t.resolve path query).or (resolve ⟨t.accepted offered⟩ path query) := by
    intro offered
    rw [← resolve_append, ← routes_offerAll]
  refine ⟨⟨?_, ?_⟩, fun m => resolve_eq_some_iff, fun m i h later => ?_, fun offered =>
    ⟨routes_offerAll t offered, fun m hm => ?_, fun hnone => ?_⟩⟩
  · rintro ⟨m, hm⟩
    obtain ⟨i, ⟨r, hr, hmatch⟩, -⟩ := resolve_eq_some_iff.mp hm
    exact ⟨r, List.mem_of_getElem? hr, m, hmatch⟩
  · rintro ⟨r, hr, m, hmatch⟩
    refine Option.ne_none_iff_exists'.mp fun hnone => ?_
    have hpassed := matchRoute?_eq_none_iff.mpr (resolve_eq_none_iff.mp hnone r hr)
    rw [matchRoute?_eq_some_iff.mpr hmatch] at hpassed
    cases hpassed
  · obtain ⟨⟨r, hr, hmatch⟩, hfirst⟩ := h
    have hi : i < (t.routes.take (i + 1)).length := by
      have := (List.getElem?_eq_some_iff.mp hr).1
      rw [List.length_take]
      omega
    have hkept : ∀ j ≤ i, (t.routes.take (i + 1) ++ later)[j]? = t.routes[j]? := by
      intro j hj
      rw [List.getElem?_append_left (by omega), List.getElem?_take_of_lt (by omega)]
    refine resolve_eq_some_iff.mpr ⟨i, ⟨r, (hkept i (Nat.le_refl i)).trans hr, hmatch⟩, ?_⟩
    intro j hj d hd
    exact hfirst j hj d ((hkept j (Nat.le_of_lt hj)).symm.trans hd)
  · rw [hoffered, hm, Option.some_or]
  · rw [hoffered, hnone, Option.none_or]

end RouteTable

end PathRouting
