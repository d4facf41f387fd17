import PathRouting.Proofs.Route.OwnPath
import PathRouting.Proofs.RouteTable.MovedValues

/-!
# Routes that some path reaches

A request path ends before its first question mark, so that a route with a question mark in the literal
text of its template matches no path at all, although it is accepted. Every other route without
constraints is matched by some path, one of which is the outline of its template.
-/

namespace PathRouting

/-- Values without percent signs are delivered as they are. -/
theorem delivered?_isSome {taken : List (Text × Text)} (h : ∀ p ∈ taken, '%' ∉ p.2)
    (query : Values) : (delivered? query taken).isSome = true := by
  unfold delivered?
  generalize hvalues : (List.mapM _ taken : Option _) = values
  cases values with
  | some values => rfl
  | none =>
    obtain ⟨⟨name, text⟩, hp, hnone⟩ := mapM_eq_none_iff.mp hvalues
    dsimp only at hnone
    rw [Percent.decode?_of_notMem (h (name, text) hp)] at hnone
    split at hnone <;> cases hnone

namespace Route

section

variable {r : Route} {query : Values} {t : Template} {c : CompiledRoute}

/-- A route without constraints has values for what is kept of its template in its outline. -/
theorem valuesIn?_outline_isSome (hr : r.ConstraintFree)
    (ht : Template.parse (Text.trim '/' r.template) = .ok t) (hc : r.compile query = .ok c) :
    (c.valuesIn? t.layout.kept.outline query).isSome = true := by
  obtain ⟨own, hown, hvalues⟩ := exists_isCut_outline ht hc
  obtain ⟨shares, hshares⟩ : ∃ shares,
      (cuts c.segments t.layout.kept.outline).head? = some shares :=
    Option.isSome_iff_exists.mp
      (List.isSome_head?.mpr (List.ne_nil_of_mem (mem_cuts.mpr hown)))
  -- The first cut may be another one, but it has as many percent signs in its values.
  have hcaseless : Caseless '%' := caseless_of_le (by decide)
  have hcount := hown.count_caseless hcaseless (by decide)
  rw [(mem_cuts.mp (List.mem_of_mem_head? hshares)).count_caseless hcaseless (by decide)]
    at hcount
  have hnone : '%' ∉ (captured c.segments own).flatMap Prod.snd := fun h => by
    obtain ⟨p, hp, hmem⟩ := List.mem_flatMap.mp h
    exact (hvalues p hp).1 hmem
  have hpercent : '%' ∉ (captured c.segments shares).flatMap Prod.snd := by
    rw [← List.count_eq_zero, Nat.add_left_cancel hcount, List.count_eq_zero]
    exact hnone
  rw [valuesIn?_eq_delivered? hr hc, hshares]
  exact delivered?_isSome (fun p hp h => hpercent (List.mem_flatMap.mpr ⟨p, hp, h⟩)) query

/-- A route without constraints has values for a path without a question mark only if none stands in
the outline of its template. -/
theorem question_notMem_outline (hr : r.ConstraintFree)
    (ht : Template.parse (Text.trim '/' r.template) = .ok t) (hc : r.compile query = .ok c)
    {path : Text} (hpath : '?' ∉ path) (h : (c.valuesIn? path query).isSome = true) :
    '?' ∉ t.layout.kept.outline := by
  obtain ⟨own, hown, hvalues⟩ := exists_isCut_outline ht hc
  have hcaseless : Caseless '?' := caseless_of_le (by decide)
  rw [valuesIn?_eq_delivered? hr hc] at h
  cases hshares : (cuts c.segments path).head? with
  | none =>
    rw [hshares] at h
    cases h
  | some shares =>
    have hcount :=
      (mem_cuts.mp (List.mem_of_mem_head? hshares)).count_caseless hcaseless (by decide)
    have hnone : '?' ∉ (captured c.segments own).flatMap Prod.snd := fun h => by
      obtain ⟨p, hp, hmem⟩ := List.mem_flatMap.mp h
      exact (hvalues p hp).2 hmem
    rw [List.count_eq_zero.mpr hpath] at hcount
    rw [← List.count_eq_zero, hown.count_caseless hcaseless (by decide),
      List.count_eq_zero.mpr hnone]
    omega

end

end Route

/-- A question mark stands in the outline of a template if it stands in literal text. -/
theorem Template.question_mem_outline_iff {text : Text} {t : Template} (ht : parse text = .ok t) :
    '?' ∈ t.layout.kept.outline ↔ ∃ u, Part.literal u ∈ t ∧ '?' ∈ u := by
  rw [Layout.mem_outline_kept_iff (by decide), outline_layout]
  exact mem_outline_iff fun p hp => (Placeholder.notMem_outline (isGroupName_of_parse ht p hp)).2

namespace RouteTable

/-- The outline of a template is a normalized path if no question mark stands in it. -/
theorem normalizePath_outline {text : Text} {t : Template}
    (ht : Template.parse (Text.trim '/' text) = .ok t) (h : '?' ∉ t.layout.kept.outline) :
    normalizePath t.layout.kept.outline = t.layout.kept.outline := by
  have hhead : t.layout.kept.outline.head? ≠ some '/' := fun h =>
    Template.head?_symbols_of_parse ht (Template.head?_symbols_of_outline_kept h)
  have hlast : t.layout.kept.outline.getLast? ≠ some '/' := fun h =>
    Template.getLast?_symbols_of_parse ht
      (Template.getLast?_symbols_of_trailing
        (Template.Layout.getLast?_outline (l := t.layout.kept) h))
  have hstart : Text.trimStart '/' t.layout.kept.outline = t.layout.kept.outline := by
    unfold Text.trimStart
    cases houtline : t.layout.kept.outline with
    | nil => rfl
    | cons c rest =>
      rw [houtline] at hhead
      exact List.dropWhile_cons_of_neg (by simpa using hhead)
  rw [normalizePath_of_notMem h, Text.trim, hstart, Text.trimEnd_of_getLast? hlast]

/-- A question mark is never part of a normalized path. -/
theorem question_notMem_normalizePath (path : Text) : '?' ∉ normalizePath path := by
  unfold normalizePath
  rw [Text.mem_trim_iff (by decide)]
  intro h
  exact absurd (List.mem_takeWhile_imp h) (by decide)

section

variable {r : Route} {t : Template} {c : CompiledRoute} {query : Values}

/-- A table that holds only a route without constraints resolves some path unless a question mark
stands in the outline of the route's template. -/
theorem exists_resolve_iff (hr : r.ConstraintFree)
    (ht : Template.parse (Text.trim '/' r.template) = .ok t) (hc : r.compile query = .ok c) :
    (∃ path, (resolve ⟨[r]⟩ path query).isSome = true) ↔ '?' ∉ t.layout.kept.outline := by
  have hmatch : ∀ path, (resolve ⟨[r]⟩ path query).isSome =
      (c.valuesIn? (normalizePath path) query).isSome := fun path => by
    unfold resolve
    rw [List.findSome?_singleton, Bool.eq_iff_iff, Option.isSome_iff_ne_none,
      Option.isSome_iff_ne_none, ne_eq, ne_eq, matchRoute?_eq_none_iff_of_compile hc]
  constructor
  · rintro ⟨path, hpath⟩
    rw [hmatch] at hpath
    exact Route.question_notMem_outline hr ht hc (question_notMem_normalizePath path) hpath
  · intro h
    refine ⟨t.layout.kept.outline, ?_⟩
    rw [hmatch, normalizePath_outline ht h]
    exact Route.valuesIn?_outline_isSome hr ht hc

/-- Every accepted route without constraints can be reached unless its template has a question mark in
its literal text: a table that holds only this route resolves some path. -/
theorem exists_resolve_of_add {table bigger : RouteTable} (hr : r.ConstraintFree)
    (hadd : table.add r = .ok bigger) :
    ∃ alone t, RouteTable.empty.add r = .ok alone ∧ alone.routes = [r] ∧
      Template.parse (Text.trim '/' r.template) = .ok t ∧
      ((∃ path, (alone.resolve path ∅).isSome = true) ↔
        ∀ text, Part.literal text ∈ t → '?' ∉ text) := by
  obtain ⟨-, ⟨c, hc⟩, -⟩ := add_eq_ok_iff.mp hadd
  obtain ⟨t, ht, -⟩ := Route.compile_eq_ok hc
  have hunnamed : RouteTable.empty.hasNameOf r = false := by
    unfold hasNameOf
    cases r.name <;> rfl
  refine ⟨⟨[r]⟩, t, add_eq_ok_iff.mpr ⟨hunnamed, ⟨c, hc⟩, rfl⟩, rfl, ht, ?_⟩
  rw [exists_resolve_iff hr ht hc, Template.question_mem_outline_iff ht]
  exact ⟨fun h text hpart hmem => h ⟨text, hpart, hmem⟩,
    fun h ⟨text, hpart, hmem⟩ => h text hpart hmem⟩

/-- A route with percent signs and two slashes in its text, with placeholders glued to it. -/
def shelfRoute : Route :=
  { template := "/a%20b//{x}%{y?}x/c d".toList }

/-- Some path reaches the route. -/
theorem shelfRoute_exists_resolve : ∃ alone path, RouteTable.empty.add shelfRoute = .ok alone ∧
    (alone.resolve path ∅).isSome = true := by
  have hany : (RouteTable.empty.add shelfRoute).toOption.any (fun _ => true) = true := by
    decide +kernel
  obtain ⟨bigger, hadd, -⟩ := exists_ok_of_any_toOption hany
  obtain ⟨alone, t, halone, -, ht, hiff⟩ := exists_resolve_of_add (fun _ _ _ _ => rfl) hadd
  have hparse : Template.parse (Text.trim '/' shelfRoute.template) = .ok
      [.literal "a%20b//".toList, .placeholder ⟨"x".toList, .none⟩, .literal "%".toList,
        .placeholder ⟨"y".toList, .optional⟩, .literal "x/c d".toList] := by decide +kernel
  obtain rfl := Except.ok.inj (ht.symm.trans hparse)
  obtain ⟨path, hpath⟩ := hiff.mpr fun text hpart => by
    simp only [List.mem_cons, Part.literal.injEq, reduceCtorEq, false_or, List.not_mem_nil,
      or_false] at hpart
    rcases hpart with rfl | rfl | rfl <;> decide
  exact ⟨alone, path, halone, hpath⟩

/-- A route with a question mark in its text. -/
def questionRoute : Route :=
  { template := "a?b".toList }

/-- No path reaches the route, which is accepted. -/
theorem questionRoute_unreachable : questionRoute.ConstraintFree ∧
    ∃ alone, RouteTable.empty.add questionRoute = .ok alone ∧
      ∀ path, alone.resolve path ∅ = none := by
  have hany : (questionRoute.compile ∅).toOption.any (fun _ => true) = true := by decide +kernel
  obtain ⟨c, hc, -⟩ := exists_ok_of_any_toOption hany
  have ht : Template.parse (Text.trim '/' questionRoute.template) =
      .ok [.literal "a?b".toList] := by decide +kernel
  have hfree : questionRoute.ConstraintFree := fun _ _ _ _ => rfl
  refine ⟨hfree, ⟨[questionRoute]⟩, add_eq_ok_iff.mpr ⟨rfl, ⟨c, hc⟩, rfl⟩, fun path => ?_⟩
  by_contra hsome
  refine (exists_resolve_iff hfree ht hc).mp ⟨path, Option.isSome_iff_ne_none.mpr hsome⟩ ?_
  exact (Template.question_mem_outline_iff ht).mpr ⟨_, List.mem_cons_self, by decide⟩

end

end RouteTable

end PathRouting
