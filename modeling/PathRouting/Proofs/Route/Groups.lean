import PathRouting.Proofs.Route.Components
import PathRouting.Proofs.Route.Constraints

/-!
# The groups of a compiled route

Each parameter of a compiled route has one group, and what the group takes is the value of the
parameter: empty where the parameter may be absent, or a part of the path that the constraint of the
parameter matches. A constraint that ends in a comment does not keep to this.
-/

namespace PathRouting

open Regex

namespace Segment

/-- Each parameter of a row has a group. -/
theorem RowRead.exists_mem_names {constraint? : Text → Option Text} {segments : List Segment}
    {k : Nat} {vs : List ValueRead} (h : RowRead (ReadBy constraint?) segments k vs) {name : Text}
    (hname : name ∈ segments.filterMap (·.name)) : ∃ index, (name, index) ∈ vs.flatMap (·.names) := by
  induction h with
  | nil k => exact absurd hname List.not_mem_nil
  | @cons s rest k v vs hs _ ih =>
    rw [List.flatMap_cons]
    obtain ⟨d, hd, hdname⟩ := List.mem_filterMap.mp hname
    rcases List.mem_cons.mp hd with rfl | hd
    · exact ⟨k, List.mem_append_left _ (hs.mem_names hdname).1⟩
    · obtain ⟨index, hmem⟩ := ih (List.mem_filterMap.mpr ⟨d, hd, hdname⟩)
      exact ⟨index, List.mem_append_right _ hmem⟩

end Segment

section

variable {r : Route} {query : Values} {c : CompiledRoute} {t : Template}

/-- Each parameter of a compiled route has exactly one group of its name. -/
theorem count_names_of_compile (henc : r.Enclosable)
    (ht : Template.parse (Text.trim '/' r.template) = .ok t) (hc : r.compile query = .ok c)
    {p : Placeholder} (hp : p ∈ t.placeholders) : (c.regex.names.map Prod.fst).count p.name = 1 := by
  obtain ⟨vs, parsed, hrow, hparsed, hnames, hregex, -⟩ :=
    exists_rowRead_of_readsValue hc (Route.readsValue_of_compile henc hc)
  have hmem : p.name ∈ c.segments.filterMap (·.name) := by
    rw [Route.filterMap_name_of_compile ht hc]
    exact List.mem_map_of_mem hp
  obtain ⟨index, hindex⟩ := hrow.exists_mem_names hmem
  rw [hregex]
  refine List.count_eq_one_of_mem (nodup_names_of_parse hparsed) (List.mem_map.mpr ⟨(p.name, index), ?_, rfl⟩)
  rw [hnames]
  exact hindex

/-- The constraints of a route keep to the groups of their parameters. There is one group for each
parameter, the path is cut into the shares of the segments, and a group takes the value of its
parameter: nothing, if the parameter may be absent, or a part of the path that the constraint by
itself matches where it stands. -/
theorem constraints_keep_to_groups (henc : r.Enclosable)
    (ht : Template.parse (Text.trim '/' r.template) = .ok t) (hc : r.compile query = .ok c) :
    (∀ p ∈ t.placeholders, (c.regex.names.map Prod.fst).count p.name = 1) ∧
    ∀ path m, c.regex.search path = some m →
      ∃ shares, IsCut (Segment.BoundValue r.constraints.get?) c.segments shares path ∧
        ∀ p ∈ t.placeholders, ∃ start x, IsShareOf c.segments shares p.name start x ∧
          m.span? p.name = some (start, start + x.value.length) ∧
          ∀ constraint, r.constraints.get? p.name = some constraint →
            (x.value = [] ∧ r.mayBeAbsent t query p.name = true) ∨
              MatchesAt pathFlags constraint path start (start + x.value.length) := by
  refine ⟨fun p hp => count_names_of_compile henc ht hc hp, fun path m hm => ?_⟩
  obtain ⟨-, shares, hcut, hshares⟩ := exists_cut_of_search henc hc hm
  refine ⟨shares, hcut, fun p hp => ?_⟩
  have hmem : p.name ∈ c.segments.filterMap (·.name) := by
    rw [Route.filterMap_name_of_compile ht hc]
    exact List.mem_map_of_mem hp
  obtain ⟨start, x, hx⟩ := hcut.exists_isShareOf hmem
  obtain ⟨hspan, s, hs, hname, hbound⟩ := hshares p.name start x hx
  refine ⟨start, x, hx, hspan, fun constraint hconstraint => ?_⟩
  rcases hbound p.name constraint hname hconstraint with ⟨hnil, hopt⟩ | hmatches
  · obtain ⟨-, hmissing, -⟩ := pattern_of_compile ht hc hs hname
    rw [hopt, Route.isOptional_mergedDefaults] at hmissing
    exact .inl ⟨hnil, hmissing.symm⟩
  · exact .inr hmatches

/-- A route with constraints that hold alternatives. -/
def monthRoute : Route :=
  { template := "{year}/{month?}".toList
    constraints := .ofList [("year".toList, "[0-9]+|now".toList), ("month".toList, "may|june".toList)] }

/-- The alternatives of one parameter do not reach the other one. -/
theorem monthRoute_keeps_to_groups : ∃ c, monthRoute.compile ∅ = .ok c ∧
    (c.regex.names.map Prod.fst).count "month".toList = 1 ∧
    ∃ m, c.regex.search "2024/June".toList = some m ∧ ∃ shares start x,
      IsShareOf c.segments shares "month".toList start x ∧
      m.span? "month".toList = some (start, start + x.value.length) ∧
      ((x.value = [] ∧ monthRoute.mayBeAbsent
          [.placeholder ⟨"year".toList, .none⟩, .literal "/".toList,
            .placeholder ⟨"month".toList, .optional⟩] ∅ "month".toList = true) ∨
        MatchesAt pathFlags "may|june".toList "2024/June".toList start (start + x.value.length)) := by
  have hany : (monthRoute.compile ∅).toOption.any (fun c =>
      (c.regex.search "2024/June".toList).isSome) = true := by decide +kernel
  obtain ⟨c, hc, hsome⟩ := exists_ok_of_any_toOption hany
  obtain ⟨m, hm⟩ := Option.isSome_iff_exists.mp hsome
  have henc : monthRoute.Enclosable := Route.enclosable_of_values (by decide +kernel)
  have ht : Template.parse (Text.trim '/' monthRoute.template) =
      .ok [.placeholder ⟨"year".toList, .none⟩, .literal "/".toList,
        .placeholder ⟨"month".toList, .optional⟩] := by decide +kernel
  obtain ⟨hcount, hsearch⟩ := constraints_keep_to_groups henc ht hc
  obtain ⟨shares, -, hshares⟩ := hsearch _ m hm
  obtain ⟨start, x, hx, hspan, hbound⟩ := hshares ⟨"month".toList, .optional⟩ (by decide)
  exact ⟨c, hc, hcount ⟨"month".toList, .optional⟩ (by decide), m, hm, shares, start, x, hx, hspan,
    hbound _ (by decide)⟩

/-- A route with a constraint that ends in a comment. -/
def commentRoute : Route :=
  { template := "{a}/{b}".toList
    constraints := .ofList [("a".toList, "(?x)x#".toList), ("b".toList, "[\n)(]".toList)] }

/-- The comment swallows the slash and the group of the second parameter. -/
theorem commentRoute_loses_group : ∃ c, commentRoute.compile ∅ = .ok c ∧
    (c.regex.names.map Prod.fst).count "b".toList = 0 ∧
    c.valuesIn? "x]".toList ∅ = some (.ofList [("a".toList, "x]".toList)]) := by
  have hany : (commentRoute.compile ∅).toOption.any (fun c =>
      (c.regex.names.map Prod.fst).count "b".toList = 0 ∧
      c.valuesIn? "x]".toList ∅ = some (.ofList [("a".toList, "x]".toList)])) = true := by
    decide +kernel
  obtain ⟨c, hc, hloses⟩ := exists_ok_of_any_toOption hany
  exact ⟨c, hc, of_decide_eq_true hloses⟩

end

end PathRouting
