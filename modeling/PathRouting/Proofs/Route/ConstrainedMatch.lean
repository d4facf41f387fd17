import PathRouting.Proofs.Regex.Reaching
import PathRouting.Proofs.Route.Constraints
import PathRouting.Proofs.Segment.CutRuns

/-!
# What a route with constraints matches

A route whose constraints have no conditions on places matches the paths that can be cut into shares
of its segments in such a way that each constraint matches the whole value of its parameter, and
nothing else. Whatever a constraint is made of, it decides about its own value only.
-/

namespace PathRouting

open Regex

/-- A cut allows whatever is allowed for the values that it has. -/
theorem IsCut.imp_value {allowed allowed' : Segment → Text → Prop} {segments : List Segment}
    {shares : List Share} {path : Text} (h : IsCut allowed segments shares path)
    (himp : ∀ (i : Nat) (s : Segment) (x : Share), segments[i]? = some s → shares[i]? = some x →
      s.name ≠ none → allowed s x.value → allowed' s x.value) :
    IsCut allowed' segments shares path := by
  induction h using IsCut.induction with
  | nil => exact rfl
  | cons s segments x shares rest htakes _ ih =>
    exact ⟨rest, rfl, { htakes with
      value := fun hname => himp 0 s x rfl rfl hname (htakes.value hname) },
      ih fun i => himp (i + 1)⟩

section

variable {r : Route} {query : Values} {c : CompiledRoute} {path : Text}

/-- What holds for the constraints of a route holds for those of its segments. -/
theorem Route.EachConstraint.of_mem_segments {good : Text → Prop} (h : r.EachConstraint good)
    (hc : r.compile query = .ok c) {s : Segment} (hs : s ∈ c.segments) {constraint : Text}
    (hconstraint : s.name.bind r.constraints.get? = some constraint) : good constraint := by
  obtain ⟨t, ht, -⟩ := Route.compile_eq_ok hc
  obtain ⟨name, hname, hconstraint⟩ := Option.bind_eq_some_iff.mp hconstraint
  obtain ⟨⟨p, hp, rfl⟩, -⟩ := pattern_of_compile ht hc hs hname
  exact h t ht p hp constraint hconstraint

/-- A compiled route matches a path that can be cut into shares of its segments with values that meet
their constraints. -/
theorem isSome_search_of_isCut (henc : r.Enclosable)
    (hlook : r.EachConstraint (LookFree pathFlags)) (hc : r.compile query = .ok c)
    {shares : List Share}
    (hcut : IsCut (Segment.MeetsConstraint r.constraints.get?) c.segments shares path) :
    (c.regex.search path).isSome = true := by
  obtain ⟨vs, -, hrow, -, -, -, hprogram⟩ :=
    exists_rowRead_of_readsValue hc (Route.readsValue_of_compile henc hc)
  obtain ⟨y, hy⟩ := hrow.exists_runAll
    (fun s hs constraint hconstraint => hlook.of_mem_segments hc hs hconstraint)
    (x := ⟨0, []⟩) (Nat.zero_le _) hcut
  have hrun : RunAll path.toArray (.look .textStart ::
      (Segment.rowExprs c.segments vs ++ [.look .textEnd])) ⟨0, []⟩ y := ⟨_, ⟨rfl, rfl⟩, hy⟩
  unfold Regex.search
  rw [hprogram, Option.isSome_map]
  exact isSome_search_of_runAll (Nat.zero_le _) hrun

/-- What the expression of a compiled route finds is a cut of the path with values that meet their
constraints, and the groups of the parameters take the values. -/
theorem exists_isCut_of_search (henc : r.Enclosable)
    (hlook : r.EachConstraint (LookFree pathFlags)) (hc : r.compile query = .ok c)
    {m : Regex.Match} (hm : c.regex.search path = some m) :
    ∃ shares, IsCut (Segment.MeetsConstraint r.constraints.get?) c.segments shares path ∧
      ∀ name start x, IsShareOf c.segments shares name start x →
        m.named? name = some x.value := by
  obtain ⟨t, ht, -⟩ := Route.compile_eq_ok hc
  obtain ⟨hinput, shares, hcut, hshares⟩ := exists_cut_of_search henc hc hm
  refine ⟨shares, hcut.imp_value fun i s x hs hx hname hvalue => ?_,
    fun name start x hx => hcut.named?_eq hx hinput (hshares name start x hx).1⟩
  have hmem := List.mem_of_getElem? hs
  obtain ⟨name, hname⟩ := Option.ne_none_iff_exists'.mp hname
  have hshare : IsShareOf c.segments shares name _ x := ⟨i, s, hs, hname, hx, rfl⟩
  obtain ⟨-, d, hd, hdname, hbound⟩ := hshares name _ x hshare
  cases hconstraint : s.name.bind r.constraints.get? with
  | none =>
    unfold Segment.MeetsConstraint
    rw [hconstraint]
    refine hvalue fun name' hname' => ?_
    rw [hname'] at hconstraint
    exact hconstraint
  | some constraint =>
    rw [Segment.meetsConstraint_iff hconstraint]
    have hfree := hlook.of_mem_segments hc hmem hconstraint
    rw [hname] at hconstraint
    obtain ⟨hnil, hopt⟩ | hmatches := hbound name constraint hdname hconstraint
    · -- Which segments may be missing depends on their names only.
      rw [(pattern_of_compile ht hc hd hdname).2.1,
        ← (pattern_of_compile ht hc hmem hname).2.1] at hopt
      exact .inl ⟨hnil, hopt⟩
    · obtain ⟨front, back, hpath, hfront⟩ := hcut.split_value hshare
      rw [hpath, ← hfront] at hmatches
      exact .inr (hmatches.whole hfree)

/-- A route whose constraints have no conditions on places matches the paths that can be cut into
shares of its segments with values that meet their constraints. -/
theorem isSome_search_iff_isCut (henc : r.Enclosable)
    (hlook : r.EachConstraint (LookFree pathFlags)) (hc : r.compile query = .ok c) :
    (c.regex.search path).isSome = true ↔
      ∃ shares, IsCut (Segment.MeetsConstraint r.constraints.get?) c.segments shares path := by
  constructor
  · intro h
    obtain ⟨m, hm⟩ := Option.isSome_iff_exists.mp h
    obtain ⟨shares, hcut, -⟩ := exists_isCut_of_search henc hlook hc hm
    exact ⟨shares, hcut⟩
  · rintro ⟨shares, hcut⟩
    exact isSome_search_of_isCut henc hlook hc hcut

end

end PathRouting
