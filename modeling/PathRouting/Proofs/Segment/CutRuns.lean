import PathRouting.Proofs.Regex.Embedding
import PathRouting.Proofs.Segment.Runs

/-!
# Cuts that the expressions of segments match

A text that can be cut into shares of a row of segments is matched by the expressions of the row if
each constraint matches the value of its parameter as a text of its own. A constraint that has no
conditions on places does not see what stands around the value.
-/

namespace PathRouting

open Regex

/-- The ends of a row of expressions are reached by matches of the row. -/
theorem Regex.runAll_of_mem_endsAll {input : Array Char} {es : List Expr} {x y : Spot}
    (h : y ∈ endsAll input es x) : RunAll input es x y := by
  induction es generalizing x with
  | nil => exact List.mem_singleton.mp h
  | cons e es ih =>
    obtain ⟨z, hz, h⟩ := List.mem_flatMap.mp h
    exact ⟨z, Expr.run_of_mem_ends hz, ih h⟩

section

variable {input : Array Char} {x : Spot} {rest : Text}

/-- Literal text is matched by what is equal to it up to case. -/
theorem runAll_literalExprs {literal taken : Text} (hleft : x.left input = taken ++ rest)
    (h : SameFolding taken literal) :
    RunAll input (literalExprs literal) x (x.skip taken.length) := by
  refine runAll_of_mem_endsAll ?_
  rw [endsAll_literalExprs, hleft]
  exact List.mem_map.mpr ⟨(taken, rest), mem_takeLiteral.mpr ⟨rfl, h⟩, rfl⟩

/-- A separator is matched by a slash or by nothing, as the segment has it. -/
theorem runAll_separatorExprs {s : Segment} {slash : Bool}
    (hleft : x.left input = (if slash then ['/'] else []) ++ rest) (h : s.Separates slash rest) :
    RunAll input s.separatorExprs x (x.skip (if slash then 1 else 0)) := by
  refine runAll_of_mem_endsAll ?_
  rw [endsAll_separatorExprs, hleft]
  exact List.mem_map.mpr ⟨(slash, rest), Segment.mem_takeSeparator.mpr ⟨rfl, h⟩, rfl⟩

end

namespace Segment

/-- A value meets the constraint of its parameter: the constraint matches all of it, or it is empty
and may be missing. A value without a constraint holds no slash, and is not empty if it is
required. -/
def MeetsConstraint (constraint? : Text → Option Text) (s : Segment) (value : Text) : Prop :=
  match s.name.bind constraint? with
  | none => s.PlainValue value
  | some constraint =>
    (value = [] ∧ s.isOptional = true) ∨ MatchesWhole pathFlags constraint value

/-- What it means that a value meets a constraint. -/
theorem meetsConstraint_iff {constraint? : Text → Option Text} {s : Segment} {constraint : Text}
    (h : s.name.bind constraint? = some constraint) {value : Text} :
    s.MeetsConstraint constraint? value ↔
      (value = [] ∧ s.isOptional = true) ∨ MatchesWhole pathFlags constraint value := by
  unfold MeetsConstraint
  rw [h]

section

variable {constraint? : Text → Option Text} {s : Segment} {k : Nat} {v : ValueRead} {t rest : Text}
  {x : Spot}

/-- A value that meets its constraint is matched where it stands. -/
theorem ReadBy.exists_runAll (hv : ReadBy constraint? s k v)
    (hlook : ∀ constraint, s.name.bind constraint? = some constraint →
      LookFree pathFlags constraint) (hplace : x.place ≤ t.length) {value : Text}
    (hleft : x.left t.toArray = value ++ rest)
    (hliteral : s.name = none → SameFolding value (Regex.unescape s.pattern))
    (hvalue : s.name ≠ none → s.MeetsConstraint constraint? value) :
    ∃ saved, RunAll t.toArray v.exprs x ⟨x.place + value.length, saved⟩ := by
  cases hv with
  | plain hplain =>
    have hown : (value, rest) ∈ s.takeOwn (x.left t.toArray) := by
      refine mem_takeOwn.mpr ⟨hleft, hliteral, fun hname => ?_⟩
      have hnone : s.name.bind constraint? = none := by
        cases hname : s.name with
        | none => rfl
        | some name => exact hplain name hname
      have hmeets := hvalue hname
      unfold MeetsConstraint at hmeets
      rwa [hnone] at hmeets
    have hend : x.afterOwn s k value ∈ endsAll t.toArray (s.plainRead k).exprs x := by
      rw [endsAll_plainRead]
      exact List.mem_map_of_mem hown
    have hafter : (x.afterOwn s k value).place = x.place + value.length := by
      unfold Spot.afterOwn
      cases s.name <;> rfl
    refine ⟨(x.afterOwn s k value).saved, ?_⟩
    rw [← hafter]
    exact runAll_of_mem_endsAll hend
  | @constrained name constraint parsed next hname hconstraint hparse hnext hgroups =>
    have hsome : s.name.bind constraint? = some constraint := by
      rw [hname]
      exact hconstraint
    have hmeets := (meetsConstraint_iff hsome).mp <|
      hvalue (by rw [hname]; exact Option.some_ne_none name)
    -- What is left at a place is what stands behind as many characters.
    have htext : t = t.take x.place ++ value ++ rest := by
      have hdrop : t.drop x.place = value ++ rest := hleft
      rw [List.append_assoc, ← hdrop, List.take_append_drop]
    have hfront : (t.take x.place).length = x.place := List.length_take_of_le hplace
    obtain ⟨rfl, hopt⟩ | hmatches := hmeets
    · exact ⟨_, _, ⟨x.remember (2 * k), run_constrainedValue.mpr (.inr ⟨hopt, rfl⟩), rfl⟩, rfl⟩
    · obtain ⟨saved, hrun⟩ : ∃ saved, (parsed.expr.shift k).Run
          (t.take x.place ++ value ++ rest).toArray
          ⟨(t.take x.place).length, (x.remember (2 * k)).saved⟩
          ⟨(t.take x.place).length + value.length, saved⟩ :=
        hmatches.exists_run (hlook constraint hsome) hparse k _
      rw [← htext, hfront] at hrun
      exact ⟨_, _, ⟨_, run_constrainedValue.mpr (.inl hrun), rfl⟩, rfl⟩

/-- A share of a segment is matched by the expressions of the segment. -/
theorem ReadBy.exists_runAll_exprs (hv : ReadBy constraint? s k v)
    (hlook : ∀ constraint, s.name.bind constraint? = some constraint →
      LookFree pathFlags constraint) (hplace : x.place ≤ t.length) {z : Share}
    (hleft : x.left t.toArray = z.text ++ rest) (h : s.Takes (MeetsConstraint constraint?) z rest) :
    ∃ saved, RunAll t.toArray (s.exprs v.exprs) x ⟨x.place + z.text.length, saved⟩ := by
  obtain ⟨before, value, after, slash⟩ := z
  have htext : (⟨before, value, after, slash⟩ : Share).text ++ rest =
      before ++ (value ++ (after ++ ((if slash then ['/'] else []) ++ rest))) := by
    simp [Share.text]
  rw [htext] at hleft
  have hbefore := runAll_literalExprs hleft h.before
  have hlength := congrArg List.length hleft
  rw [x.length_left, List.length_append, List.size_toArray] at hlength
  have hleft₁ : (x.skip before.length).left t.toArray =
      value ++ (after ++ ((if slash then ['/'] else []) ++ rest)) := by
    rw [Spot.left_skip, hleft, List.drop_left]
  obtain ⟨saved, hvalue⟩ := hv.exists_runAll hlook
    (show (x.skip before.length).place ≤ t.length by unfold Spot.skip; dsimp only; omega)
    hleft₁ h.literal h.value
  have hleft₂ : (⟨(x.skip before.length).place + value.length, saved⟩ : Spot).left t.toArray =
      after ++ ((if slash then ['/'] else []) ++ rest) := by
    change ((x.skip before.length).skip value.length).left t.toArray = _
    rw [Spot.left_skip, hleft₁, List.drop_left]
  have hafter := runAll_literalExprs hleft₂ h.after
  have hleft₃ : (Spot.skip ⟨(x.skip before.length).place + value.length, saved⟩
      after.length).left t.toArray = (if slash then ['/'] else []) ++ rest := by
    rw [Spot.left_skip, hleft₂, List.drop_left]
  have hseparator := runAll_separatorExprs hleft₃ h.separator
  have hend : x.place + (⟨before, value, after, slash⟩ : Share).text.length =
      x.place + before.length + value.length + after.length + if slash then 1 else 0 := by
    unfold Share.text
    cases slash <;> simp [Nat.add_assoc]
  refine ⟨saved, runAll_append.mpr ⟨_, runAll_append.mpr ⟨_, runAll_append.mpr
    ⟨_, hbefore, hvalue⟩, hafter⟩, ?_⟩⟩
  rw [hend]
  exact hseparator

end

/-- A text that can be cut into shares of a row of segments is matched by the expressions of the row,
if the values meet their constraints. -/
theorem RowRead.exists_runAll {constraint? : Text → Option Text} {segments : List Segment} {k : Nat}
    {vs : List ValueRead} (h : RowRead (ReadBy constraint?) segments k vs)
    (hlook : ∀ s ∈ segments, ∀ constraint, s.name.bind constraint? = some constraint →
      LookFree pathFlags constraint) {t : Text} {x : Spot} (hplace : x.place ≤ t.length)
    {shares : List Share}
    (hcut : IsCut (MeetsConstraint constraint?) segments shares (x.left t.toArray)) :
    ∃ y, RunAll t.toArray (rowExprs segments vs ++ [.look .textEnd]) x y := by
  induction h generalizing x shares with
  | nil k =>
    obtain ⟨rfl, hnil⟩ := isCut_nil_iff.mp hcut
    refine ⟨x, runAll_of_mem_endsAll ?_⟩
    change x ∈ endsAll t.toArray [.look .textEnd] x
    rw [endsAll_singleton, Expr.ends, Look.holdsAt, Look.holds, ← x.head?_left, hnil]
    exact List.mem_singleton_self x
  | @cons s rest k v vs hs hrest ih =>
    obtain ⟨hlookHead, hlook⟩ := List.forall_mem_cons.mp hlook
    obtain ⟨z, shares, left, rfl, hleft, htakes, hcut⟩ := isCut_cons_iff.mp hcut
    obtain ⟨saved, hfirst⟩ := hs.exists_runAll_exprs hlookHead hplace hleft htakes
    have hbehind : (⟨x.place + z.text.length, saved⟩ : Spot).left t.toArray = left := by
      change (x.skip z.text.length).left t.toArray = left
      rw [Spot.left_skip, hleft, List.drop_left]
    have hlength := congrArg List.length hleft
    rw [x.length_left, List.length_append, List.size_toArray] at hlength
    rw [← hbehind] at hcut
    obtain ⟨y, hy⟩ := ih hlook (show x.place + z.text.length ≤ t.length by omega) hcut
    have hsplit : rowExprs (s :: rest) (v :: vs) ++ [.look .textEnd] =
        s.exprs v.exprs ++ (rowExprs rest vs ++ [.look .textEnd]) := List.append_assoc ..
    rw [hsplit]
    exact ⟨y, runAll_append.mpr ⟨_, hfirst, hy⟩⟩

end Segment

end PathRouting
