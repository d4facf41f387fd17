import PathRouting.Proofs.Regex.Inside

/-!
# Matching a text inside of another one

What an expression without conditions on places matches of a text of its own, it matches where the
text stands inside of another one, also with higher numbers of groups.
-/

namespace PathRouting.Regex

/-- Steps in a row can be carried over to a longer text. -/
theorem Rounds.embed {step step' : Spot → Spot → Prop} {off stop : Nat}
    (hle : ∀ x y, step x y → x.place ≤ y.place)
    (hstep : ∀ x y, step x y → y.place ≤ stop → ∀ saved, ∃ saved',
      step' ⟨off + x.place, saved⟩ ⟨off + y.place, saved'⟩) {n : Nat} {x y : Spot}
    (h : Rounds step n x y) (hstop : y.place ≤ stop) (saved : List (Nat × Nat)) :
    ∃ saved', Rounds step' n ⟨off + x.place, saved⟩ ⟨off + y.place, saved'⟩ := by
  induction n generalizing x saved with
  | zero =>
    obtain rfl := h
    exact ⟨saved, rfl⟩
  | succ n ih =>
    obtain ⟨z, hz, h⟩ := h
    have hzy : z.place ≤ y.place :=
      h.keeps (r := fun x y => x.place ≤ y.place) (fun _ => le_rfl) (fun _ _ _ => le_trans) hle
    obtain ⟨saved₁, h₁⟩ := hstep x z hz (le_trans hzy hstop) saved
    obtain ⟨saved₂, h₂⟩ := ih h saved₁
    exact ⟨saved₂, _, h₁, h₂⟩

/-- A match of an expression by itself against a part of a text is a match inside of another
expression, if the expression has no conditions on places. -/
theorem Expr.Run.embed (k : Nat) {e : Expr} {input value : Array Char} {off stop : Nat}
    (hinput : ∀ i, i < stop → value[i]? = input[off + i]?) (he : e.lookFree = true) {x y : Spot}
    (h : e.Run value x y) (hstop : y.place ≤ stop) (saved : List (Nat × Nat)) :
    ∃ saved', (e.shift k).Run input ⟨off + x.place, saved⟩ ⟨off + y.place, saved'⟩ := by
  induction e generalizing x y saved with
  | empty =>
    obtain rfl := h
    exact ⟨saved, rfl⟩
  | set s =>
    obtain ⟨c, hc, hcont, rfl⟩ := h
    have hlt : x.place < stop := hstop
    rw [hinput x.place hlt] at hc
    exact ⟨saved, c, hc, hcont, rfl⟩
  | look l => cases he
  | seq a b iha ihb =>
    obtain ⟨ha, hb⟩ := (Bool.and_eq_true a.lookFree b.lookFree).mp he
    obtain ⟨z, hz, h⟩ := h
    obtain ⟨saved₁, h₁⟩ := iha ha hz (le_trans h.place_le hstop) saved
    obtain ⟨saved₂, h₂⟩ := ihb hb h hstop saved₁
    exact ⟨saved₂, _, h₁, h₂⟩
  | alt a b iha ihb =>
    obtain ⟨ha, hb⟩ := (Bool.and_eq_true a.lookFree b.lookFree).mp he
    rcases h with h | h
    · obtain ⟨saved', h'⟩ := iha ha h hstop saved
      exact ⟨saved', .inl h'⟩
    · obtain ⟨saved', h'⟩ := ihb hb h hstop saved
      exact ⟨saved', .inr h'⟩
  | loop min max greedy e ih =>
    obtain ⟨n, hmin, hmax, h⟩ := h
    obtain ⟨saved', h'⟩ := Rounds.embed (fun _ _ h => h.place_le)
      (fun x y h hstop saved => ih he h hstop saved) h hstop saved
    exact ⟨saved', n, hmin, hmax, h'⟩
  | group index e ih =>
    obtain ⟨z, hz, rfl⟩ := h
    obtain ⟨saved', h'⟩ := ih he hz hstop ((2 * (index + k), off + x.place) :: saved)
    exact ⟨(2 * (index + k) + 1, off + z.place) :: saved', ⟨off + z.place, saved'⟩, h', rfl⟩

/-- An expression without conditions on places that matches a text as a whole matches it inside of
another text, also with higher numbers of groups. -/
theorem MatchesWhole.exists_run {f : Flags} {expression before value after : Text} {parsed : Parsed}
    (hlook : LookFree f expression) (hparse : parse f expression = .ok parsed)
    (h : MatchesWhole f expression value) (k : Nat) (saved : List (Nat × Nat)) :
    ∃ saved', (parsed.expr.shift k).Run (before ++ value ++ after).toArray ⟨before.length, saved⟩
      ⟨before.length + value.length, saved'⟩ := by
  obtain ⟨found, hfound, hfree⟩ := hlook
  obtain ⟨own, hown, _, hrun⟩ := h
  rw [hparse, Except.ok.injEq] at hfound hown
  subst hfound hown
  have hinput : ∀ i, i < value.length →
      value.toArray[i]? = (before ++ value ++ after).toArray[before.length + i]? := by
    intro i hi
    rw [List.getElem?_toArray, List.getElem?_toArray, List.append_assoc,
      List.getElem?_append_right (Nat.le_add_right _ _), Nat.add_sub_cancel_left,
      List.getElem?_append_left hi]
  exact hrun.embed k hinput hfree le_rfl saved

end PathRouting.Regex
