import PathRouting.Proofs.Regex.Semantics

/-!
# Expressions inside of others

An expression that is read inside of another one has groups with higher numbers, and it is matched
against a part of a text. If it has no conditions on places, neither makes a difference to what it
matches.
-/

namespace PathRouting.Regex

namespace Expr

/-- An expression with the numbers of its groups raised. -/
def shift (k : Nat) : Expr → Expr
  | empty => empty
  | set s => set s
  | look l => look l
  | seq a b => seq (a.shift k) (b.shift k)
  | alt a b => alt (a.shift k) (b.shift k)
  | loop min max greedy e => loop min max greedy (e.shift k)
  | group index e => group (index + k) (e.shift k)

/-- An expression has no conditions on places. -/
def lookFree : Expr → Bool
  | empty => true
  | set _ => true
  | look _ => false
  | seq a b => a.lookFree && b.lookFree
  | alt a b => a.lookFree && b.lookFree
  | loop _ _ _ e => e.lookFree
  | group _ e => e.lookFree

variable (k : Nat)

/-- Expressions with raised numbers are equal only if the expressions are. -/
theorem shift_inj {a b : Expr} : a.shift k = b.shift k ↔ a = b := by
  constructor
  · intro h
    induction a generalizing b with
    | empty => cases b <;> simp_all [shift]
    | set s => cases b <;> simp_all [shift]
    | look l => cases b <;> simp_all [shift]
    | seq a c iha ihc =>
      cases b <;> simp only [shift, reduceCtorEq, seq.injEq] at h
      rw [iha h.1, ihc h.2]
    | alt a c iha ihc =>
      cases b <;> simp only [shift, reduceCtorEq, alt.injEq] at h
      rw [iha h.1, ihc h.2]
    | loop min max greedy e ih =>
      cases b <;> simp only [shift, reduceCtorEq, loop.injEq] at h
      rw [h.1, h.2.1, h.2.2.1, ih h.2.2.2]
    | group index e ih =>
      cases b <;> simp only [shift, reduceCtorEq, group.injEq] at h
      rw [Nat.add_right_cancel h.1, ih h.2]
  · rintro rfl
    rfl

/-- Only the empty expression is empty with raised numbers. -/
theorem shift_eq_empty_iff {e : Expr} : e.shift k = empty ↔ e = empty :=
  shift_inj k (b := empty)

/-- Raising numbers keeps whether an expression takes nothing. -/
@[simp] theorem takesNothing_shift (e : Expr) : (e.shift k).takesNothing = e.takesNothing := by
  induction e with
  | empty => rfl
  | set s => rfl
  | look l => rfl
  | seq a b iha ihb => simp [shift, takesNothing, iha, ihb]
  | alt a b iha ihb => simp [shift, takesNothing, iha, ihb]
  | loop min max greedy e ih => simp [shift, takesNothing, ih]
  | group index e ih => simp [shift, takesNothing, ih]

/-- Raising numbers goes into a repetition. -/
theorem shift_repeated (min : Nat) (max : Option Nat) (greedy : Bool) (e : Expr) :
    (repeated min max greedy e).shift k = repeated min max greedy (e.shift k) := by
  unfold repeated
  rw [takesNothing_shift]
  generalize (if e.takesNothing = true then (Nat.min min 1, some (Nat.min (max.getD 1) 1))
    else (min, max)) = bounds
  dsimp only
  split
  · rfl
  · split <;> rfl

/-- Raising numbers goes into a sequence. -/
theorem shift_sequence (es : List Expr) :
    (sequence es).shift k = sequence (es.map (shift k)) := by
  induction es with
  | nil => rfl
  | cons e rest ih =>
    cases rest with
    | nil => rfl
    | cons d rest => exact congrArg (seq (e.shift k)) ih

/-- Raising numbers goes into a concatenation. -/
theorem shift_concat (es : List Expr) : (concat es).shift k = concat (es.map (shift k)) := by
  have hfilter : (es.map (shift k)).filter (· ≠ empty) = (es.filter (· ≠ empty)).map (shift k) := by
    rw [List.filter_map]
    congr 2
    funext e
    simp [shift_eq_empty_iff]
  rw [concat, concat, shift_sequence, hfilter]

/-- Raising numbers goes into branches. -/
theorem shift_branches (es : List Expr) :
    (branches es).shift k = branches (es.map (shift k)) := by
  induction es with
  | nil => rfl
  | cons e rest ih =>
    cases rest with
    | nil => rfl
    | cons d rest => exact congrArg (alt (e.shift k)) ih

/-- Raising numbers goes into the parts that an expression matches in turn. -/
theorem factors_shift (e : Expr) : (e.shift k).factors = e.factors.map (shift k) := by
  induction e with
  | seq a b iha ihb => simp [shift, factors, iha, ihb]
  | empty => rfl
  | set s => rfl
  | look l => rfl
  | alt a b => rfl
  | loop min max greedy e => rfl
  | group index e => rfl

/-- Raising numbers goes into what two lists share at their starts. -/
theorem sharedStart_map_shift (as bs : List Expr) :
    sharedStart (as.map (shift k)) (bs.map (shift k)) = (sharedStart as bs).map (shift k) := by
  induction as generalizing bs with
  | nil => rfl
  | cons a as ih =>
    cases bs with
    | nil => rfl
    | cons b bs =>
      simp only [List.map_cons, sharedStart, shift_inj]
      split
      · rw [List.map_cons, ih]
      · rfl

/-- Raising numbers goes into a choice, also where its branches share a start. -/
theorem shift_oneOf (es : List Expr) : (oneOf es).shift k = oneOf (es.map (shift k)) := by
  have hfactors : (es.map (shift k)).map factors = (es.map factors).map (List.map (shift k)) := by
    simp [factors_shift]
  have hfold : ∀ (first : List Expr) (rest : List (List Expr)),
      (rest.map (List.map (shift k))).foldl sharedStart (first.map (shift k)) =
        (rest.foldl sharedStart first).map (shift k) := by
    intro first rest
    induction rest generalizing first with
    | nil => rfl
    | cons second rest ih => rw [List.map_cons, List.foldl_cons, sharedStart_map_shift, ih]; rfl
  unfold oneOf
  rw [hfactors]
  cases es.map factors with
  | nil => exact shift_branches k es
  | cons first rest =>
    cases rest with
    | nil => exact shift_branches k es
    | cons second rest =>
      simp only [List.map_cons]
      rw [← List.map_cons, hfold, ← List.map_cons]
      have hall : ((first :: second :: rest).map (List.map (shift k))).all
          (fun parts => 2 ≤ parts.length) =
          (first :: second :: rest).all (fun parts => 2 ≤ parts.length) := by
        rw [List.all_map]
        congr 1
        funext parts
        simp
      rw [hall]
      simp only [ne_eq, List.map_eq_nil_iff]
      split
      · rw [shift_concat, List.map_append, List.map_singleton, shift_branches]
        simp [shift_concat, Function.comp_def]
      · exact shift_branches k es

/-- The groups of an expression with raised numbers. -/
theorem groups_shift (e : Expr) : (e.shift k).groups = e.groups.map (· + k) := by
  induction e with
  | empty => rfl
  | set s => rfl
  | look l => rfl
  | seq a b iha ihb => simp [shift, groups, iha, ihb]
  | alt a b iha ihb => simp [shift, groups, iha, ihb]
  | loop min max greedy e ih => simp [shift, groups, ih]
  | group index e ih => simp [shift, groups, ih]

end Expr

/-- Steps in a row can be carried over to another text. -/
theorem Rounds.transfer {step step' : Spot → Spot → Prop} {off stop : Nat}
    (hle : ∀ x y, step x y → x.place ≤ y.place)
    (hstep : ∀ x y, step x y → off ≤ x.place → y.place ≤ stop → ∀ saved, ∃ saved',
      step' ⟨x.place - off, saved⟩ ⟨y.place - off, saved'⟩) {n : Nat} {x y : Spot}
    (h : Rounds step n x y) (hoff : off ≤ x.place) (hstop : y.place ≤ stop)
    (saved : List (Nat × Nat)) :
    ∃ saved', Rounds step' n ⟨x.place - off, saved⟩ ⟨y.place - off, saved'⟩ := by
  induction n generalizing x saved with
  | zero =>
    obtain rfl := h
    exact ⟨saved, rfl⟩
  | succ n ih =>
    obtain ⟨z, hz, h⟩ := h
    have hxz := hle x z hz
    have hzy : z.place ≤ y.place :=
      h.keeps (r := fun x y => x.place ≤ y.place) (fun _ => le_rfl) (fun _ _ _ => le_trans) hle
    obtain ⟨saved₁, h₁⟩ := hstep x z hz hoff (le_trans hzy hstop) saved
    obtain ⟨saved₂, h₂⟩ := ih h (le_trans hoff hxz) saved₁
    exact ⟨saved₂, _, h₁, h₂⟩

/-- A match of an expression inside of another one is a match of the expression by itself against
the part of the text, if the expression has no conditions on places or these hold there too. -/
theorem Expr.Run.transfer {k : Nat} {e : Expr} {input value : Array Char} {off stop : Nat}
    (hinput : ∀ i, off ≤ i → i < stop → input[i]? = value[i - off]?)
    (he : e.lookFree = true ∨ ∀ (l : Look) (place : Nat), l.holdsAt input place = true →
      l.holdsAt value (place - off) = true)
    {x y : Spot} (h : (e.shift k).Run input x y) (hoff : off ≤ x.place) (hstop : y.place ≤ stop)
    (saved : List (Nat × Nat)) :
    ∃ saved', e.Run value ⟨x.place - off, saved⟩ ⟨y.place - off, saved'⟩ := by
  induction e generalizing x y saved with
  | empty =>
    obtain rfl := h
    exact ⟨saved, rfl⟩
  | set s =>
    obtain ⟨c, hc, hcont, rfl⟩ := h
    have hlt : x.place < stop := hstop
    rw [hinput x.place hoff hlt] at hc
    refine ⟨saved, c, hc, hcont, ?_⟩
    have hsub : x.place + 1 - off = x.place - off + 1 := by omega
    rw [Spot.advance, Spot.advance, hsub]
  | look l =>
    obtain ⟨hl, rfl⟩ := h
    exact ⟨saved, he.resolve_left Bool.false_ne_true l _ hl, rfl⟩
  | seq a b iha ihb =>
    have hparts := he.imp_left (Bool.and_eq_true a.lookFree b.lookFree).mp
    obtain ⟨z, hz, h⟩ := h
    obtain ⟨saved₁, h₁⟩ :=
      iha (hparts.imp_left And.left) hz hoff (le_trans h.place_le hstop) saved
    obtain ⟨saved₂, h₂⟩ :=
      ihb (hparts.imp_left And.right) h (le_trans hoff hz.place_le) hstop saved₁
    exact ⟨saved₂, _, h₁, h₂⟩
  | alt a b iha ihb =>
    have hparts := he.imp_left (Bool.and_eq_true a.lookFree b.lookFree).mp
    rcases h with h | h
    · obtain ⟨saved', h'⟩ := iha (hparts.imp_left And.left) h hoff hstop saved
      exact ⟨saved', .inl h'⟩
    · obtain ⟨saved', h'⟩ := ihb (hparts.imp_left And.right) h hoff hstop saved
      exact ⟨saved', .inr h'⟩
  | loop min max greedy e ih =>
    obtain ⟨n, hmin, hmax, h⟩ := h
    obtain ⟨saved', h'⟩ := Rounds.transfer (fun _ _ h => h.place_le)
      (fun x y h hoff hstop saved => ih he h hoff hstop saved) h hoff hstop saved
    exact ⟨saved', n, hmin, hmax, h'⟩
  | group index e ih =>
    obtain ⟨z, hz, rfl⟩ := h
    obtain ⟨saved', h'⟩ := ih he hz hoff hstop ((2 * index, x.place - off) :: saved)
    exact ⟨(2 * index + 1, z.place - off) :: saved', ⟨z.place - off, saved'⟩, h', rfl⟩

end PathRouting.Regex
