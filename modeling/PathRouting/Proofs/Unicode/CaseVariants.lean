import Mathlib.Data.List.Basic
import Mathlib.Tactic.Common
import PathRouting.Unicode.CaseFolding

/-!
# Case variants are the classes of simple case folding

Two characters are case variants of each other exactly when they fold to the same code point. The
table enters through two checks: no code point is folded by two runs, and nothing that a run folds
to is folded again. The slash has no variant but itself.
-/

namespace PathRouting.Unicode

/-- Two strides of code points are apart when one ends before the other starts, or when both take
every second code point and start at different parities. -/
def stridesApart (first last step first' last' step' : Nat) : Bool :=
  Nat.blt last first' || Nat.blt last' first
    || (Nat.beq step 2 && Nat.beq step' 2 && !Nat.beq (first % 2) (first' % 2))

/-- The code points that two runs fold are apart. -/
def FoldRun.domainsApart (r s : FoldRun) : Bool :=
  stridesApart r.first r.last r.step s.first s.last s.step

/-- The last code point that a run folds to. -/
def FoldRun.lastTarget (r : FoldRun) : Nat :=
  r.target + (r.last - r.first)

/-- What a run folds to is apart from what another one folds. A run of one code point may be given
any step. -/
def FoldRun.targetsApart (r s : FoldRun) : Bool :=
  stridesApart r.target r.lastTarget (if Nat.beq r.first r.last then 2 else r.step)
    s.first s.last s.step

/-- The steps of all runs are one or two, and all code points in them are characters. -/
def FoldRun.wellFormed (r : FoldRun) : Bool :=
  (Nat.beq r.step 1 || Nat.beq r.step 2) && Nat.ble r.first r.last
    && Nat.blt 0x2F r.first && Nat.blt 0x2F r.target
    && (Nat.blt r.last 0xD800 || (Nat.blt 0xDFFF r.first && Nat.blt r.last 0x110000))
    && (Nat.blt r.lastTarget 0xD800 || (Nat.blt 0xDFFF r.target && Nat.blt r.lastTarget 0x110000))

/-- The runs of the table are apart from one another. -/
theorem foldRuns_domainsApart : foldRuns.Pairwise fun r s => r.domainsApart s = true := by
  decide +kernel

/-- No run of the table folds what another one, or itself, folds to. -/
theorem foldRuns_targetsApart :
    (foldRuns.all fun r => foldRuns.all fun s => r.targetsApart s) = true := by
  decide +kernel

/-- The runs of the table are well formed. -/
theorem foldRuns_wellFormed : (foldRuns.all FoldRun.wellFormed) = true := by
  decide +kernel

/-- Strides that are apart have no code point in common. -/
theorem not_mem_of_stridesApart {first last step first' last' step' n : Nat}
    (h : stridesApart first last step first' last' step' = true)
    (h1 : first ≤ n ∧ n ≤ last ∧ (n - first) % step = 0)
    (h2 : first' ≤ n ∧ n ≤ last' ∧ (n - first') % step' = 0) : False := by
  simp only [stridesApart, Bool.or_eq_true, Bool.and_eq_true, Bool.not_eq_true', Nat.blt_eq,
    Nat.beq_eq, ← Bool.not_eq_true] at h
  rcases h with (h | h) | ⟨⟨rfl, rfl⟩, h⟩ <;> omega

/-- A run folds exactly the code points of its stride. -/
theorem FoldRun.image?_eq_some_iff {r : FoldRun} {n m : Nat} :
    r.image? n = some m ↔
      (r.first ≤ n ∧ n ≤ r.last ∧ (n - r.first) % r.step = 0) ∧ n - r.first + r.target = m := by
  unfold FoldRun.image?
  split <;> simp [*]

/-- The preimage of a run inverts its image. -/
theorem FoldRun.preimage?_eq_some_iff {r : FoldRun} (hr : r.first ≤ r.last) {n m : Nat} :
    r.preimage? m = some n ↔ r.image? n = some m := by
  rw [FoldRun.image?_eq_some_iff]
  unfold FoldRun.preimage?
  split
  · rename_i h
    rw [Option.some.injEq]
    constructor
    · rintro rfl
      refine ⟨⟨by omega, by omega, ?_⟩, by omega⟩
      rw [Nat.add_sub_cancel]
      exact h.2.2
    · rintro ⟨⟨h1, -⟩, rfl⟩
      omega
  · rename_i h
    simp only [reduceCtorEq, false_iff, not_and]
    rintro ⟨h1, h2, h3⟩ rfl
    refine h ⟨by omega, by omega, ?_⟩
    rw [Nat.add_sub_cancel]
    exact h3

/-- Of runs that are apart the one that folds a code point decides its folding. -/
theorem findSome?_image? {runs : List FoldRun}
    (hruns : runs.Pairwise fun r s => r.domainsApart s = true) {r : FoldRun} (hr : r ∈ runs)
    {n m : Nat} (h : r.image? n = some m) : runs.findSome? (·.image? n) = some m := by
  induction hruns with
  | nil => exact absurd hr List.not_mem_nil
  | @cons s rest hfirst _ ih =>
    rcases List.mem_cons.mp hr with rfl | hr
    · rw [List.findSome?_cons, h]
    · rw [List.findSome?_cons]
      cases hs : s.image? n with
      | none => exact ih hr
      | some k =>
        exact (not_mem_of_stridesApart (hfirst r hr) (FoldRun.image?_eq_some_iff.mp hs).1
          (FoldRun.image?_eq_some_iff.mp h).1).elim

/-- A code point that a run folds has the image of that run as its folding. -/
theorem simpleFold_eq_of_image? {r : FoldRun} (hr : r ∈ foldRuns) {n m : Nat}
    (h : r.image? n = some m) : simpleFold n = m := by
  rw [simpleFold, findSome?_image? foldRuns_domainsApart hr h, Option.getD_some]

/-- A code point folds to itself, or some run folds it. -/
theorem simpleFold_cases (n : Nat) :
    simpleFold n = n ∨ ∃ r ∈ foldRuns, r.image? n = some (simpleFold n) := by
  unfold simpleFold
  cases h : foldRuns.findSome? (·.image? n) with
  | none => exact .inl rfl
  | some m =>
    obtain ⟨r, hr, hm⟩ := List.exists_of_findSome?_eq_some h
    exact .inr ⟨r, hr, hm⟩

/-- What a run folds to is not folded again. -/
theorem simpleFold_target {r : FoldRun} (hr : r ∈ foldRuns) {n m : Nat}
    (h : r.image? n = some m) : simpleFold m = m := by
  rcases simpleFold_cases m with hm | ⟨s, hs, hm⟩
  · exact hm
  · have hapart := List.all_eq_true.mp (List.all_eq_true.mp foldRuns_targetsApart r hr) s hs
    obtain ⟨⟨h1, h2, h3⟩, rfl⟩ := FoldRun.image?_eq_some_iff.mp h
    refine (not_mem_of_stridesApart hapart ⟨by omega, by simp only [FoldRun.lastTarget]; omega, ?_⟩
      (FoldRun.image?_eq_some_iff.mp hm).1).elim
    rw [Nat.add_sub_cancel]
    split
    · rename_i heq
      have : n - r.first = 0 := by
        have := Nat.eq_of_beq_eq_true heq
        omega
      rw [this, Nat.zero_mod]
    · exact h3

/-- Folding twice is folding once. -/
theorem simpleFold_simpleFold (n : Nat) : simpleFold (simpleFold n) = simpleFold n := by
  rcases simpleFold_cases n with h | ⟨r, hr, h⟩
  · rw [h, h]
  · exact simpleFold_target hr h

/-- A bound on a well-formed run in terms of plain inequalities. -/
theorem FoldRun.bounds {r : FoldRun} (hr : r ∈ foldRuns) :
    r.first ≤ r.last ∧ 0x2F < r.first ∧ 0x2F < r.target ∧
      (r.last < 0xD800 ∨ 0xDFFF < r.first ∧ r.last < 0x110000) ∧
      (r.lastTarget < 0xD800 ∨ 0xDFFF < r.target ∧ r.lastTarget < 0x110000) := by
  have h := List.all_eq_true.mp foldRuns_wellFormed r hr
  simp only [FoldRun.wellFormed, Bool.or_eq_true, Bool.and_eq_true, Nat.blt_eq, Nat.ble_eq] at h
  exact ⟨h.1.1.1.1.2, h.1.1.1.2, h.1.1.2, h.1.2, h.2⟩

/-- A code point in the domain of a run is a character. -/
theorem FoldRun.isValidChar_of_image? {r : FoldRun} (hr : r ∈ foldRuns) {n m : Nat}
    (h : r.image? n = some m) : n.isValidChar ∧ m.isValidChar := by
  obtain ⟨⟨h1, h2, -⟩, rfl⟩ := FoldRun.image?_eq_some_iff.mp h
  obtain ⟨-, -, -, hd, ht⟩ := FoldRun.bounds hr
  unfold FoldRun.lastTarget at ht
  unfold Nat.isValidChar
  omega

/-- Two characters that fold to the same code point. -/
def FoldEq (c d : Char) : Prop :=
  simpleFold c.toNat = simpleFold d.toNat

instance (c d : Char) : Decidable (FoldEq c d) :=
  inferInstanceAs (Decidable (_ = _))

/-- The character of a valid code point has that code point. -/
theorem toNat_ofNat_of_valid {n : Nat} (h : n.isValidChar) : (Char.ofNat n).toNat = n := by
  rw [Char.ofNat, dif_pos h]
  rfl

/-- The folding of a character is the code point of a character. -/
theorem simpleFold_isValidChar (c : Char) : (simpleFold c.toNat).isValidChar := by
  rcases simpleFold_cases c.toNat with h | ⟨r, hr, h⟩
  · rw [h]
    exact c.valid
  · exact (FoldRun.isValidChar_of_image? hr h).2

/-- The case variants of a character are the characters with the same folding. -/
theorem mem_caseVariants_iff {c d : Char} : c ∈ caseVariants d ↔ FoldEq c d := by
  simp only [caseVariants, List.mem_cons, List.mem_map, List.mem_filterMap, FoldEq]
  constructor
  · rintro (rfl | ⟨n, ⟨r, hr, h⟩, rfl⟩)
    · rw [toNat_ofNat_of_valid (simpleFold_isValidChar d), simpleFold_simpleFold]
    · have himage := (FoldRun.preimage?_eq_some_iff (FoldRun.bounds hr).1).mp h
      rw [toNat_ofNat_of_valid (FoldRun.isValidChar_of_image? hr himage).1]
      exact simpleFold_eq_of_image? hr himage
  · intro h
    rcases simpleFold_cases c.toNat with hc | ⟨r, hr, hc⟩
    · left
      rw [← h, hc]
      exact (Char.ofNat_toNat c).symm
    · right
      refine ⟨c.toNat, ⟨r, hr, ?_⟩, Char.ofNat_toNat c⟩
      rw [FoldRun.preimage?_eq_some_iff (FoldRun.bounds hr).1, hc, h]

/-- No run of the table folds anything before the letters, or to anything there. -/
theorem foldRuns_beyond :
    (foldRuns.all fun r => Nat.blt 0x3F r.first && Nat.blt 0x3F r.target) = true := by
  decide +kernel

/-- A character before the letters is the only one with its folding. -/
theorem foldEq_iff_of_le {c d : Char} (hc : c.toNat ≤ 0x3F) : FoldEq c d ↔ d = c := by
  have hbeyond : ∀ {r : FoldRun} {n m : Nat}, r ∈ foldRuns → r.image? n = some m →
      0x3F < n ∧ 0x3F < m := by
    intro r n m hr h
    obtain ⟨⟨hfirst, -⟩, rfl⟩ := FoldRun.image?_eq_some_iff.mp h
    have hrun := List.all_eq_true.mp foldRuns_beyond r hr
    rw [Bool.and_eq_true, Nat.blt_eq, Nat.blt_eq] at hrun
    omega
  have hown : simpleFold c.toNat = c.toNat := by
    rcases simpleFold_cases c.toNat with h | ⟨r, hr, h⟩
    · exact h
    · exact absurd (hbeyond hr h).1 (Nat.not_lt.mpr hc)
  constructor
  · intro h
    have heq : c.toNat = simpleFold d.toNat := hown.symm.trans h
    rcases simpleFold_cases d.toNat with hd | ⟨r, hr, hd⟩
    · exact Char.toNat_inj.mp (hd.symm.trans heq.symm)
    · have := (hbeyond hr hd).2
      omega
  · rintro rfl
    rfl

/-- The slash is the only character that folds to a slash. -/
theorem foldEq_slash_iff {c : Char} : FoldEq '/' c ↔ c = '/' :=
  foldEq_iff_of_le (by decide)

end PathRouting.Unicode
