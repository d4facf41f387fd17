import Mathlib.Data.Finset.Card
import Mathlib.Tactic.Common
import PathRouting.Regex.Search

/-!
# Threads of a search

A search visits each pair of an instruction and a place once. This module says that nothing is lost
by that. Main statements: a search that fails leaves no thread that could still be accepted, and
one that succeeds returns what an exhaustive search in the order of preference finds first, in any
part of the program in which no thread can run in circles.
-/

namespace PathRouting.Regex

namespace BitSet

/-- After an insertion a set contains the new number and those it contained. -/
theorem contains_insert {s : BitSet} {n : Nat} (h : n / wordSize < s.size) (m : Nat) :
    (s.insert n).contains m = (decide (m = n) || s.contains m) := by
  unfold insert contains
  rw [Array.getElem?_modify]
  by_cases hm : n / wordSize = m / wordSize
  · rw [if_pos hm, ← hm, Array.getElem?_eq_getElem h]
    simp only [Option.map_some, Option.getD_some, Nat.testBit_or, Nat.shiftLeft_eq, Nat.one_mul,
      Nat.testBit_two_pow]
    have hiff : n % wordSize = m % wordSize ↔ m = n := by
      have hn := Nat.div_add_mod n wordSize
      have hm' := Nat.div_add_mod m wordSize
      constructor
      · intro hmod
        rw [← hn, ← hm', hm, hmod]
      · rintro rfl
        rfl
    rw [Bool.or_comm]
    congr 1
    exact decide_eq_decide.mpr hiff
  · rw [if_neg hm]
    have hne : m ≠ n := by
      rintro rfl
      exact hm rfl
    simp [hne]

/-- An insertion keeps the number of words. -/
@[simp] theorem size_insert (s : BitSet) (n : Nat) : (s.insert n).size = s.size := by
  unfold insert
  exact Array.size_modify

/-- The empty set contains nothing. -/
@[simp] theorem contains_empty (bound n : Nat) : (empty bound).contains n = false := by
  unfold empty contains
  rw [Array.getElem?_replicate]
  split <;> simp

/-- The numbers below a bound that a set does not contain. -/
def absent (s : BitSet) (bound : Nat) : Finset Nat :=
  (Finset.range bound).filter fun n => s.contains n = false

/-- The insertion of a new number takes one from the absent ones. -/
theorem card_absent_insert {s : BitSet} {n bound : Nat} (h : n / wordSize < s.size)
    (hn : n < bound) (hnew : s.contains n = false) :
    ((s.insert n).absent bound).card + 1 = (s.absent bound).card := by
  have herase : (s.insert n).absent bound = (s.absent bound).erase n := by
    ext m
    simp only [absent, Finset.mem_filter, Finset.mem_range, Finset.mem_erase, contains_insert h]
    by_cases hm : m = n <;> simp [hm]
  have hmem : n ∈ s.absent bound := by
    simp [absent, hn, hnew]
  rw [herase, Finset.card_erase_of_mem hmem]
  have := Finset.card_pos.mpr ⟨n, hmem⟩
  omega

end BitSet

section

variable (p : Program) (input : Array Char)

/-- A thread stands at an instruction of the program and at a place of the text. -/
def Thread.InBounds (t : Thread) : Prop :=
  t.inst < p.size ∧ t.place ≤ input.size

/-- No instruction leads out of the program. -/
def Program.Closed : Prop :=
  ∀ t : Thread, t.InBounds p input → ∀ next, t.step p input = .threads next →
    ∀ c ∈ next, c.InBounds p input

/-- One thread comes of another by running it for a number of instructions. -/
inductive Reaches : Thread → Thread → Prop
  /-- No instruction has been run. -/
  | refl (t : Thread) : Reaches t t
  /-- The first instruction has been run. -/
  | step {t c u : Thread} {next : List Thread} (h : t.step p input = .threads next)
    (hc : c ∈ next) (hu : Reaches c u) : Reaches t u

/-- A thread can still end a match. -/
def Thread.CanAccept (t : Thread) : Prop :=
  ∃ u, Reaches p input t u ∧ u.step p input = .accepted

/-- Everything a thread can remember at the end of a match, in the order of preference, and the
number of instructions it can run at most. Threads that can run in circles have no outcomes. -/
inductive Outcomes : Nat → Thread → List (List (Nat × Nat)) → Prop
  /-- The thread ends a match. -/
  | accepted {t : Thread} (h : t.step p input = .accepted) : Outcomes 0 t [t.saved]
  /-- The thread cannot go on. -/
  | dead {t : Thread} (h : t.step p input = .threads []) : Outcomes 0 t []
  /-- The thread goes on in one way. -/
  | one {t c : Thread} {n : Nat} {l : List (List (Nat × Nat))}
    (h : t.step p input = .threads [c]) (hc : Outcomes n c l) : Outcomes (n + 1) t l
  /-- The thread goes on in two ways. -/
  | two {t c d : Thread} {n m : Nat} {l k : List (List (Nat × Nat))}
    (h : t.step p input = .threads [c, d]) (hc : Outcomes n c l) (hd : Outcomes m d k) :
    Outcomes (Nat.max n m + 1) t (l ++ k)

end

section

variable {p : Program} {input : Array Char}

/-- Two threads stand at the same instruction and at the same place. -/
def Thread.Beside (t u : Thread) : Prop :=
  t.inst = u.inst ∧ t.place = u.place

/-- Where a thread goes on does not depend on what it remembers. -/
theorem Thread.step_beside (p : Program) (input : Array Char) {t u : Thread} (h : t.Beside u) :
    (t.step p input = .accepted ∧ u.step p input = .accepted) ∨
      ∃ next next', t.step p input = .threads next ∧ u.step p input = .threads next' ∧
        List.Forall₂ Thread.Beside next next' := by
  obtain ⟨hi, hp⟩ := h
  unfold Thread.step
  rw [hi, hp]
  cases p[u.inst]? with
  | none => exact .inr ⟨_, _, rfl, rfl, .nil⟩
  | some inst =>
    cases inst with
    | take s =>
      right
      cases input[u.place]? with
      | none => exact ⟨_, _, rfl, rfl, .nil⟩
      | some c =>
        dsimp only
        split
        · exact ⟨_, _, rfl, rfl, .cons ⟨rfl, rfl⟩ .nil⟩
        · exact ⟨_, _, rfl, rfl, .nil⟩
    | check l =>
      right
      dsimp only
      generalize l.holds (if u.place = 0 then none else input[u.place - 1]?) input[u.place]? = b
      cases b with
      | true => exact ⟨_, _, if_pos rfl, if_pos rfl, .cons ⟨rfl, rfl⟩ .nil⟩
      | false => exact ⟨_, _, if_neg Bool.false_ne_true, if_neg Bool.false_ne_true, .nil⟩
    | save slot => exact .inr ⟨_, _, rfl, rfl, .cons ⟨rfl, rfl⟩ .nil⟩
    | jump target => exact .inr ⟨_, _, rfl, rfl, .cons ⟨rfl, rfl⟩ .nil⟩
    | fork first second =>
      exact .inr ⟨_, _, rfl, rfl, .cons ⟨rfl, rfl⟩ (.cons ⟨rfl, rfl⟩ .nil)⟩
    | accept => exact .inl ⟨rfl, rfl⟩

/-- A thread goes on in at most two ways. -/
theorem Thread.length_step_le {t : Thread} {next : List Thread}
    (h : t.step p input = .threads next) : next.length ≤ 2 := by
  unfold Thread.step at h
  dsimp only at h
  repeat' split at h
  all_goals cases h
  all_goals simp

/-- Threads that stand beside one another have the same number of outcomes. -/
theorem Outcomes.beside {n : Nat} {t : Thread} {l : List (List (Nat × Nat))}
    (h : Outcomes p input n t l) {u : Thread} (hb : t.Beside u) :
    ∃ k, Outcomes p input n u k ∧ k.length = l.length := by
  induction h generalizing u with
  | accepted h =>
    rcases Thread.step_beside p input hb with ⟨-, hu⟩ | ⟨_, _, ht, -, -⟩
    · exact ⟨_, .accepted hu, rfl⟩
    · simp [h] at ht
  | dead h =>
    rcases Thread.step_beside p input hb with ⟨ht, -⟩ | ⟨_, _, ht, hu, hall⟩
    · simp [h] at ht
    · rw [h] at ht
      cases ht
      cases hall
      exact ⟨_, .dead hu, rfl⟩
  | one h hc ih =>
    rcases Thread.step_beside p input hb with ⟨ht, -⟩ | ⟨_, _, ht, hu, hall⟩
    · simp [h] at ht
    · rw [h] at ht
      cases ht
      obtain _ | ⟨hcb, hall⟩ := hall
      cases hall
      obtain ⟨k, hk, hlen⟩ := ih hcb
      exact ⟨k, .one hu hk, hlen⟩
  | two h hc hd ihc ihd =>
    rcases Thread.step_beside p input hb with ⟨ht, -⟩ | ⟨_, _, ht, hu, hall⟩
    · simp [h] at ht
    · rw [h] at ht
      cases ht
      obtain _ | ⟨hcb, hall⟩ := hall
      obtain _ | ⟨hdb, hall⟩ := hall
      cases hall
      obtain ⟨k, hk, hlen⟩ := ihc hcb
      obtain ⟨k', hk', hlen'⟩ := ihd hdb
      exact ⟨k ++ k', .two hu hk hk', by simp [hlen, hlen']⟩

/-- The outcomes of a thread are determined. -/
theorem Outcomes.unique {n m : Nat} {t : Thread} {l k : List (List (Nat × Nat))}
    (h : Outcomes p input n t l) (h' : Outcomes p input m t k) : n = m ∧ l = k := by
  induction h generalizing m k with
  | accepted h => cases h' <;> simp_all
  | dead h => cases h' <;> simp_all
  | one h hc ih =>
    cases h' with
    | one h2 hc2 =>
      rw [h] at h2
      cases h2
      obtain ⟨rfl, rfl⟩ := ih hc2
      exact ⟨rfl, rfl⟩
    | _ => simp_all
  | two h hc hd ihc ihd =>
    cases h' with
    | two h2 hc2 hd2 =>
      rw [h] at h2
      cases h2
      obtain ⟨rfl, rfl⟩ := ihc hc2
      obtain ⟨rfl, rfl⟩ := ihd hd2
      exact ⟨rfl, rfl⟩
    | _ => simp_all

/-- Of threads that stand beside one another one has outcomes if the other has, and their heights
are the same. -/
theorem Outcomes.beside_unique {n m : Nat} {t u : Thread} {l k : List (List (Nat × Nat))}
    (h : Outcomes p input n t l) (h' : Outcomes p input m u k) (hb : t.Beside u) :
    n = m ∧ l.length = k.length := by
  obtain ⟨k', hk', hlen⟩ := h.beside hb
  obtain ⟨rfl, rfl⟩ := hk'.unique h'
  exact ⟨rfl, hlen.symm⟩

end

section

variable {p : Program} {input : Array Char}

/-- The number of pairs of an instruction and a place. -/
def pairCount (p : Program) (input : Array Char) : Nat :=
  (input.size + 1) * p.size

/-- The number of a thread in bounds is below the number of pairs. -/
theorem Thread.InBounds.key_lt {t : Thread} (h : t.InBounds p input) :
    t.key p < pairCount p input := by
  obtain ⟨hi, hp⟩ := h
  unfold Thread.key pairCount
  calc t.place * p.size + t.inst < t.place * p.size + p.size := by omega
    _ = (t.place + 1) * p.size := by rw [Nat.add_mul, Nat.one_mul]
    _ ≤ (input.size + 1) * p.size := Nat.mul_le_mul_right _ (by omega)

/-- Threads in bounds with the same number stand beside one another. -/
theorem Thread.InBounds.beside_of_key_eq {t u : Thread} (ht : t.InBounds p input)
    (hu : u.InBounds p input) (h : t.key p = u.key p) : t.Beside u := by
  have hpos : 0 < p.size := by have := ht.1; omega
  unfold Thread.key at h
  constructor
  · have hmod := congrArg (· % p.size) h
    simpa [Nat.mul_add_mod_of_lt, Nat.mul_comm _ p.size, Nat.mod_eq_of_lt ht.1,
      Nat.mod_eq_of_lt hu.1] using hmod
  · have hdiv := congrArg (· / p.size) h
    simpa [Nat.mul_comm _ p.size, Nat.mul_add_div hpos, Nat.div_eq_of_lt ht.1,
      Nat.div_eq_of_lt hu.1] using hdiv

/-- A set of visited pairs with a bit for each pair. -/
def Roomy (p : Program) (input : Array Char) (v : BitSet) : Prop :=
  pairCount p input / BitSet.wordSize < v.size

/-- There is a bit for each thread in bounds. -/
theorem Roomy.div_lt {v : BitSet} (hv : Roomy p input v) {t : Thread} (ht : t.InBounds p input) :
    t.key p / BitSet.wordSize < v.size :=
  lt_of_le_of_lt (Nat.div_le_div_right ht.key_lt.le) hv

/-- Once the pair of a thread has been visited, so have it and the earlier ones. -/
theorem Roomy.contains_insert_iff {v : BitSet} (hv : Roomy p input v) {t : Thread}
    (ht : t.InBounds p input) {n : Nat} :
    (v.insert (t.key p)).contains n = true ↔ n = t.key p ∨ v.contains n = true := by
  rw [BitSet.contains_insert (hv.div_lt ht), Bool.or_eq_true, decide_eq_true_eq]

/-- An insertion leaves a bit for each pair. -/
theorem Roomy.insert {v : BitSet} (hv : Roomy p input v) (n : Nat) :
    Roomy p input (v.insert n) := by
  unfold Roomy
  rw [BitSet.size_insert]
  exact hv

/-- Fuel that suffices to run all threads of a stack and those that come of them: one for each
thread, two for each pair that has not been visited. -/
def Enough (p : Program) (input : Array Char) (fuel : Nat) (stack : List Thread) (v : BitSet) :
    Prop :=
  stack.length + 2 * (v.absent (pairCount p input)).card + 1 ≤ fuel

/-- Some fuel is always left. -/
theorem Enough.exists_succ {fuel : Nat} {stack : List Thread} {v : BitSet}
    (h : Enough p input fuel stack v) : ∃ n, fuel = n + 1 := by
  unfold Enough at h
  exact ⟨fuel - 1, by omega⟩

/-- Fuel suffices after a thread has been dropped. -/
theorem Enough.drop {fuel : Nat} {t : Thread} {rest : List Thread} {v : BitSet}
    (h : Enough p input (fuel + 1) (t :: rest) v) : Enough p input fuel rest v := by
  unfold Enough at h ⊢
  rw [List.length_cons] at h
  omega

/-- Fuel suffices after a thread at a new pair has been run. -/
theorem Enough.run {fuel : Nat} {t : Thread} {next rest : List Thread} {v : BitSet}
    (h : Enough p input (fuel + 1) (t :: rest) v) (hv : Roomy p input v)
    (ht : t.InBounds p input) (hnew : v.contains (t.key p) = false)
    (hstep : t.step p input = .threads next) :
    Enough p input fuel (next ++ rest) (v.insert (t.key p)) := by
  have hcard := BitSet.card_absent_insert (hv.div_lt ht) ht.key_lt hnew
  have hlen := Thread.length_step_le hstep
  unfold Enough at h ⊢
  rw [List.length_cons] at h
  rw [List.length_append]
  omega

end

end PathRouting.Regex
