import Mathlib.Data.List.Basic
import Mathlib.Data.Nat.Basic
import Mathlib.Tactic.Common
import PathRouting.Regex.Search

/-!
# What an expression matches

Two readings of an expression, neither of which knows about programs. As a relation it says between
which places of a text it can be matched, and what is remembered on the way. As a list it gives all
ends of a match in the order of preference; this needs rounds without a bound to take something.
The relation is what holds of every expression, the list is what decides between several matches.
-/

namespace PathRouting.Regex

/-- A place of a text with the places that have been remembered. -/
structure Spot where
  /-- The number of characters before the place. -/
  place : Nat
  /-- The places that have been remembered with their numbers, last one first. -/
  saved : List (Nat × Nat)

namespace Spot

/-- The place behind the next character. -/
def advance (x : Spot) : Spot :=
  { x with place := x.place + 1 }

/-- Remembers the place under a number. -/
def remember (x : Spot) (slot : Nat) : Spot :=
  { x with saved := (slot, x.place) :: x.saved }

/-- The thread at a spot that runs a given instruction next. -/
def thread (x : Spot) (inst : Nat) : Thread :=
  ⟨inst, x.place, x.saved⟩

end Spot

/-- Whether a condition holds at a place of a text. -/
def Look.holdsAt (l : Look) (input : Array Char) (place : Nat) : Bool :=
  l.holds (if place = 0 then none else input[place - 1]?) input[place]?

/-- A number of steps in a row. -/
def Rounds (step : Spot → Spot → Prop) : Nat → Spot → Spot → Prop
  | 0, x, y => y = x
  | n + 1, x, y => ∃ z, step x z ∧ Rounds step n z y

/-- All ends of a number of steps in a row, in the order of preference. -/
def times (ends : Spot → List Spot) : Nat → Spot → List Spot
  | 0, x => [x]
  | n + 1, x => (ends x).flatMap (times ends n)

/-- All ends of up to a number of steps in a row, in the order of preference: one more step comes
first if the repetition is greedy. -/
def upTo (greedy : Bool) (ends : Spot → List Spot) : Nat → Spot → List Spot
  | 0, x => [x]
  | n + 1, x =>
    if greedy then (ends x).flatMap (upTo greedy ends n) ++ [x]
    else x :: (ends x).flatMap (upTo greedy ends n)

namespace Expr

/-- An expression can be matched from one spot to another. -/
def Run (input : Array Char) : Expr → Spot → Spot → Prop
  | empty, x, y => y = x
  | set s, x, y => ∃ c, input[x.place]? = some c ∧ s.contains c = true ∧ y = x.advance
  | look l, x, y => l.holdsAt input x.place = true ∧ y = x
  | seq a b, x, y => ∃ z, a.Run input x z ∧ b.Run input z y
  | alt a b, x, y => a.Run input x y ∨ b.Run input x y
  | loop min max _ e, x, y =>
    ∃ n, min ≤ n ∧ (∀ m ∈ max, n ≤ min + (m - min)) ∧ Rounds (e.Run input) n x y
  | group index e, x, y =>
    ∃ z, e.Run input (x.remember (2 * index)) z ∧ y = z.remember (2 * index + 1)

/-- All ends of a match of an expression from a spot, in the order of preference. -/
def ends (input : Array Char) : Expr → Spot → List Spot
  | empty, x => [x]
  | set s, x =>
    match input[x.place]? with
    | some c => if s.contains c then [x.advance] else []
    | none => []
  | look l, x => if l.holdsAt input x.place then [x] else []
  | seq a b, x => (a.ends input x).flatMap (b.ends input)
  | alt a b, x => a.ends input x ++ b.ends input x
  | loop min max greedy e, x =>
    (times (e.ends input) min x).flatMap fun y =>
      match max with
      | some max => upTo greedy (e.ends input) (max - min) y
      | none => upTo greedy (e.ends input) (input.size - y.place) y
  | group index e, x =>
    (e.ends input (x.remember (2 * index))).map (·.remember (2 * index + 1))

/-- All rounds without a bound take something. -/
def progressive : Expr → Bool
  | empty => true
  | set _ => true
  | look _ => true
  | seq a b => a.progressive && b.progressive
  | alt a b => a.progressive && b.progressive
  | loop _ max _ e => e.progressive && (max.isSome || e.consumes)
  | group _ e => e.progressive

/-- The numbers of the groups of an expression. -/
def groups : Expr → List Nat
  | empty => []
  | set _ => []
  | look _ => []
  | seq a b => a.groups ++ b.groups
  | alt a b => a.groups ++ b.groups
  | loop _ _ _ e => e.groups
  | group index e => index :: e.groups

end Expr

/-- The ends of a row of expressions matched in turn. -/
def endsAll (input : Array Char) : List Expr → Spot → List Spot
  | [], x => [x]
  | e :: rest, x => (e.ends input x).flatMap (endsAll input rest)

/-- A row of expressions can be matched in turn from one spot to another. -/
def RunAll (input : Array Char) : List Expr → Spot → Spot → Prop
  | [], x, y => y = x
  | e :: rest, x, y => ∃ z, e.Run input x z ∧ RunAll input rest z y

section

variable {input : Array Char}

/-- Steps in a row keep a relation that every step keeps. -/
theorem Rounds.keeps {step : Spot → Spot → Prop} {r : Spot → Spot → Prop}
    (hrefl : ∀ x, r x x) (htrans : ∀ x y z, r x y → r y z → r x z)
    (hstep : ∀ x y, step x y → r x y) {n : Nat} {x y : Spot} (h : Rounds step n x y) : r x y := by
  induction n generalizing x with
  | zero =>
    obtain rfl := h
    exact hrefl _
  | succ n ih =>
    obtain ⟨z, hz, h⟩ := h
    exact htrans x z y (hstep x z hz) (ih h)

/-- Steps in a row can be split. -/
theorem Rounds.add {step : Spot → Spot → Prop} {n m : Nat} {x y z : Spot}
    (h : Rounds step n x y) (h' : Rounds step m y z) : Rounds step (n + m) x z := by
  induction n generalizing x with
  | zero =>
    obtain rfl := h
    rwa [Nat.zero_add]
  | succ n ih =>
    obtain ⟨w, hw, h⟩ := h
    rw [Nat.add_right_comm]
    exact ⟨w, hw, ih h⟩

/-- A match goes to the right. -/
theorem Expr.Run.place_le {e : Expr} {x y : Spot} (h : e.Run input x y) : x.place ≤ y.place := by
  induction e generalizing x y with
  | empty => exact Nat.le_of_eq (congrArg Spot.place h).symm
  | set s =>
    obtain ⟨c, -, -, rfl⟩ := h
    exact Nat.le_succ _
  | look l => exact Nat.le_of_eq (congrArg Spot.place h.2).symm
  | seq a b iha ihb =>
    obtain ⟨z, hz, h⟩ := h
    exact le_trans (iha hz) (ihb h)
  | alt a b iha ihb => exact h.elim iha ihb
  | loop min max greedy e ih =>
    obtain ⟨n, -, -, h⟩ := h
    exact h.keeps (r := fun x y => x.place ≤ y.place) (fun _ => le_rfl) (fun _ _ _ => le_trans) fun _ _ => ih
  | group index e ih =>
    obtain ⟨z, hz, rfl⟩ := h
    have hle := ih hz
    exact hle

/-- A match stays within the text. -/
theorem Expr.Run.place_le_size {e : Expr} {x y : Spot} (h : e.Run input x y)
    (hx : x.place ≤ input.size) : y.place ≤ input.size := by
  induction e generalizing x y with
  | empty => exact le_trans (Nat.le_of_eq (congrArg Spot.place h)) hx
  | set s =>
    obtain ⟨c, hc, -, rfl⟩ := h
    obtain ⟨hlt, -⟩ := Array.getElem?_eq_some_iff.mp hc
    exact hlt
  | look l => exact le_trans (Nat.le_of_eq (congrArg Spot.place h.2)) hx
  | seq a b iha ihb =>
    obtain ⟨z, hz, h⟩ := h
    exact ihb h (iha hz hx)
  | alt a b iha ihb => exact h.elim (iha · hx) (ihb · hx)
  | loop min max greedy e ih =>
    obtain ⟨n, -, -, h⟩ := h
    exact h.keeps (r := fun x y => x.place ≤ input.size → y.place ≤ input.size) (fun _ => id)
      (fun _ _ _ h1 h2 h => h2 (h1 h)) (fun _ _ h hx => ih h hx) hx
  | group index e ih =>
    obtain ⟨z, hz, rfl⟩ := h
    have hle := ih hz hx
    exact hle

/-- A match of an expression that consumes takes something. -/
theorem Expr.Run.place_lt {e : Expr} {x y : Spot} (h : e.Run input x y) (he : e.consumes = true) :
    x.place < y.place := by
  induction e generalizing x y with
  | empty => exact absurd he Bool.false_ne_true
  | set s =>
    obtain ⟨c, -, -, rfl⟩ := h
    exact Nat.lt_succ_self _
  | look l => exact absurd he Bool.false_ne_true
  | seq a b iha ihb =>
    obtain ⟨z, hz, h⟩ := h
    rcases (Bool.or_eq_true _ _).mp he with ha | hb
    · exact lt_of_lt_of_le (iha hz ha) h.place_le
    · exact lt_of_le_of_lt hz.place_le (ihb h hb)
  | alt a b iha ihb =>
    obtain ⟨ha, hb⟩ := (Bool.and_eq_true _ _).mp he
    exact h.elim (iha · ha) (ihb · hb)
  | loop min max greedy e ih =>
    obtain ⟨n, hn, -, h⟩ := h
    obtain ⟨hmin, he⟩ := (Bool.and_eq_true _ _).mp he
    obtain ⟨n, rfl⟩ : ∃ m, n = m + 1 := ⟨n - 1, by have := bne_iff_ne.mp hmin; omega⟩
    obtain ⟨z, hz, h⟩ := h
    exact lt_of_lt_of_le (ih hz he)
      (h.keeps (r := fun x y => x.place ≤ y.place) (fun _ => le_rfl) (fun _ _ _ => le_trans) fun _ _ => Run.place_le)
  | group index e ih =>
    obtain ⟨z, hz, rfl⟩ := h
    have hlt := ih hz he
    exact hlt

/-- A match only adds to what is remembered, under the numbers of its groups. -/
theorem Expr.Run.saved_eq {e : Expr} {x y : Spot} (h : e.Run input x y) :
    ∃ new, y.saved = new ++ x.saved ∧ ∀ entry ∈ new, entry.1 / 2 ∈ e.groups := by
  induction e generalizing x y with
  | empty =>
    obtain rfl := h
    exact ⟨[], rfl, by simp⟩
  | set s =>
    obtain ⟨c, -, -, rfl⟩ := h
    exact ⟨[], rfl, by simp⟩
  | look l =>
    obtain ⟨-, rfl⟩ := h
    exact ⟨[], rfl, by simp⟩
  | seq a b iha ihb =>
    obtain ⟨z, hz, h⟩ := h
    obtain ⟨new, hnew, hin⟩ := iha hz
    obtain ⟨new', hnew', hin'⟩ := ihb h
    refine ⟨new' ++ new, by rw [hnew', hnew, List.append_assoc], fun entry hentry => ?_⟩
    rcases List.mem_append.mp hentry with hentry | hentry
    · exact List.mem_append_right _ (hin' entry hentry)
    · exact List.mem_append_left _ (hin entry hentry)
  | alt a b iha ihb =>
    rcases h with h | h
    · obtain ⟨new, hnew, hin⟩ := iha h
      exact ⟨new, hnew, fun entry hentry => List.mem_append_left _ (hin entry hentry)⟩
    · obtain ⟨new, hnew, hin⟩ := ihb h
      exact ⟨new, hnew, fun entry hentry => List.mem_append_right _ (hin entry hentry)⟩
  | loop min max greedy e ih =>
    obtain ⟨n, -, -, h⟩ := h
    refine h.keeps
      (r := fun x y => ∃ new, y.saved = new ++ x.saved ∧ ∀ entry ∈ new, entry.1 / 2 ∈ e.groups)
      (fun _ => ⟨[], rfl, by simp⟩) ?_ fun _ _ => ih
    rintro x y z ⟨new, hnew, hin⟩ ⟨new', hnew', hin'⟩
    refine ⟨new' ++ new, by rw [hnew', hnew, List.append_assoc], fun entry hentry => ?_⟩
    rcases List.mem_append.mp hentry with hentry | hentry
    · exact hin' entry hentry
    · exact hin entry hentry
  | group index e ih =>
    obtain ⟨z, hz, rfl⟩ := h
    obtain ⟨new, hnew, hin⟩ := ih hz
    refine ⟨(2 * index + 1, z.place) :: new ++ [(2 * index, x.place)], ?_, fun entry hentry => ?_⟩
    · simp [Spot.remember, hnew]
    · simp only [List.mem_append, List.mem_cons, List.not_mem_nil, or_false] at hentry
      rcases hentry with (rfl | hentry) | rfl
      · exact List.mem_cons.mpr (.inl (by dsimp only; omega))
      · exact List.mem_cons_of_mem _ (hin entry hentry)
      · exact List.mem_cons.mpr (.inl (by dsimp only; omega))

/-- An end of steps in a row is reached by that many steps. -/
theorem rounds_of_mem_times {step : Spot → Spot → Prop} {ends : Spot → List Spot}
    (h : ∀ x, ∀ y ∈ ends x, step x y) {n : Nat} {x y : Spot} (hy : y ∈ times ends n x) :
    Rounds step n x y := by
  induction n generalizing x with
  | zero => exact List.mem_singleton.mp hy
  | succ n ih =>
    obtain ⟨z, hz, hy⟩ := List.mem_flatMap.mp hy
    exact ⟨z, h x z hz, ih hy⟩

/-- An end of up to a number of steps in a row is reached by no more steps. -/
theorem rounds_of_mem_upTo {step : Spot → Spot → Prop} {ends : Spot → List Spot}
    (h : ∀ x, ∀ y ∈ ends x, step x y) {greedy : Bool} {n : Nat} {x y : Spot}
    (hy : y ∈ upTo greedy ends n x) : ∃ m ≤ n, Rounds step m x y := by
  induction n generalizing x with
  | zero => exact ⟨0, le_rfl, List.mem_singleton.mp hy⟩
  | succ n ih =>
    have hcases : y = x ∨ ∃ z ∈ ends x, y ∈ upTo greedy ends n z := by
      unfold upTo at hy
      split at hy
      · rcases List.mem_append.mp hy with hy | hy
        · exact .inr (List.mem_flatMap.mp hy)
        · exact .inl (List.mem_singleton.mp hy)
      · rcases List.mem_cons.mp hy with hy | hy
        · exact .inl hy
        · exact .inr (List.mem_flatMap.mp hy)
    rcases hcases with rfl | ⟨z, hz, hy⟩
    · exact ⟨0, Nat.zero_le _, rfl⟩
    · obtain ⟨m, hm, hrounds⟩ := ih hy
      exact ⟨m + 1, by omega, z, h x z hz, hrounds⟩

/-- An end of a match is reached by a match. -/
theorem Expr.run_of_mem_ends {e : Expr} {x y : Spot} (h : y ∈ e.ends input x) :
    e.Run input x y := by
  induction e generalizing x y with
  | empty => exact List.mem_singleton.mp h
  | set s =>
    unfold ends at h
    split at h
    · rename_i c hc
      split at h
      · rename_i hcont
        exact ⟨c, hc, hcont, List.mem_singleton.mp h⟩
      · exact absurd h List.not_mem_nil
    · exact absurd h List.not_mem_nil
  | look l =>
    unfold ends at h
    split at h
    · rename_i hl
      exact ⟨hl, List.mem_singleton.mp h⟩
    · exact absurd h List.not_mem_nil
  | seq a b iha ihb =>
    obtain ⟨z, hz, h⟩ := List.mem_flatMap.mp h
    exact ⟨z, iha hz, ihb h⟩
  | alt a b iha ihb =>
    rcases List.mem_append.mp h with h | h
    · exact .inl (iha h)
    · exact .inr (ihb h)
  | loop min max greedy e ih =>
    obtain ⟨z, hz, h⟩ := List.mem_flatMap.mp h
    have hmin := rounds_of_mem_times (fun _ _ => ih) hz
    cases max with
    | some max =>
      obtain ⟨m, hm, h⟩ := rounds_of_mem_upTo (fun _ _ => ih) h
      refine ⟨min + m, by omega, ?_, hmin.add h⟩
      rintro _ ⟨⟩
      omega
    | none =>
      obtain ⟨m, -, h⟩ := rounds_of_mem_upTo (fun _ _ => ih) h
      exact ⟨min + m, by omega, by simp, hmin.add h⟩
  | group index e ih =>
    obtain ⟨z, hz, rfl⟩ := List.mem_map.mp h
    exact ⟨z, ih hz, rfl⟩

/-- More steps than there are characters left add nothing if each step takes something. -/
theorem upTo_eq_of_le {greedy : Bool} {ends : Spot → List Spot} {size : Nat}
    (h : ∀ x, ∀ y ∈ ends x, x.place < y.place ∧ (x.place ≤ size → y.place ≤ size)) {n m : Nat}
    {x : Spot} (hx : x.place ≤ size) (hn : size - x.place ≤ n) (hm : size - x.place ≤ m) :
    upTo greedy ends n x = upTo greedy ends m x := by
  induction n generalizing m x with
  | zero =>
    have hnil : ends x = [] := by
      refine List.eq_nil_iff_forall_not_mem.mpr fun y hy => ?_
      have := h x y hy
      omega
    cases m with
    | zero => rfl
    | succ m => simp [upTo, hnil]
  | succ n ih =>
    cases m with
    | zero =>
      have hnil : ends x = [] := by
        refine List.eq_nil_iff_forall_not_mem.mpr fun y hy => ?_
        have := h x y hy
        omega
      simp [upTo, hnil]
    | succ m =>
      have hcongr : (ends x).flatMap (upTo greedy ends n) =
          (ends x).flatMap (upTo greedy ends m) := by
        refine List.flatMap_congr fun y hy => ?_
        obtain ⟨hlt, hle⟩ := h x y hy
        exact ih (hle hx) (by omega) (by omega)
      unfold upTo
      rw [hcongr]

/-- A match of a row stays within the text. -/
theorem RunAll.place_le_size {es : List Expr} {x y : Spot} (h : RunAll input es x y)
    (hx : x.place ≤ input.size) : y.place ≤ input.size := by
  induction es generalizing x with
  | nil =>
    obtain rfl := h
    exact hx
  | cons e rest ih =>
    obtain ⟨z, hz, h⟩ := h
    exact ih h (hz.place_le_size hx)

end

end PathRouting.Regex
