import PathRouting.Proofs.Regex.Code

/-!
# The order of preference

The outcomes of a thread at the start of the code of an expression are the outcomes at its end, for
all ends of a match of the expression in the order of preference. All rounds without a bound have
to take something, as a thread runs in circles otherwise.
-/

namespace PathRouting.Regex

/-- A thread has outcomes, whatever their height. -/
def Yields (p : Program) (input : Array Char) (t : Thread) (l : List (List (Nat × Nat))) : Prop :=
  ∃ n, Outcomes p input n t l

/-- A thread at one instruction has the outcomes that threads at another instruction have at the
ends of a match, in their order. -/
def Delivers (p : Program) (input : Array Char) (ends : Spot → List Spot) (start finish : Nat) :
    Prop :=
  ∀ (x : Spot) (k : Spot → List (List (Nat × Nat))), x.place ≤ input.size →
    (∀ y ∈ ends x, Yields p input (y.thread finish) (k y)) →
    Yields p input (x.thread start) ((ends x).flatMap k)

section

variable {p : Program} {input : Array Char}

/-- A thread that goes on in one way has the outcomes of what it goes on as. -/
theorem Yields.one {t c : Thread} {l : List (List (Nat × Nat))}
    (h : t.step p input = .threads [c]) (hc : Yields p input c l) : Yields p input t l :=
  hc.imp' (· + 1) fun _ => Outcomes.one h

/-- A thread that goes on in two ways has the outcomes of both, the preferred ones first. -/
theorem Yields.two {t c d : Thread} {l k : List (List (Nat × Nat))}
    (h : t.step p input = .threads [c, d]) (hc : Yields p input c l) (hd : Yields p input d k) :
    Yields p input t (l ++ k) := by
  obtain ⟨n, hc⟩ := hc
  obtain ⟨m, hd⟩ := hd
  exact ⟨_, .two h hc hd⟩

/-- A branch into a body and past it. -/
theorem Yields.forkInto {greedy : Bool} {body past i : Nat} {x : Spot}
    {l k : List (List (Nat × Nat))} (h : p[i]? = some (forkInto greedy body past))
    (hbody : Yields p input (x.thread body) l) (hpast : Yields p input (x.thread past) k) :
    Yields p input (x.thread i) (if greedy then l ++ k else k ++ l) := by
  cases greedy with
  | true => exact .two (step_forkInto h x) hbody hpast
  | false => exact .two (step_forkInto h x) hpast hbody

/-- Two pieces of code one after the other. -/
theorem Delivers.trans {ends ends' : Spot → List Spot} {start middle finish : Nat}
    (h : Delivers p input ends start middle) (h' : Delivers p input ends' middle finish)
    (hle : ∀ x, x.place ≤ input.size → ∀ y ∈ ends x, y.place ≤ input.size) :
    Delivers p input (fun x => (ends x).flatMap ends') start finish := by
  intro x k hx hk
  rw [List.flatMap_assoc]
  refine h x _ hx fun y hy => h' y k (hle x hx y hy) fun z hz => hk z ?_
  exact List.mem_flatMap.mpr ⟨y, hy, hz⟩

/-- No instruction is run for nothing. -/
theorem Delivers.refl (start : Nat) : Delivers p input (fun x => [x]) start start := by
  intro x k _ hk
  rw [List.flatMap_singleton]
  exact hk x (List.mem_singleton_self x)

variable {ends : Spot → List Spot}

/-- The code of a number of rounds. -/
theorem delivers_rounds {code : Nat → List Inst} {size : Nat}
    (hlen : ∀ start, (code start).length = size)
    (h : ∀ start, Located p start (code start) → Delivers p input ends start (start + size))
    (hle : ∀ x, x.place ≤ input.size → ∀ y ∈ ends x, y.place ≤ input.size) {count start : Nat}
    (hloc : Located p start (rounds code size count start)) :
    Delivers p input (times ends count) start (start + count * size) := by
  induction count generalizing start with
  | zero =>
    rw [Nat.zero_mul, Nat.add_zero]
    exact Delivers.refl start
  | succ count ih =>
    obtain ⟨hfirst, hrest⟩ := hloc.rounds_succ hlen
    have h2 := ih hrest
    rw [Nat.succ_mul, Nat.add_comm _ size, ← Nat.add_assoc]
    exact (h start hfirst).trans h2 hle

/-- The code of a number of rounds each of which may be the last. -/
theorem delivers_optionalRounds {code : Nat → List Inst} {size : Nat}
    (hlen : ∀ start, (code start).length = size)
    (h : ∀ start, Located p start (code start) → Delivers p input ends start (start + size))
    (hle : ∀ x, x.place ≤ input.size → ∀ y ∈ ends x, y.place ≤ input.size) {greedy : Bool}
    {past count start : Nat} (hpast : past = start + count * (size + 1))
    (hloc : Located p start (optionalRounds greedy code size past count start)) :
    Delivers p input (upTo greedy ends count) start past := by
  induction count generalizing start with
  | zero =>
    obtain rfl : past = start := by simpa using hpast
    exact Delivers.refl _
  | succ count ih =>
    rw [Nat.succ_mul] at hpast
    obtain ⟨hfork, hbody, hrest⟩ := hloc.optionalRounds_succ hlen
    have hround := (h (start + 1) hbody).trans (ih (by omega) hrest) hle
    intro x k hx hk
    have hmem : ∀ y, y ∈ upTo greedy ends (count + 1) x ↔
        y ∈ (ends x).flatMap (upTo greedy ends count) ∨ y = x := by
      intro y
      cases greedy <;> simp [upTo, or_comm]
    have h1 := hround x k hx fun y hy => hk y ((hmem y).mpr (.inl hy))
    have h2 := hk x ((hmem x).mpr (.inr rfl))
    have hall := Yields.forkInto hfork h1 h2
    cases greedy <;> simpa [upTo] using hall

/-- All ends of any number of rounds. -/
def anyNumber (input : Array Char) (greedy : Bool) (ends : Spot → List Spot) (x : Spot) :
    List Spot :=
  upTo greedy ends (input.size - x.place) x

/-- Any number of rounds is one round and then any number of them, or none. -/
theorem anyNumber_eq (greedy : Bool)
    (hends : ∀ x, ∀ y ∈ ends x, x.place < y.place ∧
      (x.place ≤ input.size → y.place ≤ input.size)) {x : Spot} (hx : x.place ≤ input.size) :
    anyNumber input greedy ends x =
      if greedy then (ends x).flatMap (anyNumber input greedy ends) ++ [x]
      else x :: (ends x).flatMap (anyNumber input greedy ends) := by
  have hcongr : (ends x).flatMap (upTo greedy ends (input.size - x.place)) =
      (ends x).flatMap (anyNumber input greedy ends) := by
    refine List.flatMap_congr fun y hy => ?_
    obtain ⟨hlt, hle⟩ := hends x y hy
    exact upTo_eq_of_le hends (hle hx) (by omega) le_rfl
  rw [← hcongr, anyNumber, upTo_eq_of_le hends hx le_rfl (Nat.le_succ _), upTo]

/-- The code of a body that takes something, followed by a way back to the body and a way past
it. -/
theorem delivers_again {greedy : Bool} {body tail past : Nat}
    (hbody : Delivers p input ends body tail)
    (htail : ∀ (x : Spot) (l k : List (List (Nat × Nat))), Yields p input (x.thread body) l →
      Yields p input (x.thread past) k →
      Yields p input (x.thread tail) (if greedy then l ++ k else k ++ l))
    (hends : ∀ x, ∀ y ∈ ends x, x.place < y.place ∧
      (x.place ≤ input.size → y.place ≤ input.size)) :
    Delivers p input (fun x => (ends x).flatMap (anyNumber input greedy ends)) body past := by
  intro x
  induction hleft : input.size - x.place using Nat.strong_induction_on generalizing x with
  | _ left ih =>
    intro k hx hk
    rw [List.flatMap_assoc]
    refine hbody x _ hx fun y hy => ?_
    obtain ⟨hlt, hle⟩ := hends x y hy
    have hsub : ∀ z ∈ anyNumber input greedy ends y, Yields p input (z.thread past) (k z) :=
      fun z hz => hk z (List.mem_flatMap.mpr ⟨y, hy, hz⟩)
    have heq := anyNumber_eq greedy hends (hle hx)
    have hmem : ∀ z, z ∈ anyNumber input greedy ends y ↔
        z ∈ (ends y).flatMap (anyNumber input greedy ends) ∨ z = y := by
      intro z
      rw [heq]
      cases greedy <;> simp [or_comm]
    have hleft' : input.size - y.place < left := by have := hle hx; omega
    have hagain := ih _ hleft' y rfl k (hle hx) fun z hz => hsub z ((hmem z).mpr (.inl hz))
    have hall := htail y _ _ hagain (hsub y ((hmem y).mpr (.inr rfl)))
    rw [heq]
    cases greedy <;> simpa using hall

/-- The last of a number of steps in a row may be told apart as well as the first. -/
theorem times_succ (ends : Spot → List Spot) (n : Nat) (x : Spot) :
    times ends (n + 1) x = (times ends n x).flatMap ends := by
  induction n generalizing x with
  | zero => simp [times]
  | succ n ih =>
    rw [times, times, List.flatMap_assoc]
    exact List.flatMap_congr fun y _ => ih y

end

section

variable {p : Program} {input : Array Char}

/-- A thread that cannot go on has no outcomes. -/
theorem Yields.dead {t : Thread} (h : t.step p input = .threads []) : Yields p input t [] :=
  ⟨0, .dead h⟩

/-- The ends of an expression stay within the text. -/
theorem Expr.place_le_size_of_mem_ends {e : Expr} {x : Spot} (hx : x.place ≤ input.size) :
    ∀ y ∈ e.ends input x, y.place ≤ input.size :=
  fun _ hy => (run_of_mem_ends hy).place_le_size hx

/-- The ends of an expression that consumes are further on. -/
theorem Expr.consumes_ends {e : Expr} (he : e.consumes = true) (x : Spot) :
    ∀ y ∈ e.ends input x, x.place < y.place ∧ (x.place ≤ input.size → y.place ≤ input.size) :=
  fun _ hy => ⟨(run_of_mem_ends hy).place_lt he, (run_of_mem_ends hy).place_le_size⟩

/-- The ends of rounds of an expression stay within the text. -/
theorem place_le_size_of_mem_times {e : Expr} {count : Nat} {x : Spot} (hx : x.place ≤ input.size) :
    ∀ y ∈ times (e.ends input) count x, y.place ≤ input.size :=
  fun _ hy => (rounds_of_mem_times (fun _ _ => Expr.run_of_mem_ends) hy).keeps
    (r := fun x y => x.place ≤ input.size → y.place ≤ input.size) (fun _ => id)
    (fun _ _ _ h1 h2 h => h2 (h1 h)) (fun _ _ h => h.place_le_size) hx

/-- The code of two alternatives. -/
theorem delivers_alt {a b : Expr}
    (iha : ∀ {start : Nat}, Located p start (a.code start) →
      Delivers p input (a.ends input) start (start + a.size))
    (ihb : ∀ {start : Nat}, Located p start (b.code start) →
      Delivers p input (b.ends input) start (start + b.size))
    {start : Nat} (hloc : Located p start ((Expr.alt a b).code start)) :
    Delivers p input ((Expr.alt a b).ends input) start (start + (Expr.alt a b).size) := by
  obtain ⟨hfork, hla, hjump, hlb⟩ := hloc.alt
  dsimp only [Expr.size]
  intro x k hx hk
  have hfinish : start + (a.size + b.size + 2) = start + a.size + b.size + 2 := by omega
  rw [hfinish] at hk
  have hleft : Yields p input (x.thread (start + 1)) ((a.ends input x).flatMap k) :=
    iha hla x k hx fun y hy =>
      .one (step_jump hjump y) (hk y (List.mem_append_left _ hy))
  have hright : Yields p input (x.thread (start + a.size + 2)) ((b.ends input x).flatMap k) := by
    refine ihb hlb x k hx fun y hy => ?_
    have hfinish' : start + a.size + 2 + b.size = start + a.size + b.size + 2 := by omega
    rw [hfinish']
    exact hk y (List.mem_append_right _ hy)
  have hall := Yields.two (step_fork hfork x) hleft hright
  rwa [← List.flatMap_append] at hall

section Loops

variable {e : Expr} {start : Nat} {greedy : Bool}
  (ih : ∀ {start : Nat}, Located p start (e.code start) →
    Delivers p input (e.ends input) start (start + e.size))

include ih

/-- The code of a loop with a last round. -/
theorem delivers_loop_some {min max : Nat}
    (hloc : Located p start ((Expr.loop min (some max) greedy e).code start)) :
    Delivers p input ((Expr.loop min (some max) greedy e).ends input) start
      (start + (Expr.loop min (some max) greedy e).size) := by
  obtain ⟨hmin, hopt⟩ := hloc.loop_some
  dsimp only [Expr.size]
  have h1 := delivers_rounds e.length_code (fun _ => ih)
    (fun _ => Expr.place_le_size_of_mem_ends) hmin
  have h2 := delivers_optionalRounds e.length_code (fun _ => ih)
    (fun _ => Expr.place_le_size_of_mem_ends) rfl hopt
  rw [Nat.add_assoc] at h2
  exact h1.trans h2 fun _ => place_le_size_of_mem_times

/-- The code of a loop that may be passed by. -/
theorem delivers_loop_zero (he : e.consumes = true)
    (hloc : Located p start ((Expr.loop 0 none greedy e).code start)) :
    Delivers p input ((Expr.loop 0 none greedy e).ends input) start
      (start + (Expr.loop 0 none greedy e).size) := by
  obtain ⟨hfork, hbody, htail⟩ := hloc.loop_zero
  rw [if_pos he] at htail
  have hends : ∀ x, ∀ y ∈ e.ends input x,
      x.place < y.place ∧ (x.place ≤ input.size → y.place ≤ input.size) :=
    Expr.consumes_ends he
  have hagain : Delivers p input (fun x => (e.ends input x).flatMap
      (anyNumber input greedy (e.ends input))) (start + 1) (start + e.size + 2) :=
    delivers_again (ih hbody)
      (fun x l k hl hk => .one (step_jump htail x) (.forkInto hfork hl hk)) hends
  intro x k hx hk
  have heq : (Expr.loop 0 none greedy e).ends input x =
      anyNumber input greedy (e.ends input) x :=
    List.flatMap_singleton _ _
  rw [heq, anyNumber_eq greedy hends hx] at hk ⊢
  have hmem : ∀ y, y ∈ (e.ends input x).flatMap (anyNumber input greedy (e.ends input)) ∨
      y = x → Yields p input (y.thread (start + (e.size + 2))) (k y) := by
    intro y hy
    apply hk
    cases greedy <;> simpa [or_comm] using hy
  have h1 := hagain x k hx fun y hy => hmem y (.inl hy)
  have h2 := hmem x (.inr rfl)
  have hall := Yields.forkInto hfork h1 h2
  cases greedy <;> simpa using hall

/-- The code of a loop without a last round, after whose first rounds it branches. -/
theorem delivers_loop_succ {min : Nat} (he : e.consumes = true)
    (hloc : Located p start ((Expr.loop (min + 1) none greedy e).code start)) :
    Delivers p input ((Expr.loop (min + 1) none greedy e).ends input) start
      (start + (Expr.loop (min + 1) none greedy e).size) := by
  obtain ⟨hrounds, hbody, htail⟩ := hloc.loop_succ
  have h1 := delivers_rounds e.length_code (fun _ => ih)
    (fun _ => Expr.place_le_size_of_mem_ends) hrounds
  have h2 := delivers_again (ih hbody) (fun x l k => Yields.forkInto htail)
    (Expr.consumes_ends he)
  have hall := h1.trans h2 fun _ => place_le_size_of_mem_times
  intro x k hx hk
  have heq : (Expr.loop (min + 1) none greedy e).ends input x =
      (times (e.ends input) min x).flatMap fun y =>
        (e.ends input y).flatMap (anyNumber input greedy (e.ends input)) := by
    rw [← List.flatMap_assoc, ← times_succ]
    rfl
  have hfinish : start + (Expr.loop (min + 1) none greedy e).size =
      start + min * e.size + e.size + 1 := by
    dsimp only [Expr.size]
    rw [if_neg (Nat.succ_ne_zero min), Nat.succ_mul]
    omega
  rw [hfinish] at hk
  rw [heq] at hk ⊢
  exact hall x k hx hk

/-- The code of a group. -/
theorem delivers_group {index : Nat}
    (hloc : Located p start ((Expr.group index e).code start)) :
    Delivers p input ((Expr.group index e).ends input) start
      (start + (Expr.group index e).size) := by
  obtain ⟨hopen, hbody, hclose⟩ := hloc.group
  intro x k hx hk
  refine .one (step_save hopen x) ?_
  unfold Expr.ends at hk ⊢
  rw [List.flatMap_map]
  refine ih hbody _ _ hx fun y hy => .one (step_save hclose y) ?_
  have hfinish : start + 1 + e.size + 1 = start + (e.size + 2) := by omega
  rw [hfinish]
  exact hk _ (List.mem_map_of_mem hy)

end Loops

/-- The code of an expression delivers its ends. -/
theorem Expr.delivers (e : Expr) (he : e.progressive = true) {start : Nat}
    (hloc : Located p start (e.code start)) :
    Delivers p input (e.ends input) start (start + e.size) := by
  induction e generalizing start with
  | empty => exact Delivers.refl start
  | set s =>
    intro x k hx hk
    have hstep : (x.thread start).step p input = _ :=
      step_take (Located.cons_iff.mp hloc).1 x
    rw [ends] at hk ⊢
    cases hc : input[x.place]? with
    | none =>
      rw [hc] at hstep
      exact .dead hstep
    | some c =>
      rw [hc] at hstep hk
      dsimp only at hstep hk ⊢
      by_cases hcont : s.contains c = true
      · rw [if_pos hcont] at hstep hk ⊢
        rw [List.flatMap_singleton]
        exact .one hstep (hk _ (List.mem_singleton_self _))
      · rw [if_neg hcont] at hstep ⊢
        exact .dead hstep
  | look l =>
    intro x k hx hk
    have hstep : (x.thread start).step p input = _ :=
      step_check (Located.cons_iff.mp hloc).1 x
    rw [ends] at hk ⊢
    by_cases hl : l.holdsAt input x.place = true
    · rw [if_pos hl] at hstep hk ⊢
      rw [List.flatMap_singleton]
      exact .one hstep (hk _ (List.mem_singleton_self _))
    · rw [if_neg hl] at hstep ⊢
      exact .dead hstep
  | seq a b iha ihb =>
    obtain ⟨ha, hb⟩ := (Bool.and_eq_true _ _).mp he
    obtain ⟨hla, hlb⟩ := Located.append_iff.mp hloc
    rw [a.length_code] at hlb
    have h2 := ihb hb hlb
    rw [Nat.add_assoc] at h2
    exact (iha ha hla).trans h2 fun _ => place_le_size_of_mem_ends
  | alt a b iha ihb =>
    obtain ⟨ha, hb⟩ := (Bool.and_eq_true _ _).mp he
    exact delivers_alt (iha ha) (ihb hb) hloc
  | loop min max greedy e ih =>
    obtain ⟨hbody, hmax⟩ := (Bool.and_eq_true _ _).mp he
    cases max with
    | some max => exact delivers_loop_some (ih hbody) hloc
    | none =>
      have hconsumes : e.consumes = true := by simpa using hmax
      cases min with
      | zero => exact delivers_loop_zero (ih hbody) hconsumes hloc
      | succ min => exact delivers_loop_succ (ih hbody) hconsumes hloc
  | group index e ih => exact delivers_group (ih he) hloc

/-- The code of a row of expressions delivers its ends. -/
theorem delivers_codeAll (es : List Expr) (h : ∀ e ∈ es, e.progressive = true) {start : Nat}
    (hloc : Located p start (codeAll es start)) :
    Delivers p input (endsAll input es) start (start + sizeAll es) := by
  induction es generalizing start with
  | nil => exact Delivers.refl start
  | cons e rest ih =>
    obtain ⟨hfirst, hrest⟩ := Located.append_iff.mp hloc
    rw [e.length_code] at hrest
    have h2 := ih (fun d hd => h d (List.mem_cons_of_mem e hd)) hrest
    rw [Nat.add_assoc] at h2
    exact (e.delivers (h e List.mem_cons_self) hfirst).trans h2
      fun _ => Expr.place_le_size_of_mem_ends

end

end PathRouting.Regex
