import PathRouting.Proofs.Regex.Search
import PathRouting.Proofs.Regex.Semantics

/-!
# The code of an expression

What a thread does in the code of an expression is what the expression matches. If it gets to some
instruction outside of the code, it has gone through the end of the code and has matched the
expression on the way. If all rounds take something, the outcomes of a thread at the start of the
code are those at its end, for all ends of a match in the order of preference.
-/

namespace PathRouting.Regex

/-- A row of instructions stands in a program from a given instruction on. -/
def Located (p : Program) (start : Nat) (code : List Inst) : Prop :=
  ∀ k inst, code[k]? = some inst → p[start + k]? = some inst

/-- The code of a row of expressions. -/
def codeAll : List Expr → Nat → List Inst
  | [], _ => []
  | e :: rest, start => e.code start ++ codeAll rest (start + e.size)

/-- The length of the code of a row of expressions. -/
def sizeAll (es : List Expr) : Nat :=
  es.foldr (fun e length => e.size + length) 0

section

variable {p : Program} {start : Nat}

/-- Of two rows of instructions the second one stands behind the first. -/
theorem Located.append_iff {l k : List Inst} :
    Located p start (l ++ k) ↔ Located p start l ∧ Located p (start + l.length) k := by
  constructor
  · intro h
    refine ⟨fun i inst hi => h i inst ?_, fun i inst hi => ?_⟩
    · rw [List.getElem?_append_left (List.getElem?_eq_some_iff.mp hi).1]
      exact hi
    · rw [Nat.add_assoc]
      refine h _ inst ?_
      rw [List.getElem?_append_right (Nat.le_add_right _ _), Nat.add_sub_cancel_left]
      exact hi
  · rintro ⟨hl, hk⟩ i inst hi
    by_cases hlt : i < l.length
    · rw [List.getElem?_append_left hlt] at hi
      exact hl i inst hi
    · rw [List.getElem?_append_right (by omega)] at hi
      have h := hk _ inst hi
      rwa [Nat.add_assoc, Nat.add_sub_cancel' (by omega)] at h

/-- The first instruction of a row stands where the row starts. -/
theorem Located.cons_iff {inst : Inst} {l : List Inst} :
    Located p start (inst :: l) ↔ p[start]? = some inst ∧ Located p (start + 1) l := by
  constructor
  · intro h
    refine ⟨h 0 inst rfl, fun i inst hi => ?_⟩
    rw [Nat.add_assoc, Nat.add_comm 1 i]
    exact h (i + 1) inst hi
  · rintro ⟨hinst, hl⟩ i inst' hi
    cases i with
    | zero =>
      cases hi
      exact hinst
    | succ i =>
      have h := hl i inst' hi
      rwa [Nat.add_assoc, Nat.add_comm 1 i] at h

/-- The length of a number of rounds. -/
theorem length_rounds {code : Nat → List Inst} {size : Nat}
    (h : ∀ start, (code start).length = size) (count start : Nat) :
    (rounds code size count start).length = count * size := by
  induction count generalizing start with
  | zero => simp [rounds]
  | succ count ih =>
    rw [rounds, List.length_append, h, ih, Nat.succ_mul, Nat.add_comm]

/-- The length of a number of rounds each of which may be the last. -/
theorem length_optionalRounds {code : Nat → List Inst} {size : Nat}
    (h : ∀ start, (code start).length = size) (greedy : Bool) (past count start : Nat) :
    (optionalRounds greedy code size past count start).length = count * (size + 1) := by
  induction count generalizing start with
  | zero => simp [optionalRounds]
  | succ count ih =>
    rw [optionalRounds, List.length_append, List.length_cons, h, ih, Nat.succ_mul, Nat.add_comm]

/-- The code of an expression has the length that its size says. -/
theorem Expr.length_code (e : Expr) (start : Nat) : (e.code start).length = e.size := by
  induction e generalizing start with
  | empty => rfl
  | set s => rfl
  | look l => rfl
  | seq a b iha ihb => rw [code, List.length_append, iha, ihb, size]
  | alt a b iha ihb =>
    simp only [code, List.length_append, List.length_cons, iha, ihb, size]
    omega
  | loop min max greedy e ih =>
    cases max with
    | some max =>
      dsimp only [code, size]
      rw [List.length_append, length_rounds ih, length_optionalRounds ih]
    | none =>
      dsimp only [code, size]
      split
      · simp only [List.length_append, List.length_cons, List.length_nil, ih]
      · rename_i hmin
        obtain ⟨min, rfl⟩ := Nat.exists_eq_succ_of_ne_zero hmin
        simp only [List.length_append, List.length_cons, List.length_nil, ih, length_rounds ih,
          Nat.succ_sub_one, Nat.succ_mul]
  | group index e ih =>
    simp only [code, List.length_append, List.length_cons, List.length_nil, ih, size]

/-- The code of a row of expressions has the length that its size says. -/
theorem length_codeAll (es : List Expr) (start : Nat) : (codeAll es start).length = sizeAll es := by
  induction es generalizing start with
  | nil => rfl
  | cons e rest ih => simp [codeAll, ih, Expr.length_code, sizeAll]

namespace Located

/-- The code of two alternatives: a fork, the code of the first one, a jump over the second one and
its code. -/
theorem alt {a b : Expr} (h : Located p start ((Expr.alt a b).code start)) :
    p[start]? = some (.fork (start + 1) (start + a.size + 2)) ∧
      Located p (start + 1) (a.code (start + 1)) ∧
      p[start + 1 + a.size]? = some (.jump (start + a.size + b.size + 2)) ∧
      Located p (start + a.size + 2) (b.code (start + a.size + 2)) := by
  dsimp only [Expr.code] at h
  rw [List.cons_append, cons_iff, append_iff, a.length_code, cons_iff] at h
  have hsecond : start + 1 + a.size + 1 = start + a.size + 2 := by omega
  rwa [hsecond] at h

section

variable {code : Nat → List Inst} {size : Nat} (hlen : ∀ start, (code start).length = size)
  {count : Nat}

include hlen

/-- The code of one more round: that of the first one, and that of the others. -/
theorem rounds_succ (h : Located p start (rounds code size (count + 1) start)) :
    Located p start (code start) ∧
      Located p (start + size) (rounds code size count (start + size)) := by
  rwa [rounds, append_iff, hlen] at h

/-- The code of one more round that may be the last: a branch, that of the round, and that of the
others. -/
theorem optionalRounds_succ {greedy : Bool} {past : Nat}
    (h : Located p start (optionalRounds greedy code size past (count + 1) start)) :
    p[start]? = some (forkInto greedy (start + 1) past) ∧ Located p (start + 1) (code (start + 1)) ∧
      Located p (start + 1 + size)
        (optionalRounds greedy code size past count (start + 1 + size)) := by
  rwa [optionalRounds, List.cons_append, cons_iff, append_iff, hlen] at h

end

variable {e : Expr} {min : Nat} {greedy : Bool}

/-- The code of a loop with a last round: that of the rounds that it needs, and that of those that
may be the last. -/
theorem loop_some {max : Nat}
    (h : Located p start ((Expr.loop min (some max) greedy e).code start)) :
    Located p start (rounds e.code e.size min start) ∧
      Located p (start + min * e.size) (optionalRounds greedy e.code e.size
        (start + min * e.size + (max - min) * (e.size + 1)) (max - min)
        (start + min * e.size)) := by
  dsimp only [Expr.code] at h
  rwa [append_iff, length_rounds e.length_code] at h

/-- The code of a loop that may be passed by: a branch, the body, and a way back to the branch, or
another branch if a round may take nothing. -/
theorem loop_zero (h : Located p start ((Expr.loop 0 none greedy e).code start)) :
    p[start]? = some (forkInto greedy (start + 1) (start + e.size + 2)) ∧
      Located p (start + 1) (e.code (start + 1)) ∧
      p[start + 1 + e.size]? = some (if e.consumes then .jump start
        else forkInto greedy (start + 1) (start + e.size + 2)) := by
  dsimp only [Expr.code] at h
  rw [if_pos rfl, List.cons_append, cons_iff, append_iff, e.length_code, cons_iff] at h
  exact ⟨h.1, h.2.1, h.2.2.1⟩

/-- The code of a loop without a last round that may not be passed by: all rounds that it needs but
one, the body, and a branch behind it. -/
theorem loop_succ (h : Located p start ((Expr.loop (min + 1) none greedy e).code start)) :
    Located p start (rounds e.code e.size min start) ∧
      Located p (start + min * e.size) (e.code (start + min * e.size)) ∧
      p[start + min * e.size + e.size]? = some
        (forkInto greedy (start + min * e.size) (start + min * e.size + e.size + 1)) := by
  dsimp only [Expr.code] at h
  rw [if_neg (Nat.succ_ne_zero min), Nat.add_sub_cancel, List.append_assoc, append_iff, append_iff,
    e.length_code, length_rounds e.length_code, cons_iff] at h
  exact ⟨h.1, h.2.1, h.2.2.1⟩

/-- The code of a group: what is inside, between two instructions that remember the place. -/
theorem group {index : Nat} (h : Located p start ((Expr.group index e).code start)) :
    p[start]? = some (.save (2 * index)) ∧ Located p (start + 1) (e.code (start + 1)) ∧
      p[start + 1 + e.size]? = some (.save (2 * index + 1)) := by
  dsimp only [Expr.code] at h
  rw [List.cons_append, cons_iff, append_iff, e.length_code, cons_iff] at h
  exact ⟨h.1, h.2.1, h.2.2.1⟩

end Located

end

section

variable {p : Program} {input : Array Char}

/-- A thread takes the next character if it is in the set. -/
theorem step_take {s : CharSet} {i : Nat} (h : p[i]? = some (.take s)) (x : Spot) :
    (x.thread i).step p input = .threads (match input[x.place]? with
      | some c => if s.contains c then [x.advance.thread (i + 1)] else []
      | none => []) := by
  unfold Thread.step Spot.thread
  rw [h]
  dsimp only
  cases input[x.place]? with
  | none => rfl
  | some c =>
    dsimp only
    cases s.contains c <;> rfl

/-- A thread goes on where a condition holds. -/
theorem step_check {l : Look} {i : Nat} (h : p[i]? = some (.check l)) (x : Spot) :
    (x.thread i).step p input =
      .threads (if l.holdsAt input x.place then [x.thread (i + 1)] else []) := by
  unfold Thread.step Spot.thread Look.holdsAt
  rw [h]
  dsimp only
  generalize l.holds (if x.place = 0 then none else input[x.place - 1]?) input[x.place]? = b
  cases b <;> rfl

/-- A thread remembers where it is. -/
theorem step_save {slot i : Nat} (h : p[i]? = some (.save slot)) (x : Spot) :
    (x.thread i).step p input = .threads [(x.remember slot).thread (i + 1)] := by
  unfold Thread.step Spot.thread
  rw [h]
  rfl

/-- A thread goes on elsewhere. -/
theorem step_jump {target i : Nat} (h : p[i]? = some (.jump target)) (x : Spot) :
    (x.thread i).step p input = .threads [x.thread target] := by
  unfold Thread.step Spot.thread
  rw [h]

/-- A thread goes on in two ways. -/
theorem step_fork {first second i : Nat} (h : p[i]? = some (.fork first second)) (x : Spot) :
    (x.thread i).step p input = .threads [x.thread first, x.thread second] := by
  unfold Thread.step Spot.thread
  rw [h]

/-- A thread goes into a body or past it, the body being preferred if the repetition is greedy. -/
theorem step_forkInto {greedy : Bool} {body past i : Nat}
    (h : p[i]? = some (forkInto greedy body past)) (x : Spot) :
    (x.thread i).step p input = .threads
      (if greedy then [x.thread body, x.thread past] else [x.thread past, x.thread body]) := by
  unfold forkInto at h
  cases greedy with
  | true => exact step_fork h x
  | false => exact step_fork h x

/-- A thread outside of a region takes a step before it enters the region. -/
theorem Enters.exists_step {region : Nat → Prop} {n : Nat} {t u : Thread} {next : List Thread}
    (h : Enters p input region n t u) (hout : ¬region t.inst)
    (hstep : t.step p input = .threads next) :
    ∃ m < n, ∃ c ∈ next, Enters p input region m c u := by
  cases h with
  | here hreg => exact absurd hreg hout
  | step _ hstep' hc hu =>
    rw [hstep] at hstep'
    cases hstep'
    exact ⟨_, Nat.lt_succ_self _, _, hc, hu⟩

/-- A thread outside of a region that goes on in one way enters the region as what it goes on as. -/
theorem Enters.one {region : Nat → Prop} {n : Nat} {t u c : Thread}
    (h : Enters p input region n t u) (hout : ¬region t.inst)
    (hstep : t.step p input = .threads [c]) : ∃ m < n, Enters p input region m c u := by
  obtain ⟨m, hm, d, hd, hu⟩ := h.exists_step hout hstep
  obtain rfl := List.mem_singleton.mp hd
  exact ⟨m, hm, hu⟩

/-- A thread that starts at one instruction and enters a region goes through another instruction,
and on the way its spot has changed as a relation says. -/
def Passes (p : Program) (input : Array Char) (region : Nat → Prop) (run : Spot → Spot → Prop)
    (start finish : Nat) : Prop :=
  ∀ (n : Nat) (x : Spot) (u : Thread), Enters p input region n (x.thread start) u →
    ∃ y m, m ≤ n ∧ run x y ∧ Enters p input region m (y.thread finish) u

variable {region : Nat → Prop} {run : Spot → Spot → Prop}

/-- Two ways one after the other. -/
theorem Passes.trans {run' : Spot → Spot → Prop} {start middle finish : Nat}
    (h : Passes p input region run start middle)
    (h' : Passes p input region run' middle finish) :
    Passes p input region (fun x y => ∃ z, run x z ∧ run' z y) start finish := by
  intro n x u hu
  obtain ⟨z, m, hm, hz, hu⟩ := h n x u hu
  obtain ⟨y, k, hk, hy, hu⟩ := h' m z u hu
  exact ⟨y, k, hk.trans hm, ⟨z, hz, hy⟩, hu⟩

/-- A branch leads to the body or past it. -/
theorem enters_forkInto {greedy : Bool} {body past i : Nat}
    (h : p[i]? = some (forkInto greedy body past)) (hout : ¬region i) {n : Nat} {x : Spot}
    {u : Thread} (hu : Enters p input region n (x.thread i) u) :
    ∃ m < n, Enters p input region m (x.thread body) u ∨
      Enters p input region m (x.thread past) u := by
  obtain ⟨m, hm, c, hc, hu⟩ := hu.exists_step hout (step_forkInto h x)
  have hcases : c = x.thread body ∨ c = x.thread past := by
    split at hc
    · simpa using hc
    · simpa [or_comm] using hc
  rcases hcases with rfl | rfl
  · exact ⟨m, hm, .inl hu⟩
  · exact ⟨m, hm, .inr hu⟩

/-- The code of a number of rounds. -/
theorem passes_rounds {code : Nat → List Inst} {size : Nat}
    (hlen : ∀ start, (code start).length = size)
    (h : ∀ start, Located p start (code start) →
      (∀ i, start ≤ i → i < start + size → ¬region i) →
      Passes p input region run start (start + size)) {count start : Nat}
    (hloc : Located p start (rounds code size count start))
    (hout : ∀ i, start ≤ i → i < start + count * size → ¬region i) :
    Passes p input region (Rounds run count) start (start + count * size) := by
  induction count generalizing start with
  | zero =>
    intro n x u hu
    rw [Nat.zero_mul, Nat.add_zero]
    exact ⟨x, n, le_rfl, rfl, hu⟩
  | succ count ih =>
    obtain ⟨hfirst, hrest⟩ := hloc.rounds_succ hlen
    rw [Nat.succ_mul] at hout ⊢
    have h1 := h start hfirst fun i hi hlt => hout i hi (by omega)
    have h2 := ih hrest fun i hi hlt => hout i (by omega) (by omega)
    rw [Nat.add_assoc, Nat.add_comm size] at h2
    exact h1.trans h2

/-- The code of a number of rounds each of which may be the last. -/
theorem passes_optionalRounds {code : Nat → List Inst} {size : Nat}
    (hlen : ∀ start, (code start).length = size)
    (h : ∀ start, Located p start (code start) →
      (∀ i, start ≤ i → i < start + size → ¬region i) →
      Passes p input region run start (start + size)) {greedy : Bool} {past count start : Nat}
    (hpast : past = start + count * (size + 1))
    (hloc : Located p start (optionalRounds greedy code size past count start))
    (hout : ∀ i, start ≤ i → i < past → ¬region i) :
    Passes p input region (fun x y => ∃ m ≤ count, Rounds run m x y) start past := by
  induction count generalizing start with
  | zero =>
    intro n x u hu
    rw [hpast, Nat.zero_mul, Nat.add_zero]
    exact ⟨x, n, le_rfl, ⟨0, le_rfl, rfl⟩, hu⟩
  | succ count ih =>
    rw [Nat.succ_mul] at hpast
    obtain ⟨hfork, hbody, hrest⟩ := hloc.optionalRounds_succ hlen
    intro n x u hu
    obtain ⟨m, hm, hu | hu⟩ := enters_forkInto hfork (hout start le_rfl (by omega)) hu
    · obtain ⟨z, k, hk, hz, hu⟩ :=
        h (start + 1) hbody (fun i hi hlt => hout i (by omega) (by omega)) m x u hu
      obtain ⟨y, j, hj, ⟨r, hr, hy⟩, hu⟩ := ih (by omega) hrest
        (fun i hi hlt => hout i (by omega) hlt) k z u hu
      exact ⟨y, j, by omega, ⟨r + 1, by omega, z, hz, hy⟩, hu⟩
    · exact ⟨x, m, by omega, ⟨0, Nat.zero_le _, rfl⟩, hu⟩

/-- The code of a body that is followed by a way back to the body and a way past it. -/
theorem passes_again {body tail past : Nat} (hbody : Passes p input region run body tail)
    (htail : ∀ (n : Nat) (x : Spot) (u : Thread), Enters p input region n (x.thread tail) u →
      ∃ m < n, Enters p input region m (x.thread body) u ∨
        Enters p input region m (x.thread past) u) :
    Passes p input region (fun x y => ∃ k, Rounds run (k + 1) x y) body past := by
  intro n
  induction n using Nat.strong_induction_on with
  | _ n ih =>
    intro x u hu
    obtain ⟨z, m, hm, hz, hu⟩ := hbody n x u hu
    obtain ⟨k, hk, hu | hu⟩ := htail m z u hu
    · obtain ⟨y, j, hj, ⟨r, hy⟩, hu⟩ := ih k (by omega) z u hu
      exact ⟨y, j, by omega, ⟨r + 1, z, hz, hy⟩, hu⟩
    · exact ⟨z, k, by omega, ⟨0, z, hz, rfl⟩, hu⟩

/-- The code of two alternatives. -/
theorem passes_alt {a b : Expr}
    (iha : ∀ {start : Nat}, Located p start (a.code start) →
      (∀ i, start ≤ i → i < start + a.size → ¬region i) →
      Passes p input region (a.Run input) start (start + a.size))
    (ihb : ∀ {start : Nat}, Located p start (b.code start) →
      (∀ i, start ≤ i → i < start + b.size → ¬region i) →
      Passes p input region (b.Run input) start (start + b.size))
    {start : Nat} (hloc : Located p start ((Expr.alt a b).code start))
    (hout : ∀ i, start ≤ i → i < start + (Expr.alt a b).size → ¬region i) :
    Passes p input region ((Expr.alt a b).Run input) start (start + (Expr.alt a b).size) := by
  obtain ⟨hfork, hla, hjump, hlb⟩ := hloc.alt
  dsimp only [Expr.size] at hout ⊢
  intro n x u hu
  obtain ⟨m, hm, c, hc, hu⟩ :=
    hu.exists_step (hout start le_rfl (by omega)) (step_fork hfork x)
  rcases List.mem_cons.mp hc with rfl | hc
  · obtain ⟨y, k, hk, hy, hu⟩ :=
      iha hla (fun i hi hlt => hout i (by omega) (by omega)) m x u hu
    obtain ⟨j, hj, hu⟩ :=
      hu.one (hout (start + 1 + a.size) (by omega) (by omega)) (step_jump hjump y)
    have hfinish : start + a.size + b.size + 2 = start + (a.size + b.size + 2) := by omega
    rw [hfinish] at hu
    exact ⟨y, j, by omega, .inl hy, hu⟩
  · obtain rfl := List.mem_singleton.mp hc
    obtain ⟨y, k, hk, hy, hu⟩ :=
      ihb hlb (fun i hi hlt => hout i (by omega) (by omega)) m x u hu
    have hfinish : start + a.size + 2 + b.size = start + (a.size + b.size + 2) := by omega
    rw [hfinish] at hu
    exact ⟨y, k, by omega, .inr hy, hu⟩

section Loops

variable {e : Expr} {start : Nat} {greedy : Bool}
  (ih : ∀ {start : Nat}, Located p start (e.code start) →
    (∀ i, start ≤ i → i < start + e.size → ¬region i) →
    Passes p input region (e.Run input) start (start + e.size))

include ih

/-- The code of a loop with a last round. -/
theorem passes_loop_some {min max : Nat}
    (hloc : Located p start ((Expr.loop min (some max) greedy e).code start))
    (hout : ∀ i, start ≤ i → i < start + (Expr.loop min (some max) greedy e).size → ¬region i) :
    Passes p input region ((Expr.loop min (some max) greedy e).Run input) start
      (start + (Expr.loop min (some max) greedy e).size) := by
  obtain ⟨hmin, hopt⟩ := hloc.loop_some
  dsimp only [Expr.size] at hout ⊢
  have h1 := passes_rounds e.length_code (fun _ => ih) hmin fun i hi hlt => hout i hi (by omega)
  have h2 := passes_optionalRounds e.length_code (fun _ => ih) rfl hopt
    fun i hi hlt => hout i (by omega) (by omega)
  rw [Nat.add_assoc] at h2
  intro n x u hu
  obtain ⟨y, m, hm, ⟨z, hz, r, hr, hy⟩, hu⟩ := h1.trans h2 n x u hu
  refine ⟨y, m, hm, ⟨min + r, by omega, ?_, hz.add hy⟩, hu⟩
  rintro _ ⟨⟩
  omega

/-- The code of a loop that may be passed by. -/
theorem passes_loop_zero (hloc : Located p start ((Expr.loop 0 none greedy e).code start))
    (hout : ∀ i, start ≤ i → i < start + (Expr.loop 0 none greedy e).size → ¬region i) :
    Passes p input region ((Expr.loop 0 none greedy e).Run input) start
      (start + (Expr.loop 0 none greedy e).size) := by
  obtain ⟨hfork, hbody, htail⟩ := hloc.loop_zero
  have hsize : (Expr.loop 0 none greedy e).size = e.size + 2 := rfl
  rw [hsize] at hout ⊢
  have hpasses := ih hbody fun i hi hlt => hout i (by omega) (by omega)
  have hagain : Passes p input region (fun x y => ∃ k, Rounds (e.Run input) (k + 1) x y)
      (start + 1) (start + e.size + 2) := by
    refine passes_again hpasses fun n x u hu => ?_
    split at htail
    · obtain ⟨m, hm, hu⟩ :=
        hu.one (hout (start + 1 + e.size) (by omega) (by omega)) (step_jump htail x)
      obtain ⟨k, hk, hu⟩ := enters_forkInto hfork (hout start le_rfl (by omega)) hu
      exact ⟨k, by omega, hu⟩
    · exact enters_forkInto htail (hout _ (by omega) (by omega)) hu
  intro n x u hu
  obtain ⟨m, hm, hu | hu⟩ := enters_forkInto hfork (hout start le_rfl (by omega)) hu
  · obtain ⟨y, k, hk, ⟨r, hy⟩, hu⟩ := hagain m x u hu
    exact ⟨y, k, by omega, ⟨r + 1, by omega, by simp, hy⟩, hu⟩
  · exact ⟨x, m, by omega, ⟨0, by omega, by simp, rfl⟩, hu⟩

/-- The code of a loop without a last round, after whose first rounds it branches. -/
theorem passes_loop_succ {min : Nat}
    (hloc : Located p start ((Expr.loop (min + 1) none greedy e).code start))
    (hout : ∀ i, start ≤ i → i < start + (Expr.loop (min + 1) none greedy e).size → ¬region i) :
    Passes p input region ((Expr.loop (min + 1) none greedy e).Run input) start
      (start + (Expr.loop (min + 1) none greedy e).size) := by
  obtain ⟨hrounds, hbody, htail⟩ := hloc.loop_succ
  have hsize : (Expr.loop (min + 1) none greedy e).size = min * e.size + e.size + 1 := by
    dsimp only [Expr.size]
    rw [if_neg (Nat.succ_ne_zero min), Nat.succ_mul]
  rw [hsize] at hout ⊢
  have h1 := passes_rounds e.length_code (fun _ => ih) hrounds fun i hi hlt => hout i hi (by omega)
  have hpasses := ih hbody fun i hi hlt => hout i (by omega) (by omega)
  have h2 := passes_again hpasses fun n x u hu =>
    enters_forkInto htail (hout _ (by omega) (by omega)) hu
  intro n x u hu
  obtain ⟨y, m, hm, ⟨z, hz, k, hy⟩, hu⟩ := h1.trans h2 n x u hu
  have hfinish : start + min * e.size + e.size + 1 =
      start + (min * e.size + e.size + 1) := by omega
  rw [hfinish] at hu
  exact ⟨y, m, hm, ⟨min + (k + 1), by omega, by simp, hz.add hy⟩, hu⟩

/-- The code of a group. -/
theorem passes_group {index : Nat} (hloc : Located p start ((Expr.group index e).code start))
    (hout : ∀ i, start ≤ i → i < start + (Expr.group index e).size → ¬region i) :
    Passes p input region ((Expr.group index e).Run input) start
      (start + (Expr.group index e).size) := by
  obtain ⟨hopen, hbody, hclose⟩ := hloc.group
  dsimp only [Expr.size] at hout ⊢
  intro n x u hu
  obtain ⟨m, hm, hu⟩ := hu.one (hout start le_rfl (by omega)) (step_save hopen x)
  obtain ⟨z, k, hk, hz, hu⟩ :=
    ih hbody (fun i hi hlt => hout i (by omega) (by omega)) m _ u hu
  obtain ⟨j, hj, hu⟩ :=
    hu.one (hout (start + 1 + e.size) (by omega) (by omega)) (step_save hclose z)
  have hfinish : start + 1 + e.size + 1 = start + (e.size + 2) := by omega
  rw [hfinish] at hu
  exact ⟨_, j, by omega, ⟨z, hz, rfl⟩, hu⟩

end Loops

/-- A thread that goes through the code of an expression matches the expression. -/
theorem Expr.passes (e : Expr) {start : Nat} (hloc : Located p start (e.code start))
    (hout : ∀ i, start ≤ i → i < start + e.size → ¬region i) :
    Passes p input region (e.Run input) start (start + e.size) := by
  induction e generalizing start with
  | empty =>
    intro n x u hu
    exact ⟨x, n, le_rfl, rfl, hu⟩
  | set s =>
    intro n x u hu
    have hinst := (Located.cons_iff.mp hloc).1
    obtain ⟨m, hm, c, hc, hu⟩ :=
      hu.exists_step (hout start le_rfl (Nat.lt_succ_self _)) (step_take hinst x)
    split at hc
    · rename_i d hd
      split at hc
      · rename_i hcont
        obtain rfl := List.mem_singleton.mp hc
        exact ⟨x.advance, m, hm.le, ⟨d, hd, hcont, rfl⟩, hu⟩
      · exact absurd hc List.not_mem_nil
    · exact absurd hc List.not_mem_nil
  | look l =>
    intro n x u hu
    have hinst := (Located.cons_iff.mp hloc).1
    obtain ⟨m, hm, c, hc, hu⟩ :=
      hu.exists_step (hout start le_rfl (Nat.lt_succ_self _)) (step_check hinst x)
    split at hc
    · rename_i hl
      obtain rfl := List.mem_singleton.mp hc
      exact ⟨x, m, hm.le, ⟨hl, rfl⟩, hu⟩
    · exact absurd hc List.not_mem_nil
  | seq a b iha ihb =>
    obtain ⟨hla, hlb⟩ := Located.append_iff.mp hloc
    rw [a.length_code] at hlb
    dsimp only [size] at hout ⊢
    have ha := iha hla fun i hi hlt => hout i hi (by omega)
    have hb := ihb hlb fun i hi hlt => hout i (by omega) (by omega)
    rw [Nat.add_assoc] at hb
    exact ha.trans hb
  | alt a b iha ihb => exact passes_alt iha ihb hloc hout
  | loop min max greedy e ih =>
    cases max with
    | some max => exact passes_loop_some ih hloc hout
    | none =>
      cases min with
      | zero => exact passes_loop_zero ih hloc hout
      | succ min => exact passes_loop_succ ih hloc hout
  | group index e ih => exact passes_group ih hloc hout

/-- A thread that goes through the code of a row of expressions matches them in turn. -/
theorem passes_codeAll (es : List Expr) {start : Nat} (hloc : Located p start (codeAll es start))
    (hout : ∀ i, start ≤ i → i < start + sizeAll es → ¬region i) :
    Passes p input region (RunAll input es) start (start + sizeAll es) := by
  induction es generalizing start with
  | nil =>
    intro n x u hu
    exact ⟨x, n, le_rfl, rfl, hu⟩
  | cons e rest ih =>
    obtain ⟨hfirst, hrest⟩ := Located.append_iff.mp hloc
    rw [e.length_code] at hrest
    have hsize : sizeAll (e :: rest) = e.size + sizeAll rest := rfl
    rw [hsize] at hout ⊢
    have h1 : Passes p input region (e.Run input) start (start + e.size) :=
      e.passes hfirst fun i hi hlt => hout i hi (by omega)
    have h2 := ih hrest fun i hi hlt => hout i (by omega) (by omega)
    rw [Nat.add_assoc] at h2
    exact h1.trans h2

end

end PathRouting.Regex
