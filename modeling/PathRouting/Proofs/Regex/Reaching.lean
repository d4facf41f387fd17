import PathRouting.Proofs.Regex.Matching

/-!
# The ways through the code of an expression

Whatever an expression matches, a thread can match in its code, also where rounds may take nothing.
So a search succeeds whenever the expressions of its program can be matched in turn.
-/

namespace PathRouting.Regex

/-- Steps in a row can be taken in two goes. -/
theorem Rounds.split {step : Spot → Spot → Prop} {n m : Nat} {x y : Spot}
    (h : Rounds step (n + m) x y) : ∃ z, Rounds step n x z ∧ Rounds step m z y := by
  induction n generalizing x with
  | zero =>
    rw [Nat.zero_add] at h
    exact ⟨x, rfl, h⟩
  | succ n ih =>
    rw [Nat.add_right_comm] at h
    obtain ⟨w, hw, h⟩ := h
    obtain ⟨z, hz, h⟩ := ih h
    exact ⟨z, ⟨w, hw, hz⟩, h⟩

section

variable {p : Program} {input : Array Char}

/-- One thread comes of another through a third one. -/
theorem Reaches.trans {t u v : Thread} (h : Reaches p input t u) (h' : Reaches p input u v) :
    Reaches p input t v := by
  induction h with
  | refl t => exact h'
  | step hstep hc _ ih => exact .step hstep hc (ih h')

/-- One thread comes of another by one instruction. -/
theorem Reaches.of_step {t c : Thread} {next : List Thread} (h : t.step p input = .threads next)
    (hc : c ∈ next) : Reaches p input t c :=
  .step h hc (.refl c)

/-- A thread can go from one instruction to another, and change its spot on the way as a relation
says. -/
def Leads (p : Program) (input : Array Char) (run : Spot → Spot → Prop) (start finish : Nat) :
    Prop :=
  ∀ x y, run x y → Reaches p input (x.thread start) (y.thread finish)

variable {run : Spot → Spot → Prop}

/-- Two ways one after the other. -/
theorem Leads.trans {run' : Spot → Spot → Prop} {start middle finish : Nat}
    (h : Leads p input run start middle) (h' : Leads p input run' middle finish) :
    Leads p input (fun x y => ∃ z, run x z ∧ run' z y) start finish := by
  rintro x y ⟨z, hz, hy⟩
  exact (h x z hz).trans (h' z y hy)

/-- A branch leads to the body and past it. -/
theorem reaches_forkInto (input : Array Char) {greedy : Bool} {body past i : Nat}
    (h : p[i]? = some (forkInto greedy body past)) (x : Spot) :
    Reaches p input (x.thread i) (x.thread body) ∧
      Reaches p input (x.thread i) (x.thread past) := by
  have hstep : (x.thread i).step p input = _ := step_forkInto h x
  cases greedy with
  | true =>
    exact ⟨.of_step hstep List.mem_cons_self,
      .of_step hstep (List.mem_cons_of_mem _ (List.mem_singleton_self _))⟩
  | false =>
    exact ⟨.of_step hstep (List.mem_cons_of_mem _ (List.mem_singleton_self _)),
      .of_step hstep List.mem_cons_self⟩

/-- The code of a number of rounds. -/
theorem leads_rounds {code : Nat → List Inst} {size : Nat}
    (hlen : ∀ start, (code start).length = size)
    (h : ∀ start, Located p start (code start) → Leads p input run start (start + size))
    {count start : Nat} (hloc : Located p start (rounds code size count start)) :
    Leads p input (Rounds run count) start (start + count * size) := by
  induction count generalizing start with
  | zero =>
    rintro x _ rfl
    rw [Nat.zero_mul]
    exact .refl _
  | succ count ih =>
    obtain ⟨hfirst, hrest⟩ := hloc.rounds_succ hlen
    have hways := (h start hfirst).trans (ih hrest)
    rwa [Nat.add_assoc, Nat.add_comm size, ← Nat.succ_mul] at hways

/-- The code of a number of rounds each of which may be the last. -/
theorem leads_optionalRounds {code : Nat → List Inst} {size : Nat}
    (hlen : ∀ start, (code start).length = size)
    (h : ∀ start, Located p start (code start) → Leads p input run start (start + size))
    {greedy : Bool} {past count start : Nat} (hpast : past = start + count * (size + 1))
    (hloc : Located p start (optionalRounds greedy code size past count start)) :
    Leads p input (fun x y => ∃ m ≤ count, Rounds run m x y) start past := by
  induction count generalizing start with
  | zero =>
    rintro x y ⟨m, hm, hrounds⟩
    obtain rfl := Nat.le_zero.mp hm
    obtain rfl := hrounds
    rw [hpast, Nat.zero_mul]
    exact .refl _
  | succ count ih =>
    rw [Nat.succ_mul] at hpast
    obtain ⟨hfork, hbody, hrest⟩ := hloc.optionalRounds_succ hlen
    rintro x y ⟨m, hm, hrounds⟩
    obtain ⟨hinto, hpassed⟩ := reaches_forkInto input hfork x
    cases m with
    | zero =>
      obtain rfl := hrounds
      exact hpassed
    | succ m =>
      obtain ⟨z, hz, hrounds⟩ := hrounds
      exact hinto.trans ((h _ hbody x z hz).trans
        (ih (by omega) hrest z y ⟨m, Nat.le_of_succ_le_succ hm, hrounds⟩))

/-- The code of a body that is followed by a way back to the body and a way past it. -/
theorem leads_again {body tail past : Nat} (hbody : Leads p input run body tail)
    (htail : ∀ x : Spot, Reaches p input (x.thread tail) (x.thread body) ∧
      Reaches p input (x.thread tail) (x.thread past)) :
    Leads p input (fun x y => ∃ k, Rounds run (k + 1) x y) body past := by
  rintro x y ⟨k, hrounds⟩
  induction k generalizing x with
  | zero =>
    obtain ⟨_, hz, rfl⟩ := hrounds
    exact (hbody x _ hz).trans (htail _).2
  | succ k ih =>
    obtain ⟨z, hz, hrounds⟩ := hrounds
    exact (hbody x z hz).trans ((htail z).1.trans (ih z hrounds))

/-- The code of two alternatives. -/
theorem leads_alt {a b : Expr}
    (iha : ∀ {start : Nat}, Located p start (a.code start) →
      Leads p input (a.Run input) start (start + a.size))
    (ihb : ∀ {start : Nat}, Located p start (b.code start) →
      Leads p input (b.Run input) start (start + b.size))
    {start : Nat} (hloc : Located p start ((Expr.alt a b).code start)) :
    Leads p input ((Expr.alt a b).Run input) start (start + (Expr.alt a b).size) := by
  obtain ⟨hfork, hla, hjump, hlb⟩ := hloc.alt
  intro x y hrun
  have hstep : (x.thread start).step p input = _ := step_fork hfork x
  rcases hrun with hrun | hrun
  · have hback : Reaches p input (y.thread (start + 1 + a.size)) _ :=
      .of_step (step_jump hjump y) (List.mem_singleton_self _)
    have hfinish : start + a.size + b.size + 2 = start + (a.size + b.size + 2) := by omega
    rw [hfinish] at hback
    exact (Reaches.of_step hstep List.mem_cons_self).trans ((iha hla x y hrun).trans hback)
  · have hway := ihb hlb x y hrun
    have hfinish : start + a.size + 2 + b.size = start + (a.size + b.size + 2) := by omega
    rw [hfinish] at hway
    exact (Reaches.of_step hstep
      (List.mem_cons_of_mem _ (List.mem_singleton_self _))).trans hway

section Loops

variable {e : Expr} {start : Nat} {greedy : Bool}
  (ih : ∀ {start : Nat}, Located p start (e.code start) →
    Leads p input (e.Run input) start (start + e.size))

include ih

/-- The code of a loop with a last round. -/
theorem leads_loop_some {min max : Nat}
    (hloc : Located p start ((Expr.loop min (some max) greedy e).code start)) :
    Leads p input ((Expr.loop min (some max) greedy e).Run input) start
      (start + (Expr.loop min (some max) greedy e).size) := by
  rintro x y ⟨n, hmin, hmax, hrounds⟩
  obtain ⟨k, rfl⟩ := Nat.exists_eq_add_of_le hmin
  obtain ⟨hfirst, hopt⟩ := hloc.loop_some
  dsimp only [Expr.size]
  have hways := (leads_rounds e.length_code (fun _ => ih) hfirst).trans
    (leads_optionalRounds e.length_code (fun _ => ih) rfl hopt)
  rw [Nat.add_assoc] at hways
  obtain ⟨z, hz, hrest⟩ := hrounds.split
  have hk : k ≤ max - min := by
    have := hmax max rfl
    omega
  exact hways x y ⟨z, hz, k, hk, hrest⟩

/-- The code of a loop that may be passed by. Behind the body it branches again, or, where a round
may take nothing, it goes back to the branch it started with. -/
theorem leads_loop_zero (hloc : Located p start ((Expr.loop 0 none greedy e).code start)) :
    Leads p input ((Expr.loop 0 none greedy e).Run input) start
      (start + (Expr.loop 0 none greedy e).size) := by
  obtain ⟨hfork, hbody, htail⟩ := hloc.loop_zero
  have hagain : Leads p input (fun x y => ∃ k, Rounds (e.Run input) (k + 1) x y)
      (start + 1) (start + e.size + 2) := by
    refine leads_again (ih hbody) fun z => ?_
    obtain ⟨hinto, hpassed⟩ := reaches_forkInto input hfork z
    split at htail
    · have hback : Reaches p input (z.thread (start + 1 + e.size)) _ :=
        .of_step (step_jump htail z) (List.mem_singleton_self _)
      exact ⟨hback.trans hinto, hback.trans hpassed⟩
    · exact reaches_forkInto input htail z
  rintro x y ⟨n, -, -, hrounds⟩
  obtain ⟨hinto, hpassed⟩ := reaches_forkInto input hfork x
  cases n with
  | zero =>
    obtain rfl := hrounds
    exact hpassed
  | succ k => exact hinto.trans (hagain x y ⟨k, hrounds⟩)

/-- The code of a loop without a last round, after whose first rounds it branches. -/
theorem leads_loop_succ {min : Nat}
    (hloc : Located p start ((Expr.loop (min + 1) none greedy e).code start)) :
    Leads p input ((Expr.loop (min + 1) none greedy e).Run input) start
      (start + (Expr.loop (min + 1) none greedy e).size) := by
  obtain ⟨hfirst, hbody, htail⟩ := hloc.loop_succ
  dsimp only [Expr.size]
  rw [if_neg (Nat.succ_ne_zero min), Nat.succ_mul]
  have hways := (leads_rounds e.length_code (fun _ => ih) hfirst).trans
    (leads_again (ih hbody) fun z => reaches_forkInto input htail z)
  have hfinish : start + min * e.size + e.size + 1 = start + (min * e.size + e.size + 1) := by
    omega
  rw [hfinish] at hways
  rintro x y ⟨n, hmin, -, hrounds⟩
  obtain ⟨k, rfl⟩ := Nat.exists_eq_add_of_le hmin
  rw [Nat.add_assoc, Nat.add_comm 1 k] at hrounds
  obtain ⟨z, hz, hrest⟩ := hrounds.split
  exact hways x y ⟨z, hz, k, hrest⟩

/-- The code of a group. -/
theorem leads_group {index : Nat} (hloc : Located p start ((Expr.group index e).code start)) :
    Leads p input ((Expr.group index e).Run input) start
      (start + (Expr.group index e).size) := by
  obtain ⟨hopen, hbody, hclose⟩ := hloc.group
  rintro x _ ⟨z, hz, rfl⟩
  have hfirst : Reaches p input (x.thread start) _ :=
    .of_step (step_save hopen x) (List.mem_singleton_self _)
  have hlast : Reaches p input (z.thread (start + 1 + e.size)) _ :=
    .of_step (step_save hclose z) (List.mem_singleton_self _)
  have hfinish : start + 1 + e.size + 1 = start + (e.size + 2) := by omega
  rw [hfinish] at hlast
  exact hfirst.trans ((ih hbody _ z hz).trans hlast)

end Loops

/-- A thread can go through the code of an expression in every way the expression matches. -/
theorem Expr.leads (e : Expr) {start : Nat} (hloc : Located p start (e.code start)) :
    Leads p input (e.Run input) start (start + e.size) := by
  induction e generalizing start with
  | empty =>
    rintro x _ rfl
    exact .refl _
  | set s =>
    rintro x _ ⟨c, hc, hcont, rfl⟩
    have hstep : (x.thread start).step p input = _ := step_take (Located.cons_iff.mp hloc).1 x
    rw [hc] at hstep
    dsimp only at hstep
    rw [if_pos hcont] at hstep
    exact .of_step hstep (List.mem_singleton_self _)
  | look l =>
    rintro x y ⟨hl, rfl⟩
    have hstep : (y.thread start).step p input = _ := step_check (Located.cons_iff.mp hloc).1 y
    rw [if_pos hl] at hstep
    exact .of_step hstep (List.mem_singleton_self _)
  | seq a b iha ihb =>
    obtain ⟨hla, hlb⟩ := Located.append_iff.mp hloc
    rw [a.length_code] at hlb
    have hways := (iha hla).trans (ihb hlb)
    rwa [Nat.add_assoc] at hways
  | alt a b iha ihb => exact leads_alt iha ihb hloc
  | loop min max greedy e ih =>
    cases max with
    | some max => exact leads_loop_some ih hloc
    | none =>
      cases min with
      | zero => exact leads_loop_zero ih hloc
      | succ min => exact leads_loop_succ ih hloc
  | group index e ih => exact leads_group ih hloc

/-- A thread can go through the code of a row of expressions in every way the row matches. -/
theorem leads_codeAll (es : List Expr) {start : Nat} (hloc : Located p start (codeAll es start)) :
    Leads p input (RunAll input es) start (start + sizeAll es) := by
  induction es generalizing start with
  | nil =>
    rintro x _ rfl
    exact .refl _
  | cons e rest ih =>
    obtain ⟨hfirst, hrest⟩ := Located.append_iff.mp hloc
    rw [e.length_code] at hrest
    have hhead : Leads p input (e.Run input) start (start + e.size) := e.leads hfirst
    have hways := hhead.trans (ih hrest)
    rwa [Nat.add_assoc] at hways

/-- A search succeeds if the expressions of its program can be matched in turn from some place. -/
theorem isSome_search_of_runAll {es : List Expr} {place : Nat} (hplace : place ≤ input.size)
    {y : Spot} (h : RunAll input es ⟨place, []⟩ y) :
    ((rowProgram es).search input).isSome = true := by
  have hpos : 0 < (rowProgram es).size := by
    rw [size_rowProgram]
    exact Nat.succ_pos _
  have hend : (rowProgram es)[sizeAll es]? = some .accept := by
    rw [getElem?_rowProgram, if_neg (Nat.lt_irrefl _), if_pos rfl]
  have hloc := (located_rowProgram es []).1
  rw [List.append_nil] at hloc
  have hway := leads_codeAll es hloc _ y h
  rw [Nat.zero_add] at hway
  refine isSome_search_of_canAccept hpos (closed_rowProgram es) hplace ⟨_, hway, ?_⟩
  unfold Thread.step Spot.thread
  rw [hend]

end

end PathRouting.Regex
