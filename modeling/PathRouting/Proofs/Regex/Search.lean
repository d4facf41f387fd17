import PathRouting.Proofs.Regex.Threads

/-!
# What a search finds

The two directions of a search. If it succeeds, the thread that was accepted came of one of the
threads it started with, and from the first moment on at which that thread was in a part of the
program without circles, its choices were the preferred ones. If it fails, none of the threads it
started with can be accepted.
-/

namespace PathRouting.Regex

section

variable {p : Program} {input : Array Char}

/-- One thread comes of another after a number of instructions and is the first one on its way
that stands in a region. -/
inductive Enters (p : Program) (input : Array Char) (region : Nat → Prop) :
    Nat → Thread → Thread → Prop
  /-- The thread stands in the region. -/
  | here {t : Thread} (h : region t.inst) : Enters p input region 0 t t
  /-- The thread enters the region later. -/
  | step {n : Nat} {t c u : Thread} {next : List Thread} (hout : ¬region t.inst)
    (h : t.step p input = .threads next) (hc : c ∈ next) (hu : Enters p input region n c u) :
    Enters p input region (n + 1) t u

/-- A region of the program that no instruction leads out of, that can be entered at one instruction
only, and in which no thread runs in circles. -/
structure Straight (p : Program) (input : Array Char) (region : Nat → Prop) (entry : Nat) : Prop where
  /-- No instruction leads out of the region. -/
  closed : ∀ t : Thread, region t.inst → ∀ next, t.step p input = .threads next →
    ∀ c ∈ next, region c.inst
  /-- An instruction that leads into the region leads to its entry. -/
  enters : ∀ t : Thread, ¬region t.inst → ∀ next, t.step p input = .threads next →
    ∀ c ∈ next, region c.inst → c.inst = entry
  /-- Every thread at the entry has outcomes. -/
  outcomes : ∀ t : Thread, t.inst = entry → t.InBounds p input → ∃ n l, Outcomes p input n t l

/-- Visited pairs of a region at which a thread fails if it has no more than a given height. -/
def FailsBelow (p : Program) (input : Array Char) (region : Nat → Prop) (n : Nat) (v : BitSet) :
    Prop :=
  ∀ u : Thread, region u.inst → u.InBounds p input → v.contains (u.key p) = true →
    ∀ m k, m ≤ n → Outcomes p input m u k → k = []

/-- One set of visited pairs holds another one, and whatever else it holds is a pair of a region at
which threads fail. -/
def GrowsByFailures (p : Program) (input : Array Char) (region : Nat → Prop) (v v' : BitSet) :
    Prop :=
  ∀ u : Thread, u.InBounds p input → v'.contains (u.key p) = true →
    v.contains (u.key p) = true ∨ (region u.inst ∧ ∃ m, Outcomes p input m u [])

/-- A search goes on with the rest of the stack, having visited only failures. -/
def FallsThrough (p : Program) (input : Array Char) (region : Nat → Prop) (fuel : Nat)
    (t : Thread) (rest : List Thread) (v : BitSet) : Prop :=
  ∃ fuel' < fuel, ∃ v', runThreads p input fuel (t :: rest) v = runThreads p input fuel' rest v' ∧
    Enough p input fuel' rest v' ∧ Roomy p input v' ∧ GrowsByFailures p input region v v'

/-- A thread at a visited pair is dropped. -/
theorem runThreads_visited {fuel : Nat} {t : Thread} {rest : List Thread} {v : BitSet}
    (h : v.contains (t.key p) = true) :
    runThreads p input (fuel + 1) (t :: rest) v = runThreads p input fuel rest v := by
  rw [runThreads, if_pos h]

/-- A thread that ends a match ends the search. -/
theorem runThreads_accepted {fuel : Nat} {t : Thread} {rest : List Thread} {v : BitSet}
    (h : v.contains (t.key p) = false) (hstep : t.step p input = .accepted) :
    runThreads p input (fuel + 1) (t :: rest) v = some t.saved := by
  rw [runThreads, if_neg (by simp [h]), hstep]

/-- A thread at a new pair is replaced by what it goes on as. -/
theorem runThreads_threads {fuel : Nat} {t : Thread} {rest next : List Thread} {v : BitSet}
    (h : v.contains (t.key p) = false) (hstep : t.step p input = .threads next) :
    runThreads p input (fuel + 1) (t :: rest) v =
      runThreads p input fuel (next ++ rest) (v.insert (t.key p)) := by
  rw [runThreads, if_neg (by simp [h]), hstep]

/-- The pair of a thread may be visited while threads of less height are run. -/
theorem FailsBelow.insert {region : Nat → Prop} {n m : Nat} {v : BitSet} {t : Thread}
    {l : List (List (Nat × Nat))} (h : FailsBelow p input region n v) (hv : Roomy p input v)
    (ht : t.InBounds p input) (hout : Outcomes p input n t l) (hm : m < n) :
    FailsBelow p input region m (v.insert (t.key p)) := by
  intro u hu hb hcont i k hi hk
  rcases (hv.contains_insert_iff ht).mp hcont with heq | hcont
  · have hheight := (hout.beside_unique hk (ht.beside_of_key_eq hb heq.symm)).1
    omega
  · exact h u hu hb hcont i k (by omega) hk

/-- Failures that have been visited since keep a set usable. -/
theorem GrowsByFailures.failsBelow {region : Nat → Prop} {n : Nat} {v v' : BitSet}
    (h : GrowsByFailures p input region v v') (hv : FailsBelow p input region n v) :
    FailsBelow p input region n v' := by
  intro u hu hb hcont m k hm hk
  rcases h u hb hcont with hold | ⟨-, i, hfail⟩
  · exact hv u hu hb hold m k hm hk
  · exact (hfail.unique hk).2.symm

/-- The pair of a thread that fails is itself a failure. -/
theorem growsByFailures_insert {region : Nat → Prop} {n : Nat} {v v' : BitSet} {t : Thread}
    (hv : Roomy p input v) (ht : t.InBounds p input) (hr : region t.inst)
    (hfail : Outcomes p input n t [])
    (h : GrowsByFailures p input region (v.insert (t.key p)) v') :
    GrowsByFailures p input region v v' := by
  intro u hb hcont
  rcases h u hb hcont with hold | hnew
  · rcases (hv.contains_insert_iff ht).mp hold with heq | hold
    · have hbeside := ht.beside_of_key_eq hb heq.symm
      obtain ⟨k, hk, hlen⟩ := hfail.beside hbeside
      obtain rfl := List.length_eq_zero_iff.mp hlen
      exact .inr ⟨hbeside.1 ▸ hr, n, hk⟩
    · exact .inl hold
  · exact .inr hnew

/-- Growing by failures twice is growing by failures. -/
theorem GrowsByFailures.trans {region : Nat → Prop} {v v' v'' : BitSet}
    (h : GrowsByFailures p input region v v') (h' : GrowsByFailures p input region v' v'') :
    GrowsByFailures p input region v v'' := by
  intro u hb hcont
  rcases h' u hb hcont with hmid | hnew
  · exact h u hb hmid
  · exact .inr hnew

/-- A search goes on with the rest of the stack if the pair of a thread has been visited. -/
theorem fallsThrough_visited {region : Nat → Prop} {fuel : Nat} {t : Thread} {rest : List Thread}
    {v : BitSet} (hcont : v.contains (t.key p) = true) (hv : Roomy p input v)
    (hfuel : Enough p input (fuel + 1) (t :: rest) v) :
    FallsThrough p input region (fuel + 1) t rest v :=
  ⟨fuel, Nat.lt_succ_self fuel, v, runThreads_visited hcont, hfuel.drop, hv, fun _ _ => .inl⟩

/-- A search goes on with the rest of the stack behind a thread that fails, once all that comes of
the thread has been run. -/
theorem fallsThrough_threads {region : Nat → Prop} {fuel fuel' n : Nat} {t : Thread}
    {rest next : List Thread} {v v' : BitSet} (hcont : v.contains (t.key p) = false)
    (hv : Roomy p input v) (hb : t.InBounds p input) (hreg : region t.inst)
    (hfail : Outcomes p input n t []) (hstep : t.step p input = .threads next)
    (hlt : fuel' < fuel + 1)
    (hrun : runThreads p input fuel (next ++ rest) (v.insert (t.key p)) =
      runThreads p input fuel' rest v')
    (hfuel' : Enough p input fuel' rest v') (hv' : Roomy p input v')
    (hgrow : GrowsByFailures p input region (v.insert (t.key p)) v') :
    FallsThrough p input region (fuel + 1) t rest v :=
  ⟨fuel', hlt, v', (runThreads_threads hcont hstep).trans hrun, hfuel', hv',
    growsByFailures_insert hv hb hreg hfail hgrow⟩

/-- A search that runs a thread of a straight region returns its first outcome; if it has none, the
search goes on with the rest of the stack. -/
theorem runThreads_outcomes {region : Nat → Prop} (hp : p.Closed input)
    (hr : ∀ t : Thread, region t.inst → ∀ next, t.step p input = .threads next →
      ∀ c ∈ next, region c.inst) {n : Nat} {t : Thread} {l : List (List (Nat × Nat))}
    (h : Outcomes p input n t l) : ∀ {fuel : Nat} {rest : List Thread} {v : BitSet},
      region t.inst → t.InBounds p input → Roomy p input v →
      Enough p input fuel (t :: rest) v → FailsBelow p input region n v →
      (∀ a k, l = a :: k → runThreads p input fuel (t :: rest) v = some a) ∧
        (l = [] → FallsThrough p input region fuel t rest v) := by
  induction h with
  | @accepted t h =>
    intro fuel rest v hreg hb hv hfuel hfails
    obtain ⟨fuel, rfl⟩ := hfuel.exists_succ
    have hnew : v.contains (t.key p) = false := by
      by_contra hcont
      exact absurd (hfails t hreg hb (by simpa using hcont) 0 _ le_rfl (.accepted h)) (by simp)
    refine ⟨fun a k heq => ?_, fun heq => absurd heq (by simp)⟩
    cases heq
    exact runThreads_accepted hnew h
  | @dead t h =>
    intro fuel rest v hreg hb hv hfuel hfails
    obtain ⟨fuel, rfl⟩ := hfuel.exists_succ
    refine ⟨fun a k heq => absurd heq (by simp), fun _ => ?_⟩
    cases hcont : v.contains (t.key p) with
    | true => exact fallsThrough_visited hcont hv hfuel
    | false =>
      exact fallsThrough_threads hcont hv hb hreg (.dead h) h (Nat.lt_succ_self fuel) rfl
        (hfuel.run hv hb hcont h) (hv.insert _) fun _ _ => .inl
  | @one t c n l h hc ih =>
    intro fuel rest v hreg hb hv hfuel hfails
    obtain ⟨fuel, rfl⟩ := hfuel.exists_succ
    have hout := Outcomes.one h hc
    cases hcont : v.contains (t.key p) with
    | true =>
      obtain rfl := hfails t hreg hb hcont _ _ le_rfl hout
      exact ⟨fun a k heq => absurd heq (by simp), fun _ => fallsThrough_visited hcont hv hfuel⟩
    | false =>
      have hmem : c ∈ [c] := List.mem_singleton_self c
      obtain ⟨hsome, hnone⟩ := ih (hr t hreg _ h c hmem) (hp t hb _ h c hmem) (hv.insert _)
        (hfuel.run hv hb hcont h) (hfails.insert hv hb hout (Nat.lt_succ_self n))
      refine ⟨fun a k heq => (runThreads_threads hcont h).trans (hsome a k heq), ?_⟩
      rintro rfl
      obtain ⟨fuel', hlt, v', hrun, hfuel', hv', hgrow⟩ := hnone rfl
      exact fallsThrough_threads hcont hv hb hreg hout h (by omega) hrun hfuel' hv' hgrow
  | @two t c d n m l k h hc hd ihc ihd =>
    intro fuel rest v hreg hb hv hfuel hfails
    obtain ⟨fuel, rfl⟩ := hfuel.exists_succ
    have hout := Outcomes.two h hc hd
    have hn : n < Nat.max n m + 1 := Nat.lt_succ_of_le (Nat.le_max_left n m)
    have hm : m < Nat.max n m + 1 := Nat.lt_succ_of_le (Nat.le_max_right n m)
    cases hcont : v.contains (t.key p) with
    | true =>
      have hnil := hfails t hreg hb hcont _ _ le_rfl hout
      exact ⟨fun a k heq => absurd (hnil.symm.trans heq) (by simp),
        fun _ => fallsThrough_visited hcont hv hfuel⟩
    | false =>
      have hcmem : c ∈ [c, d] := List.mem_cons_self
      have hdmem : d ∈ [c, d] := List.mem_cons_of_mem c (List.mem_singleton_self d)
      have hstart : runThreads p input (fuel + 1) (t :: rest) v =
          runThreads p input fuel (c :: d :: rest) (v.insert (t.key p)) :=
        runThreads_threads hcont h
      obtain ⟨hsome, hnone⟩ := ihc (hr t hreg _ h c hcmem) (hp t hb _ h c hcmem) (hv.insert _)
        (hfuel.run hv hb hcont h) (hfails.insert hv hb hout hn)
      cases l with
      | cons a l =>
        refine ⟨fun b k heq => ?_, fun heq => absurd heq (by simp)⟩
        cases heq
        exact hstart.trans (hsome a l rfl)
      | nil =>
        -- The first thread fails, so the search comes to the second one.
        obtain ⟨fuel', hlt, v', hrun, hfuel', hv', hgrow⟩ := hnone rfl
        have hfails' := hgrow.failsBelow (hfails.insert hv hb hout hm)
        obtain ⟨hsome', hnone'⟩ := ihd (hr t hreg _ h d hdmem) (hp t hb _ h d hdmem) hv' hfuel'
          hfails'
        refine ⟨fun a k heq => (hstart.trans hrun).trans (hsome' a k heq), ?_⟩
        rintro rfl
        obtain ⟨fuel'', hlt', v'', hrun', hfuel'', hv'', hgrow'⟩ := hnone' rfl
        exact fallsThrough_threads hcont hv hb hreg hout h (by omega) (hrun.trans hrun') hfuel''
          hv'' (hgrow.trans hgrow')

/-- Visited pairs of a region at which every thread fails. -/
def AllFail (p : Program) (input : Array Char) (region : Nat → Prop) (v : BitSet) : Prop :=
  ∀ u : Thread, region u.inst → u.InBounds p input → v.contains (u.key p) = true →
    ∀ m k, Outcomes p input m u k → k = []

/-- Failures that have been visited since change nothing about it. -/
theorem GrowsByFailures.allFail {region : Nat → Prop} {v v' : BitSet}
    (h : GrowsByFailures p input region v v') (hv : AllFail p input region v) :
    AllFail p input region v' := by
  intro u hu hb hcont m k hk
  rcases h u hb hcont with hold | ⟨-, i, hfail⟩
  · exact hv u hu hb hold m k hk
  · exact (hfail.unique hk).2.symm

/-- Nor does a pair outside of the region. -/
theorem AllFail.insert {region : Nat → Prop} {v : BitSet} (h : AllFail p input region v)
    (hv : Roomy p input v) {t : Thread} (ht : t.InBounds p input) (hout : ¬region t.inst) :
    AllFail p input region (v.insert (t.key p)) := by
  intro u hu hb hcont m k hk
  rcases (hv.contains_insert_iff ht).mp hcont with heq | hold
  · exact absurd ((ht.beside_of_key_eq hb heq.symm).1 ▸ hu) hout
  · exact h u hu hb hold m k hk

/-- A successful search has run one of its threads into a region without circles, at the end of
which matches end, and returns the first outcome of the thread that has entered it. -/
theorem runThreads_enters {region : Nat → Prop} {entry : Nat} (hp : p.Closed input)
    (hr : Straight p input region entry)
    (hend : ∀ t : Thread, t.step p input = .accepted → region t.inst) {a : List (Nat × Nat)} :
    ∀ {fuel : Nat} {stack : List Thread} {v : BitSet}, (∀ t ∈ stack, t.InBounds p input) →
      (∀ t ∈ stack, region t.inst → t.inst = entry) → Roomy p input v →
      Enough p input fuel stack v → AllFail p input region v →
      runThreads p input fuel stack v = some a →
      ∃ t ∈ stack, ∃ u m n l, Enters p input region m t u ∧ Outcomes p input n u (a :: l) := by
  intro fuel
  induction fuel using Nat.strong_induction_on with
  | _ fuel ih =>
    intro stack v hstack hentry hv hfuel hfail hrun
    obtain ⟨fuel, rfl⟩ := hfuel.exists_succ
    cases stack with
    | nil => simp [runThreads] at hrun
    | cons t rest =>
      obtain ⟨hb, hrest⟩ := List.forall_mem_cons.mp hstack
      obtain ⟨hfirst, hentry'⟩ := List.forall_mem_cons.mp hentry
      cases hcont : v.contains (t.key p) with
      | true =>
        rw [runThreads_visited hcont] at hrun
        obtain ⟨u, hu, h⟩ := ih fuel (Nat.lt_succ_self _) hrest hentry' hv hfuel.drop hfail hrun
        exact ⟨u, List.mem_cons_of_mem t hu, h⟩
      | false =>
        by_cases hreg : region t.inst
        · obtain ⟨n, l, hout⟩ := hr.outcomes t (hfirst hreg) hb
          obtain ⟨hsome, hnone⟩ := runThreads_outcomes hp hr.closed hout hreg hb hv hfuel
            fun u hu hub huv m k _ hk => hfail u hu hub huv m k hk
          cases l with
          | cons b l =>
            rw [hsome b l rfl, Option.some.injEq] at hrun
            subst hrun
            exact ⟨t, List.mem_cons_self, t, 0, n, l, .here hreg, hout⟩
          | nil =>
            obtain ⟨fuel', hlt, v', hrun', hfuel', hv', hgrow⟩ := hnone rfl
            rw [hrun'] at hrun
            obtain ⟨u, hu, h⟩ := ih fuel' hlt hrest hentry' hv' hfuel' (hgrow.allFail hfail) hrun
            exact ⟨u, List.mem_cons_of_mem t hu, h⟩
        · cases hstep : t.step p input with
          | accepted => exact absurd (hend t hstep) hreg
          | threads next =>
            have hstack' := List.forall_mem_append.mpr ⟨hp t hb next hstep, hrest⟩
            have hentry'' := List.forall_mem_append.mpr ⟨hr.enters t hreg next hstep, hentry'⟩
            rw [runThreads_threads hcont hstep] at hrun
            obtain ⟨u, hu, w, m, n, l, hw, hout⟩ := ih fuel (Nat.lt_succ_self _) hstack' hentry''
              (hv.insert _) (hfuel.run hv hb hcont hstep) (hfail.insert hv hb hreg) hrun
            rcases List.mem_append.mp hu with hu | hu
            · exact ⟨t, List.mem_cons_self, w, m + 1, n, l, .step hreg hstep hu hw, hout⟩
            · exact ⟨u, List.mem_cons_of_mem t hu, w, m, n, l, hw, hout⟩

/-- In rows of threads beside one another each thread of the first row stands beside one of the
second. -/
theorem exists_beside_of_mem {l k : List Thread} (h : List.Forall₂ Thread.Beside l k) {c : Thread}
    (hc : c ∈ l) : ∃ d ∈ k, c.Beside d := by
  induction h with
  | nil => exact absurd hc List.not_mem_nil
  | @cons _ d _ _ hbeside _ ih =>
    rcases List.mem_cons.mp hc with rfl | hc
    · exact ⟨d, List.mem_cons_self, hbeside⟩
    · obtain ⟨e, he, hce⟩ := ih hc
      exact ⟨e, List.mem_cons_of_mem d he, hce⟩

/-- Visited pairs from which every instruction leads to a visited pair or to one on the stack, and
at which no match ends. -/
def Explored (p : Program) (input : Array Char) (stack : List Thread) (v : BitSet) : Prop :=
  ∀ u : Thread, u.InBounds p input → v.contains (u.key p) = true →
    ∃ next, u.step p input = .threads next ∧
      ∀ c ∈ next, v.contains (c.key p) = true ∨ ∃ t ∈ stack, t.key p = c.key p

/-- A thread at a visited pair is of no use on the stack. -/
theorem Explored.drop {t : Thread} {rest : List Thread} {v : BitSet}
    (h : Explored p input (t :: rest) v) (hcont : v.contains (t.key p) = true) :
    Explored p input rest v := by
  intro u hb hu
  obtain ⟨next, hstep, hnext⟩ := h u hb hu
  refine ⟨next, hstep, fun c hc => ?_⟩
  rcases hnext c hc with hold | ⟨w, hw, hkey⟩
  · exact .inl hold
  · rcases List.mem_cons.mp hw with rfl | hw
    · exact .inl (hkey ▸ hcont)
    · exact .inr ⟨w, hw, hkey⟩

/-- A thread at a new pair is replaced by what it goes on as, and its pair is visited. -/
theorem Explored.run {t : Thread} {rest next : List Thread} {v : BitSet}
    (h : Explored p input (t :: rest) v) (hv : Roomy p input v) (ht : t.InBounds p input)
    (hstep : t.step p input = .threads next) :
    Explored p input (next ++ rest) (v.insert (t.key p)) := by
  intro u hb hu
  rcases (hv.contains_insert_iff ht).mp hu with heq | hold
  · rcases Thread.step_beside p input (hb.beside_of_key_eq ht heq) with
      ⟨-, hacc⟩ | ⟨next', next'', hu', ht', hall⟩
    · simp [hstep] at hacc
    · rw [hstep] at ht'
      cases ht'
      refine ⟨next', hu', fun c hc => .inr ?_⟩
      obtain ⟨d, hd, hbeside⟩ := exists_beside_of_mem hall hc
      refine ⟨d, List.mem_append_left rest hd, ?_⟩
      unfold Thread.key
      rw [hbeside.1, hbeside.2]
  · obtain ⟨next', hstep', hnext⟩ := h u hb hold
    refine ⟨next', hstep', fun c hc => ?_⟩
    rcases hnext c hc with hold | ⟨w, hw, hkey⟩
    · exact .inl ((hv.contains_insert_iff ht).mpr (.inr hold))
    · rcases List.mem_cons.mp hw with rfl | hw
      · exact .inl ((hv.contains_insert_iff ht).mpr (.inl hkey.symm))
      · exact .inr ⟨w, List.mem_append_right next hw, hkey⟩

/-- A failed search has visited every pair of its stack, and all that can be reached from them. -/
theorem runThreads_explores (hp : p.Closed input) :
    ∀ {fuel : Nat} {stack : List Thread} {v : BitSet}, (∀ t ∈ stack, t.InBounds p input) →
      Roomy p input v → Enough p input fuel stack v → Explored p input stack v →
      runThreads p input fuel stack v = none →
      ∃ v' : BitSet, (∀ n, v.contains n = true → v'.contains n = true) ∧
        (∀ t ∈ stack, v'.contains (t.key p) = true) ∧ Explored p input [] v' := by
  intro fuel
  induction fuel with
  | zero =>
    intro stack v _ _ hfuel
    obtain ⟨_, h⟩ := hfuel.exists_succ
    cases h
  | succ fuel ih =>
    intro stack v hstack hv hfuel hexp hrun
    cases stack with
    | nil => exact ⟨v, fun _ h => h, fun _ h => absurd h List.not_mem_nil, hexp⟩
    | cons t rest =>
      obtain ⟨hb, hrest⟩ := List.forall_mem_cons.mp hstack
      cases hcont : v.contains (t.key p) with
      | true =>
        rw [runThreads_visited hcont] at hrun
        obtain ⟨v', hsub, hall, h⟩ := ih hrest hv hfuel.drop (hexp.drop hcont) hrun
        exact ⟨v', hsub, List.forall_mem_cons.mpr ⟨hsub _ hcont, hall⟩, h⟩
      | false =>
        cases hstep : t.step p input with
        | accepted => simp [runThreads_accepted hcont hstep] at hrun
        | threads next =>
          rw [runThreads_threads hcont hstep] at hrun
          have hstack' := List.forall_mem_append.mpr ⟨hp t hb next hstep, hrest⟩
          obtain ⟨v', hsub, hall, h⟩ := ih hstack' (hv.insert _) (hfuel.run hv hb hcont hstep)
            (hexp.run hv hb hstep) hrun
          have hinsert : ∀ n, n = t.key p ∨ v.contains n = true → v'.contains n = true :=
            fun n hn => hsub n ((hv.contains_insert_iff hb).mpr hn)
          exact ⟨v', fun n hn => hinsert n (.inr hn), List.forall_mem_cons.mpr
            ⟨hinsert _ (.inl rfl), (List.forall_mem_append.mp hall).2⟩, h⟩

/-- At a pair from which all that can be reached has been visited no thread can be accepted. -/
theorem Explored.not_canAccept (hp : p.Closed input) {v : BitSet} (hv : Explored p input [] v)
    {t : Thread} (ht : t.InBounds p input) (hcont : v.contains (t.key p) = true) :
    ¬t.CanAccept p input := by
  rintro ⟨u, hreach, hacc⟩
  induction hreach with
  | refl t =>
    obtain ⟨next, hstep, -⟩ := hv t ht hcont
    simp [hstep] at hacc
  | @step t c u next hstep hc _ ih =>
    obtain ⟨next', hstep', hnext⟩ := hv t ht hcont
    rw [hstep] at hstep'
    cases hstep'
    rcases hnext c hc with h | ⟨w, hw, -⟩
    · exact ih (hp t ht _ hstep c hc) h hacc
    · exact absurd hw List.not_mem_nil

/-- The threads a search starts with: one at each place, at the first instruction. -/
def startAt (place : Nat) : Thread :=
  ⟨0, place, []⟩

/-- What a search starts with is in bounds, and it has room and fuel enough. -/
theorem search_start (input : Array Char) (hpos : 0 < p.size) :
    (∀ t ∈ (List.range (input.size + 1)).map startAt, t.InBounds p input) ∧
      Roomy p input (BitSet.empty ((input.size + 1) * p.size)) ∧
      Enough p input (input.size + 1 + 2 * p.size * (input.size + 1) + 1)
        ((List.range (input.size + 1)).map startAt)
        (BitSet.empty ((input.size + 1) * p.size)) := by
  refine ⟨?_, ?_, ?_⟩
  · intro t ht
    obtain ⟨place, hplace, rfl⟩ := List.mem_map.mp ht
    exact ⟨hpos, Nat.le_of_lt_succ (List.mem_range.mp hplace)⟩
  · unfold Roomy BitSet.empty pairCount
    rw [Array.size_replicate]
    exact Nat.lt_succ_self _
  · have hcard : (BitSet.absent (BitSet.empty ((input.size + 1) * p.size))
        (pairCount p input)).card = pairCount p input := by
      simp [BitSet.absent]
    unfold Enough
    rw [hcard, List.length_map, List.length_range, pairCount, Nat.mul_comm (input.size + 1) p.size,
      ← Nat.mul_assoc]

/-- A successful search returns the first outcome of a thread that has entered a region without
circles from one of the places. -/
theorem search_enters {region : Nat → Prop} {entry : Nat} (hpos : 0 < p.size)
    (hp : p.Closed input) (hr : Straight p input region entry) (hstart : region 0 → 0 = entry)
    (hend : ∀ t : Thread, t.step p input = .accepted → region t.inst) {a : List (Nat × Nat)}
    (h : p.search input = some a) :
    ∃ place ≤ input.size, ∃ u m n l,
      Enters p input region m (startAt place) u ∧ Outcomes p input n u (a :: l) := by
  obtain ⟨hstack, hroomy, henough⟩ := search_start input hpos
  have hentry : ∀ t ∈ (List.range (input.size + 1)).map startAt, region t.inst → t.inst = entry := by
    intro t ht
    obtain ⟨place, -, rfl⟩ := List.mem_map.mp ht
    exact hstart
  obtain ⟨t, ht, u, m, n, l, hu, hout⟩ := runThreads_enters hp hr hend hstack hentry hroomy henough
    (fun u _ _ hu => absurd hu (by simp)) h
  obtain ⟨place, hplace, rfl⟩ := List.mem_map.mp ht
  exact ⟨place, Nat.le_of_lt_succ (List.mem_range.mp hplace), u, m, n, l, hu, hout⟩

/-- A search succeeds if a thread can be accepted that starts at some place. -/
theorem isSome_search_of_canAccept (hpos : 0 < p.size) (hp : p.Closed input) {place : Nat}
    (hplace : place ≤ input.size) (h : (startAt place).CanAccept p input) :
    (p.search input).isSome = true := by
  obtain ⟨hstack, hroomy, henough⟩ := search_start input hpos
  rw [Option.isSome_iff_ne_none]
  intro hnone
  obtain ⟨v', -, hall, hexp⟩ := runThreads_explores hp hstack hroomy henough
    (fun u _ hu => absurd hu (by simp)) hnone
  have hmem : startAt place ∈ (List.range (input.size + 1)).map startAt :=
    List.mem_map_of_mem (List.mem_range.mpr (Nat.lt_succ_of_le hplace))
  exact hexp.not_canAccept hp (hstack _ hmem) (hall _ hmem) h

end

end PathRouting.Regex
