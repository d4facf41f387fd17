import PathRouting.Proofs.Regex.Preference

/-!
# Searching for a row of expressions

The program of a row of expressions never runs out of its bounds. If a search for it succeeds, the
first part of the row has been matched somehow and the second part, all rounds of which take
something, in the preferred way. A search succeeds if some match exists.
-/

namespace PathRouting.Regex

/-- The instructions other than the next one at which an instruction may go on. -/
def Inst.targets : Inst → List Nat
  | .jump target => [target]
  | .fork first second => [first, second]
  | _ => []

/-- The program of a row of expressions. -/
def rowProgram (es : List Expr) : Program :=
  (codeAll es 0 ++ [Inst.accept]).toArray

section

variable {p : Program} {input : Array Char}

/-- A thread goes on at the next instruction or at a target, further on in the text. -/
theorem Thread.step_goes {t c : Thread} {next : List Thread} (h : t.step p input = .threads next)
    (hc : c ∈ next) : ∃ inst, p[t.inst]? = some inst ∧ inst ≠ .accept ∧
      (c.inst = t.inst + 1 ∨ c.inst ∈ inst.targets) ∧
      (t.place ≤ input.size → c.place ≤ input.size) := by
  unfold step at h
  cases hinst : p[t.inst]? with
  | none =>
    rw [hinst] at h
    cases h
    exact absurd hc List.not_mem_nil
  | some inst =>
    rw [hinst] at h
    refine ⟨inst, rfl, ?_⟩
    cases inst with
    | take s =>
      dsimp only at h
      split at h
      · rename_i d hd
        split at h
        · cases h
          obtain rfl := List.mem_singleton.mp hc
          obtain ⟨hlt, -⟩ := Array.getElem?_eq_some_iff.mp hd
          exact ⟨by simp, .inl rfl, fun _ => hlt⟩
        · cases h
          exact absurd hc List.not_mem_nil
      · cases h
        exact absurd hc List.not_mem_nil
    | check l =>
      dsimp only at h
      generalize l.holds _ _ = holds at h
      cases holds with
      | true =>
        cases h
        obtain rfl := List.mem_singleton.mp hc
        exact ⟨by simp, .inl rfl, id⟩
      | false =>
        cases h
        exact absurd hc List.not_mem_nil
    | save slot =>
      cases h
      obtain rfl := List.mem_singleton.mp hc
      exact ⟨by simp, .inl rfl, id⟩
    | jump target =>
      cases h
      obtain rfl := List.mem_singleton.mp hc
      exact ⟨by simp, .inr (List.mem_singleton_self _), id⟩
    | fork first second =>
      cases h
      rcases List.mem_cons.mp hc with rfl | hc
      · exact ⟨by simp, .inr List.mem_cons_self, id⟩
      · obtain rfl := List.mem_singleton.mp hc
        exact ⟨by simp, .inr (List.mem_cons_of_mem _ (List.mem_singleton_self _)), id⟩
    | accept => cases h

/-- Only an instruction that ends a match ends a match. -/
theorem Thread.inst_of_step_accepted {t : Thread} (h : t.step p input = .accepted) :
    p[t.inst]? = some .accept := by
  unfold step at h
  cases hinst : p[t.inst]? with
  | none =>
    rw [hinst] at h
    cases h
  | some inst =>
    rw [hinst] at h
    cases inst with
    | take s =>
      dsimp only at h
      repeat' split at h
      all_goals cases h
    | check l =>
      dsimp only at h
      generalize l.holds _ _ = holds at h
      cases holds <;> cases h
    | save slot => cases h
    | jump target => cases h
    | fork first second => cases h
    | accept => rfl

/-- A thread with an outcome can be accepted. -/
theorem Outcomes.canAccept {n : Nat} {t : Thread} {l : List (List (Nat × Nat))}
    (h : Outcomes p input n t l) (hl : l ≠ []) : t.CanAccept p input := by
  induction h with
  | accepted h => exact ⟨_, .refl _, h⟩
  | dead h => exact absurd rfl hl
  | one h _ ih =>
    obtain ⟨u, hu, hacc⟩ := ih hl
    exact ⟨u, .step h (List.mem_singleton_self _) hu, hacc⟩
  | @two t c d n m l k h _ _ ihc ihd =>
    by_cases hnil : l = []
    · subst hnil
      obtain ⟨u, hu, hacc⟩ := ihd hl
      exact ⟨u, .step h (List.mem_cons_of_mem _ (List.mem_singleton_self _)) hu, hacc⟩
    · obtain ⟨u, hu, hacc⟩ := ihc hnil
      exact ⟨u, .step h List.mem_cons_self hu, hacc⟩

end

/-- No instruction of a row ends a match, and none leads out of given bounds. -/
def Within (lo hi : Nat) (code : List Inst) : Prop :=
  ∀ inst ∈ code, inst ≠ .accept ∧ ∀ target ∈ inst.targets, lo ≤ target ∧ target ≤ hi

/-- Wider bounds are bounds. -/
theorem Within.mono {lo hi lo' hi' : Nat} {code : List Inst} (h : Within lo hi code) (hlo : lo' ≤ lo)
    (hhi : hi ≤ hi') : Within lo' hi' code :=
  fun inst hinst => ⟨(h inst hinst).1, fun target htarget =>
    ⟨hlo.trans ((h inst hinst).2 target htarget).1, ((h inst hinst).2 target htarget).2.trans hhi⟩⟩

/-- A row stays within bounds if both of its parts do. -/
theorem within_append {lo hi : Nat} {l k : List Inst} :
    Within lo hi (l ++ k) ↔ Within lo hi l ∧ Within lo hi k := by
  unfold Within
  simp only [List.mem_append]
  exact ⟨fun h => ⟨fun i hi => h i (.inl hi), fun i hi => h i (.inr hi)⟩,
    fun h i hi => hi.elim (h.1 i) (h.2 i)⟩

/-- A row stays within bounds if its first instruction and the others do. -/
theorem within_cons {lo hi : Nat} {inst : Inst} {l : List Inst} :
    Within lo hi (inst :: l) ↔
      (inst ≠ .accept ∧ ∀ target ∈ inst.targets, lo ≤ target ∧ target ≤ hi) ∧ Within lo hi l := by
  unfold Within
  exact List.forall_mem_cons

/-- No instruction leads anywhere. -/
theorem within_nil {lo hi : Nat} : Within lo hi [] :=
  fun _ h => absurd h List.not_mem_nil

/-- A branch into a body and past it leads to both. -/
theorem targets_forkInto {greedy : Bool} {body past lo hi : Nat} (hb : lo ≤ body ∧ body ≤ hi)
    (hp : lo ≤ past ∧ past ≤ hi) : forkInto greedy body past ≠ .accept ∧
      ∀ target ∈ (forkInto greedy body past).targets, lo ≤ target ∧ target ≤ hi := by
  refine ⟨by cases greedy <;> simp [forkInto], fun target htarget => ?_⟩
  have hcases : target = body ∨ target = past := by
    cases greedy
    · exact (by simpa [forkInto, Inst.targets] using htarget : target = past ∨ target = body).symm
    · simpa [forkInto, Inst.targets] using htarget
  rcases hcases with rfl | rfl
  · exact hb
  · exact hp

/-- The code of a number of rounds stays within its bounds. -/
theorem within_rounds {code : Nat → List Inst} {size : Nat}
    (h : ∀ start, Within start (start + size) (code start)) (count start : Nat) :
    Within start (start + count * size) (rounds code size count start) := by
  induction count generalizing start with
  | zero => exact within_nil
  | succ count ih =>
    rw [Nat.succ_mul]
    exact within_append.mpr
      ⟨(h start).mono le_rfl (by omega), (ih (start + size)).mono (by omega) (by omega)⟩

/-- The code of a number of rounds each of which may be the last stays within its bounds. -/
theorem within_optionalRounds {code : Nat → List Inst} {size : Nat}
    (h : ∀ start, Within start (start + size) (code start)) (greedy : Bool) {past : Nat}
    (count start : Nat) (hpast : past = start + count * (size + 1)) :
    Within start past (optionalRounds greedy code size past count start) := by
  induction count generalizing start with
  | zero => exact within_nil
  | succ count ih =>
    rw [Nat.succ_mul] at hpast
    rw [optionalRounds, List.cons_append, within_cons, within_append]
    exact ⟨targets_forkInto (by omega) (by omega), (h _).mono (by omega) (by omega),
      (ih _ (by omega)).mono (by omega) le_rfl⟩

/-- The code of an expression stays within its bounds. -/
theorem Expr.within_code (e : Expr) (start : Nat) :
    Within start (start + e.size) (e.code start) := by
  induction e generalizing start with
  | empty => exact within_nil
  | set s => exact within_cons.mpr ⟨by simp [Inst.targets], within_nil⟩
  | look l => exact within_cons.mpr ⟨by simp [Inst.targets], within_nil⟩
  | seq a b iha ihb =>
    dsimp only [code, size]
    exact within_append.mpr
      ⟨(iha start).mono le_rfl (by omega), (ihb _).mono (by omega) (by omega)⟩
  | alt a b iha ihb =>
    dsimp only [code, size]
    rw [List.cons_append, within_cons, within_append, within_cons]
    refine ⟨?_, (iha _).mono (by omega) (by omega), ?_, (ihb _).mono (by omega) (by omega)⟩
    · refine ⟨by simp, fun target htarget => ?_⟩
      have hcases : target = start + 1 ∨ target = start + a.size + 2 := by
        simpa [Inst.targets] using htarget
      omega
    · refine ⟨by simp, fun target htarget => ?_⟩
      obtain rfl := List.mem_singleton.mp htarget
      omega
  | loop min max greedy e ih =>
    cases max with
    | some max =>
      dsimp only [code, size]
      exact within_append.mpr ⟨(within_rounds ih _ _).mono le_rfl (by omega),
        (within_optionalRounds ih greedy _ _ rfl).mono (by omega) (by omega)⟩
    | none =>
      dsimp only [code, size]
      split
      · rw [List.cons_append, within_cons, within_append, within_cons]
        refine ⟨targets_forkInto (by omega) (by omega), (ih _).mono (by omega) (by omega), ?_,
          within_nil⟩
        split
        · refine ⟨by simp, fun target htarget => ?_⟩
          obtain rfl := List.mem_singleton.mp htarget
          omega
        · exact targets_forkInto (by omega) (by omega)
      · rename_i hmin
        obtain ⟨min, rfl⟩ := Nat.exists_eq_succ_of_ne_zero hmin
        have hsub : min.succ - 1 = min := rfl
        rw [hsub, Nat.succ_mul, within_append, within_append, within_cons]
        exact ⟨⟨(within_rounds ih _ _).mono le_rfl (by omega), (ih _).mono (by omega) (by omega)⟩,
          targets_forkInto (by omega) (by omega), within_nil⟩
  | group index e ih =>
    dsimp only [code, size]
    rw [List.cons_append, within_cons, within_append, within_cons]
    exact ⟨by simp [Inst.targets], (ih _).mono (by omega) (by omega), by simp [Inst.targets],
      within_nil⟩

/-- The code of a row of expressions stays within its bounds. -/
theorem within_codeAll (es : List Expr) (start : Nat) :
    Within start (start + sizeAll es) (codeAll es start) := by
  induction es generalizing start with
  | nil => exact within_nil
  | cons e rest ih =>
    have hsize : sizeAll (e :: rest) = e.size + sizeAll rest := rfl
    rw [hsize]
    exact within_append.mpr
      ⟨(e.within_code start).mono le_rfl (by omega), (ih _).mono (by omega) (by omega)⟩

/-- The code of two rows is the code of the one and of the other. -/
theorem codeAll_append (es ds : List Expr) (start : Nat) :
    codeAll (es ++ ds) start = codeAll es start ++ codeAll ds (start + sizeAll es) := by
  induction es generalizing start with
  | nil => rfl
  | cons e rest ih =>
    have hsize : sizeAll (e :: rest) = e.size + sizeAll rest := rfl
    rw [List.cons_append, codeAll, ih, codeAll, List.append_assoc, hsize, Nat.add_assoc]

/-- The size of two rows. -/
theorem sizeAll_append (es ds : List Expr) : sizeAll (es ++ ds) = sizeAll es + sizeAll ds := by
  induction es with
  | nil => exact (Nat.zero_add _).symm
  | cons e rest ih =>
    have hsize (fs : List Expr) : sizeAll (e :: fs) = e.size + sizeAll fs := rfl
    rw [List.cons_append, hsize, ih, hsize, Nat.add_assoc]

/-- Expressions that are empty leave no code. -/
theorem codeAll_filter (es : List Expr) (start : Nat) :
    codeAll (es.filter (· ≠ .empty)) start = codeAll es start := by
  induction es generalizing start with
  | nil => rfl
  | cons e rest ih =>
    by_cases he : e = .empty
    · subst he
      rw [List.filter_cons_of_neg (by simp), ih]
      rfl
    · rw [List.filter_cons_of_pos (by simpa using he), codeAll, ih, codeAll]

/-- The code of a sequence is the code of its parts. -/
theorem Expr.code_sequence (es : List Expr) (start : Nat) :
    (sequence es).code start = codeAll es start := by
  induction es generalizing start with
  | nil => rfl
  | cons e rest ih =>
    cases rest with
    | nil => exact (List.append_nil _).symm
    | cons d rest =>
      rw [sequence, code, ih]
      · rfl
      · simp

/-- The program of a concatenation is that of its parts in a row. -/
theorem Expr.program_concat (es : List Expr) : (concat es).program = rowProgram es := by
  unfold program concat rowProgram
  rw [code_sequence, codeAll_filter]

section

variable {input : Array Char}

/-- The instructions of the program of a row. -/
theorem getElem?_rowProgram (es : List Expr) (i : Nat) :
    (rowProgram es)[i]? = if i < sizeAll es then (codeAll es 0)[i]?
      else if i = sizeAll es then some .accept else none := by
  unfold rowProgram
  rw [List.getElem?_toArray]
  split
  · rename_i h
    rw [List.getElem?_append_left (by rwa [length_codeAll])]
  · rename_i h
    rw [List.getElem?_append_right (by rw [length_codeAll]; omega), length_codeAll]
    split
    · rename_i heq
      simp [heq]
    · rw [List.getElem?_eq_none]
      simp only [List.length_singleton]
      omega

/-- The length of the program of a row. -/
theorem size_rowProgram (es : List Expr) : (rowProgram es).size = sizeAll es + 1 := by
  simp [rowProgram, length_codeAll]

/-- A thread in the code of a row goes on in the code or right behind it. -/
theorem step_rowProgram {es : List Expr} {t c : Thread} {next : List Thread}
    (h : t.step (rowProgram es) input = .threads next) (hc : c ∈ next) :
    t.inst < sizeAll es ∧ c.inst ≤ sizeAll es ∧
      (t.place ≤ input.size → c.place ≤ input.size) := by
  obtain ⟨inst, hinst, hne, hgoes, hplace⟩ := Thread.step_goes h hc
  rw [getElem?_rowProgram] at hinst
  split at hinst
  · rename_i hlt
    have hin := List.mem_of_getElem? hinst
    refine ⟨hlt, ?_, hplace⟩
    rcases hgoes with heq | hmem
    · omega
    · have := ((within_codeAll es 0 inst hin).2 _ hmem).2
      omega
  · split at hinst
    · cases hinst
      exact absurd rfl hne
    · cases hinst

/-- The program of a row never runs out of its bounds. -/
theorem closed_rowProgram (es : List Expr) : (rowProgram es).Closed input := by
  intro t ht next h c hc
  obtain ⟨-, hc', hplace⟩ := step_rowProgram h hc
  exact ⟨by rw [size_rowProgram]; omega, hplace ht.2⟩

/-- The code of the parts of a row stands in its program. -/
theorem located_rowProgram (es ds : List Expr) :
    Located (rowProgram (es ++ ds)) 0 (codeAll es 0) ∧
      Located (rowProgram (es ++ ds)) (sizeAll es) (codeAll ds (sizeAll es)) := by
  have hloc : Located (rowProgram (es ++ ds)) 0 (codeAll (es ++ ds) 0) := by
    intro k inst hk
    have hlt : k < sizeAll (es ++ ds) := by
      rw [← length_codeAll (es ++ ds) 0]
      exact (List.getElem?_eq_some_iff.mp hk).1
    rw [Nat.zero_add, getElem?_rowProgram, if_pos hlt]
    exact hk
  rw [codeAll_append, Located.append_iff, length_codeAll, Nat.zero_add] at hloc
  exact hloc

/-- What a thread in the second part of a row yields at the start of that part. -/
theorem yields_rowProgram (es : List Expr) {ds : List Expr} (hd : ∀ d ∈ ds, d.progressive = true)
    {x : Spot} (hx : x.place ≤ input.size) :
    Yields (rowProgram (es ++ ds)) input (x.thread (sizeAll es))
      ((endsAll input ds x).map Spot.saved) := by
  have hdelivers : Delivers _ input _ _ _ := delivers_codeAll ds hd (located_rowProgram es ds).2
  have hyields := hdelivers x (fun y => [y.saved]) hx fun y _ => ⟨0, .accepted ?_⟩
  · rwa [← List.map_eq_flatMap] at hyields
  · unfold Thread.step Spot.thread
    have hend : (rowProgram (es ++ ds))[sizeAll es + sizeAll ds]? = some .accept := by
      rw [getElem?_rowProgram, sizeAll_append, if_neg (Nat.lt_irrefl _), if_pos rfl]
    dsimp only
    rw [hend]

/-- From the second part of a row on the program is straight if all rounds there take something. -/
theorem straight_rowProgram (es : List Expr) {ds : List Expr}
    (hd : ∀ d ∈ ds, d.progressive = true) :
    Straight (rowProgram (es ++ ds)) input (sizeAll es ≤ ·) (sizeAll es) where
  closed := by
    intro t ht next h c hc
    obtain ⟨inst, hinst, hne, hgoes, -⟩ := Thread.step_goes h hc
    obtain ⟨hlt, -⟩ := step_rowProgram h hc
    rw [getElem?_rowProgram, if_pos hlt, codeAll_append,
      List.getElem?_append_right (by rwa [length_codeAll])] at hinst
    rcases hgoes with heq | hmem
    · omega
    · have := ((within_codeAll ds _ inst (List.mem_of_getElem? hinst)).2 _ hmem).1
      omega
  enters := by
    intro t ht next h c hc hge
    obtain ⟨inst, hinst, hne, hgoes, -⟩ := Thread.step_goes h hc
    obtain ⟨hlt, -⟩ := step_rowProgram h hc
    rw [getElem?_rowProgram, if_pos hlt, codeAll_append,
      List.getElem?_append_left (by rw [length_codeAll]; omega)] at hinst
    rcases hgoes with heq | hmem
    · omega
    · have := ((within_codeAll es 0 inst (List.mem_of_getElem? hinst)).2 _ hmem).2
      omega
  outcomes := by
    rintro ⟨inst, place, saved⟩ rfl ht
    obtain ⟨n, h⟩ := yields_rowProgram es hd (x := ⟨place, saved⟩) ht.2
    exact ⟨n, _, h⟩

/-- A successful search has matched the first part of a row and then the second part in the
preferred way. -/
theorem search_rowProgram (es : List Expr) {ds : List Expr} (hd : ∀ d ∈ ds, d.progressive = true)
    {saved : List (Nat × Nat)} (h : (rowProgram (es ++ ds)).search input = some saved) :
    ∃ place ≤ input.size, ∃ x y rest, RunAll input es ⟨place, []⟩ x ∧
      endsAll input ds x = y :: rest ∧ saved = y.saved := by
  have hpos : 0 < (rowProgram (es ++ ds)).size := by
    rw [size_rowProgram]
    exact Nat.succ_pos _
  have hend : ∀ t : Thread, t.step (rowProgram (es ++ ds)) input = .accepted →
      sizeAll es ≤ t.inst := by
    intro t ht
    by_contra hlt
    have hinst := Thread.inst_of_step_accepted ht
    rw [getElem?_rowProgram, if_pos (by rw [sizeAll_append]; omega)] at hinst
    exact (within_codeAll _ 0 _ (List.mem_of_getElem? hinst)).1 rfl
  obtain ⟨place, hplace, u, m, n, l, hu, hout⟩ := search_enters hpos (closed_rowProgram _)
    (straight_rowProgram es hd) (fun h => (Nat.le_zero.mp h).symm) hend h
  obtain ⟨x, k, -, hx, hu⟩ := passes_codeAll es (located_rowProgram es ds).1
    (fun i _ hi => by omega) m ⟨place, []⟩ u hu
  rw [Nat.zero_add] at hu
  have hu' : u = x.thread (sizeAll es) := by
    cases hu with
    | here _ => rfl
    | step hout _ _ _ => exact absurd le_rfl hout
  subst hu'
  obtain ⟨_, hyields⟩ := yields_rowProgram es hd (hx.place_le_size hplace)
  have heq := (hout.unique hyields).2
  cases hends : endsAll input ds x with
  | nil => simp [hends] at heq
  | cons y rest =>
    simp only [hends, List.map_cons, List.cons.injEq] at heq
    exact ⟨place, hplace, x, y, rest, hx, hends, heq.1⟩

/-- A search succeeds if a row all rounds of which take something can be matched from some
place. -/
theorem isSome_search_rowProgram {ds : List Expr} (hd : ∀ d ∈ ds, d.progressive = true)
    {place : Nat} (hplace : place ≤ input.size) (h : endsAll input ds ⟨place, []⟩ ≠ []) :
    ((rowProgram ds).search input).isSome = true := by
  have hpos : 0 < (rowProgram ds).size := by
    rw [size_rowProgram]
    exact Nat.succ_pos _
  obtain ⟨n, hyields⟩ := yields_rowProgram [] hd (x := ⟨place, []⟩) hplace
  exact isSome_search_of_canAccept hpos (closed_rowProgram ds) hplace
    (hyields.canAccept (by simpa using h))

end

end PathRouting.Regex
