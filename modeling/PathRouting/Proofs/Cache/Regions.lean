import PathRouting.Cache.Call
import PathRouting.Proofs.Cache.Entries
import PathRouting.Proofs.Run

/-!
# Regions keep to themselves

A call that is about one region plays no part in what is found in another. Regions are told apart by
their names. The region that is meant when none is named has the empty name, so it is also the region
of whoever names the empty name.
-/

namespace PathRouting.Cache

variable {α : Type}

/-- A call keeps away from the region with a name: it is about another region, or it only lets time
pass. Clearing without a region is about all of them. -/
def Call.AwayFrom (name : Text) : Call α → Prop
  | add region _ _ _ => regionName region ≠ name
  | get region _ => regionName region ≠ name
  | contains region _ => regionName region ≠ name
  | remove region _ => regionName region ≠ name
  | clear region => ∃ other, region = some other ∧ other ≠ name
  | getOrAdd region _ _ _ => regionName region ≠ name
  | wait _ => True

/-- The entries of another region are elsewhere. -/
theorem ne_placeOf {region : Option Text} {place : Text × Text} (h : regionName region ≠ place.1)
    (key : Text) : place ≠ placeOf region key :=
  fun heq => h (congrArg Prod.fst heq).symm

/-- Asking for a value leaves the entries of other regions as they are, live or not. -/
theorem entryAt?_get_of_ne (c : Cache α) (now : Nat) {region : Option Text} (key : Text)
    {place : Text × Text} (h : regionName region ≠ place.1) :
    (c.get now region key).2.entryAt? place = c.entryAt? place := by
  unfold get
  split
  · rfl
  · split
    · rfl
    · exact (entryAt?_erase c region key place).trans (if_neg (ne_placeOf h key))

/-- What one call preserves: the entries of a region from which it keeps away. -/
theorem entryAt?_answer_of_awayFrom (c : Cache α) (last now : Nat) {call : Call α}
    {place : Text × Text} (h : call.AwayFrom place.1) :
    (c.answer last now call).2.entryAt? place = c.entryAt? place := by
  cases call with
  | add region key value duration =>
    exact (entryAt?_answer_add c last now region key value duration place).trans
      (if_neg fun hplace => ne_placeOf h key hplace.1)
  | get region key => exact c.entryAt?_get_of_ne now key h
  | contains region key => exact c.entryAt?_get_of_ne now key h
  | remove region key =>
    exact (entryAt?_erase c region key place).trans (if_neg (ne_placeOf h key))
  | clear region =>
    obtain ⟨other, rfl, hne⟩ := h
    exact (entryAt?_clear c (some other) place).trans (if_neg fun hclears =>
      hne (clears_some.mp hclears).symm)
  | getOrAdd region key build duration =>
    exact (entryAt?_answer_getOrAdd c last now region key build duration place).trans
      (if_neg fun hplace => ne_placeOf h key hplace.1)
  | wait duration => rfl

namespace World

/-- The world after calls through handles. -/
def after (w : World α) (calls : List (Handle × Call α)) : World α :=
  Run.after (fun w (h, call) => w.step h call) w calls

/-- A run can be interrupted. -/
theorem after_append (w : World α) (before calls : List (Handle × Call α)) :
    w.after (before ++ calls) = (w.after before).after calls :=
  Run.after_append w before calls

/-- What a run preserves: the entries of a region from which all calls to the cache keep away. -/
theorem entryAt?_after_of_awayFrom (w : World α) (h : Handle) {place : Text × Text}
    {calls : List (Handle × Call α)}
    (hcalls : ∀ p ∈ calls, p.1.place = h.place → p.2.AwayFrom place.1) :
    ((w.after calls).cacheAt h.place).entryAt? place = (w.cacheAt h.place).entryAt? place := by
  induction calls generalizing w with
  | nil => rfl
  | cons p rest ih =>
    obtain ⟨hp, hrest⟩ := List.forall_mem_cons.mp hcalls
    refine (ih (w.step p.1 p.2).2 hrest).trans ?_
    change Cache.entryAt? (if h.place = p.1.place then _ else _) place = _
    split
    · rename_i heq
      rw [heq]
      exact entryAt?_answer_of_awayFrom _ _ _ (hp heq.symm)
    · rfl

/-- Regions with different names are isolated from each other. Whatever has been asked of a cache
before, and whenever its clock ends, calls that keep away from the region of a name, through whatever
handles and while time passes, do not change what is answered to those who get, look for or remove a
key of that region at any time. -/
theorem answers_after_of_awayFrom (last : Nat) (before calls : List (Handle × Call α)) (h : Handle)
    {region : Option Text}
    (hcalls : ∀ p ∈ calls, p.1.place = h.place → p.2.AwayFrom (regionName region)) (now : Nat)
    (key : Text) :
    let c := (after { last } before).cacheAt h.place
    let later := (after { last } (before ++ calls)).cacheAt h.place
    (later.get now region key).1 = (c.get now region key).1 ∧
      (later.contains now region key).1 = (c.contains now region key).1 ∧
      (later.remove now region key).1 = (c.remove now region key).1 := by
  have hentry : ((after { last } (before ++ calls)).cacheAt h.place).live? now (placeOf region key) =
      ((after { last } before).cacheAt h.place).live? now (placeOf region key) := by
    unfold live?
    rw [after_append, entryAt?_after_of_awayFrom _ h hcalls]
  have hvalue := congrArg (Option.map Entry.value) hentry
  have hget := (get_fst _ now region key).trans (hvalue.trans (get_fst _ now region key).symm)
  exact ⟨hget, congrArg Option.isSome hget, hvalue⟩

/-- Values of two regions under one key, of which one has expired and is still stored. -/
def labelledCalls (h : Handle) : List (Handle × Call Nat) :=
  [(h, .add none ['k'] 1 5), (h, .add (some ['r']) ['k'] 2 20), (h, .wait 5)]

/-- Calls for regions other than the one that is named. -/
def defaultCalls (h : Handle) : List (Handle × Call Nat) :=
  [(h, .get none ['k']), (h.copy, .getOrAdd none ['k'] (fun _ => 3) 9), (h, .remove (some []) ['k']),
    (h.copy, .clear (some ['s'])), (h, .clear (some [])), (h, .wait 1)]

/-- The value of the named region outlives all that is done in the others. -/
theorem get_defaultCalls :
    let calls := labelledCalls ⟨0⟩
    (((after { last := 20 } (calls ++ defaultCalls ⟨0⟩)).cacheAt 0).get 6 (some ['r']) ['k']).1 =
        (((after { last := 20 } calls).cacheAt 0).get 6 (some ['r']) ['k']).1 ∧
      (((after { last := 20 } calls).cacheAt 0).get 6 (some ['r']) ['k']).1 = some 2 := by
  have hcalls : ∀ p ∈ defaultCalls ⟨0⟩, p.1.place = 0 →
      p.2.AwayFrom (regionName (some ['r'])) := by
    simp [defaultCalls, Call.AwayFrom, regionName]
  exact ⟨(answers_after_of_awayFrom 20 (labelledCalls ⟨0⟩) (defaultCalls ⟨0⟩) ⟨0⟩ hcalls 6 ['k']).1,
    by decide +kernel⟩

/-- Not naming a region is naming the empty one: a value that is stored without a region is found by
whoever names the empty region, who would have found nothing before. -/
theorem get_empty_name_after_add : none ≠ some ([] : Text) ∧
    (((after ({ last := 10 } : World Nat) []).cacheAt 0).get 0 (some []) ['k']).1 = none ∧
    (((after { last := 10 } [(⟨0⟩, .add none ['k'] 1 10)]).cacheAt 0).get 0 (some []) ['k']).1 =
      some 1 := by
  decide +kernel

end World

end PathRouting.Cache
