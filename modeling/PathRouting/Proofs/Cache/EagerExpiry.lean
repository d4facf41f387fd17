import PathRouting.Cache.Call
import PathRouting.Proofs.Cache.Entries

/-!
# Entries that expire at once

A cache keeps entries that are no longer live until they are next asked for. Its answers do not show
this: they are those of a map from which an entry disappears as soon as the clock reaches its
expiry. Only the number of removed entries that clearing reports is left out, as it counts stored
entries.

The map itself goes on forever. A call of the cache fails if it is to store a value that outlasts the
clock, so it fails for the map too, which it leaves as it is. Where no call fails, the map need not
know when the clock ends.
-/

namespace PathRouting.Cache

variable {α : Type}

/-- A map from places to entries. -/
structure ExpiringMap (α : Type) where
  /-- The entries with their places. -/
  entries : List ((Text × Text) × Entry α)
  /-- No place has two entries. -/
  nodup_places : (entries.map Prod.fst).Nodup

namespace ExpiringMap

/-- The map without entries. -/
def empty : ExpiringMap α :=
  ⟨[], List.nodup_nil⟩

instance : EmptyCollection (ExpiringMap α) :=
  ⟨empty⟩

/-- The entry at a place. -/
def lookup? (m : ExpiringMap α) (place : Text × Text) : Option (Entry α) :=
  m.entries.lookup place

/-- The entries that pass a test. -/
def keep (m : ExpiringMap α) (test : Text × Text → Entry α → Bool) : ExpiringMap α :=
  ⟨m.entries.filter fun p => test p.1 p.2,
    m.nodup_places.sublist (List.filter_sublist.map Prod.fst)⟩

/-- The map without an entry at a place. -/
def erase (m : ExpiringMap α) (place : Text × Text) : ExpiringMap α :=
  m.keep fun other _ => other != place

/-- The map with an entry at a place, instead of any other one there. -/
def insert (m : ExpiringMap α) (place : Text × Text) (e : Entry α) : ExpiringMap α :=
  ⟨(place, e) :: (m.erase place).entries, by
    rw [List.map_cons, List.nodup_cons]
    refine ⟨fun h => ?_, (m.erase place).nodup_places⟩
    obtain ⟨p, hp, rfl⟩ := List.mem_map.mp h
    simpa using (List.mem_filter.mp hp).2⟩

/-- The map at a time, when entries whose expiry has been reached are gone. -/
def expire (m : ExpiringMap α) (now : Nat) : ExpiringMap α :=
  m.keep fun _ e => e.isLive now

/-- Answers a call at a time, with the map for the next call. -/
def answer (m : ExpiringMap α) (now : Nat) : Call α → Answer α × ExpiringMap α
  | .add region key value duration =>
    (.done, (m.insert (placeOf region key) ⟨value, now + duration⟩).expire now)
  | .get region key => (.value ((m.lookup? (placeOf region key)).map (·.value)), m)
  | .contains region key => (.flag (m.lookup? (placeOf region key)).isSome, m)
  | .remove region key =>
    (.value ((m.lookup? (placeOf region key)).map (·.value)), m.erase (placeOf region key))
  | .clear none => (.done, ∅)
  | .clear (some name) => (.done, m.keep fun place _ => place.1 != name)
  | .getOrAdd region key build duration =>
    match m.lookup? (placeOf region key) with
    | some e => (.built e.value false, m)
    | none =>
      (.built (build ()) true,
        (m.insert (placeOf region key) ⟨build (), now + duration⟩).expire now)
  | .wait duration => (.done, m.expire (now + duration))

/-- The answers to calls from a time on, each with the number of entries afterwards. -/
def trace : Nat → ExpiringMap α → List (Call α) → List (Answer α × Nat)
  | _, _, [] => []
  | now, m, call :: rest =>
    let (answer, m) := m.answer now call
    (answer, m.entries.length) :: trace (now + call.elapsed) m rest

/-- Whether a call fails: there is a value to store for it that outlasts the clock. -/
def fails (m : ExpiringMap α) (last now : Nat) : Call α → Bool
  | .add _ _ _ duration => outlasts last now duration
  | .getOrAdd region key _ duration =>
    (m.lookup? (placeOf region key)).isNone && outlasts last now duration
  | _ => false

/-- Answers a call at a time, if it does not fail. A call that fails leaves the map as it is. -/
def answerUntil (m : ExpiringMap α) (last now : Nat) (call : Call α) : Answer α × ExpiringMap α :=
  if m.fails last now call then (.failed, m) else m.answer now call

/-- The answers to calls of which some may fail, each with the number of entries afterwards. -/
def traceUntil (last : Nat) : Nat → ExpiringMap α → List (Call α) → List (Answer α × Nat)
  | _, _, [] => []
  | now, m, call :: rest =>
    let (answer, m) := m.answerUntil last now call
    (answer, m.entries.length) :: traceUntil last (now + call.elapsed) m rest

/-- Without a call that fails, it does not matter when the clock ends. -/
theorem traceUntil_eq_trace {last now : Nat} {m : ExpiringMap α} {calls : List (Call α)}
    (h : ∀ p ∈ traceUntil last now m calls, p.1 ≠ .failed) :
    traceUntil last now m calls = trace now m calls := by
  induction calls generalizing now m with
  | nil => rfl
  | cons call rest ih =>
    have hanswer : m.answerUntil last now call = m.answer now call :=
      if_neg fun hfails => h _ List.mem_cons_self (congrArg Prod.fst (if_pos hfails))
    have hrest : ∀ p ∈ traceUntil last (now + call.elapsed) (m.answerUntil last now call).2 rest,
        p.1 ≠ .failed := (List.forall_mem_cons.mp h).2
    rw [hanswer] at hrest
    rw [traceUntil, trace, hanswer]
    exact congrArg (List.cons _) (ih hrest)

variable {m : ExpiringMap α} {place : Text × Text}

/-- An entry is found at its place. -/
theorem lookup?_eq_some_iff {e : Entry α} : m.lookup? place = some e ↔ (place, e) ∈ m.entries :=
  Dict.lookup_eq_some_iff_mem m.nodup_places

/-- Of the entries that pass a test, those are found that were found before. -/
theorem lookup?_keep (m : ExpiringMap α) (test : Text × Text → Entry α → Bool)
    (place : Text × Text) : (m.keep test).lookup? place = (m.lookup? place).filter (test place) := by
  ext e
  rw [lookup?_eq_some_iff, Option.filter_eq_some_iff, lookup?_eq_some_iff]
  exact List.mem_filter

/-- The entry that is erased is not found, the others are. -/
theorem lookup?_erase (m : ExpiringMap α) (place other : Text × Text) :
    (m.erase place).lookup? other = if other = place then none else m.lookup? other := by
  rw [erase, lookup?_keep]
  cases m.lookup? other <;> by_cases h : other = place <;> simp [Option.filter, h]

/-- The entry that is put in is found, and the others are. -/
theorem lookup?_insert (m : ExpiringMap α) (place other : Text × Text) (e : Entry α) :
    (m.insert place e).lookup? other = if other = place then some e else m.lookup? other := by
  change List.lookup other ((place, e) :: (m.erase place).entries) = _
  rw [List.lookup_cons]
  by_cases h : other = place
  · rw [if_pos h, beq_iff_eq.mpr h]
  · rw [if_neg h, beq_eq_false_iff_ne.mpr h]
    exact (lookup?_erase m place other).trans (if_neg h)

end ExpiringMap

/-- An answer without the number of entries that clearing has removed. -/
def Answer.uncounted : Answer α → Answer α
  | count _ => done
  | answer => answer

/-- A map shows the live entries of a cache. -/
def ExpiringMap.Shows (m : ExpiringMap α) (c : Cache α) (now : Nat) : Prop :=
  ∀ place, m.lookup? place = c.live? now place

namespace ExpiringMap.Shows

variable {m : ExpiringMap α} {c : Cache α} {now : Nat}

/-- The map without entries shows a cache without entries. -/
theorem empty (now : Nat) : (∅ : ExpiringMap α).Shows ∅ now :=
  fun _ => rfl

/-- The map is of the size of the cache. -/
theorem length_eq (h : m.Shows c now) : m.entries.length = c.size now := by
  rw [size_eq]
  refine List.Perm.length_eq ?_
  rw [List.perm_ext_iff_of_nodup m.nodup_places.of_map (c.nodup_places.of_map.filter _)]
  rintro ⟨place, e⟩
  rw [← lookup?_eq_some_iff, h place, List.mem_filter, mem_entries]
  exact Option.filter_eq_some_iff

/-- A map goes on showing the cache as time passes. -/
theorem expire (h : m.Shows c now) (duration : Nat) :
    (m.expire (now + duration)).Shows c (now + duration) := by
  intro place
  rw [ExpiringMap.expire, lookup?_keep, h place]
  exact c.filter_live?_of_le (Nat.le_add_right now duration) place

/-- A map shows a value that is stored. -/
theorem add (h : m.Shows c now) (region : Option Text) (key : Text) (value : α) (duration : Nat) :
    ((m.insert (placeOf region key) ⟨value, now + duration⟩).expire now).Shows
      (c.add now region key value duration) now := by
  intro place
  rw [ExpiringMap.expire, lookup?_keep, lookup?_insert, live?_add]
  split
  · rfl
  · rw [h place]
    exact c.filter_live?_of_le (Nat.le_refl now) place

/-- A map goes on showing the cache when a region is opened. -/
theorem openRegion (h : m.Shows c now) (region : Option Text) :
    m.Shows (c.openRegion region) now :=
  fun place => (h place).trans (c.live?_openRegion now region place).symm

/-- What one call preserves: the map and the cache give the same answer, and the map shows the cache
afterwards. -/
theorem answer (h : m.Shows c now) (last : Nat) (call : Call α) :
    (c.answer last now call).1.uncounted = (m.answerUntil last now call).1 ∧
      (m.answerUntil last now call).2.Shows (c.answer last now call).2 (now + call.elapsed) := by
  cases call with
  | add region key value duration =>
    rw [answerUntil, fails]
    cases hfails : outlasts last now duration with
    | true =>
      rw [answer_add_of_outlasts hfails]
      exact ⟨rfl, h.openRegion region⟩
    | false =>
      rw [answer_add_of_not_outlasts hfails]
      exact ⟨rfl, h.add region key value duration⟩
  | get region key =>
    refine ⟨congrArg Answer.value ((get_fst c now region key).trans ?_), fun place => ?_⟩
    · rw [h]
    · exact (h place).trans (c.live?_get now region key place).symm
  | contains region key =>
    refine ⟨congrArg Answer.flag ((congrArg Option.isSome (get_fst c now region key)).trans ?_),
      fun place => ?_⟩
    · rw [h, Option.isSome_map]
    · exact (h place).trans (c.live?_get now region key place).symm
  | remove region key =>
    refine ⟨congrArg Answer.value ((remove_fst c now region key).trans ?_), fun place => ?_⟩
    · rw [h]
    · change (m.erase _).lookup? place = (c.remove now region key).2.live? now place
      rw [lookup?_erase, live?_remove, h place]
  | clear region =>
    refine ⟨by cases region <;> rfl, fun place => ?_⟩
    change _ = (c.clear region).2.live? now place
    rw [live?_clear]
    cases region with
    | none => exact (if_pos (clears_none place)).symm
    | some name =>
      change (m.keep _).lookup? place = _
      rw [lookup?_keep, h place]
      by_cases hname : place.1 = name
      · rw [if_pos (clears_some.mpr hname)]
        cases c.live? now place <;> simp [Option.filter, hname]
      · rw [if_neg (mt clears_some.mp hname)]
        cases c.live? now place <;> simp [Option.filter, hname]
  | getOrAdd region key build duration =>
    have hplace := h (placeOf region key)
    cases hlive : c.live? now (placeOf region key) with
    | some e =>
      rw [hlive] at hplace
      rw [answer_getOrAdd_of_live hlive, answerUntil, fails, ExpiringMap.answer, hplace]
      exact ⟨rfl, h⟩
    | none =>
      rw [hlive] at hplace
      rw [answerUntil, fails, ExpiringMap.answer, hplace]
      cases hfails : outlasts last now duration with
      | true =>
        rw [answer_getOrAdd_of_outlasts hlive hfails]
        exact ⟨rfl, h.openRegion region⟩
      | false =>
        rw [answer_getOrAdd_of_not_outlasts hlive hfails]
        exact ⟨rfl, h.add region key (build ()) duration⟩
  | wait duration => exact ⟨rfl, h.expire duration⟩

end ExpiringMap.Shows

/-- The copies of a handle lead to where the handle leads. -/
theorem Handle.IsCopy.place_eq {h g : Handle} (hg : h.IsCopy g) : g.place = h.place := by
  induction hg with
  | self => rfl
  | copy _ ih => exact ih

/-- Calls through copies of a handle are answered as the map answers that shows the cache. -/
theorem ExpiringMap.Shows.trace {m : ExpiringMap α} {w : World α} {h : Handle}
    (hshows : m.Shows (w.cacheAt h.place) w.now) {calls : List (Handle × Call α)}
    (hcopies : ∀ call ∈ calls, h.IsCopy call.1) :
    (w.trace calls).map (Prod.map Answer.uncounted id) =
      ExpiringMap.traceUntil w.last w.now m (calls.map Prod.snd) := by
  induction calls generalizing w m with
  | nil => rfl
  | cons call rest ih =>
    obtain ⟨g, call⟩ := call
    obtain ⟨hg, hcopies⟩ := List.forall_mem_cons.mp hcopies
    have hplace : g.place = h.place := hg.place_eq
    rw [← hplace] at hshows
    obtain ⟨hanswer, hnext⟩ := hshows.answer w.last call
    have hcache : (w.step g call).2.cacheAt g.place =
        ((w.cacheAt g.place).answer w.last w.now call).2 := if_pos rfl
    rw [World.trace, List.map_cons, List.map_cons, ExpiringMap.traceUntil]
    refine congrArg₂ List.cons ?_ ?_
    · refine Prod.ext hanswer ?_
      change ((w.step g call).2.cacheAt g.place).size (w.now + call.elapsed) = _
      rw [hcache]
      exact hnext.length_eq.symm
    · refine ih ?_ hcopies
      rw [← hplace, hcache]
      exact hnext

/-- A cache answers like a map from which an entry disappears as soon as the clock reaches its
expiry. Whatever is asked of an empty cache in whatever order, through a handle or its copies and
while time passes, the answers are those of the map, up to the number that clearing reports, and
after each call the cache is of the size of the map. A call fails only if there is a value to store
for it that outlasts the clock, and nothing of it is seen afterwards. If all calls run to their end,
the answers are those of a map that knows of no end of the clock. -/
theorem trace_eq_eager {w : World α} {h : Handle} (hempty : w.cacheAt h.place = ∅)
    (calls : List (Handle × Call α)) (hcopies : ∀ call ∈ calls, h.IsCopy call.1) :
    let answers := (w.trace calls).map (Prod.map Answer.uncounted id)
    answers = ExpiringMap.traceUntil w.last w.now ∅ (calls.map Prod.snd) ∧
      ((∀ p ∈ answers, p.1 ≠ .failed) →
        answers = ExpiringMap.trace w.now ∅ (calls.map Prod.snd)) := by
  intro answers
  have heager : answers = ExpiringMap.traceUntil w.last w.now ∅ (calls.map Prod.snd) := by
    refine ExpiringMap.Shows.trace ?_ hcopies
    rw [hempty]
    exact .empty w.now
  refine ⟨heager, fun hended => ?_⟩
  rw [heager] at hended ⊢
  exact ExpiringMap.traceUntil_eq_trace hended

/-- Calls through a handle and a copy of it. A value outlives its duration unasked, another one is
stored for no time at all, and both are stored anew. -/
def sharedCalls (h : Handle) : List (Handle × Call Nat) :=
  [(h, .add none ['k'] 1 10), (h.copy, .get (some []) ['k']), (h.copy, .add (some ['r']) ['k'] 2 0),
    (h, .contains (some ['r']) ['k']), (h, .wait 10), (h, .getOrAdd none ['k'] (fun _ => 3) 5),
    (h.copy, .getOrAdd none ['k'] (fun _ => 4) 5), (h, .add (some ['r']) ['k'] 5 1),
    (h.copy, .clear (some ['r'])), (h, .wait 5), (h.copy, .remove none ['k'])]

/-- Calls of which two are to store values for longer than a clock counts that ends at 20. -/
def overlongCalls (h : Handle) : List (Handle × Call Nat) :=
  sharedCalls h ++ [(h, .getOrAdd none ['k'] (fun _ => 6) 6), (h, .add none ['k'] 7 5),
    (h.copy, .add none ['k'] 8 30), (h, .get none ['k'])]

/-- On a clock that ends at 20 the answers to the first calls are those of the map, and no expired value
is among them. Of the further ones two fail, and a value that is there stays. -/
theorem trace_sharedCalls :
    (World.trace { last := 20 } (sharedCalls ⟨0⟩)).map (Prod.map Answer.uncounted id) =
        ExpiringMap.trace 0 ∅ ((sharedCalls ⟨0⟩).map Prod.snd) ∧
      (World.trace { last := 20 } (overlongCalls ⟨0⟩)).map (Prod.map Answer.uncounted id) =
        [(.done, 1), (.value (some 1), 1), (.done, 1), (.flag false, 1), (.done, 0),
          (.built 3 true, 1), (.built 3 false, 1), (.done, 2), (.done, 1), (.done, 0),
          (.value none, 0), (.failed, 0), (.done, 1), (.failed, 1), (.value (some 7), 1)] :=
  have hcopy : (⟨0⟩ : Handle).IsCopy (Handle.copy ⟨0⟩) := .copy .self
  have hshared : ∀ call ∈ sharedCalls ⟨0⟩, (⟨0⟩ : Handle).IsCopy call.1 := by
    simp [sharedCalls, Handle.IsCopy.self, hcopy]
  have hoverlong : ∀ call ∈ overlongCalls ⟨0⟩, (⟨0⟩ : Handle).IsCopy call.1 := by
    simp [overlongCalls, sharedCalls, Handle.IsCopy.self, hcopy]
  ⟨(trace_eq_eager (h := ⟨0⟩) rfl (sharedCalls ⟨0⟩) hshared).2 (by decide +kernel),
    (trace_eq_eager (h := ⟨0⟩) rfl (overlongCalls ⟨0⟩) hoverlong).1.trans (by decide +kernel)⟩

end PathRouting.Cache
