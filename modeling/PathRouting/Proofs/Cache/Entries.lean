import Mathlib.Data.List.Nodup
import Mathlib.Data.Prod.Basic
import PathRouting.Cache.Call
import PathRouting.Proofs.Dict

/-!
# The entries of a cache

What each operation of a cache does to its entries. An entry is found under the name of its region
and its key, and an operation on one of them leaves the others alone.
-/

namespace PathRouting.Cache

variable {α : Type}

/-- The entry under the name of a region and a key, live or not. -/
def entryAt? (c : Cache α) (place : Text × Text) : Option (Entry α) :=
  (c.regions.get? place.1).bind (·.get? place.2)

/-- Where the entry of a key is found. -/
def placeOf (region : Option Text) (key : Text) : Text × Text :=
  (regionName region, key)

/-- Asking for an entry is looking at its place. -/
theorem entry?_eq (c : Cache α) (region : Option Text) (key : Text) :
    c.entry? region key = c.entryAt? (placeOf region key) :=
  rfl

/-- The cache without entries has none. -/
@[simp] theorem entryAt?_empty (place : Text × Text) : (∅ : Cache α).entryAt? place = none :=
  rfl

/-- A region that is put in has its entries, the others have theirs. -/
theorem entryAt?_insert (regions : Dict (Dict (Entry α))) (name : Text) (entries : Dict (Entry α))
    (place : Text × Text) : entryAt? ⟨regions.insert name entries⟩ place =
      if place.1 = name then entries.get? place.2 else entryAt? ⟨regions⟩ place := by
  unfold entryAt?
  dsimp only
  rw [Dict.get?_insert]
  split <;> rfl

/-- A value that is stored is found with its expiry, in place of any other entry. -/
theorem entryAt?_add (c : Cache α) (now : Nat) (region : Option Text) (key : Text) (value : α)
    (duration : Nat) (place : Text × Text) : (c.add now region key value duration).entryAt? place =
      if place = placeOf region key then some ⟨value, now + duration⟩ else c.entryAt? place := by
  unfold add
  dsimp only
  rw [entryAt?_insert]
  by_cases hplace : place = placeOf region key
  · subst hplace
    rw [placeOf, if_pos rfl, if_pos rfl, Dict.get?_insert, if_pos rfl]
  · rw [if_neg hplace]
    split
    · rename_i hname
      have hkey : place.2 ≠ key := fun h => hplace (Prod.ext hname h)
      rw [Dict.get?_insert, if_neg hkey]
      unfold entryAt?
      rw [hname]
      cases c.regions.get? (regionName region) <;> rfl
    · rfl

/-- Opening a region neither adds an entry nor removes one. -/
theorem entryAt?_openRegion (c : Cache α) (region : Option Text) (place : Text × Text) :
    (c.openRegion region).entryAt? place = c.entryAt? place := by
  unfold openRegion
  rw [entryAt?_insert]
  split
  · rename_i hname
    unfold entryAt?
    rw [hname]
    cases c.regions.get? (regionName region) <;> rfl
  · rfl

/-- An entry that is taken out is not found, the others are. -/
theorem entryAt?_erase (c : Cache α) (region : Option Text) (key : Text) (place : Text × Text) :
    (c.erase region key).entryAt? place =
      if place = placeOf region key then none else c.entryAt? place := by
  by_cases hplace : place = placeOf region key
  · subst hplace
    rw [if_pos rfl]
    unfold erase
    cases hentries : c.regions.get? (regionName region) with
    | none =>
      unfold entryAt? placeOf
      rw [hentries]
      rfl
    | some entries =>
      dsimp only
      rw [entryAt?_insert, placeOf, if_pos rfl, Dict.get?_erase, if_pos rfl]
  · rw [if_neg hplace]
    unfold erase
    cases hentries : c.regions.get? (regionName region) with
    | none => rfl
    | some entries =>
      dsimp only
      rw [entryAt?_insert]
      split
      · rename_i hname
        have hkey : place.2 ≠ key := fun h => hplace (Prod.ext hname h)
        rw [Dict.get?_erase, if_neg hkey]
        unfold entryAt?
        rw [hname, hentries]
        rfl
      · rfl

/-- Whether clearing a region, or all of them, removes what is found at a place. -/
def Clears (region : Option Text) (place : Text × Text) : Prop :=
  ∀ name, region = some name → place.1 = name

/-- Clearing without a region removes everything. -/
@[simp] theorem clears_none (place : Text × Text) : Clears none place :=
  fun _ h => nomatch h

/-- Clearing a region removes what is found under its name. -/
@[simp] theorem clears_some {name : Text} {place : Text × Text} :
    Clears (some name) place ↔ place.1 = name :=
  ⟨fun h => h name rfl, fun h _ hname => h.trans (Option.some.inj hname)⟩

instance (region : Option Text) (place : Text × Text) : Decidable (Clears region place) :=
  match region with
  | none => isTrue (clears_none place)
  | some _ => decidable_of_iff _ clears_some.symm

/-- Clearing leaves the entries of other regions. -/
theorem entryAt?_clear (c : Cache α) (region : Option Text) (place : Text × Text) :
    (c.clear region).2.entryAt? place = if Clears region place then none else c.entryAt? place := by
  cases region with
  | none => exact (if_pos (clears_none place)).symm
  | some name =>
    unfold clear entryAt?
    dsimp only
    rw [Dict.get?_erase]
    by_cases h : place.1 = name
    · rw [if_pos h, if_pos (clears_some.mpr h)]
      rfl
    · rw [if_neg h, if_neg (mt clears_some.mp h)]

/-- The entry at a place, if it is live at a time. -/
def live? (c : Cache α) (now : Nat) (place : Text × Text) : Option (Entry α) :=
  (c.entryAt? place).filter (·.isLive now)

/-- An entry that is live later is live now. -/
theorem filter_live?_of_le (c : Cache α) {now later : Nat} (h : now ≤ later)
    (place : Text × Text) : (c.live? now place).filter (·.isLive later) = c.live? later place := by
  unfold live?
  rw [Option.filter_filter]
  congr 1
  funext e
  rw [Bool.and_eq_right_iff_imp]
  simp only [Entry.isLive, decide_eq_true_eq]
  exact fun hlive => Nat.lt_of_le_of_lt h hlive

/-- A live entry is the answer. -/
theorem get_fst (c : Cache α) (now : Nat) (region : Option Text) (key : Text) :
    (c.get now region key).1 = (c.live? now (placeOf region key)).map (·.value) := by
  unfold get live?
  rw [entry?_eq]
  cases c.entryAt? (placeOf region key) with
  | none => rfl
  | some e =>
    dsimp only
    cases hlive : e.isLive now <;> simp [Option.filter, hlive]

/-- Asking for a value changes nothing that is live. -/
theorem live?_get (c : Cache α) (now : Nat) (region : Option Text) (key : Text)
    (place : Text × Text) : (c.get now region key).2.live? now place = c.live? now place := by
  unfold get
  rw [entry?_eq]
  cases hentry : c.entryAt? (placeOf region key) with
  | none => rfl
  | some e =>
    dsimp only
    cases hlive : e.isLive now with
    | true => rfl
    | false =>
      unfold live?
      rw [if_neg Bool.false_ne_true, entryAt?_erase]
      split
      · rename_i hplace
        rw [hplace, hentry]
        simp [Option.filter, hlive]
      · rfl

/-- A live entry is what is removed. -/
theorem remove_fst (c : Cache α) (now : Nat) (region : Option Text) (key : Text) :
    (c.remove now region key).1 = (c.live? now (placeOf region key)).map (·.value) :=
  rfl

/-- Removing a key removes its entry only. -/
theorem live?_remove (c : Cache α) (now : Nat) (region : Option Text) (key : Text)
    (place : Text × Text) : (c.remove now region key).2.live? now place =
      if place = placeOf region key then none else c.live? now place := by
  unfold live? remove
  rw [entryAt?_erase]
  split <;> rfl

/-- A value that is stored is live if its duration has not passed. -/
theorem live?_add (c : Cache α) (now : Nat) (region : Option Text) (key : Text) (value : α)
    (duration : Nat) (place : Text × Text) : (c.add now region key value duration).live? now place =
      if place = placeOf region key then (some ⟨value, now + duration⟩).filter (·.isLive now)
      else c.live? now place := by
  unfold live?
  rw [entryAt?_add]
  split <;> rfl

/-- Opening a region changes nothing that is live. -/
theorem live?_openRegion (c : Cache α) (now : Nat) (region : Option Text) (place : Text × Text) :
    (c.openRegion region).live? now place = c.live? now place :=
  congrArg (Option.filter _) (c.entryAt?_openRegion region place)

/-- Clearing leaves what is live in other regions. -/
theorem live?_clear (c : Cache α) (now : Nat) (region : Option Text) (place : Text × Text) :
    (c.clear region).2.live? now place = if Clears region place then none else c.live? now place := by
  unfold live?
  rw [entryAt?_clear]
  split <;> rfl

/-- A live entry is the answer, and nothing is built. -/
theorem getOrAdd_of_live {c : Cache α} {now : Nat} {region : Option Text} {key : Text} {e : Entry α}
    (h : c.live? now (placeOf region key) = some e) (build : Unit → α) (duration : Nat) :
    c.getOrAdd now region key build duration = ((e.value, false), c) := by
  unfold getOrAdd
  rw [entry?_eq, ← live?, h]

/-- Without a live entry the value is built and stored. -/
theorem getOrAdd_of_not_live {c : Cache α} {now : Nat} {region : Option Text} {key : Text}
    (h : c.live? now (placeOf region key) = none) (build : Unit → α) (duration : Nat) :
    c.getOrAdd now region key build duration =
      ((build (), true), c.add now region key (build ()) duration) := by
  unfold getOrAdd
  rw [entry?_eq, ← live?, h]

section Storing

variable {c : Cache α} {last now : Nat} {region : Option Text} {key : Text} {duration : Nat}

/-- A value is stored for a duration that does not outlast the clock. -/
theorem answer_add_of_not_outlasts (h : outlasts last now duration = false) (value : α) :
    c.answer last now (.add region key value duration) =
      (.done, c.add now region key value duration) :=
  if_neg (ne_true_of_eq_false h)

/-- Storing a value fails for a duration that outlasts the clock. -/
theorem answer_add_of_outlasts (h : outlasts last now duration = true) (value : α) :
    c.answer last now (.add region key value duration) = (.failed, c.openRegion region) :=
  if_pos h

/-- A live entry is the answer, however long the duration is. -/
theorem answer_getOrAdd_of_live {e : Entry α} (h : c.live? now (placeOf region key) = some e)
    (build : Unit → α) :
    c.answer last now (.getOrAdd region key build duration) = (.built e.value false, c) := by
  rw [answer, getOrAdd_of_live h]
  rfl

/-- A missing value is built and stored for a duration that does not outlast the clock. -/
theorem answer_getOrAdd_of_not_outlasts (hlive : c.live? now (placeOf region key) = none)
    (h : outlasts last now duration = false) (build : Unit → α) :
    c.answer last now (.getOrAdd region key build duration) =
      (.built (build ()) true, c.add now region key (build ()) duration) := by
  rw [answer, getOrAdd_of_not_live hlive]
  exact if_neg (by simp [h])

/-- A missing value is built in vain for a duration that outlasts the clock. -/
theorem answer_getOrAdd_of_outlasts (hlive : c.live? now (placeOf region key) = none)
    (h : outlasts last now duration = true) (build : Unit → α) :
    c.answer last now (.getOrAdd region key build duration) = (.failed, c.openRegion region) := by
  rw [answer, getOrAdd_of_not_live hlive]
  exact if_pos (by simp [h])

/-- What storing a value does to the entries: nothing if the duration outlasts the clock. -/
theorem entryAt?_answer_add (c : Cache α) (last now : Nat) (region : Option Text) (key : Text)
    (value : α) (duration : Nat) (place : Text × Text) :
    (c.answer last now (.add region key value duration)).2.entryAt? place =
      if place = placeOf region key ∧ outlasts last now duration = false then
        some ⟨value, now + duration⟩
      else c.entryAt? place := by
  cases hend : outlasts last now duration with
  | true =>
    rw [answer_add_of_outlasts hend, if_neg (by simp)]
    exact c.entryAt?_openRegion region place
  | false =>
    rw [answer_add_of_not_outlasts hend, entryAt?_add]
    simp only [and_true]

/-- What asking for a value does to the entries that is built if it is missing: nothing unless it is
missing, and nothing if the duration outlasts the clock. -/
theorem entryAt?_answer_getOrAdd (c : Cache α) (last now : Nat) (region : Option Text) (key : Text)
    (build : Unit → α) (duration : Nat) (place : Text × Text) :
    (c.answer last now (.getOrAdd region key build duration)).2.entryAt? place =
      if place = placeOf region key ∧ c.live? now place = none ∧
          outlasts last now duration = false then
        some ⟨build (), now + duration⟩
      else c.entryAt? place := by
  cases hlive : c.live? now (placeOf region key) with
  | some e =>
    rw [answer_getOrAdd_of_live hlive, if_neg]
    rintro ⟨rfl, hnone, -⟩
    exact nomatch hlive.symm.trans hnone
  | none =>
    cases hend : outlasts last now duration with
    | true =>
      rw [answer_getOrAdd_of_outlasts hlive hend, if_neg (by simp)]
      exact c.entryAt?_openRegion region place
    | false =>
      rw [answer_getOrAdd_of_not_outlasts hlive hend, entryAt?_add]
      exact if_congr ⟨fun h => ⟨h, h ▸ hlive, rfl⟩, And.left⟩ rfl rfl

end Storing

/-- All entries with their places. -/
def entries (c : Cache α) : List ((Text × Text) × Entry α) :=
  c.regions.toList.flatMap fun (name, entries) =>
    entries.toList.map fun (key, e) => ((name, key), e)

/-- The entries are those that are found at their places. -/
theorem mem_entries {c : Cache α} {place : Text × Text} {e : Entry α} :
    (place, e) ∈ c.entries ↔ c.entryAt? place = some e := by
  obtain ⟨name, key⟩ := place
  unfold entries entryAt?
  rw [List.mem_flatMap, Option.bind_eq_some_iff]
  constructor
  · rintro ⟨⟨name', entries⟩, hregion, hentry⟩
    obtain ⟨⟨key', e'⟩, hkey, heq⟩ := List.mem_map.mp hentry
    cases heq
    exact ⟨entries, Dict.get?_eq_some_iff.mpr hregion, Dict.get?_eq_some_iff.mpr hkey⟩
  · rintro ⟨entries, hregion, hkey⟩
    exact ⟨(name, entries), Dict.get?_eq_some_iff.mp hregion,
      List.mem_map.mpr ⟨(key, e), Dict.get?_eq_some_iff.mp hkey, rfl⟩⟩

/-- No place has two entries. -/
theorem nodup_places (c : Cache α) : (c.entries.map Prod.fst).Nodup := by
  have hregions : ∀ regions : List (Text × Dict (Entry α)), (regions.map Prod.fst).Nodup →
      ((regions.flatMap fun (name, entries) =>
        entries.toList.map fun (key, e) => ((name, key), e)).map Prod.fst).Nodup := by
    intro regions
    induction regions with
    | nil => exact fun _ => List.nodup_nil
    | cons region rest ih =>
      obtain ⟨name, entries⟩ := region
      intro h
      rw [List.map_cons, List.nodup_cons] at h
      rw [List.flatMap_cons, List.map_append, List.nodup_append]
      refine ⟨?_, ih h.2, ?_⟩
      · have hkeys := List.Nodup.map (Prod.mk_right_injective name) entries.nodup_keys
        rwa [List.map_map] at hkeys ⊢
      · rintro place hplace other hother rfl
        simp only [List.mem_map, List.mem_flatMap] at hplace hother
        obtain ⟨_, ⟨p, -, rfl⟩, rfl⟩ := hplace
        obtain ⟨_, ⟨region, hregion, q, -, rfl⟩, heq⟩ := hother
        have hname : region.1 = name := (Prod.mk.inj heq).1
        exact h.1 (List.mem_map.mpr ⟨region, hregion, hname⟩)
  exact hregions c.regions.toList c.regions.nodup_keys

/-- The size is the number of entries that are live. -/
theorem size_eq (c : Cache α) (now : Nat) :
    c.size now = (c.entries.filter fun p => p.2.isLive now).length := by
  have hfold : ∀ (regions : List (Text × Dict (Entry α))) (count : Nat),
      (regions.map Prod.snd).foldl
          (fun count entries => count + (entries.values.filter (·.isLive now)).length) count =
        count + ((regions.flatMap fun (name, entries) =>
          entries.toList.map fun (key, e) => ((name, key), e)).filter fun p =>
            p.2.isLive now).length := by
    intro regions
    induction regions with
    | nil => exact fun _ => rfl
    | cons region rest ih =>
      intro count
      rw [List.map_cons, List.foldl_cons, ih, List.flatMap_cons, List.filter_append,
        List.length_append, ← Nat.add_assoc]
      congr 2
      rw [Dict.values, List.filter_map, List.filter_map, List.length_map, List.length_map]
      rfl
  exact (hfold c.regions.toList 0).trans (Nat.zero_add _)

end PathRouting.Cache
