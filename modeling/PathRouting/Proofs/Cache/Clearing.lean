import PathRouting.Proofs.Cache.Regions
import PathRouting.Proofs.Cache.Sections

/-!
# Counting what is cleared

An entry stays in a cache until it is removed or replaced, or until somebody asks for it once it has
expired. So clearing counts more than the live entries that it removes: it also counts those that have
expired and that nobody has asked for since.
-/

namespace PathRouting.Cache

variable {α : Type}

section OneCall

variable {c : Cache α} {last now : Nat} {place : Text × Text} {e : Entry α}

/-- Asking for a value leaves an entry at its place only if it is live. -/
theorem entryAt?_get (c : Cache α) (now : Nat) (region : Option Text) (key : Text)
    (place : Text × Text) : (c.get now region key).2.entryAt? place =
      if place = placeOf region key then c.live? now place else c.entryAt? place := by
  unfold get live?
  rw [entry?_eq]
  by_cases hplace : place = placeOf region key
  · subst hplace
    rw [if_pos rfl]
    cases hentry : c.entryAt? (placeOf region key) with
    | none => exact hentry
    | some e =>
      dsimp only
      cases hlive : e.isLive now with
      | true =>
        rw [if_pos rfl, hentry]
        simp [Option.filter, hlive]
      | false =>
        rw [if_neg Bool.false_ne_true, entryAt?_erase, if_pos rfl]
        simp [Option.filter, hlive]
  · rw [if_neg hplace]
    split
    · rfl
    · split
      · rfl
      · rw [entryAt?_erase, if_neg hplace]

/-- A call leaves an entry at its place: it is about other places, or it asks for the entry while the
entry is live, or it fails. -/
def Call.Spares (last now : Nat) (place : Text × Text) (e : Entry α) : Call α → Prop
  | add region key _ duration => place = placeOf region key → outlasts last now duration = true
  | get region key => place = placeOf region key → e.isLive now = true
  | contains region key => place = placeOf region key → e.isLive now = true
  | remove region key => place ≠ placeOf region key
  | clear region => ¬Clears region place
  | getOrAdd region key _ duration =>
    place = placeOf region key → e.isLive now = true ∨ outlasts last now duration = true
  | wait _ => True

/-- A call whose answer tells that it has put an entry at a place. -/
def Puts (now : Nat) (place : Text × Text) (e : Entry α) (call : Call α) (answer : Answer α) :
    Prop :=
  ∃ region key value duration, Stores region key value duration call answer ∧
    place = placeOf region key ∧ e = ⟨value, now + duration⟩

/-- Storing a value puts its entry at its place. -/
theorem puts_add {region : Option Text} {key : Text} {value : α} {duration : Nat} :
    Puts now place e (.add region key value duration) .done ↔
      place = placeOf region key ∧ e = ⟨value, now + duration⟩ := by
  constructor
  · rintro ⟨_, _, _, _, ⟨⟩, hplace, he⟩
    exact ⟨hplace, he⟩
  · rintro ⟨hplace, he⟩
    exact ⟨_, _, _, _, .add, hplace, he⟩

/-- A value that had to be built is put at its place. -/
theorem puts_built {region : Option Text} {key : Text} {build : Unit → α} {duration : Nat}
    {value : α} {wasMissing : Bool} :
    Puts now place e (.getOrAdd region key build duration) (.built value wasMissing) ↔
      wasMissing = true ∧ place = placeOf region key ∧ e = ⟨value, now + duration⟩ := by
  constructor
  · rintro ⟨_, _, _, _, ⟨⟩, hplace, he⟩
    exact ⟨rfl, hplace, he⟩
  · rintro ⟨rfl, hplace, he⟩
    exact ⟨_, _, _, _, .getOrAdd build, hplace, he⟩

/-- An entry that is looked at is left if it is live. -/
theorem entryAt?_get_eq_some_iff {region : Option Text} {key : Text} :
    (c.get now region key).2.entryAt? place = some e ↔
      c.entryAt? place = some e ∧ (place = placeOf region key → e.isLive now = true) := by
  rw [entryAt?_get]
  split
  · rename_i hplace
    rw [live?, Option.filter_eq_some_iff]
    exact and_congr_right fun _ => ⟨fun h _ => h, fun h => h hplace⟩
  · rename_i hplace
    exact ⟨fun h => ⟨h, fun hsame => absurd hsame hplace⟩, And.left⟩

/-- An entry is left by removing another one. -/
theorem entryAt?_erase_eq_some_iff {region : Option Text} {key : Text} :
    (c.erase region key).entryAt? place = some e ↔
      c.entryAt? place = some e ∧ place ≠ placeOf region key := by
  rw [entryAt?_erase]
  split
  · rename_i hplace
    simp [hplace]
  · rename_i hplace
    simp [hplace]

/-- An entry is left by clearing other places. -/
theorem entryAt?_clear_eq_some_iff {region : Option Text} :
    (c.clear region).2.entryAt? place = some e ↔
      c.entryAt? place = some e ∧ ¬Clears region place := by
  rw [entryAt?_clear]
  split
  · rename_i hclears
    simp [hclears]
  · rename_i hclears
    simp [hclears]

/-- An entry is left by storing a value elsewhere, or by failing to store one. -/
theorem entryAt?_answer_add_eq_some_iff {region : Option Text} {key : Text} {value : α}
    {duration : Nat} :
    (c.answer last now (.add region key value duration)).2.entryAt? place = some e ↔
      (c.entryAt? place = some e ∧ (place = placeOf region key → outlasts last now duration = true)) ∨
        Puts now place e (.add region key value duration)
          (c.answer last now (.add region key value duration)).1 := by
  rw [entryAt?_answer_add]
  cases hend : outlasts last now duration with
  | true =>
    rw [answer_add_of_outlasts hend, if_neg (by simp)]
    refine ⟨fun h => .inl ⟨h, fun _ => rfl⟩, fun h => (h.resolve_right ?_).1⟩
    rintro ⟨_, _, _, _, ⟨⟩, -⟩
  | false =>
    rw [answer_add_of_not_outlasts hend, puts_add]
    by_cases hplace : place = placeOf region key
    · simp [hplace, eq_comm]
    · simp [hplace]

/-- An entry is left by asking for a value that is built if it is missing, unless the entry has
expired and is replaced by the one of this value. -/
theorem entryAt?_answer_getOrAdd_eq_some_iff {region : Option Text} {key : Text}
    {build : Unit → α} {duration : Nat} :
    (c.answer last now (.getOrAdd region key build duration)).2.entryAt? place = some e ↔
      (c.entryAt? place = some e ∧
        (place = placeOf region key → e.isLive now = true ∨ outlasts last now duration = true)) ∨
        Puts now place e (.getOrAdd region key build duration)
          (c.answer last now (.getOrAdd region key build duration)).1 := by
  cases hlive : c.live? now (placeOf region key) with
  | some d =>
    rw [answer_getOrAdd_of_live hlive, puts_built]
    obtain ⟨hd, hdlive⟩ := Option.filter_eq_some_iff.mp hlive
    refine ⟨fun h => .inl ⟨h, ?_⟩, fun h => (h.resolve_right fun hput => nomatch hput.1).1⟩
    rintro rfl
    obtain rfl : d = e := Option.some.inj (hd.symm.trans h)
    exact .inl hdlive
  | none =>
    cases hend : outlasts last now duration with
    | true =>
      rw [answer_getOrAdd_of_outlasts hlive hend, entryAt?_openRegion]
      refine ⟨fun h => .inl ⟨h, fun _ => .inr rfl⟩, fun h => (h.resolve_right ?_).1⟩
      rintro ⟨_, _, _, _, ⟨⟩, -⟩
    | false =>
      rw [answer_getOrAdd_of_not_outlasts hlive hend, entryAt?_add, puts_built]
      by_cases hplace : place = placeOf region key
      · subst hplace
        -- An entry that was there before is not live, so it has been replaced.
        have hgone : ¬(c.entryAt? (placeOf region key) = some e ∧
            (placeOf region key = placeOf region key → e.isLive now = true ∨ false = true)) := by
          rintro ⟨he, hkept⟩
          obtain hkept | hkept := hkept rfl
          · exact Option.filter_eq_none_iff.mp hlive e he hkept
          · exact nomatch hkept
        rw [if_pos rfl, or_iff_right hgone]
        exact ⟨fun he => ⟨rfl, rfl, (Option.some.inj he).symm⟩, fun h => congrArg some h.2.2.symm⟩
      · simp [hplace]

/-- What one call does: behind it an entry is at a place if it was there before and the call has left
it there, or if the call has put it there. -/
theorem entryAt?_answer_eq_some_iff (c : Cache α) (last now : Nat) (call : Call α) :
    (c.answer last now call).2.entryAt? place = some e ↔
      (c.entryAt? place = some e ∧ call.Spares last now place e) ∨
        Puts now place e call (c.answer last now call).1 := by
  have hquiet : ∀ {kept : Prop} {answer : Answer α}, ¬Puts now place e call answer →
      (kept ↔ kept ∨ Puts now place e call answer) := fun h => (or_iff_left h).symm
  cases call with
  | add region key value duration => exact entryAt?_answer_add_eq_some_iff
  | get region key =>
    refine entryAt?_get_eq_some_iff.trans (hquiet ?_)
    rintro ⟨_, _, _, _, ⟨⟩, -⟩
  | contains region key =>
    refine entryAt?_get_eq_some_iff.trans (hquiet ?_)
    rintro ⟨_, _, _, _, ⟨⟩, -⟩
  | remove region key =>
    refine entryAt?_erase_eq_some_iff.trans (hquiet ?_)
    rintro ⟨_, _, _, _, ⟨⟩, -⟩
  | clear region =>
    refine entryAt?_clear_eq_some_iff.trans (hquiet ?_)
    rintro ⟨_, _, _, _, ⟨⟩, -⟩
  | getOrAdd region key build duration => exact entryAt?_answer_getOrAdd_eq_some_iff
  | wait duration =>
    refine (and_iff_left trivial).symm.trans (hquiet ?_)
    rintro ⟨_, _, _, _, ⟨⟩, -⟩

end OneCall

namespace World

variable {h : Handle} {place : Text × Text} {e : Entry α}

/-- From a time on, calls to the cache of a handle leave an entry at its place. -/
def Spared (last : Nat) (h : Handle) (place : Text × Text) (e : Entry α) :
    Nat → List (Handle × Call α) → Prop
  | _, [] => True
  | now, (g, call) :: rest =>
    (g.place = h.place → call.Spares last now place e) ∧
      Spared last h place e (now + call.elapsed) rest

/-- A run leaves an entry at a place of the cache of a handle: some call has put it there, and later
calls have left it there. -/
def Leaves (w : World α) (h : Handle) (place : Text × Text) (e : Entry α)
    (calls : List (Handle × Call α)) : Prop :=
  ∃ before g call later, calls = before ++ (g, call) :: later ∧ g.place = h.place ∧
    Puts (w.after before).now place e call ((w.after before).step g call).1 ∧
    Spared w.last h place e ((w.after before).now + call.elapsed) later

/-- The first call of a run puts an entry at a place that is left there, or the others do. -/
theorem leaves_cons_iff {w : World α} {g : Handle} {call : Call α}
    {rest : List (Handle × Call α)} :
    w.Leaves h place e ((g, call) :: rest) ↔
      (g.place = h.place ∧ Puts w.now place e call (w.step g call).1 ∧
        Spared w.last h place e (w.now + call.elapsed) rest) ∨
      (w.step g call).2.Leaves h place e rest := by
  constructor
  · rintro ⟨before, g', call', later, hcalls, hrun⟩
    cases before with
    | nil =>
      cases hcalls
      exact .inl hrun
    | cons first before =>
      cases hcalls
      exact .inr ⟨before, g', call', later, rfl, hrun⟩
  · rintro (hfirst | ⟨before, g', call', later, rfl, hrun⟩)
    · exact ⟨[], g, call, rest, rfl, hfirst⟩
    · exact ⟨(g, call) :: before, g', call', later, rfl, hrun⟩

/-- What a call through a handle does to an entry of a cache. -/
theorem entryAt?_step_eq_some_iff (w : World α) (g : Handle) (call : Call α) :
    ((w.step g call).2.cacheAt h.place).entryAt? place = some e ↔
      ((w.cacheAt h.place).entryAt? place = some e ∧
        (g.place = h.place → call.Spares w.last w.now place e)) ∨
      (g.place = h.place ∧ Puts w.now place e call (w.step g call).1) := by
  change Cache.entryAt? (if h.place = g.place then ((w.cacheAt g.place).answer w.last w.now call).2
    else w.cacheAt h.place) place = _ ↔ _
  by_cases hplace : g.place = h.place
  · rw [if_pos hplace.symm, hplace, entryAt?_answer_eq_some_iff]
    have hanswer : (w.step g call).1 = ((w.cacheAt h.place).answer w.last w.now call).1 := by
      rw [← hplace]
      rfl
    simp [hanswer]
  · rw [if_neg (Ne.symm hplace)]
    simp [hplace]

/-- What a run does: behind it an entry is at a place if it was there before and has been left there,
or if the run has put it there and left it. -/
theorem entryAt?_after_eq_some_iff (w : World α) (calls : List (Handle × Call α)) :
    ((w.after calls).cacheAt h.place).entryAt? place = some e ↔
      ((w.cacheAt h.place).entryAt? place = some e ∧ Spared w.last h place e w.now calls) ∨
        w.Leaves h place e calls := by
  induction calls generalizing w with
  | nil =>
    refine (and_iff_left trivial).symm.trans (or_iff_left ?_).symm
    rintro ⟨before, g, call, later, hcalls, -⟩
    exact List.append_ne_nil_of_right_ne_nil before (List.cons_ne_nil _ _) hcalls.symm
  | cons first rest ih =>
    obtain ⟨g, call⟩ := first
    have hrest : ((w.after ((g, call) :: rest)).cacheAt h.place).entryAt? place = some e ↔
        (((w.step g call).2.cacheAt h.place).entryAt? place = some e ∧
          Spared w.last h place e (w.now + call.elapsed) rest) ∨
        (w.step g call).2.Leaves h place e rest := ih (w.step g call).2
    rw [hrest, entryAt?_step_eq_some_iff, leaves_cons_iff, Spared]
    tauto

end World

section Counting

variable {c : Cache α} {now : Nat} {region : Option Text}

/-- The entries of a cache are counted region by region. -/
theorem foldl_size_eq (regions : List (Text × Dict (Entry α))) (count : Nat) :
    (regions.map Prod.snd).foldl (fun count entries => count + entries.size) count =
      count + (regions.flatMap fun r => r.2.toList.map fun p => ((r.1, p.1), p.2)).length := by
  induction regions generalizing count with
  | nil => rfl
  | cons region rest ih =>
    rw [List.map_cons, List.foldl_cons, ih, List.flatMap_cons, List.length_append,
      List.length_map, Nat.add_assoc]
    rfl

/-- The entries of one region are those that clearing this region is about. -/
theorem perm_filter_clears {name : Text} {entries : Dict (Entry α)}
    (h : c.regions.get? name = some entries) :
    (entries.toList.map fun p => ((name, p.1), p.2)).Perm
      (c.entries.filter fun p => Clears (some name) p.1) := by
  have hmem : ∀ {key : Text} {e : Entry α},
      ((name, key), e) ∈ c.entries ↔ (key, e) ∈ entries.toList := by
    intro key e
    rw [mem_entries, entryAt?, h]
    exact Dict.get?_eq_some_iff
  have hown : (entries.toList.map fun p => ((name, p.1), p.2)).Nodup :=
    entries.nodup_keys.of_map.map fun p q h => by simpa [Prod.ext_iff] using h
  rw [List.perm_ext_iff_of_nodup hown
    (c.nodup_places.of_map.filter fun p => decide (Clears (some name) p.1))]
  rintro ⟨⟨other, key⟩, e⟩
  rw [List.mem_filter, decide_eq_true_eq, clears_some, List.mem_map]
  constructor
  · rintro ⟨⟨key', e'⟩, hentry, heq⟩
    cases heq
    exact ⟨hmem.mpr hentry, rfl⟩
  · rintro ⟨hentry, rfl⟩
    exact ⟨(key, e), hmem.mp hentry, rfl⟩

/-- Clearing counts the entries that are stored at the places that are cleared. -/
theorem clear_fst (c : Cache α) (region : Option Text) :
    (c.clear region).1 = (c.entries.filter fun p => Clears region p.1).length := by
  cases region with
  | none =>
    have hall : c.entries.filter (fun p => Clears none p.1) = c.entries := by simp
    rw [hall]
    exact (foldl_size_eq c.regions.toList 0).trans (Nat.zero_add _)
  | some name =>
    change ((c.regions.get? name).map Dict.size).getD 0 = _
    cases hentries : c.regions.get? name with
    | none =>
      refine (List.length_eq_zero_iff.mpr (List.filter_eq_nil_iff.mpr ?_)).symm
      rintro ⟨⟨other, key⟩, e⟩ hentry hclears
      obtain rfl : other = name := clears_some.mp (of_decide_eq_true hclears)
      rw [mem_entries, entryAt?, hentries] at hentry
      cases hentry
    | some entries =>
      rw [← (perm_filter_clears hentries).length_eq, List.length_map]
      rfl

/-- What is live before is live behind clearing, or it is live and is cleared. -/
theorem size_eq_clear_add (c : Cache α) (now : Nat) (region : Option Text) :
    c.size now = ((c.entries.filter fun p => Clears region p.1).filter
      fun p => p.2.isLive now).length + (c.clear region).2.size now := by
  have hperm : (c.clear region).2.entries.Perm
      (c.entries.filter fun p => !decide (Clears region p.1)) := by
    rw [List.perm_ext_iff_of_nodup (c.clear region).2.nodup_places.of_map
      (c.nodup_places.of_map.filter _)]
    rintro ⟨place, e⟩
    rw [List.mem_filter, mem_entries, mem_entries, entryAt?_clear_eq_some_iff,
      Bool.not_eq_true', decide_eq_false_iff_not]
  have hswap : ∀ kept : (Text × Text) × Entry α → Bool,
      (c.entries.filter kept).filter (fun p => p.2.isLive now) =
        (c.entries.filter fun p => p.2.isLive now).filter kept :=
    fun kept => List.filter_comm _ _ _
  rw [size_eq, size_eq, (hperm.filter _).length_eq, hswap, hswap]
  exact List.length_eq_length_filter_add
    fun p : (Text × Text) × Entry α => decide (Clears region p.1)

end Counting

namespace World

/-- Clearing counts, besides the live entries that it removes, those that have expired and are still
stored: some call has put them at a place that is cleared, and nobody has replaced or removed them
since, or has asked for them since they expired. A call that has failed counts for nothing here. -/
theorem clear_count (last : Nat) (calls : List (Handle × Call α)) (h : Handle) (region : Option Text) :
    let w := after { last } calls
    let c := w.cacheAt h.place
    ∃ expired : List (Text × Text), expired.Nodup ∧
      (∀ place, place ∈ expired ↔ Clears region place ∧
        ∃ e : Entry α, e.expiry ≤ w.now ∧ Leaves { last } h place e calls) ∧
      (c.clear region).2.size w.now ≤ c.size w.now ∧
      (c.clear region).1 = (c.size w.now - (c.clear region).2.size w.now) + expired.length := by
  intro w c
  have hsize := size_eq_clear_add c w.now region
  have hstored : ∀ {place : Text × Text} {e : Entry α},
      (place, e) ∈ c.entries ↔ Leaves { last } h place e calls := by
    intro place e
    rw [mem_entries, entryAt?_after_eq_some_iff]
    exact or_iff_right fun hempty => nomatch hempty.1
  refine ⟨((c.entries.filter fun p => Clears region p.1).filter
    fun p => !p.2.isLive w.now).map Prod.fst, ?_, fun place => ?_, ?_, ?_⟩
  · exact c.nodup_places.sublist ((List.filter_sublist.trans List.filter_sublist).map Prod.fst)
  · simp only [List.mem_map, List.mem_filter, Prod.exists, exists_and_right, exists_eq_right,
      decide_eq_true_eq, hstored, Entry.isLive, Bool.not_eq_true', decide_eq_false_iff_not,
      Nat.not_lt]
    constructor
    · rintro ⟨e, ⟨hleaves, hclears⟩, hexpired⟩
      exact ⟨hclears, e, hexpired, hleaves⟩
    · rintro ⟨hclears, e, hexpired, hleaves⟩
      exact ⟨e, ⟨hleaves, hclears⟩, hexpired⟩
  · omega
  · have hcount := List.length_eq_length_filter_add (l := c.entries.filter fun p => Clears region p.1)
      fun p => p.2.isLive w.now
    rw [clear_fst, hcount, List.length_map]
    omega

/-- A value whose duration passes. -/
def lapsedCalls : List (Handle × Call Nat) :=
  [(⟨0⟩, .add none ['k'] 1 5), (⟨0⟩, .wait 5)]

/-- The expired value is counted although it is not live, unless somebody has asked for it. -/
theorem clear_counts_lapsed :
    let w := after { last := 5 } lapsedCalls
    let asked := after { last := 5 } (lapsedCalls ++ [(⟨0⟩, .get none ['k'])])
    (w.cacheAt 0).size w.now = 0 ∧ ((w.cacheAt 0).clear none).2.size w.now = 0 ∧
      ((w.cacheAt 0).clear none).1 = 1 ∧ ((asked.cacheAt 0).clear none).1 = 0 := by
  decide +kernel

end World

end PathRouting.Cache
