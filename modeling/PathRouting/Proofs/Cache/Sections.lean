import Mathlib.Data.Set.Defs
import Mathlib.Order.Basic
import PathRouting.Cache.Section
import PathRouting.Proofs.Cache.Entries

/-!
# Clients that share a cache

A client that has found an entry which is no longer live removes what is at its place when it has its
next turn, without looking at it again. What another client has stored there in the meantime is lost.
Nothing else is: a value that is stored while no client is about to purge its place stays until it
expires or a call replaces or removes it, and so does one whose place is not purged by those that
were about to do so when it was stored.
-/

namespace PathRouting.Cache

variable {α ι : Type}

/-- The place that is purged. -/
def Purge.place (p : Purge α) : Text × Text :=
  placeOf p.region p.key

/-- Purging a place removes its entry only. -/
theorem Purge.entryAt?_cache (p : Purge α) (c : Cache α) (now : Nat) (place : Text × Text) :
    (p.cache c now).entryAt? place = if place = p.place then none else c.entryAt? place :=
  entryAt?_erase c p.region p.key place

/-- Reading tells the value of an entry that is live, and nothing of one that is not. -/
theorem read?_of_some {c : Cache α} {region : Option Text} {key : Text} {e : Entry α}
    (h : c.entryAt? (placeOf region key) = some e) (now : Nat) :
    c.read? now region key = if e.isLive now then some (some e.value) else none := by
  rw [read?, entry?_eq, h]

/-- Reading tells that there is no value. -/
theorem read?_of_none {c : Cache α} {region : Option Text} {key : Text}
    (h : c.entryAt? (placeOf region key) = none) (now : Nat) :
    c.read? now region key = some none := by
  rw [read?, entry?_eq, h]

/-- Reading tells nothing of an entry that is not live only. -/
theorem not_isLive_of_read? {c : Cache α} {now : Nat} {region : Option Text} {key : Text}
    {e : Entry α} (hread : c.read? now region key = none)
    (h : c.entryAt? (placeOf region key) = some e) : ¬ e.isLive now := by
  rw [read?_of_some h] at hread
  intro hlive
  rw [if_pos hlive] at hread
  exact nomatch hread

/-- A value is read, and an entry that is no longer live is removed in a second section. -/
theorem get_eq_read? (c : Cache α) (now : Nat) (region : Option Text) (key : Text) :
    c.get now region key =
      match c.read? now region key with
      | some value? => (value?, c)
      | none => (none, (c.remove now region key).2) := by
  unfold get read?
  cases c.entry? region key with
  | none => rfl
  | some e =>
    dsimp only
    cases e.isLive now <;> rfl

/-- The sections of a call with no other section in between are the call. -/
theorem answer_eq_sections (c : Cache α) (last now : Nat) (call : Call α) :
    c.answer last now call =
      match c.firstSection last now call with
      | .inl next => next
      | .inr p => (p.answer, p.cache c now) := by
  cases call with
  | get region key =>
    rw [answer, firstSection, get_eq_read?]
    cases c.read? now region key <;> rfl
  | contains region key =>
    rw [answer, firstSection, contains, get_eq_read?]
    cases c.read? now region key <;> rfl
  | _ => rfl

/-- The calls that are to replace or remove the entry at a place, whatever it is. -/
def Call.Targets (place : Text × Text) : Call α → Prop
  | add region key _ _ => place = placeOf region key
  | remove region key => place = placeOf region key
  | clear region => Clears region place
  | _ => False

/-- The calls that may store an entry at a place. -/
def Call.MayStore (place : Text × Text) : Call α → Prop
  | add region key _ _ => place = placeOf region key
  | getOrAdd region key _ _ => place = placeOf region key
  | _ => False

/-- A client does a call of a kind. -/
def Event.Calls (kind : Call α → Prop) : Event ι α → Prop
  | .call _ asked => kind asked
  | _ => False

/-- A call whose answer tells that it has stored a value. -/
inductive Stores (region : Option Text) (key : Text) (value : α) (duration : Nat) :
    Call α → Answer α → Prop
  /-- Storing does so unless it fails. -/
  | add : Stores region key value duration (.add region key value duration) .done
  /-- Asking for a value does so if it was built. -/
  | getOrAdd (build : Unit → α) :
    Stores region key value duration (.getOrAdd region key build duration) (.built value true)

section FirstSection

variable {c : Cache α} {last now : Nat} {call : Call α}

/-- What the first section of a call does at a place: nothing, removing the entry, or storing one,
where asking for a value stores one only if none is live. -/
theorem entryAt?_of_firstSection {next : Answer α × Cache α}
    (h : c.firstSection last now call = .inl next) (place : Text × Text) :
    next.2.entryAt? place = c.entryAt? place ∨
      (call.Targets place ∧ next.2.entryAt? place = none) ∨
      (call.MayStore place ∧ (call.Targets place ∨ c.live? now place = none)) := by
  cases call with
  | add region key value duration =>
    cases h
    by_cases hplace : place = placeOf region key
    · exact .inr (.inr ⟨hplace, .inl hplace⟩)
    · exact .inl ((entryAt?_answer_add c last now region key value duration place).trans
        (if_neg fun h => hplace h.1))
  | get region key =>
    rw [firstSection] at h
    split at h <;> cases h
    exact .inl rfl
  | contains region key =>
    rw [firstSection] at h
    split at h <;> cases h
    exact .inl rfl
  | remove region key =>
    cases h
    by_cases hplace : place = placeOf region key
    · exact .inr (.inl ⟨hplace, (entryAt?_erase c region key place).trans (if_pos hplace)⟩)
    · exact .inl ((entryAt?_erase c region key place).trans (if_neg hplace))
  | clear region =>
    cases h
    by_cases hclears : Clears region place
    · exact .inr (.inl ⟨hclears, (entryAt?_clear c region place).trans (if_pos hclears)⟩)
    · exact .inl ((entryAt?_clear c region place).trans (if_neg hclears))
  | getOrAdd region key build duration =>
    cases h
    have hentry := entryAt?_answer_getOrAdd c last now region key build duration place
    by_cases hstored : place = placeOf region key ∧ c.live? now place = none ∧
        outlasts last now duration = false
    · exact .inr (.inr ⟨hstored.1, .inr hstored.2.1⟩)
    · exact .inl (hentry.trans (if_neg hstored))
  | wait duration =>
    cases h
    exact .inl rfl

/-- What is left to do is purging an entry that is not live. -/
theorem not_isLive_of_firstSection {p : Purge α} {e : Entry α}
    (h : c.firstSection last now call = .inr p) (hentry : c.entryAt? p.place = some e) :
    ¬ e.isLive now := by
  cases call with
  | get region key =>
    rw [firstSection] at h
    split at h <;> cases h
    rename_i hread
    exact not_isLive_of_read? hread hentry
  | contains region key =>
    rw [firstSection] at h
    split at h <;> cases h
    rename_i hread
    exact not_isLive_of_read? hread hentry
  | _ => exact nomatch h

end FirstSection

namespace Shared

variable [DecidableEq ι] {s t : Shared ι α} {place : Text × Text} {e : Entry α}

/-- What a call of a client is: its first section, after which it has something left to do or not. -/
theorem step_call_eq_some_iff {client : ι} {call : Call α} {answer? : Option (Answer α)} :
    s.step (.call client call) = some (answer?, t) ↔ s.purge? client = none ∧
      ((∃ next, s.cache.firstSection s.last s.now call = .inl next ∧ some next.1 = answer? ∧
        { s with now := s.now + call.elapsed, cache := next.2 } = t) ∨
      ∃ p, s.cache.firstSection s.last s.now call = .inr p ∧ none = answer? ∧
        { s with purge? := Function.update s.purge? client (some p) } = t) := by
  cases hpurge : s.purge? client with
  | some p => simp [step, hpurge]
  | none => cases hfirst : s.cache.firstSection s.last s.now call <;> simp [step, hpurge, hfirst]

/-- What the second section of a call is. -/
theorem step_purge_eq_some_iff {client : ι} {answer? : Option (Answer α)} :
    s.step (.purge client) = some (answer?, t) ↔ ∃ p, s.purge? client = some p ∧
      some p.answer = answer? ∧
        { s with
          cache := p.cache s.cache s.now
          purge? := Function.update s.purge? client none } = t := by
  cases hpurge : s.purge? client <;> simp [step, hpurge]

/-- A run is a first event and a run from there. -/
theorem run_cons_eq_some_iff {event : Event ι α} {rest : List (Event ι α)} :
    s.run (event :: rest) = some t ↔
      ∃ answer? next, s.step event = some (answer?, next) ∧ next.run rest = some t := by
  change (s.step event).bind _ = some t ↔ _
  rw [Option.bind_eq_some_iff, Prod.exists]

/-- A run is a run and a run from there. -/
theorem run_append_eq_some_iff {before after : List (Event ι α)} :
    s.run (before ++ after) = some t ↔ ∃ next, s.run before = some next ∧ next.run after = some t := by
  induction before generalizing s with
  | nil => exact ⟨fun h => ⟨s, rfl, h⟩, fun ⟨_, hs, h⟩ => Option.some.inj hs ▸ h⟩
  | cons event rest ih =>
    simp only [List.cons_append, run_cons_eq_some_iff, ih]
    tauto

/-- Time does not go back. -/
theorem now_le_of_step {event : Event ι α} {answer? : Option (Answer α)}
    (h : s.step event = some (answer?, t)) : s.now ≤ t.now := by
  cases event with
  | call client call =>
    obtain ⟨-, ⟨-, -, -, rfl⟩ | ⟨-, -, -, rfl⟩⟩ := step_call_eq_some_iff.mp h
    · exact Nat.le_add_right s.now call.elapsed
    · exact Nat.le_refl s.now
  | purge client =>
    obtain ⟨-, -, -, rfl⟩ := step_purge_eq_some_iff.mp h
    exact Nat.le_refl s.now
  | pass duration =>
    cases h
    exact Nat.le_add_right s.now duration

/-- Time does not go back in a run. -/
theorem now_le_of_run {events : List (Event ι α)} (h : s.run events = some t) : s.now ≤ t.now := by
  induction events generalizing s with
  | nil => exact Nat.le_of_eq (congrArg now (Option.some.inj h))
  | cons event rest ih =>
    obtain ⟨answer?, next, hstep, hrun⟩ := run_cons_eq_some_iff.mp h
    exact Nat.le_trans (now_le_of_step hstep) (ih hrun)

/-- The clients that are about to purge a place. -/
def purging (s : Shared ι α) (place : Text × Text) : Set ι :=
  fun client => ∃ p, s.purge? client = some p ∧ p.place = place

/-- A client that is about to purge a place was about to do so before, or has just found an entry
there that is not live. -/
theorem mem_purging_of_step {client : ι} {event : Event ι α} {answer? : Option (Answer α)}
    (hstep : s.step event = some (answer?, t)) (h : client ∈ t.purging place) :
    client ∈ s.purging place ∨ ∀ e, s.cache.entryAt? place = some e → ¬ e.isLive s.now := by
  obtain ⟨q, hq, rfl⟩ := h
  cases event with
  | call other call =>
    obtain ⟨-, ⟨next, -, -, rfl⟩ | ⟨p, hfirst, -, rfl⟩⟩ := step_call_eq_some_iff.mp hstep
    · exact .inl ⟨q, hq, rfl⟩
    · dsimp only at hq
      rw [Function.update_apply] at hq
      split at hq
      · cases hq
        exact .inr fun e => not_isLive_of_firstSection hfirst
      · exact .inl ⟨q, hq, rfl⟩
  | purge other =>
    obtain ⟨p, -, -, rfl⟩ := step_purge_eq_some_iff.mp hstep
    dsimp only at hq
    rw [Function.update_apply] at hq
    split at hq
    · exact nomatch hq
    · exact .inl ⟨q, hq, rfl⟩
  | pass duration =>
    cases hstep
    exact .inl ⟨q, hq, rfl⟩

/-- An entry is at a place that is purged next by clients of a set only. -/
structure Keeps (s : Shared ι α) (place : Text × Text) (e : Entry α) (clients : Set ι) : Prop where
  /-- The entry is there. -/
  entry : s.cache.entryAt? place = some e
  /-- All that are about to purge the place are among the clients. -/
  purging : ∀ client ∈ s.purging place, client ∈ clients

/-- What one event preserves: an entry that is live stays where it is, unless a call replaces or
removes it or one of the clients purges its place, and no other client is about to. -/
theorem Keeps.step {clients : Set ι} {event : Event ι α} {answer? : Option (Answer α)}
    (h : s.Keeps place e clients) (hstep : s.step event = some (answer?, t)) (hlive : e.isLive s.now)
    (htarget : ¬ event.Calls (·.Targets place)) (hpurge : ∀ client ∈ clients, event ≠ .purge client) :
    t.Keeps place e clients := by
  refine ⟨?_, fun client hclient => ?_⟩
  · cases event with
    | call client call =>
      obtain ⟨-, ⟨next, hfirst, -, rfl⟩ | ⟨p, -, -, rfl⟩⟩ := step_call_eq_some_iff.mp hstep
      · obtain hsame | ⟨hcall, -⟩ | ⟨-, hcall | hnone⟩ := entryAt?_of_firstSection hfirst place
        · exact hsame.trans h.entry
        · exact absurd hcall htarget
        · exact absurd hcall htarget
        · rw [live?, h.entry, Option.filter_eq_none_iff] at hnone
          exact absurd hlive (hnone e rfl)
      · exact h.entry
    | purge client =>
      obtain ⟨p, hp, -, rfl⟩ := step_purge_eq_some_iff.mp hstep
      have hplace : place ≠ p.place := by
        rintro rfl
        exact hpurge client (h.purging client ⟨p, hp, rfl⟩) rfl
      exact (p.entryAt?_cache s.cache s.now place).trans ((if_neg hplace).trans h.entry)
    | pass duration =>
      cases hstep
      exact h.entry
  · obtain hbefore | hfound := mem_purging_of_step hstep hclient
    · exact h.purging client hbefore
    · exact absurd hlive (hfound e h.entry)

/-- What a run preserves: an entry that is live in the end has stayed where it is. -/
theorem Keeps.run {clients : Set ι} {events : List (Event ι α)} (h : s.Keeps place e clients)
    (hrun : s.run events = some t) (hlive : e.isLive t.now)
    (htarget : ∀ event ∈ events, ¬ event.Calls (·.Targets place))
    (hpurge : ∀ client ∈ clients, .purge client ∉ events) : t.Keeps place e clients := by
  induction events generalizing s with
  | nil => exact Option.some.inj hrun ▸ h
  | cons event rest ih =>
    obtain ⟨answer?, next, hstep, hrest⟩ := run_cons_eq_some_iff.mp hrun
    have hlater : s.now ≤ t.now := now_le_of_run hrun
    have hnow : e.isLive s.now := by
      simp only [Entry.isLive, decide_eq_true_eq] at hlive ⊢
      exact Nat.lt_of_le_of_lt hlater hlive
    refine ih ?_ hrest (fun event hevent => htarget event (List.mem_cons_of_mem _ hevent))
      fun client hclient hevent => hpurge client hclient (List.mem_cons_of_mem _ hevent)
    refine h.step hstep hnow (htarget event List.mem_cons_self) fun client hclient hevent => ?_
    exact hpurge client hclient (hevent ▸ List.mem_cons_self)

/-- What one event preserves: a place without an entry has none as long as no call stores one. -/
theorem entryAt?_eq_none_of_step {event : Event ι α} {answer? : Option (Answer α)}
    (h : s.cache.entryAt? place = none) (hstep : s.step event = some (answer?, t))
    (hstore : ¬ event.Calls (·.MayStore place)) : t.cache.entryAt? place = none := by
  cases event with
  | call client call =>
    obtain ⟨-, ⟨next, hfirst, -, rfl⟩ | ⟨p, hfirst, -, rfl⟩⟩ := step_call_eq_some_iff.mp hstep
    · obtain hsame | ⟨-, hnone⟩ | ⟨hcall, -⟩ := entryAt?_of_firstSection hfirst place
      · exact hsame.trans h
      · exact hnone
      · exact absurd hcall hstore
    · exact h
  | purge client =>
    obtain ⟨p, hp, -, rfl⟩ := step_purge_eq_some_iff.mp hstep
    exact (p.entryAt?_cache s.cache s.now place).trans (ite_eq_left_iff.mpr fun _ => h)
  | pass duration =>
    cases hstep
    exact h

/-- What a run preserves: a place without an entry has none as long as no call stores one. -/
theorem entryAt?_eq_none_of_run {events : List (Event ι α)} (h : s.cache.entryAt? place = none)
    (hrun : s.run events = some t) (hstore : ∀ event ∈ events, ¬ event.Calls (·.MayStore place)) :
    t.cache.entryAt? place = none := by
  induction events generalizing s with
  | nil => exact Option.some.inj hrun ▸ h
  | cons event rest ih =>
    obtain ⟨answer?, next, hstep, hrest⟩ := run_cons_eq_some_iff.mp hrun
    exact ih (entryAt?_eq_none_of_step h hstep (hstore event List.mem_cons_self)) hrest
      fun event hevent => hstore event (List.mem_cons_of_mem _ hevent)

/-- What one event preserves: a client that has something left to do has it left until it does it. -/
theorem purge?_of_step {client : ι} {p : Purge α} {event : Event ι α} {answer? : Option (Answer α)}
    (h : s.purge? client = some p) (hstep : s.step event = some (answer?, t))
    (hevent : event ≠ .purge client) : t.purge? client = some p := by
  cases event with
  | call other call =>
    obtain ⟨hidle, ⟨next, hfirst, -, rfl⟩ | ⟨q, hfirst, -, rfl⟩⟩ := step_call_eq_some_iff.mp hstep
    · exact h
    · have hclient : client ≠ other := by
        rintro rfl
        exact nomatch h.symm.trans hidle
      exact (Function.update_of_ne hclient _ _).trans h
  | purge other =>
    obtain ⟨q, hq, -, rfl⟩ := step_purge_eq_some_iff.mp hstep
    have hclient : client ≠ other := by
      rintro rfl
      exact hevent rfl
    exact (Function.update_of_ne hclient _ _).trans h
  | pass duration =>
    cases hstep
    exact h

/-- What a run preserves: a client that has something left to do has it left until it does it. -/
theorem purge?_of_run {client : ι} {p : Purge α} {events : List (Event ι α)}
    (h : s.purge? client = some p) (hrun : s.run events = some t)
    (hevents : .purge client ∉ events) : t.purge? client = some p := by
  induction events generalizing s with
  | nil => exact Option.some.inj hrun ▸ h
  | cons event rest ih =>
    obtain ⟨answer?, next, hstep, hrest⟩ := run_cons_eq_some_iff.mp hrun
    refine ih (purge?_of_step h hstep ?_) hrest fun hevent =>
      hevents (List.mem_cons_of_mem _ hevent)
    rintro rfl
    exact hevents List.mem_cons_self

/-- A place has no entry once a client has purged it that was about to. -/
theorem entryAt?_eq_none_of_purge {client : ι} {events : List (Event ι α)}
    (hclient : client ∈ s.purging place) (hrun : s.run events = some t)
    (hpurge : .purge client ∈ events) (hstore : ∀ event ∈ events, ¬ event.Calls (·.MayStore place)) :
    t.cache.entryAt? place = none := by
  obtain ⟨p, hp, rfl⟩ := hclient
  -- The first time that the client has something left to do, it is still this purge.
  obtain ⟨before, after, rfl, hbefore⟩ := List.eq_append_cons_of_mem hpurge
  obtain ⟨u, hu, hrest⟩ := run_append_eq_some_iff.mp hrun
  obtain ⟨answer?, v, hstep, hafter⟩ := run_cons_eq_some_iff.mp hrest
  obtain ⟨q, hq, -, rfl⟩ := step_purge_eq_some_iff.mp hstep
  obtain rfl : p = q := Option.some.inj ((purge?_of_run hp hu hbefore).symm.trans hq)
  refine entryAt?_eq_none_of_run ?_ hafter fun event hevent => hstore event ?_
  · exact (p.entryAt?_cache u.cache u.now p.place).trans (if_pos rfl)
  · exact List.mem_append_right before (List.mem_cons_of_mem _ hevent)

/-- A call that stores a value leaves its entry in the cache, and what clients have left to do. -/
theorem entryAt?_of_stores {client : ι} {region : Option Text} {key : Text} {value : α}
    {duration : Nat} {call : Call α} {answer : Answer α}
    (hstep : s.step (.call client call) = some (some answer, t))
    (hstores : Stores region key value duration call answer) :
    t.cache.entryAt? (placeOf region key) = some ⟨value, s.now + duration⟩ ∧
      t.purge? = s.purge? := by
  obtain ⟨-, ⟨next, hfirst, hanswer, rfl⟩ | ⟨p, -, hanswer, -⟩⟩ := step_call_eq_some_iff.mp hstep
  · refine ⟨?_, rfl⟩
    cases hstores with
    | add =>
      cases hfirst
      cases hend : outlasts s.last s.now duration with
      | true =>
        rw [answer_add_of_outlasts hend] at hanswer
        exact nomatch hanswer
      | false =>
        exact (entryAt?_answer_add s.cache s.last s.now region key value duration _).trans
          (if_pos ⟨rfl, hend⟩)
    | getOrAdd build =>
      cases hfirst
      cases hlive : s.cache.live? s.now (placeOf region key) with
      | some e =>
        rw [answer_getOrAdd_of_live hlive] at hanswer
        exact nomatch hanswer
      | none =>
        cases hend : outlasts s.last s.now duration with
        | true =>
          rw [answer_getOrAdd_of_outlasts hlive hend] at hanswer
          exact nomatch hanswer
        | false =>
          rw [answer_getOrAdd_of_not_outlasts hlive hend] at hanswer ⊢
          cases hanswer
          exact (entryAt?_add s.cache s.now region key _ duration _).trans (if_pos rfl)
  · exact nomatch hanswer

/-- A client that has nothing left to do gets the value of a live entry. -/
theorem step_get_of_some {client : ι} {region : Option Text} {key : Text}
    (hidle : s.purge? client = none) (h : s.cache.entryAt? (placeOf region key) = some e)
    (hlive : e.isLive s.now) :
    s.step (.call client (.get region key)) = some (some (.value (some e.value)), s) := by
  refine step_call_eq_some_iff.mpr ⟨hidle, .inl ⟨(.value (some e.value), s.cache), ?_, rfl, rfl⟩⟩
  rw [firstSection, read?_of_some h, if_pos hlive]

/-- A client that has nothing left to do gets no value where there is no entry. -/
theorem step_get_of_none {client : ι} {region : Option Text} {key : Text}
    (hidle : s.purge? client = none) (h : s.cache.entryAt? (placeOf region key) = none) :
    s.step (.call client (.get region key)) = some (some (.value none), s) := by
  refine step_call_eq_some_iff.mpr ⟨hidle, .inl ⟨(.value none, s.cache), ?_, rfl, rfl⟩⟩
  rw [firstSection, read?_of_none h]

end Shared

/-- No update is lost: in every run from the empty cache, a value that a call has stored is the answer
to those who ask for it as long as it has not expired and no call has replaced or removed it. -/
def NoUpdateLost (ι α : Type) [DecidableEq ι] : Prop :=
  ∀ (last : Nat) (before after : List (Event ι α)) (s s' t : Shared ι α) (writer reader : ι)
    (region : Option Text) (key : Text) (value : α) (duration : Nat) (call : Call α)
    (answer : Answer α),
    ({ last } : Shared ι α).run before = some s →
    s.step (.call writer call) = some (some answer, s') →
    Stores region key value duration call answer →
    s'.run after = some t →
    (∀ event ∈ after, ¬ event.Calls (·.Targets (placeOf region key))) →
    t.now < s.now + duration →
    t.purge? reader = none →
    t.step (.call reader (.get region key)) = some (some (.value (some value)), t)

/-- Updates are lost. One client asks for a value when it expires, another one stores a new value, and
the first one then purges the place. -/
theorem not_noUpdateLost : ¬ NoUpdateLost Bool Nat := by
  intro h
  have hget := h 15 [.call false (.add none ['k'] 1 5), .pass 5, .call false (.get none ['k'])]
    [.purge false] _ _ _ true true none ['k'] 2 10 (.add none ['k'] 2 10) .done rfl rfl .add rfl
    (by simp [Event.Calls]) (by decide) rfl
  exact nomatch hget

section Updates

variable [DecidableEq ι] {s s' t : Shared ι α} {writer reader : ι} {region : Option Text}
  {key : Text} {value : α} {duration : Nat} {call : Call α} {answer : Answer α}
  {events : List (Event ι α)}

/-- Which updates are lost. A value that a call has stored, at whatever moment, and that has not
expired since is the answer to those who ask for it if no call has replaced or removed it and none of
the clients that were about to purge its place when it was stored has done so. Other clients may have
asked for it and purged what they like. If one of these clients has done so, there is no value
until a call stores one. -/
theorem get_of_stores (hstep : s.step (.call writer call) = some (some answer, s'))
    (hstores : Stores region key value duration call answer) (hrun : s'.run events = some t)
    (hlive : t.now < s.now + duration) (hidle : t.purge? reader = none) :
    ((∀ event ∈ events, ¬ event.Calls (·.Targets (placeOf region key))) →
        (∀ client ∈ s.purging (placeOf region key), .purge client ∉ events) →
        t.step (.call reader (.get region key)) = some (some (.value (some value)), t)) ∧
      ((∃ client ∈ s.purging (placeOf region key), .purge client ∈ events) →
        (∀ event ∈ events, ¬ event.Calls (·.MayStore (placeOf region key))) →
        t.step (.call reader (.get region key)) = some (some (.value none), t)) := by
  obtain ⟨hentry, hpurge?⟩ := Shared.entryAt?_of_stores hstep hstores
  have hpurging : s'.purging (placeOf region key) = s.purging (placeOf region key) := by
    unfold Shared.purging
    rw [hpurge?]
  have hlive : (⟨value, s.now + duration⟩ : Entry α).isLive t.now := decide_eq_true hlive
  constructor
  · intro htarget hspared
    have hkeeps : s'.Keeps (placeOf region key) ⟨value, s.now + duration⟩
        (s.purging (placeOf region key)) := ⟨hentry, fun _ h => hpurging ▸ h⟩
    exact Shared.step_get_of_some hidle (hkeeps.run hrun hlive htarget hspared).entry hlive
  · rintro ⟨client, hclient, hevent⟩ hstore
    rw [← hpurging] at hclient
    exact Shared.step_get_of_none hidle (Shared.entryAt?_eq_none_of_purge hclient hrun hevent hstore)

end Updates

/-- A shared cache in which a client is about to purge an entry. -/
def purgingCache : Shared Bool Nat where
  last := 15
  now := 5
  cache := (∅ : Cache Nat).add 0 none ['k'] 1 5
  purge? client := if client then some ⟨none, ['k'], .value none⟩ else none

/-- The cache once another client has stored a new value there. -/
def purgingCacheStored : Shared Bool Nat :=
  { purgingCache with cache := purgingCache.cache.add 5 none ['k'] 2 10 }

/-- The new value is answered as long as the first client has not purged it. -/
theorem get_purgingCacheStored :
    purgingCache.step (.call false (.getOrAdd none ['k'] (fun _ => 2) 10)) =
        some (some (.built 2 true), purgingCacheStored) ∧
      purgingCacheStored.run [.call false (.contains none ['k']), .pass 9] =
        some { purgingCacheStored with now := 14 } ∧
      Shared.step { purgingCacheStored with now := 14 } (.call false (.get none ['k'])) =
        some (some (.value (some 2)), { purgingCacheStored with now := 14 }) :=
  have hstep : purgingCache.step (.call false (.getOrAdd none ['k'] (fun _ => 2) 10)) =
      some (some (.built 2 true), purgingCacheStored) := rfl
  have hrun : purgingCacheStored.run [.call false (.contains none ['k']), .pass 9] =
      some { purgingCacheStored with now := 14 } := rfl
  ⟨hstep, hrun, (get_of_stores hstep (.getOrAdd fun _ => 2) hrun (by decide) rfl).1
    (by simp [Event.Calls, Call.Targets]) (by simp)⟩

end PathRouting.Cache
