import PathRouting.Proofs.Route.Building
import PathRouting.Proofs.RouteTable.Precedence
import PathRouting.RoutesFile

/-!
# Loading a routes file

A routes file is loaded entry by entry: an entry is converted to a route, and the route is registered
behind those of the entries before. So the table of a file holds the routes of all its entries in their
order, and if there is none, the error tells the first entry that is at fault, whichever of the two
steps it fails in.
-/

namespace PathRouting

/-- The routes that are added to a table one after another stand behind those of the table. -/
theorem RouteTable.routes_addAll {t bigger : RouteTable} {routes : List Route}
    (h : t.addAll routes = .ok bigger) : bigger.routes = t.routes ++ routes := by
  induction routes generalizing t with
  | nil =>
    cases h
    exact (List.append_nil _).symm
  | cons r routes ih =>
    obtain ⟨next, hadd, hrest⟩ := Regex.bind_eq_ok h
    obtain ⟨-, -, rfl⟩ := add_eq_ok_iff.mp hadd
    rw [ih hrest, List.append_assoc, List.singleton_append]

/-- A value is an entry that describes a route. -/
def RouteEntry.Describes (v : Yaml.Value) (r : Route) : Prop :=
  ∃ entry, ofValue v = .ok entry ∧ entry.toRoute = r

namespace RoutesFile

open RouteEntry (Describes)

/-- Entries describe routes that can be added to a table one after another, with which it becomes
another table. -/
def Loads (t : RouteTable) (entries : List Yaml.Value) (bigger : RouteTable) : Prop :=
  ∃ routes, List.Forall₂ Describes entries routes ∧ t.addAll routes = .ok bigger

/-- An entry with a number is at fault, given the table of the entries before it, and an error tells
so. -/
inductive Refuses (t : RouteTable) (number : Nat) (v : Yaml.Value) (e : Error) : Prop
  /-- The value is no entry. -/
  | conversion {fault : Settings.Fault} (h : RouteEntry.ofValue v = .error fault)
    (hmessage : e.message = s!"Invalid route entry #{number}")
    (hcause : e.cause? = some (.invalidRoute (.definition fault)))
  /-- The table does not accept the route that the entry describes. -/
  | registration {r : Route} {reason : RouteError} (h : Describes v r)
    (hadd : t.add r = .error reason)
    (hmessage : e.message =
      let template := String.ofList r.template
      s!"Could not register route #{number} ({template})")
    (hcause : e.cause? = some reason)

variable {t next bigger : RouteTable} {number : Nat} {v : Yaml.Value} {e : Error}

/-- An entry is registered if it describes a route that the table accepts. -/
theorem addEntry_eq_ok_iff :
    addEntry t number v = .ok next ↔ ∃ r, Describes v r ∧ t.add r = .ok next := by
  unfold addEntry
  constructor
  · intro h
    obtain ⟨entry, hentry, h⟩ := Regex.bind_eq_ok h
    exact ⟨_, ⟨entry, mapError_eq_ok hentry, rfl⟩, mapError_eq_ok h⟩
  · rintro ⟨_, ⟨entry, hentry, rfl⟩, hadd⟩
    rw [hentry]
    change (t.add entry.toRoute).mapError _ = _
    rw [hadd]
    rfl

/-- An entry that is not registered is at fault. -/
theorem refuses_of_addEntry (h : addEntry t number v = .error e) : Refuses t number v e := by
  unfold addEntry at h
  cases hentry : RouteEntry.ofValue v with
  | error fault =>
    rw [hentry] at h
    cases h
    exact .conversion hentry rfl rfl
  | ok entry =>
    rw [hentry] at h
    change (t.add entry.toRoute).mapError _ = _ at h
    cases hadd : t.add entry.toRoute with
    | ok next =>
      rw [hadd] at h
      cases h
    | error reason =>
      rw [hadd] at h
      cases h
      exact .registration ⟨entry, hentry, rfl⟩ hadd rfl rfl

/-- No entries leave the table as it is. -/
theorem loads_nil_iff : Loads t [] bigger ↔ bigger = t := by
  constructor
  · rintro ⟨_, ⟨⟩, hadd⟩
    exact (Except.ok.inj hadd).symm
  · rintro rfl
    exact ⟨[], .nil, rfl⟩

/-- Entries are loaded one by one. -/
theorem loads_cons_iff {entries : List Yaml.Value} : Loads t (v :: entries) bigger ↔
    ∃ r next, Describes v r ∧ t.add r = .ok next ∧ Loads next entries bigger := by
  constructor
  · rintro ⟨_, ⟨⟩ | ⟨hv, hentries⟩, hadd⟩
    obtain ⟨next, hnext, hrest⟩ := Regex.bind_eq_ok hadd
    exact ⟨_, next, hv, hnext, _, hentries, hrest⟩
  · rintro ⟨r, next, hv, hnext, routes, hentries, hrest⟩
    refine ⟨r :: routes, .cons hv hentries, ?_⟩
    rw [RouteTable.addAll, hnext]
    exact hrest

/-- Entries are registered if all of them describe routes that the table accepts in their turn. -/
theorem addEntries_eq_ok_iff {entries : List Yaml.Value} :
    addEntries t number entries = .ok bigger ↔ Loads t entries bigger := by
  induction entries generalizing t number with
  | nil =>
    rw [loads_nil_iff]
    exact ⟨fun h => (Except.ok.inj h).symm, fun h => congrArg Except.ok h.symm⟩
  | cons v entries ih =>
    rw [loads_cons_iff]
    constructor
    · intro h
      obtain ⟨next, hnext, hrest⟩ := Regex.bind_eq_ok h
      obtain ⟨r, hv, hadd⟩ := addEntry_eq_ok_iff.mp hnext
      exact ⟨r, next, hv, hadd, ih.mp hrest⟩
    · rintro ⟨r, next, hv, hadd, hrest⟩
      have hnext : addEntry t number v = .ok next := addEntry_eq_ok_iff.mpr ⟨r, hv, hadd⟩
      rw [addEntries, hnext]
      exact ih.mpr hrest

/-- If not all entries are registered, there is a first one at fault. -/
theorem exists_refuses_of_addEntries {entries : List Yaml.Value}
    (h : addEntries t number entries = .error e) :
    ∃ i next, ∃ hi : i < entries.length,
      Loads t (entries.take i) next ∧ Refuses next (number + i) entries[i] e := by
  induction entries generalizing t number with
  | nil => cases h
  | cons v entries ih =>
    cases hnext : addEntry t number v with
    | error refusal =>
      rw [addEntries, hnext] at h
      cases h
      exact ⟨0, t, Nat.succ_pos _, loads_nil_iff.mpr rfl, refuses_of_addEntry hnext⟩
    | ok next =>
      rw [addEntries, hnext] at h
      obtain ⟨i, last, hi, hloads, hrefuses⟩ := ih h
      obtain ⟨r, hv, hadd⟩ := addEntry_eq_ok_iff.mp hnext
      refine ⟨i + 1, last, Nat.succ_lt_succ hi, loads_cons_iff.mpr ⟨r, next, hv, hadd, hloads⟩, ?_⟩
      rwa [Nat.add_assoc, Nat.add_comm 1 i] at hrefuses

/-- A routes file is loaded as a whole and in order, or not at all. The entries of a file make up a
table exactly when each of them describes a route and adding the routes one after another to an empty
table succeeds; the table then has these routes, in the order of the file. Else the error is about the
first entry that is at fault: it tells the number of the entry, counted from one, and the step that
fails, and it carries the reason of that step. -/
theorem parse_outcome {text : Text} {entries : List Yaml.Value}
    (h : Yaml.Value.readItems text = .ok entries) :
    (∀ t, parse text = .ok t ↔ ∃ routes,
      List.Forall₂ Describes entries routes ∧ RouteTable.addAll ∅ routes = .ok t ∧ t.routes = routes) ∧
    ∀ e, parse text = .error e → ∃ i t, ∃ hi : i < entries.length,
      Loads ∅ (entries.take i) t ∧ Refuses t (i + 1) entries[i] e := by
  have hparse : parse text = addEntries ∅ 1 entries := by
    unfold parse
    rw [h]
    rfl
  rw [hparse]
  constructor
  · intro t
    rw [addEntries_eq_ok_iff]
    constructor
    · rintro ⟨routes, hentries, hadd⟩
      exact ⟨routes, hentries, hadd, RouteTable.routes_addAll hadd⟩
    · rintro ⟨routes, hentries, hadd, -⟩
      exact ⟨routes, hentries, hadd⟩
  · intro e he
    obtain ⟨i, t, hi, hloads, hrefuses⟩ := exists_refuses_of_addEntries he
    exact ⟨i, t, hi, hloads, Nat.add_comm 1 i ▸ hrefuses⟩

/-- A file whose second entry gives a parameter two defaults, and whose third one is a number. -/
def conflictFile : Text :=
  "- about\n- template: '\x7bid=42\x7d'\n  defaults:\n    id: '7'\n- 42\n".toList

/-- The error of the file is about the two defaults: what comes later is not looked at. -/
theorem conflictFile_refused : ∃ entries, Yaml.Value.readItems conflictFile = .ok entries ∧
    entries.length = 3 ∧ ∃ e, parse conflictFile = .error e ∧
      e = .refusedRoute 2 "\x7bid=42\x7d".toList (.defaultConflict "id".toList) ∧
      ∃ i t, ∃ hi : i < entries.length,
        Loads ∅ (entries.take i) t ∧ Refuses t (i + 1) entries[i] e := by
  have hany : (Yaml.Value.readItems conflictFile).toOption.any (·.length == 3) = true := by
    decide +kernel
  obtain ⟨entries, hfile, hthree⟩ := exists_ok_of_any_toOption hany
  have herror : parse conflictFile =
      .error (.refusedRoute 2 "\x7bid=42\x7d".toList (.defaultConflict "id".toList)) := by
    decide +kernel
  exact ⟨entries, hfile, beq_iff_eq.mp hthree, _, herror, rfl, (parse_outcome hfile).2 _ herror⟩

end RoutesFile

end PathRouting
