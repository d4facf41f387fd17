import PathRouting.Proofs.Dict
import PathRouting.Route.Segments

/-!
# The defaults of a route

A default is given in a placeholder or apart from the template, and not in both. So the defaults in
effect are those of the route together with those that its placeholders declare.
-/

namespace PathRouting

/-- One of some placeholders declares a default for a parameter. -/
def Placeholder.Declared (ps : List Placeholder) (name : Text) (d : ParameterDefault) : Prop :=
  ∃ p ∈ ps, p.name = name ∧ p.default.toDefault? = some d

/-- A route, or one of its placeholders, gives a default for a parameter. -/
def Route.Gives (r : Route) (ps : List Placeholder) (name : Text) (d : ParameterDefault) : Prop :=
  r.defaults.get? name = some d ∨ Placeholder.Declared ps name d

/-- The first of some placeholders declares a default, or one of the others does. -/
theorem Placeholder.declared_cons {p : Placeholder} {ps : List Placeholder} {name : Text}
    {d : ParameterDefault} : Declared (p :: ps) name d ↔
      (p.name = name ∧ p.default.toDefault? = some d) ∨ Declared ps name d := by
  simp only [Declared, List.mem_cons, or_and_right, exists_or, exists_eq_left]

/-- A placeholder has a default if it declares anything. -/
theorem InlineDefault.toDefault?_eq_none_iff {d : InlineDefault} :
    d.toDefault? = Option.none ↔ d = none := by
  cases d <;> simp [toDefault?]

namespace Route

variable {r : Route} {p : Placeholder} {ps : List Placeholder} {name : Text} {d : ParameterDefault}

/-- No placeholder declares a default for a parameter for which the route has one. -/
def DefaultsApart (r : Route) (ps : List Placeholder) : Prop :=
  ∀ p ∈ ps, p.default ≠ .none → r.defaults.get? p.name = none

/-- A route with the default that a placeholder declares. -/
def declaring (r : Route) (p : Placeholder) : Route :=
  { r with defaults := p.default.toDefault?.elim r.defaults (r.defaults.insert p.name) }

/-- Placeholders are gone through one by one. -/
theorem mergedDefaults_cons (x : Template.Placed) (rest : List Template.Placed) :
    r.mergedDefaults (x :: rest) = (r.declaring x.placeholder).mergedDefaults rest :=
  rfl

/-- The default of a placeholder comes to those of the route. -/
theorem get?_declaring (hp : p.default ≠ .none → r.defaults.get? p.name = none) :
    (r.declaring p).defaults.get? name = some d ↔
      r.defaults.get? name = some d ∨ (p.name = name ∧ p.default.toDefault? = some d) := by
  unfold declaring
  cases hdefault : p.default.toDefault? with
  | none => simp
  | some e =>
    have hdeclares : p.default ≠ .none := fun hnone => by
      rw [InlineDefault.toDefault?_eq_none_iff.mpr hnone] at hdefault
      cases hdefault
    rw [Option.elim_some, Dict.get?_insert]
    split
    · rename_i hname
      rw [hname, hp hdeclares]
      simp
    · rename_i hname
      simp [Ne.symm hname]

/-- A route and its placeholders give the same defaults if the first placeholder's counts as one of
the route. -/
theorem gives_declaring (hp : p.default ≠ .none → r.defaults.get? p.name = none) :
    (r.declaring p).Gives ps name d ↔ r.Gives (p :: ps) name d := by
  unfold Gives
  rw [get?_declaring hp, Placeholder.declared_cons, or_assoc]

/-- A route has a default that a placeholder declares. -/
theorem contains_declaring : (r.declaring p).defaults.contains name =
    ((p.name == name && p.default != .none) || r.defaults.contains name) := by
  unfold declaring
  cases hdefault : p.default with
  | none => simp [InlineDefault.toDefault?]
  | value text =>
    have hne : (InlineDefault.value text != .none) = true := rfl
    simp [InlineDefault.toDefault?, Dict.contains_insert, hne]
  | optional =>
    have hne : (InlineDefault.optional != .none) = true := rfl
    simp [InlineDefault.toDefault?, Dict.contains_insert, hne]

/-- A parameter has a default if the route or one of its placeholders gives it one. -/
theorem contains_mergedDefaults (placed : List Template.Placed) :
    (r.mergedDefaults placed).contains name =
      (placed.any (fun x => x.placeholder.name == name && x.placeholder.default != .none) ||
        r.defaults.contains name) := by
  induction placed generalizing r with
  | nil => rfl
  | cons x rest ih =>
    rw [mergedDefaults_cons, ih, List.any_cons, contains_declaring, Bool.or_assoc,
      Bool.or_left_comm]

/-- The other placeholders do not declare the default of the first one. -/
theorem DefaultsApart.declaring (h : r.DefaultsApart (p :: ps)) (hnew : p.name ∉ ps.map (·.name)) :
    (r.declaring p).DefaultsApart ps := by
  obtain ⟨hp, hps⟩ := List.forall_mem_cons.mp h
  intro q hq hdeclares
  rw [Option.eq_none_iff_forall_ne_some]
  intro d hd
  obtain hroute | ⟨hname, -⟩ := (get?_declaring hp).mp hd
  · rw [hps q hq hdeclares] at hroute
    cases hroute
  · rw [hname] at hnew
    exact hnew (List.mem_map_of_mem hq)

/-- The defaults in effect are those that the route and its placeholders give. -/
theorem get?_mergedDefaults {placed : List Template.Placed}
    (hnodup : (placed.map (·.placeholder.name)).Nodup)
    (hapart : r.DefaultsApart (placed.map (·.placeholder))) :
    (r.mergedDefaults placed).get? name = some d ↔ r.Gives (placed.map (·.placeholder)) name d := by
  induction placed generalizing r with
  | nil => exact (or_iff_left fun ⟨p, hp, _⟩ => absurd hp List.not_mem_nil).symm
  | cons x rest ih =>
    rw [List.map_cons, List.nodup_cons] at hnodup
    rw [List.map_cons] at hapart ⊢
    have hnew : x.placeholder.name ∉ (rest.map (·.placeholder)).map (·.name) := by
      rw [List.map_map]
      exact hnodup.1
    rw [mergedDefaults_cons, ih hnodup.2 (hapart.declaring hnew),
      gives_declaring (hapart _ List.mem_cons_self)]

end Route

end PathRouting
