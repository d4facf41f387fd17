import Mathlib.Data.List.Forall2
import PathRouting.Proofs.Dict
import PathRouting.Route.Compiled

/-!
# The values of a match

The values that a path gives to the parameters of a row of segments are the values of the
parameters one by one.
-/

namespace PathRouting

/-- Steps over a list give the same if they agree on its elements. -/
theorem mapM_congr_of_mem {α β : Type} {f g : α → Option β} {l : List α}
    (h : ∀ a ∈ l, f a = g a) : l.mapM f = l.mapM g := by
  induction l with
  | nil => rfl
  | cons a l ih =>
    obtain ⟨ha, hl⟩ := List.forall_mem_cons.mp h
    rw [List.mapM_cons, List.mapM_cons, ha, ih hl]

/-- A step that gives nothing for one element of a list gives nothing for the list. -/
theorem mapM_eq_none_iff {α β : Type} {f : α → Option β} {l : List α} :
    l.mapM f = none ↔ ∃ a ∈ l, f a = none := by
  induction l with
  | nil => simp
  | cons a l ih =>
    rw [List.mapM_cons]
    cases hf : f a with
    | none => simp [hf]
    | some b =>
      cases hl : l.mapM f with
      | none =>
        obtain ⟨c, hc, hnone⟩ := ih.mp hl
        exact ⟨fun _ => ⟨c, List.mem_cons_of_mem a hc, hnone⟩, fun _ => rfl⟩
      | some bs =>
        refine ⟨fun h => absurd h (by simp), ?_⟩
        rintro ⟨c, hc, hnone⟩
        rcases List.mem_cons.mp hc with rfl | hc
        · rw [hf] at hnone
          cases hnone
        · have := ih.mpr ⟨c, hc, hnone⟩
          rw [hl] at this
          cases this

/-- The elements of a list that a step has given something for. -/
theorem forall₂_of_mapM_eq_some {α β : Type} {f : α → Option β} {l : List α} {bs : List β}
    (h : l.mapM f = some bs) : List.Forall₂ (fun a b => f a = some b) l bs := by
  induction l generalizing bs with
  | nil =>
    cases h
    exact .nil
  | cons a l ih =>
    rw [List.mapM_cons] at h
    obtain ⟨b, hb, h⟩ := Option.bind_eq_some_iff.mp h
    obtain ⟨cs, hcs, h⟩ := Option.bind_eq_some_iff.mp h
    cases h
    exact .cons hb (ih hcs)

/-- A name has been looked up, and what is known of it has been attached to it. -/
def LookedUp (find? : Text → Option (Option Text)) (name : Text) (p : Option (Text × Text)) : Prop :=
  ∃ v, find? name = some v ∧ p = v.map (name, ·)

section

variable {find? : Text → Option (Option Text)} {names : List Text} {pairs : List (Option (Text × Text))}

/-- Every name of a list has been looked up. -/
theorem exists_of_lookedUp (h : List.Forall₂ (LookedUp find?) names pairs) {name : Text}
    (hname : name ∈ names) : ∃ v, find? name = some v := by
  induction h with
  | nil => exact absurd hname List.not_mem_nil
  | cons hfirst _ ih =>
    rcases List.mem_cons.mp hname with rfl | hname
    · exact ⟨_, hfirst.choose_spec.1⟩
    · exact ih hname

/-- The pairs are those of the names that have a value. -/
theorem mem_filterMap_lookedUp (h : List.Forall₂ (LookedUp find?) names pairs) {name v : Text} :
    (name, v) ∈ pairs.filterMap id ↔ name ∈ names ∧ find? name = some (some v) := by
  induction h with
  | nil => simp
  | @cons first p names pairs hfirst _ ih =>
    obtain ⟨w, hw, rfl⟩ := hfirst
    cases w with
    | none =>
      change (name, v) ∈ pairs.filterMap id ↔ _
      rw [ih, List.mem_cons]
      constructor
      · rintro ⟨hin, hv⟩
        exact ⟨.inr hin, hv⟩
      · rintro ⟨rfl | hin, hv⟩
        · rw [hw] at hv
          cases hv
        · exact ⟨hin, hv⟩
    | some w =>
      change (name, v) ∈ (first, w) :: pairs.filterMap id ↔ _
      rw [List.mem_cons, ih, List.mem_cons, Prod.mk.injEq]
      constructor
      · rintro (⟨rfl, rfl⟩ | ⟨hin, hv⟩)
        · exact ⟨.inl rfl, hw⟩
        · exact ⟨.inr hin, hv⟩
      · rintro ⟨rfl | hin, hv⟩
        · rw [hw] at hv
          cases hv
          exact .inl ⟨rfl, rfl⟩
        · exact .inr ⟨hin, hv⟩

/-- The pairs come in the order of the names. -/
theorem sublist_lookedUp (h : List.Forall₂ (LookedUp find?) names pairs) :
    ((pairs.filterMap id).map Prod.fst).Sublist names := by
  induction h with
  | nil => exact .slnil
  | @cons first p names pairs hfirst _ ih =>
    obtain ⟨w, -, rfl⟩ := hfirst
    cases w with
    | none => exact ih.cons _
    | some w => exact ih.cons_cons _

/-- The dictionary of the pairs holds what has been looked up. -/
theorem get?_ofList_lookedUp (hnodup : names.Nodup)
    (h : List.Forall₂ (LookedUp find?) names pairs) :
    (∀ name ∈ names, find? name = some ((Dict.ofList (pairs.filterMap id)).get? name)) ∧
      ∀ name ∉ names, (Dict.ofList (pairs.filterMap id)).get? name = none := by
  have hnone : ∀ name, (∀ v, ¬(name ∈ names ∧ find? name = some (some v))) →
      (Dict.ofList (pairs.filterMap id)).get? name = none := by
    intro name hno
    refine Dict.get?_ofList_of_notMem fun hin => ?_
    obtain ⟨⟨_, v⟩, hv, rfl⟩ := List.mem_map.mp hin
    exact hno v ((mem_filterMap_lookedUp h).mp hv)
  constructor
  · intro name hname
    obtain ⟨v, hv⟩ := exists_of_lookedUp h hname
    cases v with
    | none =>
      rw [hv, hnone name fun w hw => ?_]
      rw [hv] at hw
      exact absurd hw.2 (by simp)
    | some v =>
      rw [hv, Dict.get?_ofList_of_mem (hnodup.sublist (sublist_lookedUp h))
        ((mem_filterMap_lookedUp h).mpr ⟨hname, hv⟩)]
  · exact fun name hname => hnone name fun v hv => hname hv.1

end

namespace Segment

variable {r : Regex} {segments : List Segment} {path : Text} {query : Values}

/-- What is delivered are the values of the parameters, and nothing else. -/
theorem get?_of_valuesIn? (hnodup : (segments.filterMap (·.name)).Nodup) {values : Values}
    (h : valuesIn? r segments path query = some values) :
    ∃ m, r.search path = some m ∧
      (∀ name ∈ segments.filterMap (·.name), value? m query name = some (values.get? name)) ∧
      ∀ name ∉ segments.filterMap (·.name), values.get? name = none := by
  obtain ⟨m, hm, h⟩ := Option.bind_eq_some_iff.mp h
  obtain ⟨pairs, hpairs, h⟩ := Option.bind_eq_some_iff.mp h
  cases h
  refine ⟨m, hm, get?_ofList_lookedUp hnodup ?_⟩
  refine (forall₂_of_mapM_eq_some hpairs).imp fun name p hp => ?_
  obtain ⟨v, hv, heq⟩ := Option.bind_eq_some_iff.mp hp
  cases heq
  exact ⟨v, hv, rfl⟩

/-- Nothing is delivered if the expression does not match or some value cannot be decoded. -/
theorem valuesIn?_eq_none_iff : valuesIn? r segments path query = none ↔
    ∀ m, r.search path = some m →
      ∃ name ∈ segments.filterMap (·.name), value? m query name = none := by
  have hstep : ∀ m name, (do return (← value? m query name).map (name, ·) : Option _) = none ↔
      value? m query name = none := by
    intro m name
    cases value? m query name <;> simp
  unfold valuesIn?
  cases hsearch : r.search path with
  | none => simp
  | some m =>
    rw [Option.bind_eq_bind, Option.bind_some, Option.bind_eq_bind]
    constructor
    · rintro h _ ⟨⟩
      cases hvalues : (segments.filterMap (·.name)).mapM fun name => do
          return (← value? m query name).map (name, ·) with
      | none =>
        obtain ⟨name, hname, hnone⟩ := mapM_eq_none_iff.mp hvalues
        exact ⟨name, hname, (hstep m name).mp hnone⟩
      | some values =>
        rw [hvalues] at h
        cases h
    · intro h
      obtain ⟨name, hname, hnone⟩ := h m rfl
      rw [mapM_eq_none_iff.mpr ⟨name, hname, (hstep m name).mpr hnone⟩]
      rfl

end Segment

end PathRouting
