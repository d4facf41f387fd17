import Mathlib.Data.List.Basic
import Mathlib.Tactic.Common
import PathRouting.Dict

/-!
# Looking up keys

What a dictionary holds under a key after keys have been put in.
-/

namespace PathRouting.Dict

variable {α : Type}

/-- A key that is put into a list of pairs has the new value, the others have theirs. -/
theorem lookup_put (key key' : Text) (value : α) (pairs : List (Text × α)) :
    (put key value pairs).lookup key' = if key' = key then some value else pairs.lookup key' := by
  have hcons : ∀ (k : Text) (v : α) (rest : List (Text × α)), List.lookup key' ((k, v) :: rest) =
      if key' = k then some v else rest.lookup key' := by
    intro k v rest
    rw [List.lookup_cons]
    by_cases h : key' = k
    · rw [if_pos h, beq_iff_eq.mpr h]
    · rw [if_neg h, beq_eq_false_iff_ne.mpr h]
  induction pairs with
  | nil => exact hcons key value []
  | cons pair rest ih =>
    obtain ⟨k, v⟩ := pair
    rw [put]
    split
    · rename_i hk
      subst hk
      rw [hcons, hcons]
      split <;> rfl
    · rename_i hk
      rw [hcons, hcons, ih]
      split
      · rename_i h
        rw [if_neg (h ▸ hk)]
      · rfl

/-- A key that is put in has the new value, the others have theirs. -/
theorem get?_insert (d : Dict α) (key key' : Text) (value : α) :
    (d.insert key value).get? key' = if key' = key then some value else d.get? key' :=
  lookup_put key key' value d.toList

/-- What is held under a key is one of the values. -/
theorem mem_values_of_get?_eq_some {d : Dict α} {key : Text} {value : α}
    (h : d.get? key = some value) : value ∈ d.values := by
  obtain ⟨front, back, hlist, -⟩ := List.lookup_eq_some_iff.mp h
  unfold values
  rw [hlist, List.map_append, List.map_cons]
  exact List.mem_append_right _ List.mem_cons_self

/-- In a list of pairs with distinct keys, a value is found if it stands with its key in the list. -/
theorem lookup_eq_some_iff_mem {κ : Type} [BEq κ] [LawfulBEq κ] {pairs : List (κ × α)}
    (hnodup : (pairs.map Prod.fst).Nodup) {key : κ} {value : α} :
    pairs.lookup key = some value ↔ (key, value) ∈ pairs := by
  constructor
  · intro h
    obtain ⟨front, back, hlist, -⟩ := List.lookup_eq_some_iff.mp h
    rw [hlist]
    exact List.mem_append_right _ List.mem_cons_self
  · intro h
    obtain ⟨front, back, hlist⟩ := List.append_of_mem h
    rw [hlist, List.map_append, List.map_cons, List.nodup_append] at hnodup
    refine List.lookup_eq_some_iff.mpr ⟨front, back, hlist, fun p hp => ?_⟩
    rw [bne_iff_ne, ne_comm]
    exact hnodup.2.2 p.1 (List.mem_map_of_mem hp) key List.mem_cons_self

/-- A key has a value if it stands with the value in the list of a dictionary. -/
theorem get?_eq_some_iff {d : Dict α} {key : Text} {value : α} :
    d.get? key = some value ↔ (key, value) ∈ d.toList :=
  lookup_eq_some_iff_mem d.nodup_keys

/-- A key that is taken out has no value, the others have theirs. -/
theorem get?_erase (d : Dict α) (key key' : Text) :
    (d.erase key).get? key' = if key' = key then none else d.get? key' := by
  ext value
  rw [get?_eq_some_iff]
  change (key', value) ∈ d.toList.filter _ ↔ _
  rw [List.mem_filter, ← get?_eq_some_iff]
  by_cases h : key' = key <;> simp [h]

/-- A dictionary contains its keys. -/
theorem contains_iff {d : Dict α} {key : Text} :
    d.contains key = true ↔ key ∈ d.toList.map Prod.fst := by
  unfold contains
  rw [List.any_eq_true, List.mem_map]
  constructor
  · rintro ⟨p, hp, hkey⟩
    exact ⟨p, hp, beq_iff_eq.mp hkey⟩
  · rintro ⟨p, hp, rfl⟩
    exact ⟨p, hp, beq_self_eq_true _⟩

/-- A key has no value if it is not contained. -/
theorem get?_eq_none_iff {d : Dict α} {key : Text} :
    d.get? key = none ↔ ¬d.contains key = true := by
  rw [contains_iff, List.mem_map, Option.eq_none_iff_forall_ne_some]
  constructor
  · rintro h ⟨⟨_, value⟩, hmem, rfl⟩
    exact h value (get?_eq_some_iff.mpr hmem)
  · exact fun h value hvalue => h ⟨(key, value), get?_eq_some_iff.mp hvalue, rfl⟩

/-- A key that is put in is contained, and the others are if they were. -/
theorem contains_insert (d : Dict α) (key key' : Text) (value : α) :
    (d.insert key value).contains key' = (key == key' || d.contains key') := by
  rw [Bool.eq_iff_iff, Bool.or_eq_true, contains_iff, contains_iff, beq_iff_eq]
  exact (mem_keys_put key value key' d.toList).trans (or_congr_left eq_comm)

/-- Keys that are put in one after another keep away from the other keys. -/
theorem get?_foldl_insert_of_notMem {pairs : List (Text × α)} {key : Text} (d : Dict α)
    (h : key ∉ pairs.map Prod.fst) :
    (pairs.foldl (fun d (key, value) => d.insert key value) d).get? key = d.get? key := by
  induction pairs generalizing d with
  | nil => rfl
  | cons pair rest ih =>
    rw [List.map_cons, List.mem_cons, not_or] at h
    rw [List.foldl_cons, ih _ h.2]
    dsimp only
    rw [get?_insert, if_neg h.1]

/-- The dictionary of a list of pairs has no other keys. -/
theorem get?_ofList_of_notMem {pairs : List (Text × α)} {key : Text}
    (h : key ∉ pairs.map Prod.fst) : (ofList pairs).get? key = none :=
  get?_foldl_insert_of_notMem empty h

/-- The dictionary of a list of pairs holds a pair if no other value stands with its key. -/
theorem get?_ofList_of_forall {pairs : List (Text × α)} {key : Text} {value : α}
    (h : (key, value) ∈ pairs) (hall : ∀ v, (key, v) ∈ pairs → v = value) :
    (ofList pairs).get? key = some value := by
  have hfold : ∀ d : Dict α,
      (pairs.foldl (fun d (key, value) => d.insert key value) d).get? key = some value := by
    induction pairs with
    | nil => exact absurd h List.not_mem_nil
    | cons pair rest ih =>
      intro d
      rw [List.foldl_cons]
      by_cases hrest : key ∈ rest.map Prod.fst
      · obtain ⟨⟨_, v⟩, hv, rfl⟩ := List.mem_map.mp hrest
        obtain rfl := hall v (List.mem_cons_of_mem _ hv)
        exact ih hv (fun w hw => hall w (List.mem_cons_of_mem _ hw)) _
      · rw [get?_foldl_insert_of_notMem _ hrest]
        rcases List.mem_cons.mp h with rfl | h
        · dsimp only
          rw [get?_insert, if_pos rfl]
        · exact absurd (List.mem_map_of_mem h) hrest
  exact hfold empty

/-- The dictionary of a list of pairs with distinct keys holds the pairs. -/
theorem get?_ofList_of_mem {pairs : List (Text × α)} (hnodup : (pairs.map Prod.fst).Nodup)
    {key : Text} {value : α} (h : (key, value) ∈ pairs) : (ofList pairs).get? key = some value := by
  refine get?_ofList_of_forall h fun v hv => ?_
  rw [← lookup_eq_some_iff_mem hnodup] at h hv
  exact Option.some.inj (hv.symm.trans h)

/-- A new key goes to the end of a list of pairs. -/
theorem put_of_notMem {key : Text} {pairs : List (Text × α)} (h : key ∉ pairs.map Prod.fst)
    (value : α) : put key value pairs = pairs ++ [(key, value)] := by
  induction pairs with
  | nil => rfl
  | cons pair rest ih =>
    rw [List.map_cons, List.mem_cons, not_or] at h
    rw [put, if_neg (Ne.symm h.1), ih h.2, List.cons_append]

/-- New keys go to the end of a dictionary, in their order. -/
theorem toList_foldl_insert {pairs : List (Text × α)} (d : Dict α)
    (h : ((d.toList ++ pairs).map Prod.fst).Nodup) :
    (pairs.foldl (fun d (key, value) => d.insert key value) d).toList = d.toList ++ pairs := by
  induction pairs generalizing d with
  | nil => exact (List.append_nil _).symm
  | cons pair rest ih =>
    obtain ⟨key, value⟩ := pair
    have hnew : key ∉ d.toList.map Prod.fst := by
      rw [List.map_append, List.nodup_append] at h
      exact fun hmem => h.2.2 key hmem key List.mem_cons_self rfl
    have hinsert : (d.insert key value).toList = d.toList ++ [(key, value)] :=
      put_of_notMem hnew value
    rw [List.foldl_cons, ih, hinsert, List.append_assoc, List.singleton_append]
    rw [hinsert, List.append_assoc]
    exact h

/-- A dictionary is that of its list of pairs. -/
@[simp] theorem ofList_toList (d : Dict α) : ofList d.toList = d :=
  ext (toList_foldl_insert empty (by exact d.nodup_keys))

end PathRouting.Dict
