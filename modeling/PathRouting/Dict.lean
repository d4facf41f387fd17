import PathRouting.Text.Basic

/-!
# Dictionaries

A dictionary maps texts to values. It keeps its keys in the order in which they were first put in,
and no key comes twice.
-/

namespace PathRouting

/-- A map from texts to values. -/
structure Dict (α : Type) where
  /-- The keys with their values, in the order of the first insertion. -/
  toList : List (Text × α)
  /-- No key comes twice. -/
  nodup_keys : (toList.map Prod.fst).Nodup

namespace Dict

variable {α β : Type}

/-- The dictionary without keys. -/
def empty : Dict α :=
  ⟨[], by simp⟩

instance : Inhabited (Dict α) :=
  ⟨empty⟩

instance : EmptyCollection (Dict α) :=
  ⟨empty⟩

@[ext]
theorem ext {d e : Dict α} (h : d.toList = e.toList) : d = e := by
  cases d; cases e; cases h; rfl

instance [DecidableEq α] : DecidableEq (Dict α) := fun d e =>
  decidable_of_iff (d.toList = e.toList) ⟨ext, fun h => by rw [h]⟩

/-- The value of a key. -/
def get? (d : Dict α) (key : Text) : Option α :=
  d.toList.lookup key

/-- Whether a key has a value. -/
def contains (d : Dict α) (key : Text) : Bool :=
  d.toList.any (·.1 == key)

/-- The keys, in order. -/
def keys (d : Dict α) : List Text :=
  d.toList.map Prod.fst

/-- Gives the value of a key in a list of pairs; a new key goes to the end. -/
def put (key : Text) (value : α) : List (Text × α) → List (Text × α)
  | [] => [(key, value)]
  | (k, v) :: rest => if k = key then (k, value) :: rest else (k, v) :: put key value rest

/-- A key is among the keys after `put` if it was before or is the one put in. -/
theorem mem_keys_put (key : Text) (value : α) (k : Text) (pairs : List (Text × α)) :
    k ∈ (put key value pairs).map Prod.fst ↔ k = key ∨ k ∈ pairs.map Prod.fst := by
  induction pairs with
  | nil => simp [put]
  | cons pair rest ih =>
    obtain ⟨k', v⟩ := pair
    unfold put
    split
    · rename_i h
      subst h
      simp
    · rw [List.map_cons, List.mem_cons, ih, List.map_cons, List.mem_cons]
      constructor
      · rintro (h | h | h)
        · exact .inr (.inl h)
        · exact .inl h
        · exact .inr (.inr h)
      · rintro (h | h | h)
        · exact .inr (.inl h)
        · exact .inl h
        · exact .inr (.inr h)

/-- Putting a value in keeps the keys distinct. -/
theorem nodup_keys_put (key : Text) (value : α) {pairs : List (Text × α)}
    (h : (pairs.map Prod.fst).Nodup) : ((put key value pairs).map Prod.fst).Nodup := by
  induction pairs with
  | nil => simp [put]
  | cons pair rest ih =>
    obtain ⟨k, v⟩ := pair
    rw [List.map_cons, List.nodup_cons] at h
    unfold put
    split
    · rw [List.map_cons, List.nodup_cons]
      exact h
    · rename_i hk
      rw [List.map_cons, List.nodup_cons]
      refine ⟨fun hmem => ?_, ih h.2⟩
      rcases (mem_keys_put key value k rest).1 hmem with heq | hmem
      · exact hk heq
      · exact h.1 hmem

/-- Gives a key a value, which replaces the one it had. -/
def insert (d : Dict α) (key : Text) (value : α) : Dict α :=
  ⟨put key value d.toList, nodup_keys_put key value d.nodup_keys⟩

/-- The dictionary of a list of pairs; of two pairs with one key the later one counts. -/
def ofList (pairs : List (Text × α)) : Dict α :=
  pairs.foldl (fun d (key, value) => d.insert key value) empty

/-- Applies a function to every value. -/
def map (f : α → β) (d : Dict α) : Dict β :=
  ⟨d.toList.map fun (key, value) => (key, f value), by
    have h := d.nodup_keys
    simpa [Function.comp_def] using h⟩

/-- Whether there are no keys. -/
def isEmpty (d : Dict α) : Bool :=
  d.toList.isEmpty

/-- Takes a key out. -/
def erase (d : Dict α) (key : Text) : Dict α :=
  ⟨d.toList.filter (·.1 != key), List.Sublist.nodup (List.filter_sublist.map Prod.fst) d.nodup_keys⟩

/-- The number of keys. -/
def size (d : Dict α) : Nat :=
  d.toList.length

/-- The values, in the order of their keys. -/
def values (d : Dict α) : List α :=
  d.toList.map Prod.snd

end Dict

end PathRouting
