import PathRouting.Dict

/-!
# A cache with regions

Entries are kept in regions, and each is live until the clock reaches its expiry. An entry that is
no longer live counts as absent; it is removed when it is next asked for. The time is a number of
milliseconds that the caller gives.

A clock does not count forever, so there is a last time at which an entry can expire. Values are
stored for durations that end by then. A call that asks for more fails and stores nothing
(`Cache.answer`).
-/

namespace PathRouting

namespace Cache

/-- A stored value. -/
structure Entry (α : Type) where
  /-- The value. -/
  value : α
  /-- The time from which on the entry counts as absent. -/
  expiry : Nat

/-- Whether an entry is live at a time. -/
def Entry.isLive {α : Type} (e : Entry α) (now : Nat) : Bool :=
  now < e.expiry

end Cache

/-- Entries by regions and keys. -/
structure Cache (α : Type) where
  /-- The entries of each region. -/
  regions : Dict (Dict (Cache.Entry α)) := ∅

namespace Cache

variable {α : Type}

/-- The cache without entries. -/
def empty : Cache α :=
  ⟨∅⟩

instance : EmptyCollection (Cache α) :=
  ⟨empty⟩

/-- The name of a region; the default region has the empty name. -/
def regionName (region : Option Text) : Text :=
  region.getD []

/-- The entry of a key, live or not. -/
def entry? (c : Cache α) (region : Option Text) (key : Text) : Option (Entry α) := do
  (← c.regions.get? (regionName region)).get? key

/-- Whether a duration goes on after the last time at which an entry can expire. -/
def outlasts (last now duration : Nat) : Bool :=
  last < now + duration

/-- The cache with a region, which has the entries that it had. This is what is left of storing a
value in the region for a duration that is too long. -/
def openRegion (c : Cache α) (region : Option Text) : Cache α :=
  ⟨c.regions.insert (regionName region) ((c.regions.get? (regionName region)).getD ∅)⟩

/-- The cache without the entry of a key. -/
def erase (c : Cache α) (region : Option Text) (key : Text) : Cache α :=
  match c.regions.get? (regionName region) with
  | none => c
  | some entries => ⟨c.regions.insert (regionName region) (entries.erase key)⟩

/-- Stores a value for a duration that does not outlast the clock, in place of any other value of the
key. A call with a longer duration does not come to this: it fails (`Cache.answer`). -/
def add (c : Cache α) (now : Nat) (region : Option Text) (key : Text) (value : α)
    (duration : Nat) : Cache α :=
  let entries := (c.regions.get? (regionName region)).getD ∅
  ⟨c.regions.insert (regionName region) (entries.insert key ⟨value, now + duration⟩)⟩

/-- The value of a key. An entry that is not live is removed on the way. -/
def get (c : Cache α) (now : Nat) (region : Option Text) (key : Text) : Option α × Cache α :=
  match c.entry? region key with
  | none => (none, c)
  | some e => if e.isLive now then (some e.value, c) else (none, c.erase region key)

/-- Removes a key and gives its value. -/
def remove (c : Cache α) (now : Nat) (region : Option Text) (key : Text) : Option α × Cache α :=
  (((c.entry? region key).filter (·.isLive now)).map (·.value), c.erase region key)

/-- Whether a key has a value. -/
def contains (c : Cache α) (now : Nat) (region : Option Text) (key : Text) : Bool × Cache α :=
  let (value, c) := c.get now region key
  (value.isSome, c)

/-- Removes all entries of a region, or of all regions if none is given, and counts them. Entries
that are not live and have not been removed yet count too. -/
def clear (c : Cache α) (region : Option Text) : Nat × Cache α :=
  match region with
  | none => (c.regions.values.foldl (fun count entries => count + entries.size) 0, empty)
  | some name => (((c.regions.get? name).map Dict.size).getD 0, ⟨c.regions.erase name⟩)

/-- The value of a key, with whether it had to be built: a missing value is built and stored for a
duration that does not outlast the clock. With a longer one, a call that has to build the value fails
(`Cache.answer`). -/
def getOrAdd (c : Cache α) (now : Nat) (region : Option Text) (key : Text) (build : Unit → α)
    (duration : Nat) : (α × Bool) × Cache α :=
  match (c.entry? region key).filter (·.isLive now) with
  | some e => ((e.value, false), c)
  | none =>
    let value := build ()
    ((value, true), c.add now region key value duration)

/-- The number of live entries. -/
def size (c : Cache α) (now : Nat) : Nat :=
  c.regions.values.foldl
    (fun count entries => count + (entries.values.filter (·.isLive now)).length) 0

end Cache

end PathRouting
