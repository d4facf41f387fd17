import PathRouting.Cache

/-!
# Calls of a cache

What can be asked of a cache, and what it answers. A cache is asked through handles, while a clock
runs beside it. A copy of a handle leads to the same cache as the handle itself.
-/

namespace PathRouting.Cache

/-- What can be asked of a cache. -/
inductive Call (α : Type) where
  /-- Stores a value for a duration. -/
  | add (region : Option Text) (key : Text) (value : α) (duration : Nat)
  /-- Asks for the value of a key. -/
  | get (region : Option Text) (key : Text)
  /-- Asks whether a key has a value. -/
  | contains (region : Option Text) (key : Text)
  /-- Removes a key and asks for its value. -/
  | remove (region : Option Text) (key : Text)
  /-- Removes all entries of a region, or of all regions. -/
  | clear (region : Option Text)
  /-- Asks for the value of a key, which is built and stored for a duration if it is missing. -/
  | getOrAdd (region : Option Text) (key : Text) (build : Unit → α) (duration : Nat)
  /-- Asks nothing while time passes. -/
  | wait (duration : Nat)

/-- What a cache answers. -/
inductive Answer (α : Type) where
  /-- There is nothing to tell. -/
  | done
  /-- The value of a key, if it has one. -/
  | value (value? : Option α)
  /-- Whether a key has a value. -/
  | flag (hasValue : Bool)
  /-- The number of entries that were removed. -/
  | count (removed : Nat)
  /-- The value of a key, with whether it had to be built. -/
  | built (value : α) (wasMissing : Bool)
  /-- The call has failed: the value that it was to store would have expired after the last time at
  which an entry can. If the value had to be built for the call, this has been done. -/
  | failed
deriving DecidableEq, Repr

variable {α : Type}

/-- The time that passes with a call. -/
def Call.elapsed : Call α → Nat
  | wait duration => duration
  | _ => 0

/-- Answers a call at a time, with the cache for the next call. No entry expires after the last time,
so a call fails that is to store a value for longer. It leaves all entries as they are, and its region
is there afterwards. -/
def answer (c : Cache α) (last now : Nat) : Call α → Answer α × Cache α
  | .add region key value duration =>
    if outlasts last now duration then (.failed, c.openRegion region)
    else (.done, c.add now region key value duration)
  | .get region key => (c.get now region key).map .value id
  | .contains region key => (c.contains now region key).map .flag id
  | .remove region key => (c.remove now region key).map .value id
  | .clear region => (c.clear region).map .count id
  | .getOrAdd region key build duration =>
    let ((value, wasMissing), next) := c.getOrAdd now region key build duration
    if wasMissing && outlasts last now duration then (.failed, c.openRegion region)
    else (.built value wasMissing, next)
  | .wait _ => (.done, c)

/-- A handle to a cache, which says where the cache is kept. -/
structure Handle where
  /-- The place of the cache. -/
  place : Nat
deriving DecidableEq

namespace Handle

/-- Another handle to the same cache. -/
def copy (h : Handle) : Handle :=
  ⟨h.place⟩

/-- The copies of a handle, and the copies of these. -/
inductive IsCopy (h : Handle) : Handle → Prop
  /-- The handle itself counts. -/
  | self : h.IsCopy h
  /-- A copy of a copy is one. -/
  | copy {g : Handle} (hg : h.IsCopy g) : h.IsCopy g.copy

end Handle

/-- The caches at their places, and the time. -/
structure World (α : Type) where
  /-- The last time at which an entry can expire. -/
  last : Nat
  /-- The time. -/
  now : Nat := 0
  /-- The cache at a place. -/
  cacheAt : Nat → Cache α := fun _ => ∅

namespace World

/-- Answers a call through a handle. -/
def step (w : World α) (h : Handle) (call : Call α) : Answer α × World α :=
  let (answer, c) := (w.cacheAt h.place).answer w.last w.now call
  (answer, { w with
    now := w.now + call.elapsed
    cacheAt := fun place => if place = h.place then c else w.cacheAt place })

/-- The answers to calls through handles, each with the number of live entries afterwards. -/
def trace : World α → List (Handle × Call α) → List (Answer α × Nat)
  | _, [] => []
  | w, (h, call) :: rest =>
    let (answer, w) := w.step h call
    (answer, (w.cacheAt h.place).size w.now) :: w.trace rest

end World

end PathRouting.Cache
