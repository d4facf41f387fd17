import Mathlib.Logic.Function.Basic
import PathRouting.Cache.Call

/-!
# Sections of calls

Clients that share a cache have their turn for one section of a call at a time. Most calls have one
section. Asking for an entry that is no longer live has two: the first section finds the entry, the
second one removes what is then in its place. Between the two, other clients have their turn, and
time passes.
-/

namespace PathRouting.Cache

variable {α ι : Type}

/-- What the entry of a key tells: its value, that there is none, or nothing if it is no longer
live. -/
def read? (c : Cache α) (now : Nat) (region : Option Text) (key : Text) : Option (Option α) :=
  match c.entry? region key with
  | none => some none
  | some e => if e.isLive now then some (some e.value) else none

/-- What is left to do of a call that has found an entry which is no longer live. -/
structure Purge (α : Type) where
  /-- The region of the entry. -/
  region : Option Text
  /-- The key of the entry. -/
  key : Text
  /-- What the call answers in the end. -/
  answer : Answer α

/-- The second section of a call. -/
def Purge.cache (p : Purge α) (c : Cache α) (now : Nat) : Cache α :=
  (c.remove now p.region p.key).2

/-- The first section of a call: its answer, with the cache for the next section, or what is left to
do. -/
def firstSection (c : Cache α) (last now : Nat) : Call α → (Answer α × Cache α) ⊕ Purge α
  | .get region key =>
    match c.read? now region key with
    | some value? => .inl (.value value?, c)
    | none => .inr ⟨region, key, .value none⟩
  | .contains region key =>
    match c.read? now region key with
    | some value? => .inl (.flag value?.isSome, c)
    | none => .inr ⟨region, key, .flag false⟩
  | call => .inl (c.answer last now call)

/-- A cache that clients share. -/
structure Shared (ι α : Type) where
  /-- The last time at which an entry can expire. -/
  last : Nat
  /-- The time. -/
  now : Nat := 0
  /-- The cache. -/
  cache : Cache α := ∅
  /-- What a client has left to do. -/
  purge? : ι → Option (Purge α) := fun _ => none

/-- What happens next to a shared cache. -/
inductive Event (ι α : Type) where
  /-- A client has the first section of a call. -/
  | call (client : ι) (call : Call α)
  /-- A client has the second section of its call. -/
  | purge (client : ι)
  /-- Time passes. -/
  | pass (duration : Nat)

namespace Shared

variable [DecidableEq ι]

/-- One event, with the answer if it ends a call. A client that has a section left to do cannot call,
and one that has none left cannot do it. -/
def step (s : Shared ι α) : Event ι α → Option (Option (Answer α) × Shared ι α)
  | .call client call =>
    match s.purge? client, s.cache.firstSection s.last s.now call with
    | some _, _ => none
    | none, .inl (answer, c) =>
      some (some answer, { s with now := s.now + call.elapsed, cache := c })
    | none, .inr p => some (none, { s with purge? := Function.update s.purge? client (some p) })
  | .purge client =>
    match s.purge? client with
    | none => none
    | some p =>
      some (some p.answer,
        { s with cache := p.cache s.cache s.now, purge? := Function.update s.purge? client none })
  | .pass duration => some (none, { s with now := s.now + duration })

/-- One event after the other. -/
def run : Shared ι α → List (Event ι α) → Option (Shared ι α)
  | s, [] => some s
  | s, event :: rest => do (← s.step event).2.run rest

end Shared

end PathRouting.Cache
