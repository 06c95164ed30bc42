/-
Counters: what happened to a tree, as numbers.

A tree may go without counters; then nothing is counted.
-/

namespace DeviceTree

/-- How often each thing happened. -/
structure Counters where
  elementsCreated : Nat
  elementsDiscarded : Nat
  childrenAdded : Nat
  childrenRemoved : Nat
  linksAdded : Nat
  linksRemoved : Nat
  /-- Resolutions that the cache knew. -/
  cacheHits : Nat
  /-- Resolutions that were walked. -/
  cacheMisses : Nat
  cacheInvalidations : Nat
  lockTimeouts : Nat
  /-- Observers that failed, each time they did. -/
  observerFailures : Nat
  deriving DecidableEq, Repr

namespace Counters

/-- Nothing has happened yet. -/
def zero : Counters :=
  ⟨0, 0, 0, 0, 0, 0, 0, 0, 0, 0, 0⟩

/-- One more element was created. -/
def created (c : Counters) : Counters :=
  { c with elementsCreated := c.elementsCreated + 1 }

/-- One more element was discarded. -/
def discarded (c : Counters) : Counters :=
  { c with elementsDiscarded := c.elementsDiscarded + 1 }

/-- One more child edge was made. -/
def adopted (c : Counters) : Counters :=
  { c with childrenAdded := c.childrenAdded + 1 }

/-- One more child edge was unmade. -/
def released (c : Counters) : Counters :=
  { c with childrenRemoved := c.childrenRemoved + 1 }

/-- One more link was made. -/
def linked (c : Counters) : Counters :=
  { c with linksAdded := c.linksAdded + 1 }

/-- One more link was unmade. -/
def unlinked (c : Counters) : Counters :=
  { c with linksRemoved := c.linksRemoved + 1 }

/-- One more address was resolved, by the cache if `cached`. -/
def lookedUp (cached : Bool) (c : Counters) : Counters :=
  if cached then { c with cacheHits := c.cacheHits + 1 }
  else { c with cacheMisses := c.cacheMisses + 1 }

/-- The cache was emptied once more. -/
def flushed (c : Counters) : Counters :=
  { c with cacheInvalidations := c.cacheInvalidations + 1 }

/-- The lock was refused once more. -/
def refused (c : Counters) : Counters :=
  { c with lockTimeouts := c.lockTimeouts + 1 }

/-- So many more observers failed. -/
def failed (count : Nat) (c : Counters) : Counters :=
  { c with observerFailures := c.observerFailures + count }

end Counters

end DeviceTree
