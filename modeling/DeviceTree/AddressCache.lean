/-
The address cache: what addresses resolved to since the last change of the tree.

A change drops every entry and starts a new epoch, and a resolution that was found in an older
epoch is not taken in.  When the cache is full, some entry makes room for a new one; which one is
left open, as a parameter of the cache.

* **`AddressCache.get?_put`** -- a resolution that was taken in is found again;
* **`AddressCache.put_eq_false_iff`** -- one is refused exactly when the cache keeps nothing or
  the epoch has passed.
-/
import DeviceTree.Reference

namespace DeviceTree

/-- Picks the entry that makes room: from the number of entries dropped so far and the present
entries, the place of the one to drop. -/
abbrev Eviction := Nat → List (String × NodeId) → Nat

/-- Drops the entry that came first. -/
def Eviction.oldest : Eviction := fun _ _ => 0

/-- What addresses resolved to in the present epoch. -/
structure AddressCache where
  entries : List (String × NodeId)
  /-- How many entries are kept at most. -/
  capacity : Nat
  /-- Whether anything is kept at all. -/
  enabled : Bool
  /-- How many times the entries were dropped. -/
  epoch : Nat
  /-- How many entries made room for others. -/
  evicted : Nat
  eviction : Eviction

namespace AddressCache

/-- An empty cache.  Without room for an entry it is not enabled. -/
def fresh (capacity : Nat) (enabled : Bool) (eviction : Eviction) : AddressCache :=
  { entries := [], capacity, enabled := enabled && 0 < capacity, epoch := 0, evicted := 0,
    eviction }

/-- What the key was last resolved to. -/
def get? (c : AddressCache) (key : String) : Option NodeId :=
  if c.enabled then c.entries.lookup key else none

/-- The key has an entry. -/
def holds (entries : List (String × NodeId)) (key : String) : Bool :=
  entries.any fun entry => entry.1 == key

/-- The entries without the one at `place`; a place outside counts from the start again. -/
def evict (entries : List (String × NodeId)) (place : Nat) : List (String × NodeId) :=
  entries.eraseIdx (place % entries.length)

/-- Makes room for one entry in a full cache. -/
def makeRoom (c : AddressCache) : AddressCache :=
  if c.entries.length < c.capacity then c
  else
    { c with
      entries := evict c.entries (c.eviction c.evicted c.entries)
      evicted := c.evicted + 1 }

/-- The entries with the one of `key` replaced. -/
def replaceEntry (entries : List (String × NodeId)) (key : String) (node : NodeId) :
    List (String × NodeId) :=
  entries.map fun entry => if entry.1 == key then (key, node) else entry

/-- Takes in a resolution; one for the same key gives way to it. -/
def insertEntry (c : AddressCache) (key : String) (node : NodeId) : AddressCache :=
  if holds c.entries key then { c with entries := replaceEntry c.entries key node }
  else
    let c := c.makeRoom
    { c with entries := c.entries ++ [(key, node)] }

/-- Takes in a resolution that was found in `epoch`, and tells whether it was taken. -/
def put (c : AddressCache) (key : String) (node : NodeId) (epoch : Nat) : Bool × AddressCache :=
  if c.enabled && c.epoch = epoch then (true, c.insertEntry key node) else (false, c)

/-- Drops every entry and starts a new epoch. -/
def invalidate (c : AddressCache) : AddressCache :=
  { c with entries := [], epoch := c.epoch + 1 }

/-! ### What is kept -/

theorem lookup_replaceEntry {entries : List (String × NodeId)} {key : String}
    (h : holds entries key = true) (node : NodeId) :
    (replaceEntry entries key node).lookup key = some node := by
  induction entries with
  | nil => simp [holds] at h
  | cons entry rest ih =>
    obtain ⟨k, n⟩ := entry
    by_cases hk : k = key
    · simp [replaceEntry, hk]
    · have hne : (key == k) = false := by simpa using fun e => hk e.symm
      have hrest : holds rest key = true := by simpa [holds, hk] using h
      simpa [replaceEntry, hk, List.lookup_cons, hne] using ih hrest

theorem lookup_append_of_not_holds {entries : List (String × NodeId)} {key : String}
    (h : holds entries key = false) (node : NodeId) :
    (entries ++ [(key, node)]).lookup key = some node := by
  induction entries with
  | nil => simp
  | cons entry rest ih =>
    obtain ⟨k, n⟩ := entry
    simp only [holds, List.any_cons, Bool.or_eq_false_iff, beq_eq_false_iff_ne] at h
    have hne : (key == k) = false := by simpa using fun e => h.1 e.symm
    simpa [List.lookup_cons, hne] using ih (by simpa [holds] using h.2)

theorem holds_evict {entries : List (String × NodeId)} {key : String}
    (h : holds entries key = false) (place : Nat) : holds (evict entries place) key = false := by
  simp only [holds, List.any_eq_false] at h ⊢
  exact fun entry mem => h entry (List.mem_of_mem_eraseIdx mem)

theorem holds_makeRoom {c : AddressCache} {key : String} (h : holds c.entries key = false) :
    holds c.makeRoom.entries key = false := by
  unfold makeRoom
  split
  · exact h
  · exact holds_evict h _

theorem put_eq_false_iff {c : AddressCache} {key : String} {node : NodeId} {epoch : Nat} :
    (c.put key node epoch).1 = false ↔ c.enabled = false ∨ c.epoch ≠ epoch := by
  unfold put
  by_cases h : c.epoch = epoch <;> cases g : c.enabled <;> simp [h]

theorem get?_put {c : AddressCache} {key : String} {node : NodeId} {epoch : Nat}
    (h : (c.put key node epoch).1 = true) : (c.put key node epoch).2.get? key = some node := by
  unfold put at h ⊢
  split at h
  · next taken =>
    simp only [Bool.and_eq_true] at taken
    simp only [taken.1, taken.2, insertEntry]
    by_cases hold : holds c.entries key = true
    · simp [hold, get?, lookup_replaceEntry hold]
    · have absent : holds c.entries key = false := by simpa using hold
      have enabled : c.makeRoom.enabled = true := by unfold makeRoom; split <;> exact taken.1
      simp [absent, get?, enabled, lookup_append_of_not_holds (holds_makeRoom absent)]
  · cases h

end AddressCache

end DeviceTree
