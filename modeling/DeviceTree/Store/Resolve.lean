/-
Resolving addresses.

An address is walked from the root, segment by segment, over child edges and links alike.  The
result is remembered until the tree changes.

* **`walk`** -- the resolution without the cache;
* **`resolve`** -- the resolution with it.
-/
import DeviceTree.Store

namespace DeviceTree

namespace Arena

/-- The target of the reference of a node with that name. -/
def childNamed (a : Arena) (id : NodeId) (name : String) : Option NodeId :=
  (a.get? id).bind fun node => (node.named? name).map Reference.target

/-- Where the names lead, one after the other, from a node on. -/
def follow (a : Arena) (start : NodeId) (names : List String) : Option NodeId :=
  names.foldlM a.childNamed start

end Arena

namespace Store

/-- Where the segments of a rooted address lead. -/
def walk (s : Store) (names : List String) : Option NodeId :=
  match names with
  | [] => none
  | first :: rest => if s.rootIdentifier.isNamed first then s.arena.follow .root rest else none

/-- The rooted form of an address in this tree. -/
def rooted (s : Store) (address : String) : String :=
  Address.normalize address s.rootIdentifier.text

/-- What the cache knows of a key, if the node is still there. -/
def cached? (s : Store) (key : String) : Option NodeId :=
  (s.cache.get? key).filter s.arena.contains

/-- Remembers a resolution of the present epoch. -/
def remember (s : Store) (key : String) (id : NodeId) : Store :=
  { s with cache := (s.cache.put key id s.cache.epoch).2 }

/-- Resolves an address, from the cache if it knows it. -/
def resolve (s : Store) (address : String) : Option NodeId × Store :=
  let rooted := s.rooted address
  let key := Address.key rooted
  match s.cached? key with
  | some id => (some id, s.count (.lookedUp true))
  | none =>
    let s := s.count (.lookedUp false)
    match s.walk (Address.segments rooted) with
    | some id => (some id, s.remember key id)
    | none => (none, s)

end Store

end DeviceTree
