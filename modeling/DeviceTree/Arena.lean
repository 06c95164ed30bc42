/-
The arena: every element of a tree at a place of its own.

Places are handed out in order and never again; a node that leaves keeps its place empty.  An
arena is seen through `get?`, and each operation has one lemma that says what it does to that
view:

* **`get?_modify`**, **`get?_push`**, **`get?_vacate`**.
-/
import DeviceTree.Error

namespace DeviceTree

/-- One place of an arena. -/
inductive Slot where
  | live (node : Node)
  /-- The node has left; `parent` was its parent at the end.  A notice that stands on the node
  still goes on from there. -/
  | left (parent : Option NodeId)
  deriving DecidableEq, Repr

namespace Slot

/-- The node at the place. -/
def node? : Slot → Option Node
  | live node => some node
  | left _ => none

/-- The parent of the node at the place, also after it has left. -/
def parent : Slot → Option NodeId
  | live node => node.parent
  | left parent => parent

/-- Changes the node at the place. -/
def map (f : Node → Node) : Slot → Slot
  | live node => live (f node)
  | left parent => left parent

@[simp] theorem node?_map (f : Node → Node) (s : Slot) : (s.map f).node? = s.node?.map f := by
  cases s <;> rfl

end Slot

/-- The places of a tree. -/
structure Arena where
  slots : Array Slot
  deriving DecidableEq, Repr

namespace Arena

/-- The node at a place. -/
def get? (a : Arena) (id : NodeId) : Option Node :=
  a.slots[id.index]?.bind Slot.node?

/-- The parent of the node at a place, also after the node has left. -/
def lastParent (a : Arena) (id : NodeId) : Option NodeId :=
  a.slots[id.index]?.bind Slot.parent

/-- The place holds a node. -/
def contains (a : Arena) (id : NodeId) : Bool :=
  (a.get? id).isSome

/-- The node at a place, or the error that there is none. -/
def fetch (a : Arena) (id : NodeId) : Except Error Node :=
  match a.get? id with
  | some node => .ok node
  | none => .error (.noSuchNode id)

/-- The place that is handed out next. -/
def nextId (a : Arena) : NodeId :=
  ⟨a.slots.size⟩

/-- Puts a node at the next place. -/
def push (a : Arena) (node : Node) : Arena :=
  ⟨a.slots.push (.live node)⟩

/-- Changes the node at a place, if there is one. -/
def modify (a : Arena) (id : NodeId) (f : Node → Node) : Arena :=
  ⟨a.slots.modify id.index (Slot.map f)⟩

/-- Lets the node at a place leave. -/
def vacate (a : Arena) (id : NodeId) : Arena :=
  ⟨a.slots.modify id.index fun slot => .left slot.parent⟩

/-- The places with a node, in order. -/
def liveIds (a : Arena) : List NodeId :=
  ((List.range a.slots.size).map NodeId.mk).filter a.contains

/-- The nodes with their places, in order. -/
def snapshots (a : Arena) : List Snapshot :=
  a.liveIds.filterMap fun id => (a.get? id).map (Snapshot.mk id)

/-- The number of nodes. -/
def size (a : Arena) : Nat :=
  a.slots.countP fun slot => slot.node?.isSome

/-- The arena that holds only a root. -/
def ofRoot (identifier : Identifier) : Arena :=
  ⟨#[.live (.fresh identifier .group none identifier.text)]⟩

/-! ### The view of each operation -/

@[simp] theorem get?_modify (a : Arena) (id other : NodeId) (f : Node → Node) :
    (a.modify id f).get? other = if id = other then (a.get? other).map f else a.get? other := by
  cases id with | mk i => cases other with | mk j =>
  simp only [get?, modify, Array.getElem?_modify, NodeId.mk.injEq]
  split
  · cases a.slots[j]? <;> simp
  · rfl

@[simp] theorem get?_push (a : Arena) (node : Node) (id : NodeId) :
    (a.push node).get? id = if id = a.nextId then some node else a.get? id := by
  cases id with | mk i =>
  simp only [get?, push, nextId, Array.getElem?_push, NodeId.mk.injEq]
  split
  · simp only [Option.bind_some]; rfl
  · rfl

@[simp] theorem get?_vacate (a : Arena) (id other : NodeId) :
    (a.vacate id).get? other = if id = other then none else a.get? other := by
  cases id with | mk i => cases other with | mk j =>
  simp only [get?, vacate, Array.getElem?_modify, NodeId.mk.injEq]
  split
  · cases a.slots[j]? <;> simp [Slot.node?]
  · rfl

@[simp] theorem nextId_modify (a : Arena) (id : NodeId) (f : Node → Node) :
    (a.modify id f).nextId = a.nextId := by
  simp [nextId, modify]

theorem index_lt_of_get? {a : Arena} {id : NodeId} {node : Node} (h : a.get? id = some node) :
    id.index < a.slots.size := by
  by_cases inside : id.index < a.slots.size
  · exact inside
  · simp [get?, inside] at h

end Arena

end DeviceTree
