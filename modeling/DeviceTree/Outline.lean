/-
The outline of a tree: one row for every attached element, and one for each of its links.

The rows of an element come before those of its children, and the children in order.  An element
is indented by its depth, and its links one step further.
-/
import DeviceTree.Arena.Search
import DeviceTree.Report

namespace DeviceTree

/-- A row of an outline. -/
inductive Row where
  | element (depth : Nat) (identifier : Identifier) (kind : ElementKind) (address : String)
  | link (depth : Nat) (identifier : Identifier) (target : String)
  deriving DecidableEq, Repr

namespace Arena

/-- The address of a node, or its place if there is none. -/
def addressOrPlace (a : Arena) (id : NodeId) : String :=
  (a.get? id).elim id.text Node.address

/-- The rows of an element by itself: its own and those of its links. -/
def rowsOf (a : Arena) (depth : Nat) (node : Node) : List Row :=
  .element depth node.identifier node.kind node.address ::
    node.links.map fun r => .link (depth + 1) r.identifier (a.addressOrPlace r.target)

/-- The rows of a node at `depth` and of what lies below it, down to `levels` levels. -/
def outlineBelow (a : Arena) : (levels : Nat) → (depth : Nat) → NodeId → List Row
  | 0, _, _ => []
  | levels + 1, depth, id =>
    match a.get? id with
    | none => []
    | some node =>
      a.rowsOf depth node ++
        node.childIds.flatMap fun child => a.outlineBelow levels (depth + 1) child

/-- The rows of everything that is attached.  No path of child edges is longer than the arena. -/
def outline (a : Arena) : List Row :=
  a.outlineBelow a.slots.size 0 .root

/-- Every attached node, parents first and children in order. -/
def attached (a : Arena) : List Snapshot :=
  (a.subtree .root).filterMap fun id => (a.get? id).map (Snapshot.mk id)

end Arena

end DeviceTree
