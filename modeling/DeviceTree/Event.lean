/-
Events: the notices that tell observers of a change.
-/
import DeviceTree.Reference

namespace DeviceTree

/-- What happened. -/
inductive Action where
  | childAdded
  | childRemoved
  | linkAdded
  | linkRemoved
  /-- Any number of changes, told at once. -/
  | treeChanged
  deriving DecidableEq, Repr

namespace Action

/-- The name of an action in reports. -/
def name : Action → String
  | childAdded => "child_added"
  | childRemoved => "child_removed"
  | linkAdded => "link_added"
  | linkRemoved => "link_removed"
  | treeChanged => "tree_changed"

/-- The action of that name. -/
def ofName? : String → Option Action
  | "child_added" => some childAdded
  | "child_removed" => some childRemoved
  | "link_added" => some linkAdded
  | "link_removed" => some linkRemoved
  | "tree_changed" => some treeChanged
  | _ => none

theorem ofName?_name (a : Action) : ofName? a.name = some a := by
  cases a <;> rfl

end Action

/-- A notice of a change. -/
structure Event where
  action : Action
  /-- The node whose forward references changed. -/
  source : NodeId
  /-- The other end of the edge, if one edge changed. -/
  target : Option NodeId
  /-- The name of the edge, if one edge changed. -/
  identifier : Option Identifier
  deriving DecidableEq, Repr

namespace Event

/-- The notice of a change to one edge. -/
def edge (action : Action) (source target : NodeId) (identifier : Identifier) : Event :=
  ⟨action, source, some target, some identifier⟩

/-- The notice that ends a batch of changes. -/
def batch : Event :=
  ⟨.treeChanged, .root, none, none⟩

end Event

end DeviceTree
