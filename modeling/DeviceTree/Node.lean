/-
Nodes: what the arena keeps of each element.

The identifier, the kind and the attachment of a node never change; its address, its parent and
its two lists of references do.  The searches in a list take the first reference that fits.
-/
import DeviceTree.Reference

namespace DeviceTree

/-- What a node stands for. -/
inductive ElementKind where
  /-- A group of other elements. -/
  | group
  /-- A value kept elsewhere. -/
  | data
  /-- An operation that can be called. -/
  | service
  /-- A source of events. -/
  | event
  deriving DecidableEq, Repr

namespace ElementKind

/-- The kinds, in the order in which messages list them. -/
def all : List ElementKind :=
  [group, data, service, event]

/-- The name of a kind. -/
def name : ElementKind → String
  | group => "structure"
  | data => "data"
  | service => "service"
  | event => "event"

/-- The kind of that name. -/
def ofName? : String → Option ElementKind
  | "structure" => some group
  | "data" => some data
  | "service" => some service
  | "event" => some event
  | _ => none

theorem ofName?_name (k : ElementKind) : ofName? k.name = some k := by
  cases k <;> rfl

theorem mem_all (k : ElementKind) : k ∈ all := by
  cases k <;> decide

end ElementKind

/-- The number of a subscription.  Numbers are handed out from one and never again. -/
structure SubscriptionId where
  number : Nat
  deriving DecidableEq, Repr, Inhabited

/-- One element of the tree. -/
structure Node where
  identifier : Identifier
  kind : ElementKind
  /-- What a collaborator keeps with the element. -/
  attachment : Option String
  address : String
  parent : Option NodeId
  /-- The edges that start here, in the order in which they were made. -/
  forward : List Reference
  /-- The edges that end here, in the order in which they were made. -/
  inverse : List Reference
  /-- The subscriptions to changes at or below this node, oldest first. -/
  observers : List SubscriptionId
  deriving DecidableEq, Repr

namespace Node

/-- A node without edges and observers. -/
def fresh (identifier : Identifier) (kind : ElementKind) (attachment : Option String)
    (address : String) : Node :=
  { identifier, kind, attachment, address, parent := none, forward := [], inverse := [],
    observers := [] }

/-- The first forward reference with that name. -/
def named? (n : Node) (name : String) : Option Reference :=
  n.forward.find? fun r => r.identifier.isNamed name

/-- The first forward reference to that node. -/
def toward? (n : Node) (target : NodeId) : Option Reference :=
  n.forward.find? fun r => r.target = target

/-- The node is the target of a link. -/
def isLinked (n : Node) : Bool :=
  n.inverse.any Reference.isLink

/-- The child edges that start here. -/
def children (n : Node) : List Reference :=
  n.forward.filter Reference.isChild

/-- The links that start here. -/
def links (n : Node) : List Reference :=
  n.forward.filter Reference.isLink

/-- The targets of all edges that start here. -/
def targets (n : Node) : List NodeId :=
  n.forward.map Reference.target

/-- The targets of the child edges that start here. -/
def childIds (n : Node) : List NodeId :=
  n.children.map Reference.target

/-- The node with one more edge that starts here. -/
def pushForward (n : Node) (r : Reference) : Node :=
  { n with forward := n.forward ++ [r] }

/-- The node with one more edge that ends here. -/
def pushInverse (n : Node) (r : Reference) : Node :=
  { n with inverse := n.inverse ++ [r] }

/-- The node without its first edge of that kind to `target`. -/
def eraseForward (n : Node) (target : NodeId) (kind : EdgeKind) : Node :=
  { n with forward := n.forward.eraseP fun r => r.target = target && r.kind = kind }

/-- The node without its first edge of that kind from `source`. -/
def eraseInverse (n : Node) (source : NodeId) (kind : EdgeKind) : Node :=
  { n with inverse := n.inverse.eraseP fun r => r.source = source && r.kind = kind }

end Node

/-- A node together with its place, as reports show it. -/
structure Snapshot where
  id : NodeId
  node : Node
  deriving DecidableEq, Repr

end DeviceTree
