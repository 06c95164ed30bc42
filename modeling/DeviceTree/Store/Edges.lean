/-
Making and unmaking edges between elements.

The checks come in a fixed order, and the first that fails gives the error: ids that are not
there, bad names, names and targets already taken, and then what would break the tree.
-/
import DeviceTree.Arena.Search
import DeviceTree.Store

namespace DeviceTree.Store

/-- Attaches the detached element `child` under `parent`. -/
def add (parent child : NodeId) : Request (Change Unit) := do
  let above ← fetch parent
  let below ← fetch child
  let name := below.identifier
  requireUnreferenced above child
  requireFreeName above name
  refuseIf (child = .root) .rootAttached
  refuseAny below.parent (.hasParent child)
  refuseIf ((← get).arena.leadsTo child parent) (.childCycle child parent)
  modify fun s => (s.makeChild parent child name).invalidate
  return ⟨(), some (.edge .childAdded parent child name)⟩

/-- The name of the child edge between two nodes. -/
def requireChild (holder : Node) (child : NodeId) : Except Error Identifier :=
  match (holder.toward? child).filter Reference.isChild with
  | some edge => .ok edge.identifier
  | none => .error (.noChild holder.address child)

/-- Detaches `child` from `parent`, unless something links to it or below it. -/
def remove (parent child : NodeId) : Request (Change Unit) := do
  let above ← fetch parent
  let _ ← fetch child
  let name ← requireChild above child
  let arena := (← get).arena
  refuseAny (arena.firstLinked (arena.subtree child)) (.detachLinked child)
  modify fun s => (s.unmakeChild parent child).invalidate
  return ⟨(), some (.edge .childRemoved parent child name)⟩

/-- The name of a new link: the one given, or else that of its target. -/
def linkName (identifier : Option String) (target : Node) : Except Error Identifier :=
  match identifier with
  | some raw => readName raw
  | none => .ok target.identifier

/-- Links `source` to `target`. -/
def link (source target : NodeId) (identifier : Option String) : Request (Change Unit) := do
  let holder ← fetch source
  let aim ← fetch target
  let name ← linkName identifier aim
  requireUnreferenced holder target
  requireFreeName holder name
  refuseIf (source = target) (.selfLink source)
  refuseIf ((← get).arena.leadsTo target source) (.linkCycle source target)
  modify fun s => (s.makeLink source target name).invalidate
  return ⟨(), some (.edge .linkAdded source target name)⟩

/-- The reference that a selector picks from a node. -/
def select (holder : Node) : LinkChoice → Option Reference
  | .target target => holder.toward? target
  | .named name => holder.named? name

/-- The link that a selector picks from a node. -/
def requireLink (holder : Node) (selector : LinkChoice) : Except Error Reference :=
  match (select holder selector).filter Reference.isLink with
  | some link => .ok link
  | none => .error (.noLink holder.address selector)

/-- Removes a link of `source`, and yields its name as it was stored. -/
def unlink (source : NodeId) (selector : LinkChoice) : Request (Change Identifier) := do
  let holder ← fetch source
  let link ← requireLink holder selector
  modify fun s => (s.unmakeLink source link.target).invalidate
  return ⟨link.identifier, some (.edge .linkRemoved source link.target link.identifier)⟩

end DeviceTree.Store
