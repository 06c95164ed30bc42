/-
Discarding detached elements.

The whole child subtree of the element leaves the arena.  Its links to the outside are unmade
first; links from the outside forbid the discard.
-/
import DeviceTree.Arena.Search
import DeviceTree.Store

namespace DeviceTree.Store

/-- The targets of the links of a node that lie outside of `members`. -/
def outgoingLinks (members : List NodeId) (node : Node) : List NodeId :=
  (node.forward.filter fun r => r.isLink && !members.contains r.target).map Reference.target

/-- Unmakes the links of a node that lead out of `members`. -/
def releaseLinks (members : List NodeId) (s : Store) (id : NodeId) : Store :=
  match s.arena.get? id with
  | none => s
  | some node => (outgoingLinks members node).foldl (fun s target => s.unmakeLink id target) s

/-- Discards a detached element and everything below it, and yields the number of nodes. -/
def discard (id : NodeId) : Request (Change Nat) := do
  let node ← fetch id
  refuseIf (id = .root) .rootDiscarded
  refuseAny node.parent (.stillAttached id)
  let arena := (← get).arena
  let members := arena.subtree id
  refuseAny (arena.firstLinkedFromOutside members) (.linkedFromOutside id)
  modify fun s => members.foldl (releaseLinks members) s
  modify fun s => members.foldl vacate s
  modify invalidate
  return ⟨members.length, none⟩

end DeviceTree.Store
