/-
Searches along references.

A search visits no node twice, so it ends on every arena, whatever its references say: cyclic,
shared or pointing at empty places.  One kind goes depth first and lists the nodes in the order in
which it comes upon them; the other looks for one node, and stops as soon as it comes upon it.

* **`leadsTo`** -- some path of forward references leads from one node to another;
* **`subtree`** -- a node and all below it over child edges.
-/
import DeviceTree.Arena
import DeviceTree.NodeSet

namespace DeviceTree.Arena

/-- Lists the nodes found from `stack` on, except those in `seen`; `next` says where a node leads.
The top of the stack comes first. -/
def explore (a : Arena) (next : Node → List NodeId) (stack : List NodeId)
    (seen : NodeSet a.slots.size) : List NodeId :=
  match stack with
  | [] => []
  | id :: rest =>
    if _visited : seen.contains id then explore a next rest seen
    else
      match _found : a.get? id with
      | none => id :: explore a next rest (seen.insert id)
      | some node => id :: explore a next (next node ++ rest) (seen.insert id)
termination_by (seen.room, stack.length)
decreasing_by
  · exact Prod.Lex.right _ (by simp)
  · exact Prod.Lex.right' _ (NodeSet.room_insert_le seen id) (by simp)
  · exact Prod.Lex.left _ _
      (NodeSet.room_insert_lt (index_lt_of_get? _found) (by simpa using _visited))

/-- The nodes found from `start` on, itself first. -/
def reachable (a : Arena) (next : Node → List NodeId) (start : NodeId) : List NodeId :=
  a.explore next [start] (.empty _)

/-- Looks for `goal` from `stack` on, past the nodes in `seen`.  The top of the stack comes first.
Of the targets of a node the last one goes on top, and those that were seen are left out; a node may
stand on the stack more than once all the same. -/
def seek (a : Arena) (goal : NodeId) (stack : List NodeId) (seen : NodeSet a.slots.size) : Bool :=
  match stack with
  | [] => false
  | id :: rest =>
    if id = goal then true
    else if _visited : seen.contains id then seek a goal rest seen
    else
      match _found : a.get? id with
      | none => seek a goal rest (seen.insert id)
      | some node =>
        let new := node.targets.filter fun target => !(seen.insert id).contains target
        seek a goal (new.reverse ++ rest) (seen.insert id)
termination_by (seen.room, stack.length)
decreasing_by
  · exact Prod.Lex.right _ (by simp)
  · exact Prod.Lex.right' _ (NodeSet.room_insert_le seen id) (by simp)
  · exact Prod.Lex.left _ _
      (NodeSet.room_insert_lt (index_lt_of_get? _found) (by simpa using _visited))

/-- Some path of forward references, child edges or links, leads from one node to the other.  A
node leads to itself. -/
def leadsTo (a : Arena) (start goal : NodeId) : Bool :=
  a.seek goal [start] (.empty _)

/-- The node and every node below it over child edges, parents first and children in order. -/
def subtree (a : Arena) (start : NodeId) : List NodeId :=
  a.reachable Node.childIds start

/-- The nodes below a node over child edges. -/
def descendants (a : Arena) (start : NodeId) : List NodeId :=
  (a.subtree start).tail

/-- The first of the nodes that is the target of a link. -/
def firstLinked (a : Arena) (nodes : List NodeId) : Option NodeId :=
  nodes.find? fun id => (a.get? id).any Node.isLinked

/-- The first of the nodes that is the target of a link from outside of them. -/
def firstLinkedFromOutside (a : Arena) (nodes : List NodeId) : Option NodeId :=
  nodes.find? fun id =>
    (a.get? id).any fun node => node.inverse.any fun r => r.isLink && !nodes.contains r.source

end DeviceTree.Arena
