/-
Cycles of forward references.

A depth-first search keeps the path on which it stands.  A reference back to a node of that path
closes a cycle; a node that was left behind can close none.  Every node of the arena is searched
once, those with small ids first.
-/
import DeviceTree.NodeSet
import DeviceTree.Verify.Finding

namespace DeviceTree.Arena

/-- What a search for cycles has found out. -/
structure CycleSearch (n : Nat) where
  /-- The nodes that were come upon. -/
  seen : NodeSet n
  /-- Those of them that were left behind. -/
  closed : NodeSet n
  findings : List Finding

/-- The references still to be followed along a path, and its nodes. -/
def pathLength (path : List (NodeId × List NodeId)) : Nat :=
  path.foldr (fun place n => place.2.length + 1 + n) 0

/-- Follows the references of a path to the end.  A path is a list of nodes, the last one first,
each with the targets that are still to be followed from it. -/
def followPath (a : Arena) (path : List (NodeId × List NodeId))
    (search : CycleSearch a.slots.size) : CycleSearch a.slots.size :=
  match path with
  | [] => search
  | (id, []) :: above => followPath a above { search with closed := search.closed.insert id }
  | (id, target :: targets) :: above =>
    match _found : a.get? target with
    | none => followPath a ((id, targets) :: above) search
    | some node =>
      if _seen : search.seen.contains target then
        let findings :=
          if search.closed.contains target then search.findings
          else search.findings ++ [⟨id, .cycleThrough target⟩]
        followPath a ((id, targets) :: above) { search with findings }
      else
        followPath a ((target, node.targets) :: (id, targets) :: above)
          { search with seen := search.seen.insert target }
termination_by (search.seen.room, pathLength path)
decreasing_by
  · exact Prod.Lex.right _ (by simp [pathLength])
  · exact Prod.Lex.right _ (by simp [pathLength])
  · exact Prod.Lex.right _ (by simp [pathLength])
  · exact Prod.Lex.left _ _
      (NodeSet.room_insert_lt (index_lt_of_get? _found) (by simpa using _seen))

/-- Searches from a node, unless it was come upon before. -/
def searchFrom (a : Arena) (search : CycleSearch a.slots.size) (start : NodeId) :
    CycleSearch a.slots.size :=
  if search.seen.contains start then search
  else
    let targets := (a.get? start).elim [] Node.targets
    a.followPath [(start, targets)] { search with seen := search.seen.insert start }

/-- The references that close a cycle, in the order in which the search comes upon them. -/
def cycleFindings (a : Arena) : List Finding :=
  (a.liveIds.foldl a.searchFrom ⟨.empty _, .empty _, []⟩).findings

end DeviceTree.Arena
