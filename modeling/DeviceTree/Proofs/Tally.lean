/-
The links of an arena, all together.

A new node has no links and hanging it under another makes none, so that an element that is created
leaves the links as they were; a link that is made is one more.  Where it stands among the others
goes by its source, and so the links are told up to their order.

* `allLinks_attach`, `allLinks_push` -- no link more;
* `allLinks_link` -- one link more;
* `length_allLinks`, `nodes_census` -- what a census counts.
-/
import DeviceTree.Proofs.Building
import DeviceTree.Proofs.Rows
import DeviceTree.Verify

namespace DeviceTree

namespace Arena

variable {α : Type} {a b : Arena} {source target : NodeId} {holder : Node}

/-- The links of all nodes, one node after the other. -/
def allLinks (a : Arena) : List Reference :=
  a.snapshots.flatMap fun s => s.node.links

theorem row_eq (f : Node → α) (a : Arena) :
    a.row f = (List.range a.slots.size).map fun i => (a.get? ⟨i⟩).map f := by
  refine List.ext_getElem? fun i => ?_
  rw [getElem?_row, List.getElem?_map]
  by_cases inside : i < a.slots.size
  · simp [inside]
  · simp [inside]

theorem flatMap_snapshots (f : Node → List α) (a : Arena) :
    (a.snapshots.flatMap fun s => f s.node) = (a.row f).flatMap fun seen => seen.getD [] := by
  rw [row_eq, List.flatMap_map, snapshots, liveIds]
  induction List.range a.slots.size with
  | nil => rfl
  | cons i rest ih =>
    rw [List.map_cons, List.flatMap_cons, ← ih, List.filter_cons, contains]
    cases found : a.get? ⟨i⟩ <;> simp [found]

theorem allLinks_eq (a : Arena) :
    a.allLinks = (a.row Node.links).flatMap fun seen => seen.getD [] :=
  flatMap_snapshots Node.links a

theorem allLinks_of_row (same : b.row Node.links = a.row Node.links) : b.allLinks = a.allLinks := by
  rw [allLinks_eq, allLinks_eq, same]

theorem length_allLinks (a : Arena) : a.allLinks.length = a.census.linkEdges := by
  show (a.snapshots.flatMap fun s => s.node.links).length =
    a.snapshots.foldr (fun s n => s.node.forward.countP Reference.isLink + n) 0
  induction a.snapshots with
  | nil => rfl
  | cons s rest ih =>
    rw [List.flatMap_cons, List.length_append, ih, List.foldr_cons, Node.links,
      List.countP_eq_length_filter]

theorem nodes_census (a : Arena) : a.census.nodes = a.liveIds.length := by
  show (a.liveIds.filterMap fun id => (a.get? id).map (Snapshot.mk id)).length = a.liveIds.length
  rw [List.length_filterMap_eq_countP, List.countP_eq_length]
  intro id mem
  rw [Option.isSome_map]
  exact (List.mem_filter.mp mem).2

/-! ### No link more -/

theorem allLinks_push {n : Node} (bare : n.forward = []) (a : Arena) :
    (a.push n).allLinks = a.allLinks := by
  have none : n.links = [] := by rw [Node.links, bare, List.filter_nil]
  simp [allLinks_eq, row_push, none]

theorem allLinks_attach (a : Arena) (parent child : NodeId) (name : Identifier) :
    (a.attach parent child name).allLinks = a.allLinks := by
  refine allLinks_of_row ?_
  unfold attach
  split
  · refine (row_modify ?_ _ parent).trans ((row_rebaseBelow ?_ _ _ _ _).trans
      (row_modify ?_ a child))
    · intro n
      simp [Node.links, Node.pushForward, Reference.isLink]
    · exact fun _ _ => rfl
    · exact fun _ => rfl
  · rfl

/-! ### One link more -/

/-- One place of a row shows one thing more. -/
theorem flatMap_set_perm {row : List (Option (List α))} {i : Nat} {seen : List α} (x : α)
    (here : row[i]? = some (some seen)) :
    ((row.set i (some (seen ++ [x]))).flatMap fun s => s.getD []).Perm
      ((row.flatMap fun s => s.getD []) ++ [x]) := by
  induction row generalizing i with
  | nil => simp at here
  | cons first rest ih =>
    cases i with
    | zero =>
      obtain rfl : first = some seen := by simpa using here
      simp only [List.set_cons_zero, List.flatMap_cons, Option.getD_some, List.append_assoc]
      exact List.perm_append_comm.append_left seen
    | succ i =>
      simp only [List.set_cons_succ, List.flatMap_cons, List.append_assoc]
      exact (ih (by simpa using here)).append_left _

theorem allLinks_link (found : a.get? source = some holder) (target : NodeId) (name : Identifier) :
    (a.link source target name).allLinks.Perm
      (a.allLinks ++ [⟨name, source, target, .link, .forward⟩]) := by
  have row := row_of_becomes (f := Node.links) (becomes_link a source target name)
    (size_link a source target name) found ?_
  · have here : (a.row Node.links)[source.index]? = some (some holder.links) := by
      rw [getElem?_row, if_pos (index_lt_of_get? found), found, Option.map_some]
    have more : (pushed ⟨name, source, target, .link, .forward⟩ source holder).links =
        holder.links ++ [⟨name, source, target, .link, .forward⟩] := by
      simp [pushed, Node.links, Reference.isLink]
    rw [allLinks_eq, allLinks_eq, row, more]
    exact flatMap_set_perm _ here
  · intro other n apart
    simp [pushed, Node.links, Ne.symm apart]

end Arena

open Arena

namespace Store

variable {s t : Store}

/-- **An element that is created leaves the links as they were.** -/
theorem allLinks_of_creation {p : NodeId} {name : String} {e : DeclaredElement}
    {c : Change Answer} (h : (Manifest.Batch.creation p name e).apply s = .ok c t) :
    t.arena.allLinks = s.arena.allLinks :=
  creation_induction (R := fun a b => b.allLinks = a.allLinks) (fun first next => next.trans first)
    (fun a _ bare => allLinks_push bare a) allLinks_attach h

end Store

end DeviceTree
