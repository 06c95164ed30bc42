/-
Sums over the nodes of an arena.

Whatever nodes have can be added up over a whole arena, and an operation that touches one node moves
the sum by what that node gains or loses.  Of two such sums an account is kept: the number of nodes,
and the number of edges of each kind, taken where they start.

* `total_of_set` -- any sum, when one place changes, and so `total_push` and `total_vacate`;
* `size_eq_total`, `census_edges` -- the numbers of a census are sums;
* `Gains.edges` -- what one more edge adds to the numbers of edges.
-/
import DeviceTree.Proofs.Cycle
import DeviceTree.Proofs.Notices
import DeviceTree.Proofs.Tally
import Mathlib

namespace DeviceTree

/-- The number of edges of that kind that start at the node. -/
def Node.edges (kind : EdgeKind) (n : Node) : Nat :=
  n.forward.countP fun r => r.kind = kind

theorem Node.unwired_const {α : Type} (x : α) : Unwired fun _ => x :=
  fun _ _ _ _ _ => rfl

theorem Node.length_childIds (n : Node) : n.childIds.length = n.edges .child := by
  rw [childIds, List.length_map, children, ← List.countP_eq_length_filter]
  rfl

theorem Node.length_links (n : Node) : n.links.length = n.edges .link := by
  rw [links, ← List.countP_eq_length_filter]
  rfl

namespace Arena

variable {a b : Arena} {f : Node → Nat} {id : NodeId} {n : Node}

/-- What the nodes have, all together. -/
def total (f : Node → Nat) (a : Arena) : Nat :=
  (a.snapshots.map fun s => f s.node).sum

/-- The number of edges of that kind. -/
def edges (kind : EdgeKind) (a : Arena) : Nat :=
  a.total (Node.edges kind)

theorem sum_set {l : List Nat} {i x : Nat} (here : l[i]? = some x) (y : Nat) :
    (l.set i y).sum + x = l.sum + y := by
  induction l generalizing i with
  | nil => cases here
  | cons first rest ih =>
    cases i with
    | zero =>
      obtain rfl : first = x := Option.some.inj here
      simp only [List.set_cons_zero, List.sum_cons]
      omega
    | succ i =>
      have later := ih here
      simp only [List.set_cons_succ, List.sum_cons]
      omega

theorem total_eq_row (f : Node → Nat) (a : Arena) :
    a.total f = ((a.row f).map fun seen => seen.getD 0).sum := by
  rw [row_eq, List.map_map, total, snapshots, liveIds]
  -- the induction is on the places; an empty one is left out of the one list and 0 in the other
  induction List.range a.slots.size with
  | nil => rfl
  | cons i rest ih =>
    rw [List.map_cons, List.map_cons, List.sum_cons, ← ih, List.filter_cons, contains]
    cases found : a.get? ⟨i⟩ <;> simp [found]

theorem total_of_row (same : b.row f = a.row f) : b.total f = a.total f := by
  rw [total_eq_row, total_eq_row, same]

/-- One place of the row shows something else. -/
theorem total_of_set {seen : Option Nat} (found : a.get? id = some n)
    (row : b.row f = (a.row f).set id.index seen) :
    b.total f + f n = a.total f + seen.getD 0 := by
  have here : ((a.row f).map fun seen => seen.getD 0)[id.index]? = some (f n) := by
    rw [List.getElem?_map, getElem?_row, if_pos (index_lt_of_get? found), found]
    rfl
  rw [total_eq_row, total_eq_row, row, List.map_set]
  exact sum_set here _

theorem total_push (f : Node → Nat) (a : Arena) (n : Node) :
    (a.push n).total f = a.total f + f n := by
  simp [total_eq_row, row_push]

theorem total_vacate (f : Node → Nat) (found : a.get? id = some n) :
    (a.vacate id).total f + f n = a.total f :=
  total_of_set found (row_vacate f a id)

/-! ### The numbers of a census -/

theorem size_eq_total (a : Arena) : a.size = a.total fun _ => 1 := by
  rw [← length_liveIds, ← nodes_census, total, List.map_const', List.sum_replicate_nat, Nat.mul_one]
  rfl

theorem census_edges (a : Arena) :
    a.census.childEdges = a.edges .child ∧ a.census.linkEdges = a.edges .link := by
  have fold : ∀ (f : Node → Nat) (l : List Snapshot),
      l.foldr (fun s n => f s.node + n) 0 = (l.map fun s => f s.node).sum := by
    intro f l
    induction l with
    | nil => rfl
    | cons s rest ih => rw [List.foldr_cons, ih, List.map_cons, List.sum_cons]
  exact ⟨fold (Node.edges .child) a.snapshots, fold (Node.edges .link) a.snapshots⟩

theorem size_push (a : Arena) (n : Node) : (a.push n).size = a.size + 1 := by
  rw [size_eq_total, size_eq_total, total_push]

theorem size_vacate (found : a.get? id = some n) : (a.vacate id).size + 1 = a.size := by
  rw [size_eq_total, size_eq_total, ← total_vacate _ found]

/-- Where the same places are taken there are as many nodes. -/
theorem size_of_rows (same : b.row (fun _ => 1) = a.row fun _ => 1) : b.size = a.size := by
  rw [size_eq_total, size_eq_total, total_of_row same]

/-! ### Edges that are made and unmade -/

/-- Where there is one edge more, from the same nodes, it is counted once, as one of its kind. -/
theorem Gains.edges {r : Reference} (gains : Gains a b r)
    (nodes : b.row (fun _ => 1) = a.row fun _ => 1) (kind : EdgeKind) :
    b.edges kind = a.edges kind + if r.kind = kind then 1 else 0 := by
  obtain ⟨n, found⟩ := gains.source
  -- a node where the edge starts shows it once more than before, any other node what it showed
  have counts : ∀ {id n}, a.get? id = some n → ∃ m, b.get? id = some m ∧
      m.edges kind = (if r.source = id ∧ r.kind = kind then 1 else 0) + n.edges kind := by
    intro id n hn
    obtain ⟨m, hm, perm⟩ := gains.forward hn
    refine ⟨m, hm, ?_⟩
    rw [Node.edges, perm.countP_eq, List.countP_append]
    by_cases here : r.source = id <;> simp [here, Node.edges]
  obtain ⟨m, hm, count⟩ := counts found
  -- so the two rows differ in one place; that a place is empty is told by the nodes themselves
  have row := row_of_set (f := Node.edges kind) (size_of_row nodes) found
    (by rw [hm, Option.map_some]) fun other apart => by
      cases hn : a.get? other with
      | none =>
        have gone : (b.get? other).map (fun _ => 1) = none := by
          rw [← join_row, nodes, join_row, hn, Option.map_none]
        rw [Option.map_eq_none_iff.mp gone]
      | some o =>
        obtain ⟨m, hm, same⟩ := counts hn
        rw [hm, Option.map_some, same, if_neg fun there => apart there.1.symm, Nat.zero_add]
        rfl
  have moved := total_of_set found row
  simp only [count, true_and, Option.getD_some] at moved
  show b.total _ = a.total _ + _
  omega

end Arena

end DeviceTree
