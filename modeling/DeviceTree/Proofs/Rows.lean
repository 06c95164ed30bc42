/-
Arenas in rows.

The places of an arena stand in a row, in the order in which they were handed out; through a
function of nodes one sees at each place what the node there shows, and nothing where it has left.
A new node is put at the end, and one that leaves makes a gap.  What has nothing to do with edges
(`Node.Unwired`) looks the same however the nodes are wired up.

* `row_push`, `row_vacate`, `row_modify` -- the row when one place changes;
* `row_attach`, `row_detach`, `row_link`, `row_unlink` -- the row when an edge is made or unmade;
* `ext_gaps` -- when two arenas are the same.
-/
import DeviceTree.Proofs.Readdress

namespace DeviceTree

attribute [ext] Node

/-- The function sees nothing of a node that edges could change. -/
def Node.Unwired {α : Type} (f : Node → α) : Prop :=
  ∀ (n : Node) (address : String) (parent : Option NodeId) (forward inverse : List Reference),
    f { n with address, parent, forward, inverse } = f n

theorem Node.unwired_observers : Unwired Node.observers :=
  fun _ _ _ _ _ => rfl

namespace Arena

variable {α : Type} {f : Node → α} {a b : Arena} {id : NodeId}

/-- What the nodes show, place by place. -/
def row (f : Node → α) (a : Arena) : List (Option α) :=
  a.slots.toList.map fun slot => slot.node?.map f

@[simp] theorem length_row (f : Node → α) (a : Arena) : (a.row f).length = a.slots.size := by
  simp [row]

theorem getElem?_row (f : Node → α) (a : Arena) (i : Nat) :
    (a.row f)[i]? = if i < a.slots.size then some ((a.get? ⟨i⟩).map f) else none := by
  by_cases inside : i < a.slots.size
  · simp [row, get?, inside]
  · simp [row, inside]

/-- The row shows what there is to see of each node. -/
theorem join_row (f : Node → α) (a : Arena) (id : NodeId) :
    (a.row f)[id.index]?.join = (a.get? id).map f := by
  rw [getElem?_row]
  split
  · rfl
  · next outside =>
    cases found : a.get? id with
    | none => rfl
    | some n => exact absurd (index_lt_of_get? found) outside

theorem row_ext (size : b.slots.size = a.slots.size)
    (same : ∀ id, (b.get? id).map f = (a.get? id).map f) : b.row f = a.row f := by
  refine List.ext_getElem? fun i => ?_
  rw [getElem?_row, getElem?_row, size, same]

theorem size_of_row (same : b.row f = a.row f) : b.slots.size = a.slots.size := by
  simpa using congrArg List.length same

/-- What stands in the row of one arena stands in that of another which only goes on. -/
theorem get?_of_row (grown : a.row f <+: b.row f) {n : Node} (found : a.get? id = some n) :
    ∃ m, b.get? id = some m ∧ f m = f n := by
  obtain ⟨more, same⟩ := grown
  have inside : id.index < (a.row f).length := by
    rw [length_row]
    exact index_lt_of_get? found
  refine Option.map_eq_some_iff.mp ?_
  rw [← join_row, ← same, List.getElem?_append_left inside, join_row, found, Option.map_some]

/-- What was put at the end of a row stands behind it. -/
theorem get?_of_row_append {more : List α} (grown : a.row f ++ more.map some <+: b.row f) {i : Nat}
    {seen : α} (here : more[i]? = some seen) :
    ∃ m, b.get? ⟨a.slots.size + i⟩ = some m ∧ f m = seen := by
  obtain ⟨rest, same⟩ := grown
  have behind : (a.row f ++ more.map some)[a.slots.size + i]? = some (some seen) := by
    rw [List.getElem?_append_right (by simp), length_row, Nat.add_sub_cancel_left,
      List.getElem?_map, here, Option.map_some]
  refine Option.map_eq_some_iff.mp ?_
  rw [← join_row, ← same, List.getElem?_append_left (List.getElem?_eq_some_iff.mp behind).1, behind,
    Option.join_some]

/-- Only one place shows anything else than before. -/
theorem row_of_set {n : Node} {seen : α} (size : b.slots.size = a.slots.size)
    (found : a.get? id = some n) (here : (b.get? id).map f = some seen)
    (others : ∀ other, other ≠ id → (b.get? other).map f = (a.get? other).map f) :
    b.row f = (a.row f).set id.index (some seen) := by
  refine List.ext_getElem? fun i => ?_
  rw [List.getElem?_set, length_row, getElem?_row, getElem?_row, size]
  by_cases same : id.index = i
  · subst same
    simp [here, index_lt_of_get? found]
  · rw [if_neg same, others ⟨i⟩ fun there => same (congrArg NodeId.index there).symm]

theorem row_of_becomes {g : NodeId → Node → Node} (h : Becomes a b g)
    (size : b.slots.size = a.slots.size) {n : Node} (found : a.get? id = some n)
    (others : ∀ other m, other ≠ id → f (g other m) = f m) :
    b.row f = (a.row f).set id.index (some (f (g id n))) := by
  refine row_of_set size found (by rw [h.live found, Option.map_some]) fun other apart => ?_
  have same : f ∘ g other = f := funext fun m => others other m apart
  rw [h other, Option.map_map, same]

theorem row_push (f : Node → α) (a : Arena) (n : Node) :
    (a.push n).row f = a.row f ++ [some (f n)] := by
  simp [row, push, Slot.node?]

theorem row_vacate (f : Node → α) (a : Arena) (id : NodeId) :
    (a.vacate id).row f = (a.row f).set id.index none := by
  refine List.ext_getElem? fun i => ?_
  have size : (a.vacate id).slots.size = a.slots.size := by simp [vacate]
  rw [List.getElem?_set, length_row, getElem?_row, getElem?_row, size, get?_vacate]
  by_cases here : id.index = i
  · subst here
    simp
  · have apart : ¬id = ⟨i⟩ := fun same => here (congrArg NodeId.index same)
    rw [if_neg apart, if_neg here]

theorem row_modify {g : Node → Node} (keeps : ∀ n, f (g n) = f n) (a : Arena) (id : NodeId) :
    (a.modify id g).row f = a.row f := by
  refine row_ext (by simp [modify]) fun other => ?_
  rw [get?_modify]
  split
  · rw [Option.map_map, show f ∘ g = f from funext keeps]
  · rfl

/-! ### Wiring -/

theorem row_rebaseBelow (blind : ∀ (n : Node) address, f { n with address } = f n) (levels : Nat)
    (children : List NodeId) (base : String) (a : Arena) :
    (rebaseBelow levels children base a).row f = a.row f :=
  rebaseBelow_keeps (P := fun b => b.row f = a.row f)
    (fun id address same => (row_modify (fun n => blind n address) _ id).trans same)
    levels children base rfl

theorem row_attach (unwired : Node.Unwired f) (a : Arena) (parent child : NodeId)
    (name : Identifier) : (a.attach parent child name).row f = a.row f := by
  unfold attach
  split
  · refine (row_modify ?_ _ parent).trans ((row_rebaseBelow ?_ _ _ _ _).trans
      (row_modify ?_ a child))
    · exact fun n => unwired n _ _ _ _
    · exact fun n address => unwired n address _ _ _
    · exact fun n => unwired n _ _ _ _
  · rfl

theorem size_attach (a : Arena) (parent child : NodeId) (name : Identifier) :
    (a.attach parent child name).slots.size = a.slots.size :=
  size_of_row (row_attach Node.unwired_observers a parent child name)

theorem row_detach (unwired : Node.Unwired f) (a : Arena) (parent child : NodeId) :
    (a.detach parent child).row f = a.row f := by
  refine (row_modify ?_ _ parent).trans (row_modify ?_ a child) <;>
    exact fun n => unwired n _ _ _ _

theorem row_link (unwired : Node.Unwired f) (a : Arena) (source target : NodeId)
    (name : Identifier) : (a.link source target name).row f = a.row f := by
  refine (row_modify ?_ _ source).trans (row_modify ?_ a target) <;>
    exact fun n => unwired n _ _ _ _

theorem size_link (a : Arena) (source target : NodeId) (name : Identifier) :
    (a.link source target name).slots.size = a.slots.size :=
  size_of_row (row_link Node.unwired_observers a source target name)

theorem row_unlink (unwired : Node.Unwired f) (a : Arena) (source target : NodeId) :
    (a.unlink source target).row f = a.row f := by
  refine (row_modify ?_ _ source).trans (row_modify ?_ a target) <;>
    exact fun n => unwired n _ _ _ _

/-! ### Equal arenas -/

/-- What is kept of the nodes that have left, place by place. -/
def gaps (a : Arena) : List (Option (Option NodeId)) :=
  a.slots.toList.map fun
    | .live _ => none
    | .left parent => some parent

/-- **Arenas are equal** if they have the same nodes, and keep the same of those that have left. -/
theorem ext_gaps (gaps : b.gaps = a.gaps) (same : ∀ id, b.get? id = a.get? id) : b = a := by
  have size : b.slots.size = a.slots.size := by simpa [Arena.gaps] using congrArg List.length gaps
  suffices slots : b.slots = a.slots by
    cases a
    cases b
    exact congrArg Arena.mk slots
  refine Array.ext size fun i hb ha => ?_
  have gap : (b.gaps)[i]? = (a.gaps)[i]? := by rw [gaps]
  have node := same ⟨i⟩
  simp only [Arena.gaps, List.getElem?_map, Array.getElem?_toList, Array.getElem?_eq_getElem hb,
    Array.getElem?_eq_getElem ha, Option.map_some, Option.some.injEq, get?, Option.bind_some]
    at gap node
  cases hs : b.slots[i] <;> cases hs' : a.slots[i] <;> simp_all [Slot.node?]

theorem gaps_modify (a : Arena) (id : NodeId) (g : Node → Node) :
    (a.modify id g).gaps = a.gaps := by
  refine List.ext_getElem? fun i => ?_
  simp only [gaps, modify, List.getElem?_map, Array.getElem?_toList, Array.getElem?_modify]
  split
  · cases a.slots[i]? with
    | none => rfl
    | some slot => cases slot <;> rfl
  · rfl

theorem gaps_push (a : Arena) (n : Node) : (a.push n).gaps = a.gaps ++ [none] := by
  simp [gaps, push]

theorem gaps_attach (a : Arena) (parent child : NodeId) (name : Identifier) :
    (a.attach parent child name).gaps = a.gaps := by
  unfold attach
  split
  · refine (gaps_modify _ parent _).trans (rebaseBelow_keeps (P := fun b => b.gaps = a.gaps)
      (fun id _ same => (gaps_modify _ id _).trans same) _ _ _ (gaps_modify a child _))
  · rfl

theorem gaps_detach (a : Arena) (parent child : NodeId) : (a.detach parent child).gaps = a.gaps :=
  (gaps_modify _ parent _).trans (gaps_modify a child _)

end Arena

end DeviceTree
