/-
Folded arenas.

Folding writes every name and every address of an arena in small letters, and leaves the rest as it
is.  Whatever is done to an arena is done to the folded one in the same way: no comparison of names
can tell the two apart, and whatever makes an address or a name makes the folded one of the folded
parts.

* `get?_folded` -- the view of a folded arena;
* `reachable_folded`, `leadsTo_folded` -- searches;
* `attach_folded`, `detach_folded`, `link_folded`, `unlink_folded` -- edges;
* `census_folded` -- the numbers of a verification.
-/
import DeviceTree.Arena.Wiring
import DeviceTree.Proofs.Search
import DeviceTree.Proofs.Spelling
import DeviceTree.Store.Resolve
import DeviceTree.Verify

namespace DeviceTree

open Text

theorem isIdentifier_fold (s : String) : isIdentifier (fold s) = isIdentifier s := by
  have same : isNameChar ∘ Char.toLower = isNameChar := funext isNameChar_toLower
  rw [isIdentifier, isIdentifier, toList_fold, List.isEmpty_map, List.all_map, same]

namespace Identifier

/-- The identifier in small letters. -/
def folded (i : Identifier) : Identifier :=
  ⟨fold i.text, (isIdentifier_fold i.text).trans i.valid⟩

theorem isNamed_folded (i : Identifier) (name : String) :
    i.folded.isNamed name = i.isNamed name := by
  rw [isNamed, isNamed, sameFold, sameFold, folded, fold_fold]

theorem isNamed_fold (i : Identifier) (name : String) : i.isNamed (fold name) = i.isNamed name := by
  rw [isNamed, isNamed, sameFold, sameFold, fold_fold]

end Identifier

namespace Reference

/-- The reference with its name in small letters. -/
def folded (r : Reference) : Reference :=
  { r with identifier := r.identifier.folded }

theorem isChild_folded : Reference.isChild ∘ folded = Reference.isChild :=
  rfl

theorem isLink_folded : Reference.isLink ∘ folded = Reference.isLink :=
  rfl

theorem target_folded : Reference.target ∘ folded = Reference.target :=
  rfl

end Reference

namespace Node

/-- The node with its names and its address in small letters. -/
def folded (n : Node) : Node :=
  { n with
    identifier := n.identifier.folded
    address := fold n.address
    forward := n.forward.map Reference.folded
    inverse := n.inverse.map Reference.folded }

variable (n : Node)

theorem named?_folded (name : String) : n.folded.named? name = (n.named? name).map .folded := by
  have same : (fun r : Reference => r.identifier.isNamed name) ∘ Reference.folded =
      fun r => r.identifier.isNamed name :=
    funext fun r => r.identifier.isNamed_folded name
  rw [named?, named?, folded, List.find?_map, same]

theorem named?_fold (name : String) : n.named? (fold name) = n.named? name := by
  simp only [named?, Identifier.isNamed_fold]

theorem toward?_folded (target : NodeId) :
    n.folded.toward? target = (n.toward? target).map .folded := by
  rw [toward?, toward?, folded, List.find?_map]
  rfl

theorem targets_folded : n.folded.targets = n.targets := by
  rw [targets, targets, folded, List.map_map, Reference.target_folded]

theorem children_folded : n.folded.children = n.children.map .folded := by
  rw [children, children, folded, List.filter_map, Reference.isChild_folded]

theorem links_folded : n.folded.links = n.links.map .folded := by
  rw [links, links, folded, List.filter_map, Reference.isLink_folded]

theorem childIds_folded : n.folded.childIds = n.childIds := by
  rw [childIds, childIds, children_folded, List.map_map, Reference.target_folded]

theorem isLinked_folded : n.folded.isLinked = n.isLinked := by
  rw [isLinked, isLinked, folded, List.any_map, Reference.isLink_folded]

theorem eraseForward_folded (target : NodeId) (kind : EdgeKind) :
    (n.eraseForward target kind).folded = n.folded.eraseForward target kind := by
  rw [eraseForward, eraseForward, folded, folded, List.eraseP_map]
  rfl

theorem eraseInverse_folded (source : NodeId) (kind : EdgeKind) :
    (n.eraseInverse source kind).folded = n.folded.eraseInverse source kind := by
  rw [eraseInverse, eraseInverse, folded, folded, List.eraseP_map]
  rfl

theorem pushForward_folded (r : Reference) :
    (n.pushForward r).folded = n.folded.pushForward r.folded := by
  rw [pushForward, pushForward, folded, folded, List.map_append]
  rfl

theorem pushInverse_folded (r : Reference) :
    (n.pushInverse r).folded = n.folded.pushInverse r.folded := by
  rw [pushInverse, pushInverse, folded, folded, List.map_append]
  rfl

end Node

/-- The place with its node in small letters. -/
def Slot.folded : Slot → Slot
  | live node => live node.folded
  | left parent => left parent

/-- The node and its place, the node in small letters. -/
def Snapshot.folded (s : Snapshot) : Snapshot :=
  { s with node := s.node.folded }

namespace Arena

/-- The arena with all names and addresses in small letters. -/
def folded (a : Arena) : Arena :=
  ⟨a.slots.map Slot.folded⟩

variable (a : Arena) {id : NodeId}

/-! ### The view of a folded arena -/

theorem size_slots_folded : a.folded.slots.size = a.slots.size :=
  Array.size_map

theorem nextId_folded : a.folded.nextId = a.nextId := by
  rw [nextId, nextId, size_slots_folded]

theorem get?_folded (id : NodeId) : a.folded.get? id = (a.get? id).map Node.folded := by
  rw [get?, get?, folded, Array.getElem?_map, Option.bind_map, Option.map_bind]
  congr 1
  funext slot
  cases slot <;> rfl

theorem lastParent_folded (id : NodeId) : a.folded.lastParent id = a.lastParent id := by
  rw [lastParent, lastParent, folded, Array.getElem?_map, Option.bind_map]
  congr 1
  funext slot
  cases slot <;> rfl

theorem contains_folded : a.folded.contains = a.contains := by
  funext id
  rw [contains, contains, get?_folded, Option.isSome_map]

theorem liveIds_folded : a.folded.liveIds = a.liveIds := by
  rw [liveIds, liveIds, size_slots_folded, contains_folded]

theorem snapshots_folded : a.folded.snapshots = a.snapshots.map Snapshot.folded := by
  rw [snapshots, snapshots, liveIds_folded, List.map_filterMap]
  congr 1
  funext id
  rw [get?_folded, Option.map_map, Option.map_map]
  rfl

theorem size_folded : a.folded.size = a.size := by
  rw [size, size, folded, Array.countP_map]
  congr 1
  funext slot
  cases slot <;> rfl

theorem push_folded (n : Node) : (a.push n).folded = a.folded.push n.folded := by
  rw [push, push, folded, Array.map_push]
  rfl

theorem map_modify {α β : Type} (f : α → α) (f' : β → β) {g : α → β}
    (same : ∀ x, g (f x) = f' (g x)) (xs : Array α) (i : Nat) :
    (xs.modify i f).map g = (xs.map g).modify i f' := by
  apply Array.ext_getElem?
  intro j
  rw [Array.getElem?_map, Array.getElem?_modify, Array.getElem?_modify, Array.getElem?_map]
  by_cases here : i = j
  · rw [if_pos here, if_pos here, Option.map_map, Option.map_map]
    congr 1
    funext x
    exact same x
  · rw [if_neg here, if_neg here]

theorem modify_folded (f f' : Node → Node) (same : ∀ n, (f n).folded = f' n.folded) (id : NodeId) :
    (a.modify id f).folded = a.folded.modify id f' := by
  refine congrArg Arena.mk (map_modify (Slot.map f) (Slot.map f') (fun slot => ?_) a.slots id.index)
  cases slot with
  | live n => exact congrArg Slot.live (same n)
  | left parent => rfl

theorem vacate_folded (id : NodeId) : (a.vacate id).folded = a.folded.vacate id := by
  let leave : Slot → Slot := fun slot => .left slot.parent
  refine congrArg Arena.mk (map_modify leave leave (fun slot => ?_) a.slots id.index)
  cases slot <;> rfl

/-! ### Searches -/

theorem leads_folded {next : Node → List NodeId} (same : ∀ n, next n.folded = next n)
    (id : NodeId) : (a.folded.get? id).map next = (a.get? id).map next := by
  have composed : next ∘ Node.folded = next := funext same
  rw [get?_folded, Option.map_map, composed]

/-- A search in a folded arena goes the same way, as it depends on nothing but where nodes lead. -/
theorem reachable_folded {next : Node → List NodeId} (same : ∀ n, next n.folded = next n)
    (start : NodeId) : a.folded.reachable next start = a.reachable next start :=
  reachable_congr (a.leads_folded same) start

theorem leadsTo_folded (start goal : NodeId) :
    a.folded.leadsTo start goal = a.leadsTo start goal :=
  leadsTo_congr (a.leads_folded Node.targets_folded) start goal

theorem subtree_folded (start : NodeId) : a.folded.subtree start = a.subtree start :=
  a.reachable_folded Node.childIds_folded start

theorem descendants_folded (start : NodeId) : a.folded.descendants start = a.descendants start := by
  rw [descendants, descendants, subtree_folded]

theorem firstLinked_folded (nodes : List NodeId) :
    a.folded.firstLinked nodes = a.firstLinked nodes := by
  have same : ∀ id, (a.folded.get? id).any Node.isLinked = (a.get? id).any Node.isLinked := by
    intro id
    rw [get?_folded, Option.any_map]
    congr 1
    exact funext Node.isLinked_folded
  simp only [firstLinked, same]

theorem firstLinkedFromOutside_folded (nodes : List NodeId) :
    a.folded.firstLinkedFromOutside nodes = a.firstLinkedFromOutside nodes := by
  rw [firstLinkedFromOutside, firstLinkedFromOutside]
  congr 1
  funext id
  rw [get?_folded, Option.any_map]
  congr 1
  funext n
  show (n.inverse.map Reference.folded).any _ = _
  rw [List.any_map]
  rfl

theorem childNamed_folded (id : NodeId) (name : String) :
    a.folded.childNamed id name = a.childNamed id name := by
  rw [childNamed, childNamed, get?_folded, Option.bind_map]
  congr 1
  funext n
  rw [Function.comp_apply, Node.named?_folded, Option.map_map, Reference.target_folded]

/-! ### Edges -/

theorem setAddress_folded (id : NodeId) (address : String) :
    (a.setAddress id address).folded = a.folded.setAddress id (fold address) :=
  a.modify_folded (fun n => { n with address }) _ (fun _ => rfl) id

theorem rebaseBelow_folded (levels : Nat) : ∀ (children : List NodeId) (base : String) (a : Arena),
    (rebaseBelow levels children base a).folded =
      rebaseBelow levels children (fold base) a.folded := by
  induction levels with
  | zero => exact fun _ _ _ => rfl
  | succ levels ih =>
    intro children base a
    rw [rebaseBelow, rebaseBelow]
    -- on each level child after child, the last one first
    induction children with
    | nil => rfl
    | cons child children ih' =>
      rw [List.foldr_cons, List.foldr_cons, ← ih']
      generalize List.foldr _ a children = b
      rw [get?_folded]
      cases b.get? child with
      | none => rfl
      | some n =>
        simp only [Option.map_some]
        rw [ih, setAddress_folded, Node.childIds_folded, ← Address.join_fold]
        rfl

theorem rebase_folded (children : List NodeId) (base : String) :
    (a.rebase children base).folded = a.folded.rebase children (fold base) := by
  rw [rebase, rebase, rebaseBelow_folded, size_slots_folded]

theorem attach_folded (parent child : NodeId) (name : Identifier) :
    (a.attach parent child name).folded = a.folded.attach parent child name.folded := by
  rw [attach, attach, get?_folded, get?_folded]
  cases a.get? parent with
  | none => rfl
  | some above =>
    cases a.get? child with
    | none => rfl
    | some below =>
      have adopted : ∀ address,
          (a.modify child fun n =>
            { n.pushInverse (Reference.halves name parent child .child).2 with
              parent := some parent, address }).folded =
          a.folded.modify child fun n =>
            { n.pushInverse (Reference.halves name.folded parent child .child).2 with
              parent := some parent, address := fold address } := by
        intro address
        refine a.modify_folded _ _ (fun n => ?_) child
        simp [Node.folded, Node.pushInverse, Reference.halves, Reference.folded, Reference.flip]
      simp only [Option.map_some]
      refine (modify_folded _ _ (fun n => n.pushForward _) (fun n => n.pushForward_folded _)
        parent).trans ?_
      rw [rebase_folded, adopted, Node.childIds_folded, ← Address.join_fold]
      rfl

theorem detach_folded (parent child : NodeId) :
    (a.detach parent child).folded = a.folded.detach parent child := by
  have orphaned : (a.modify child fun n =>
      { n.eraseInverse parent .child with parent := none }).folded =
        a.folded.modify child fun n => { n.eraseInverse parent .child with parent := none } := by
    refine a.modify_folded _ _ (fun n => ?_) child
    rw [← Node.eraseInverse_folded]
    rfl
  rw [detach, detach, ← orphaned]
  exact modify_folded _ _ _ (fun n => n.eraseForward_folded child .child) parent

theorem link_folded (source target : NodeId) (name : Identifier) :
    (a.link source target name).folded = a.folded.link source target name.folded := by
  refine (modify_folded _ _ (fun n => n.pushForward _) (fun n => n.pushForward_folded _)
    source).trans ?_
  exact congrArg (Arena.modify · source _) (a.modify_folded _ (fun n => n.pushInverse _)
    (fun n => n.pushInverse_folded _) target)

theorem unlink_folded (source target : NodeId) :
    (a.unlink source target).folded = a.folded.unlink source target := by
  have left : (a.modify target fun n => n.eraseInverse source .link).folded =
      a.folded.modify target fun n => n.eraseInverse source .link :=
    a.modify_folded _ _ (fun n => n.eraseInverse_folded source .link) target
  rw [unlink, unlink, ← left]
  exact modify_folded _ _ _ (fun n => n.eraseForward_folded target .link) source

/-! ### Verification -/

theorem census_folded : a.folded.census = a.census := by
  have edges : ∀ (p : Reference → Bool), p ∘ Reference.folded = p → ∀ nodes : List Snapshot,
      (nodes.map Snapshot.folded).foldr (fun s n => s.node.forward.countP p + n) 0 =
        nodes.foldr (fun s n => s.node.forward.countP p + n) 0 := by
    intro p same nodes
    induction nodes with
    | nil => rfl
    | cons s nodes ih =>
      rw [List.map_cons, List.foldr_cons, List.foldr_cons, ih]
      show (s.node.forward.map Reference.folded).countP p + _ = _
      rw [List.countP_map, same]
  have tops : ∀ s : Snapshot, (a.folded.liveParent s.folded.node).isNone =
      (a.liveParent s.node).isNone := by
    intro s
    show (s.node.parent.bind a.folded.get?).isNone = (s.node.parent.bind a.get?).isNone
    cases s.node.parent with
    | none => rfl
    | some p =>
      rw [Option.bind_some, Option.bind_some, get?_folded, Option.isNone_map]
  rw [census, census, snapshots_folded, List.length_map, edges _ Reference.isChild_folded,
    edges _ Reference.isLink_folded, List.countP_map]
  congr 2
  funext s
  show (s.id != .root && _) = _
  rw [tops]

end Arena

end DeviceTree
