/-
The way up from a node.

The lineage of a node is the node itself, its parent, and so on up to a node that nothing owns; that
of an empty place is empty.  In a sound arena there is exactly one for every place:

* `Sound.exists_lineage`, `Lineage.unique` -- existence and uniqueness;
* `Lineage.mem_iff` -- its members are the nodes from which child edges lead to the node;
* `Lineage.ends_at_root` -- below the root it goes up to the root;
* `Lineage.length_le` -- it has no more members than the arena has nodes.
-/
import DeviceTree.Proofs.Attach
import DeviceTree.Proofs.Cycle
import Mathlib.Data.List.Perm.Subperm

namespace DeviceTree.Arena

open Relation

variable {a : Arena} {root : Identifier} {id p x y : NodeId} {n : Node} {way way' : List NodeId}

/-- The nodes from a place up to the top, over child edges. -/
inductive Lineage (a : Arena) : NodeId → List NodeId → Prop where
  /-- There is no node. -/
  | gone {id : NodeId} : a.get? id = none → Lineage a id []
  /-- Nothing owns the node. -/
  | top {id : NodeId} {n : Node} : a.get? id = some n → (∀ p, ¬a.Owns p id) → Lineage a id [id]
  | step {p id : NodeId} {way : List NodeId} :
      a.Owns p id → Lineage a p way → Lineage a id (id :: way)

/-! ### Parents -/

/-- Also the parent of a node that has left is kept; that of a node that is there is its own. -/
theorem lastParent_of_get? (found : a.get? id = some n) : a.lastParent id = n.parent := by
  obtain ⟨slot, here, live⟩ := Option.bind_eq_some_iff.mp found
  rw [lastParent, here, Option.bind_some]
  cases slot with
  | live node =>
    rw [← Option.some.inj live]
    rfl
  | left parent => simp [Slot.node?] at live

/-- Nothing owns an empty place. -/
theorem Sound.not_owns_gone (sound : a.Sound root) (none : a.get? id = none) : ¬a.Owns p id := by
  intro edge
  obtain ⟨n, found⟩ := sound.live_of_owns edge
  simp [none] at found

/-- The address of an owner is shorter than those of the nodes that it owns. -/
theorem Sound.shorter_of_owns (sound : a.Sound root) (edge : a.Owns p id) :
    (a.addressAt p).length < (a.addressAt id).length := by
  obtain ⟨n, found⟩ := sound.live_of_owns edge
  rw [addressAt_of_get? found, sound.follows edge n found, Address.join, String.length_append,
    String.length_append]
  have slash : "/".length = 1 := rfl
  omega

/-- What holds of a node as soon as it holds of all that own it holds of all nodes. -/
theorem Sound.induction_up (sound : a.Sound root) {P : NodeId → Prop}
    (step : ∀ id, (∀ p, a.Owns p id → P p) → P id) (id : NodeId) : P id := by
  induction hl : (a.addressAt id).length using Nat.strongRecOn generalizing id with
  | ind length ih =>
    subst hl
    exact step id fun p edge => ih _ (sound.shorter_of_owns edge) p rfl

/-! ### The lineage -/

/-- **Every place has a lineage.** -/
theorem Sound.exists_lineage (sound : a.Sound root) (id : NodeId) : ∃ way, a.Lineage id way := by
  refine sound.induction_up (P := fun id => ∃ way, a.Lineage id way) (fun id above => ?_) id
  by_cases owned : ∃ p, a.Owns p id
  · obtain ⟨p, edge⟩ := owned
    obtain ⟨way, up⟩ := above p edge
    exact ⟨id :: way, .step edge up⟩
  · cases found : a.get? id with
    | none => exact ⟨[], .gone found⟩
    | some n => exact ⟨[id], .top found (not_exists.mp owned)⟩

/-- **It has no other.** -/
theorem Lineage.unique (sound : a.Sound root) (h : a.Lineage id way) (h' : a.Lineage id way') :
    way = way' := by
  induction h generalizing way' with
  | gone none =>
    cases h' with
    | gone => rfl
    | top found => simp [none] at found
    | step edge => exact absurd edge (sound.not_owns_gone none)
  | top found alone =>
    cases h' with
    | gone none => simp [none] at found
    | top => rfl
    | step edge => exact absurd edge (alone _)
  | step edge _ ih =>
    cases h' with
    | gone none => exact absurd edge (sound.not_owns_gone none)
    | top _ alone => exact absurd edge (alone _)
    | step edge' up =>
      obtain rfl := owner_unique sound.wired sound.parented edge edge'
      rw [ih up]

/-- **Its members are the nodes from which child edges lead to the node**, itself among them if it
is there. -/
theorem Lineage.mem_iff (sound : a.Sound root) (h : a.Lineage id way) :
    x ∈ way ↔ (∃ n, a.get? x = some n) ∧ ReflTransGen a.Owns x id := by
  induction h with
  | gone none =>
    refine ⟨fun mem => absurd mem List.not_mem_nil, ?_⟩
    rintro ⟨⟨n, found⟩, path⟩
    rcases path.cases_tail with rfl | ⟨y, -, edge⟩
    · simp [none] at found
    · exact absurd edge (sound.not_owns_gone none)
  | @top id n found alone =>
    rw [List.mem_singleton]
    constructor
    · rintro rfl
      exact ⟨⟨n, found⟩, .refl⟩
    · rintro ⟨-, path⟩
      rcases path.cases_tail with same | ⟨y, -, edge⟩
      · exact same.symm
      · exact absurd edge (alone y)
  | @step p id way edge _ ih =>
    rw [List.mem_cons, ih]
    constructor
    · rintro (rfl | ⟨live, path⟩)
      · exact ⟨sound.live_of_owns edge, .refl⟩
      · exact ⟨live, path.tail edge⟩
    · rintro ⟨live, path⟩
      rcases path.cases_tail with same | ⟨y, path, edge'⟩
      · exact .inl same.symm
      · exact .inr ⟨live, owner_unique sound.wired sound.parented edge' edge ▸ path⟩

theorem Lineage.nodup (sound : a.Sound root) (h : a.Lineage id way) : way.Nodup := by
  induction h with
  | gone => exact List.nodup_nil
  | top => exact List.nodup_singleton _
  | @step p id way edge up ih =>
    refine List.nodup_cons.mpr ⟨fun mem => ?_, ih⟩
    exact sound.forest.acyclic (.tail' ((up.mem_iff sound).mp mem).2 edge)

/-- **It has no more members than the arena has nodes.** -/
theorem Lineage.length_le (sound : a.Sound root) (h : a.Lineage id way) : way.length ≤ a.size := by
  rw [← length_liveIds]
  refine (List.subperm_of_subset (h.nodup sound) fun x mem => ?_).length_le
  exact mem_liveIds_iff.mpr ((h.mem_iff sound).mp mem).1

/-- The lineage of a node that is there begins with it. -/
theorem Lineage.exists_above (h : a.Lineage id way) (found : a.get? id = some n) :
    ∃ above, way = id :: above := by
  cases h with
  | gone none => exact absurd (none.symm.trans found) (Option.some_ne_none n).symm
  | top => exact ⟨[], rfl⟩
  | step => exact ⟨_, rfl⟩

/-- Above a node stand the other nodes from which child edges lead to it. -/
theorem Lineage.mem_above_iff (sound : a.Sound root) (h : a.Lineage id (id :: way)) :
    x ∈ way ↔ TransGen a.Owns x id := by
  have apart := (List.nodup_cons.mp (h.nodup sound)).1
  constructor
  · intro mem
    have path := ((h.mem_iff sound).mp (List.mem_cons_of_mem _ mem)).2
    rcases reflTransGen_iff_eq_or_transGen.mp path with rfl | path
    · exact absurd mem apart
    · exact path
  · intro path
    obtain ⟨y, ⟨n, found, -⟩, -⟩ := TransGen.head'_iff.mp path
    rcases List.mem_cons.mp ((h.mem_iff sound).mpr ⟨⟨n, found⟩, path.to_reflTransGen⟩) with
      rfl | mem
    · exact absurd path sound.forest.acyclic
    · exact mem

/-- The lineage of a node below the root ends with the root. -/
theorem Lineage.ends_at_root (sound : a.Sound root) (h : a.Lineage id way)
    (attached : ReflTransGen a.Owns .root id) : way.getLast? = some .root := by
  induction h with
  | gone none =>
    rcases attached.cases_tail with rfl | ⟨y, -, edge⟩
    · obtain ⟨n, found, -⟩ := sound.addressed.root
      simp [none] at found
    · exact absurd edge (sound.not_owns_gone none)
  | top _ alone =>
    rcases attached.cases_tail with rfl | ⟨y, -, edge⟩
    · rfl
    · exact absurd edge (alone y)
  | step edge _ ih =>
    rcases attached.cases_tail with rfl | ⟨y, path, edge'⟩
    · exact absurd edge sound.root_not_owned
    · obtain rfl := owner_unique sound.wired sound.parented edge edge'
      rw [List.getLast?_cons, ih path, Option.getD_some]

/-- Above the root there is nothing. -/
theorem Sound.lineage_root (sound : a.Sound root) : a.Lineage .root [.root] := by
  obtain ⟨n, found, -⟩ := sound.addressed.root
  exact .top found fun _ => sound.root_not_owned

end DeviceTree.Arena
