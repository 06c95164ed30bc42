/-
The structural invariant of a tree.

* `Arena.Wired` -- the names and targets of a node differ, and its references pair up, one to one,
  with those at the other ends;
* `Arena.Parented` -- a node has at most one parent edge, which its parent field repeats and which
  carries its name;
* `Arena.Acyclic` -- no path of forward references comes back to where it started;
* `Arena.Addressed` -- addresses follow the parents, from the root on;
* `Arena.Sound` -- all of these.

`Becomes a b g` says that `b` is `a` with every node changed by `g`; the effect of an operation on
an arena is given in this form, and each part of the invariant has one lemma for each kind of `g`.
-/
import DeviceTree.Arena.Wiring
import DeviceTree.Proofs.Search
import DeviceTree.Verify
import Mathlib.Data.List.Nodup

namespace DeviceTree

open Relation

/-- The names of the forward references of a node, up to ASCII case. -/
def Node.foldedNames (n : Node) : List String :=
  n.forward.map fun r => Text.fold r.identifier.text

theorem Node.named?_eq_none_iff {n : Node} {name : String} :
    n.named? name = none ↔ Text.fold name ∉ n.foldedNames := by
  simp only [named?, List.find?_eq_none, foldedNames, List.mem_map, not_exists, not_and,
    Identifier.isNamed, Text.sameFold_iff]

theorem Node.toward?_eq_none_iff {n : Node} {target : NodeId} :
    n.toward? target = none ↔ target ∉ n.targets := by
  simp [toward?, List.find?_eq_none, targets]

theorem Node.mem_of_toward? {n : Node} {target : NodeId} {r : Reference}
    (h : n.toward? target = some r) : r ∈ n.forward ∧ r.target = target :=
  ⟨List.mem_of_find?_eq_some h, by simpa using List.find?_some h⟩

namespace Arena

/-! ### The invariant -/

/-- The references of the nodes pair up. -/
structure Wired (a : Arena) : Prop where
  /-- The names of the forward references of a node differ, also up to ASCII case. -/
  names : ∀ {id n}, a.get? id = some n → n.foldedNames.Nodup
  targets : ∀ {id n}, a.get? id = some n → n.targets.Nodup
  /-- A forward reference starts at its holder, and its other half is kept at its target. -/
  forward : ∀ {id n r}, a.get? id = some n → r ∈ n.forward →
    r.direction = .forward ∧ r.source = id ∧
      ∃ m, a.get? r.target = some m ∧ r.flip ∈ m.inverse
  /-- An inverse reference ends at its holder, and its other half is kept at its source. -/
  inverse : ∀ {id n r}, a.get? id = some n → r ∈ n.inverse →
    r.direction = .inverse ∧ r.target = id ∧
      ∃ m, a.get? r.source = some m ∧ r.flip ∈ m.forward
  /-- No half is kept twice; for forward references this follows from their targets. -/
  once : ∀ {id n}, a.get? id = some n → n.inverse.Nodup

/-- The parent edges of the nodes. -/
structure Parented (a : Arena) : Prop where
  single : ∀ {id n}, a.get? id = some n → n.inverse.countP Reference.isChild ≤ 1
  parent : ∀ {id n}, a.get? id = some n → n.parent = edgeParent n
  name : ∀ {id n r}, a.get? id = some n → r ∈ n.inverse → r.isChild = true →
    r.identifier = n.identifier

/-- No path of forward references, child edges or links, comes back to where it started. -/
def Acyclic (a : Arena) : Prop :=
  ∀ x, ¬TransGen a.Leads x x

/-- Addresses follow the parents, and the root is at the top. -/
structure Addressed (a : Arena) (root : Identifier) : Prop where
  below : ∀ {id n p above}, a.get? id = some n → n.parent = some p → a.get? p = some above →
    n.address = Address.join above.address n.identifier.text
  root : ∃ n, a.get? .root = some n ∧ n.identifier = root ∧ n.parent = none ∧
    n.address = root.text

/-- The structural invariant of an arena whose root is named `root`. -/
structure Sound (a : Arena) (root : Identifier) : Prop where
  wired : a.Wired
  parented : a.Parented
  acyclic : a.Acyclic
  addressed : a.Addressed root

/-! ### What wired references say -/

section

variable {a : Arena} {x y id : NodeId} {n m : Node} {r r' : Reference}

theorem Wired.eq_of_target (w : a.Wired) (found : a.get? id = some n) (hr : r ∈ n.forward)
    (hr' : r' ∈ n.forward) (same : r.target = r'.target) : r = r' :=
  List.inj_on_of_nodup_map (w.targets found) hr hr' same

/-- Two edges from one node to another are the same edge. -/
theorem Wired.eq_of_source (w : a.Wired) (found : a.get? id = some n) (hr : r ∈ n.inverse)
    (hr' : r' ∈ n.inverse) (same : r.source = r'.source) : r = r' := by
  -- the other halves stand in one list of forward references and have one target
  obtain ⟨-, here, m, hm, half⟩ := w.inverse found hr
  obtain ⟨-, here', m', hm', half'⟩ := w.inverse found hr'
  rw [← same, hm, Option.some.injEq] at hm'
  subst hm'
  have flips : r.flip = r'.flip :=
    w.eq_of_target hm half half' (here.trans here'.symm)
  rw [← Reference.flip_flip r, flips, Reference.flip_flip]

theorem Wired.live_of_leads (w : a.Wired) (h : a.Leads x y) : ∃ m, a.get? y = some m := by
  obtain ⟨n, found, mem⟩ := h
  obtain ⟨r, hr, rfl⟩ := List.mem_map.mp mem
  obtain ⟨-, -, m, hm, -⟩ := w.forward found hr
  exact ⟨m, hm⟩

/-- A child edge is known at the child. -/
theorem Wired.owns_iff (w : a.Wired) (found : a.get? y = some n) :
    a.Owns x y ↔ ∃ r ∈ n.inverse, r.isChild = true ∧ r.source = x := by
  constructor
  · rintro ⟨m, hm, mem⟩
    simp only [Node.childIds, Node.children, List.mem_map, List.mem_filter] at mem
    obtain ⟨r, ⟨hr, child⟩, rfl⟩ := mem
    obtain ⟨-, here, m', hm', half⟩ := w.forward hm hr
    rw [found, Option.some.injEq] at hm'
    subst hm'
    exact ⟨r.flip, half, child, here⟩
  · rintro ⟨r, hr, child, rfl⟩
    obtain ⟨-, here, m, hm, half⟩ := w.inverse found hr
    refine ⟨m, hm, ?_⟩
    simp only [Node.childIds, Node.children, List.mem_map, List.mem_filter]
    exact ⟨r.flip, ⟨half, child⟩, here⟩

theorem eq_of_countP_le_one {α : Type} {p : α → Bool} {l : List α} {x y : α}
    (h : l.countP p ≤ 1) (hx : x ∈ l) (px : p x = true) (hy : y ∈ l) (py : p y = true) :
    x = y := by
  rw [List.countP_eq_length_filter] at h
  have mx : x ∈ l.filter p := List.mem_filter.mpr ⟨hx, px⟩
  have my : y ∈ l.filter p := List.mem_filter.mpr ⟨hy, py⟩
  match hl : l.filter p with
  | [] => simp [hl] at mx
  | [z] =>
    rw [hl, List.mem_singleton] at mx my
    rw [mx, my]
  | _ :: _ :: _ => simp [hl] at h

/-- The parent of a node is the one that owns it. -/
theorem parent_eq_some_iff (w : a.Wired) (p : a.Parented) (found : a.get? y = some n) :
    n.parent = some x ↔ a.Owns x y := by
  rw [p.parent found, w.owns_iff found, edgeParent]
  constructor
  · intro h
    obtain ⟨r, hr, rfl⟩ := Option.map_eq_some_iff.mp h
    exact ⟨r, List.mem_of_find?_eq_some hr, List.find?_some hr, rfl⟩
  · rintro ⟨r, hr, child, rfl⟩
    cases h : n.inverse.find? Reference.isChild with
    | none =>
      rw [List.find?_eq_none] at h
      exact absurd child (h r hr)
    | some s =>
      have same : s = r :=
        eq_of_countP_le_one (p.single found) (List.mem_of_find?_eq_some h) (List.find?_some h) hr
          child
      rw [same, Option.map_some]

theorem owner_unique (w : a.Wired) (p : a.Parented) (hx : a.Owns x id) (hy : a.Owns y id) :
    x = y := by
  obtain ⟨n, found⟩ := w.live_of_leads hx.leads
  rw [← parent_eq_some_iff w p found] at hx hy
  exact Option.some.inj (hx.symm.trans hy)

end

/-! ### Arenas with changed nodes -/

/-- `b` is `a` with every node changed by `g`. -/
def Becomes (a b : Arena) (g : NodeId → Node → Node) : Prop :=
  ∀ id, b.get? id = (a.get? id).map (g id)

section

variable {a b c : Arena} {g g' : NodeId → Node → Node} {id x y : NodeId} {n m : Node}

theorem Becomes.live (h : Becomes a b g) (found : a.get? id = some n) :
    b.get? id = some (g id n) := by
  rw [h, found, Option.map_some]

theorem Becomes.origin (h : Becomes a b g) (found : b.get? id = some m) :
    ∃ n, a.get? id = some n ∧ m = g id n := by
  rw [h] at found
  obtain ⟨n, hn, rfl⟩ := Option.map_eq_some_iff.mp found
  exact ⟨n, hn, rfl⟩

theorem Becomes.trans (h : Becomes a b g) (h' : Becomes b c g') :
    Becomes a c fun id n => g' id (g id n) := by
  intro id
  rw [h', h, Option.map_map]
  rfl

theorem becomes_modify (a : Arena) (id : NodeId) (f : Node → Node) :
    Becomes a (a.modify id f) fun other n => if id = other then f n else n := by
  intro other
  rw [get?_modify]
  by_cases same : id = other <;> cases a.get? other <;> simp [same]

/-- Nothing that an edge is made of changes. -/
def KeepsEdges (g : NodeId → Node → Node) : Prop :=
  ∀ id n, (g id n).forward = n.forward ∧ (g id n).inverse = n.inverse ∧
    (g id n).parent = n.parent ∧ (g id n).identifier = n.identifier

theorem Becomes.step_iff (h : Becomes a b g) {next : Node → List NodeId}
    (keep : ∀ id n, next (g id n) = next n) : b.Step next x y ↔ a.Step next x y := by
  constructor
  · rintro ⟨m, hm, mem⟩
    obtain ⟨n, hn, rfl⟩ := h.origin hm
    exact ⟨n, hn, keep x n ▸ mem⟩
  · rintro ⟨n, hn, mem⟩
    exact ⟨g x n, h.live hn, (keep x n).symm ▸ mem⟩

theorem Becomes.leads_iff (h : Becomes a b g) (keep : KeepsEdges g) :
    b.Leads x y ↔ a.Leads x y :=
  h.step_iff fun id n => by simp [Node.targets, (keep id n).1]

theorem Becomes.owns_iff (h : Becomes a b g) (keep : KeepsEdges g) : b.Owns x y ↔ a.Owns x y :=
  h.step_iff fun id n => by simp [Node.childIds, Node.children, (keep id n).1]

theorem Wired.congr (w : a.Wired) (h : Becomes a b g) (keep : KeepsEdges g) : b.Wired where
  names found := by
    obtain ⟨n, hn, rfl⟩ := h.origin found
    simpa [Node.foldedNames, (keep _ n).1] using w.names hn
  targets found := by
    obtain ⟨n, hn, rfl⟩ := h.origin found
    simpa [Node.targets, (keep _ n).1] using w.targets hn
  forward found mem := by
    obtain ⟨n, hn, rfl⟩ := h.origin found
    rw [(keep _ n).1] at mem
    obtain ⟨way, here, m, hm, half⟩ := w.forward hn mem
    exact ⟨way, here, _, h.live hm, (keep _ m).2.1.symm ▸ half⟩
  inverse found mem := by
    obtain ⟨n, hn, rfl⟩ := h.origin found
    rw [(keep _ n).2.1] at mem
    obtain ⟨way, here, m, hm, half⟩ := w.inverse hn mem
    exact ⟨way, here, _, h.live hm, (keep _ m).1.symm ▸ half⟩
  once found := by
    obtain ⟨n, hn, rfl⟩ := h.origin found
    rw [(keep _ n).2.1]
    exact w.once hn

theorem Parented.congr (p : a.Parented) (h : Becomes a b g) (keep : KeepsEdges g) :
    b.Parented where
  single found := by
    obtain ⟨n, hn, rfl⟩ := h.origin found
    rw [(keep _ n).2.1]
    exact p.single hn
  parent found := by
    obtain ⟨n, hn, rfl⟩ := h.origin found
    rw [(keep _ n).2.2.1, edgeParent, (keep _ n).2.1]
    exact p.parent hn
  name found mem child := by
    obtain ⟨n, hn, rfl⟩ := h.origin found
    rw [(keep _ n).2.1] at mem
    rw [(keep _ n).2.2.2]
    exact p.name hn mem child

/-- Where there are no more edges than before, there are no more cycles. -/
theorem Acyclic.mono (acyclic : a.Acyclic) (fewer : ∀ x y, b.Leads x y → a.Leads x y) :
    b.Acyclic :=
  fun x cycle => acyclic x (TransGen.mono fewer x x cycle)

theorem Acyclic.congr (acyclic : a.Acyclic) (h : Becomes a b g) (keep : KeepsEdges g) :
    b.Acyclic :=
  acyclic.mono fun _ _ => (h.leads_iff keep).mp

/-- Addresses stay right if they stay the same and no parent is new. -/
theorem Addressed.congr {root : Identifier} (d : a.Addressed root) (h : Becomes a b g)
    (same : ∀ id n, (g id n).address = n.address ∧ (g id n).identifier = n.identifier)
    (parents : ∀ id n p, (g id n).parent = some p → n.parent = some p) : b.Addressed root where
  below found child up := by
    obtain ⟨n, hn, rfl⟩ := h.origin found
    obtain ⟨m, hm, rfl⟩ := h.origin up
    rw [(same _ n).1, (same _ n).2, (same _ m).1]
    exact d.below hn (parents _ _ _ child) hm
  root := by
    obtain ⟨n, hn, named, top, address⟩ := d.root
    refine ⟨_, h.live hn, (same _ n).2.trans named, ?_, (same _ n).1.trans address⟩
    rw [Option.eq_none_iff_forall_ne_some]
    intro p parent
    have := parents _ _ _ parent
    simp [top] at this

/-- The invariant speaks of nothing but edges, names and addresses. -/
theorem Sound.congr {root : Identifier} (s : a.Sound root) (h : Becomes a b g)
    (keep : KeepsEdges g) (same : ∀ id n, (g id n).address = n.address) : b.Sound root where
  wired := s.wired.congr h keep
  parented := s.parented.congr h keep
  acyclic := s.acyclic.congr h keep
  addressed := s.addressed.congr h (fun id n => ⟨same id n, (keep id n).2.2.2⟩)
    fun id n _ parent => (keep id n).2.2.1 ▸ parent

end

end Arena

end DeviceTree
