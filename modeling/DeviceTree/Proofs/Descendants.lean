/-
The descendants of a node, in order.

The search for them keeps a stack and a set of marks.  Where child edges form a forest, it lists
what the recursion over child edges lists: each child in order, followed by what lies below it.

* `Sound.depthFirst`, `DepthFirst.unique` -- the search follows the recursive definition, which
  nothing else does;
* `Preorder.parent_first` -- every node comes after its parent;
* `descendants_exact` -- the descendants of the nodes of a reachable tree, and the search on any
  arena.
-/
import DeviceTree.Proofs.Anchored
import DeviceTree.Proofs.Preorder

namespace DeviceTree

namespace Arena

open Relation

variable {a b : Arena} {root : Identifier} {depth : ℕ} {ids : List NodeId}
  {listing : List (ℕ × Snapshot)} {x y z : NodeId} {n : Node} {f g : NodeId → List NodeId}

/-- A listing of what lies below each node, by the recursive definition of pre-order: each child in
order, followed by what lies below it. -/
def DepthFirst (a : Arena) (below : NodeId → List NodeId) : Prop :=
  ∀ {id n}, a.get? id = some n → below id = n.childIds.flatMap fun child => child :: below child

/-- A search finds first of all where it starts. -/
theorem subtree_eq_cons (a : Arena) (start : NodeId) :
    a.subtree start = start :: a.descendants start := by
  have first : ∃ rest, a.subtree start = start :: rest := by
    rw [subtree, reachable, explore, dif_neg (by simp)]
    split <;> exact ⟨_, rfl⟩
  obtain ⟨rest, found⟩ := first
  rw [descendants, found, List.tail_cons]

/-! ### The recursive definition -/

/-- Wherever there is a listing, the recursive definition leaves no choice. -/
theorem DepthFirst.unique (hf : a.DepthFirst f) (hg : a.DepthFirst g)
    (h : a.Preorder depth ids listing) : ∀ c ∈ ids, f c = g c := by
  induction h with
  | nil => exact fun c mem => absurd mem List.not_mem_nil
  | @cons _ id n rest _ _ found _ _ ih₁ ih₂ =>
    intro c mem
    rcases List.mem_cons.mp mem with rfl | mem
    · rw [hf found, hg found]
      exact List.flatMap_congr fun child here => congrArg (child :: ·) (ih₁ child here)
    · exact ih₂ c mem

/-- In a listing every node is followed by its descendants. -/
theorem Preorder.places_eq (sound : a.Sound root) (h : a.Preorder depth ids listing) :
    places listing = ids.flatMap fun c => c :: a.descendants c := by
  induction h with
  | nil => rfl
  | @cons depth id n rest below after found first _ ih₁ ih₂ =>
    have alone : a.Preorder depth [id] ((depth, ⟨id, n⟩) :: below ++ []) :=
      .cons found first (.nil depth)
    have nodup := alone.nodup sound.forest sound.nodup_childIds (List.pairwise_singleton _ id)
    have lower : id :: a.descendants id = id :: places below := by
      rw [← subtree_eq_cons, alone.subtree nodup, List.append_nil, places_cons]
    rw [List.cons_append, places_cons, places_append, List.flatMap_cons, lower, ih₂,
      List.cons_append]

/-- **The search follows the recursive definition.** -/
theorem Sound.depthFirst (sound : a.Sound root) : a.DepthFirst a.descendants := by
  intro id n found
  obtain ⟨listing, h, -, searched⟩ := sound.exists_preorder found 0
  cases h with
  | cons found' first second =>
    obtain rfl := Option.some.inj (found.symm.trans found')
    cases second
    rw [List.append_nil, places_cons, subtree_eq_cons] at searched
    rw [List.tail_eq_of_cons_eq searched, first.places_eq sound]

/-! ### Parents first -/

/-- A node of a listing comes before its children. -/
theorem Preorder.parent_first (h : a.Preorder depth ids listing) (edge : a.Owns x y) :
    x ∈ places listing → [x, y].Sublist (places listing) := by
  induction h with
  | nil => exact fun mem => absurd mem List.not_mem_nil
  | @cons _ id n rest below after found first _ ih₁ ih₂ =>
    rw [List.cons_append, places_cons, places_append, List.mem_cons, List.mem_append]
    rintro (rfl | mem | mem)
    · have child : y ∈ places below := by
        rw [first.mem_iff]
        exact ⟨y, (owns_iff_mem found).mp edge, .refl⟩
      exact (List.singleton_sublist.mpr (List.mem_append_left _ child)).cons_cons x
    · exact ((ih₁ mem).trans (List.sublist_append_left _ _)).cons id
    · exact ((ih₂ mem).trans (List.sublist_append_right _ _)).cons id

/-- **Every node comes after its parent.** -/
theorem Sound.parent_first (sound : a.Sound root) (found : a.get? x = some n)
    (path : ReflTransGen a.Owns x y) (edge : a.Owns y z) :
    [y, z].Sublist (x :: a.descendants x) := by
  obtain ⟨listing, h, -, searched⟩ := sound.exists_preorder found 0
  rw [← subtree_eq_cons, searched]
  refine h.parent_first edge ?_
  rwa [← searched, mem_subtree_iff]

/-! ### What is listed -/

theorem nodup_descendants (a : Arena) (x : NodeId) :
    x ∉ a.descendants x ∧ (a.descendants x).Nodup := by
  rw [← List.nodup_cons, ← subtree_eq_cons]
  exact nodup_reachable x

theorem Sound.mem_descendants_iff (sound : a.Sound root) :
    y ∈ a.descendants x ↔ TransGen a.Owns x y := by
  have member : y = x ∨ y ∈ a.descendants x ↔ y = x ∨ TransGen a.Owns x y := by
    rw [← List.mem_cons, ← subtree_eq_cons, mem_subtree_iff, reflTransGen_iff_eq_or_transGen]
  rcases eq_or_ne y x with rfl | differ
  · exact iff_of_false (a.nodup_descendants y).1 sound.forest.acyclic
  · simpa only [differ, false_or] using member

end Arena

open Relation Arena

/-- **The descendants of a node are listed in pre-order.**  For every node of a reachable tree the
question is answered.  The answer is what the recursive definition of pre-order says, and nothing
else follows this definition; it lists every node to which a path of one child edge or more leads,
nothing besides, none of them twice, and each after its parent.  Links are not followed: any other
arena with the same child edges gives the same list.  Also where child edges run in circles, come
together or end at empty places, the search comes to an end, begins with its start, and lists
without repetition the ids to which child edges lead. -/
theorem descendants_exact :
    (∀ (options : Options) (s : Session Empty), s.Reachable options →
      ∀ id n, s.tree.store.arena.get? id = some n →
        let a := s.tree.store.arena
        s.tree.perform (.ask (.descendants id)) = s.tree.yield (.ok (.nodes (a.descendants id))) ∧
        a.DepthFirst a.descendants ∧
        (∀ below, a.DepthFirst below → below id = a.descendants id) ∧
        (∀ x, x ∈ a.descendants id ↔ TransGen a.Owns id x) ∧ (a.descendants id).Nodup ∧
        (∀ x y, ReflTransGen a.Owns id x → a.Owns x y →
          [x, y].Sublist (id :: a.descendants id)) ∧
        ∀ b : Arena, (∀ x, (b.get? x).map Node.childIds = (a.get? x).map Node.childIds) →
          b.descendants id = a.descendants id) ∧
    ∀ (a : Arena) (start : NodeId),
      (a.subtree start).head? = some start ∧ (a.subtree start).Nodup ∧
        ∀ x, x ∈ a.subtree start ↔ ReflTransGen a.Owns start x := by
  refine ⟨?_, fun a start => ⟨?_, nodup_reachable start, fun x => mem_subtree_iff⟩⟩
  · intro options s h id n found a
    have sound : a.Sound _ := (Store.upright_of_reachable h).sound
    obtain ⟨listing, pre, -⟩ := sound.exists_preorder found 0
    refine ⟨?_, sound.depthFirst, fun below follows => ?_, fun x => sound.mem_descendants_iff,
      (a.nodup_descendants id).2, fun x y path edge => sound.parent_first found path edge,
      fun b same => ?_⟩
    · simp only [Tree.perform, Tree.performWith, Store.ask, Store.about, Arena.fetch, found,
        Except.map, a]
    · exact follows.unique sound.depthFirst pre id List.mem_cons_self
    · exact congrArg List.tail (reachable_congr same id)
  · rw [subtree_eq_cons, List.head?_cons]

/-- Below the root there are the pump, its valve and the bench, in this order; the link of the bench
to the valve is not followed. -/
theorem descendants_exact_moored :
    Session.moored.Reachable .standard ∧
      Session.moored.tree.perform (.ask (.descendants .root)) =
        Session.moored.tree.yield (.ok (.nodes [⟨1⟩, ⟨2⟩, ⟨3⟩])) ∧
      Session.moored.tree.store.arena.LinksTo ⟨3⟩ ⟨2⟩ ∧
      Session.moored.tree.perform (.ask (.descendants ⟨3⟩)) =
        Session.moored.tree.yield (.ok (.nodes [])) := by
  have reached : Session.moored.Reachable .standard :=
    ((((Session.Reachable.fresh rfl).next _).next _).next _).next _
  have link : Session.moored.tree.store.arena.LinksTo ⟨3⟩ ⟨2⟩ := of_decide_eq_true (by cbv)
  have below : Session.moored.tree.store.arena.descendants .root = [⟨1⟩, ⟨2⟩, ⟨3⟩] := by cbv
  have nothing : Session.moored.tree.store.arena.descendants ⟨3⟩ = [] := by cbv
  obtain ⟨top, found, -⟩ := (Store.upright_of_reachable reached).sound.addressed.root
  have bench : (Session.moored.tree.store.arena.get? ⟨3⟩).isSome = true := by cbv
  obtain ⟨n, found'⟩ := Option.isSome_iff_exists.mp bench
  obtain ⟨answered, -⟩ := descendants_exact.1 .standard Session.moored reached .root top found
  obtain ⟨answered', -⟩ := descendants_exact.1 .standard Session.moored reached ⟨3⟩ n found'
  rw [below] at answered
  rw [nothing] at answered'
  exact ⟨reached, answered, link, answered'⟩

end DeviceTree
