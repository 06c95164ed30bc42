/-
A search finds exactly what can be reached.

`Arena.Step next` is the relation along which a search goes; `Leads` and `Owns` are the relations of
all forward references and of child edges.

* `mem_reachable_iff` -- a search finds the nodes to which some path leads, on every arena;
* `nodup_reachable` -- and each of them once;
* `reachable_congr` -- it depends on nothing but where the nodes lead;
* `leadsTo_iff`, `mem_subtree_iff` -- the two searches of a tree;
* `leadsTo_exact` -- the search for one node, along references.
-/
import DeviceTree.Arena.Search
import Mathlib.Logic.Relation

namespace DeviceTree.Arena

open Relation

/-- There is a node at `x`. -/
def Live (a : Arena) (x : NodeId) : Prop :=
  ∃ n, a.get? x = some n

/-- The node at `x` is there and leads to `y`. -/
def Step (a : Arena) (next : Node → List NodeId) (x y : NodeId) : Prop :=
  ∃ node, a.get? x = some node ∧ y ∈ next node

/-- Some forward reference, child edge or link, of the node at `x` leads to `y`. -/
def Leads (a : Arena) : NodeId → NodeId → Prop :=
  a.Step Node.targets

/-- Some child edge of the node at `x` leads to `y`. -/
def Owns (a : Arena) : NodeId → NodeId → Prop :=
  a.Step Node.childIds

theorem Owns.leads {a : Arena} {x y : NodeId} (h : a.Owns x y) : a.Leads x y := by
  obtain ⟨node, found, mem⟩ := h
  refine ⟨node, found, ?_⟩
  simp only [Node.childIds, Node.children, List.mem_map, List.mem_filter] at mem
  obtain ⟨r, ⟨inside, -⟩, rfl⟩ := mem
  exact List.mem_map_of_mem inside

section

variable {a : Arena} {next : Node → List NodeId}

/-- What is found can be reached from the stack. -/
theorem reach_of_mem_explore {x : NodeId} {stack : List NodeId} {seen : NodeSet a.slots.size}
    (h : x ∈ a.explore next stack seen) : ∃ y ∈ stack, ReflTransGen (a.Step next) y x := by
  fun_induction explore a next stack seen with
  | case1 => simp at h
  | case2 seen id rest visited ih =>
    obtain ⟨y, mem, path⟩ := ih h
    exact ⟨y, List.mem_cons_of_mem _ mem, path⟩
  | case3 seen id rest visited missing ih =>
    rcases List.mem_cons.mp h with rfl | h
    · exact ⟨x, List.mem_cons_self, .refl⟩
    · obtain ⟨y, mem, path⟩ := ih h
      exact ⟨y, List.mem_cons_of_mem _ mem, path⟩
  | case4 seen id rest visited node found ih =>
    rcases List.mem_cons.mp h with rfl | h
    · exact ⟨x, List.mem_cons_self, .refl⟩
    · obtain ⟨y, mem, path⟩ := ih h
      rcases List.mem_append.mp mem with mem | mem
      · exact ⟨id, List.mem_cons_self, .head ⟨node, found, mem⟩ path⟩
      · exact ⟨y, List.mem_cons_of_mem _ mem, path⟩

/-- A node that is marked when it is found counts as found. -/
theorem seen_or_found {id y : NodeId} {found : List NodeId} {n : Nat} {seen : NodeSet n}
    (h : (seen.insert id).contains y = true ∨ y ∈ found) :
    seen.contains y = true ∨ y ∈ id :: found := by
  rcases h with h | h
  · simp only [NodeSet.contains_insert, Bool.or_eq_true, decide_eq_true_eq] at h
    rcases h with rfl | h
    · exact .inr List.mem_cons_self
    · exact .inl h
  · exact .inr (List.mem_cons_of_mem _ h)

/-- What stands on the stack was seen before or is found. -/
theorem mem_explore_of_mem_stack {x : NodeId} {stack : List NodeId}
    {seen : NodeSet a.slots.size} (h : x ∈ stack) :
    seen.contains x = true ∨ x ∈ a.explore next stack seen := by
  fun_induction explore a next stack seen with
  | case1 => simp at h
  | case2 seen id rest visited ih =>
    rcases List.mem_cons.mp h with rfl | h
    · exact .inl visited
    · exact ih h
  | case3 seen id rest visited missing ih =>
    rcases List.mem_cons.mp h with rfl | h
    · exact .inr List.mem_cons_self
    · exact seen_or_found (ih h)
  | case4 seen id rest visited node found ih =>
    rcases List.mem_cons.mp h with rfl | h
    · exact .inr List.mem_cons_self
    · exact seen_or_found (ih (List.mem_append_right _ h))

/-- What is found leads only to what was seen before or is found. -/
theorem explore_closed {x y : NodeId} {stack : List NodeId} {seen : NodeSet a.slots.size}
    (h : x ∈ a.explore next stack seen) (step : a.Step next x y) :
    seen.contains y = true ∨ y ∈ a.explore next stack seen := by
  fun_induction explore a next stack seen with
  | case1 => simp at h
  | case2 seen id rest visited ih => exact ih h
  | case3 seen id rest visited missing ih =>
    rcases List.mem_cons.mp h with rfl | h
    · -- an empty place leads nowhere
      obtain ⟨node, found, -⟩ := step
      simp [missing] at found
    · exact seen_or_found (ih h)
  | case4 seen id rest visited node found ih =>
    refine seen_or_found ?_
    rcases List.mem_cons.mp h with rfl | h
    · obtain ⟨node', found', mem⟩ := step
      rw [found, Option.some.injEq] at found'
      subst found'
      exact mem_explore_of_mem_stack (List.mem_append_left _ mem)
    · exact ih h

theorem not_seen_of_mem_explore {x : NodeId} {stack : List NodeId} {seen : NodeSet a.slots.size}
    (h : x ∈ a.explore next stack seen) : seen.contains x = false := by
  fun_induction explore a next stack seen with
  | case1 => simp at h
  | case2 seen id rest visited ih => exact ih h
  | case3 seen id rest visited missing ih =>
    rcases List.mem_cons.mp h with rfl | h
    · simpa using visited
    · have := ih h
      simp only [NodeSet.contains_insert, Bool.or_eq_false_iff] at this
      exact this.2
  | case4 seen id rest visited node found ih =>
    rcases List.mem_cons.mp h with rfl | h
    · simpa using visited
    · have := ih h
      simp only [NodeSet.contains_insert, Bool.or_eq_false_iff] at this
      exact this.2

theorem nodup_explore {stack : List NodeId} {seen : NodeSet a.slots.size} :
    (a.explore next stack seen).Nodup := by
  fun_induction explore a next stack seen with
  | case1 => exact List.nodup_nil
  | case2 seen id rest visited ih => exact ih
  | case3 seen id rest visited missing ih =>
    refine List.nodup_cons.mpr ⟨fun mem => ?_, ih⟩
    have := not_seen_of_mem_explore mem
    simp [NodeSet.contains_insert] at this
  | case4 seen id rest visited node found ih =>
    refine List.nodup_cons.mpr ⟨fun mem => ?_, ih⟩
    have := not_seen_of_mem_explore mem
    simp [NodeSet.contains_insert] at this

theorem mem_reachable_iff {start x : NodeId} :
    x ∈ a.reachable next start ↔ ReflTransGen (a.Step next) start x := by
  constructor
  · intro h
    obtain ⟨y, mem, path⟩ := reach_of_mem_explore h
    rw [List.mem_singleton] at mem
    exact mem ▸ path
  · intro path
    -- the start is found, and then whatever a node that is found leads to
    induction path with
    | refl =>
      have found : (NodeSet.empty a.slots.size).contains start = true ∨
          start ∈ a.reachable next start :=
        mem_explore_of_mem_stack (List.mem_singleton_self start)
      rcases found with g | g
      · simp at g
      · exact g
    | tail _ step ih =>
      rcases explore_closed ih step with g | g
      · simp at g
      · exact g

theorem nodup_reachable (start : NodeId) : (a.reachable next start).Nodup :=
  nodup_explore

theorem mem_subtree_iff {start x : NodeId} :
    x ∈ a.subtree start ↔ ReflTransGen a.Owns start x :=
  mem_reachable_iff

/-! ### Two arenas that lead the same way -/

section

variable {b : Arena} {next' : Node → List NodeId}
  (same : ∀ id, (b.get? id).map next' = (a.get? id).map next)
include same

theorem step_congr : b.Step next' = a.Step next := by
  funext x y
  have seen : ∀ (c : Arena) (f : Node → List NodeId),
      c.Step f x y ↔ ∃ ids, (c.get? x).map f = some ids ∧ y ∈ ids := by
    intro c f
    simp only [Step, Option.map_eq_some_iff]
    constructor
    · rintro ⟨n, found, mem⟩
      exact ⟨f n, ⟨n, found, rfl⟩, mem⟩
    · rintro ⟨_, ⟨n, found, rfl⟩, mem⟩
      exact ⟨n, found, mem⟩
  rw [eq_iff_iff, seen, seen, same]

theorem explore_congr (stack : List NodeId) (seen : NodeSet a.slots.size) :
    ∀ seen' : NodeSet b.slots.size, (∀ id, seen'.contains id = seen.contains id) →
      b.explore next' stack seen' = a.explore next stack seen := by
  have insert : ∀ {id : NodeId} {seen : NodeSet a.slots.size} {seen' : NodeSet b.slots.size},
      (∀ id, seen'.contains id = seen.contains id) →
        ∀ other, (seen'.insert id).contains other = (seen.insert id).contains other := by
    intro id seen seen' agree other
    rw [NodeSet.contains_insert, NodeSet.contains_insert, agree]
  -- the two searches keep sets of different types, which agree on every place
  fun_induction explore a next stack seen with
  | case1 =>
    intro seen' _
    rw [explore]
  | case2 seen id rest visited ih =>
    intro seen' agree
    rw [explore, dif_pos ((agree id).trans visited)]
    exact ih seen' agree
  | case3 seen id rest visited missing ih =>
    intro seen' agree
    have missing' : b.get? id = none := by simpa [missing] using same id
    rw [explore, dif_neg (by rw [agree]; exact visited)]
    split
    · exact congrArg (id :: ·) (ih _ (insert agree))
    · next n found =>
      rw [missing'] at found
      cases found
  | case4 seen id rest visited n found ih =>
    intro seen' agree
    obtain ⟨m, found', leads⟩ : ∃ m, b.get? id = some m ∧ next' m = next n := by
      simpa [found] using same id
    rw [explore, dif_neg (by rw [agree]; exact visited)]
    split
    · next missing =>
      rw [found'] at missing
      cases missing
    · next m' found'' =>
      obtain rfl := Option.some.inj (found''.symm.trans found')
      rw [leads]
      exact congrArg (id :: ·) (ih _ (insert agree))

/-- **A search depends on nothing but where the nodes lead.** -/
theorem reachable_congr (start : NodeId) : b.reachable next' start = a.reachable next start := by
  refine explore_congr same [start] (.empty _) (.empty _) fun id => ?_
  rw [NodeSet.contains_empty, NodeSet.contains_empty]

end

/-! ### Looking for one node -/

variable {goal x y : NodeId} {stack : List NodeId} {seen : NodeSet a.slots.size}

/-- How far a search for `goal` has come: it has not come upon it yet, and what was seen leads only
to what was seen or stands on the stack. -/
structure Seeking (a : Arena) (goal : NodeId) (stack : List NodeId)
    (seen : NodeSet a.slots.size) : Prop where
  ahead : seen.contains goal = false
  closed : ∀ {x y}, seen.contains x = true → a.Leads x y → seen.contains y = true ∨ y ∈ stack

/-- A path to the goal that starts at what was seen goes over the stack. -/
theorem Seeking.crosses (h : Seeking a goal stack seen) (marked : seen.contains x = true)
    (path : ReflTransGen a.Leads x goal) : ∃ y ∈ stack, ReflTransGen a.Leads y goal := by
  induction path using ReflTransGen.head_induction_on with
  | refl => simp [h.ahead] at marked
  | head step path ih =>
    rcases h.closed marked step with marked | mem
    · exact ih marked
    · exact ⟨_, mem, path⟩

/-- A node that was seen may be taken off the stack. -/
theorem Seeking.drop (h : Seeking a goal (x :: stack) seen) (marked : seen.contains x = true) :
    Seeking a goal stack seen where
  ahead := h.ahead
  closed {v w} mark step := by
    rcases h.closed mark step with mark | mem
    · exact .inl mark
    · rcases List.mem_cons.mp mem with rfl | mem
      · exact .inl marked
      · exact .inr mem

/-- A node that is not the goal is marked, and what it leads to goes on the stack, as far as it was
not seen. -/
theorem Seeking.visit (new : List NodeId) (h : Seeking a goal (x :: stack) seen)
    (differ : x ≠ goal)
    (pushed : ∀ y, a.Leads x y → (seen.insert x).contains y = true ∨ y ∈ new) :
    Seeking a goal (new ++ stack) (seen.insert x) where
  ahead := by
    rw [NodeSet.contains_insert, h.ahead, Bool.or_false]
    exact decide_eq_false differ.symm
  closed {v w} mark step := by
    rw [NodeSet.contains_insert, Bool.or_eq_true, decide_eq_true_eq] at mark
    rw [List.mem_append]
    rcases mark with rfl | mark
    · exact (pushed w step).imp_right .inl
    · rw [NodeSet.contains_insert, Bool.or_eq_true, decide_eq_true_eq]
      rcases h.closed mark step with mark | mem
      · exact .inl (.inr mark)
      · rcases List.mem_cons.mp mem with rfl | mem
        · exact .inl (.inl rfl)
        · exact .inr (.inr mem)

/-- Once the top of the stack was dealt with, the goal can be reached from the stack if and only if
it could before. -/
theorem Seeking.reaches_iff (new : List NodeId) (h : Seeking a goal (new ++ stack) seen)
    (marked : seen.contains x = true) (pushed : ∀ y ∈ new, a.Leads x y) :
    (∃ y ∈ new ++ stack, ReflTransGen a.Leads y goal) ↔
      ∃ y ∈ x :: stack, ReflTransGen a.Leads y goal := by
  constructor
  · rintro ⟨y, mem, path⟩
    rcases List.mem_append.mp mem with mem | mem
    · exact ⟨x, List.mem_cons_self, .head (pushed y mem) path⟩
    · exact ⟨y, List.mem_cons_of_mem _ mem, path⟩
  · rintro ⟨y, mem, path⟩
    rcases List.mem_cons.mp mem with rfl | mem
    · exact h.crosses marked path
    · exact ⟨y, List.mem_append_right _ mem, path⟩

/-- **A search comes upon the goal if and only if a path leads there from the stack.** -/
theorem seek_iff (h : Seeking a goal stack seen) :
    a.seek goal stack seen = true ↔ ∃ y ∈ stack, ReflTransGen a.Leads y goal := by
  have marked : ∀ (seen : NodeSet a.slots.size) x, (seen.insert x).contains x = true := by
    intro seen x
    rw [NodeSet.contains_insert, decide_eq_true rfl, Bool.true_or]
  fun_induction seek a goal stack seen with
  | case1 => simp
  | case2 => exact iff_of_true rfl ⟨goal, List.mem_cons_self, .refl⟩
  | case3 seen id rest differ visited ih =>
    have next := h.drop visited
    exact (ih next).trans (next.reaches_iff [] visited (by simp))
  | case4 seen id rest differ visited missing ih =>
    -- an empty place leads nowhere
    have next := h.visit [] differ fun y ⟨n, found, _⟩ => by simp [missing] at found
    exact (ih next).trans (next.reaches_iff [] (marked seen id) (by simp))
  | case5 seen id rest differ visited n found new ih =>
    have next := h.visit new.reverse differ fun y ⟨m, found', mem⟩ => by
      obtain rfl := Option.some.inj (found.symm.trans found')
      by_cases mark : (seen.insert id).contains y = true
      · exact .inl mark
      · exact .inr (List.mem_reverse.mpr (List.mem_filter.mpr ⟨mem, by simpa using mark⟩))
    refine (ih next).trans (next.reaches_iff new.reverse (marked seen id) fun y mem => ?_)
    exact ⟨n, found, (List.mem_filter.mp (List.mem_reverse.mp mem)).1⟩

theorem leadsTo_iff {start goal : NodeId} :
    a.leadsTo start goal = true ↔ ReflTransGen a.Leads start goal := by
  have begun : Seeking a goal [start] (.empty _) :=
    ⟨NodeSet.contains_empty goal, fun mark => by simp at mark⟩
  rw [leadsTo, seek_iff begun]
  simp only [List.mem_singleton, exists_eq_left]

theorem leadsTo_congr {b : Arena}
    (same : ∀ id, (b.get? id).map Node.targets = (a.get? id).map Node.targets)
    (start goal : NodeId) : b.leadsTo start goal = a.leadsTo start goal := by
  have leads : b.Leads = a.Leads := step_congr same
  rw [Bool.eq_iff_iff, leadsTo_iff, leadsTo_iff, leads]

/-! ### Along references -/

/-- The references lead from one node to the other: the first is held by the node that the trail
starts at, and each of the others by the node that the one before leads to. -/
inductive Trail (a : Arena) : NodeId → List Reference → NodeId → Prop where
  | nil (x : NodeId) : Trail a x [] x
  | cons {x y : NodeId} {n : Node} {r : Reference} {rest : List Reference} :
      a.get? x = some n → r ∈ n.forward → Trail a r.target rest y → Trail a x (r :: rest) y

theorem Trail.path {trail : List Reference} (h : a.Trail x trail y) : ReflTransGen a.Leads x y := by
  induction h with
  | nil => exact .refl
  | cons found mem _ ih => exact .head ⟨_, found, List.mem_map_of_mem mem⟩ ih

theorem exists_trail (path : ReflTransGen a.Leads x y) : ∃ trail, a.Trail x trail y := by
  induction path using ReflTransGen.head_induction_on with
  | refl => exact ⟨[], .nil y⟩
  | head step _ ih =>
    obtain ⟨n, found, mem⟩ := step
    obtain ⟨r, held, rfl⟩ := List.mem_map.mp mem
    obtain ⟨trail, along⟩ := ih
    exact ⟨r :: trail, .cons found held along⟩

/-- **The search for one node is exact.**  On every arena, whatever its references say, and from
every place to every other, it ends, and finds the node if and only if it starts there or some
trail of references, child edges or links, leads there over nodes that are there. -/
theorem leadsTo_exact (a : Arena) (start goal : NodeId) :
    a.leadsTo start goal = true ↔
      goal = start ∨ ∃ trail, trail ≠ [] ∧ a.Trail start trail goal := by
  rw [leadsTo_iff]
  constructor
  · intro path
    obtain ⟨trail, along⟩ := exists_trail path
    cases along with
    | nil => exact .inl rfl
    | cons found mem rest => exact .inr ⟨_, List.cons_ne_nil _ _, .cons found mem rest⟩
  · rintro (rfl | ⟨trail, -, along⟩)
    · exact .refl
    · exact along.path

end

end DeviceTree.Arena
