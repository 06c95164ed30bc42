/-
The search for cycles finds one if there is one.

The search marks the nodes that it comes upon, and closes those that it leaves behind; the others
that are marked stand on the path.  As long as nothing was found, whatever a closed node leads to is
closed, too, and no closed node lies on a cycle (`Searching`).  On every arena, whatever its
references say:

* `searching_followPath` -- the path is followed to its end within the invariant;
* `cycleFindings_eq_nil_iff` -- nothing is found exactly when there is no cycle.
-/
import DeviceTree.Proofs.Sound
import DeviceTree.Verify.Cycle
import Mathlib.Data.List.Chain

namespace DeviceTree.Arena

open Relation

/-- The nodes of a path, the last one first. -/
abbrev Path := List (NodeId × List NodeId)

/-- What a node of the path leads to is still to be followed, is closed, or is the node after it on
the path. -/
def Owed (a : Arena) (closed : NodeId → Prop) : Option NodeId → Path → Prop
  | _, [] => True
  | after, (id, targets) :: above =>
    (∀ y n, a.Leads id y → a.get? y = some n → y ∈ targets ∨ closed y ∨ some y = after) ∧
      Owed a closed (some id) above

/-- No edge leads from a closed node to one that is not, and no closed node lies on a cycle. -/
structure Shut (a : Arena) (closed : NodeId → Prop) : Prop where
  out : ∀ {x y n}, closed x → a.Leads x y → a.get? y = some n → closed y
  acyclic : ∀ {x}, closed x → ¬TransGen a.Leads x x

/-- The node of the path is marked and not closed, and its targets are among those of its record. -/
def Standing (a : Arena) (search : CycleSearch a.slots.size)
    (place : NodeId × List NodeId) : Prop :=
  search.seen.contains place.1 = true ∧ search.closed.contains place.1 = false ∧
    ∃ n, a.get? place.1 = some n ∧ place.2 ⊆ n.targets

/-- The invariant of the search. -/
structure Searching (a : Arena) (path : Path) (search : CycleSearch a.slots.size) : Prop where
  marked : ∀ {id}, search.closed.contains id = true → search.seen.contains id = true
  open_ : ∀ {id}, search.seen.contains id = true →
    search.closed.contains id = true ∨ id ∈ path.map Prod.fst
  onPath : ∀ {place}, place ∈ path → Standing a search place
  nodup : (path.map Prod.fst).Nodup
  chain : (path.map Prod.fst).IsChain fun lower upper => a.Leads upper lower
  found : search.findings ≠ [] → ¬a.Acyclic
  owed : search.findings = [] → Owed a (fun id => search.closed.contains id = true) none path
  shut : search.findings = [] → Shut a fun id => search.closed.contains id = true

section

variable {a : Arena} {x y id : NodeId} {n : Node} {closed closed' : NodeId → Prop}

/-- A cycle stays among the nodes that its first node leads to. -/
theorem Shut.reach (shut : Shut a closed) (hx : closed x) (path : ReflTransGen a.Leads x y)
    (live : a.get? y = some n) : closed y := by
  induction path generalizing n with
  | refl => exact hx
  | tail _ step ih =>
    have ⟨m, found, _⟩ := step
    exact shut.out (ih found) step live

/-- A node may be closed once everything that it leads to is. -/
theorem Shut.close (shut : Shut a closed) (fresh : ¬closed id)
    (done : ∀ y n, a.Leads id y → a.get? y = some n → closed y) :
    Shut a fun x => x = id ∨ closed x where
  out {x y n} hx step live := by
    rcases hx with rfl | hx
    · exact .inr (done y n step live)
    · exact .inr (shut.out hx step live)
  acyclic {x} hx cycle := by
    rcases hx with rfl | hx
    · -- the cycle leaves `id` for a closed node, and `id` itself would be closed
      obtain ⟨y, first, path⟩ := TransGen.head'_iff.mp cycle
      have ⟨n, hn, _⟩ := first
      rcases path.cases_head with rfl | ⟨z, ⟨m, found, -⟩, -⟩
      · exact fresh (done _ n first hn)
      · exact fresh (shut.reach (done y m first found) path hn)
    · exact shut.acyclic hx cycle

theorem Owed.mono {after after' : Option NodeId} {path : Path} (owed : Owed a closed after path)
    (more : ∀ x, closed x → closed' x) (here : ∀ x, some x = after → closed' x ∨ some x = after') :
    Owed a closed' after' path := by
  induction path generalizing after after' with
  | nil => trivial
  | cons place above ih =>
    obtain ⟨first, rest⟩ := owed
    refine ⟨fun y n step live => ?_, ih rest fun x same => .inr same⟩
    rcases first y n step live with pending | shut | same
    · exact .inl pending
    · exact .inr (.inl (more y shut))
    · exact .inr (here y same)

/-- From a node of the path there is a way to the last node of it. -/
theorem reach_of_chain {path : List NodeId}
    (chain : (id :: path).IsChain fun lower upper => a.Leads upper lower) (mem : x ∈ id :: path) :
    ReflTransGen a.Leads x id := by
  induction path generalizing id with
  | nil => exact List.mem_singleton.mp mem ▸ .refl
  | cons next path ih =>
    rw [List.isChain_cons_cons] at chain
    rcases List.mem_cons.mp mem with rfl | mem
    · exact .refl
    · exact (ih chain.2 mem).tail chain.1

/-! ### The steps of the search -/

variable {above : Path} {search : CycleSearch a.slots.size} {targets : List NodeId}
  {target : NodeId}

/-- The last node of the path is left behind: it is closed. -/
theorem Searching.leave (s : Searching a ((id, []) :: above) search) :
    Searching a above { search with closed := search.closed.insert id } where
  marked {x} hx := by
    rw [NodeSet.contains_insert, Bool.or_eq_true, decide_eq_true_eq] at hx
    rcases hx with rfl | hx
    · exact (s.onPath List.mem_cons_self).1
    · exact s.marked hx
  open_ {x} hx := by
    rw [NodeSet.contains_insert, Bool.or_eq_true, decide_eq_true_eq]
    rcases s.open_ hx with closed | mem
    · exact .inl (.inr closed)
    · rcases List.mem_cons.mp mem with rfl | mem
      · exact .inl (.inl rfl)
      · exact .inr mem
  onPath {place} mem := by
    obtain ⟨seen, fresh, rest⟩ := s.onPath (List.mem_cons_of_mem _ mem)
    have differ : place.1 ≠ id := by
      intro same
      have inside : place.1 ∈ above.map Prod.fst := List.mem_map_of_mem mem
      exact (List.nodup_cons.mp s.nodup).1 (same ▸ inside)
    exact ⟨seen, by simp [NodeSet.contains_insert, differ, fresh], rest⟩
  nodup := (List.nodup_cons.mp s.nodup).2
  chain := s.chain.tail
  found := s.found
  owed none := by
    obtain ⟨-, rest⟩ := s.owed none
    refine rest.mono (fun x hx => ?_) fun x same => .inl ?_
    · simp [NodeSet.contains_insert, hx]
    · simp [NodeSet.contains_insert, Option.some.inj same]
  shut none := by
    obtain ⟨here, -⟩ := s.owed none
    have fresh : ¬search.closed.contains id = true := by
      simp [(s.onPath List.mem_cons_self).2.1]
    have closed := (s.shut none).close fresh fun y n step live => by
      simpa using here y n step live
    simpa [NodeSet.contains_insert] using closed

/-- The path stays where it is when a target has been looked at. -/
theorem Searching.onRest (s : Searching a ((id, target :: targets) :: above) search)
    {place : NodeId × List NodeId} (mem : place ∈ (id, targets) :: above) :
    Standing a search place := by
  rcases List.mem_cons.mp mem with rfl | mem
  · obtain ⟨seen, fresh, n, found, sub⟩ := s.onPath List.mem_cons_self
    exact ⟨seen, fresh, n, found, fun y hy => sub (List.mem_cons_of_mem _ hy)⟩
  · exact s.onPath (List.mem_cons_of_mem _ mem)

/-- A target that is no node, or that is closed already, is passed over. -/
theorem Searching.skip (s : Searching a ((id, target :: targets) :: above) search)
    (settled : search.closed.contains target = true ∨ a.get? target = none) :
    Searching a ((id, targets) :: above) search where
  marked := s.marked
  open_ := s.open_
  onPath := s.onRest
  nodup := s.nodup
  chain := s.chain
  found := s.found
  owed none := by
    obtain ⟨here, rest⟩ := s.owed none
    refine ⟨fun y n step live => ?_, rest⟩
    rcases here y n step live with pending | done
    · rcases List.mem_cons.mp pending with rfl | pending
      · rcases settled with closed | missing
        · exact .inr (.inl closed)
        · simp [missing] at live
      · exact .inl pending
    · exact .inr done
  shut := s.shut

/-- A target on the path closes a cycle. -/
theorem Searching.report (s : Searching a ((id, target :: targets) :: above) search)
    (seen : search.seen.contains target = true)
    (notClosed : search.closed.contains target = false) :
    Searching a ((id, targets) :: above)
      { search with findings := search.findings ++ [⟨id, .cycleThrough target⟩] } where
  marked := s.marked
  open_ := s.open_
  onPath := s.onRest
  nodup := s.nodup
  chain := s.chain
  found _ acyclic := by
    obtain ⟨-, -, n, found, sub⟩ := s.onPath List.mem_cons_self
    have step : a.Leads id target := ⟨n, found, sub List.mem_cons_self⟩
    -- marked and not closed, the target stands on the path, and the path leads on to `id`
    rcases s.open_ seen with closed | mem
    · simp [notClosed] at closed
    · exact acyclic target (TransGen.tail' (reach_of_chain s.chain mem) step)
  owed none := by simp at none
  shut none := by simp at none

/-- A target that was not come upon before is the next node of the path. -/
theorem Searching.enter (s : Searching a ((id, target :: targets) :: above) search)
    (live : a.get? target = some n) (unseen : search.seen.contains target = false) :
    Searching a ((target, n.targets) :: (id, targets) :: above)
      { search with seen := search.seen.insert target } := by
  have fresh : search.closed.contains target = false := by
    cases closed : search.closed.contains target with
    | false => rfl
    | true => simp [s.marked closed] at unseen
  have apart : target ∉ ((id, targets) :: above).map Prod.fst := by
    intro mem
    obtain ⟨place, inside, rfl⟩ := List.mem_map.mp mem
    simp [(s.onRest inside).1] at unseen
  constructor
  · intro x hx
    simp [NodeSet.contains_insert, s.marked hx]
  · intro x hx
    rw [NodeSet.contains_insert, Bool.or_eq_true, decide_eq_true_eq] at hx
    rcases hx with rfl | hx
    · exact .inr List.mem_cons_self
    · exact (s.open_ hx).imp_right fun mem => List.mem_cons_of_mem _ mem
  · intro place mem
    rcases List.mem_cons.mp mem with rfl | mem
    · exact ⟨by simp [NodeSet.contains_insert], fresh, n, live, fun _ h => h⟩
    · obtain ⟨seen, rest⟩ := s.onRest mem
      exact ⟨by simp [NodeSet.contains_insert, seen], rest⟩
  · exact List.nodup_cons.mpr ⟨apart, s.nodup⟩
  · refine .cons_cons ?_ s.chain
    obtain ⟨-, -, m, found, sub⟩ := s.onPath List.mem_cons_self
    exact ⟨m, found, sub List.mem_cons_self⟩
  · exact s.found
  · -- the new node owes all of its targets; the one above it owes this target no longer
    intro none
    obtain ⟨here, rest⟩ := s.owed none
    refine ⟨fun y m step _ => ?_, fun y m step there => ?_, rest⟩
    · obtain ⟨k, found, mem⟩ := step
      obtain rfl : n = k := Option.some.inj (live.symm.trans found)
      exact .inl mem
    · rcases here y m step there with pending | closed | same
      · rcases List.mem_cons.mp pending with rfl | pending
        · exact .inr (.inr rfl)
        · exact .inl pending
      · exact .inr (.inl closed)
      · simp at same
  · exact s.shut

theorem searching_followPath (path : Path) (search : CycleSearch a.slots.size)
    (s : Searching a path search) : Searching a [] (a.followPath path search) := by
  fun_induction followPath a path search with
  | case1 search => exact s
  | case2 search id above ih => exact ih s.leave
  | case3 search id target targets above missing ih => exact ih (s.skip (.inr missing))
  | case4 search id target targets above node found seen findings ih =>
    refine ih ?_
    cases closed : search.closed.contains target with
    | true => simpa [findings, closed] using s.skip (.inl closed)
    | false => simpa [findings, closed] using s.report seen closed
  | case5 search id target targets above node found unseen ih =>
    exact ih (s.enter found (by simpa using unseen))

theorem seen_followPath (path : Path) (search : CycleSearch a.slots.size)
    (seen : search.seen.contains x = true) :
    (a.followPath path search).seen.contains x = true := by
  fun_induction followPath a path search with
  | case1 search => exact seen
  | case2 search id above ih => exact ih seen
  | case3 search id target targets above missing ih => exact ih seen
  | case4 search id target targets above node found marked findings ih => exact ih seen
  | case5 search id target targets above node found unseen ih =>
    exact ih (by simp [NodeSet.contains_insert, seen])

/-! ### The whole search -/

/-- The search may start anew at a node that was not come upon before. -/
theorem Searching.start (s : Searching a [] search) (live : a.get? id = some n)
    (unseen : search.seen.contains id = false) :
    Searching a [(id, n.targets)] { search with seen := search.seen.insert id } where
  marked hx := by simp [NodeSet.contains_insert, s.marked hx]
  open_ hx := by
    rw [NodeSet.contains_insert, Bool.or_eq_true, decide_eq_true_eq] at hx
    rcases hx with rfl | hx
    · exact .inr List.mem_cons_self
    · rcases s.open_ hx with closed | mem
      · exact .inl closed
      · simp at mem
  onPath mem := by
    obtain rfl := List.mem_singleton.mp mem
    refine ⟨by simp [NodeSet.contains_insert], ?_, n, live, fun _ h => h⟩
    cases closed : search.closed.contains id with
    | false => rfl
    | true => simp [s.marked closed] at unseen
  nodup := List.nodup_singleton _
  chain := .singleton _
  found := s.found
  owed _ := by
    refine ⟨fun y m step _ => .inl ?_, trivial⟩
    obtain ⟨k, found, mem⟩ := step
    obtain rfl : n = k := Option.some.inj (live.symm.trans found)
    exact mem
  shut := s.shut

theorem searching_searchFrom (s : Searching a [] search) (live : a.get? id = some n) :
    Searching a [] (a.searchFrom search id) := by
  unfold searchFrom
  split
  · exact s
  · next unseen =>
    rw [live, Option.elim_some]
    exact searching_followPath _ _ (s.start live (by simpa using unseen))

theorem seen_searchFrom (seen : search.seen.contains x = true ∨ x = id) :
    (a.searchFrom search id).seen.contains x = true := by
  unfold searchFrom
  split
  · next marked =>
    rcases seen with seen | rfl
    · exact seen
    · exact marked
  · refine seen_followPath _ _ ?_
    rcases seen with seen | rfl
    · simp [NodeSet.contains_insert, seen]
    · simp [NodeSet.contains_insert]

/-- All of the given nodes are come upon. -/
theorem searching_foldl (ids : List NodeId) (live : ∀ id ∈ ids, ∃ n, a.get? id = some n)
    (s : Searching a [] search) :
    Searching a [] (ids.foldl a.searchFrom search) ∧
      ∀ x, search.seen.contains x = true ∨ x ∈ ids →
        (ids.foldl a.searchFrom search).seen.contains x = true := by
  induction ids generalizing search with
  | nil => exact ⟨s, fun x hx => by simpa using hx⟩
  | cons id ids ih =>
    obtain ⟨n, found⟩ := live id List.mem_cons_self
    have first := searching_searchFrom s found
    obtain ⟨rest, seen⟩ := ih (fun id mem => live id (List.mem_cons_of_mem _ mem)) first
    refine ⟨rest, fun x hx => seen x ?_⟩
    rcases hx with marked | mem
    · exact .inl (seen_searchFrom (.inl marked))
    · rcases List.mem_cons.mp mem with rfl | mem
      · exact .inl (seen_searchFrom (.inr rfl))
      · exact .inr mem

theorem mem_liveIds_iff : id ∈ a.liveIds ↔ ∃ n, a.get? id = some n := by
  simp only [liveIds, List.mem_filter, List.mem_map, List.mem_range, contains,
    Option.isSome_iff_exists]
  constructor
  · exact And.right
  · rintro ⟨n, found⟩
    exact ⟨⟨id.index, index_lt_of_get? found, rfl⟩, n, found⟩

theorem nodup_liveIds (a : Arena) : a.liveIds.Nodup :=
  (List.nodup_range.map fun _ _ same => NodeId.mk.inj same).filter _

/-- There are as many of them as the arena has nodes. -/
theorem length_liveIds (a : Arena) : a.liveIds.length = a.size := by
  have places : a.slots.toList.map (fun slot => slot.node?.isSome) =
      (List.range a.slots.size).map fun i => a.contains ⟨i⟩ := by
    refine List.ext_getElem (by simp) fun i h h' => ?_
    simp [contains, get?, show i < a.slots.size by simpa using h]
  rw [liveIds, ← List.countP_eq_length_filter, List.countP_map, size, ← Array.countP_toList]
  have count := congrArg (List.countP id) places
  rw [List.countP_map, List.countP_map] at count
  exact count.symm

theorem searching_fresh (a : Arena) :
    Searching a [] ⟨.empty a.slots.size, .empty a.slots.size, []⟩ where
  marked h := by simp at h
  open_ h := by simp at h
  onPath mem := by simp at mem
  nodup := List.nodup_nil
  chain := .nil
  found none := absurd rfl none
  owed _ := trivial
  shut _ := ⟨fun h => by simp at h, fun h => by simp at h⟩

/-- **The search finds nothing exactly when there is no cycle.** -/
theorem cycleFindings_eq_nil_iff (a : Arena) : a.cycleFindings = [] ↔ a.Acyclic := by
  obtain ⟨done, seen⟩ := searching_foldl a.liveIds (fun _ => mem_liveIds_iff.mp) (searching_fresh a)
  constructor
  · intro none x cycle
    -- a node of a cycle is live, hence marked, and by the end closed
    obtain ⟨y, ⟨n, found, -⟩, -⟩ := TransGen.head'_iff.mp cycle
    have marked := seen x (.inr (mem_liveIds_iff.mpr ⟨n, found⟩))
    rcases done.open_ marked with closed | mem
    · exact (done.shut none).acyclic closed cycle
    · simp at mem
  · intro acyclic
    by_contra found
    exact done.found found acyclic

end

end DeviceTree.Arena
