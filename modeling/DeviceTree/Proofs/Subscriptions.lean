/-
Who is subscribed where.

Every subscription stands at one node, is counted once, and has an observer; at each node they stand
in the order in which they were made.  A tree keeps this through everything that happens to it
(`Tree.Enrolled`), so that the number that it keeps of its subscriptions can be relied on.

* `Arena.subscriptions` -- all subscriptions, node by node;
* `enrolled_of_reachable` -- the invariant;
* `Effects.observersAt` -- no effect of a request moves an observer or brings one in.
-/
import DeviceTree.Proofs.Acts
import DeviceTree.Proofs.Quiet
import DeviceTree.Proofs.Rows

namespace DeviceTree

namespace Arena

variable {a b : Arena} {id : NodeId} {n : Node}

/-- The subscriptions at a place. -/
def observersAt (a : Arena) (id : NodeId) : List SubscriptionId :=
  (a.get? id).elim [] Node.observers

theorem observersAt_of_get? (found : a.get? id = some n) : a.observersAt id = n.observers := by
  rw [observersAt, found, Option.elim_some]

/-- All subscriptions, node by node. -/
def subscriptions (a : Arena) : List SubscriptionId :=
  ((List.range a.slots.size).map NodeId.mk).flatMap a.observersAt

/-- Both arenas have the same places, with the same observers at each. -/
structure SameObservers (a b : Arena) : Prop where
  size : b.slots.size = a.slots.size
  same : ∀ id, b.observersAt id = a.observersAt id

theorem SameObservers.refl (a : Arena) : SameObservers a a :=
  ⟨rfl, fun _ => rfl⟩

theorem SameObservers.subscriptions (h : SameObservers a b) :
    b.subscriptions = a.subscriptions := by
  rw [Arena.subscriptions, Arena.subscriptions, h.size, funext h.same]

theorem observersAt_modify (a : Arena) (id other : NodeId) (f : Node → Node) :
    (a.modify id f).observersAt other =
      if id = other then (a.get? other).elim [] fun n => (f n).observers
      else a.observersAt other := by
  rw [observersAt, get?_modify]
  split
  · cases a.get? other <;> rfl
  · rfl

/-- Rows in which the nodes show their observers tell all about them. -/
theorem sameObservers_of_row (same : b.row Node.observers = a.row Node.observers) :
    SameObservers a b where
  size := size_of_row same
  same id := by
    have seen : ∀ c : Arena,
        c.observersAt id = ((c.row Node.observers)[id.index]?.join).getD [] := by
      intro c
      rw [join_row, observersAt]
      cases c.get? id <;> rfl
    rw [seen, seen, same]

theorem sameObservers_attach (a : Arena) (parent child : NodeId) (name : Identifier) :
    SameObservers a (a.attach parent child name) :=
  sameObservers_of_row (row_attach Node.unwired_observers a parent child name)

theorem sameObservers_detach (a : Arena) (parent child : NodeId) :
    SameObservers a (a.detach parent child) :=
  sameObservers_of_row (row_detach Node.unwired_observers a parent child)

theorem sameObservers_link (a : Arena) (source target : NodeId) (name : Identifier) :
    SameObservers a (a.link source target name) :=
  sameObservers_of_row (row_link Node.unwired_observers a source target name)

theorem sameObservers_unlink (a : Arena) (source target : NodeId) :
    SameObservers a (a.unlink source target) :=
  sameObservers_of_row (row_unlink Node.unwired_observers a source target)

/-- A new node has no observers. -/
theorem observersAt_push (a : Arena) (name : Identifier) (kind : ElementKind)
    (attachment : Option String) (address : String) (id : NodeId) :
    (a.push (.fresh name kind attachment address)).observersAt id = a.observersAt id := by
  rw [observersAt, observersAt, get?_push]
  split
  · next here => rw [here, get?_nextId]; rfl
  · rfl

theorem subscriptions_push (a : Arena) (name : Identifier) (kind : ElementKind)
    (attachment : Option String) (address : String) :
    (a.push (.fresh name kind attachment address)).subscriptions = a.subscriptions := by
  have last : a.observersAt ⟨a.slots.size⟩ = [] := by
    rw [observersAt, show a.get? ⟨a.slots.size⟩ = none from get?_nextId a]
    rfl
  rw [subscriptions, funext (observersAt_push a name kind attachment address), push,
    Array.size_push, List.range_succ, List.map_append, List.flatMap_append]
  simp [subscriptions, last]

/-- The subscriptions before, at and after a place.  Those before and after stay the same as long as
nothing happens but at the place. -/
theorem subscriptions_split (found : a.get? id = some n) : ∃ before after,
    a.subscriptions = before ++ n.observers ++ after ∧
    ∀ b : Arena, b.slots.size = a.slots.size →
      (∀ other, id ≠ other → b.observersAt other = a.observersAt other) →
      b.subscriptions = before ++ b.observersAt id ++ after := by
  have inside : id ∈ (List.range a.slots.size).map NodeId.mk :=
    List.mem_map.mpr ⟨id.index, List.mem_range.mpr (index_lt_of_get? found), rfl⟩
  have nodup : ((List.range a.slots.size).map NodeId.mk).Nodup :=
    List.nodup_range.map fun _ _ same => NodeId.mk.inj same
  obtain ⟨first, rest, places⟩ := List.append_of_mem inside
  rw [places] at nodup
  have other : ∀ {b : Arena}, (∀ other, id ≠ other → b.observersAt other = a.observersAt other) →
      ∀ ids : List NodeId, id ∉ ids → ids.flatMap b.observersAt = ids.flatMap a.observersAt := by
    intro b same ids apart
    refine List.flatMap_congr fun other mem => same other ?_
    rintro rfl
    exact apart mem
  obtain ⟨-, -, apart⟩ := List.nodup_append.mp nodup
  have first' : id ∉ first := fun mem => apart id mem id List.mem_cons_self rfl
  have rest' : id ∉ rest := (List.nodup_cons.mp (List.nodup_append.mp nodup).2.1).1
  refine ⟨first.flatMap a.observersAt, rest.flatMap a.observersAt, ?_, ?_⟩
  · rw [subscriptions, places, List.flatMap_append, List.flatMap_cons, observersAt_of_get? found,
      List.append_assoc]
  · intro b size same
    rw [subscriptions, size, places, List.flatMap_append, List.flatMap_cons, other same _ first',
      other same _ rest', List.append_assoc]

theorem mem_subscriptions {sub : SubscriptionId} (mem : sub ∈ a.observersAt id) :
    sub ∈ a.subscriptions := by
  cases found : a.get? id with
  | none =>
    rw [observersAt, found] at mem
    exact absurd mem List.not_mem_nil
  | some n =>
    obtain ⟨before, after, all, -⟩ := subscriptions_split found
    rw [observersAt_of_get? found] at mem
    simp [all, mem]

theorem observersAt_eq_nil (none : a.subscriptions = []) (id : NodeId) : a.observersAt id = [] :=
  List.eq_nil_iff_forall_not_mem.mpr fun sub mem => by simpa [none] using mem_subscriptions mem

end Arena

open Arena

/-! ### The invariant -/

namespace Store

variable {s t : Store} {bound : Nat} {id : NodeId} {n : Node}

/-- The subscriptions of a store are in order, where `bound` of them were ever made. -/
structure Enrolled (bound : Nat) (s : Store) : Prop where
  /-- The store knows their number. -/
  count : s.subscribers = s.arena.subscriptions.length
  once : s.arena.subscriptions.Nodup
  made : ∀ sub ∈ s.arena.subscriptions, 0 < sub.number ∧ sub.number ≤ bound
  /-- At each node they stand in the order in which they were made. -/
  order : ∀ id, (s.arena.observersAt id).Pairwise fun x y => x.number < y.number

theorem Enrolled.congr (h : s.Enrolled bound) (same : SameObservers s.arena t.arena)
    (count : t.subscribers = s.subscribers) : t.Enrolled bound where
  count := by rw [count, h.count, same.subscriptions]
  once := same.subscriptions ▸ h.once
  made := same.subscriptions ▸ h.made
  order id := same.same id ▸ h.order id

/-- Some of the subscriptions at one node are gone. -/
theorem Enrolled.drop (h : s.Enrolled bound) (found : s.arena.get? id = some n)
    (size : t.arena.slots.size = s.arena.slots.size)
    (same : ∀ other, id ≠ other → t.arena.observersAt other = s.arena.observersAt other)
    (fewer : (t.arena.observersAt id).Sublist n.observers)
    (count : t.subscribers =
      s.subscribers - (n.observers.length - (t.arena.observersAt id).length)) :
    t.Enrolled bound := by
  obtain ⟨before, after, old, new⟩ := subscriptions_split found
  have sub : t.arena.subscriptions.Sublist s.arena.subscriptions := by
    rw [new t.arena size same, old]
    exact ((List.Sublist.refl before).append fewer).append (.refl after)
  refine ⟨?_, sub.nodup h.once, fun x mem => h.made x (sub.subset mem), fun other => ?_⟩
  · have total := h.count
    have less := fewer.length_le
    rw [old] at total
    simp only [count, new t.arena size same, List.length_append] at total ⊢
    omega
  · by_cases here : id = other
    · subst here
      have order := h.order id
      rw [observersAt_of_get? found] at order
      exact order.sublist fewer
    · rw [same other here]
      exact h.order other

/-- There is one more subscription at one node, later than all others. -/
theorem Enrolled.push (h : s.Enrolled bound) (found : s.arena.get? id = some n)
    (size : t.arena.slots.size = s.arena.slots.size)
    (same : ∀ other, id ≠ other → t.arena.observersAt other = s.arena.observersAt other)
    (more : t.arena.observersAt id = n.observers ++ [⟨bound + 1⟩])
    (count : t.subscribers = s.subscribers + 1) : t.Enrolled (bound + 1) := by
  obtain ⟨before, after, old, new⟩ := subscriptions_split found
  have perm : t.arena.subscriptions.Perm (⟨bound + 1⟩ :: s.arena.subscriptions) := by
    rw [new t.arena size same, old, more, ← List.append_assoc, List.append_assoc,
      List.singleton_append]
    exact List.perm_middle
  have made : ∀ sub ∈ s.arena.subscriptions, sub.number < bound + 1 :=
    fun sub mem => Nat.lt_succ_of_le (h.made sub mem).2
  refine ⟨?_, ?_, fun sub mem => ?_, fun other => ?_⟩
  · rw [count, h.count, perm.length_eq, List.length_cons]
  · rw [perm.nodup_iff, List.nodup_cons]
    exact ⟨fun mem => Nat.lt_irrefl _ (made _ mem), h.once⟩
  · rcases List.mem_cons.mp (perm.mem_iff.mp mem) with rfl | mem
    · exact ⟨Nat.succ_pos bound, Nat.le_refl _⟩
    · exact ⟨(h.made sub mem).1, Nat.le_succ_of_le (h.made sub mem).2⟩
  · by_cases here : id = other
    · subst here
      have order := h.order id
      rw [observersAt_of_get? found] at order
      rw [more, List.pairwise_append]
      refine ⟨order, List.pairwise_singleton _ _, fun x mem y last => ?_⟩
      rw [List.mem_singleton.mp last]
      refine made x (old ▸ ?_)
      simp [mem]
    · rw [same other here]
      exact h.order other

theorem Enrolled.vacate (h : s.Enrolled bound) (id : NodeId) : (s.vacate id).Enrolled bound := by
  unfold Store.vacate
  cases found : s.arena.get? id with
  | none => exact h
  | some node =>
    have gone : (s.arena.vacate id).observersAt id = [] := by
      rw [observersAt, get?_vacate, if_pos rfl]
      rfl
    refine h.drop found ?_ ?_ ?_ ?_
    · simp [Arena.vacate, onArena, Store.count]
    · intro other differ
      show (s.arena.vacate id).observersAt other = _
      rw [observersAt, get?_vacate, if_neg differ]
      rfl
    · show ((s.arena.vacate id).observersAt id).Sublist _
      rw [gone]
      exact List.nil_sublist _
    · show s.subscribers - _ = s.subscribers - (_ - ((s.arena.vacate id).observersAt id).length)
      rw [gone]
      rfl

/-- In a new store there is no subscription. -/
theorem enrolled_ofRoot (bound : Nat) (options : Options) (root : Identifier) :
    (ofRoot options root).Enrolled bound := by
  have none : (ofRoot options root).arena.subscriptions = [] := rfl
  refine ⟨rfl, none ▸ List.nodup_nil, fun sub mem => ?_, fun id => ?_⟩
  · rw [none] at mem
    exact absurd mem List.not_mem_nil
  · rw [observersAt_eq_nil none]
    exact List.Pairwise.nil

/-- **Every effect of a request keeps the subscriptions in order.** -/
theorem Effects.enrolled (effects : Effects s t) (h : s.Enrolled bound) : t.Enrolled bound := by
  induction effects with
  | none => exact h
  | @insert t name kind attachment address _ ih =>
    refine ⟨?_, ?_, ?_, ?_⟩
    · exact ih.count.trans (congrArg List.length (subscriptions_push ..).symm)
    · exact (subscriptions_push t.arena name kind attachment address).symm ▸ ih.once
    · exact (subscriptions_push t.arena name kind attachment address).symm ▸ ih.made
    · exact fun id => (observersAt_push t.arena name kind attachment address id).symm ▸ ih.order id
  | makeChild parent child name _ ih => exact ih.congr (sameObservers_attach _ _ _ _) rfl
  | unmakeChild parent child _ ih => exact ih.congr (sameObservers_detach _ _ _) rfl
  | makeLink source target name _ ih => exact ih.congr (sameObservers_link _ _ _ _) rfl
  | unmakeLink source target _ ih => exact ih.congr (sameObservers_unlink _ _ _) rfl
  | vacate id _ ih => exact ih.vacate id
  | invalidate _ ih => exact ih.congr (.refl _) rfl

/-- An effect leaves the observers at a place alone, unless the node there leaves. -/
theorem Effects.observersAt (effects : Effects s t) (id : NodeId) :
    t.arena.observersAt id = s.arena.observersAt id ∨ t.arena.observersAt id = [] := by
  induction effects with
  | none => exact .inl rfl
  | @insert t name kind attachment address _ ih =>
    rwa [← observersAt_push t.arena name kind attachment address id] at ih
  | @makeChild t parent child name _ ih =>
    rwa [← (sameObservers_attach t.arena parent child name).same id] at ih
  | @unmakeChild t parent child _ ih =>
    rwa [← (sameObservers_detach t.arena parent child).same id] at ih
  | @makeLink t source target name _ ih =>
    rwa [← (sameObservers_link t.arena source target name).same id] at ih
  | @unmakeLink t source target _ ih =>
    rwa [← (sameObservers_unlink t.arena source target).same id] at ih
  | @vacate t other _ ih =>
    unfold Store.vacate
    split
    · exact ih
    · show (t.arena.vacate other).observersAt id = _ ∨ (t.arena.vacate other).observersAt id = _
      by_cases here : other = id
      · right
        rw [Arena.observersAt, get?_vacate, if_pos here]
        rfl
      · rw [Arena.observersAt, get?_vacate, if_neg here]
        exact ih
  | invalidate _ ih => exact ih

end Store

open Store

namespace Tree

variable {t t' : Tree Empty}

/-- **Nothing that an act does brings the subscriptions out of order.** -/
theorem Deed.enrolled (deed : Deed t t') (h : t.store.Enrolled t.observers.size) :
    t'.store.Enrolled t'.observers.size := by
  cases deed with
  | idle arena subscribers observers =>
    rw [observers]
    exact h.congr ⟨by rw [arena], fun id => by rw [arena]⟩ subscribers
  | @mutation m c s before after granted =>
    have started : Store.Enrolled t.observers.size { t.store with lock := before } :=
      h.congr (.refl _) rfl
    exact ((effects_of_apply granted).enrolled started).congr (.refl _) rfl
  | @subscription node n observer found =>
    have size : (t.subscribed node observer).observers.size = t.observers.size + 1 := by
      simp [subscribed]
    rw [size]
    refine h.push found ?_ ?_ ?_ rfl
    · simp [subscribed, Store.onArena, Arena.modify]
    · intro other differ
      show (Arena.modify _ _ _).observersAt other = _
      rw [observersAt_modify, if_neg differ]
    · show (Arena.modify _ _ _).observersAt node = _
      rw [observersAt_modify, if_pos rfl, found]
      rfl
  | @cancellation node n id found mem =>
    have left : (t.unsubscribed node id).store.arena.observersAt node =
        n.observers.filter fun other => other != id := by
      show (Arena.modify _ _ _).observersAt node = _
      rw [observersAt_modify, if_pos rfl, found]
      rfl
    refine h.drop found ?_ ?_ ?_ ?_
    · simp [unsubscribed, Store.onArena, Arena.modify]
    · intro other differ
      show (Arena.modify _ _ _).observersAt other = _
      rw [observersAt_modify, if_neg differ]
    · rw [left]
      exact List.filter_sublist
    · -- the subscription stands there once
      have order := h.order node
      rw [observersAt_of_get? found] at order
      have nodup : n.observers.Nodup := order.imp fun {x y} less same => by
        rw [same] at less
        exact Nat.lt_irrefl _ less
      have one : 0 < n.observers.length := List.length_pos_of_mem mem
      rw [left, ← nodup.erase_eq_filter, List.length_erase_of_mem mem]
      show t.store.subscribers - 1 = _
      omega

/-- Every subscription has an observer. -/
theorem observer?_of_enrolled (h : t.store.Enrolled t.observers.size) {sub : SubscriptionId}
    (mem : sub ∈ t.store.arena.subscriptions) : ∃ o, t.observer? sub = some o := by
  obtain ⟨positive, bounded⟩ := h.made sub mem
  obtain ⟨_ | place⟩ := sub
  · exact absurd positive (Nat.lt_irrefl 0)
  · exact ⟨_, Array.getElem?_eq_getElem (show place < t.observers.size from bounded)⟩

end Tree

theorem enrolled_of_reachable {options : Options} {s : Session Empty} (h : s.Reachable options) :
    s.tree.store.Enrolled s.tree.observers.size := by
  refine h.invariant (fun {s} accepted => ?_) fun {s} enrolled a => (s.deed_act a).enrolled enrolled
  obtain ⟨root, -, same⟩ := Store.Invariant.ofRoot_of_fresh accepted
  rw [same]
  exact enrolled_ofRoot _ options root

end DeviceTree
