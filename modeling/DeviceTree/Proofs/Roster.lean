/-
The roster of subscriptions.

The number of subscriptions is kept beside the lists in which they stand, one at each node, and
three things change it: a subscription is made, one is ended, and a node leaves with all of its own.
 The number is right at every point, also while a subtree is being emptied, and a subscription that
has left the lists never stands in one again.

* `Arena.length_subscriptions` -- the number as a sum over the nodes;
* `Tree.Deed.roster` -- what one act brings into the lists;
* `Session.roster_of_later` -- what a run brings into them;
* `notifyWith_eq_walk` -- a notice that is not given would have reached nobody;
* `subscriptions_accounted` -- all of it.
-/
import DeviceTree.Proofs.Delivery
import DeviceTree.Proofs.Spent

namespace DeviceTree

open Arena Store

/-! ### The number of subscriptions -/

namespace Arena

/-- Only places with a node have subscriptions. -/
theorem length_subscriptions (a : Arena) :
    a.subscriptions.length = (a.liveIds.map fun id => (a.observersAt id).length).sum := by
  rw [subscriptions, List.length_flatMap, liveIds]
  induction (List.range a.slots.size).map NodeId.mk with
  | nil => rfl
  | cons id rest ih =>
    rw [List.map_cons, List.sum_cons, ih, List.filter_cons, contains]
    cases found : a.get? id with
    | none => simp [observersAt, found]
    | some n => simp

theorem length_observersAt_le (a : Arena) (id : NodeId) :
    (a.observersAt id).length ≤ a.subscriptions.length := by
  cases found : a.get? id with
  | none => simp [observersAt, found]
  | some n =>
    obtain ⟨before, after, all, -⟩ := subscriptions_split found
    rw [observersAt_of_get? found, all, List.length_append, List.length_append]
    omega

/-- A subscription stands at one node. -/
theorem eq_of_mem_observersAt {a : Arena} (once : a.subscriptions.Nodup) {id id' : NodeId}
    {sub : SubscriptionId} (mem : sub ∈ a.observersAt id) (mem' : sub ∈ a.observersAt id') :
    id = id' := by
  have place : ∀ {id}, sub ∈ a.observersAt id → id ∈ (List.range a.slots.size).map NodeId.mk := by
    intro id mem
    cases found : a.get? id with
    | none =>
      rw [observersAt, found] at mem
      exact absurd mem List.not_mem_nil
    | some n =>
      exact List.mem_map.mpr ⟨id.index, List.mem_range.mpr (index_lt_of_get? found), rfl⟩
  have symm : Std.Symm (Function.onFun List.Disjoint a.observersAt) := ⟨fun _ _ apart => apart.symm⟩
  by_contra differ
  exact (List.nodup_flatMap.mp once).2.forall (place mem) (place mem') differ mem mem'

theorem nodup_observersAt {a : Arena} (once : a.subscriptions.Nodup) (id : NodeId) :
    (a.observersAt id).Nodup := by
  cases found : a.get? id with
  | none =>
    rw [observersAt, found]
    exact List.nodup_nil
  | some n =>
    have inside := List.mem_range.mpr (index_lt_of_get? found)
    exact (List.nodup_flatMap.mp once).1 id (List.mem_map.mpr ⟨id.index, inside, rfl⟩)

end Arena

/-! ### What one act brings in -/

namespace Tree

variable {t t' : Tree Empty} {node : NodeId} {sub : SubscriptionId}

theorem unsubscribe_iff :
    (t.unsubscribe node sub).1 = true ↔ sub ∈ t.store.arena.observersAt node := by
  rw [unsubscribe_eq, observersAt]
  cases t.store.arena.get? node with
  | none => simp
  | some n =>
    rw [Option.any_some, Option.elim_some, ← List.contains_iff_mem]
    split <;> simp_all

theorem unsubscribe_of_not_mem (absent : sub ∉ t.store.arena.observersAt node) :
    t.unsubscribe node sub = (false, t) := by
  have refused := mt unsubscribe_iff.mp absent
  rw [unsubscribe_eq] at refused ⊢
  split
  · next there => exact absurd (if_pos there ▸ rfl) refused
  · rfl

/-- Nothing stands in a list afterwards that did not stand there before, unless it is new. -/
structure Roster (t t' : Tree Empty) : Prop where
  grows : t.observers.size ≤ t'.observers.size
  old : ∀ node sub, sub ∈ t'.store.arena.observersAt node → sub.number ≤ t.observers.size →
    sub ∈ t.store.arena.observersAt node

theorem Roster.refl (t : Tree Empty) : Roster t t :=
  ⟨Nat.le_refl _, fun _ _ mem _ => mem⟩

theorem Roster.trans {t'' : Tree Empty} (first : Roster t t') (next : Roster t' t'') :
    Roster t t'' :=
  ⟨first.grows.trans next.grows, fun node sub mem made =>
    first.old node sub (next.old node sub mem (made.trans first.grows)) made⟩

/-- **What one act brings into the lists.** -/
theorem Deed.roster (deed : Deed t t') : Roster t t' := by
  cases deed with
  | idle arena _ observers => exact ⟨Nat.le_of_eq observers.symm, fun _ _ mem _ => arena ▸ mem⟩
  | @mutation m c s before after granted =>
    refine ⟨Nat.le_refl _, fun node sub mem _ => ?_⟩
    -- a mutation leaves the list of a node as it was, or empties it with the node
    rcases (effects_of_apply granted).observersAt node with same | none
    · exact same ▸ mem
    · exact absurd (none ▸ mem) List.not_mem_nil
  | @subscription there n observer found =>
    refine ⟨by simp [subscribed], fun node sub mem made => ?_⟩
    change sub ∈ (Arena.modify _ _ _).observersAt node at mem
    rw [observersAt_modify] at mem
    split at mem
    · next here =>
      subst here
      rw [found, Option.elim_some, List.mem_append, List.mem_singleton] at mem
      rw [observersAt_of_get? found]
      -- the last one is new, as its number tells
      refine mem.resolve_right fun new => ?_
      rw [new] at made
      exact Nat.not_succ_le_self _ made
    · exact mem
  | @cancellation there n id found _ =>
    refine ⟨Nat.le_refl _, fun node sub mem _ => ?_⟩
    change sub ∈ (Arena.modify _ _ _).observersAt node at mem
    rw [observersAt_modify] at mem
    split at mem
    · next here =>
      subst here
      rw [found, Option.elim_some] at mem
      rw [observersAt_of_get? found]
      exact (List.mem_filter.mp mem).1
    · exact mem

/-! ### Notices that are not given -/

/-- Where nobody is subscribed, the walk reaches nobody. -/
theorem bubble_of_nobody (nobody : ∀ id, t.store.arena.observersAt id = [])
    (perform : Performer Empty) (event : Event) (hops : Nat) (id : NodeId) :
    t.bubble perform event hops id = t.yield [] := by
  induction hops generalizing id with
  | zero => rfl
  | succ hops ih =>
    unfold bubble
    cases found : t.store.arena.get? id with
    | none => rfl
    | some n =>
      have unheard : n.observers = [] := (observersAt_of_get? found).symm.trans (nobody id)
      -- nobody acts, so that the walk goes on in the tree that it began with
      dsimp only
      rw [unheard]
      cases above : t.store.arena.lastParent id with
      | none => simp [tellAll, Traced.andThen, yield, above]
      | some parent => simp [tellAll, Traced.andThen, Traced.map, yield, above, ih]

/-- **A notice is the walk to the observers, and the count of those who fail**, also where it is not
given because nobody is subscribed. -/
theorem notifyWith_eq_walk {bound : Nat} (enrolled : t.store.Enrolled bound)
    (perform : Performer Empty) (event : Event) :
    t.notifyWith perform event =
      counted (t.bubble perform event (t.store.arena.size + 1) event.source) := by
  rw [notifyWith]
  split
  · next zero =>
    have none := List.eq_nil_of_length_eq_zero (enrolled.count.symm.trans zero)
    rw [bubble_of_nobody (observersAt_eq_nil none), counted]
    show _ = (⟨[], t.onStore fun s => s.count (.failed 0), []⟩ : Traced Empty (List Failure))
    simp only [count_failed_zero]
    rfl
  · rfl

end Tree

/-! ### Runs -/

namespace Session

variable {s s' : Session Empty} {options : Options}

/-- **What a run brings into the lists.** -/
theorem roster_of_later (later : s.Later s') : Tree.Roster s.tree s'.tree :=
  later.invariant (P := fun s' => Tree.Roster s.tree s'.tree)
    (fun {u} roster a => roster.trans (u.deed_act a).roster) (.refl _)

/-- A subscription that stands in no list never ends again. -/
theorem never_ends {sub : SubscriptionId} (made : sub.number ≤ s.tree.observers.size)
    (gone : ∀ node, sub ∉ s.tree.store.arena.observersAt node) (later : s.Later s')
    (node : NodeId) : (s'.tree.unsubscribe node sub).1 = false := by
  rw [← Bool.not_eq_true, Tree.unsubscribe_iff]
  exact fun mem => gone node ((roster_of_later later).old node sub mem made)

/-- The subscriptions of a session are accounted for. -/
structure Accounted (s : Session Empty) : Prop where
  total : s.tree.store.subscribers =
    (s.tree.store.arena.liveIds.map fun id => (s.tree.store.arena.observersAt id).length).sum
  told : ∀ id, s.tree.store.ask (.observerCount id) =
    .ok (.count (s.tree.store.arena.observersAt id).length)
  /-- Nothing is ever taken off the number that is not in it, also in the middle of a request. -/
  enough : ∀ t, Effects s.tree.store t → ∀ id, (t.arena.observersAt id).length ≤ t.subscribers
  once : ∀ id, (s.tree.store.arena.observersAt id).Nodup
  alone : ∀ id id' sub, sub ∈ s.tree.store.arena.observersAt id →
    sub ∈ s.tree.store.arena.observersAt id' → id = id'
  /-- What is handed out was never handed out before, and never will be again. -/
  fresh : ∀ node observer sub t, s.tree.subscribe node observer = .ok (sub, t) →
    (∀ id, sub ∉ s.tree.store.arena.observersAt id) ∧
    t.store.subscribers = s.tree.store.subscribers + 1 ∧
    ∀ s', Later { s with tree := t } s' → ∀ node' observer' sub' t',
      s'.tree.subscribe node' observer' = .ok (sub', t') → sub.number < sub'.number
  ends : ∀ node sub, sub ∈ s.tree.store.arena.observersAt node →
    (s.tree.unsubscribe node sub).1 = true ∧
    (s.tree.unsubscribe node sub).2.store.subscribers + 1 = s.tree.store.subscribers ∧
    ∀ s', Later { s with tree := (s.tree.unsubscribe node sub).2 } s' →
      ∀ node', (s'.tree.unsubscribe node' sub).1 = false
  elsewhere : ∀ node sub, sub ∉ s.tree.store.arena.observersAt node →
    s.tree.unsubscribe node sub = (false, s.tree)
  discarded : ∀ a x c, s.asked a = some (.discard x) → (s.act a).1 = .ok c →
    ∀ node ∈ s.tree.store.arena.subtree x, ∀ sub ∈ s.tree.store.arena.observersAt node,
      ∀ s', (s.act a).2.Later s' → ∀ node', (s'.tree.unsubscribe node' sub).1 = false
  /-- A notice that is not given because nobody is subscribed would have reached nobody. -/
  heard : ∀ perform event, s.tree.notifyWith perform event =
    Tree.counted (s.tree.bubble perform event (s.tree.store.arena.size + 1) event.source)

section

variable {sub : SubscriptionId} {node : NodeId}

/-- A subscription that its own node has lost stands in no list. -/
theorem gone_of_lost {t : Tree Empty} (enrolled : s.tree.store.Enrolled s.tree.observers.size)
    (mem : sub ∈ s.tree.store.arena.observersAt node) (roster : Tree.Roster s.tree t)
    (lost : sub ∉ t.store.arena.observersAt node) (node' : NodeId) :
    sub ∉ t.store.arena.observersAt node' := by
  intro mem'
  have made := (enrolled.made sub (mem_subscriptions mem)).2
  have before := roster.old node' sub mem' made
  exact lost (eq_of_mem_observersAt enrolled.once before mem ▸ mem')

theorem fresh_of_subscribe {observer : Observer Empty} {t : Tree Empty}
    (granted : s.tree.subscribe node observer = .ok (sub, t)) :
    sub = ⟨s.tree.observers.size + 1⟩ ∧ t = s.tree.subscribed node observer := by
  rw [Tree.subscribe_eq] at granted
  cases fetched : s.tree.store.arena.fetch node with
  | error e =>
    rw [fetched] at granted
    cases granted
  | ok n =>
    rw [fetched] at granted
    cases granted
    exact ⟨rfl, rfl⟩

theorem ends_of_mem (enrolled : s.tree.store.Enrolled s.tree.observers.size)
    (mem : sub ∈ s.tree.store.arena.observersAt node) :
    (s.tree.unsubscribe node sub).1 = true ∧
    (s.tree.unsubscribe node sub).2.store.subscribers + 1 = s.tree.store.subscribers ∧
    ∀ s', Later { s with tree := (s.tree.unsubscribe node sub).2 } s' →
      ∀ node', (s'.tree.unsubscribe node' sub).1 = false := by
  have ended := Tree.unsubscribe_iff.mpr mem
  have left : (s.tree.unsubscribe node sub).2 = s.tree.unsubscribed node sub := by
    rw [Tree.unsubscribe_eq] at ended ⊢
    split
    · rfl
    · next absent => rw [if_neg absent] at ended; cases ended
  have deed := s.deed_act (.tree (.unsubscribe node sub))
  have some : 0 < s.tree.store.subscribers := by
    rw [enrolled.count]
    exact List.length_pos_of_mem (mem_subscriptions mem)
  refine ⟨ended, ?_, fun s' later => never_ends ?_ ?_ later⟩
  · rw [left]
    show s.tree.store.subscribers - 1 + 1 = _
    omega
  · exact (enrolled.made sub (mem_subscriptions mem)).2.trans deed.roster.grows
  · refine gone_of_lost enrolled mem deed.roster ?_
    show sub ∉ (s.tree.unsubscribe node sub).2.store.arena.observersAt node
    rw [left]
    show sub ∉ (Arena.modify _ _ _).observersAt node
    rw [observersAt_modify, if_pos rfl]
    cases s.tree.store.arena.get? node with
    | none => exact List.not_mem_nil
    | some n => simp

theorem accounted (h : s.Reachable options) : s.Accounted := by
  have enrolled := enrolled_of_reachable h
  have sound := (Store.upright_of_reachable h).sound
  refine
    { total := enrolled.count.trans (length_subscriptions _)
      told := fun id => ?_
      enough := fun t effects id => ?_
      once := nodup_observersAt enrolled.once
      alone := fun id id' sub => eq_of_mem_observersAt enrolled.once
      fresh := fun node observer sub t granted => ?_
      ends := fun node sub mem => ends_of_mem enrolled mem
      elsewhere := fun node sub absent => Tree.unsubscribe_of_not_mem absent
      discarded := fun a x c asked ok node mem sub here s' later => ?_
      heard := Tree.notifyWith_eq_walk enrolled }
  · rw [Store.ask, observersAt]
    cases s.tree.store.arena.get? id <;> rfl
  · rw [(effects.enrolled enrolled).count]
    exact length_observersAt_le _ id
  · obtain ⟨rfl, rfl⟩ := fresh_of_subscribe granted
    refine ⟨fun id mem => ?_, rfl, fun s' later node' observer' sub' t' granted' => ?_⟩
    · exact Nat.not_succ_le_self _ (enrolled.made _ (mem_subscriptions mem)).2
    · obtain ⟨rfl, -⟩ := fresh_of_subscribe granted'
      have grows : (s.tree.observers.push observer).size ≤ s'.tree.observers.size :=
        (roster_of_later later).grows
      rw [Array.size_push] at grows
      show s.tree.observers.size + 1 < s'.tree.observers.size + 1
      omega
  · have deed := s.deed_act a
    -- the node has left, and its list with it
    have spent := spent_of_discard sound asked ok mem
    refine never_ends ?_ (gone_of_lost enrolled here deed.roster ?_) later
    · exact (enrolled.made sub (mem_subscriptions here)).2.trans deed.roster.grows
    · rw [observersAt, spent.2]
      exact List.not_mem_nil

end

end Session

open Session

/-- **Subscriptions are accounted for.**  In every reachable session, also in the middle of a
notice, the number of subscriptions is the sum of the numbers of observers at the nodes, and nothing
is taken off it that is not in it.  Every subscription stands at one node, once, and has a number
that is handed out once in a whole run.  To end it at its node is granted, once in the whole run,
and not at all when the node has been discarded; to end it elsewhere, or to end one that is not
there, changes nothing.  And a notice that is not given because the number is zero would have
reached nobody. -/
theorem subscriptions_accounted (options : Options) (s : Session Empty) (h : s.Reachable options) :
    s.Accounted :=
  accounted h

/-- Of three subscriptions the first stands at the valve: it is ended there, not at the root, and
once it has ended nothing brings it back. -/
theorem subscriptions_accounted_heeded :
    Session.heeded.Reachable .counted ∧ Session.heeded.Accounted ∧
      Session.heeded.tree.store.subscribers = 3 ∧
      (Session.heeded.tree.unsubscribe .root ⟨1⟩).1 = false ∧
      (Session.heeded.tree.unsubscribe ⟨2⟩ ⟨1⟩).1 = true ∧
      ∀ s', Later { Session.heeded with tree := (Session.heeded.tree.unsubscribe ⟨2⟩ ⟨1⟩).2 } s' →
        ∀ node, (s'.tree.unsubscribe node ⟨1⟩).1 = false := by
  have accounted := subscriptions_accounted .counted Session.heeded Session.reachable_heeded
  have granted : (Session.heeded.tree.unsubscribe ⟨2⟩ ⟨1⟩).1 = true := by cbv
  obtain ⟨-, -, never⟩ := accounted.ends ⟨2⟩ ⟨1⟩ (Tree.unsubscribe_iff.mp granted)
  exact ⟨Session.reachable_heeded, accounted, by cbv, by cbv, granted, never⟩

end DeviceTree
