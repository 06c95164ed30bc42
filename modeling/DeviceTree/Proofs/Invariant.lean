/-
Invariants of the store.

A session changes its store by mutations, by resolutions, by subscriptions, through the lock and
through the counters, and in no other way.  What each of these keeps (`Store.Invariant`) holds of
the store of every reachable session if it holds of that of a new one.

* `Store.Invariant.act` -- what one act preserves;
* `Store.Invariant.reachable` -- what holds of every reachable session;
* `Store.Invariant.later` -- what a session hands on to later ones.
-/
import DeviceTree.Proofs.Lockstep
import DeviceTree.Proofs.Request

namespace DeviceTree

namespace Store

/-- The store that a request leaves, granted or refused. -/
def leftBy {α : Type} (p : Request α) (s : Store) : Store :=
  match p s with
  | .ok _ t => t
  | .error _ t => t

/-- A property of stores that everything keeps that a session does to its store. -/
structure Invariant (P : Store → Prop) : Prop where
  apply : ∀ {s}, P s → ∀ m : Mutation, P (s.leftBy m.apply)
  resolve : ∀ {s}, P s → ∀ address, P (s.resolve address).2
  observers : ∀ {s}, P s → ∀ node (f : List SubscriptionId → List SubscriptionId) subscribers,
    P { s with
      arena := s.arena.modify node fun n => { n with observers := f n.observers }
      subscribers }
  lock : ∀ {s}, P s → ∀ lock, P { s with lock }
  count : ∀ {s}, P s → ∀ f, P (s.count f)

theorem exclusively_snd {α : Type} (p : Request α) (s : Store) :
    (s.exclusively p).2 =
      match s.lock.admitWriter with
      | .error _ => s.count .refused
      | .ok lock => (leftBy p { s with lock }).endWrite := by
  unfold exclusively beginWrite leftBy
  cases s.lock.admitWriter with
  | error e => rfl
  | ok lock =>
    dsimp only
    split <;> simp_all

namespace Invariant

variable {P : Store → Prop}

theorem exclusively {s : Store} (inv : Invariant P) (h : P s) (m : Mutation) :
    P (s.exclusively m.apply).2 := by
  rw [exclusively_snd]
  split
  · exact inv.count h .refused
  · next lock _ => exact inv.lock (inv.apply (inv.lock h lock) m) _

theorem verify {s : Store} (inv : Invariant P) (h : P s) : P s.verify.2 := by
  unfold Store.verify
  split
  · exact inv.count h .refused
  · exact h

theorem beginWrite {s : Store} (inv : Invariant P) (h : P s) : P s.beginWrite.2 := by
  unfold Store.beginWrite
  split
  · exact inv.count h .refused
  · next lock _ => exact inv.lock h lock

theorem beginRead {s : Store} (inv : Invariant P) (h : P s) : P s.beginRead.2 := by
  unfold Store.beginRead
  split
  · exact inv.count h .refused
  · next lock _ => exact inv.lock h lock

/-! ### Acts of a tree -/

variable {t : Tree Empty} {s : Session Empty}

theorem subscribed (inv : Invariant P) (h : P t.store) (node : NodeId)
    (observer : Observer Empty) : P (t.subscribed node observer).store :=
  let id : SubscriptionId := ⟨t.observers.size + 1⟩
  inv.observers h node (fun l => l ++ [id]) (t.store.subscribers + 1)

theorem unsubscribe (inv : Invariant P) (h : P t.store) (node : NodeId) (id : SubscriptionId) :
    P (t.unsubscribe node id).2.store := by
  rw [Tree.unsubscribe_eq]
  split
  · exact inv.observers h node (fun l => l.filter fun other => other != id)
      (t.store.subscribers - 1)
  · exact h

theorem treeAct (inv : Invariant P) (h : P t.store) (a : Tree.Act Empty) :
    P (t.act a).2.store := by
  cases a with
  | mutate mutation => exact inv.exclusively h mutation
  | resolve address => exact inv.resolve h address
  | ask query => exact h
  | verify => exact inv.verify h
  | subscribe node observer =>
    simp only [Tree.act, Tree.subscribe_eq]
    cases t.store.arena.fetch node with
    | error e => exact h
    | ok n => exact inv.subscribed h node observer
  | unsubscribe node id => exact inv.unsubscribe h node id
  | turn id reaction =>
    show P (t.setReaction id reaction).store
    unfold Tree.setReaction
    split <;> exact h
  | fail count => exact inv.count h _

/-! ### Acts of a session -/

theorem start (begun : Except Error Unit × Store) (tx : Transaction) (h : P begun.2) :
    P (s.start begun tx).session.tree.store := by
  unfold Session.start
  split <;> exact h

theorem perform (inv : Invariant P) {s : Store} (h : P s) (tx : WriteTransaction) (m : Mutation) :
    P (tx.perform m s).2.2 := by
  have left := inv.apply h m
  unfold leftBy at left
  unfold WriteTransaction.perform
  split
  · split <;> simp_all
  · exact h

theorem letGo (inv : Invariant P) (h : P t.store) (tx : Transaction) :
    P (Session.letGo tx t).store := by
  unfold Session.letGo
  split
  · exact inv.lock h _
  · exact inv.lock h _
  · exact h
  · exact h

/-- Every act of a session keeps the invariant. -/
theorem act (inv : Invariant P) (h : P s.tree.store) (a : Session.Act Empty) :
    P (s.act a).2.tree.store := by
  cases a with
  | tree a => exact inv.treeAct h a
  | beginWrite => exact start _ _ (inv.beginWrite h)
  | beginRead => exact start _ _ (inv.beginRead h)
  | mutate number mutation =>
    unfold Session.act
    dsimp only
    split
    · next tx _ => exact inv.perform h tx mutation
    · exact h
  | release number =>
    unfold Session.act
    dsimp only
    split
    · next tx _ => exact inv.letGo h tx
    · exact h
  | forget number =>
    unfold Session.act
    dsimp only
    split
    · split <;> exact h
    · exact h
  | clear =>
    unfold Session.act
    dsimp only
    split <;> exact h

/-- A new session has a new store, and neither observers nor transactions. -/
theorem eq_of_fresh {options : Options} (accepted : Session.ofOptions options = .ok s) :
    ∃ root, root.text = options.rootIdentifier ∧ s = ⟨.ofStore (ofRoot options root), #[]⟩ := by
  unfold Session.ofOptions Tree.ofOptions Store.ofOptions at accepted
  cases named : readName options.rootIdentifier with
  | error e => simp [named, Except.map] at accepted
  | ok root =>
    simp only [named, Except.map, Except.ok.injEq] at accepted
    exact ⟨root, readName_ok.mp named, accepted.symm⟩

theorem ofRoot_of_fresh {options : Options} (accepted : Session.ofOptions options = .ok s) :
    ∃ root, root.text = options.rootIdentifier ∧ s.tree.store = ofRoot options root := by
  obtain ⟨root, named, rfl⟩ := eq_of_fresh accepted
  exact ⟨root, named, rfl⟩

/-- **What a new store has and everything keeps, every reachable session has.** -/
theorem reachable {options : Options} (inv : Invariant P)
    (fresh : ∀ root, root.text = options.rootIdentifier → P (ofRoot options root))
    (h : s.Reachable options) : P s.tree.store := by
  refine Session.Reachable.invariant (P := fun s => P s.tree.store) ?_ (fun h a => inv.act h a) h
  intro s accepted
  obtain ⟨root, named, same⟩ := ofRoot_of_fresh accepted
  rw [same]
  exact fresh root named

/-- What everything keeps, the store of a session hands on to those of all later ones. -/
theorem later {s s' : Session Empty} (inv : Invariant P) (later : s.Later s')
    (h : P s.tree.store) : P s'.tree.store :=
  Session.Later.invariant (P := fun s => P s.tree.store) (fun h a => inv.act h a) later h

end Invariant

end Store

end DeviceTree
