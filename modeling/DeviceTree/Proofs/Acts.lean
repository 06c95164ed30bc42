/-
What can happen at one go.

A mutation that is granted is a row of effects, each of which makes or unmakes one thing, and an
act of a session does one of four things to nodes and subscriptions.  What has to be shown of all
effects, or of all acts, is shown along these two lists.

* `Store.effects_of_apply` -- a granted mutation as a row of effects;
* `exclusively_ok`, `exclusively_error` -- what a free lock makes of a request;
* `Session.deed_act` -- what an act does.
-/
import DeviceTree.Proofs.Structure

namespace DeviceTree

namespace Store

/-- Effects of requests lead from one store to the other. -/
inductive Effects (s : Store) : Store → Prop where
  | none : Effects s s
  | insert {t : Store} (name : Identifier) (kind : ElementKind) (attachment : Option String)
      (address : String) : Effects s t → Effects s (t.insert (.fresh name kind attachment address))
  | makeChild {t : Store} (parent child : NodeId) (name : Identifier) :
      Effects s t → Effects s (t.makeChild parent child name)
  | unmakeChild {t : Store} (parent child : NodeId) :
      Effects s t → Effects s (t.unmakeChild parent child)
  | makeLink {t : Store} (source target : NodeId) (name : Identifier) :
      Effects s t → Effects s (t.makeLink source target name)
  | unmakeLink {t : Store} (source target : NodeId) :
      Effects s t → Effects s (t.unmakeLink source target)
  | vacate {t : Store} (id : NodeId) : Effects s t → Effects s (t.vacate id)
  | invalidate {t : Store} : Effects s t → Effects s t.invalidate

namespace Effects

variable {s t : Store}

/-- Something for each element of a list. -/
theorem foldl {α : Type} {f : Store → α → Store} (h : Effects s t) (xs : List α)
    (each : ∀ x {t}, Effects s t → Effects s (f t x)) : Effects s (xs.foldl f t) := by
  induction xs generalizing t with
  | nil => exact h
  | cons x xs ih => exact ih (each x h)

/-- Effects leave the lock alone. -/
theorem lock (h : Effects s t) : t.lock = s.lock := by
  induction h with
  | none => rfl
  | vacate id _ ih =>
    unfold Store.vacate
    split <;> exact ih
  | insert _ _ _ _ _ ih | makeChild _ _ _ _ ih | unmakeChild _ _ _ ih | makeLink _ _ _ _ ih
  | unmakeLink _ _ _ ih | invalidate _ ih => exact ih

theorem settled (h : Effects s t) (parent : Option NodeId) (id : NodeId) (name : Identifier) :
    Effects s (t.settled parent id name) := by
  cases parent with
  | none => exact h
  | some parent => exact (h.makeChild parent id name).invalidate

theorem createPart (h : Effects s t) (data : NodeId)
    (part : Identifier × ElementKind × Option String) : Effects s (t.createPart data part) :=
  (h.insert part.1 part.2.1 part.2.2 part.1.text).makeChild data t.arena.nextId part.1

theorem releaseLinks (h : Effects s t) (members : List NodeId) (id : NodeId) :
    Effects s (t.releaseLinks members id) := by
  unfold Store.releaseLinks
  split
  · exact h
  · exact h.foldl _ fun target _ h => h.unmakeLink id target

end Effects

/-- **A mutation that is granted is a row of effects.** -/
theorem effects_of_apply {s t : Store} {m : Mutation} {c : Change Answer}
    (h : m.apply s = .ok c t) : Effects s t := by
  cases m <;> obtain ⟨c', granted, -⟩ := Request.map_ok.mp h
  case create =>
    obtain ⟨name, above, -, -, -, rfl⟩ := create_ok.mp granted
    exact (Effects.none.insert _ _ _ _).settled _ _ _
  case createData =>
    obtain ⟨name, above, -, -, -, rfl⟩ := createData_ok.mp granted
    exact ((Effects.none.insert _ _ _ _).foldl _ fun part _ h => h.createPart _ part).settled _ _ _
  case add =>
    obtain ⟨above, below, -, -, -, -, -, -, -, -, rfl⟩ := add_ok.mp granted
    exact (Effects.none.makeChild _ _ _).invalidate
  case remove =>
    obtain ⟨above, below, r, -, -, -, -, -, -, rfl⟩ := remove_ok.mp granted
    exact (Effects.none.unmakeChild _ _).invalidate
  case link =>
    obtain ⟨holder, aim, name, -, -, -, -, -, -, -, -, rfl⟩ := link_ok.mp granted
    exact (Effects.none.makeLink _ _ _).invalidate
  case unlink =>
    obtain ⟨holder, r, -, -, -, -, rfl⟩ := unlink_ok.mp granted
    exact (Effects.none.unmakeLink _ _).invalidate
  case discard =>
    obtain ⟨node, -, -, -, -, -, rfl⟩ := discard_ok.mp granted
    exact ((Effects.none.foldl _ fun id _ h => h.releaseLinks _ id).foldl _
      fun id _ h => h.vacate id).invalidate

/-! ### The lock -/

/-- The store while somebody holds its lock for writing. -/
def locked (s : Store) : Store :=
  { s with lock := { s.lock with writer := true } }

theorem beginWrite_of_free {s : Store} (free : s.lock.isFree = true) :
    s.beginWrite = (.ok (), s.locked) := by
  rw [beginWrite, Lock.admitWriter, if_pos free]
  rfl

theorem exclusively_ok {α : Type} {p : Request α} {s t : Store} {a : α}
    (free : s.lock.isFree = true) (granted : p s.locked = .ok a t) :
    s.exclusively p = (.ok a, t.endWrite) := by
  rw [exclusively, beginWrite_of_free free]
  simp only [granted]

theorem exclusively_error {α : Type} {p : Request α} {s t : Store} {e : Error}
    (free : s.lock.isFree = true) (refused : p s.locked = .error e t) :
    s.exclusively p = (.error e, t.endWrite) := by
  rw [exclusively, beginWrite_of_free free]
  simp only [refused]

theorem lock_endWrite_of_free {s t : Store} (free : s.lock.isFree = true)
    (held : t.lock = s.locked.lock) : t.endWrite.lock = s.lock := by
  have admitted : s.lock.admitWriter = .ok s.locked.lock :=
    Lock.admitWriter_eq_ok_iff.mpr ⟨free, rfl⟩
  rw [endWrite, held]
  exact Lock.releaseWriter_of_admitWriter admitted

theorem endWrite_locked {s : Store} (free : s.lock.isFree = true) : s.locked.endWrite = s := by
  have lock := lock_endWrite_of_free (s := s) (t := s.locked) free rfl
  cases s
  exact congrArg (Store.mk _ _ · _ _ _) lock

end Store

namespace Tree

variable {ε α : Type}

/-- What a change yields does not depend on the observers. -/
theorem value_change (notify : Notifier ε) (request : Request (Change α)) (t : Tree ε) :
    (t.change notify request).value = (t.store.exclusively request).1.map Change.value := by
  rw [change, attempt]
  rcases t.store.exclusively request with ⟨e | ⟨value, event⟩, store⟩
  · rfl
  · cases event <;> rfl

/-- What comes of a request that the lock does not stand in the way of. -/
theorem attempt_ok {t t' : Tree ε} {request : Request α} {a : α}
    (free : t.store.lock.isFree = true) :
    t.attempt request = (.ok a, t') ↔
      ∃ s, request t.store.locked = .ok a s ∧ t' = { t with store := s.endWrite } := by
  rw [attempt]
  cases asked : request t.store.locked with
  | ok b s =>
    rw [Store.exclusively_ok free asked]
    simp [eq_comm, and_comm]
  | error e s =>
    rw [Store.exclusively_error free asked]
    simp

variable [DirectEdit ε] {t t' : Tree ε} {m : Mutation}

theorem perform_of_attempt {c : Change Answer} (attempted : t.attempt m.apply = (.ok c, t')) :
    (t.perform (.mutate m)).value = .ok c.value := by
  have asked : (t.store.exclusively m.apply).1 = .ok c := congrArg Prod.fst attempted
  show (t.change _ m.apply).value = _
  rw [value_change, asked]
  rfl

theorem attempt_of_perform {answer : Answer} (ok : (t.perform (.mutate m)).value = .ok answer) :
    ∃ c t', t.attempt m.apply = (.ok c, t') ∧ c.value = answer := by
  change (t.change _ m.apply).value = _ at ok
  rw [value_change] at ok
  cases asked : (t.store.exclusively m.apply).1 with
  | error e => simp [asked, Except.map] at ok
  | ok c =>
    rw [asked] at ok
    exact ⟨c, _, Prod.ext asked rfl, Except.ok.inj ok⟩

end Tree

/-! ### Acts -/

variable {ε : Type}

/-- What an act may do to the nodes and the subscriptions of a tree. -/
inductive Tree.Deed (t : Tree ε) : Tree ε → Prop where
  /-- Nothing. -/
  | idle {t' : Tree ε} : t'.store.arena = t.store.arena →
      t'.store.subscribers = t.store.subscribers → t'.observers.size = t.observers.size → Deed t t'
  /-- A mutation was granted, whoever held the lock. -/
  | mutation {m : Mutation} {c : Change Answer} {s : Store} (before after : Lock) :
      m.apply { t.store with lock := before } = .ok c s →
      Deed t { t with store := { s with lock := after } }
  | subscription {node : NodeId} {n : Node} (observer : Observer ε) :
      t.store.arena.get? node = some n → Deed t (t.subscribed node observer)
  | cancellation {node : NodeId} {n : Node} {id : SubscriptionId} :
      t.store.arena.get? node = some n → id ∈ n.observers → Deed t (t.unsubscribed node id)

namespace Tree.Deed

open Store

variable {t : Tree Empty}

theorem refl (t : Tree Empty) : Deed t t :=
  .idle rfl rfl rfl

/-- A mutation that is refused changes nothing. -/
theorem leftBy (t : Tree Empty) (before after : Lock) (m : Mutation) :
    Deed t { t with store :=
      { Store.leftBy m.apply { t.store with lock := before } with lock := after } } := by
  rcases leftBy_apply m { t.store with lock := before } with ⟨c, s, granted, left⟩ | left
  · rw [left]
    exact .mutation before after granted
  · rw [left]
    exact .idle rfl rfl rfl

theorem attempt (t : Tree Empty) (m : Mutation) : Deed t (t.attempt m.apply).2 := by
  show Deed t { t with store := (t.store.exclusively m.apply).2 }
  rw [exclusively_snd]
  split
  · exact .idle rfl rfl rfl
  · exact leftBy t _ _ m

theorem setReaction (t : Tree Empty) (id : SubscriptionId) (reaction : Reaction Empty) :
    Deed t (t.setReaction id reaction) := by
  unfold Tree.setReaction
  split
  · exact refl t
  · exact .idle rfl rfl (by simp)

theorem resolve (t : Tree Empty) (address : String) :
    Deed t { t with store := (t.store.resolve address).2 } := by
  unfold Store.resolve
  dsimp only
  split
  · exact .idle rfl rfl rfl
  · split <;> exact .idle rfl rfl rfl

theorem verify (t : Tree Empty) : Deed t { t with store := t.store.verify.2 } := by
  unfold Store.verify
  split <;> exact .idle rfl rfl rfl

theorem beginWrite (t : Tree Empty) : Deed t { t with store := t.store.beginWrite.2 } := by
  unfold Store.beginWrite
  split <;> exact .idle rfl rfl rfl

theorem beginRead (t : Tree Empty) : Deed t { t with store := t.store.beginRead.2 } := by
  unfold Store.beginRead
  split <;> exact .idle rfl rfl rfl

theorem subscribe (t : Tree Empty) (node : NodeId) (observer : Observer Empty) :
    Deed t (t.act (.subscribe node observer)).2 := by
  simp only [Tree.act, Tree.subscribe_eq, Arena.fetch]
  cases found : t.store.arena.get? node with
  | none => exact refl t
  | some n => exact .subscription observer found

theorem unsubscribe (t : Tree Empty) (node : NodeId) (id : SubscriptionId) :
    Deed t (t.unsubscribe node id).2 := by
  rw [Tree.unsubscribe_eq]
  cases found : t.store.arena.get? node with
  | none => exact refl t
  | some n =>
    by_cases mem : n.observers.contains id = true
    · rw [Option.any_some, if_pos mem]
      exact .cancellation found (List.contains_iff_mem.mp mem)
    · rw [Option.any_some, if_neg mem]
      exact refl t

theorem act (t : Tree Empty) (a : Tree.Act Empty) : Deed t (t.act a).2 := by
  cases a with
  | mutate mutation => exact attempt t mutation
  | resolve address => exact resolve t address
  | ask query => exact refl t
  | verify => exact verify t
  | subscribe node observer => exact subscribe t node observer
  | unsubscribe node id => exact unsubscribe t node id
  | turn id reaction => exact setReaction t id reaction
  | fail count => exact .idle rfl rfl rfl

theorem perform (t : Tree Empty) (tx : WriteTransaction) (m : Mutation) :
    Deed t { t with store := (tx.perform m t.store).2.2 } := by
  unfold WriteTransaction.perform
  split
  · have left := leftBy t t.store.lock (Store.leftBy m.apply t.store).lock m
    unfold Store.leftBy at left
    split <;> simp_all
  · exact refl t

theorem letGo (t : Tree Empty) (tx : Transaction) : Deed t (Session.letGo tx t) := by
  unfold Session.letGo
  split <;> exact .idle rfl rfl rfl

end Tree.Deed

open DeviceTree.Tree

theorem Session.tree_start (s : Session Empty) (begun : Except Error Unit × Store)
    (tx : Transaction) : (s.start begun tx).session.tree = { s.tree with store := begun.2 } := by
  unfold Session.start
  split <;> rfl

/-- **What an act of a session does to nodes and subscriptions.** -/
theorem Session.deed_act (s : Session Empty) (a : Session.Act Empty) :
    Tree.Deed s.tree (s.act a).2.tree := by
  cases a with
  | tree a => exact Deed.act s.tree a
  | beginWrite =>
    show Deed s.tree (s.start _ _).session.tree
    rw [tree_start]
    exact Deed.beginWrite s.tree
  | beginRead =>
    show Deed s.tree (s.start _ _).session.tree
    rw [tree_start]
    exact Deed.beginRead s.tree
  | mutate number mutation =>
    unfold Session.act
    dsimp only
    split
    · next tx _ => exact Deed.perform s.tree tx mutation
    · exact .refl s.tree
  | release number =>
    unfold Session.act
    dsimp only
    split
    · next tx _ => exact Deed.letGo s.tree tx
    · exact .refl s.tree
  | forget number =>
    unfold Session.act
    dsimp only
    split
    · split <;> exact .refl s.tree
    · exact .refl s.tree
  | clear =>
    unfold Session.act
    dsimp only
    split <;> exact .refl s.tree

end DeviceTree
