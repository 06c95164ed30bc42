/-
Runs of the library, cut into acts.

An act is what happens to a session at one go, without anything that observers do about it: one
mutation under the lock, one resolution, one subscription, one transaction that begins or ends.
Everything that a step of a session does, with all that its observers do on the way, is a row of
acts; so is everything that observers of any other kind could do.

* `Session.Reachable` -- the sessions that steps and acts lead to from a new tree;
* `Session.Later` -- those that they lead to from a session.
-/
import DeviceTree.Session

namespace DeviceTree

variable {ε : Type}

/-- A new store about which nothing was said. -/
def Store.standard : Store :=
  .ofRoot .standard ⟨"device", rfl⟩

/-- The options of a tree with counters about which nothing else was said. -/
def Options.counted : Options :=
  { Options.standard with counting := true }

/-- A new store with counters about which nothing else was said. -/
def Store.counted : Store :=
  .ofRoot .counted ⟨"device", rfl⟩

/-- What happens to a tree at one go. -/
inductive Tree.Act (ε : Type) where
  | mutate (mutation : Mutation)
  | resolve (address : String)
  | ask (query : Query)
  | verify
  | subscribe (node : NodeId) (observer : Observer ε)
  | unsubscribe (node : NodeId) (subscription : SubscriptionId)
  /-- An observer is to do something else with the next event. -/
  | turn (subscription : SubscriptionId) (reaction : Reaction ε)
  /-- So many observers have failed. -/
  | fail (count : Nat)

namespace Tree

/-- What comes of an act: what it yields, with the event that it is to be announced by, and the tree
that is left. -/
def act : Act ε → Tree ε → Except Error (Change Answer) × Tree ε
  | .mutate mutation, t => t.attempt mutation.apply
  | .resolve address, t =>
    let (found, store) := t.store.resolve address
    (.ok ⟨.maybeNode found, none⟩, { t with store })
  | .ask query, t => ((t.store.ask query).map fun answer => ⟨answer, none⟩, t)
  | .verify, t =>
    let (outcome, store) := t.store.verify
    (outcome.map fun verdict => ⟨.verdict verdict, none⟩, { t with store })
  | .subscribe node observer, t =>
    match t.subscribe node observer with
    | .error e => (.error e, t)
    | .ok (id, t) => (.ok ⟨.subscription id, none⟩, t)
  | .unsubscribe node id, t =>
    let (removed, t) := t.unsubscribe node id
    (.ok ⟨.truth removed, none⟩, t)
  | .turn id reaction, t => (.ok ⟨.done, none⟩, t.setReaction id reaction)
  | .fail count, t => (.ok ⟨.done, none⟩, t.onStore fun s => s.count (.failed count))

/-- The tree once the observer is registered at the node. -/
def subscribed (t : Tree ε) (node : NodeId) (observer : Observer ε) : Tree ε :=
  let store := t.store.onArena fun a =>
    a.modify node fun n => { n with observers := n.observers ++ [⟨t.observers.size + 1⟩] }
  ⟨{ store with subscribers := store.subscribers + 1 }, t.observers.push observer⟩

/-- A subscription is granted at every node that is there. -/
theorem subscribe_eq (t : Tree ε) (node : NodeId) (observer : Observer ε) :
    t.subscribe node observer =
      (t.store.arena.fetch node).map fun _ =>
        (⟨t.observers.size + 1⟩, t.subscribed node observer) := by
  unfold subscribe
  cases t.store.arena.fetch node <;> rfl

/-- The tree once the subscription at the node has ended. -/
def unsubscribed (t : Tree ε) (node : NodeId) (id : SubscriptionId) : Tree ε :=
  let store := t.store.onArena fun a =>
    a.modify node fun n => { n with observers := n.observers.filter fun other => other != id }
  { t with store := { store with subscribers := store.subscribers - 1 } }

theorem unsubscribe_eq (t : Tree ε) (node : NodeId) (id : SubscriptionId) :
    t.unsubscribe node id =
      if (t.store.arena.get? node).any fun n => n.observers.contains id then
        (true, t.unsubscribed node id)
      else (false, t) :=
  rfl

end Tree

/-- What happens to a session at one go. -/
inductive Session.Act (ε : Type) where
  | tree (act : Tree.Act ε)
  | beginWrite
  | beginRead
  /-- A write transaction performs a mutation. -/
  | mutate (number : Nat) (mutation : Mutation)
  /-- A transaction lets go of the lock; nobody is told yet. -/
  | release (number : Nat)
  /-- A transaction that has ended is forgotten. -/
  | forget (number : Nat)
  /-- All transactions are forgotten, if they have ended. -/
  | clear

namespace Session

/-- Whether the transaction holds the lock. -/
def holds : Transaction → Bool
  | .write tx => tx.active
  | .read active => active

/-- The lock once a transaction has let go of it. -/
def letGo (tx : Transaction) (t : Tree ε) : Tree ε :=
  match tx with
  | .write ⟨true, _⟩ => t.onStore Store.endWrite
  | .read true => t.onStore Store.endRead
  | .write ⟨false, _⟩ | .read false => t

/-- The transaction of that number, if it is there. -/
def transaction? (s : Session ε) (number : Nat) : Option Transaction :=
  s.transactions[number]?.join

theorem putTx_putTx (s : Session ε) (number : Nat) (tx tx' : Option Transaction) :
    (s.putTx number tx).putTx number tx' = s.putTx number tx' := by
  simp [putTx, Array.set!_eq_setIfInBounds]

theorem putTx_self {s : Session ε} {number : Nat} {tx : Option Transaction}
    (h : s.transactions[number]? = some tx) : s.putTx number tx = s := by
  have same : s.transactions.set! number tx = s.transactions := by
    apply Array.ext_getElem?
    intro i
    rw [Array.set!_eq_setIfInBounds, Array.getElem?_setIfInBounds]
    split
    · next here =>
      subst here
      have inside := (Array.getElem?_eq_some_iff.mp h).1
      rw [if_pos inside, h]
    · rfl
  rw [putTx, same]

theorem transaction?_putTx {s : Session ε} {number : Nat} (inside : number < s.transactions.size)
    (tx : Option Transaction) : (s.putTx number tx).transaction? number = tx := by
  simp [transaction?, putTx, Array.set!_eq_setIfInBounds, inside]

/-- What comes of an act.  An act of a transaction that is not there does nothing. -/
def act (s : Session ε) : Act ε → Except Error (Change Answer) × Session ε
  | .tree a => ((s.tree.act a).1, { s with tree := (s.tree.act a).2 })
  | .beginWrite =>
    let o := s.start s.tree.store.beginWrite (.write .fresh)
    (o.answer.map fun answer => ⟨answer, none⟩, o.session)
  | .beginRead =>
    let o := s.start s.tree.store.beginRead (.read true)
    (o.answer.map fun answer => ⟨answer, none⟩, o.session)
  | .mutate number mutation =>
    match s.transaction? number with
    | some (.write tx) =>
      let (outcome, tx, store) := tx.perform mutation s.tree.store
      (outcome.map fun answer => ⟨answer, none⟩,
        { s with tree := { s.tree with store } }.putTx number (some (.write tx)))
    | _ => (.ok ⟨.done, none⟩, s)
  | .release number =>
    match s.transaction? number with
    | some tx =>
      (.ok ⟨.done, none⟩, { s with tree := letGo tx s.tree }.putTx number (some tx.ended))
    | none => (.ok ⟨.done, none⟩, s)
  | .forget number =>
    match s.transaction? number with
    | some tx => (.ok ⟨.done, none⟩, if holds tx then s else s.putTx number none)
    | none => (.ok ⟨.done, none⟩, s)
  | .clear =>
    (.ok ⟨.done, none⟩,
      if s.transactions.any (fun tx => tx.any holds) then s else { s with transactions := #[] })

/-- The sessions that can come about on a new tree with these options.  Acts make those reachable,
too, that only an observer gets to see, in the middle of a notice. -/
inductive Reachable (options : Options) : Session Empty → Prop where
  | fresh {s : Session Empty} : ofOptions options = .ok s → Reachable options s
  | step {s : Session Empty} {step : Step Empty} {o : StepOutcome Empty} :
      Reachable options s → s.step step = some o → Reachable options o.session
  | close {s : Session Empty} : Reachable options s → Reachable options s.close.session
  | act {s : Session Empty} (a : Act Empty) : Reachable options s → Reachable options (s.act a).2

/-- The sessions that a session can turn into. -/
inductive Later : Session Empty → Session Empty → Prop where
  | refl (s : Session Empty) : Later s s
  | step {s s' : Session Empty} {step : Step Empty} {o : StepOutcome Empty} :
      Later s s' → s'.step step = some o → Later s o.session
  | close {s s' : Session Empty} : Later s s' → Later s s'.close.session
  | act {s s' : Session Empty} (a : Act Empty) : Later s s' → Later s (s'.act a).2

theorem Reachable.later {options : Options} {s s' : Session Empty} (h : s.Reachable options)
    (later : s.Later s') : s'.Reachable options := by
  induction later with
  | refl => exact h
  | step _ stepped ih => exact ih.step stepped
  | close _ ih => exact ih.close
  | act a _ ih => exact ih.act a

/-- Every reachable session has come from a new one. -/
theorem Reachable.origin {options : Options} {s : Session Empty} (h : s.Reachable options) :
    ∃ new, ofOptions options = .ok new ∧ new.Later s := by
  induction h with
  | @fresh s accepted => exact ⟨s, accepted, .refl s⟩
  | step _ stepped ih =>
    obtain ⟨new, accepted, later⟩ := ih
    exact ⟨new, accepted, later.step stepped⟩
  | close _ ih =>
    obtain ⟨new, accepted, later⟩ := ih
    exact ⟨new, accepted, later.close⟩
  | act a _ ih =>
    obtain ⟨new, accepted, later⟩ := ih
    exact ⟨new, accepted, later.act a⟩

/-- The session after a step, which stays as it is if the step has no outcome. -/
def next (s : Session Empty) (step : Step Empty) : Session Empty :=
  (s.step step).elim s StepOutcome.session

theorem Reachable.next {options : Options} {s : Session Empty} (h : s.Reachable options)
    (step : Step Empty) : (s.next step).Reachable options := by
  unfold Session.next
  cases stepped : s.step step with
  | none => exact h
  | some o => exact h.step stepped

theorem Later.next {s s' : Session Empty} (h : s.Later s') (step : Step Empty) :
    s.Later (s'.next step) := by
  unfold Session.next
  cases stepped : s'.step step with
  | none => exact h
  | some o => exact h.step stepped

/-- The outcomes of steps that are carried out one after the other. -/
def outcomes (s : Session Empty) : List (Step Empty) → List (Option (StepOutcome Empty))
  | [] => []
  | step :: rest => s.step step :: outcomes (s.next step) rest

/-- What acts yield, one after the other, and the sessions that they leave. -/
def acts (s : Session Empty) :
    List (Act Empty) → List (Except Error (Change Answer) × Session Empty)
  | [] => []
  | a :: rest => s.act a :: acts (s.act a).2 rest

end Session

end DeviceTree
