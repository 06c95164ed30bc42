/-
The tree: a store, and the observers that were registered in it.

Operations run one after the other, each to its end; what observers do on the way is part of the
operation.  An operation yields its value, the tree afterwards and a log of what observers heard
and did.
-/
import DeviceTree.Op

namespace DeviceTree

/-- A device tree. -/
structure Tree (ε : Type) where
  store : Store
  /-- Every observer that was ever registered, in the order of the subscriptions. -/
  observers : Array (Observer ε)

/-- What a log tells of one observer. -/
inductive Entry where
  /-- The observer at a node was told of an event. -/
  | heard (node : NodeId) (subscription : SubscriptionId) (label : String) (event : Event)
  /-- The observer carried out one operation of its script. -/
  | ran (subscription : SubscriptionId) (label : String) (outcome : Except Error Answer)

/-- A value, with what came of the tree and of its observers on the way. -/
structure Traced (ε α : Type) where
  value : α
  tree : Tree ε
  log : List Entry

namespace Traced

variable {ε α β : Type}

/-- Changes the value. -/
def map (f : α → β) (r : Traced ε α) : Traced ε β :=
  ⟨f r.value, r.tree, r.log⟩

/-- Goes on from the tree that is left. -/
def andThen (r : Traced ε α) (f : α → Tree ε → Traced ε β) : Traced ε β :=
  let next := f r.value r.tree
  ⟨next.value, next.tree, r.log ++ next.log⟩

end Traced

namespace Tree

variable {ε : Type}

/-- A value without any trace. -/
def yield {α : Type} (t : Tree ε) (value : α) : Traced ε α :=
  ⟨value, t, []⟩

/-- The tree of a store in which nobody has subscribed. -/
def ofStore (store : Store) : Tree ε :=
  ⟨store, #[]⟩

/-- A new tree. -/
def ofOptions (options : Options) : Except Error (Tree ε) :=
  (Store.ofOptions options).map ofStore

/-- Changes the store. -/
def onStore (t : Tree ε) (f : Store → Store) : Tree ε :=
  { t with store := f t.store }

/-- The observer of a subscription.  Subscriptions count from one. -/
def observer? (t : Tree ε) (id : SubscriptionId) : Option (Observer ε) :=
  match id.number with
  | 0 => none
  | place + 1 => t.observers[place]?

/-- Gives the observer of a subscription another reaction. -/
def setReaction (t : Tree ε) (id : SubscriptionId) (reaction : Reaction ε) : Tree ε :=
  match id.number with
  | 0 => t
  | place + 1 =>
    { t with observers := t.observers.modify place fun o => { o with reaction } }

/-- How many calls the registered observers can make at most. -/
def weight (t : Tree ε) : Nat :=
  t.observers.toList.foldr (fun o n => o.reaction.weight + n) 0

/-- Registers an observer at a node. -/
def subscribe (t : Tree ε) (node : NodeId) (observer : Observer ε) :
    Except Error (SubscriptionId × Tree ε) := do
  let _ ← t.store.arena.fetch node
  let id : SubscriptionId := ⟨t.observers.size + 1⟩
  let store := t.store.onArena fun a =>
    a.modify node fun n => { n with observers := n.observers ++ [id] }
  return (id, ⟨{ store with subscribers := store.subscribers + 1 }, t.observers.push observer⟩)

/-- Ends a subscription at a node, and tells whether there was one. -/
def unsubscribe (t : Tree ε) (node : NodeId) (id : SubscriptionId) : Bool × Tree ε :=
  if (t.store.arena.get? node).any fun n => n.observers.contains id then
    let store := t.store.onArena fun a =>
      a.modify node fun n => { n with observers := n.observers.filter fun other => other != id }
    (true, { t with store := { store with subscribers := store.subscribers - 1 } })
  else (false, t)

end Tree

end DeviceTree
