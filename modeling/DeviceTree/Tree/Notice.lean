/-
Notices: how an event reaches the observers.

The observers at the source of the event are told first, then those at its parent, and so on up
to the top.  At each node they are told in the order in which they subscribed, and each of them
even if others failed.  The list of a node is read when the notice gets there, and its parent
when its observers are done, so that an observer may change the tree under way.

The walk is written over a way of performing operations; `Tree.Perform` closes the circle.
-/
import DeviceTree.Tree

namespace DeviceTree

variable {ε : Type}

/-- A way of performing an operation. -/
abbrev Performer (ε : Type) := Op ε → Tree ε → Traced ε (Except Error Answer)

/-- A way of telling observers of an event; it yields the failures. -/
abbrev Notifier (ε : Type) := Event → Tree ε → Traced ε (List Failure)

/-- What a script learns from an answer: everything but the counters. -/
def Answer.forScript : Answer → Answer
  | counters _ => counters none
  | answer => answer

/-- Carries out the script of an observer. -/
def runScript (perform : Performer ε) (id : SubscriptionId) (label : String) :
    List (Op ε) → Tree ε → Traced ε Unit
  | [], t => t.yield ()
  | op :: rest, t =>
    (perform op t).andThen fun outcome t =>
      (⟨(), t, [.ran id label (outcome.map Answer.forScript)]⟩ : Traced ε Unit).andThen
        fun _ t => runScript perform id label rest t

namespace Tree

/-- What one observer does with the event; yields the message if it fails. -/
def react (perform : Performer ε) (id : SubscriptionId) (o : Observer ε) (t : Tree ε) :
    Traced ε (Option String) :=
  match o.reaction with
  | .accept => t.yield none
  | .fail error => t.yield (some error.text)
  | .panic payload => t.yield (some (panicText payload))
  | .call 0 _ => t.yield none
  | .call (times + 1) script =>
    (runScript perform id o.label script (t.setReaction id (.call times script))).map fun _ => none

/-- Tells one observer at `node` of the event. -/
def tell (perform : Performer ε) (node : NodeId) (event : Event) (id : SubscriptionId)
    (t : Tree ε) : Traced ε (List Failure) :=
  match t.observer? id with
  | none => t.yield []
  | some o =>
    (⟨(), t, [.heard node id o.label event]⟩ : Traced ε Unit).andThen fun _ t =>
      (t.react perform id o).map fun failure =>
        (failure.map fun message => ⟨node, id, message⟩).toList

/-- Tells the observers of the given subscriptions, one after the other. -/
def tellAll (perform : Performer ε) (node : NodeId) (event : Event) :
    List SubscriptionId → Tree ε → Traced ε (List Failure)
  | [], t => t.yield []
  | id :: rest, t =>
    (t.tell perform node event id).andThen fun failures t =>
      (tellAll perform node event rest t).map fun more => failures ++ more

/-- Tells the observers at `node` and at the nodes above it, over `hops` nodes at most. -/
def bubble (perform : Performer ε) (event : Event) :
    (hops : Nat) → NodeId → Tree ε → Traced ε (List Failure)
  | 0, _, t => t.yield []
  | hops + 1, id, t =>
    match t.store.arena.get? id with
    | none => t.yield []
    | some node =>
      (t.tellAll perform id event node.observers).andThen fun failures t =>
        match t.store.arena.lastParent id with
        | none => t.yield failures
        | some parent => (bubble perform event hops parent t).map fun more => failures ++ more

/-- Tells every observer that the event concerns, and counts the failures.  Nothing happens while
nobody is subscribed anywhere. -/
def notifyWith (perform : Performer ε) : Notifier ε := fun event t =>
  if t.store.subscribers = 0 then t.yield []
  else
    let told := t.bubble perform event (t.store.arena.size + 1) event.source
    { told with
      tree := told.tree.onStore fun s => s.count (.failed told.value.length) }

end Tree

end DeviceTree
