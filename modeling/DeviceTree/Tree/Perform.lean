/-
Performing operations on a tree.

A structural change takes the lock, is applied, lets go of the lock, and is then told to the
observers; their failures do not touch its value.  Observers that call back perform operations in
turn.  Each such call uses up one of the limited number of calls, so that notices nest no deeper
than the weight of the tree and the operation.

* **`Tree.perform`** -- one operation, with everything that observers do on the way;
* **`Tree.raise`** -- one event.
-/
import DeviceTree.RawEdit
import DeviceTree.Store.Ask
import DeviceTree.Tree.Notice

namespace DeviceTree

variable {ε : Type}

namespace Tree

/-- Carries out a request under the lock. -/
def attempt {α : Type} (request : Request α) (t : Tree ε) : Except Error α × Tree ε :=
  let (outcome, store) := t.store.exclusively request
  (outcome, { t with store })

/-- Makes a change under the lock, and tells observers of it afterwards. -/
def change {α : Type} (notify : Notifier ε) (request : Request (Change α)) (t : Tree ε) :
    Traced ε (Except Error α) :=
  match t.attempt request with
  | (.error e, t) => t.yield (.error e)
  | (.ok change, t) =>
    match change.event with
    | none => t.yield (.ok change.value)
    | some event => (notify event t).map fun _ => .ok change.value

/-- The element with which a row of new elements starts: a chain hangs on its parent. -/
def firstOfRow (layout : Layout) (parent : Option NodeId) : Option NodeId :=
  match layout with
  | .chain => parent
  | .fan => none

/-- Creates the rest of a row of elements, of which `made` are there and `last` is the last one.
Stops at the first that cannot be created. -/
def growRest (notify : Notifier ε) (layout : Layout) (parent : Option NodeId) (stem : String) :
    (left : Nat) → (made : Nat) → (last : Option NodeId) → Tree ε →
      Traced ε (Except Error (Option NodeId))
  | 0, _, last, t => t.yield (.ok last)
  | left + 1, made, last, t =>
    let above :=
      match layout with
      | .chain => last
      | .fan => parent
    (t.change notify (Store.create above (stem ++ toString made) .group none)).andThen
        fun created t =>
      match created with
      | .error e => t.yield (.error e)
      | .ok id => growRest notify layout parent stem left (made + 1) (some id) t

/-- Tells observers of an event, and yields the error that lists their failures. -/
def announce (notify : Notifier ε) (event : Event) (t : Tree ε) :
    Traced ε (Except Error Unit) :=
  (notify event t).map fun failures =>
    if failures.isEmpty then .ok () else .error (.observersFailed failures)

/-- Performs an operation, given a way of telling observers of events. -/
def performWith [DirectEdit ε] (notify : Notifier ε) (op : Op ε) (t : Tree ε) :
    Traced ε (Except Error Answer) :=
  match op with
  | .mutate mutation => t.change notify mutation.apply
  | .grow layout parent stem count =>
    (t.growRest notify layout parent stem count 0 (firstOfRow layout parent)).map fun r =>
      r.map .maybeNode
  | .resolve address =>
    let (found, store) := t.store.resolve address
    yield { t with store } (.ok (.maybeNode found))
  | .ask query => t.yield (t.store.ask query)
  | .verify =>
    let (outcome, store) := t.store.verify
    yield { t with store } (outcome.map .verdict)
  | .subscribe node label reaction =>
    match t.subscribe node ⟨label, reaction⟩ with
    | .error e => t.yield (.error e)
    | .ok (id, t) => t.yield (.ok (.subscription id))
  | .unsubscribe node id =>
    let (removed, t) := t.unsubscribe node id
    t.yield (.ok (.truth removed))
  | .raise action source target identifier =>
    match identifier.mapM readName with
    | .error e => t.yield (.error e)
    | .ok name =>
      (t.announce notify ⟨action, source, target, name⟩).map fun r => r.map fun _ => .done
  | .edit edit =>
    let (outcome, store) := DirectEdit.apply edit t.store
    yield { t with store } (outcome.map fun _ => .done)

/-- Tells observers of an event, where notices nest at most `depth` deep. -/
def notifyWithin [DirectEdit ε] : (depth : Nat) → Notifier ε
  | 0 => notifyWith fun _ t => t.yield (.ok .done)
  | depth + 1 => notifyWith (performWith (notifyWithin depth))

/-- Tells observers of an event; yields the failures. -/
def notify [DirectEdit ε] (event : Event) (t : Tree ε) : Traced ε (List Failure) :=
  notifyWithin t.weight event t

/-- Tells observers of an event; fails if one of them does. -/
def raise [DirectEdit ε] (event : Event) (t : Tree ε) : Traced ε (Except Error Unit) :=
  t.announce notify event

/-- Performs an operation, with everything that observers do on the way. -/
def perform [DirectEdit ε] (op : Op ε) (t : Tree ε) : Traced ε (Except Error Answer) :=
  performWith (notifyWithin (t.weight + op.weight)) op t

/-- Performs operations one after the other, whatever becomes of each. -/
def performAll [DirectEdit ε] : List (Op ε) → Tree ε → Traced ε (List (Except Error Answer))
  | [], t => t.yield []
  | op :: rest, t =>
    (t.perform op).andThen fun outcome t => (performAll rest t).map fun more => outcome :: more

end Tree

end DeviceTree
