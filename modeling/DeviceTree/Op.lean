/-
Operations, and the observers that carry them out.

An observer is registered at a node and is told of the changes at or below it.  It may take the
event, fail, panic, or call back into the tree with a script of operations.  `ε` is the type of
raw edits that operations may contain; the operations of `Op Empty` are those of the tree alone.

The error of an observer that fails is of the observer's own making.  The tree asks it for its text
and relies on what holds of errors in general: that formatting one does not fail.

Every observer that calls back does so a limited number of times.  `Op.weight` counts how many
calls an operation can bring about at most; it bounds how deep notices nest.
-/
import DeviceTree.Mutation

namespace DeviceTree

/-- A question about the tree that changes nothing. -/
inductive Query where
  | child (node : NodeId) (identifier : String)
  | node (id : NodeId)
  | address (node : NodeId)
  | identifier (node : NodeId)
  | kind (node : NodeId)
  | parent (node : NodeId)
  | attachment (node : NodeId)
  | forward (node : NodeId)
  | inverse (node : NodeId)
  | children (node : NodeId)
  | links (node : NodeId)
  | descendants (node : NodeId)
  | contains (node : NodeId)
  | observerCount (node : NodeId)
  | info
  | dump
  | counters
  deriving DecidableEq, Repr

/-- An error that an observer returns. -/
structure ObserverError where
  /-- The text as which it is formatted; nothing if that fails. -/
  format : Option String
  /-- Formatting an error does not fail: whoever implements one sees to that. -/
  formats : format.isSome = true

namespace ObserverError

/-- The text as which the error is formatted. -/
def text (e : ObserverError) : String :=
  e.format.get e.formats

/-- The error that is nothing but a text. -/
@[coe] def ofText (text : String) : ObserverError :=
  ⟨some text, rfl⟩

instance : Coe String ObserverError :=
  ⟨ofText⟩

end ObserverError

/-- How a row of new elements is laid out. -/
inductive Layout where
  /-- Each element under the one before. -/
  | chain
  /-- All elements side by side. -/
  | fan
  deriving DecidableEq, Repr

mutual

/-- An operation on a tree. -/
inductive Op (ε : Type) where
  | mutate (mutation : Mutation)
  /-- Creates `count` elements named `stem` and a number, one after the other. -/
  | grow (layout : Layout) (parent : Option NodeId) (stem : String) (count : Nat)
  | resolve (address : String)
  | ask (query : Query)
  | verify
  | subscribe (node : NodeId) (label : String) (reaction : Reaction ε)
  | unsubscribe (node : NodeId) (subscription : SubscriptionId)
  /-- Tells observers of an event that no change brought about. -/
  | raise (action : Action) (source : NodeId) (target : Option NodeId)
      (identifier : Option String)
  | edit (edit : ε)

/-- What an observer does with an event. -/
inductive Reaction (ε : Type) where
  | accept
  | fail (error : ObserverError)
  /-- Panics, with a text or with something else. -/
  | panic (payload : Option String)
  /-- Carries out the script, but only the next `times` times; then takes the event. -/
  | call (times : Nat) (script : List (Op ε))

end

/-- An observer, with the name by which a log knows it. -/
structure Observer (ε : Type) where
  label : String
  reaction : Reaction ε

mutual

/-- How many calls the operation can bring about at most, through observers that it registers. -/
def Op.weight {ε : Type} : Op ε → Nat
  | .subscribe _ _ reaction => reaction.weight
  | _ => 0

/-- How many calls the reaction can bring about at most. -/
def Reaction.weight {ε : Type} : Reaction ε → Nat
  | .call times script => times * (1 + scriptWeight script)
  | _ => 0

/-- How many calls a script can bring about at most. -/
def scriptWeight {ε : Type} : List (Op ε) → Nat
  | [] => 0
  | op :: rest => op.weight + scriptWeight rest

end

/-- What a panic says of itself. -/
def panicText : Option String → String
  | some payload => "observer panicked: " ++ payload
  | none => "observer panicked"

end DeviceTree
