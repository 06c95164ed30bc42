/-
The store: everything that a tree keeps, apart from what its observers do.

A request works on the store step by step.  It yields a value or fails, and what it has done by
then stays done either way; that it checks everything before it changes anything is a theorem
about each request and not a matter of its type.
-/
import DeviceTree.Arena.Wiring
import DeviceTree.Counters
import DeviceTree.Event
import DeviceTree.Lock
import DeviceTree.Options

namespace DeviceTree

/-- Everything that a tree keeps, apart from what its observers do. -/
structure Store where
  arena : Arena
  rootIdentifier : Identifier
  lock : Lock
  cache : AddressCache
  /-- What was counted, if the tree keeps counters. -/
  counters : Option Counters
  /-- The number of subscriptions at nodes of the arena. -/
  subscribers : Nat

/-- A request: it reads and changes a store, and yields a value or fails. -/
abbrev Request (α : Type) := EStateM Error Store α

/-- A check on its own touches nothing. -/
instance : MonadLift (Except Error) Request where
  monadLift
    | .ok a => pure a
    | .error e => throw e

/-- What a granted change yields. -/
structure Change (α : Type) where
  value : α
  /-- The event that observers are told. -/
  event : Option Event

/-- Changes the value. -/
def Change.map {α β : Type} (f : α → β) (c : Change α) : Change β :=
  ⟨f c.value, c.event⟩

/-- Reads an identifier from a request. -/
def readName (raw : String) : Except Error Identifier :=
  (Identifier.ofString raw).mapError .badIdentifier

namespace Store

/-- A store that holds only a root. -/
def ofRoot (options : Options) (root : Identifier) : Store :=
  { arena := .ofRoot root
    rootIdentifier := root
    lock := .fresh options.lockTimeout
    cache := .fresh options.cacheCapacity options.cacheEnabled options.eviction
    counters := if options.counting then some .zero else none
    subscribers := 0 }

/-- The store of a new tree. -/
def ofOptions (options : Options) : Except Error Store :=
  (readName options.rootIdentifier).map (ofRoot options)

/-- Counts something, if the tree keeps counters. -/
def count (s : Store) (f : Counters → Counters) : Store :=
  { s with counters := s.counters.map f }

/-- Changes the arena. -/
def onArena (s : Store) (f : Arena → Arena) : Store :=
  { s with arena := f s.arena }

/-- Forgets every resolution, because the tree has changed. -/
def invalidate (s : Store) : Store :=
  { s with cache := s.cache.invalidate }.count .flushed

/-- Puts a new node at the next place. -/
def insert (s : Store) (node : Node) : Store :=
  (s.onArena fun a => a.push node).count .created

/-- Makes a child edge. -/
def makeChild (s : Store) (parent child : NodeId) (name : Identifier) : Store :=
  (s.onArena fun a => a.attach parent child name).count .adopted

/-- Unmakes a child edge. -/
def unmakeChild (s : Store) (parent child : NodeId) : Store :=
  (s.onArena fun a => a.detach parent child).count .released

/-- Makes a link. -/
def makeLink (s : Store) (source target : NodeId) (name : Identifier) : Store :=
  (s.onArena fun a => a.link source target name).count .linked

/-- Unmakes a link. -/
def unmakeLink (s : Store) (source target : NodeId) : Store :=
  (s.onArena fun a => a.unlink source target).count .unlinked

/-- Empties a place; the subscriptions at its node are gone. -/
def vacate (s : Store) (id : NodeId) : Store :=
  match s.arena.get? id with
  | none => s
  | some node =>
    ({ s with subscribers := s.subscribers - node.observers.length }.onArena
      fun a => a.vacate id).count .discarded

/-- Puts a new node at the next place, and yields the place. -/
def place (node : Node) : Request NodeId := do
  let id := (← get).arena.nextId
  modify fun s => s.insert node
  return id

/-- The node at a place, which has to be there. -/
def fetch (id : NodeId) : Request Node := do
  (← get).arena.fetch id

/-- Refuses a request when the condition holds. -/
def refuseIf (condition : Prop) [Decidable condition] (e : Error) : Except Error Unit :=
  if condition then .error e else .ok ()

/-- Refuses a request when something was found. -/
def refuseAny {α : Type} (found : Option α) (e : α → Error) : Except Error Unit :=
  match found with
  | some a => .error (e a)
  | none => .ok ()

/-- A name that no forward reference of the node has. -/
def requireFreeName (holder : Node) (name : Identifier) : Except Error Unit :=
  refuseAny (holder.named? name.text) fun _ => .nameTaken holder.address name

/-- A target to which the node has no forward reference. -/
def requireUnreferenced (holder : Node) (target : NodeId) : Except Error Unit :=
  refuseAny (holder.toward? target) fun _ => .alreadyReferenced holder.address target

end Store

end DeviceTree
