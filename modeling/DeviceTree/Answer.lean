/-
Answers: what a request to a tree yields when it is granted.
-/
import DeviceTree.Counters
import DeviceTree.Event
import DeviceTree.Verify

namespace DeviceTree

/-- What a tree tells about itself. -/
structure TreeInfo where
  root : NodeId
  rootIdentifier : Identifier
  size : Nat
  cached : Nat
  cacheCapacity : Nat
  cacheEnabled : Bool
  deriving DecidableEq, Repr

/-- What a granted request yields. -/
inductive Answer where
  | done
  | node (id : NodeId)
  | maybeNode (id : Option NodeId)
  | nodes (ids : List NodeId)
  | count (n : Nat)
  | truth (b : Bool)
  | name (identifier : Identifier)
  | text (s : String)
  | maybeText (s : Option String)
  | kind (kind : ElementKind)
  | references (references : List Reference)
  | maybeSnapshot (snapshot : Option Snapshot)
  | info (info : TreeInfo)
  | dump (root : Identifier) (nodes : List Snapshot)
  | verdict (verdict : Verdict)
  | counters (counters : Option Counters)
  | subscription (id : SubscriptionId)
  /-- Whether a transaction holds the lock, and what a write transaction has done. -/
  | status (active : Bool) (operations : Option Nat)
  deriving DecidableEq, Repr

end DeviceTree
