/-
Mutations: the requests that change the structure of a tree.

The same mutations are asked of a tree, where each takes the lock for itself, and of a write
transaction, which holds it.  `Mutation.apply` is what they do once the lock is held.
-/
import DeviceTree.Answer
import DeviceTree.Store.Create
import DeviceTree.Store.Discard
import DeviceTree.Store.Edges

namespace DeviceTree

/-- A request that changes the structure of a tree. -/
inductive Mutation where
  | create (parent : Option NodeId) (identifier : String) (kind : ElementKind)
      (attachment : Option String)
  | createData (parent : Option NodeId) (identifier : String) (options : DataOptions)
  | add (parent child : NodeId)
  | remove (parent child : NodeId)
  | link (source target : NodeId) (identifier : Option String)
  | unlink (source : NodeId) (selector : LinkChoice)
  | discard (node : NodeId)
  deriving DecidableEq, Repr

/-- What a mutation does while the lock is held. -/
def Mutation.apply : Mutation → Request (Change Answer)
  | create parent identifier kind attachment =>
    Change.map .node <$> Store.create parent identifier kind attachment
  | createData parent identifier options =>
    Change.map .node <$> Store.createData parent identifier options
  | add parent child => Change.map (fun _ => .done) <$> Store.add parent child
  | remove parent child => Change.map (fun _ => .done) <$> Store.remove parent child
  | link source target identifier =>
    Change.map (fun _ => .done) <$> Store.link source target identifier
  | unlink source selector => Change.map .name <$> Store.unlink source selector
  | discard node => Change.map .count <$> Store.discard node

namespace Store

/-- Takes the lock for writing. -/
def beginWrite (s : Store) : Except Error Unit × Store :=
  match s.lock.admitWriter with
  | .error e => (.error e, s.count .refused)
  | .ok lock => (.ok (), { s with lock })

/-- Lets go of the lock that was held for writing. -/
def endWrite (s : Store) : Store :=
  { s with lock := s.lock.releaseWriter }

/-- Carries out a request under the lock, and lets go of the lock whatever came of it. -/
def exclusively {α : Type} (request : Request α) (s : Store) : Except Error α × Store :=
  match s.beginWrite with
  | (.error e, s) => (.error e, s)
  | (.ok (), s) =>
    match request s with
    | .ok a s => (.ok a, s.endWrite)
    | .error e s => (.error e, s.endWrite)

end Store

end DeviceTree
