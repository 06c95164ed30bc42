/-
Transactions: one hold of the lock for many requests.

A write transaction performs mutations on the store while it holds the lock.  Nothing is undone
if one of them fails, and no observer is told until the transaction ends.  A read transaction
keeps writers out.
-/
import DeviceTree.Mutation
import DeviceTree.Tree.Perform

namespace DeviceTree

/-- A write transaction: whether it still holds the lock, and how many mutations succeeded. -/
structure WriteTransaction where
  active : Bool
  operations : Nat
  deriving DecidableEq, Repr

namespace WriteTransaction

/-- A transaction that has just taken the lock. -/
def fresh : WriteTransaction :=
  ⟨true, 0⟩

/-- Performs a mutation under the lock that the transaction holds. -/
def perform (tx : WriteTransaction) (mutation : Mutation) (s : Store) :
    Except Error Answer × WriteTransaction × Store :=
  if tx.active then
    match mutation.apply s with
    | .error e s => (.error e, tx, s)
    | .ok change s => (.ok change.value, { tx with operations := tx.operations + 1 }, s)
  else (.error .transactionEnded, tx, s)

end WriteTransaction

namespace Store

/-- Takes the lock for a read transaction. -/
def beginRead (s : Store) : Except Error Unit × Store :=
  match s.lock.admitReader with
  | .error e => (.error e, s.count .refused)
  | .ok lock => (.ok (), { s with lock })

/-- Lets go of the lock that a read transaction held. -/
def endRead (s : Store) : Store :=
  { s with lock := s.lock.releaseReader }

end Store

/-- A transaction on a tree. -/
inductive Transaction where
  | write (tx : WriteTransaction)
  | read (active : Bool)
  deriving DecidableEq, Repr

namespace Transaction

variable {ε : Type}

/-- The transaction holds the lock no more. -/
def ended : Transaction → Transaction
  | write tx => write { tx with active := false }
  | read _ => read false

/-- Ends the transaction.  A write transaction lets go of the lock and then tells observers that
the tree has changed; to end twice does nothing. -/
def finish [DirectEdit ε] (tx : Transaction) (t : Tree ε) : Traced ε (Except Error Unit) :=
  match tx with
  | write ⟨true, _⟩ => (t.onStore Store.endWrite).raise .batch
  | read true => (t.onStore Store.endRead).yield (.ok ())
  | write ⟨false, _⟩ | read false => t.yield (.ok ())

end Transaction

end DeviceTree
