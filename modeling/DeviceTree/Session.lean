/-
Sessions: a tree together with the transactions that were begun on it.

Transactions are numbered in the order in which they began.  Operations that do not name one go
to the tree itself, also while a transaction holds the lock; they are then refused if they need
it.  At the end of a session every transaction that is still there is dropped.
-/
import DeviceTree.Manifest

namespace DeviceTree

/-- A step within a transaction. -/
inductive TxStep where
  | finish
  /-- Ends the transaction and forgets it; failures of observers are not told. -/
  | drop
  | status
  | resolve (address : String)
  | mutate (mutation : Mutation)
  /-- Carries out the manifest that a document describes. -/
  | apply (document : String)
  deriving DecidableEq, Repr

/-- A step of a session. -/
inductive Step (ε : Type) where
  | perform (op : Op ε)
  | beginWrite
  | beginRead
  | within (number : Nat) (step : TxStep)

/-- A tree, with its transactions; a transaction that was dropped leaves its number behind. -/
structure Session (ε : Type) where
  tree : Tree ε
  transactions : Array (Option Transaction)

/-- What came of a step. -/
structure StepOutcome (ε : Type) where
  answer : Except Error Answer
  session : Session ε
  log : List Entry

namespace Session

variable {ε : Type}

/-- A session on a new tree. -/
def ofOptions (options : Options) : Except Error (Session ε) :=
  (Tree.ofOptions options).map fun tree => ⟨tree, #[]⟩

/-- Changes the tree of a session. -/
def settle (s : Session ε) (r : Traced ε (Except Error Answer)) : StepOutcome ε :=
  ⟨r.value, { s with tree := r.tree }, r.log⟩

/-- Begins a transaction, if the lock is granted. -/
def start (s : Session ε) (begun : Except Error Unit × Store) (tx : Transaction) :
    StepOutcome ε :=
  let tree := { s.tree with store := begun.2 }
  match begun.1 with
  | .error e => ⟨.error e, { s with tree }, []⟩
  | .ok () =>
    ⟨.ok (.count s.transactions.size), ⟨tree, s.transactions.push (some tx)⟩, []⟩

/-- Puts back a transaction. -/
def putTx (s : Session ε) (number : Nat) (tx : Option Transaction) : Session ε :=
  { s with transactions := s.transactions.set! number tx }

/-- Carries out a manifest within a write transaction, and tells how many of its operations have
succeeded by then. -/
def applyManifest (s : Session ε) (number : Nat) (tx : WriteTransaction) (document : String) :
    StepOutcome ε :=
  match Manifest.ofText document with
  | .error defect => ⟨.error (.malformed "" defect), s, []⟩
  | .ok manifest =>
    let (outcome, b) := manifest.apply ⟨tx, s.tree.store⟩
    let s := { s with tree := { s.tree with store := b.store } }
    ⟨outcome.map fun _ => .count b.tx.operations, s.putTx number (some (.write b.tx)), []⟩

/-- Carries out a step within the transaction of that number.  There is no outcome if a read
transaction is asked for what only a write transaction can do. -/
def stepWithin [DirectEdit ε] (s : Session ε) (number : Nat) (tx : Transaction) :
    TxStep → Option (StepOutcome ε)
  | .finish =>
    let r := (tx.finish s.tree).map fun outcome => outcome.map fun _ => Answer.done
    some ((s.putTx number (some tx.ended)).settle r)
  | .drop =>
    let r := (tx.finish s.tree).map fun _ => .ok (Answer.truth true)
    some ((s.putTx number none).settle r)
  | .status =>
    match tx with
    | .write tx => some (s.settle (s.tree.yield (.ok (.status tx.active (some tx.operations)))))
    | .read active => some (s.settle (s.tree.yield (.ok (.status active none))))
  | .resolve address => some (s.settle (s.tree.perform (.resolve address)))
  | .mutate mutation =>
    match tx with
    | .write tx =>
      let (outcome, tx, store) := tx.perform mutation s.tree.store
      let s := { s with tree := { s.tree with store } }
      some ⟨outcome, s.putTx number (some (.write tx)), []⟩
    | .read _ => none
  | .apply document =>
    match tx with
    | .write tx => some (s.applyManifest number tx document)
    | .read _ => none

/-- Carries out a step.  There is no outcome if it names a transaction that is not there, but to
drop one twice is no fault. -/
def step [DirectEdit ε] (s : Session ε) : Step ε → Option (StepOutcome ε)
  | .perform op => some (s.settle (s.tree.perform op))
  | .beginWrite => some (s.start s.tree.store.beginWrite (.write .fresh))
  | .beginRead => some (s.start s.tree.store.beginRead (.read true))
  | .within number step =>
    match s.transactions[number]? with
    | none => none
    | some none =>
      match step with
      | .drop => some (s.settle (s.tree.yield (.ok (.truth false))))
      | _ => none
    | some (some tx) => s.stepWithin number tx step

/-- Drops the given transactions, one after the other. -/
def dropAll [DirectEdit ε] : List (Option Transaction) → Tree ε → Traced ε Unit
  | [], t => t.yield ()
  | none :: rest, t => dropAll rest t
  | some tx :: rest, t => (tx.finish t).andThen fun _ t => dropAll rest t

/-- Ends the session: drops every transaction that is still there. -/
def close [DirectEdit ε] (s : Session ε) : StepOutcome ε :=
  let r := (dropAll s.transactions.toList s.tree).map fun _ => .ok Answer.done
  { s with transactions := #[] }.settle r

end Session

end DeviceTree
