/-
The lock of a tree: any number of readers, or one writer.

An attempt is granted at once or not at all, for nobody else can let go of the lock while the
attempt waits.  The lock is not reentrant.  It decides by those who are in; the count of readers
that it shows is kept beside them, in a word of 32 bits that goes round when they do not suffice.

* **`Lock.admitWriter_eq_ok_iff`** -- a writer is admitted exactly when the lock is free;
* **`Lock.admitReader_eq_ok_iff`** -- a reader is admitted exactly when no writer is in;
* **`Lock.releaseWriter_of_admitWriter`**, **`Lock.releaseReader_of_admitReader`** -- letting
  go restores the lock.

A `GuardTable` numbers the guards of one lock in the order in which they were granted.
-/
import DeviceTree.Error

namespace DeviceTree

/-- Who holds the lock of a tree, how long an attempt waits for it, and what it shows of its
readers. -/
structure Lock where
  timeout : Duration
  /-- How many readers are in. -/
  inside : Nat
  writer : Bool
  /-- The count of readers that is shown; it is raised and lowered modulo `2 ^ 32`. -/
  shown : UInt32
  deriving DecidableEq, Repr

namespace Lock

/-- A lock that nobody holds. -/
def fresh (timeout : Duration) : Lock :=
  ⟨timeout, 0, false, 0⟩

/-- How many readers there are, as far as the lock shows. -/
def readers (l : Lock) : Nat :=
  l.shown.toNat

/-- Nobody holds the lock. -/
def isFree (l : Lock) : Bool :=
  l.inside = 0 && !l.writer

/-- Admits one more reader, unless a writer is in. -/
def admitReader (l : Lock) : Except Error Lock :=
  if l.writer then .error (.locked l.timeout)
  else .ok { l with inside := l.inside + 1, shown := l.shown + 1 }

/-- Admits a writer if the lock is free. -/
def admitWriter (l : Lock) : Except Error Lock :=
  if l.isFree then .ok { l with writer := true } else .error (.locked l.timeout)

/-- One reader leaves. -/
def releaseReader (l : Lock) : Lock :=
  { l with inside := l.inside - 1, shown := l.shown - 1 }

/-- The writer leaves. -/
def releaseWriter (l : Lock) : Lock :=
  { l with writer := false }

theorem admitWriter_eq_ok_iff {l l' : Lock} :
    l.admitWriter = .ok l' ↔ l.isFree = true ∧ l' = { l with writer := true } := by
  cases h : l.isFree <;> simp [admitWriter, h, eq_comm (a := l')]

theorem admitReader_eq_ok_iff {l l' : Lock} :
    l.admitReader = .ok l' ↔
      l.writer = false ∧ l' = { l with inside := l.inside + 1, shown := l.shown + 1 } := by
  cases h : l.writer <;> simp [admitReader, h, eq_comm (a := l')]

theorem releaseWriter_of_admitWriter {l l' : Lock} (h : l.admitWriter = .ok l') :
    l'.releaseWriter = l := by
  obtain ⟨free, rfl⟩ := admitWriter_eq_ok_iff.1 h
  simp only [isFree, Bool.and_eq_true, Bool.not_eq_true'] at free
  cases l
  simp_all [releaseWriter]

theorem releaseReader_of_admitReader {l l' : Lock} (h : l.admitReader = .ok l') :
    l'.releaseReader = l := by
  obtain ⟨-, rfl⟩ := admitReader_eq_ok_iff.1 h
  simp [releaseReader]

end Lock

/-- One way of holding a lock. -/
inductive Guard where
  | reader
  | writer
  deriving DecidableEq, Repr

/-- A lock with the guards it has granted; a guard that was let go leaves its number behind. -/
structure GuardTable where
  lock : Lock
  guards : Array (Option Guard)
  deriving DecidableEq, Repr

namespace GuardTable

/-- The table of a lock that nobody holds. -/
def fresh (timeout : Duration) : GuardTable :=
  ⟨.fresh timeout, #[]⟩

/-- Asks the lock for a guard and numbers it. -/
def acquire (t : GuardTable) (guard : Guard) : Except Error (Nat × GuardTable) :=
  let granted :=
    match guard with
    | .reader => t.lock.admitReader
    | .writer => t.lock.admitWriter
  granted.map fun lock => (t.guards.size, ⟨lock, t.guards.push (some guard)⟩)

/-- Lets go of a guard, and tells whether it was held. -/
def release (t : GuardTable) (number : Nat) : Bool × GuardTable :=
  match t.guards[number]?.join with
  | none => (false, t)
  | some .reader => (true, ⟨t.lock.releaseReader, t.guards.set! number none⟩)
  | some .writer => (true, ⟨t.lock.releaseWriter, t.guards.set! number none⟩)

end GuardTable

end DeviceTree
