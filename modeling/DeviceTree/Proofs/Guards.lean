/-
Guards and the lock that grants them.

A lock counts its readers and knows whether a writer is in.  Both are kept beside the guards that
are held, and say the same as these (`Lock.Holds`).  What a lock promises of its attempts (`Grants`)
is therefore what its counts decide.  The count that it shows has 32 bits: it says how many guards
of readers are held modulo `2 ^ 32`, and so says it exactly while there are fewer.

* `Lock.Holds.letIn` -- an attempt is granted as the guards that are held allow;
* `Lock.Holds.enter`, `Lock.Holds.leave` -- one guard more, one guard less, and the counts go along;
* `Lock.Holds.readers_eq_iff`, `Lock.Holds.readers_leave` -- what is shown while 32 bits are enough;
* `GuardTable.Reached.holds` -- numbered guards, over every run.
-/
import DeviceTree.Lock
import Mathlib.Algebra.Group.Nat.Defs
import Mathlib.Data.List.Count
import Mathlib.Data.List.Perm.Basic

namespace DeviceTree

/-- What a lock promises: an attempt to read is granted exactly while no guard of a writer is held,
an attempt to write exactly while no guard is. -/
structure Grants (grants : Guard → List Guard → Bool) : Prop where
  reader : ∀ held, grants .reader held = true ↔ .writer ∉ held
  writer : ∀ held, grants .writer held = true ↔ held = []

/-- Whether a guard goes with those that are held. -/
def Guard.fits (guard : Guard) (held : List Guard) : Bool :=
  match guard with
  | .reader => .writer ∉ held
  | .writer => held = []

theorem Guard.grants_fits : Grants Guard.fits :=
  ⟨by simp [fits], by simp [fits]⟩

namespace Lock

/-- Admits one more guard. -/
def letIn (guard : Guard) (l : Lock) : Except Error Lock :=
  match guard with
  | .reader => l.admitReader
  | .writer => l.admitWriter

/-- The lock with one guard more. -/
def enter (guard : Guard) (l : Lock) : Lock :=
  match guard with
  | .reader => { l with inside := l.inside + 1, shown := l.shown + 1 }
  | .writer => { l with writer := true }

/-- The lock with one guard less. -/
def leave (guard : Guard) (l : Lock) : Lock :=
  match guard with
  | .reader => l.releaseReader
  | .writer => l.releaseWriter

/-- The lock says how many guards are held of each kind, and a writer is alone. -/
structure Holds (l : Lock) (held : List Guard) : Prop where
  inside : l.inside = held.count .reader
  /-- The count that is shown, as far as its 32 bits go. -/
  readers : l.readers = held.count .reader % 2 ^ 32
  writer : l.writer = true ↔ .writer ∈ held
  alone : .writer ∈ held → held = [.writer]

theorem holds_fresh (timeout : Duration) : (fresh timeout).Holds [] where
  inside := rfl
  readers := rfl
  writer := by simp [fresh]
  alone mem := absurd mem List.not_mem_nil

theorem timeout_enter (guard : Guard) (l : Lock) : (l.enter guard).timeout = l.timeout := by
  cases guard <;> rfl

theorem timeout_leave (guard : Guard) (l : Lock) : (l.leave guard).timeout = l.timeout := by
  cases guard <;> rfl

/-- The count that is shown goes up modulo `2 ^ 32`. -/
theorem readers_enter (l : Lock) : (l.enter .reader).readers = (l.readers + 1) % 2 ^ 32 :=
  UInt32.toNat_add l.shown 1

/-- The count that is shown goes down modulo `2 ^ 32`. -/
theorem readers_leave (l : Lock) :
    (l.leave .reader).readers = (2 ^ 32 - 1 + l.readers) % 2 ^ 32 :=
  UInt32.toNat_sub l.shown 1

namespace Holds

variable {l : Lock} {held held' : List Guard} {guard : Guard} {grants : Guard → List Guard → Bool}

theorem isFree_iff (h : l.Holds held) : l.isFree = true ↔ held = [] := by
  simp only [isFree, Bool.and_eq_true, decide_eq_true_eq, Bool.not_eq_true', h.inside]
  constructor
  · rintro ⟨none, out⟩
    refine List.eq_nil_iff_forall_not_mem.mpr fun g mem => ?_
    cases g with
    | reader => exact List.count_eq_zero.mp none mem
    | writer => exact absurd (h.writer.mpr mem) (by simp [out])
  · rintro rfl
    refine ⟨rfl, ?_⟩
    simpa using mt h.writer.mp List.not_mem_nil

/-- **An attempt is granted as the guards that are held allow.** -/
theorem letIn (h : l.Holds held) (promise : Grants grants) (guard : Guard) :
    l.letIn guard =
      if grants guard held then .ok (l.enter guard) else .error (.locked l.timeout) := by
  cases guard with
  | reader =>
    have out : (grants .reader held = true) ↔ l.writer = false := by
      rw [promise.reader, ← h.writer, Bool.not_eq_true]
    rw [Lock.letIn, admitReader]
    cases inside : l.writer <;> simp_all [enter]
  | writer =>
    have free : (grants .writer held = true) ↔ l.isFree = true := by
      rw [promise.writer, h.isFree_iff]
    rw [Lock.letIn, admitWriter]
    cases idle : l.isFree <;> simp_all [enter]

/-- One guard more, that was granted. -/
theorem enter (h : l.Holds held) (promise : Grants grants) (granted : grants guard held = true) :
    (l.enter guard).Holds (held ++ [guard]) := by
  cases guard with
  | reader =>
    have out := (promise.reader held).mp granted
    have writerless : Guard.writer ∉ held ++ [Guard.reader] := by simp [out]
    have count : (held ++ [Guard.reader]).count .reader = held.count .reader + 1 := by simp
    refine ⟨?_, ?_, ?_, fun mem => absurd mem writerless⟩
    · rw [count, ← h.inside]
      rfl
    · rw [readers_enter, h.readers, count]
      omega
    · show l.writer = true ↔ _
      exact iff_of_false (mt h.writer.mp out) writerless
  | writer =>
    obtain rfl := (promise.writer held).mp granted
    exact ⟨h.inside, h.readers, by simp [Lock.enter], fun _ => rfl⟩

/-- One guard less.  No count falls short: one more makes up for it. -/
theorem leave (h : l.Holds held) (less : held.Perm (guard :: held')) :
    (l.leave guard).Holds held' ∧ (l.leave guard).enter guard = l := by
  cases guard with
  | reader =>
    have count : held.count .reader = held'.count .reader + 1 := by
      rw [less.count_eq, List.count_cons_self]
    have inside : l.inside = held'.count .reader + 1 := h.inside.trans count
    -- a writer would have been alone, and here is a reader
    have out : Guard.writer ∉ held := by
      intro mem
      have reader : Guard.reader ∈ [Guard.writer] := h.alone mem ▸ less.mem_iff.mpr (by simp)
      simp at reader
    have writerless : Guard.writer ∉ held' := fun mem => out (less.mem_iff.mpr (.tail _ mem))
    refine ⟨⟨?_, ?_, ?_, fun mem => absurd mem writerless⟩, ?_⟩
    · show l.inside - 1 = _
      omega
    · rw [readers_leave, h.readers, count]
      omega
    · exact iff_of_false (mt h.writer.mp out) writerless
    · simp only [Lock.leave, releaseReader, Lock.enter, inside, Nat.add_sub_cancel,
        UInt32.sub_add_cancel]
      rw [← inside]
  | writer =>
    have mem : Guard.writer ∈ held := less.mem_iff.mpr (by simp)
    obtain rfl : held' = [] := by
      have length := less.length_eq
      rw [h.alone mem] at length
      simpa using length.symm
    have inside := h.writer.mpr mem
    have none : held.count .reader = 0 := by rw [h.alone mem]; rfl
    refine ⟨⟨h.inside.trans none, ?_, by simp [Lock.leave, releaseWriter],
      fun mem => absurd mem List.not_mem_nil⟩, ?_⟩
    · show l.readers = _
      rw [h.readers, none]
      rfl
    · rw [Lock.leave, releaseWriter, Lock.enter, ← inside]

/-- The number of readers is shown exactly while 32 bits are enough for it. -/
theorem readers_eq_iff (h : l.Holds held) :
    l.readers = held.count .reader ↔ held.count .reader < 2 ^ 32 := by
  rw [h.readers, Nat.mod_eq_iff_lt (by decide)]

/-- While 32 bits are enough, the count that is shown does not go below zero when a guard is let go
of: it goes down by one for a reader. -/
theorem readers_leave (h : l.Holds held) (less : held.Perm (guard :: held'))
    (few : held.count .reader < 2 ^ 32) :
    (l.leave guard).readers + [guard].count .reader = l.readers := by
  have count : held.count .reader = held'.count .reader + [guard].count .reader := by
    rw [less.count_eq, ← List.singleton_append, List.count_append, Nat.add_comm]
  rw [h.readers_eq_iff.mpr few, (h.leave less).1.readers_eq_iff.mpr (by omega), count]

end Holds

end Lock

/-! ### Places that hold guards -/

section

variable {α : Type} {f : α → Option Guard} {places : List (Option α)} {i : Nat} {a : α}
  {new : Option α} {guard : Guard}

/-- The guards that are held at these places. -/
def heldAt (f : α → Option Guard) (places : List (Option α)) : List Guard :=
  places.filterMap fun place => place.bind f

theorem heldAt_append (new : Option α) :
    heldAt f (places ++ [new]) = heldAt f places ++ (new.bind f).toList := by
  rw [heldAt, List.filterMap_append, ← heldAt, List.filterMap_cons, List.filterMap_nil]
  cases new.bind f <;> rfl

/-- A place that holds what it held before. -/
theorem heldAt_set (here : places[i]? = some (some a)) (same : new.bind f = f a) :
    heldAt f (places.set i new) = heldAt f places := by
  induction places generalizing i with
  | nil => rfl
  | cons first rest ih =>
    cases i with
    | zero =>
      obtain rfl : first = some a := by simpa using here
      rw [List.set_cons_zero, heldAt, heldAt, List.filterMap_cons, List.filterMap_cons, same]
      rfl
    | succ i =>
      have later := ih (i := i) (by simpa using here)
      rw [List.set_cons_succ, heldAt, List.filterMap_cons, ← heldAt, later, heldAt, heldAt,
        List.filterMap_cons]

/-- A place that lets go of its guard. -/
theorem heldAt_set_none (here : places[i]? = some (some a)) (held : f a = some guard)
    (gone : new.bind f = none) : (heldAt f places).Perm (guard :: heldAt f (places.set i new)) := by
  induction places generalizing i with
  | nil => simp at here
  | cons first rest ih =>
    cases i with
    | zero =>
      obtain rfl : first = some a := by simpa using here
      rw [List.set_cons_zero, heldAt, heldAt, List.filterMap_cons, List.filterMap_cons, gone,
        Option.bind_some, held]
    | succ i =>
      have later := ih (i := i) (by simpa using here)
      rw [List.set_cons_succ, heldAt, heldAt, List.filterMap_cons, List.filterMap_cons]
      -- the guard that leaves is moved past the one that is held in front of it
      cases first.bind f with
      | none => exact later
      | some other => exact (later.cons other).trans (.swap guard other _)

end

/-! ### Numbered guards -/

namespace GuardTable

variable {timeout : Duration} {t t' : GuardTable} {guard : Guard} {number : Nat}
  {grants : Guard → List Guard → Bool}

/-- The guards that are held. -/
def held (t : GuardTable) : List Guard :=
  heldAt some t.guards.toList

/-- The tables that a fresh lock comes to. -/
inductive Reached (timeout : Duration) : GuardTable → Prop where
  | fresh : Reached timeout (fresh timeout)
  | acquire {t t' : GuardTable} (guard : Guard) (number : Nat) :
      Reached timeout t → t.acquire guard = .ok (number, t') → Reached timeout t'
  | release {t : GuardTable} (number : Nat) :
      Reached timeout t → Reached timeout (t.release number).2

theorem acquire_eq (t : GuardTable) (guard : Guard) :
    t.acquire guard =
      (t.lock.letIn guard).map fun lock => (t.guards.size, ⟨lock, t.guards.push (some guard)⟩) := by
  cases guard <;> rfl

theorem held_push (lock : Lock) (guard : Guard) :
    held ⟨lock, t.guards.push (some guard)⟩ = t.held ++ [guard] := by
  rw [held, Array.toList_push, heldAt_append]
  rfl

/-- A guard is granted as the guards that are held allow. -/
theorem acquire_of_holds (holds : t.lock.Holds t.held) (promise : Grants grants) (guard : Guard) :
    t.acquire guard =
      if grants guard t.held then
        .ok (t.guards.size, ⟨t.lock.enter guard, t.guards.push (some guard)⟩)
      else .error (.locked t.lock.timeout) := by
  rw [acquire_eq, holds.letIn promise]
  split <;> rfl

theorem release_of_held (here : t.guards[number]? = some (some guard)) :
    t.release number = (true, ⟨t.lock.leave guard, t.guards.set! number none⟩) := by
  unfold release
  rw [here]
  cases guard <;> rfl

theorem release_of_not_held (here : t.guards[number]?.join = none) :
    t.release number = (false, t) := by
  unfold release
  rw [here]

theorem held_release (here : t.guards[number]? = some (some guard)) :
    t.held.Perm (guard :: (t.release number).2.held) := by
  have place : t.guards.toList[number]? = some (some guard) := by simpa using here
  rw [release_of_held here, held, held, Array.set!_eq_setIfInBounds, Array.toList_setIfInBounds]
  exact heldAt_set_none place rfl rfl

/-- **The lock says which guards are held**, whatever was granted and let go before. -/
theorem Reached.holds (reached : Reached timeout t) :
    t.lock.Holds t.held ∧ t.lock.timeout = timeout := by
  induction reached with
  | fresh => exact ⟨Lock.holds_fresh timeout, rfl⟩
  | acquire guard number _ granted ih =>
    rw [acquire_of_holds ih.1 Guard.grants_fits] at granted
    split at granted
    · next allowed =>
      cases granted
      rw [held_push]
      exact ⟨ih.1.enter Guard.grants_fits allowed, (Lock.timeout_enter guard _).trans ih.2⟩
    · cases granted
  | @release t number _ ih =>
    cases here : t.guards[number]?.join with
    | none =>
      rw [release_of_not_held here]
      exact ih
    | some guard =>
      have place := Option.join_eq_some_iff.mp here
      have less := held_release place
      rw [release_of_held place] at less ⊢
      exact ⟨(ih.1.leave less).1, (Lock.timeout_leave guard _).trans ih.2⟩

end GuardTable

end DeviceTree
