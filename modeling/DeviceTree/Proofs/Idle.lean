/-
Trees at rest.

Nobody holds the lock of such a tree, and no observer calls back.  A mutation that is asked of it is
refused and changes nothing, or it is granted, lets go of the lock and is told to observers, who
change no more than a counter.

* `Tree.performWith_of_error`, `Tree.performWith_of_ok` -- what comes of a mutation;
* `Tree.perform_failed`, `Tree.perform_leaves` -- what is left once observers were told of it;
* `Tree.granted_of_perform` -- a mutation that succeeds found the lock free;
* `Tree.Idle.perform` -- the tree is at rest afterwards.
-/
import DeviceTree.Proofs.Quiet
import DeviceTree.Proofs.Subscriptions

namespace DeviceTree

open Arena Store

namespace Tree

variable {t t' : Tree Empty} {m : Mutation} {c : Change Answer} {u : Store} {root : Identifier}

/-- The tree is sound, nobody holds its lock, and no observer calls back. -/
structure Idle (root : Identifier) (t : Tree Empty) : Prop where
  sound : t.store.arena.Sound root
  free : t.store.lock.isFree = true
  quiet : t.Quiet

/-- The tree once the lock of its store is let go. -/
def released (t : Tree Empty) (store : Store) : Tree Empty :=
  { t with store := store.endWrite }

/-! ### Observers that do not call back -/

theorem quiet_iff : t.Quiet ↔ ∀ id, t.QuietAt (t.store.arena.observersAt id) := by
  constructor
  · intro quiet id
    cases found : t.store.arena.get? id with
    | none =>
      rw [observersAt, found]
      exact fun sub mem => absurd mem List.not_mem_nil
    | some n =>
      rw [observersAt_of_get? found]
      exact quiet id n found
  · intro quiet id n found
    rw [← observersAt_of_get? found]
    exact quiet id

theorem QuietAt.congr {ids : List SubscriptionId} (quiet : t.QuietAt ids)
    (observers : t'.observers = t.observers) : t'.QuietAt ids := by
  intro id mem o registered
  rw [observer?, observers] at registered
  exact quiet id mem o registered

/-- A mutation takes observers away at most. -/
theorem Quiet.effects (quiet : t.Quiet) (effects : Effects t.store.locked u)
    (observers : t'.observers = t.observers) (arena : t'.store.arena = u.arena) : t'.Quiet := by
  refine quiet_iff.mpr fun id => QuietAt.congr ?_ observers
  rw [arena]
  rcases effects.observersAt id with same | none
  · rw [same]
    exact quiet_iff.mp quiet id
  · rw [none]
    exact fun sub mem => absurd mem List.not_mem_nil

/-! ### One mutation -/

theorem Idle.released (idle : t.Idle root) (granted : m.apply t.store.locked = .ok c u) :
    (t.released u).Idle root where
  sound := apply_sound (s := t.store.locked) (t := u) idle.sound granted
  free := by
    have lock := lock_endWrite_of_free idle.free (effects_of_apply granted).lock
    exact (congrArg Lock.isFree lock).trans idle.free
  quiet := idle.quiet.effects (effects_of_apply granted) rfl rfl

/-- Tells observers of a change, if it is to be told at all. -/
def announced (notify : Notifier Empty) (c : Change Answer) (t : Tree Empty) :
    Traced Empty (Except Error Answer) :=
  match c.event with
  | none => t.yield (.ok c.value)
  | some event => (notify event t).map fun _ => .ok c.value

theorem announced_none (silent : c.event = none) (notify : Notifier Empty) (t : Tree Empty) :
    announced notify c t = t.yield (.ok c.value) := by
  rw [announced, silent]

theorem announced_some {event : Event} (aloud : c.event = some event) (notify : Notifier Empty)
    (t : Tree Empty) : announced notify c t = (notify event t).map fun _ => .ok c.value := by
  rw [announced, aloud]

/-- A mutation that is refused changes nothing. -/
theorem performWith_of_error {e : Error} (free : t.store.lock.isFree = true)
    (refused : m.apply t.store.locked = .error e t.store.locked) (notify : Notifier Empty) :
    t.performWith notify (.mutate m) = t.yield (.error e) := by
  rw [performWith, change, attempt, exclusively_error free refused, endWrite_locked free]

/-- A mutation that is granted is told once the lock is let go. -/
theorem performWith_of_ok (free : t.store.lock.isFree = true)
    (granted : m.apply t.store.locked = .ok c u) (notify : Notifier Empty) :
    t.performWith notify (.mutate m) = announced notify c (t.released u) := by
  rw [performWith, change, attempt, exclusively_ok free granted]
  rfl

/-- What observers do about it changes no more than the number of failures. -/
theorem perform_failed (idle : t.Idle root) (granted : m.apply t.store.locked = .ok c u) :
    (t.perform (.mutate m)).value = .ok c.value ∧ ∃ failures, (t.perform (.mutate m)).tree =
      { t with store := { u with lock := t.store.lock }.count (.failed failures) } := by
  have lock : u.endWrite.lock = t.store.lock :=
    lock_endWrite_of_free idle.free (effects_of_apply granted).lock
  rw [perform, performWith_of_ok idle.free granted, ← lock]
  cases told : c.event with
  | none =>
    rw [announced_none told]
    exact ⟨rfl, 0, (onStore_failed_zero (t.released u)).symm⟩
  | some event =>
    rw [announced_some told]
    obtain ⟨failures, after⟩ := (idle.released granted).quiet.notifyWithin
      (t.weight + (Op.mutate m).weight) event
    exact ⟨rfl, failures, after⟩

/-- What is left of a mutation is what its request has left, but for the lock and the counters. -/
theorem perform_leaves (idle : t.Idle root) (granted : m.apply t.store.locked = .ok c u) :
    ∃ counters, (t.perform (.mutate m)).tree =
      { t with store := { u with lock := t.store.lock, counters } } := by
  obtain ⟨-, failures, left⟩ := perform_failed idle granted
  exact ⟨_, left⟩

/-- A mutation is granted only while nobody holds the lock. -/
theorem granted_of_perform {answer : Answer} (ok : (t.perform (.mutate m)).value = .ok answer) :
    t.store.lock.isFree = true ∧ ∃ c u, m.apply t.store.locked = .ok c u ∧ answer = c.value := by
  obtain ⟨c, t', attempted, rfl⟩ := attempt_of_perform ok
  have free : t.store.lock.isFree = true := by
    by_contra held
    have refused : t.store.lock.admitWriter = .error (.locked t.store.lock.timeout) := by
      rw [Lock.admitWriter, if_neg held]
    rw [attempt, exclusively, beginWrite, refused] at attempted
    cases attempted
  obtain ⟨u, granted, -⟩ := (attempt_ok free).mp attempted
  exact ⟨free, c, u, granted, rfl⟩

/-- **A mutation leaves a tree at rest**, whatever comes of it. -/
theorem Idle.perform (idle : t.Idle root) (m : Mutation) :
    (t.perform (.mutate m)).tree.Idle root := by
  rcases clean_apply m t.store.locked with ⟨c, u, granted⟩ | ⟨e, refused, -⟩
  · obtain ⟨counters, left⟩ := perform_leaves idle granted
    have after := idle.released granted
    rw [left]
    exact ⟨after.sound, idle.free, after.quiet⟩
  · rw [Tree.perform, performWith_of_error idle.free refused]
    exact idle

end Tree

end DeviceTree
