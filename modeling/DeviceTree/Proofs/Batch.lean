/-
One transaction for a row of mutations.

A mutation that is asked of a tree takes the lock for itself and is told to observers at once.  In
a write transaction mutations share one hold of the lock, and observers are told at its end that the
tree has changed.  Where the lock is free at first and no observer calls back, both ways of asking
yield the same and leave the same nodes and the same cache.

* `Store.Abreast.apply` -- one mutation on two stores with the same nodes and resolutions;
* `Session.Idle.announces` -- one mutation of a tree, and its notice;
* `Session.Beside.step`, `Session.Beside.run` -- the two runs, side by side;
* `Session.Beside.finish` -- the end of the transaction;
* `batch_equivalence` -- a row of mutations, asked one by one and in one transaction.
-/
import DeviceTree.Proofs.Delivery
import DeviceTree.Proofs.Ended
import DeviceTree.Proofs.Idle
import DeviceTree.Proofs.Notices
import Mathlib

namespace DeviceTree

open Relation Arena

/-! ### Two stores -/

namespace Store

variable {s s' : Store}

/-- The stores have the same nodes and the same resolutions. -/
structure Abreast (s s' : Store) : Prop where
  arena : s.arena = s'.arena
  cache : s.cache = s'.cache

theorem simulation_abreast : Simulation Abreast where
  arena h := h.arena
  insert h node := ⟨congrArg (·.push node) h.arena, h.cache⟩
  makeChild h parent child name := ⟨congrArg (·.attach parent child name) h.arena, h.cache⟩
  unmakeChild h parent child := ⟨congrArg (·.detach parent child) h.arena, h.cache⟩
  makeLink h source target name := ⟨congrArg (·.link source target name) h.arena, h.cache⟩
  unmakeLink h source target := ⟨congrArg (·.unlink source target) h.arena, h.cache⟩
  vacate {s s'} h id := by
    unfold vacate
    rw [h.arena]
    split
    · exact h
    · exact ⟨rfl, h.cache⟩
  invalidate h := ⟨h.arena, congrArg AddressCache.invalidate h.cache⟩

/-- **A mutation comes to the same on both stores.** -/
theorem Abreast.apply (h : Abreast s s') (m : Mutation) :
    (∃ e, m.apply s = .error e s ∧ m.apply s' = .error e s') ∨
      ∃ c t t', m.apply s = .ok c t ∧ m.apply s' = .ok c t' ∧ Abreast t t' := by
  have agree := simulation_abreast.apply m s s' h
  rcases clean_apply m s with ⟨c, t, granted⟩ | ⟨e, refused, -⟩
  · rw [granted] at agree
    rcases clean_apply m s' with ⟨c', t', granted'⟩ | ⟨e, refused', -⟩
    · rw [granted'] at agree
      cases agree with
      | ok _ after => exact .inr ⟨c, t, t', granted, granted', after⟩
    · rw [refused'] at agree
      cases agree
  · rw [refused] at agree
    rcases clean_apply m s' with ⟨c', t', granted'⟩ | ⟨e', refused', -⟩
    · rw [granted'] at agree
      cases agree
    · rw [refused'] at agree
      cases agree
      exact .inl ⟨e, refused, refused'⟩

end Store

open Store

/-! ### One mutation of a tree -/

namespace Tree

/-- What observers are told of a mutation of a tree. -/
inductive Announces (t : Tree Empty) (m : Mutation) : Prop where
  /-- The mutation is refused, and nobody is told. -/
  | refused (e : Error) :
      (∀ notify, t.performWith notify (.mutate m) = t.yield (.error e)) → Announces t m
  /-- The mutation touches no edge, and nobody is told. -/
  | silently (answer : Answer) (left : Tree Empty) : m.silent = true →
      (∀ notify, t.performWith notify (.mutate m) = left.yield (.ok answer)) → Announces t m
  /-- One event tells of the edge that has changed, in whatever way observers are told of it. -/
  | aloud (answer : Answer) (left : Tree Empty) (event : Event) (way : List NodeId)
      (failures : List Failure) (log : List Entry) : m.silent = false →
      event.Reports t.store.arena left.store.arena →
      (∀ notify, t.performWith notify (.mutate m) =
        (notify event left).map fun _ => .ok answer) →
      left.Delivery event way failures log →
      t.perform (.mutate m) =
        ⟨.ok answer, left.onStore (Store.afterFailures failures.length), log⟩ →
      Announces t m

end Tree

/-! ### Runs -/

/-- The mutation, asked of the tree. -/
def Mutation.alone (m : Mutation) : Step Empty :=
  .perform (.mutate m)

namespace Session

variable {options : Options} {s u : Session Empty} {lock : Lock} {number k : Nat}

/-- The session has come about, nobody holds the lock of its tree, and no observer calls back. -/
structure Idle (options : Options) (s : Session Empty) : Prop where
  reached : s.Reachable options
  free : s.tree.store.lock.isFree = true
  quiet : s.tree.Quiet

namespace Idle

theorem tree (idle : s.Idle options) : s.tree.Idle s.tree.store.rootIdentifier :=
  ⟨(upright_of_reachable idle.reached).sound, idle.free, idle.quiet⟩

theorem alone (idle : s.Idle options) (m : Mutation) : (s.next m.alone).Idle options :=
  have after : Tree.Idle _ (s.next m.alone).tree := idle.tree.perform m
  ⟨idle.reached.next m.alone, after.free, after.quiet⟩

theorem run (idle : s.Idle options) (ms : List Mutation) :
    (s.run (ms.map Mutation.alone)).Idle options := by
  induction ms generalizing s with
  | nil => exact idle
  | cons m rest ih => exact ih (idle.alone m)

/-- **Observers are told of every mutation that changes an edge, and of no other.** -/
theorem announces (idle : s.Idle options) (m : Mutation) : s.tree.Announces m := by
  rcases clean_apply m s.tree.store.locked with ⟨c, v, granted⟩ | ⟨e, refused, -⟩
  · have left := idle.tree.released granted
    have performed := Tree.performWith_of_ok idle.free granted
    cases aloud : m.silent with
    | true =>
      have none := event_of_silent aloud granted
      refine .silently c.value (s.tree.released v) aloud fun notify => ?_
      rw [performed, Tree.announced_none none]
    | false =>
      obtain ⟨event, told, reports⟩ :=
        reports_of_apply (s := s.tree.store.locked) idle.tree.sound aloud granted
      have before : s.tree.store.locked.Enrolled s.tree.observers.size :=
        (enrolled_of_reachable idle.reached).congr (.refl _) rfl
      have after : (s.tree.released v).store.Enrolled s.tree.observers.size :=
        ((effects_of_apply granted).enrolled before).congr (.refl _) rfl
      obtain ⟨way, up⟩ := left.sound.exists_lineage event.source
      obtain ⟨failures, log, delivery, notified, -⟩ :=
        Tree.exists_delivery left.quiet left.sound after up
      refine .aloud c.value (s.tree.released v) event way failures log aloud reports
        (fun notify => ?_) delivery ?_
      · rw [performed, Tree.announced_some told]
      · rw [Tree.perform, performed, Tree.announced_some told, notified]
        rfl
  · exact .refused e (Tree.performWith_of_error idle.free refused)

end Idle

/-! ### Two runs -/

/-- The session `u`, in which the write transaction of that number has performed `k` mutations and
holds the lock, has come as far as `s`, in which nobody holds it. -/
structure Beside (lock : Lock) (number k : Nat) (s u : Session Empty) : Prop where
  arena : u.tree.store.arena = s.tree.store.arena
  cache : u.tree.store.cache = s.tree.store.cache
  observers : u.tree.observers = s.tree.observers
  free : s.tree.store.lock = lock
  held : u.tree.store.lock = { lock with writer := true }
  transaction : u.transactions[number]? = some (some (.write ⟨true, k⟩))

namespace Beside

theorem stores (beside : Beside lock number k s u) :
    Abreast s.tree.store.locked u.tree.store :=
  ⟨beside.arena.symm, beside.cache.symm⟩

/-- **One mutation comes to the same**, and within the transaction nobody is told of it. -/
theorem step (beside : Beside lock number k s u) (idle : s.Idle options) (m : Mutation) :
    ∃ answer log, s.step m.alone = some ⟨answer, s.next m.alone, log⟩ ∧
      u.step (m.inside number) = some ⟨answer, u.next (m.inside number), []⟩ ∧
      Beside lock number (k + if answer.isOk then 1 else 0) (s.next m.alone)
        (u.next (m.inside number)) := by
  have asked : s.step m.alone = some (s.settle (s.tree.perform (.mutate m))) := rfl
  have inside := step_within beside.transaction (.mutate m)
  rcases beside.stores.apply m with ⟨e, refused, refused'⟩ | ⟨c, v, v', granted, granted', after⟩
  · have performed := Tree.performWith_of_error idle.free refused
    have alone : s.step m.alone = some ⟨.error e, s, []⟩ :=
      asked.trans (congrArg (fun r => some (s.settle r)) (performed _))
    have within : u.step (m.inside number) = some ⟨.error e, u, []⟩ := by
      refine inside.trans ?_
      simp only [stepWithin, WriteTransaction.perform, if_true, refused']
      rw [putTx_self beside.transaction]
    rw [next_of_step alone, next_of_step within]
    exact ⟨.error e, [], alone, within, beside⟩
  · obtain ⟨value, failures, left⟩ := Tree.perform_failed idle.tree granted
    have alone : s.step m.alone = some ⟨.ok c.value,
        { s with
          tree :=
            { s.tree with
              store := { v with lock := s.tree.store.lock }.count (.failed failures) } },
        (s.tree.perform (.mutate m)).log⟩ := by
      rw [asked, settle, value, left]
    have within : u.step (m.inside number) = some ⟨.ok c.value,
        putTx ⟨{ u.tree with store := v' }, u.transactions⟩ number (some (.write ⟨true, k + 1⟩)),
        []⟩ := by
      refine inside.trans ?_
      simp only [stepWithin, WriteTransaction.perform, if_true, granted']
    rw [next_of_step alone, next_of_step within]
    refine ⟨.ok c.value, _, alone, within, ?_⟩
    exact
      { arena := after.arena.symm
        cache := after.cache.symm
        observers := beside.observers
        free := beside.free
        held := (effects_of_apply granted').lock.trans beside.held
        transaction := getElem?_putTx (s := ⟨_, u.transactions⟩)
          (Array.getElem?_eq_some_iff.mp beside.transaction).1 _ }

/-- **A row of mutations comes to the same.** -/
theorem run (beside : Beside lock number k s u) (idle : s.Idle options) (ms : List Mutation) :
    ∃ answers : List (Except Error Answer),
      (s.outcomes (ms.map Mutation.alone)).map (Option.map StepOutcome.answer) =
        answers.map some ∧
      (u.outcomes (ms.map (Mutation.inside number))).map
          (Option.map fun o => (o.answer, o.log)) =
        answers.map (fun answer => some (answer, [])) ∧
      Beside lock number (k + answers.countP Except.isOk) (s.run (ms.map Mutation.alone))
        (u.run (ms.map (Mutation.inside number))) := by
  induction ms generalizing s u k with
  | nil => exact ⟨[], rfl, rfl, beside⟩
  | cons m rest ih =>
    obtain ⟨answer, log, alone, within, next⟩ := beside.step idle m
    obtain ⟨answers, first, second, last⟩ := ih next (idle.alone m)
    refine ⟨answer :: answers, ?_, ?_, ?_⟩
    · simp only [List.map_cons, outcomes, alone, first, Option.map_some]
    · simp only [List.map_cons, outcomes, within, second, Option.map_some]
    · rw [List.countP_cons, Nat.add_comm (answers.countP _), ← Nat.add_assoc]
      exact last

end Beside

/-! ### The end of the batch -/

/-- What a row of mutations comes to in a write transaction, next to what it comes to without. -/
structure Batched (s : Session Empty) (ms : List Mutation) (number : Nat)
    (answers : List (Except Error Answer)) (begun ended : Session Empty)
    (failures : List Failure) (log : List Entry) : Prop where
  begins : s.step .beginWrite = some ⟨.ok (.count number), begun, []⟩
  /-- These are the answers to the mutations that are asked of the tree. -/
  alone : (s.outcomes (ms.map Mutation.alone)).map (Option.map StepOutcome.answer) =
    answers.map some
  /-- Observers are told of each of them as it comes to pass. -/
  announced : ∀ before m rest, ms = before ++ m :: rest →
    (s.run (before.map Mutation.alone)).tree.Announces m
  /-- The transaction gives the same answers, and nobody is told of anything. -/
  inside : (begun.outcomes (ms.map (Mutation.inside number))).map
    (Option.map fun o => (o.answer, o.log)) = answers.map (fun answer => some (answer, []))
  status : ((begun.run (ms.map (Mutation.inside number))).step (.within number .status)).map
    StepOutcome.answer = some (.ok (.status true (some (answers.countP Except.isOk))))
  /-- At the end observers of the root are told of one event, that the tree has changed. -/
  told : ((begun.run (ms.map (Mutation.inside number))).tree.onStore Store.endWrite).Delivery
    ⟨.treeChanged, .root, none, none⟩ [.root] failures log
  finish : (begun.run (ms.map (Mutation.inside number))).step (.within number .finish) =
    some ⟨if failures = [] then .ok .done else .error (.observersFailed failures), ended, log⟩
  /-- The transaction ends in the same way if it is dropped. -/
  drop : (begun.run (ms.map (Mutation.inside number))).step (.within number .drop) =
    some ⟨.ok (.truth true), ended.putTx number none, log⟩
  arena : ended.tree.store.arena = (s.run (ms.map Mutation.alone)).tree.store.arena
  cache : ended.tree.store.cache = (s.run (ms.map Mutation.alone)).tree.store.cache
  lock : ended.tree.store.lock = s.tree.store.lock
  /-- The transaction does not come back. -/
  after : ∀ steps, Step.within number .drop ∉ steps →
    (ended.run steps).Ended number (answers.countP Except.isOk)

/-- **The end of a transaction** lets go of the lock and then tells observers once. -/
theorem Beside.finish {options : Options} {lock : Lock} (beside : Beside lock number k s u)
    (idle : s.Idle options) (reached : u.Reachable options) :
    ∃ ended failures log,
      (u.tree.onStore Store.endWrite).Delivery ⟨.treeChanged, .root, none, none⟩ [.root] failures
        log ∧
      u.step (.within number .finish) =
        some ⟨if failures = [] then .ok .done else .error (.observersFailed failures), ended,
          log⟩ ∧
      u.step (.within number .drop) = some ⟨.ok (.truth true), ended.putTx number none, log⟩ ∧
      ended.tree.store.arena = s.tree.store.arena ∧
      ended.tree.store.cache = s.tree.store.cache ∧ ended.tree.store.lock = lock ∧
      ended.transactions[number]? = some (some (.write ⟨false, k⟩)) := by
  have sound : (u.tree.onStore Store.endWrite).store.arena.Sound u.tree.store.rootIdentifier :=
    (upright_of_reachable reached).sound
  have enrolled : (u.tree.onStore Store.endWrite).store.Enrolled u.tree.observers.size :=
    (enrolled_of_reachable reached).congr (.refl _) rfl
  have quiet : (u.tree.onStore Store.endWrite).Quiet :=
    idle.quiet.effects .none beside.observers beside.arena
  have up : (u.tree.onStore Store.endWrite).store.arena.Lineage Event.batch.source [.root] :=
    sound.lineage_root
  obtain ⟨failures, log, delivery, notified, -⟩ := Tree.exists_delivery quiet sound enrolled up
  have raised := Tree.raise_of_notified notified
  refine ⟨putTx ⟨(u.tree.onStore Store.endWrite).onStore (Store.afterFailures failures.length),
    u.transactions⟩ number (some (.write ⟨false, k⟩)),
    failures, log, delivery, ?_, ?_, beside.arena, beside.cache, ?_, ?_⟩
  · rw [step_within beside.transaction, stepWithin, Transaction.finish, raised]
    by_cases none : failures = []
    · simp only [none, if_true]
      rfl
    · simp only [none, if_false]
      rfl
  · rw [step_within beside.transaction, stepWithin, Transaction.finish, raised, putTx_putTx]
    rfl
  · have held : u.tree.store.lock = s.tree.store.locked.lock := by
      rw [beside.held, locked, beside.free]
    exact (lock_endWrite_of_free idle.free held).trans beside.free
  · exact getElem?_putTx (s := ⟨_, u.transactions⟩)
      (Array.getElem?_eq_some_iff.mp beside.transaction).1 _

end Session

/-- **A row of mutations in one transaction.**  If the lock is free and no observer calls back, a
row of mutations yields the same answers, refusals among them, whether each is asked of the tree or
all are asked of one write transaction, and leaves the same nodes, the same next place and the same
cache.  Asked of the tree, each mutation that changes an edge is told to observers as one event, and
no other is.  Within the transaction nobody is told of anything until it ends, and then of one event
at the root, even if no mutation was granted.  After that nobody is told of anything either, and the
transaction refuses all that it is asked for. -/
theorem batch_equivalence (options : Options) (s : Session Empty) (h : s.Reachable options)
    (free : s.tree.store.lock.isFree = true) (quiet : s.tree.Quiet) (ms : List Mutation) :
    ∃ number answers begun ended failures log,
      s.Batched ms number answers begun ended failures log := by
  have idle : s.Idle options := ⟨h, free, quiet⟩
  let begun : Session Empty :=
    ⟨{ s.tree with store := s.tree.store.locked }, s.transactions.push (some (.write .fresh))⟩
  have begins : s.step .beginWrite = some ⟨.ok (.count s.transactions.size), begun, []⟩ := by
    rw [Session.step, Store.beginWrite_of_free free]
    rfl
  have start : Session.Beside s.tree.store.lock s.transactions.size 0 s begun :=
    ⟨rfl, rfl, rfl, rfl, rfl, Array.getElem?_push_size⟩
  obtain ⟨answers, alone, inside, beside⟩ := start.run idle ms
  rw [Nat.zero_add] at beside
  obtain ⟨ended, failures, log, told, finish, drop, arena, cache, lock, found⟩ :=
    beside.finish (idle.run ms) ((h.step begins).run _)
  refine ⟨s.transactions.size, answers, begun, ended, failures, log, ?_⟩
  exact
    { begins, alone, inside, told, finish, drop, arena, cache, lock
      announced := fun before m rest split => (idle.run before).announces m
      status := by
        rw [Session.step_within beside.transaction]
        rfl
      after := fun steps stay => Session.ended_of_found (Session.ended_run steps rfl found stay) }

/-- A tank, a second one, which is refused, a spare element on its own, and a gauge in the tank. -/
def Session.furnishing : List Mutation :=
  [.create (some .root) "tank" .group none, .create (some .root) "tank" .group none,
    .create none "spare" .group none, .create (some ⟨3⟩) "gauge" .data none]

/-- One observer stands at the root.  Asked of the tree, the mutations that make an edge are told to
it one by one; asked of a transaction, they are told to it as one change of the tree. -/
theorem batch_equivalence_heeded :
    Session.heeded.Reachable .counted ∧ Session.heeded.tree.Quiet ∧
      (Session.heeded.outcomes (Session.furnishing.map Mutation.alone)).map
          (Option.map StepOutcome.log) =
        [some [.heard .root ⟨3⟩ "log" ⟨.childAdded, .root, some ⟨3⟩, some ⟨"tank", rfl⟩⟩],
          some [], some [],
          some [.heard .root ⟨3⟩ "log" ⟨.childAdded, ⟨3⟩, some ⟨5⟩, some ⟨"gauge", rfl⟩⟩]] ∧
      ∃ number answers begun ended failures log,
        Session.heeded.Batched Session.furnishing number answers begun ended failures log ∧
        answers.map Except.isOk = [true, false, true, true] ∧
        failures = [⟨.root, ⟨3⟩, "full"⟩] ∧
        log = [.heard .root ⟨3⟩ "log" ⟨.treeChanged, .root, none, none⟩] := by
  have free : Session.heeded.tree.store.lock.isFree = true := by cbv
  obtain ⟨number, answers, begun, ended, failures, log, batched⟩ := batch_equivalence .counted
    Session.heeded Session.reachable_heeded free Session.quiet_heeded Session.furnishing
  have answer : (Session.heeded.step .beginWrite).map StepOutcome.answer =
    some (.ok (.count 0)) := rfl
  rw [batched.begins] at answer
  obtain rfl : number = 0 := by simpa using answer
  obtain rfl := Session.next_of_step batched.begins
  refine ⟨Session.reachable_heeded, Session.quiet_heeded, by cbv, 0, answers, _, ended, failures,
    log, batched, ?_, ?_, ?_⟩
  · have granted : (Session.heeded.outcomes (Session.furnishing.map Mutation.alone)).map
        (Option.map Except.isOk ∘ Option.map StepOutcome.answer) =
      [true, false, true, true].map some := by cbv
    rw [← List.map_map, batched.alone] at granted
    refine List.map_injective_iff.mpr (Option.some_injective Bool) ?_
    simpa using granted
  · rw [batched.told.failed]
    cbv
  · have heard : (((Session.heeded.next .beginWrite).run
        (Session.furnishing.map (Mutation.inside 0))).step (.within 0 .finish)).map
          StepOutcome.log =
      some [.heard .root ⟨3⟩ "log" ⟨.treeChanged, .root, none, none⟩] := by cbv
    rw [batched.finish] at heard
    simpa using heard

end DeviceTree
