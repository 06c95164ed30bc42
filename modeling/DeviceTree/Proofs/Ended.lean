/-
Transactions that have ended.

A transaction that does not hold the lock any more does nothing: it refuses every mutation, nobody
hears of it when it is ended again, and it stays so until it is dropped, whatever else is done.

* `Session.ended_of_found` -- what comes of the steps of a write transaction that has ended;
* `Session.transactions_stepWithin`, `Session.ended_next` -- what one step preserves;
* `Session.ended_run` -- what a run preserves.
-/
import DeviceTree.Proofs.Runs

namespace DeviceTree

/-! ### Manifests -/

namespace Manifest.Batch

variable {α β : Type}

/-- The step leaves a transaction alone that has ended. -/
def Rests (step : Batch → Except Error α × Batch) : Prop :=
  ∀ b, b.tx.active = false → (step b).2.tx = b.tx

theorem Rests.andThen {step : Batch → Except Error α × Batch}
    {next : α → Batch → Except Error β × Batch} (rests : Rests step)
    (later : ∀ a, Rests (next a)) : Rests fun b => andThen (step b) next := by
  intro b ended
  have first := rests b ended
  show (Batch.andThen (step b) next).2.tx = b.tx
  rcases stepped : step b with ⟨e | a, b'⟩
  · rw [stepped] at first
    exact first
  · rw [stepped] at first
    have goes : (next a b').2.tx = b'.tx := later a b' ((congrArg _ first).trans ended)
    exact goes.trans first

theorem rests_locate (address : String) : Rests (·.locate address) :=
  fun _ _ => rfl

theorem rests_perform (m : Mutation) : Rests (·.perform m) := by
  intro b ended
  simp only [perform, WriteTransaction.perform, ended, Bool.false_eq_true, if_false]

theorem rests_locateParent (parent : String) : Rests (·.locateParent parent) := by
  intro b _
  dsimp only [locateParent]
  split <;> rfl

theorem rests_declareElement (spec : DeclaredElement) : Rests (declareElement spec) := by
  intro b ended
  unfold declareElement
  split
  · rfl
  · next parent name _ =>
    exact (rests_locateParent parent).andThen (fun _ => rests_perform _) b ended

theorem rests_declareLink (spec : DeclaredLink) : Rests (declareLink spec) :=
  (rests_locate _).andThen fun _ => (rests_locate _).andThen fun _ => rests_perform _

theorem rests_all {step : α → Batch → Except Error Unit × Batch} (each : ∀ x, Rests (step x))
    (xs : List α) : Rests (all step xs) := by
  induction xs with
  | nil => exact fun _ _ => rfl
  | cons x rest ih => exact (each x).andThen fun _ => ih

theorem rests_apply (m : Manifest) : Rests m.apply :=
  (rests_all rests_declareElement _).andThen fun _ => rests_all rests_declareLink _

end Manifest.Batch

/-- The mutation, asked of the transaction of that number. -/
def Mutation.inside (number : Nat) (m : Mutation) : Step Empty :=
  .within number (.mutate m)

/-! ### Steps -/

namespace Session

variable {options : Options} {s u : Session Empty} {number k : Nat}

/-- The session after a row of steps. -/
def run (s : Session Empty) (steps : List (Step Empty)) : Session Empty :=
  steps.foldl next s

theorem Reachable.run (h : s.Reachable options) (steps : List (Step Empty)) :
    (s.run steps).Reachable options := by
  induction steps generalizing s with
  | nil => exact h
  | cons step rest ih => exact ih (h.next step)

theorem next_of_step {step : Step Empty} {o : StepOutcome Empty} (stepped : s.step step = some o) :
    s.next step = o.session := by
  rw [next, stepped, Option.elim_some]

theorem step_within {tx : Transaction} (found : u.transactions[number]? = some (some tx))
    (step : TxStep) : u.step (.within number step) = u.stepWithin number tx step := by
  simp only [Session.step, found]

theorem getElem?_putTx (inside : number < s.transactions.size) (tx : Option Transaction) :
    (s.putTx number tx).transactions[number]? = some tx := by
  simp [putTx, Array.set!_eq_setIfInBounds, inside]

/-- The write transaction of that number has ended after `k` mutations: it says so, nobody hears
when it is ended or dropped again, and it refuses every mutation. -/
structure Ended (number k : Nat) (u : Session Empty) : Prop where
  status : u.step (.within number .status) = some ⟨.ok (.status false (some k)), u, []⟩
  finish : u.step (.within number .finish) = some ⟨.ok .done, u, []⟩
  drop : u.step (.within number .drop) = some ⟨.ok (.truth true), u.putTx number none, []⟩
  mutate : ∀ m : Mutation, u.step (m.inside number) = some ⟨.error .transactionEnded, u, []⟩
  refusal : Error.transactionEnded.errorClass = .badRequest

theorem ended_of_found (found : u.transactions[number]? = some (some (.write ⟨false, k⟩))) :
    u.Ended number k where
  status := step_within found .status
  finish := by
    have kept : u.putTx number (some (Transaction.write ⟨false, k⟩).ended) = u := putTx_self found
    rw [step_within found, stepWithin, kept]
    rfl
  drop := step_within found .drop
  mutate m := by
    refine (step_within found (.mutate m)).trans ?_
    simp only [stepWithin, WriteTransaction.perform, Bool.false_eq_true, if_false]
    rw [putTx_self found]
  refusal := rfl

/-- A step in a transaction puts that transaction back; one that has ended changes only when it is
dropped. -/
theorem transactions_stepWithin {tx : Transaction} {step : TxStep} {o : StepOutcome Empty}
    (found : u.transactions[number]? = some (some tx))
    (stepped : u.stepWithin number tx step = some o) :
    ∃ tx', o.session.transactions = (u.putTx number tx').transactions ∧
      (holds tx = false → step ≠ .drop → tx' = some tx) := by
  have same : u.transactions = (u.putTx number (some tx)).transactions := by
    rw [putTx_self found]
  cases step with
  | finish =>
    cases stepped
    refine ⟨some tx.ended, rfl, fun ended _ => ?_⟩
    rcases tx with ⟨active, k⟩ | active <;> cases ended <;> rfl
  | drop =>
    cases stepped
    exact ⟨none, rfl, fun _ stay => absurd rfl stay⟩
  | status =>
    refine ⟨some tx, ?_, fun _ _ => rfl⟩
    rw [← same]
    cases tx <;> cases stepped <;> rfl
  | resolve address =>
    cases stepped
    exact ⟨some tx, same, fun _ _ => rfl⟩
  | mutate m =>
    cases tx with
    | read active => cases stepped
    | write tx =>
      cases stepped
      refine ⟨some (.write (tx.perform m u.tree.store).2.1), rfl, fun ended _ => ?_⟩
      have rests := Manifest.Batch.rests_perform m ⟨tx, u.tree.store⟩ ended
      exact congrArg (fun tx => some (Transaction.write tx)) rests
  | apply document =>
    cases tx with
    | read active => cases stepped
    | write tx =>
      cases stepped
      unfold applyManifest
      split
      · exact ⟨some (.write tx), same, fun _ _ => rfl⟩
      · next manifest _ =>
        refine ⟨some (.write (manifest.apply ⟨tx, u.tree.store⟩).2.tx), rfl, fun ended _ => ?_⟩
        have rests := Manifest.Batch.rests_apply manifest ⟨tx, u.tree.store⟩ ended
        exact congrArg (fun tx => some (Transaction.write tx)) rests

theorem getElem?_start {tx : Option Transaction} (found : u.transactions[number]? = some tx)
    (begun : Except Error Unit × Store) (new : Transaction) :
    (u.start begun new).session.transactions[number]? = some tx := by
  have inside := (Array.getElem?_eq_some_iff.mp found).1
  unfold start
  split
  · exact found
  · show (u.transactions.push (some new))[number]? = some tx
    rw [Array.getElem?_push, if_neg (Nat.ne_of_lt inside), found]

/-- **A transaction that has ended stays so**, whatever is done, until it is dropped. -/
theorem ended_next {tx : Transaction} {step : Step Empty} (ended : holds tx = false)
    (found : u.transactions[number]? = some (some tx)) (stay : step ≠ .within number .drop) :
    (u.next step).transactions[number]? = some (some tx) := by
  unfold next
  cases stepped : u.step step with
  | none => exact found
  | some o =>
    cases step with
    | perform op =>
      cases stepped
      exact found
    | beginWrite =>
      cases stepped
      exact getElem?_start found _ _
    | beginRead =>
      cases stepped
      exact getElem?_start found _ _
    | within other step =>
      show o.session.transactions[number]? = _
      simp only [Session.step] at stepped
      split at stepped
      · cases stepped
      · split at stepped
        · cases stepped
          exact found
        · cases stepped
      · next tx' there =>
        obtain ⟨after, same, rests⟩ := transactions_stepWithin there stepped
        rw [same]
        by_cases here : other = number
        · subst here
          obtain rfl : tx = tx' := Option.some.inj (Option.some.inj (found.symm.trans there))
          have still : after = some tx := rests ended fun drop => stay (drop ▸ rfl)
          rw [getElem?_putTx (Array.getElem?_eq_some_iff.mp found).1, still]
        · rw [putTx, Array.set!_eq_setIfInBounds, Array.getElem?_setIfInBounds_ne here]
          exact found

theorem ended_run {tx : Transaction} (steps : List (Step Empty)) (ended : holds tx = false)
    (found : u.transactions[number]? = some (some tx))
    (stay : Step.within number .drop ∉ steps) :
    (u.run steps).transactions[number]? = some (some tx) := by
  induction steps generalizing u with
  | nil => exact found
  | cons step rest ih =>
    rw [List.mem_cons, not_or] at stay
    exact ih (ended_next ended found (Ne.symm stay.1)) stay.2

end Session

end DeviceTree
