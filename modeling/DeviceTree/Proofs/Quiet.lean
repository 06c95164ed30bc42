/-
Observers that do not call back.

Such an observer takes an event or fails, and leaves the tree alone.  A notice that reaches no
others changes nothing but the number of failures that was counted.

* `Reaction.complaint` -- what such an observer has to say;
* `Store.afterFailures` -- the failures that were counted;
* `notifyWith_quiet` -- what a notice does to a tree in which nobody calls back.
-/
import DeviceTree.Tree.Perform

namespace DeviceTree

variable {ε : Type}

/-- The observer does not call back, or does so no more. -/
def Reaction.Quiet : Reaction ε → Prop
  | .call (_ + 1) _ => False
  | _ => True

/-- What an observer that does not call back has to say if it fails: the text of its error, or what
its panic carries. -/
def Reaction.complaint : Reaction ε → Option String
  | .fail error => some error.text
  | .panic (some payload) => some ("observer panicked: " ++ payload)
  | .panic none => some "observer panicked"
  | .accept | .call _ _ => none

/-- The store, with that many more failures of observers counted, if failures are counted. -/
def Store.afterFailures (count : Nat) (s : Store) : Store :=
  { s with counters := s.counters.map fun c =>
      { c with observerFailures := c.observerFailures + count } }

namespace Tree

variable {t : Tree ε} {perform : Performer ε} {node : NodeId} {event : Event}

/-- None of these subscriptions is that of an observer that calls back. -/
def QuietAt (t : Tree ε) (ids : List SubscriptionId) : Prop :=
  ∀ id ∈ ids, ∀ o, t.observer? id = some o → o.reaction.Quiet

/-- No observer that is subscribed anywhere calls back. -/
def Quiet (t : Tree ε) : Prop :=
  ∀ id n, t.store.arena.get? id = some n → t.QuietAt n.observers

theorem react_quiet {o : Observer ε} (quiet : o.reaction.Quiet) (id : SubscriptionId) :
    t.react perform id o = t.yield o.reaction.complaint := by
  rw [react]
  cases h : o.reaction with
  | accept => rfl
  | fail error => rfl
  | panic payload => cases payload <;> rfl
  | call times script =>
    cases times with
    | zero => rfl
    | succ times =>
      rw [h] at quiet
      exact quiet.elim

theorem tell_quiet {id : SubscriptionId} (quiet : ∀ o, t.observer? id = some o → o.reaction.Quiet) :
    (t.tell perform node event id).tree = t := by
  rw [tell]
  cases found : t.observer? id with
  | none => rfl
  | some o =>
    show (t.react perform id o).tree = t
    rw [react_quiet (quiet o found)]
    rfl

theorem tellAll_quiet {ids : List SubscriptionId} (quiet : t.QuietAt ids) :
    (tellAll perform node event ids t).tree = t := by
  induction ids with
  | nil => rfl
  | cons id rest ih =>
    show (tellAll perform node event rest (t.tell perform node event id).tree).tree = t
    rw [tell_quiet (quiet id List.mem_cons_self)]
    exact ih fun id mem => quiet id (List.mem_cons_of_mem _ mem)

theorem bubble_quiet (quiet : t.Quiet) (hops : Nat) :
    ∀ id, (bubble perform event hops id t).tree = t := by
  induction hops with
  | zero => exact fun _ => rfl
  | succ hops ih =>
    intro id
    rw [bubble]
    cases found : t.store.arena.get? id with
    | none => rfl
    | some n =>
      have told : (tellAll perform id event n.observers t).tree = t :=
        tellAll_quiet (quiet id n found)
      simp only [Traced.andThen, told]
      cases t.store.arena.lastParent id with
      | none => rfl
      | some parent => exact ih parent

theorem count_failed_zero (s : Store) : s.count (.failed 0) = s := by
  cases s with | mk arena root lock cache counters subscribers =>
  cases counters <;> rfl

theorem onStore_failed_zero (t : Tree ε) : (t.onStore fun s => s.count (.failed 0)) = t := by
  rw [onStore, count_failed_zero]

/-- **A notice that nobody answers by a call changes no more than the number of failures.** -/
theorem notifyWith_quiet (quiet : t.Quiet) : ∃ failures,
    (notifyWith perform event t).tree = t.onStore fun s => s.count (.failed failures) := by
  rw [notifyWith]
  split
  · exact ⟨0, (onStore_failed_zero t).symm⟩
  · simp only [bubble_quiet quiet]
    exact ⟨_, rfl⟩

theorem Quiet.notifyWithin [DirectEdit ε] (quiet : t.Quiet) (depth : Nat) (event : Event) :
    ∃ failures, (Tree.notifyWithin depth event t).tree =
      t.onStore fun s => s.count (.failed failures) := by
  cases depth with
  | zero => exact notifyWith_quiet quiet
  | succ depth => exact notifyWith_quiet quiet

end Tree

end DeviceTree
