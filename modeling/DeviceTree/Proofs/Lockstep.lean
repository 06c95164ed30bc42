/-
Two sessions side by side.

`Session.Simulation` is for sessions what `Tree.Simulation` is for trees: a relation that every act
keeps, between sessions with the same transactions, observers and arenas.  Every step keeps it, for
a step is a row of acts that is the same on both sides.

* `Session.Simulation.step`, `Session.Simulation.close` -- what one step preserves;
* `Session.Reachable.invariant` -- a property that a new session has and every act keeps holds of
  every reachable session.
-/
import DeviceTree.Proofs.Simulation

namespace DeviceTree

open Traced

namespace Session

/-- A relation on sessions that every act keeps, and under which acts yield the same. -/
structure Simulation (R : Session Empty → Session Empty → Prop) : Prop where
  transactions : ∀ {s s'}, R s s' → s.transactions = s'.transactions
  observers : ∀ {s s'}, R s s' → s.tree.observers = s'.tree.observers
  arena : ∀ {s s'}, R s s' → s.tree.store.arena = s'.tree.store.arena
  subscribers : ∀ {s s'}, R s s' → s.tree.store.subscribers = s'.tree.store.subscribers
  yields : ∀ {s s'}, R s s' → ∀ a,
    (s.act a).1.map (Change.map Answer.masked) = (s'.act a).1.map (Change.map Answer.masked)
  keeps : ∀ {s s'}, R s s' → ∀ a, R (s.act a).2 (s'.act a).2

/-- The outcomes look the same, and leave related sessions. -/
structure Alike (R : Session Empty → Session Empty → Prop) (o o' : StepOutcome Empty) : Prop where
  answer : o.answer.map Answer.masked = o'.answer.map Answer.masked
  log : o.log.map Entry.masked = o'.log.map Entry.masked
  session : R o.session o'.session

namespace Simulation

variable {R : Session Empty → Session Empty → Prop} {s s' : Session Empty}
  {transactions : Array (Option Transaction)}

/-- The trees of related sessions with these transactions. -/
def Slice (R : Session Empty → Session Empty → Prop) (transactions : Array (Option Transaction))
    (t t' : Tree Empty) : Prop :=
  R ⟨t, transactions⟩ ⟨t', transactions⟩

theorem slice (sim : Simulation R) (transactions : Array (Option Transaction)) :
    Tree.Simulation (Slice R transactions) where
  observers h := sim.observers h
  arena h := sim.arena h
  subscribers h := sim.subscribers h
  yields h a := sim.yields h (.tree a)
  keeps h a := sim.keeps h (.tree a)

theorem rel_slice (sim : Simulation R) (h : R s s') : Slice R s.transactions s.tree s'.tree := by
  obtain ⟨t, txs⟩ := s
  obtain ⟨t', txs'⟩ := s'
  obtain rfl : txs = txs' := sim.transactions h
  exact h

theorem settle {u u' : Session Empty} (same : u.transactions = u'.transactions)
    {r r' : Traced Empty (Except Error Answer)}
    (h : Traced.Alike (Slice R u.transactions) (Except.map Answer.masked) r r') :
    Alike R (u.settle r) (u'.settle r') where
  answer := h.value
  log := h.log
  session := by
    have rel := h.tree
    simp only [Slice, same] at rel
    simpa only [Session.settle, same] using rel

/-! ### Transactions -/

/-- A step that is one act and tells nobody. -/
theorem single (sim : Simulation R) (h : R s s') (a : Act Empty) {o o' : StepOutcome Empty}
    (acted : s.act a = (o.answer.map fun answer => ⟨answer, none⟩, o.session))
    (acted' : s'.act a = (o'.answer.map fun answer => ⟨answer, none⟩, o'.session))
    (log : o.log.map Entry.masked = o'.log.map Entry.masked) : Alike R o o' := by
  have yields := sim.yields h a
  have keeps := sim.keeps h a
  rw [acted, acted'] at yields keeps
  refine ⟨?_, log, keeps⟩
  generalize o.answer = answer at yields
  generalize o'.answer = answer' at yields
  cases answer <;> cases answer' <;> simp_all [Except.map, Change.map]

theorem log_start (s : Session Empty) (begun : Except Error Unit × Store) (tx : Transaction) :
    (s.start begun tx).log = [] := by
  unfold start
  split <;> rfl

/-- Once a transaction has let go of the lock, all that it still does is to tell observers. -/
theorem finish_eq (tx : Transaction) (t : Tree Empty) :
    tx.finish t =
      match tx with
      | .write ⟨true, _⟩ => (letGo tx t).raise .batch
      | _ => (letGo tx t).yield (.ok ()) := by
  rcases tx with ⟨_ | _, _⟩ | _ | _ <;> rfl

theorem finish (sim : Simulation R) (tx : Transaction) {t t' : Tree Empty}
    (h : Slice R transactions (letGo tx t) (letGo tx t')) :
    Traced.Alike (Slice R transactions) (fun o => o) (tx.finish t) (tx.finish t') := by
  rw [finish_eq, finish_eq]
  split
  · exact (sim.slice transactions).raise h .batch
  · exact .yield h rfl

/-- What a write transaction makes of a mutation. -/
def mutated (s : Session Empty) (number : Nat) (tx : WriteTransaction) (mutation : Mutation) :
    StepOutcome Empty :=
  let r := tx.perform mutation s.tree.store
  ⟨r.1, { s with tree := { s.tree with store := r.2.2 } }.putTx number (some (.write r.2.1)), []⟩

theorem stepWithin_mutate (s : Session Empty) (number : Nat) (tx : WriteTransaction)
    (mutation : Mutation) :
    s.stepWithin number (.write tx) (.mutate mutation) = some (mutated s number tx mutation) :=
  rfl

theorem act_mutate {number : Nat} {tx : WriteTransaction}
    (found : s.transaction? number = some (.write tx)) (mutation : Mutation) :
    s.act (.mutate number mutation) =
      ((mutated s number tx mutation).answer.map fun answer => ⟨answer, none⟩,
        (mutated s number tx mutation).session) := by
  simp only [act, found]
  rfl

theorem act_forget {number : Nat} {tx : Transaction} (found : s.transaction? number = some tx)
    (ended : holds tx = false) : (s.act (.forget number)).2 = s.putTx number none := by
  simp only [act, found]
  rw [ended, if_neg Bool.false_ne_true]

theorem not_holds_ended (tx : Transaction) : holds tx.ended = false := by
  cases tx <;> rfl

theorem stepStatus (sim : Simulation R) (h : R s s') (number : Nat) (tx : Transaction) :
    Option.Rel (Alike R) (s.stepWithin number tx .status) (s'.stepWithin number tx .status) := by
  have same := sim.transactions h
  have rel := sim.rel_slice h
  cases tx with
  | write tx => exact .some (settle same (.yield rel rfl))
  | read active => exact .some (settle same (.yield rel rfl))

theorem stepResolve (sim : Simulation R) (h : R s s') (number : Nat) (tx : Transaction)
    (address : String) :
    Option.Rel (Alike R) (s.stepWithin number tx (.resolve address))
      (s'.stepWithin number tx (.resolve address)) :=
  .some (settle (sim.transactions h) ((sim.slice s.transactions).perform _ (sim.rel_slice h)))

section

variable {number : Nat} {tx : Transaction} (found : s.transactions[number]? = some (some tx))
include found

theorem inside_of_found : number < s.transactions.size :=
  (Array.getElem?_eq_some_iff.mp found).1

theorem transaction?_of_found : s.transaction? number = some tx := by
  simp [transaction?, found]

/-- The two sessions once the transaction has let go of the lock. -/
theorem release (sim : Simulation R) (h : R s s') :
    Slice R (s.putTx number (some tx.ended)).transactions (letGo tx s.tree) (letGo tx s'.tree) := by
  have same := sim.transactions h
  have keeps := sim.keeps h (.release number)
  simp only [act, transaction?_of_found found, transaction?_of_found (same ▸ found)] at keeps
  simpa only [Slice, putTx, same] using keeps

theorem stepFinish (sim : Simulation R) (h : R s s') :
    Option.Rel (Alike R) (s.stepWithin number tx .finish) (s'.stepWithin number tx .finish) := by
  refine .some (settle ?_ ?_)
  · simp only [putTx, sim.transactions h]
  · exact (finish sim tx (release found sim h)).map fun o o' same => by rw [same]

theorem stepDrop (sim : Simulation R) (h : R s s') :
    Option.Rel (Alike R) (s.stepWithin number tx .drop) (s'.stepWithin number tx .drop) := by
  have inside := inside_of_found found
  have same := sim.transactions h
  have finished := finish sim tx (release found sim h)
  -- once its observers are done, the transaction is forgotten
  have keeps := sim.keeps finished.tree (.forget number)
  have forgotten : ∀ t : Tree Empty,
      (act ⟨t, (s.putTx number (some tx.ended)).transactions⟩ (.forget number)).2 =
        ⟨t, (s.putTx number none).transactions⟩ := by
    intro t
    have there := transaction?_putTx (s := ⟨t, s.transactions⟩) inside (some tx.ended)
    exact (act_forget there (not_holds_ended tx)).trans (putTx_putTx ⟨t, s.transactions⟩ _ _ _)
  rw [forgotten, forgotten] at keeps
  refine .some (settle ?_ ⟨?_, finished.log, keeps⟩)
  · simp only [putTx, same]
  · rfl

theorem stepMutate (sim : Simulation R) (h : R s s') (mutation : Mutation) :
    Option.Rel (Alike R) (s.stepWithin number tx (.mutate mutation))
      (s'.stepWithin number tx (.mutate mutation)) := by
  have same := sim.transactions h
  cases tx with
  | read active => exact .none
  | write tx =>
    rw [stepWithin_mutate, stepWithin_mutate]
    exact .some (sim.single h (.mutate number mutation)
      (act_mutate (transaction?_of_found found) mutation)
      (act_mutate (transaction?_of_found (same ▸ found)) mutation) rfl)

end

/-! ### Manifests -/

/-- The session in which the transaction of that number has come as far as the batch. -/
def withBatch (s : Session Empty) (number : Nat) (b : Manifest.Batch) : Session Empty :=
  { s with tree := { s.tree with store := b.store } }.putTx number (some (.write b.tx))

/-- The steps have the same outcome, and leave batches that have come equally far. -/
def Agree {α : Type} (R : Session Empty → Session Empty → Prop) (s s' : Session Empty)
    (number : Nat) (r r' : Except Error α × Manifest.Batch) : Prop :=
  r.1 = r'.1 ∧ R (withBatch s number r.2) (withBatch s' number r'.2)

section

open Manifest

variable {number : Nat} {b b' : Batch} {α β : Type}

theorem transaction?_withBatch (inside : number < s.transactions.size) :
    (withBatch s number b).transaction? number = some (.write b.tx) :=
  transaction?_putTx (s := ⟨_, s.transactions⟩) inside (some (.write b.tx))

theorem act_mutate_withBatch (inside : number < s.transactions.size) (mutation : Mutation) :
    (withBatch s number b).act (.mutate number mutation) =
      ((b.tx.perform mutation b.store).1.map fun answer => ⟨answer, none⟩,
        withBatch s number (b.perform mutation).2) := by
  rw [act_mutate (transaction?_withBatch inside)]
  refine Prod.ext rfl ?_
  exact putTx_putTx ⟨_, s.transactions⟩ number _ _

theorem act_resolve_withBatch (s : Session Empty) (number : Nat) (b : Batch) (address : String) :
    (withBatch s number b).act (.tree (.resolve address)) =
      (.ok ⟨.maybeNode (b.store.resolve address).1, none⟩,
        withBatch s number (b.locate address).2) := by
  simp only [act, Tree.act, Batch.locate, withBatch, putTx]

/-- Related sessions with a batch under way, in a transaction that both of them have. -/
structure Under (R : Session Empty → Session Empty → Prop) (s s' : Session Empty) (number : Nat) :
    Prop where
  sim : Simulation R
  inside : number < s.transactions.size
  inside' : number < s'.transactions.size

namespace Under

theorem locate (under : Under R s s' number) (h : R (withBatch s number b) (withBatch s' number b'))
    (address : String) : Agree R s s' number (b.locate address) (b'.locate address) := by
  have yields := under.sim.yields h (.tree (.resolve address))
  have keeps := under.sim.keeps h (.tree (.resolve address))
  rw [act_resolve_withBatch, act_resolve_withBatch] at yields keeps
  have same : (b.store.resolve address).1 = (b'.store.resolve address).1 := by
    simpa [Except.map, Change.map, Answer.masked] using yields
  refine ⟨?_, keeps⟩
  simp only [Batch.locate, same]

theorem perform (under : Under R s s' number)
    (h : R (withBatch s number b) (withBatch s' number b')) (mutation : Mutation) :
    Agree R s s' number (b.perform mutation) (b'.perform mutation) := by
  have yields := under.sim.yields h (.mutate number mutation)
  have keeps := under.sim.keeps h (.mutate number mutation)
  rw [act_mutate_withBatch under.inside, act_mutate_withBatch under.inside'] at yields keeps
  refine ⟨?_, keeps⟩
  simp only [Batch.perform]
  generalize (b.tx.perform mutation b.store).1 = o at yields
  generalize (b'.tx.perform mutation b'.store).1 = o' at yields
  cases o <;> cases o' <;> simp_all [Except.map]

theorem andThen {step step' : Except Error α × Batch} {next : α → Batch → Except Error β × Batch}
    (h : Agree R s s' number step step')
    (goOn : ∀ a {b b' : Batch}, R (withBatch s number b) (withBatch s' number b') →
      Agree R s s' number (next a b) (next a b')) :
    Agree R s s' number (Batch.andThen step next) (Batch.andThen step' next) := by
  obtain ⟨outcome, b⟩ := step
  obtain ⟨outcome', b'⟩ := step'
  obtain ⟨same, h⟩ := h
  obtain rfl : outcome = outcome' := same
  cases outcome with
  | ok a => exact goOn a h
  | error e => exact ⟨rfl, h⟩

theorem all {step : α → Batch → Except Error Unit × Batch}
    (each : ∀ x {b b' : Batch}, R (withBatch s number b) (withBatch s' number b') →
      Agree R s s' number (step x b) (step x b')) (xs : List α) :
    ∀ {b b' : Batch}, R (withBatch s number b) (withBatch s' number b') →
      Agree R s s' number (Batch.all step xs b) (Batch.all step xs b') := by
  induction xs with
  | nil =>
    intro b b' h
    exact ⟨rfl, h⟩
  | cons x rest ih =>
    intro b b' h
    exact andThen (each x h) fun _ _ _ h => ih h

theorem declareElement (under : Under R s s' number) (spec : DeclaredElement)
    (h : R (withBatch s number b) (withBatch s' number b')) :
    Agree R s s' number (Batch.declareElement spec b) (Batch.declareElement spec b') := by
  unfold Batch.declareElement
  split
  · exact ⟨rfl, h⟩
  · refine andThen ?_ fun _ _ _ h => under.perform h _
    unfold Batch.locateParent
    split
    · exact ⟨rfl, h⟩
    · exact under.locate h _

theorem declareLink (under : Under R s s' number) (spec : DeclaredLink)
    (h : R (withBatch s number b) (withBatch s' number b')) :
    Agree R s s' number (Batch.declareLink spec b) (Batch.declareLink spec b') :=
  andThen (under.locate h _) fun _ _ _ h => andThen (under.locate h _) fun _ _ _ h =>
    under.perform h _

theorem apply (under : Under R s s' number) (m : Manifest)
    (h : R (withBatch s number b) (withBatch s' number b')) :
    Agree R s s' number (m.apply b) (m.apply b') :=
  andThen (all (fun spec _ _ h => under.declareElement spec h) m.elements h) fun _ _ _ h =>
    all (fun spec _ _ h => under.declareLink spec h) m.links h

end Under

end

section

variable {number : Nat} {tx : Transaction} (found : s.transactions[number]? = some (some tx))
include found

theorem stepApply (sim : Simulation R) (h : R s s') (document : String) :
    Option.Rel (Alike R) (s.stepWithin number tx (.apply document))
      (s'.stepWithin number tx (.apply document)) := by
  have same := sim.transactions h
  cases tx with
  | read active => exact .none
  | write tx =>
    refine .some ?_
    unfold applyManifest
    split
    · exact ⟨rfl, rfl, h⟩
    · next manifest _ =>
      -- the batch starts with the transaction as it stands
      have under : Under R s s' number :=
        ⟨sim, inside_of_found found, inside_of_found (same ▸ found)⟩
      have start : ∀ {s : Session Empty}, s.transactions[number]? = some (some (.write tx)) →
          withBatch s number ⟨tx, s.tree.store⟩ = s := fun found => putTx_self found
      have rel : R (withBatch s number ⟨tx, s.tree.store⟩)
          (withBatch s' number ⟨tx, s'.tree.store⟩) := by
        rwa [start found, start (same ▸ found)]
      obtain ⟨outcome, rel⟩ := under.apply manifest rel
      refine ⟨?_, rfl, rel⟩
      -- the transactions of related sessions are the same, that of the batch among them
      have txs := (transaction?_withBatch under.inside).symm.trans
        ((congrArg (fun a => a[number]?.join) (sim.transactions rel)).trans
          (transaction?_withBatch under.inside'))
      simp only [Option.some.injEq, Transaction.write.injEq] at txs
      simp only [outcome, txs]

end

/-! ### Steps -/

theorem stepWithin {number : Nat} {tx : Transaction} (sim : Simulation R) (h : R s s')
    (found : s.transactions[number]? = some (some tx)) (step : TxStep) :
    Option.Rel (Alike R) (s.stepWithin number tx step) (s'.stepWithin number tx step) := by
  cases step with
  | finish => exact stepFinish found sim h
  | drop => exact stepDrop found sim h
  | status => exact sim.stepStatus h number tx
  | resolve address => exact sim.stepResolve h number tx address
  | mutate mutation => exact stepMutate found sim h mutation
  | apply document => exact stepApply found sim h document

/-- **Every step keeps a relation that every act keeps.** -/
theorem step (sim : Simulation R) (h : R s s') (step : Step Empty) :
    Option.Rel (Alike R) (s.step step) (s'.step step) := by
  have same := sim.transactions h
  cases step with
  | perform op =>
    exact .some (settle same ((sim.slice s.transactions).perform op (sim.rel_slice h)))
  | beginWrite =>
    refine .some (sim.single h .beginWrite rfl rfl ?_)
    rw [log_start, log_start]
  | beginRead =>
    refine .some (sim.single h .beginRead rfl rfl ?_)
    rw [log_start, log_start]
  | within number step =>
    unfold Session.step
    dsimp only
    rw [← same]
    split
    · exact .none
    · split
      · exact .some (settle same (.yield (sim.rel_slice h) rfl))
      · exact .none
    · next tx found => exact sim.stepWithin h found step

/-! ### The end of a session -/

/-- Dropping transactions ends each of them.  The induction is on those that are not dropped yet;
`done` are the others. -/
theorem dropAll (sim : Simulation R) (rest : List (Option Transaction)) :
    ∀ (done : List (Option Transaction)) {t t' : Tree Empty}, Slice R (done ++ rest).toArray t t' →
      Traced.Alike (Slice R (done ++ rest.map (Option.map Transaction.ended)).toArray) (fun u => u)
        (Session.dropAll rest t) (Session.dropAll rest t') := by
  induction rest with
  | nil =>
    intro done t t' h
    exact .yield h rfl
  | cons first rest ih =>
    intro done t t' h
    cases first with
    | none =>
      have moved : Slice R (done ++ [none] ++ rest).toArray t t' := by simpa using h
      have later := ih (done ++ [none]) moved
      rw [List.append_assoc] at later
      exact later
    | some tx =>
      have found : (done ++ some tx :: rest).toArray[done.length]? = some (some tx) := by simp
      have rel : R ⟨t, _⟩ ⟨t', _⟩ := h
      have released := release found sim rel
      have transactions : (putTx ⟨t, (done ++ some tx :: rest).toArray⟩ done.length
          (some tx.ended)).transactions = ((done ++ [some tx.ended]) ++ rest).toArray := by
        simp [putTx]
      rw [transactions] at released
      have moved : done ++ (some tx :: rest).map (Option.map Transaction.ended) =
          done ++ [some tx.ended] ++ rest.map (Option.map Transaction.ended) := by
        rw [List.append_assoc]
        rfl
      rw [moved]
      exact (finish sim tx released).andThen fun _ _ _ _ _ h => ih _ h

/-- Once all transactions have ended, the session may forget them. -/
theorem act_clear_ended (transactions : List (Option Transaction)) (t : Tree Empty) :
    (act ⟨t, (transactions.map (Option.map Transaction.ended)).toArray⟩ .clear).2 = ⟨t, #[]⟩ := by
  have each : ∀ tx : Option Transaction, (tx.map Transaction.ended).any holds = false := by
    rintro (_ | tx)
    · rfl
    · exact not_holds_ended tx
  have idle : ¬((transactions.map (Option.map Transaction.ended)).toArray.any fun tx =>
      tx.any holds) = true := by
    simp [each]
  simp only [act, idle]
  rfl

theorem close (sim : Simulation R) (h : R s s') : Alike R s.close s'.close := by
  have same := sim.transactions h
  have rel := sim.rel_slice h
  have dropped := sim.dropAll s.transactions.toList [] (by simpa using rel)
  -- by then no transaction holds the lock, so that the session may forget all of them
  have keeps := sim.keeps dropped.tree .clear
  rw [List.nil_append, act_clear_ended, act_clear_ended] at keeps
  unfold Session.close
  rw [← same]
  exact settle rfl ⟨rfl, dropped.log, keeps⟩

end Simulation

/-! ### Invariants -/

/-- A property that every act keeps, as a relation between a session and itself. -/
theorem simulation_of_invariant {P : Session Empty → Prop}
    (keeps : ∀ {s}, P s → ∀ a, P (s.act a).2) : Simulation fun s s' => s = s' ∧ P s where
  transactions h := by rw [h.1]
  observers h := by rw [h.1]
  arena h := by rw [h.1]
  subscribers h := by rw [h.1]
  yields h a := by rw [h.1]
  keeps := by
    rintro s _ ⟨rfl, h⟩ a
    exact ⟨rfl, keeps h a⟩

/-- **What every act keeps, a session hands on to all later ones.** -/
theorem Later.invariant {P : Session Empty → Prop} (keeps : ∀ {s}, P s → ∀ a, P (s.act a).2)
    {s s' : Session Empty} (later : s.Later s') (h : P s) : P s' := by
  have sim := simulation_of_invariant (P := P) keeps
  -- a step is taken by a session and by itself
  induction later with
  | refl => exact h
  | @step s' step o _ stepped ih =>
    have alike := sim.step ⟨rfl, ih⟩ step
    rw [stepped] at alike
    cases alike with
    | some alike => exact alike.session.2
  | close _ ih => exact (sim.close ⟨rfl, ih⟩).session.2
  | act a _ ih => exact keeps ih a

/-- **What holds of a new session and is kept by every act holds of every reachable session.** -/
theorem Reachable.invariant {options : Options} {P : Session Empty → Prop}
    (fresh : ∀ {s}, ofOptions options = .ok s → P s) (keeps : ∀ {s}, P s → ∀ a, P (s.act a).2)
    {s : Session Empty} (h : s.Reachable options) : P s := by
  obtain ⟨new, accepted, later⟩ := h.origin
  exact later.invariant keeps (fresh accepted)

end Session

end DeviceTree
