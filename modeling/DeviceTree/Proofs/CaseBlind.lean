/-
No outcome depends on ASCII case.

Two runs that differ at most in the case of names and addresses stay together: what is granted in
one of them is granted in the other, with the same answers up to case and for the same kind of
error, and after each step the two sessions hold the same nodes up to case.  Folding a tree and
then performing a folded operation is performing the operation and then folding (`Mirrors`), so
that both runs come to what the folded run comes to.  Two steps do not go through the fold: a
verification tells the spelling of a name that is wrong, but finds nothing wrong in a run, and a
document may be wrong at another place than its counterpart.

* `Arena.alike_of_folded` -- what arenas with the same fold have in common;
* `stepWithin_alike` -- steps within a transaction;
* `step_alike` -- steps;
* `case_blind` -- runs.
-/
import DeviceTree.Proofs.FoldedManifest
import DeviceTree.Proofs.FoldedTree
import DeviceTree.Proofs.Structure
import DeviceTree.Proofs.Verification

namespace DeviceTree

open Text

/-! ### What the same up to case means -/

/-- The options with the name of the root in small letters. -/
def Options.folded (o : Options) : Options :=
  { o with rootIdentifier := fold o.rootIdentifier }

/-- The session with all names and addresses in small letters. -/
def Session.folded (s : Session Empty) : Session Empty :=
  { s with tree := s.tree.folded }

/-- The references are the same up to the case of their names. -/
structure Reference.Alike (r r' : Reference) : Prop where
  identifier : fold r.identifier.text = fold r'.identifier.text
  source : r.source = r'.source
  target : r.target = r'.target
  kind : r.kind = r'.kind
  direction : r.direction = r'.direction

/-- The nodes are the same up to the case of names and addresses. -/
structure Node.Alike (n n' : Node) : Prop where
  identifier : fold n.identifier.text = fold n'.identifier.text
  kind : n.kind = n'.kind
  attachment : n.attachment = n'.attachment
  address : fold n.address = fold n'.address
  parent : n.parent = n'.parent
  forward : List.Forall₂ Reference.Alike n.forward n'.forward
  inverse : List.Forall₂ Reference.Alike n.inverse n'.inverse
  observers : n.observers = n'.observers

/-- The arenas have the same nodes at the same places, up to the case of names and addresses. -/
def Arena.Alike (a a' : Arena) : Prop :=
  ∀ id, Option.Rel Node.Alike (a.get? id) (a'.get? id)

theorem Reference.alike_of_folded {r r' : Reference} (same : r.folded = r'.folded) :
    r.Alike r' where
  identifier := congrArg (fun r => r.identifier.text) same
  source := congrArg (fun r => r.source) same
  target := congrArg (fun r => r.target) same
  kind := congrArg (fun r => r.kind) same
  direction := congrArg (fun r => r.direction) same

theorem Reference.forall₂_alike {l l' : List Reference}
    (same : l.map Reference.folded = l'.map Reference.folded) :
    List.Forall₂ Reference.Alike l l' := by
  rw [← List.forall₂_eq_eq_eq, List.forall₂_map_left_iff, List.forall₂_map_right_iff] at same
  exact same.imp fun _ _ => Reference.alike_of_folded

theorem Node.alike_of_folded {n n' : Node} (same : n.folded = n'.folded) : n.Alike n' where
  identifier := congrArg (fun n => n.identifier.text) same
  kind := congrArg (fun n => n.kind) same
  attachment := congrArg (fun n => n.attachment) same
  address := congrArg Node.address same
  parent := congrArg (fun n => n.parent) same
  forward := Reference.forall₂_alike (congrArg Node.forward same)
  inverse := Reference.forall₂_alike (congrArg Node.inverse same)
  observers := congrArg (fun n => n.observers) same

/-- **Arenas with the same fold have the same nodes**, up to the case of names and addresses. -/
theorem Arena.alike_of_folded {a a' : Arena} (same : a.folded = a'.folded) : a.Alike a' := by
  intro id
  have view : (a.get? id).map Node.folded = (a'.get? id).map Node.folded := by
    rw [← Arena.get?_folded, ← Arena.get?_folded, same]
  cases found : a.get? id with
  | none =>
    rw [found, Option.map_none, eq_comm, Option.map_eq_none_iff] at view
    rw [view]
    exact .none
  | some n =>
    rw [found, Option.map_some, eq_comm] at view
    obtain ⟨n', found', folded⟩ := Option.map_eq_some_iff.mp view
    rw [found']
    exact .some (Node.alike_of_folded folded.symm)

theorem Session.nodes_alike {s s' : Session Empty} (same : s.folded = s'.folded) :
    s.tree.store.arena.Alike s'.tree.store.arena :=
  Arena.alike_of_folded (congrArg (fun s => s.tree.store.arena) same)

/-- The two steps are the same up to case.  Of documents this is asked as far as they describe
manifests. -/
inductive TxStep.Alike : TxStep → TxStep → Prop where
  | finish : Alike .finish .finish
  | drop : Alike .drop .drop
  | status : Alike .status .status
  | resolve {address address' : String} : fold address = fold address' →
      Alike (.resolve address) (.resolve address')
  | mutate {m m' : Mutation} : m.folded = m'.folded → Alike (.mutate m) (.mutate m')
  | apply {document document' : String} :
      (Manifest.ofText document).toOption.map Manifest.folded =
        (Manifest.ofText document').toOption.map Manifest.folded →
      Alike (.apply document) (.apply document')

/-- The two steps are the same up to case. -/
inductive Step.Alike : Step Empty → Step Empty → Prop where
  | perform {op op' : Op Empty} : op.folded = op'.folded → Alike (.perform op) (.perform op')
  | beginWrite : Alike .beginWrite .beginWrite
  | beginRead : Alike .beginRead .beginRead
  | within (number : Nat) {step step' : TxStep} : step.Alike step' →
      Alike (.within number step) (.within number step')

/-- The step registers no observer that calls back. -/
def Step.Quiet : Step Empty → Prop
  | .perform op => op.Quiet
  | _ => True

/-- The two outcomes are the same up to case: either both were granted, with the same answer, or
both were refused, for the same kind of error; observers were told the same; and the two sessions
that are left hold the same nodes up to case, and have the same fold altogether. -/
structure StepOutcome.Alike (o o' : StepOutcome Empty) : Prop where
  answer : (o.answer.map Answer.folded).mapError Error.errorClass =
    (o'.answer.map Answer.folded).mapError Error.errorClass
  log : o.log.map Entry.folded = o'.log.map Entry.folded
  nodes : o.session.tree.store.arena.Alike o'.session.tree.store.arena
  session : o.session.folded = o'.session.folded

/-- The two outcomes are the same up to case, and nobody calls back after the first. -/
structure StepOutcome.CalmAlike (o o' : StepOutcome Empty) : Prop extends o.Alike o' where
  calm : o.session.tree.Calm

/-- The outcome with all names and addresses in small letters. -/
def StepOutcome.folded (o : StepOutcome Empty) : StepOutcome Empty :=
  ⟨foldedOutcome Answer.folded o.answer, o.session.folded, o.log.map Entry.folded⟩

theorem errorClass_foldedOutcome {α β : Type} (f : α → β) (r : Except Error α) :
    (foldedOutcome f r).mapError Error.errorClass = (r.map f).mapError Error.errorClass := by
  cases r with
  | error e => exact congrArg Except.error e.errorClass_folded
  | ok a => rfl

/-- Outcomes with the same fold are the same up to case. -/
theorem StepOutcome.Alike.of_folded {o o' : StepOutcome Empty} (same : o.folded = o'.folded) :
    o.Alike o' where
  answer := by
    rw [← errorClass_foldedOutcome, ← errorClass_foldedOutcome]
    exact congrArg (fun o => o.answer.mapError Error.errorClass) same
  log := congrArg StepOutcome.log same
  nodes := Session.nodes_alike (congrArg StepOutcome.session same)
  session := congrArg StepOutcome.session same

/-! ### Verification -/

/-- Verification has nothing to say of a sound arena but its numbers. -/
theorem Arena.Sound.verdict {a : Arena} {root : Identifier} (sound : a.Sound root) :
    a.verdict root = ⟨true, [], false, a.census⟩ := by
  have nothing : a.findings root = [] := findings_eq_nil_iff.mpr sound.intact
  simp [Arena.verdict, nothing]

theorem Op.folded_eq_verify_iff {op : Op Empty} : op.folded = .verify ↔ op = .verify := by
  cases op <;> simp [folded]

theorem Op.Quiet.congr {op op' : Op Empty} (quiet : op.Quiet) (same : op.folded = op'.folded) :
    op'.Quiet := by
  cases op <;> cases op' <;> simp_all [Op.folded, Op.Quiet]

namespace Tree

open Traced

variable {t t' : Tree Empty}

theorem Calm.congr (calm : t.Calm) (same : t.folded = t'.folded) : t'.Calm := by
  have observers : t.folded.observers = t'.folded.observers := by rw [same]
  intro o mem
  exact calm o (observers ▸ mem)

theorem yield_alike (same : t.folded = t'.folded) (r : Except Error Answer) :
    (t.yield r).folded (foldedOutcome Answer.folded) =
      (t'.yield r).folded (foldedOutcome Answer.folded) := by
  show t.folded.yield (foldedOutcome Answer.folded r) =
    t'.folded.yield (foldedOutcome Answer.folded r)
  rw [same]

/-- Verifications of sound trees with the same fold come to the same. -/
theorem verify_alike (same : t.folded = t'.folded)
    (sound : t.store.arena.Sound t.store.rootIdentifier)
    (sound' : t'.store.arena.Sound t'.store.rootIdentifier) :
    (t.perform .verify).folded (foldedOutcome Answer.folded) =
      (t'.perform .verify).folded (foldedOutcome Answer.folded) := by
  have lock : t.store.lock = t'.store.lock := congrArg (fun t => t.store.lock) same
  have census : t.store.arena.census = t'.store.arena.census := by
    rw [← Arena.census_folded, ← t'.store.arena.census_folded]
    exact congrArg (fun t => t.store.arena.census) same
  simp only [perform, performWith, Store.verify, sound.verdict, sound'.verdict, lock, census]
  cases t'.store.lock.admitReader with
  | error e =>
    -- the attempt is counted in both trees
    show (⟨.error e.folded, { t.folded with store := t.folded.store.count .refused }, []⟩ :
      Traced Empty (Except Error Answer)) = _
    rw [same]
    rfl
  | ok lock =>
    show (⟨_, t.folded, []⟩ : Traced Empty (Except Error Answer)) = _
    rw [same]
    rfl

theorem calm_verify (calm : t.Calm) : (t.perform .verify).tree.Calm :=
  calm

/-- **The same operation up to case does the same up to case to trees with the same fold.** -/
theorem perform_alike (same : t.folded = t'.folded)
    (sound : t.store.arena.Sound t.store.rootIdentifier)
    (sound' : t'.store.arena.Sound t'.store.rootIdentifier) (calm : t.Calm) {op op' : Op Empty}
    (alike : op.folded = op'.folded) (quiet : op.Quiet) :
    (t.perform op).folded (foldedOutcome Answer.folded) =
      (t'.perform op').folded (foldedOutcome Answer.folded) ∧ (t.perform op).tree.Calm := by
  by_cases check : op = .verify
  · subst check
    obtain rfl : op' = .verify := Op.folded_eq_verify_iff.mp alike.symm
    exact ⟨verify_alike same sound sound', calm_verify calm⟩
  · -- both operations are mirrored by the same operation on the same folded tree
    have check' : op' ≠ .verify := by
      rwa [ne_eq, ← Op.folded_eq_verify_iff, ← alike, Op.folded_eq_verify_iff]
    have mirrors := perform_mirrors calm quiet check
    have mirrors' := perform_mirrors (calm.congr same) (quiet.congr alike) check'
    rw [← mirrors.same, ← mirrors'.same, same, alike]
    exact ⟨rfl, mirrors.calm⟩

end Tree

/-! ### Transactions -/

open DeviceTree.Tree Traced in
theorem finish_mirrors {t : Tree Empty} (calm : t.Calm) (tx : Transaction) :
    Mirrors (foldedOutcome fun u => u) (tx.finish t) (tx.finish t.folded) := by
  have told : ∀ t : Tree Empty, t.Calm →
      Mirrors (foldedOutcome fun u => u) (t.raise .batch) (t.folded.raise .batch) :=
    fun t calm => announce_mirrors calm t.weight t.folded.weight .batch
  match tx with
  | .write ⟨true, _⟩ => exact told (t.onStore Store.endWrite) calm
  | .read true => exact .yield (t := t.onStore Store.endRead) calm rfl
  | .write ⟨false, _⟩ => exact .yield calm rfl
  | .read false => exact .yield calm rfl

open DeviceTree.Tree Traced in
theorem dropAll_mirrors (txs : List (Option Transaction)) : ∀ {t : Tree Empty}, t.Calm →
    Mirrors (fun u => u) (Session.dropAll txs t) (Session.dropAll txs t.folded) := by
  induction txs with
  | nil => exact fun calm => .yield calm rfl
  | cons tx rest ih =>
    intro t calm
    cases tx with
    | none => exact ih calm
    | some tx => exact (finish_mirrors calm tx).andThen fun _ t calm => ih calm

namespace Session

open DeviceTree.Tree Traced

variable {s s' : Session Empty}

theorem start_folded (s : Session Empty) (begun : Except Error Unit × Store) (tx : Transaction) :
    (s.start begun tx).folded =
      s.folded.start (foldedOutcome (fun u => u) begun.1, begun.2.folded) tx := by
  obtain ⟨outcome, u⟩ := begun
  cases outcome <;> rfl

/-- A transaction begins, or is refused, without regard to case. -/
theorem start_alike (same : s.folded = s'.folded) (calm : s.tree.Calm)
    (begin : Store → Except Error Unit × Store)
    (folded : ∀ u : Store,
      begin u.folded = (foldedOutcome (fun u => u) (begin u).1, (begin u).2.folded))
    (tx : Transaction) :
    (s.start (begin s.tree.store) tx).CalmAlike (s'.start (begin s'.tree.store) tx) := by
  have stores : s.tree.store.folded = s'.tree.store.folded :=
    congrArg (fun s => s.tree.store) same
  refine ⟨.of_folded ?_, ?_⟩
  · rw [start_folded, start_folded, ← folded, ← folded, same, stores]
  · unfold start
    split <;> exact calm

/-- Outcomes that change no more than the tree of a session. -/
theorem settle_alike (same : s.folded = s'.folded) {r r' : Traced Empty (Except Error Answer)}
    (alike : r.folded (foldedOutcome Answer.folded) = r'.folded (foldedOutcome Answer.folded))
    (calm : r.tree.Calm) : (s.settle r).CalmAlike (s'.settle r') := by
  refine ⟨.of_folded ?_, calm⟩
  show s.folded.settle (r.folded (foldedOutcome Answer.folded)) =
    s'.folded.settle (r'.folded (foldedOutcome Answer.folded))
  rw [same, alike]

/-- The outcome of a mutation within a write transaction. -/
def mutated (s : Session Empty) (number : Nat) (tx : WriteTransaction) (m : Mutation) :
    StepOutcome Empty :=
  let r := tx.perform m s.tree.store
  ⟨r.1, { s with tree := { s.tree with store := r.2.2 } }.putTx number (some (.write r.2.1)), []⟩

/-- The outcome of a manifest within a write transaction. -/
def applied (s : Session Empty) (number : Nat) (tx : WriteTransaction) (m : Manifest) :
    StepOutcome Empty :=
  let r := m.apply ⟨tx, s.tree.store⟩
  ⟨r.1.map fun _ => .count r.2.tx.operations,
    { s with tree := { s.tree with store := r.2.store } }.putTx number (some (.write r.2.tx)), []⟩

theorem applyManifest_eq (s : Session Empty) (number : Nat) (tx : WriteTransaction)
    (document : String) :
    s.applyManifest number tx document =
      match Manifest.ofText document with
      | .error defect => ⟨.error (.malformed "" defect), s, []⟩
      | .ok m => s.applied number tx m := by
  unfold applyManifest
  cases Manifest.ofText document <;> rfl

/-- Outcomes of what trees do alike that have the same fold. -/
theorem settle_mirrored (same : s.folded = s'.folded)
    {f : Tree Empty → Traced Empty (Except Error Answer)}
    (mirrors : ∀ {t : Tree Empty}, t.Calm →
      Mirrors (foldedOutcome Answer.folded) (f t) (f t.folded))
    {t t' : Tree Empty} (trees : t.folded = t'.folded) (calm : t.Calm) :
    (s.settle (f t)).CalmAlike (s'.settle (f t')) := by
  refine settle_alike same ?_ (mirrors calm).calm
  exact (mirrors calm).agree (mirrors (calm.congr trees)) (by rw [trees])

theorem putTx_congr (same : s.folded = s'.folded) (number : Nat) (tx : Option Transaction) :
    (s.putTx number tx).folded = (s'.putTx number tx).folded := by
  show s.folded.putTx number tx = s'.folded.putTx number tx
  rw [same]

/-- A mutation within a write transaction. -/
theorem mutated_folded (s : Session Empty) (number : Nat) (tx : WriteTransaction) (m : Mutation) :
    (s.mutated number tx m).folded = s.folded.mutated number tx m.folded := by
  have performed : tx.perform m.folded s.folded.tree.store = _ := tx.perform_folded m s.tree.store
  unfold mutated
  rw [performed]
  rfl

/-- A manifest within a write transaction. -/
theorem applied_folded (s : Session Empty) (number : Nat) (tx : WriteTransaction) (m : Manifest) :
    (s.applied number tx m).folded = s.folded.applied number tx m.folded := by
  have applied : m.folded.apply ⟨tx, s.folded.tree.store⟩ = _ := m.apply_folded ⟨tx, s.tree.store⟩
  unfold Session.applied
  rw [applied]
  obtain ⟨outcome, b⟩ := m.apply ⟨tx, s.tree.store⟩
  cases outcome <;> rfl

/-- A document does the same up to case as one that describes the same manifest up to case. -/
theorem applyManifest_alike (same : s.folded = s'.folded) (calm : s.tree.Calm) (number : Nat)
    (tx : WriteTransaction) {document document' : String}
    (alike : (Manifest.ofText document).toOption.map Manifest.folded =
      (Manifest.ofText document').toOption.map Manifest.folded) :
    (s.applyManifest number tx document).CalmAlike (s'.applyManifest number tx document') := by
  rw [applyManifest_eq, applyManifest_eq]
  cases read : Manifest.ofText document with
  | error defect =>
    cases read' : Manifest.ofText document' with
    | error defect' =>
      -- the two documents may be wrong at different places, but nothing is done with either
      exact ⟨⟨rfl, rfl, nodes_alike same, same⟩, calm⟩
    | ok m' => simp [read, read', Except.toOption] at alike
  | ok m =>
    cases read' : Manifest.ofText document' with
    | error defect' => simp [read, read', Except.toOption] at alike
    | ok m' =>
      have manifests : m.folded = m'.folded := by
        simpa [read, read', Except.toOption] using alike
      refine ⟨.of_folded ?_, calm⟩
      rw [applied_folded, applied_folded, same, manifests]

/-- A transaction ends, whatever is told of that and of the failures of observers. -/
theorem finish_alike (same : s.folded = s'.folded) (calm : s.tree.Calm) (number : Nat)
    (left : Option Transaction) (tx : Transaction) {tell : Except Error Unit → Except Error Answer}
    (blind : ∀ r, tell (foldedOutcome (fun u => u) r) = foldedOutcome Answer.folded (tell r)) :
    ((s.putTx number left).settle ((tx.finish s.tree).map tell)).CalmAlike
      ((s'.putTx number left).settle ((tx.finish s'.tree).map tell)) := by
  have trees : s.tree.folded = s'.tree.folded := congrArg Session.tree same
  let finish : Tree Empty → Traced Empty (Except Error Answer) := fun t => (tx.finish t).map tell
  have mirrors : ∀ {t : Tree Empty}, t.Calm →
      Mirrors (foldedOutcome Answer.folded) (finish t) (finish t.folded) :=
    fun calm => (finish_mirrors calm tx).map blind
  exact settle_mirrored (putTx_congr same number left) mirrors trees calm

/-- **The same step within a transaction, up to case, has the same outcome up to case.** -/
theorem stepWithin_alike (same : s.folded = s'.folded)
    (sound : s.tree.store.arena.Sound s.tree.store.rootIdentifier)
    (sound' : s'.tree.store.arena.Sound s'.tree.store.rootIdentifier) (calm : s.tree.Calm)
    {step step' : TxStep} (alike : step.Alike step') (number : Nat) (tx : Transaction) :
    Option.Rel StepOutcome.CalmAlike (s.stepWithin number tx step)
      (s'.stepWithin number tx step') := by
  have trees : s.tree.folded = s'.tree.folded := congrArg Session.tree same
  cases alike with
  | finish =>
    exact .some (finish_alike same calm number _ tx fun r => by cases r <;> rfl)
  | drop => exact .some (finish_alike same calm number _ tx fun _ => rfl)
  | status =>
    cases tx with
    | write tx => exact .some (settle_alike same (yield_alike trees _) calm)
    | read active => exact .some (settle_alike same (yield_alike trees _) calm)
  | @resolve address address' alike =>
    have ops : (Op.resolve address : Op Empty).folded = (Op.resolve address').folded :=
      congrArg Op.resolve alike
    obtain ⟨resolved, calm⟩ := perform_alike trees sound sound' calm ops trivial
    exact .some (settle_alike same resolved calm)
  | @mutate m m' alike =>
    cases tx with
    | write tx =>
      have performed : (s.mutated number tx m).folded = (s'.mutated number tx m').folded := by
        rw [mutated_folded, mutated_folded, same, alike]
      exact .some ⟨.of_folded performed, calm⟩
    | read active => exact .none
  | apply alike =>
    cases tx with
    | write tx => exact .some (applyManifest_alike same calm number tx alike)
    | read active => exact .none

/-- **The same step up to case has the same outcome up to case on sessions with the same fold.** -/
theorem step_alike (same : s.folded = s'.folded)
    (sound : s.tree.store.arena.Sound s.tree.store.rootIdentifier)
    (sound' : s'.tree.store.arena.Sound s'.tree.store.rootIdentifier) (calm : s.tree.Calm)
    {step step' : Step Empty} (alike : step.Alike step') (quiet : step.Quiet) :
    Option.Rel StepOutcome.CalmAlike (s.step step) (s'.step step') := by
  have trees : s.tree.folded = s'.tree.folded := congrArg Session.tree same
  cases alike with
  | perform alike =>
    obtain ⟨performed, calm⟩ := perform_alike trees sound sound' calm alike quiet
    exact .some (settle_alike same performed calm)
  | beginWrite => exact .some (start_alike same calm Store.beginWrite beginWrite_folded _)
  | beginRead => exact .some (start_alike same calm Store.beginRead beginRead_folded _)
  | within number alike =>
    have transactions : s.transactions = s'.transactions :=
      congrArg (fun s => s.transactions) same
    unfold Session.step
    dsimp only
    rw [transactions]
    cases s'.transactions[number]? with
    | none => exact .none
    | some tx =>
      cases tx with
      | some tx => exact stepWithin_alike same sound sound' calm alike number tx
      | none =>
        cases alike with
        | drop => exact .some (settle_alike same (yield_alike trees _) calm)
        | _ => exact .none

theorem close_alike (same : s.folded = s'.folded) (calm : s.tree.Calm) :
    s.close.Alike s'.close := by
  have trees : s.tree.folded = s'.tree.folded := congrArg Session.tree same
  have transactions : s.transactions = s'.transactions :=
    congrArg (fun s => s.transactions) same
  let drop : Tree Empty → Traced Empty (Except Error Answer) := fun t =>
    (dropAll s.transactions.toList t).map fun _ => .ok .done
  have mirrors : ∀ {t : Tree Empty}, t.Calm →
      Mirrors (foldedOutcome Answer.folded) (drop t) (drop t.folded) :=
    fun calm => (dropAll_mirrors _ calm).map fun _ => rfl
  have emptied : ({ s with transactions := #[] } : Session Empty).folded =
      ({ s' with transactions := #[] } : Session Empty).folded :=
    congrArg (fun t => (⟨t, #[]⟩ : Session Empty)) trees
  unfold close
  rw [← transactions]
  exact (settle_mirrored emptied mirrors trees calm).toAlike

/-- Runs of the same steps up to case, from sessions with the same fold. -/
theorem outcomes_alike {options options' : Options} {steps steps' : List (Step Empty)}
    (alike : List.Forall₂ Step.Alike steps steps') (quiet : ∀ step ∈ steps, step.Quiet) :
    ∀ {s s' : Session Empty}, s.Reachable options → s'.Reachable options' →
      s.folded = s'.folded → s.tree.Calm →
      List.Forall₂ (Option.Rel StepOutcome.Alike) (s.outcomes steps) (s'.outcomes steps') ∧
        (steps.foldl next s).close.Alike (steps'.foldl next s').close := by
  -- along both runs the sessions keep the same fold; soundness, of which no step by itself can be
  -- sure, comes from where they were reached from
  induction alike with
  | nil => exact fun _ _ same calm => ⟨.nil, close_alike same calm⟩
  | @cons step step' rest rest' alike _ ih =>
    intro s s' reached reached' same calm
    have sound := (Store.upright_of_reachable reached).sound
    have sound' := (Store.upright_of_reachable reached').sound
    have stepped := step_alike same sound sound' calm alike (quiet step List.mem_cons_self)
    have later : Option.Rel StepOutcome.Alike (s.step step) (s'.step step') ∧
        (s.next step).folded = (s'.next step').folded ∧ (s.next step).tree.Calm := by
      unfold next
      generalize s.step step = o at stepped ⊢
      generalize s'.step step' = o' at stepped ⊢
      cases stepped with
      | some level => exact ⟨.some level.toAlike, level.session, level.calm⟩
      | none => exact ⟨.none, same, calm⟩
    obtain ⟨outcome, same, calm⟩ := later
    obtain ⟨outcomes, closed⟩ := ih (fun step mem => quiet step (List.mem_cons_of_mem _ mem))
      (reached.next step) (reached'.next step') same calm
    exact ⟨.cons outcome outcomes, closed⟩

/-! ### New sessions -/

theorem ofRoot_folded (options : Options) (root : Identifier) :
    Store.ofRoot options.folded root.folded = (Store.ofRoot options root).folded := by
  have arena : (Arena.ofRoot root).folded = Arena.ofRoot root.folded :=
    congrArg Arena.mk (List.map_toArray ..)
  unfold Store.ofRoot Store.folded
  rw [arena]
  rfl

theorem calm_of_fresh {options : Options} (new : Session.ofOptions options = .ok s) :
    s.tree.Calm := by
  unfold Session.ofOptions Tree.ofOptions at new
  cases created : Store.ofOptions options with
  | error e => simp [created, Except.map] at new
  | ok store =>
    simp only [created, Except.map, Except.ok.injEq] at new
    subst new
    intro o mem
    exact absurd mem (Array.not_mem_empty o)

theorem ofOptions_folded (options : Options) :
    Session.ofOptions options.folded =
      foldedOutcome Session.folded (Session.ofOptions options) := by
  have named : readName options.folded.rootIdentifier = _ := readName_fold options.rootIdentifier
  unfold Session.ofOptions Tree.ofOptions Store.ofOptions
  rw [named]
  cases readName options.rootIdentifier with
  | error e => rfl
  | ok root =>
    exact congrArg (fun store => Except.ok (⟨.ofStore store, #[]⟩ : Session Empty))
      (ofRoot_folded options root)

end Session

/-- **ASCII case decides nothing.**  Take two runs, of trees with the same options and of the same
steps up to the case of names and addresses, where no observer that is registered calls back.  Then
either both trees are refused, for the same kind of error, or each step of one run is granted
exactly when its counterpart is, with the same answer up to case or for the same kind of error, and
leaves the same nodes with the same references up to case; and so does the end of the sessions,
which drops what transactions are left. -/
theorem case_blind (options options' : Options) (steps steps' : List (Step Empty))
    (same : options.folded = options'.folded) (alike : List.Forall₂ Step.Alike steps steps')
    (quiet : ∀ step ∈ steps, step.Quiet) :
    (∃ e e', (Session.ofOptions options : Except Error (Session Empty)) = .error e ∧
      (Session.ofOptions options' : Except Error (Session Empty)) = .error e' ∧
      e.errorClass = e'.errorClass) ∨
    ∃ s s' : Session Empty, Session.ofOptions options = .ok s ∧
      Session.ofOptions options' = .ok s' ∧ s.folded = s'.folded ∧
      List.Forall₂ (Option.Rel StepOutcome.Alike) (s.outcomes steps) (s'.outcomes steps') ∧
      (steps.foldl Session.next s).close.Alike (steps'.foldl Session.next s').close := by
  have begun : foldedOutcome Session.folded (Session.ofOptions options) =
      foldedOutcome Session.folded (Session.ofOptions options') := by
    rw [← Session.ofOptions_folded, ← Session.ofOptions_folded, same]
  cases new : Session.ofOptions options with
  | error e =>
    cases new' : Session.ofOptions options' with
    | error e' =>
      rw [new, new'] at begun
      have folded : e.folded = e'.folded := Except.error.inj begun
      refine .inl ⟨e, e', rfl, rfl, ?_⟩
      rw [← e.errorClass_folded, folded, e'.errorClass_folded]
    | ok s' =>
      rw [new, new'] at begun
      cases begun
  | ok s =>
    cases new' : Session.ofOptions options' with
    | error e' =>
      rw [new, new'] at begun
      cases begun
    | ok s' =>
      rw [new, new'] at begun
      have folded : s.folded = s'.folded := Except.ok.inj begun
      have calm := Session.calm_of_fresh new
      have runs := Session.outcomes_alike alike quiet (.fresh new) (.fresh new') folded calm
      exact .inr ⟨s, s', rfl, rfl, folded, runs⟩

/-- Steps that create an element, and within a transaction another below it, to which the root is
then linked; the address is looked up at the end. -/
def Session.errand (name other short address : String) : List (Step Empty) :=
  [.perform (.mutate (.create (some .root) name .group none)), .beginWrite,
    .within 0 (.mutate (.create (some ⟨1⟩) other .data none)), .within 0 .finish,
    .perform (.mutate (.link .root ⟨2⟩ (some short))), .perform (.resolve address)]

/-- The errand may be shouted, at a tree whose root is shouted, too. -/
theorem case_blind_shouted :
    let shouted : Options := { Options.standard with rootIdentifier := "DEVICE" }
    let steps := Session.errand "pump" "valve" "inlet" "/Inlet"
    let steps' := Session.errand "PUMP" "VALVE" "INLET" "/INLET"
    Options.standard.folded = shouted.folded ∧ List.Forall₂ Step.Alike steps steps' ∧
      (∀ step ∈ steps, step.Quiet) ∧
      ∃ s s', Session.ofOptions .standard = .ok s ∧ Session.ofOptions shouted = .ok s' ∧
        List.Forall₂ (Option.Rel StepOutcome.Alike) (s.outcomes steps) (s'.outcomes steps') := by
  intro shouted steps steps'
  have spelled : ∀ {a b : String}, a.toList.map Char.toLower = b.toList.map Char.toLower →
      fold a = fold b := by
    intro a b same
    apply String.toList_injective
    rw [toList_fold, toList_fold, same]
  have root : fold "device" = fold "DEVICE" := spelled (by decide)
  have name : fold "pump" = fold "PUMP" := spelled (by decide)
  have other : fold "valve" = fold "VALVE" := spelled (by decide)
  have short : fold "inlet" = fold "INLET" := spelled (by decide)
  have address : fold "/Inlet" = fold "/INLET" := spelled (by decide)
  have options : Options.standard.folded = shouted.folded := by
    simp only [Options.folded, Options.standard, shouted, root]
  have alike : List.Forall₂ Step.Alike steps steps' := by
    refine .cons (.perform ?_) (.cons .beginWrite (.cons (.within 0 (.mutate ?_))
      (.cons (.within 0 .finish) (.cons (.perform ?_) (.cons (.perform ?_) .nil)))))
    · simp only [Op.folded, Mutation.folded, name]
    · simp only [Mutation.folded, other]
    · simp only [Op.folded, Mutation.folded, Option.map_some, short]
    · simp only [Op.folded, address]
  have quiet : ∀ step ∈ steps, step.Quiet := by
    simp [steps, Session.errand, Step.Quiet, Op.Quiet]
  refine ⟨options, alike, quiet, ?_⟩
  rcases case_blind .standard shouted steps steps' options alike quiet with
    ⟨e, -, refused, -⟩ | ⟨s, s', new, new', -, outcomes, -⟩
  · have accepted : (Session.ofOptions .standard : Except Error (Session Empty)) =
        .ok ⟨.ofStore .standard, #[]⟩ := rfl
    rw [accepted] at refused
    cases refused
  · exact ⟨s, s', new, new', outcomes⟩

end DeviceTree
