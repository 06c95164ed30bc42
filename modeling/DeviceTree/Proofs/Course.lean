/-
The course of a run, act by act.

Observers act while an operation is under way, and what they do is interleaved with what the
operation itself does.  Here every operation, every notice and every step of a session is written
out as the row of acts that it consists of, in the order in which they happen, those of observers in
their places.  What is said of a point in the middle of an operation, or of how often something was
done in a run, is said of the beginnings of that row and of what it contains.

* `Tree.after_course`, `Tree.after_heard` -- an operation and a notice leave what their rows leave;
* `Session.after_course`, `Session.after_ending` -- so do a step and the end of a session;
* `Session.after_chronicle` -- so does a whole run.
-/
import DeviceTree.Proofs.Anchored
import DeviceTree.Proofs.Ended

namespace DeviceTree

/-- The acts of an operation on a tree. -/
abbrev Performer.Course := Op Empty → Tree Empty → List (Tree.Act Empty)

/-- The acts of all whom an event is told to. -/
abbrev Notifier.Course := Event → Tree Empty → List (Tree.Act Empty)

namespace Tree

/-- The tree after a row of acts. -/
def after (t : Tree Empty) (row : List (Act Empty)) : Tree Empty :=
  row.foldl (fun t a => (t.act a).2) t

theorem after_append (t : Tree Empty) (row row' : List (Act Empty)) :
    t.after (row ++ row') = (t.after row).after row' :=
  List.foldl_append

/-! ### Observers -/

section

variable (perform : Performer Empty) (acts : Performer.Course)

/-- The acts of a script. -/
def scriptActs : List (Op Empty) → Tree Empty → List (Act Empty)
  | [], _ => []
  | op :: rest, t => acts op t ++ scriptActs rest (perform op t).tree

/-- The acts of an observer: it uses up one of its calls, if there are any, and runs its script. -/
def reactActs (id : SubscriptionId) (o : Observer Empty) (t : Tree Empty) : List (Act Empty) :=
  match o.reaction with
  | .accept | .fail _ | .panic _ | .call 0 _ => []
  | .call (times + 1) script =>
    .turn id (.call times script) ::
      scriptActs perform acts script (t.setReaction id (.call times script))

/-- The acts of the observer of a subscription. -/
def tellActs (id : SubscriptionId) (t : Tree Empty) : List (Act Empty) :=
  match t.observer? id with
  | none => []
  | some o => reactActs perform acts id o t

/-- The acts of the observers at a node. -/
def tellAllActs (node : NodeId) (event : Event) :
    List SubscriptionId → Tree Empty → List (Act Empty)
  | [], _ => []
  | id :: rest, t =>
    tellActs perform acts id t ++ tellAllActs node event rest (t.tell perform node event id).tree

/-- The acts of the observers at a node and above it. -/
def bubbleActs (event : Event) : (hops : Nat) → NodeId → Tree Empty → List (Act Empty)
  | 0, _, _ => []
  | hops + 1, id, t =>
    match t.store.arena.get? id with
    | none => []
    | some node =>
      let told := t.tellAll perform id event node.observers
      tellAllActs perform acts id event node.observers t ++
        match told.tree.store.arena.lastParent id with
        | none => []
        | some parent => bubbleActs event hops parent told.tree

/-- The acts of a notice; the last of them counts the failures. -/
def noticeActs : Notifier.Course := fun event t =>
  if t.store.subscribers = 0 then []
  else
    bubbleActs perform acts event (t.store.arena.size + 1) event.source t ++
      [.fail (t.bubble perform event (t.store.arena.size + 1) event.source).value.length]

/-- The course tells what the performer does. -/
def Performs : Prop :=
  ∀ op t, t.after (acts op t) = (perform op t).tree

variable {perform acts} (performs : Performs perform acts)
include performs

theorem after_scriptActs (id : SubscriptionId) (label : String) (script : List (Op Empty)) :
    ∀ t : Tree Empty,
      t.after (scriptActs perform acts script t) = (runScript perform id label script t).tree := by
  induction script with
  | nil => exact fun t => rfl
  | cons op rest ih =>
    intro t
    rw [scriptActs, after_append, performs, ih]
    rfl

theorem after_reactActs (id : SubscriptionId) (o : Observer Empty) (t : Tree Empty) :
    t.after (reactActs perform acts id o t) = (t.react perform id o).tree := by
  unfold reactActs Tree.react
  cases o.reaction with
  | accept => rfl
  | fail message => rfl
  | panic payload => rfl
  | call times script =>
    cases times with
    | zero => rfl
    | succ times => exact after_scriptActs performs id o.label script _

theorem after_tellActs (node : NodeId) (event : Event) (id : SubscriptionId) (t : Tree Empty) :
    t.after (tellActs perform acts id t) = (t.tell perform node event id).tree := by
  unfold tellActs Tree.tell
  cases t.observer? id with
  | none => rfl
  | some o => exact after_reactActs performs id o t

theorem after_tellAllActs (node : NodeId) (event : Event) (ids : List SubscriptionId) :
    ∀ t : Tree Empty, t.after (tellAllActs perform acts node event ids t) =
      (t.tellAll perform node event ids).tree := by
  induction ids with
  | nil => exact fun t => rfl
  | cons id rest ih =>
    intro t
    rw [tellAllActs, after_append, after_tellActs performs node event, ih]
    rfl

theorem after_bubbleActs (event : Event) (hops : Nat) : ∀ (id : NodeId) (t : Tree Empty),
    t.after (bubbleActs perform acts event hops id t) = (t.bubble perform event hops id).tree := by
  induction hops with
  | zero => exact fun id t => rfl
  | succ hops ih =>
    intro id t
    unfold bubbleActs Tree.bubble
    cases t.store.arena.get? id with
    | none => rfl
    | some node =>
      dsimp only [Traced.andThen]
      rw [after_append, after_tellAllActs performs]
      -- the parent is the one that the node has once its own observers are done
      cases (t.tellAll perform id event node.observers).tree.store.arena.lastParent id with
      | none => rfl
      | some parent => exact ih parent _

theorem after_noticeActs (event : Event) (t : Tree Empty) :
    t.after (noticeActs perform acts event t) = (t.notifyWith perform event).tree := by
  unfold noticeActs Tree.notifyWith
  split
  · rfl
  · rw [after_append, after_bubbleActs performs]
    rfl

end

/-! ### Operations -/

section

variable (notify : Notifier Empty) (heard : Notifier.Course)

/-- The acts of a change: the mutation, and then those of all who are told of it. -/
def changeActs (m : Mutation) (t : Tree Empty) : List (Act Empty) :=
  .mutate m ::
    match t.act (.mutate m) with
    | (.ok ⟨_, some event⟩, t) => heard event t
    | (.ok ⟨_, none⟩, _) | (.error _, _) => []

/-- Where the next element of a row goes. -/
def above (layout : Layout) (parent last : Option NodeId) : Option NodeId :=
  match layout with
  | .chain => last
  | .fan => parent

/-- The acts that create the rest of a row of elements. -/
def growActs (layout : Layout) (parent : Option NodeId) (stem : String) :
    (left : Nat) → (made : Nat) → (last : Option NodeId) → Tree Empty → List (Act Empty)
  | 0, _, _, _ => []
  | left + 1, made, last, t =>
    let name := stem ++ toString made
    let created := t.change notify (Store.create (above layout parent last) name .group none)
    changeActs heard (.create (above layout parent last) name .group none) t ++
      match created.value with
      | .error _ => []
      | .ok id => growActs layout parent stem left (made + 1) (some id) created.tree

/-- The acts of an operation. -/
def operationActs : Performer.Course
  | .mutate m, t => changeActs heard m t
  | .grow layout parent stem count, t =>
    growActs notify heard layout parent stem count 0 (firstOfRow layout parent) t
  | .resolve address, _ => [.resolve address]
  | .ask query, _ => [.ask query]
  | .verify, _ => [.verify]
  | .subscribe node label reaction, _ => [.subscribe node ⟨label, reaction⟩]
  | .unsubscribe node id, _ => [.unsubscribe node id]
  | .raise action source target identifier, t =>
    match identifier.mapM readName with
    | .error _ => []
    | .ok name => heard ⟨action, source, target, name⟩ t

/-- The course tells what the notifier does. -/
def Notifies : Prop :=
  ∀ event t, t.after (heard event t) = (notify event t).tree

/-- The observers do not see what the request yields besides its event. -/
theorem tree_change_map {α β : Type} (request : Request (Change α)) (f : α → β) (t : Tree Empty) :
    (t.change notify (Change.map f <$> request)).tree = (t.change notify request).tree := by
  unfold Tree.change
  rw [Simulation.attempt_map]
  rcases t.attempt request with ⟨e | ⟨value, _ | event⟩, t'⟩ <;> rfl

theorem growRest_succ (layout : Layout) (parent : Option NodeId) (stem : String) (left made : Nat)
    (last : Option NodeId) (t : Tree Empty) :
    t.growRest notify layout parent stem (left + 1) made last =
      (t.change notify
        (Store.create (above layout parent last) (stem ++ toString made) .group none)).andThen
          fun created t =>
            match created with
            | .error e => t.yield (.error e)
            | .ok id => growRest notify layout parent stem left (made + 1) (some id) t := by
  cases layout <;> rfl

variable {notify heard} (notifies : Notifies notify heard)
include notifies

theorem after_changeActs (m : Mutation) (t : Tree Empty) :
    t.after (changeActs heard m t) = (t.change notify m.apply).tree := by
  show (t.attempt m.apply).2.after _ = _
  unfold Tree.change
  show Tree.after _ (match t.attempt m.apply with
    | (.ok ⟨_, some event⟩, t) => heard event t
    | (.ok ⟨_, none⟩, _) | (.error _, _) => []) = _
  rcases t.attempt m.apply with ⟨e | ⟨value, _ | event⟩, t'⟩
  · rfl
  · rfl
  · exact notifies event t'

theorem after_growActs (layout : Layout) (parent : Option NodeId) (stem : String) (left : Nat) :
    ∀ (made : Nat) (last : Option NodeId) (t : Tree Empty),
      t.after (growActs notify heard layout parent stem left made last t) =
        (t.growRest notify layout parent stem left made last).tree := by
  induction left with
  | zero => exact fun made last t => rfl
  | succ left ih =>
    intro made last t
    -- the row creates by a mutation, which answers in its own way; what it leaves is the same
    rw [growRest_succ, growActs, after_append, after_changeActs notifies, Mutation.apply,
      tree_change_map, Traced.andThen]
    cases (t.change notify (Store.create (above layout parent last) (stem ++ toString made)
      .group none)).value with
    | error e => rfl
    | ok id => exact ih (made + 1) (some id) _

theorem after_operationActs : Performs (performWith notify) (operationActs notify heard) := by
  intro op t
  cases op with
  | mutate m => exact after_changeActs notifies m t
  | grow layout parent stem count => exact after_growActs notifies layout parent stem count 0 _ t
  | resolve address => rfl
  | ask query => rfl
  | verify => rfl
  | subscribe node label reaction =>
    show (t.act (.subscribe node ⟨label, reaction⟩)).2 = _
    unfold Tree.act Tree.performWith
    dsimp only
    cases t.subscribe node ⟨label, reaction⟩ <;> rfl
  | unsubscribe node id => rfl
  | raise action source target identifier =>
    unfold operationActs Tree.performWith
    dsimp only
    cases identifier.mapM readName with
    | error e => rfl
    | ok name => exact notifies _ t
  | edit edit => cases edit

end

/-- The acts of a notice, where notices nest at most `depth` deep. -/
def heardWithin : (depth : Nat) → Notifier.Course
  | 0 => noticeActs (fun _ t => t.yield (.ok .done)) fun _ _ => []
  | depth + 1 =>
    noticeActs (performWith (notifyWithin depth))
      (operationActs (notifyWithin depth) (heardWithin depth))

theorem notifies_heardWithin (depth : Nat) : Notifies (notifyWithin depth) (heardWithin depth) := by
  -- operations on one level raise notices on the next, down to a level where nothing is performed
  induction depth with
  | zero => exact after_noticeActs fun op t => rfl
  | succ depth ih => exact after_noticeActs (after_operationActs ih)

/-- The acts of an operation, with those of all observers on the way. -/
def course (op : Op Empty) (t : Tree Empty) : List (Act Empty) :=
  let depth := t.weight + op.weight
  operationActs (notifyWithin depth) (heardWithin depth) op t

/-- The acts of all whom an event is told to. -/
def heard (event : Event) (t : Tree Empty) : List (Act Empty) :=
  heardWithin t.weight event t

/-- **An operation leaves what its acts leave**, one after the other. -/
theorem after_course (op : Op Empty) (t : Tree Empty) :
    t.after (course op t) = (t.perform op).tree :=
  after_operationActs (notifies_heardWithin _) op t

/-- **A notice leaves what its acts leave.** -/
theorem after_heard (event : Event) (t : Tree Empty) :
    t.after (heard event t) = (t.raise event).tree :=
  notifies_heardWithin _ event t

end Tree
namespace Session

open Manifest Simulation

/-! ### Manifests -/

section

variable (number : Nat)

/-- The acts of a step of a batch, and of what follows if the step is granted. -/
def thenActs {α : Type} (acts : List (Act Empty)) (step : Except Error α × Batch)
    (next : α → Batch → List (Act Empty)) : List (Act Empty) :=
  acts ++
    match step with
    | (.ok a, b) => next a b
    | (.error _, _) => []

/-- The acts that resolve the parent of a declared element. -/
def parentActs (parent : String) : List (Act Empty) :=
  if parent.isEmpty then [] else [.tree (.resolve parent)]

/-- The acts that create a declared element. -/
def elementActs (spec : DeclaredElement) (b : Batch) : List (Act Empty) :=
  match Batch.declared spec.address with
  | .error _ => []
  | .ok (parent, name) =>
    thenActs (parentActs parent) (b.locateParent parent) fun parent _ =>
      [.mutate number (Batch.creation parent name spec)]

/-- The acts that make a declared link. -/
def linkActs (spec : DeclaredLink) (b : Batch) : List (Act Empty) :=
  thenActs [.tree (.resolve spec.source)] (b.locate spec.source) fun source b =>
    thenActs [.tree (.resolve spec.target)] (b.locate spec.target) fun target _ =>
      [.mutate number (.link source target spec.identifier)]

/-- The acts of steps that are carried out up to the first that is refused. -/
def allActs {α : Type} (step : α → Batch → Except Error Unit × Batch)
    (acts : α → Batch → List (Act Empty)) : List α → Batch → List (Act Empty)
  | [], _ => []
  | x :: rest, b => thenActs (acts x b) (step x b) fun _ b => allActs step acts rest b

/-- The acts of a manifest. -/
def manifestActs (m : Manifest) (b : Batch) : List (Act Empty) :=
  thenActs (allActs Batch.declareElement (elementActs number) m.elements b)
    (Batch.all Batch.declareElement m.elements b) fun _ b =>
      allActs Batch.declareLink (linkActs number) m.links b

/-- The acts that carry out the manifest that a document describes. -/
def documentActs (tx : WriteTransaction) (document : String) (store : Store) : List (Act Empty) :=
  match Manifest.ofText document with
  | .error _ => []
  | .ok manifest => manifestActs number manifest ⟨tx, store⟩

end

theorem after_append (s : Session Empty) (row row' : List (Act Empty)) :
    s.after (row ++ row') = (s.after row).after row' :=
  List.foldl_append

theorem after_tree (s : Session Empty) (row : List (Tree.Act Empty)) :
    s.after (row.map .tree) = { s with tree := s.tree.after row } := by
  induction row generalizing s with
  | nil => rfl
  | cons a rest ih => exact ih _

section

variable {s : Session Empty} {number : Nat} {α β : Type}

/-- The acts lead from one batch to the other. -/
def Leads (s : Session Empty) (number : Nat) (acts : List (Act Empty)) (b b' : Batch) : Prop :=
  (withBatch s number b).after acts = withBatch s number b'

theorem Leads.thenActs {acts : List (Act Empty)} {b : Batch} {step : Except Error α × Batch}
    {next : α → Batch → List (Act Empty)} {goOn : α → Batch → Except Error β × Batch}
    (first : Leads s number acts b step.2)
    (rest : ∀ a b, Leads s number (next a b) b (goOn a b).2) :
    Leads s number (thenActs acts step next) b (Batch.andThen step goOn).2 := by
  obtain ⟨e | a, b'⟩ := step
  · rw [Leads, Session.thenActs, List.append_nil]
    exact first
  · rw [Leads, Session.thenActs, after_append, first]
    exact rest a b'

theorem leads_locate (s : Session Empty) (number : Nat) (b : Batch) (address : String) :
    Leads s number [.tree (.resolve address)] b (b.locate address).2 :=
  congrArg Prod.snd (act_resolve_withBatch s number b address)

theorem leads_locateParent (s : Session Empty) (number : Nat) (b : Batch) (parent : String) :
    Leads s number (parentActs parent) b (b.locateParent parent).2 := by
  unfold parentActs Batch.locateParent
  split
  · rfl
  · exact leads_locate s number b parent

theorem leads_perform (inside : number < s.transactions.size) (b : Batch) (m : Mutation) :
    Leads s number [.mutate number m] b (b.perform m).2 :=
  congrArg Prod.snd (act_mutate_withBatch inside m)

theorem leads_declareElement (inside : number < s.transactions.size) (spec : DeclaredElement)
    (b : Batch) :
    Leads s number (elementActs number spec b) b (Batch.declareElement spec b).2 := by
  unfold elementActs Batch.declareElement
  cases Batch.declared spec.address with
  | error e => rfl
  | ok halves =>
    exact (leads_locateParent s number b halves.1).thenActs fun id b => leads_perform inside b _

theorem leads_declareLink (inside : number < s.transactions.size) (spec : DeclaredLink)
    (b : Batch) : Leads s number (linkActs number spec b) b (Batch.declareLink spec b).2 :=
  (leads_locate s number b spec.source).thenActs fun _ b =>
    (leads_locate s number b spec.target).thenActs fun _ b => leads_perform inside b _

theorem leads_all {step : α → Batch → Except Error Unit × Batch}
    {acts : α → Batch → List (Act Empty)} (each : ∀ x b, Leads s number (acts x b) b (step x b).2)
    (xs : List α) : ∀ b, Leads s number (allActs step acts xs b) b (Batch.all step xs b).2 := by
  induction xs with
  | nil => exact fun b => rfl
  | cons x rest ih => exact fun b => (each x b).thenActs fun _ b => ih b

theorem leads_apply (inside : number < s.transactions.size) (m : Manifest) (b : Batch) :
    Leads s number (manifestActs number m b) b (m.apply b).2 :=
  (leads_all (leads_declareElement inside) m.elements b).thenActs fun _ b =>
    leads_all (leads_declareLink inside) m.links b

end

/-! ### Steps -/

/-- The session once the transaction has ended and everybody has been told. -/
def finished (s : Session Empty) (number : Nat) (tx : Transaction) : Session Empty :=
  ⟨(tx.finish s.tree).tree, (s.putTx number (some tx.ended)).transactions⟩

/-- The acts that end a transaction: it lets go of the lock, and then observers are told if it was
a write transaction that held it. -/
def finishActs (number : Nat) (tx : Transaction) (t : Tree Empty) : List (Act Empty) :=
  .release number ::
    match tx with
    | .write ⟨true, _⟩ => (Tree.heard .batch (letGo tx t)).map .tree
    | _ => []

/-- The acts of a step within the transaction of that number. -/
def courseWithin (s : Session Empty) (number : Nat) (tx : Transaction) :
    TxStep → List (Act Empty)
  | .finish => finishActs number tx s.tree
  | .drop => finishActs number tx s.tree ++ [.forget number]
  | .status => []
  | .resolve address => [.tree (.resolve address)]
  | .mutate mutation =>
    match tx with
    | .write _ => [.mutate number mutation]
    | .read _ => []
  | .apply document =>
    match tx with
    | .write tx => documentActs number tx document s.tree.store
    | .read _ => []

/-- The acts of a step. -/
def course (s : Session Empty) : Step Empty → List (Act Empty)
  | .perform op => (Tree.course op s.tree).map .tree
  | .beginWrite => [.beginWrite]
  | .beginRead => [.beginRead]
  | .within number step =>
    match s.transactions[number]? with
    | some (some tx) => s.courseWithin number tx step
    | some none | none => []

section

variable {s : Session Empty} {number : Nat} {tx : Transaction}

theorem after_finishActs (found : s.transaction? number = some tx) :
    s.after (finishActs number tx s.tree) = s.finished number tx := by
  have released : (s.act (.release number)).2 =
      { s with tree := letGo tx s.tree }.putTx number (some tx.ended) := by
    simp only [act, found]
  show (s.act (.release number)).2.after _ = _
  rw [released, finished, finish_eq]
  rcases tx with ⟨_ | _, k⟩ | _ | _
  · rfl
  · rw [after_tree]
    exact congrArg (Session.mk · _) (Tree.after_heard .batch _)
  · rfl
  · rfl

theorem after_courseWithin (found : s.transactions[number]? = some (some tx)) (step : TxStep) :
    s.after (s.courseWithin number tx step) =
      (s.stepWithin number tx step).elim s StepOutcome.session := by
  have there := transaction?_of_found found
  cases step with
  | finish => exact after_finishActs there
  | drop =>
    rw [courseWithin, after_append, after_finishActs there]
    have ended : (s.finished number tx).transaction? number = some tx.ended :=
      transaction?_putTx (s := s) (inside_of_found found) (some tx.ended)
    show ((s.finished number tx).act (.forget number)).2 =
      ⟨(tx.finish s.tree).tree, (s.putTx number none).transactions⟩
    rw [act_forget ended (not_holds_ended tx)]
    exact congrArg (Session.mk _ ·.transactions) (putTx_putTx s number (some tx.ended) none)
  | status => cases tx <;> rfl
  | resolve address => rfl
  | mutate mutation =>
    cases tx with
    | write tx => exact congrArg Prod.snd (act_mutate there mutation)
    | read active => rfl
  | apply document =>
    cases tx with
    | read active => rfl
    | write tx =>
      dsimp only [courseWithin, stepWithin, applyManifest, documentActs]
      cases Manifest.ofText document with
      | error defect => rfl
      | ok manifest =>
        have leads := leads_apply (inside_of_found found) manifest ⟨tx, s.tree.store⟩
        have start : withBatch s number ⟨tx, s.tree.store⟩ = s := putTx_self found
        rw [Leads, start] at leads
        exact leads

end

/-- **A step leaves what its acts leave**, one after the other. -/
theorem after_course (s : Session Empty) (step : Step Empty) :
    s.after (s.course step) = s.next step := by
  cases step with
  | perform op =>
    rw [course, after_tree, Tree.after_course]
    rfl
  | beginWrite => rfl
  | beginRead => rfl
  | within number step =>
    unfold course next Session.step
    dsimp only
    rcases found : s.transactions[number]? with _ | _ | tx
    · rfl
    · cases step <;> rfl
    · exact after_courseWithin found step

/-! ### Runs -/

/-- The acts of steps that are carried out one after the other. -/
def chronicle (s : Session Empty) : List (Step Empty) → List (Act Empty)
  | [] => []
  | step :: rest => s.course step ++ chronicle (s.next step) rest

/-- **A run leaves what its acts leave**, one after the other. -/
theorem after_chronicle (s : Session Empty) (steps : List (Step Empty)) :
    s.after (s.chronicle steps) = s.run steps := by
  induction steps generalizing s with
  | nil => rfl
  | cons step rest ih =>
    rw [chronicle, after_append, after_course, ih]
    rfl

/-- The acts that drop transactions, of which `number` is the number of the first. -/
def dropActs : (number : Nat) → List (Option Transaction) → Tree Empty → List (Act Empty)
  | _, [], _ => []
  | number, none :: rest, t => dropActs (number + 1) rest t
  | number, some tx :: rest, t =>
    finishActs number tx t ++ dropActs (number + 1) rest (tx.finish t).tree

/-- The acts that end a session. -/
def ending (s : Session Empty) : List (Act Empty) :=
  dropActs 0 s.transactions.toList s.tree ++ [.clear]

/-- The induction is on the transactions that are not dropped yet; `done` are the others. -/
theorem after_dropActs (rest : List (Option Transaction)) :
    ∀ (done : List (Option Transaction)) (t : Tree Empty),
      after ⟨t, (done ++ rest).toArray⟩ (dropActs done.length rest t) =
        ⟨(dropAll rest t).tree, (done ++ rest.map (Option.map Transaction.ended)).toArray⟩ := by
  induction rest with
  | nil => exact fun done t => rfl
  | cons first rest ih =>
    intro done t
    have later := fun tx => ih (done ++ [tx])
    simp only [List.length_append, List.length_singleton, List.append_assoc,
      List.singleton_append] at later
    cases first with
    | none => exact later none t
    | some tx =>
      have found : transaction? ⟨t, (done ++ some tx :: rest).toArray⟩ done.length = some tx := by
        simp [transaction?]
      have ended : (putTx ⟨t, (done ++ some tx :: rest).toArray⟩ done.length
          (some tx.ended)).transactions = (done ++ some tx.ended :: rest).toArray := by
        simp [putTx]
      rw [dropActs, after_append, after_finishActs found, finished, ended]
      exact later (some tx.ended) _

/-- **The end of a session leaves what its acts leave.** -/
theorem after_ending (s : Session Empty) : s.after s.ending = s.close.session := by
  have dropped := after_dropActs s.transactions.toList [] s.tree
  rw [List.nil_append, List.nil_append, Array.toArray_toList] at dropped
  rw [ending, after_append]
  show (Session.act (s.after (dropActs ([] : List (Option Transaction)).length _ _)) .clear).2 = _
  rw [show s = ⟨s.tree, s.transactions⟩ from rfl, dropped, act_clear_ended]
  rfl

end Session

end DeviceTree
