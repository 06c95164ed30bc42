/-
A refused mutation changes nothing.

A request *looks* if it never touches the store, is *sure* if it never fails, and is *clean* if it
fails, when it does, on the store that it was given and not because of the lock.  Looking first and
acting surely afterwards is clean (`Clean.of_looks`), and every mutation is built that way:

* `clean_apply` -- every mutation is clean;
* `refused_mutation` -- a mutation that is refused, asked of a tree or within a transaction, tells
  no observer and leaves everything as it was, but for the count of refusals of the lock.
-/
import DeviceTree.Proofs.Runs

namespace DeviceTree

namespace Request

variable {α β : Type}

/-- The request changes nothing, whatever comes of it. -/
def Looks (p : Request α) : Prop :=
  ∀ s, (∃ a, p s = .ok a s) ∨ ∃ e, p s = .error e s ∧ e.errorClass ≠ .locked

/-- The request never fails. -/
def Sure (p : Request α) : Prop :=
  ∀ s, ∃ a t, p s = .ok a t

/-- The request fails only on the store that it was given, and never because of the lock. -/
def Clean (p : Request α) : Prop :=
  ∀ s, (∃ a t, p s = .ok a t) ∨ ∃ e, p s = .error e s ∧ e.errorClass ≠ .locked

theorem Sure.clean {p : Request α} (h : Sure p) : Clean p :=
  fun s => .inl (h s)

theorem bind_of_ok {p : Request α} {f : α → Request β} {s t : Store} {a : α}
    (h : p s = .ok a t) : (p >>= f) s = f a t := by
  show EStateM.bind p f s = _
  simp only [EStateM.bind, h]

theorem bind_of_error {p : Request α} {f : α → Request β} {s t : Store} {e : Error}
    (h : p s = .error e t) : (p >>= f) s = .error e t := by
  show EStateM.bind p f s = _
  simp only [EStateM.bind, h]

/-- To look and then go on cleanly is clean. -/
theorem Clean.of_looks {p : Request α} {f : α → Request β} (hp : Looks p)
    (hf : ∀ a, Clean (f a)) : Clean (p >>= f) := by
  intro s
  rcases hp s with ⟨a, ok⟩ | ⟨e, failed, unlocked⟩
  · rw [bind_of_ok ok]
    exact hf a s
  · exact .inr ⟨e, bind_of_error failed, unlocked⟩

theorem Looks.bind {p : Request α} {f : α → Request β} (hp : Looks p)
    (hf : ∀ a, Looks (f a)) : Looks (p >>= f) := by
  intro s
  rcases hp s with ⟨a, ok⟩ | ⟨e, failed, unlocked⟩
  · rw [bind_of_ok ok]
    exact hf a s
  · exact .inr ⟨e, bind_of_error failed, unlocked⟩

theorem Sure.bind {p : Request α} {f : α → Request β} (hp : Sure p) (hf : ∀ a, Sure (f a)) :
    Sure (p >>= f) := by
  intro s
  obtain ⟨a, t, ok⟩ := hp s
  rw [bind_of_ok ok]
  exact hf a t

theorem looks_pure (a : α) : Looks (pure a) :=
  fun _ => .inl ⟨a, rfl⟩

theorem looks_get : Looks (get : Request Store) :=
  fun s => .inl ⟨s, rfl⟩

theorem sure_pure (a : α) : Sure (pure a) :=
  fun s => ⟨a, s, rfl⟩

theorem sure_get : Sure (get : Request Store) :=
  fun s => ⟨s, s, rfl⟩

theorem sure_modify (f : Store → Store) : Sure (modify f : Request Unit) :=
  fun s => ⟨(), f s, rfl⟩

theorem Clean.map {p : Request α} (f : α → β) (h : Clean p) : Clean (f <$> p) := by
  intro s
  show (∃ a t, EStateM.map f p s = .ok a t) ∨ ∃ e, EStateM.map f p s = .error e s ∧ _
  unfold EStateM.map
  rcases h s with ⟨a, t, ok⟩ | ⟨e, failed, unlocked⟩
  · rw [ok]
    exact .inl ⟨f a, t, rfl⟩
  · rw [failed]
    exact .inr ⟨e, rfl, unlocked⟩

/-- A check on its own, of which no failure speaks of the lock. -/
theorem looks_lift {r : Except Error α} (h : ∀ e, r = .error e → e.errorClass ≠ .locked) :
    Looks (liftM r : Request α) := by
  intro s
  cases r with
  | ok a => exact .inl ⟨a, rfl⟩
  | error e => exact .inr ⟨e, rfl, h e rfl⟩

end Request

namespace Store

open Request

/-! ### The checks of mutations -/

theorem looks_fetch (id : NodeId) : Looks (fetch id) := by
  refine looks_get.bind fun s => looks_lift fun e h => ?_
  unfold Arena.fetch at h
  split at h
  · cases h
  · cases h
    simp [Error.errorClass]

theorem looks_refuseIf {condition : Prop} [Decidable condition] {e : Error}
    (unlocked : e.errorClass ≠ .locked) : Looks (liftM (refuseIf condition e) : Request Unit) := by
  refine looks_lift fun e' h => ?_
  unfold refuseIf at h
  split at h
  · cases h
    exact unlocked
  · cases h

theorem looks_refuseAny {α : Type} {found : Option α} {e : α → Error}
    (unlocked : ∀ a, (e a).errorClass ≠ .locked) :
    Looks (liftM (refuseAny found e) : Request Unit) := by
  refine looks_lift fun e' h => ?_
  cases found with
  | none => cases h
  | some a =>
    cases h
    exact unlocked a

theorem readName_unlocked {raw : String} {e : Error} (h : readName raw = .error e) :
    e.errorClass ≠ .locked := by
  unfold readName at h
  cases g : Identifier.ofString raw with
  | ok name =>
    rw [g] at h
    cases h
  | error fault =>
    rw [g] at h
    cases h
    simp [Error.errorClass]

theorem looks_readName (raw : String) : Looks (liftM (readName raw) : Request Identifier) :=
  looks_lift fun _ h => readName_unlocked h

theorem looks_requireFreeName (holder : Node) (name : Identifier) :
    Looks (liftM (requireFreeName holder name) : Request Unit) :=
  looks_refuseAny fun _ => by simp [Error.errorClass]

theorem looks_requireUnreferenced (holder : Node) (target : NodeId) :
    Looks (liftM (requireUnreferenced holder target) : Request Unit) :=
  looks_refuseAny fun _ => by simp [Error.errorClass]

theorem looks_requireChild (holder : Node) (child : NodeId) :
    Looks (liftM (requireChild holder child) : Request Identifier) := by
  refine looks_lift fun e h => ?_
  unfold requireChild at h
  split at h
  · cases h
  · cases h
    simp [Error.errorClass]

theorem looks_requireLink (holder : Node) (selector : LinkChoice) :
    Looks (liftM (requireLink holder selector) : Request Reference) := by
  refine looks_lift fun e h => ?_
  unfold requireLink at h
  split at h
  · cases h
  · cases h
    simp [Error.errorClass]

theorem looks_linkName (identifier : Option String) (target : Node) :
    Looks (liftM (linkName identifier target) : Request Identifier) := by
  cases identifier with
  | none => exact looks_pure _
  | some raw => exact looks_readName raw

theorem looks_requireParent (parent : Option NodeId) (name : Identifier) :
    Looks (requireParent parent name) := by
  cases parent with
  | none => exact looks_pure _
  | some id =>
    exact (looks_fetch id).bind fun node =>
      (looks_requireFreeName node name).bind fun _ => looks_pure _

/-! ### Mutations -/

theorem sure_place (node : Node) : Sure (place node) :=
  sure_get.bind fun _ => (sure_modify _).bind fun _ => sure_pure _

theorem sure_settle (parent : Option NodeId) (id : NodeId) (name : Identifier) :
    Sure (settle parent id name) := by
  cases parent with
  | none => exact sure_pure _
  | some parent => exact (sure_modify _).bind fun _ => sure_pure _

theorem clean_create (parent : Option NodeId) (identifier : String) (kind : ElementKind)
    (attachment : Option String) : Clean (create parent identifier kind attachment) := by
  refine .of_looks (looks_readName identifier) fun name => ?_
  refine .of_looks (looks_requireParent parent name) fun above => Sure.clean ?_
  exact (sure_place _).bind fun id => sure_settle parent id name

theorem clean_createData (parent : Option NodeId) (identifier : String) (options : DataOptions) :
    Clean (createData parent identifier options) := by
  refine .of_looks (looks_readName identifier) fun name => ?_
  refine .of_looks (looks_requireParent parent name) fun above => Sure.clean ?_
  exact (sure_place _).bind fun id => (sure_modify _).bind fun _ => sure_settle parent id name

theorem clean_add (parent child : NodeId) : Clean (add parent child) := by
  refine .of_looks (looks_fetch parent) fun above => ?_
  refine .of_looks (looks_fetch child) fun below => ?_
  refine .of_looks (looks_requireUnreferenced above child) fun _ => ?_
  refine .of_looks (looks_requireFreeName above below.identifier) fun _ => ?_
  refine .of_looks (looks_refuseIf (by simp [Error.errorClass])) fun _ => ?_
  refine .of_looks (looks_refuseAny fun _ => by simp [Error.errorClass]) fun _ => ?_
  refine .of_looks looks_get fun s => ?_
  refine .of_looks (looks_refuseIf (by simp [Error.errorClass])) fun _ => Sure.clean ?_
  exact (sure_modify _).bind fun _ => sure_pure _

theorem clean_remove (parent child : NodeId) : Clean (remove parent child) := by
  refine .of_looks (looks_fetch parent) fun above => ?_
  refine .of_looks (looks_fetch child) fun _ => ?_
  refine .of_looks (looks_requireChild above child) fun name => ?_
  refine .of_looks looks_get fun s => ?_
  refine .of_looks (looks_refuseAny fun _ => by simp [Error.errorClass]) fun _ => Sure.clean ?_
  exact (sure_modify _).bind fun _ => sure_pure _

theorem clean_link (source target : NodeId) (identifier : Option String) :
    Clean (link source target identifier) := by
  refine .of_looks (looks_fetch source) fun holder => ?_
  refine .of_looks (looks_fetch target) fun aim => ?_
  refine .of_looks (looks_linkName identifier aim) fun name => ?_
  refine .of_looks (looks_requireUnreferenced holder target) fun _ => ?_
  refine .of_looks (looks_requireFreeName holder name) fun _ => ?_
  refine .of_looks (looks_refuseIf (by simp [Error.errorClass])) fun _ => ?_
  refine .of_looks looks_get fun s => ?_
  refine .of_looks (looks_refuseIf (by simp [Error.errorClass])) fun _ => Sure.clean ?_
  exact (sure_modify _).bind fun _ => sure_pure _

theorem clean_unlink (source : NodeId) (selector : LinkChoice) :
    Clean (unlink source selector) := by
  refine .of_looks (looks_fetch source) fun holder => ?_
  refine .of_looks (looks_requireLink holder selector) fun link => Sure.clean ?_
  exact (sure_modify _).bind fun _ => sure_pure _

theorem clean_discard (id : NodeId) : Clean (discard id) := by
  refine .of_looks (looks_fetch id) fun node => ?_
  refine .of_looks (looks_refuseIf (by simp [Error.errorClass])) fun _ => ?_
  refine .of_looks (looks_refuseAny fun _ => by simp [Error.errorClass]) fun _ => ?_
  refine .of_looks looks_get fun s => ?_
  refine .of_looks (looks_refuseAny fun _ => by simp [Error.errorClass]) fun _ => Sure.clean ?_
  exact (sure_modify _).bind fun _ => (sure_modify _).bind fun _ => (sure_modify _).bind
    fun _ => sure_pure _

end Store

open Request Store

theorem clean_apply (m : Mutation) : Clean m.apply := by
  cases m with
  | create parent identifier kind attachment =>
    exact (clean_create parent identifier kind attachment).map _
  | createData parent identifier options =>
    exact (clean_createData parent identifier options).map _
  | add parent child => exact (clean_add parent child).map _
  | remove parent child => exact (clean_remove parent child).map _
  | link source target identifier => exact (clean_link source target identifier).map _
  | unlink source selector => exact (clean_unlink source selector).map _
  | discard node => exact (clean_discard node).map _

/-- The store after a refusal: it is as before, but for one more refusal of the lock if that is what
was wrong and refusals are counted. -/
def Store.afterRefusal (e : Error) (s : Store) : Store :=
  if e.errorClass = .locked then
    { s with counters := s.counters.map fun c => { c with lockTimeouts := c.lockTimeouts + 1 } }
  else s

/-- A clean request that fails under the lock leaves the store as it was. -/
theorem exclusively_refused {α : Type} {p : Request α} (clean : Clean p) {s t : Store} {e : Error}
    (h : s.exclusively p = (.error e, t)) : t = s.afterRefusal e := by
  unfold exclusively beginWrite at h
  cases admitted : s.lock.admitWriter with
  | error e' =>
    -- the lock is held: the refusal is counted, and nothing else happens
    have locked : e'.errorClass = .locked := by
      unfold Lock.admitWriter at admitted
      split at admitted
      · cases admitted
      · cases admitted
        rfl
    simp only [admitted, Prod.mk.injEq, Except.error.injEq] at h
    obtain ⟨rfl, rfl⟩ := h
    rw [afterRefusal, if_pos locked]
    rfl
  | ok held =>
    -- the lock is taken for the request and given back after it
    rcases clean { s with lock := held } with ⟨a, u, ok⟩ | ⟨e', failed, unlocked⟩
    · simp [admitted, ok] at h
    · simp only [admitted, failed, Prod.mk.injEq, Except.error.injEq] at h
      obtain ⟨rfl, rfl⟩ := h
      rw [afterRefusal, if_neg unlocked, endWrite, Lock.releaseWriter_of_admitWriter admitted]

variable {ε : Type}

/-- The tree after a refusal. -/
def Tree.afterRefusal (e : Error) (t : Tree ε) : Tree ε :=
  t.onStore (Store.afterRefusal e)

/-- The session after a refusal. -/
def Session.afterRefusal (e : Error) (s : Session ε) : Session ε :=
  { s with tree := s.tree.afterRefusal e }

theorem change_refused {α : Type} {notify : Notifier ε} {p : Request (Change α)}
    (clean : Clean p) {t : Tree ε} {e : Error} (h : (t.change notify p).value = .error e) :
    (t.change notify p).log = [] ∧ (t.change notify p).tree = t.afterRefusal e := by
  unfold Tree.change at h ⊢
  rcases attempted : t.attempt p with ⟨_ | change, u⟩
  · simp only [attempted, Tree.yield, Except.error.injEq] at h ⊢
    subst h
    simp only [Tree.attempt, Prod.mk.injEq] at attempted
    obtain ⟨failed, rfl⟩ := attempted
    -- nobody was told: an event is only raised by a mutation that was granted
    have kept := exclusively_refused clean (Prod.ext failed rfl : t.store.exclusively p = (_, _))
    exact ⟨trivial, congrArg (Tree.mk · t.observers) kept⟩
  · simp only [attempted] at h
    split at h <;> simp [Tree.yield, Traced.map] at h

theorem Session.stepWithin_refused [DirectEdit ε] {s : Session ε} {number : Nat}
    {tx : Transaction} (found : s.transactions[number]? = some (some tx)) {m : Mutation}
    {o : StepOutcome ε} {e : Error} (stepped : s.stepWithin number tx (.mutate m) = some o)
    (refused : o.answer = .error e) : o.log = [] ∧ o.session = s.afterRefusal e := by
  cases tx with
  | read active => simp [stepWithin] at stepped
  | write tx =>
    simp only [stepWithin, Option.some.injEq] at stepped
    subst stepped
    -- the transaction, the store and the count of its operations are those of before
    have kept : (tx.perform m s.tree.store).2 = (tx, s.tree.store) ∧ e.errorClass ≠ .locked := by
      simp only [WriteTransaction.perform] at refused ⊢
      split at refused
      · next active =>
        rcases clean_apply m s.tree.store with ⟨a, u, ok⟩ | ⟨e', failed, unlocked⟩
        · simp [ok] at refused
        · simp only [failed, Except.error.injEq] at refused
          subst refused
          simp [active, failed, unlocked]
      · next ended =>
        simp only [Except.error.injEq] at refused
        subst refused
        simp [ended, Error.errorClass]
    refine ⟨rfl, ?_⟩
    simp only [kept.1, Session.afterRefusal, Tree.afterRefusal, Tree.onStore, Store.afterRefusal,
      if_neg kept.2]
    exact Session.putTx_self found

/-- **A refused mutation changes nothing.**  The first part is about a mutation asked of a tree by
whomever, an observer included; the second about one asked in a session, of its tree or within one
of its transactions. -/
theorem refused_mutation [DirectEdit ε] (m : Mutation) (e : Error) :
    (∀ (notify : Notifier ε) (t : Tree ε),
      (t.performWith notify (.mutate m)).value = .error e →
        (t.performWith notify (.mutate m)).log = [] ∧
        (t.performWith notify (.mutate m)).tree = t.afterRefusal e) ∧
    ∀ (s : Session ε) (step : Step ε) (o : StepOutcome ε),
      (step = .perform (.mutate m) ∨ ∃ number, step = .within number (.mutate m)) →
      s.step step = some o → o.answer = .error e →
        o.log = [] ∧ o.session = s.afterRefusal e := by
  have asked : ∀ (notify : Notifier ε) (t : Tree ε),
      (t.performWith notify (.mutate m)).value = .error e →
        (t.performWith notify (.mutate m)).log = [] ∧
        (t.performWith notify (.mutate m)).tree = t.afterRefusal e :=
    fun _ _ h => change_refused (clean_apply m) h
  refine ⟨asked, ?_⟩
  rintro s step o (rfl | ⟨number, rfl⟩) stepped refused
  · simp only [Session.step, Option.some.injEq] at stepped
    subst stepped
    obtain ⟨silent, kept⟩ := asked _ s.tree refused
    exact ⟨silent, congrArg (Session.mk · s.transactions) kept⟩
  · simp only [Session.step] at stepped
    rcases found : s.transactions[number]? with _ | _ | tx
    · simp [found] at stepped
    · simp [found] at stepped
    · simp only [found] at stepped
      exact Session.stepWithin_refused found stepped refused

/-- A session with counters in which a write transaction is open. -/
def Session.writing : Session Empty :=
  ⟨.ofStore Store.counted.beginWrite.2, #[some (.write .fresh)]⟩

/-- The tree refuses because of the lock, which is counted; the transaction refuses because there is
no such child, and nothing at all is left of that. -/
theorem refused_mutation_while_writing :
    let add : Mutation := .add .root ⟨7⟩
    let locked : Error := .locked (.ofParts 10 0)
    let tree := Session.writing.tree.perform (.mutate add)
    let within := Session.writing.step (.within 0 (.mutate add))
    (tree.value = .error locked ∧ tree.log = [] ∧
        tree.tree = Session.writing.tree.afterRefusal locked ∧
        Session.writing.tree.store.counters = some .zero ∧
        tree.tree.store.counters = some { Counters.zero with lockTimeouts := 1 }) ∧
      within.map StepOutcome.answer = some (.error (.noSuchNode ⟨7⟩)) ∧
        within.map StepOutcome.session = some Session.writing := by
  intro add locked tree within
  have refused : tree.value = .error locked := rfl
  obtain ⟨silent, kept⟩ := (refused_mutation add locked).1 _ Session.writing.tree refused
  have counted := congrArg (fun t => t.store.counters) kept
  refine ⟨⟨refused, silent, kept, rfl, counted⟩, rfl, ?_⟩
  obtain ⟨o, stepped⟩ : ∃ o, within = some o := ⟨_, rfl⟩
  have answer : o.answer = .error (.noSuchNode ⟨7⟩) :=
    congrArg StepOutcome.answer (Option.some.inj stepped.symm)
  rw [stepped, Option.map_some,
    ((refused_mutation add _).2 _ _ o (.inr ⟨0, rfl⟩) stepped answer).2]
  rfl

end DeviceTree
