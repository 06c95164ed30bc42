/-
The cache cannot be seen.

Two sessions that were set up alike, but for their caches, go on alike (`Twins`): they yield the
same answers and events, act by act and step by step, and have the same arena all along.  Only what
they tell of the caches themselves may differ, which is masked.

* `simulation_twins` -- acts keep twins;
* `cache_transparent` -- runs of twins look the same, and the cache is right in every reachable
  session.
-/
import DeviceTree.Proofs.Coherence

namespace DeviceTree

namespace Store

/-- The stores differ in nothing but their caches and in how many resolutions these knew. -/
structure Same (s s' : Store) : Prop where
  arena : s.arena = s'.arena
  rootIdentifier : s.rootIdentifier = s'.rootIdentifier
  lock : s.lock = s'.lock
  subscribers : s.subscribers = s'.subscribers
  counters : s.counters.map Counters.masked = s'.counters.map Counters.masked

variable {s s' : Store}

/-! ### Effects -/

/-- The two ways of counting differ in nothing but in what the cache knew. -/
def CountsAlike (f f' : Counters → Counters) : Prop :=
  ∀ c c' : Counters, c.masked = c'.masked → (f c).masked = (f' c').masked

theorem Same.count (h : Same s s') {f f' : Counters → Counters} (alike : CountsAlike f f') :
    Same (s.count f) (s'.count f') where
  arena := h.arena
  rootIdentifier := h.rootIdentifier
  lock := h.lock
  subscribers := h.subscribers
  counters := by
    have counters := h.counters
    unfold Store.count
    dsimp only
    cases c : s.counters <;> cases c' : s'.counters <;> simp_all
    exact alike _ _ counters

theorem countsAlike_lookedUp (b b' : Bool) : CountsAlike (.lookedUp b) (.lookedUp b') := by
  rintro ⟨⟩ ⟨⟩ h
  simp only [Counters.masked, Counters.mk.injEq] at h
  cases b <;> cases b' <;> simp [Counters.lookedUp, Counters.masked] <;> omega

/-- What is counted apart from resolutions does not matter to the mask. -/
theorem countsAlike_of_commutes {f : Counters → Counters}
    (commutes : ∀ c, (f c).masked = f c.masked) : CountsAlike f f := by
  intro c c' h
  rw [commutes, commutes, h]

theorem Same.onArena (h : Same s s') (f : Arena → Arena) : Same (s.onArena f) (s'.onArena f) where
  arena := congrArg f h.arena
  rootIdentifier := h.rootIdentifier
  lock := h.lock
  subscribers := h.subscribers
  counters := h.counters

theorem simulation_same : Simulation Same where
  arena h := h.arena
  insert h node := (h.onArena fun a => a.push node).count (countsAlike_of_commutes fun _ => rfl)
  makeChild h parent child name :=
    (h.onArena fun a => a.attach parent child name).count (countsAlike_of_commutes fun _ => rfl)
  unmakeChild h parent child :=
    (h.onArena fun a => a.detach parent child).count (countsAlike_of_commutes fun _ => rfl)
  makeLink h source target name :=
    (h.onArena fun a => a.link source target name).count (countsAlike_of_commutes fun _ => rfl)
  unmakeLink h source target :=
    (h.onArena fun a => a.unlink source target).count (countsAlike_of_commutes fun _ => rfl)
  vacate {s s'} h id := by
    unfold Store.vacate
    rw [h.arena]
    split
    · exact h
    · refine Same.count (Same.onArena ?_ fun a => a.vacate id) ?_
      · exact ⟨rfl, h.rootIdentifier, h.lock, by rw [h.subscribers], h.counters⟩
      · exact countsAlike_of_commutes fun _ => rfl
  invalidate h := by
    refine Same.count ?_ (countsAlike_of_commutes fun _ => rfl)
    exact ⟨h.arena, h.rootIdentifier, h.lock, h.subscribers, h.counters⟩

/-! ### What a session asks of its store -/

theorem Same.withLock (h : Same s s') (lock : Lock) : Same { s with lock } { s' with lock } :=
  ⟨h.arena, h.rootIdentifier, rfl, h.subscribers, h.counters⟩

theorem Same.refused (h : Same s s') : Same (s.count .refused) (s'.count .refused) :=
  h.count (countsAlike_of_commutes fun _ => rfl)

theorem Same.endWrite (h : Same s s') : Same s.endWrite s'.endWrite :=
  ⟨h.arena, h.rootIdentifier, congrArg Lock.releaseWriter h.lock, h.subscribers, h.counters⟩

theorem Same.endRead (h : Same s s') : Same s.endRead s'.endRead :=
  ⟨h.arena, h.rootIdentifier, congrArg Lock.releaseReader h.lock, h.subscribers, h.counters⟩

theorem Same.beginWrite (h : Same s s') :
    s.beginWrite.1 = s'.beginWrite.1 ∧ Same s.beginWrite.2 s'.beginWrite.2 := by
  unfold Store.beginWrite
  rw [h.lock]
  split
  · exact ⟨rfl, h.refused⟩
  · next lock _ => exact ⟨rfl, h.withLock lock⟩

theorem Same.beginRead (h : Same s s') :
    s.beginRead.1 = s'.beginRead.1 ∧ Same s.beginRead.2 s'.beginRead.2 := by
  unfold Store.beginRead
  rw [h.lock]
  split
  · exact ⟨rfl, h.refused⟩
  · next lock _ => exact ⟨rfl, h.withLock lock⟩

theorem Same.exclusively (h : Same s s') (m : Mutation) :
    (s.exclusively m.apply).1 = (s'.exclusively m.apply).1 ∧
      Same (s.exclusively m.apply).2 (s'.exclusively m.apply).2 := by
  unfold Store.exclusively
  -- both stores admit the writer, or neither does
  obtain ⟨begun, h⟩ := h.beginWrite
  generalize s.beginWrite = r at begun h
  generalize s'.beginWrite = r' at begun h
  obtain ⟨outcome, s⟩ := r
  obtain ⟨outcome', s'⟩ := r'
  obtain rfl : outcome = outcome' := begun
  cases outcome with
  | error e => exact ⟨rfl, h⟩
  | ok u =>
    have agree := simulation_same.apply m s s' h
    dsimp only
    generalize m.apply s = r at agree
    generalize m.apply s' = r' at agree
    cases agree with
    | ok c h => exact ⟨rfl, h.endWrite⟩
    | error e h => exact ⟨rfl, h.endWrite⟩

theorem Same.perform (h : Same s s') (tx : WriteTransaction) (m : Mutation) :
    (tx.perform m s).1 = (tx.perform m s').1 ∧ (tx.perform m s).2.1 = (tx.perform m s').2.1 ∧
      Same (tx.perform m s).2.2 (tx.perform m s').2.2 := by
  have agree := simulation_same.apply m s s' h
  unfold WriteTransaction.perform
  generalize m.apply s = r at agree
  generalize m.apply s' = r' at agree
  split
  · cases agree with
    | ok c h => exact ⟨rfl, rfl, h⟩
    | error e h => exact ⟨rfl, rfl, h⟩
  · exact ⟨rfl, rfl, h⟩

theorem Same.verify (h : Same s s') :
    s.verify.1 = s'.verify.1 ∧ Same s.verify.2 s'.verify.2 := by
  unfold Store.verify
  rw [h.lock, h.arena, h.rootIdentifier]
  split
  · exact ⟨rfl, h.refused⟩
  · exact ⟨rfl, h⟩

theorem Same.walk (h : Same s s') (names : List String) : s.walk names = s'.walk names :=
  walk_congr h.rootIdentifier (fun _ _ => by rw [h.arena]) names

/-- A resolution leaves the store as it was, but for the cache and the count of resolutions. -/
theorem resolve_snd (s : Store) (address : String) :
    ∃ cache cached, (s.resolve address).2 = { s with cache }.count (.lookedUp cached) := by
  unfold Store.resolve
  dsimp only
  split
  · exact ⟨s.cache, true, rfl⟩
  · split
    · exact ⟨_, false, rfl⟩
    · exact ⟨s.cache, false, rfl⟩

theorem Same.resolve (h : Same s s') (coherent : s.Coherent) (coherent' : s'.Coherent)
    (address : String) :
    (s.resolve address).1 = (s'.resolve address).1 ∧
      Same (s.resolve address).2 (s'.resolve address).2 := by
  have rooted : s.rooted address = s'.rooted address := by rw [rooted, rooted, h.rootIdentifier]
  refine ⟨?_, ?_⟩
  · -- either cache may know the address or not: both sides find what the walk finds
    rw [resolve_fst coherent, resolve_fst coherent', rooted, h.walk]
  · obtain ⟨cache, cached, left⟩ := resolve_snd s address
    obtain ⟨cache', cached', left'⟩ := resolve_snd s' address
    rw [left, left']
    refine Same.count ?_ (countsAlike_lookedUp cached cached')
    exact ⟨h.arena, h.rootIdentifier, h.lock, h.subscribers, h.counters⟩

theorem Same.ask (h : Same s s') (query : Query) :
    (s.ask query).map Answer.masked = (s'.ask query).map Answer.masked := by
  cases query with
  | info => simp [Store.ask, Store.info, Except.map, Answer.masked, h.arena, h.rootIdentifier]
  | counters => simp [Store.ask, Except.map, Answer.masked, h.counters]
  | _ => simp only [Store.ask, Store.about, h.arena, h.rootIdentifier]

end Store

/-! ### Sessions -/

open Store

/-- The sessions differ in nothing but their caches, and these are right. -/
structure Session.Twins (name : String) (s s' : Session Empty) : Prop where
  transactions : s.transactions = s'.transactions
  observers : s.tree.observers = s'.tree.observers
  store : Same s.tree.store s'.tree.store
  tidy : s.tree.store.Tidy name
  tidy' : s'.tree.store.Tidy name

variable {t t' : Tree Empty} {s s' : Session Empty} {name : String}

theorem Store.Same.observers {s s' : Store} (h : Same s s') (node : NodeId) (f : Node → Node)
    (change : Nat → Nat) :
    Same { s with arena := s.arena.modify node f, subscribers := change s.subscribers }
      { s' with arena := s'.arena.modify node f, subscribers := change s'.subscribers } :=
  ⟨by rw [h.arena], h.rootIdentifier, h.lock, by rw [h.subscribers], h.counters⟩

/-- What two acts yield is the same, and the trees that they leave differ in their caches only. -/
structure Tree.ActAlike (r r' : Except Error (Change Answer) × Tree Empty) : Prop where
  yields : r.1.map (Change.map Answer.masked) = r'.1.map (Change.map Answer.masked)
  observers : r.2.observers = r'.2.observers
  store : Same r.2.store r'.2.store

theorem treeAct_alike (observers : t.observers = t'.observers) (store : Same t.store t'.store)
    (coherent : t.store.Coherent) (coherent' : t'.store.Coherent) (a : Tree.Act Empty) :
    Tree.ActAlike (t.act a) (t'.act a) := by
  cases a with
  | mutate mutation =>
    obtain ⟨yields, left⟩ := store.exclusively mutation
    exact ⟨congrArg _ yields, observers, left⟩
  | resolve address =>
    obtain ⟨yields, left⟩ := store.resolve coherent coherent' address
    refine ⟨?_, observers, left⟩
    simp only [Tree.act, yields]
  | ask query =>
    refine ⟨?_, observers, store⟩
    have yields := store.ask query
    simp only [Tree.act]
    generalize t.store.ask query = o at yields
    generalize t'.store.ask query = o' at yields
    cases o <;> cases o' <;> simp_all [Except.map, Change.map]
  | verify =>
    obtain ⟨yields, left⟩ := store.verify
    refine ⟨?_, observers, left⟩
    simp only [Tree.act, yields]
  | subscribe node observer =>
    simp only [Tree.act, Tree.subscribe_eq, store.arena, observers]
    cases t'.store.arena.fetch node with
    | error e => exact ⟨rfl, observers, store⟩
    | ok n =>
      refine ⟨rfl, ?_, ?_⟩
      · exact congrArg (Array.push · observer) observers
      · have left := store.observers node
          (fun n => { n with observers := n.observers ++ [⟨t'.observers.size + 1⟩] }) (· + 1)
        show Same (t.subscribed node observer).store (t'.subscribed node observer).store
        unfold Tree.subscribed
        rw [observers]
        exact left
  | unsubscribe node id =>
    simp only [Tree.act, Tree.unsubscribe_eq, store.arena]
    split
    · refine ⟨rfl, observers, ?_⟩
      exact store.observers node
        (fun n => { n with observers := n.observers.filter fun other => other != id }) (· - 1)
    · exact ⟨rfl, observers, store⟩
  | turn id reaction =>
    refine ⟨rfl, ?_, ?_⟩
    · show (t.setReaction id reaction).observers = (t'.setReaction id reaction).observers
      unfold Tree.setReaction
      split <;> simp [observers]
    · show Same (t.setReaction id reaction).store (t'.setReaction id reaction).store
      unfold Tree.setReaction
      split <;> exact store
  | fail count => exact ⟨rfl, observers, store.count (countsAlike_of_commutes fun _ => rfl)⟩

/-- What two acts yield is the same, and the sessions that they leave differ in their caches
only. -/
structure Session.ActAlike (r r' : Except Error (Change Answer) × Session Empty) : Prop where
  yields : r.1.map (Change.map Answer.masked) = r'.1.map (Change.map Answer.masked)
  transactions : r.2.transactions = r'.2.transactions
  observers : r.2.tree.observers = r'.2.tree.observers
  store : Same r.2.tree.store r'.2.tree.store

theorem start_alike (h : s.Twins name s') {begun begun' : Except Error Unit × Store}
    (granted : begun.1 = begun'.1 ∧ Same begun.2 begun'.2) (tx : Transaction) :
    Session.ActAlike
      ((s.start begun tx).answer.map fun answer => ⟨answer, none⟩, (s.start begun tx).session)
      ((s'.start begun' tx).answer.map fun answer => ⟨answer, none⟩,
        (s'.start begun' tx).session) := by
  obtain ⟨outcome, left⟩ := begun
  obtain ⟨outcome', left'⟩ := begun'
  obtain ⟨same, stores⟩ := granted
  obtain rfl : outcome = outcome' := same
  cases outcome with
  | error e => exact ⟨rfl, h.transactions, h.observers, stores⟩
  | ok u =>
    refine ⟨?_, ?_, h.observers, stores⟩
    · simp only [Session.start, h.transactions]
    · simp only [Session.start, h.transactions]

theorem letGo_same (store : Same t.store t'.store) (tx : Transaction) :
    Same (Session.letGo tx t).store (Session.letGo tx t').store := by
  unfold Session.letGo
  split
  · exact store.endWrite
  · exact store.endRead
  · exact store
  · exact store

theorem letGo_observers (t : Tree Empty) (tx : Transaction) :
    (Session.letGo tx t).observers = t.observers := by
  unfold Session.letGo
  split <;> rfl

theorem act_alike (h : s.Twins name s') (a : Session.Act Empty) :
    Session.ActAlike (s.act a) (s'.act a) := by
  have there : ∀ number, s.transaction? number = s'.transaction? number := fun number => by
    rw [Session.transaction?, Session.transaction?, h.transactions]
  cases a with
  | tree a =>
    have alike := treeAct_alike h.observers h.store h.tidy.coherent h.tidy'.coherent a
    exact ⟨alike.yields, h.transactions, alike.observers, alike.store⟩
  | beginWrite => exact start_alike h h.store.beginWrite _
  | beginRead => exact start_alike h h.store.beginRead _
  | mutate number mutation =>
    unfold Session.act
    dsimp only
    rw [there]
    split
    · next tx _ =>
      obtain ⟨outcome, same, left⟩ := h.store.perform tx mutation
      refine ⟨?_, ?_, h.observers, left⟩
      · simp only [outcome]
      · simp only [Session.putTx, same, h.transactions]
    · exact ⟨rfl, h.transactions, h.observers, h.store⟩
  | release number =>
    unfold Session.act
    dsimp only
    rw [there]
    split
    · next tx _ =>
      refine ⟨rfl, ?_, ?_, letGo_same h.store tx⟩
      · simp only [Session.putTx, h.transactions]
      · simp only [Session.putTx, letGo_observers, h.observers]
    · exact ⟨rfl, h.transactions, h.observers, h.store⟩
  | forget number =>
    unfold Session.act
    dsimp only
    rw [there]
    split
    · split
      · exact ⟨rfl, h.transactions, h.observers, h.store⟩
      · refine ⟨rfl, ?_, h.observers, h.store⟩
        simp only [Session.putTx, h.transactions]
    · exact ⟨rfl, h.transactions, h.observers, h.store⟩
  | clear =>
    unfold Session.act
    dsimp only
    rw [h.transactions]
    split
    · exact ⟨rfl, h.transactions, h.observers, h.store⟩
    · exact ⟨rfl, rfl, h.observers, h.store⟩

/-- Acts keep twins. -/
theorem simulation_twins (name : String) : Session.Simulation (Session.Twins name) where
  transactions h := h.transactions
  observers h := h.observers
  arena h := h.store.arena
  subscribers h := h.store.subscribers
  yields h a := (act_alike h a).yields
  keeps h a :=
    { transactions := (act_alike h a).transactions
      observers := (act_alike h a).observers
      store := (act_alike h a).store
      tidy := (invariant_tidy name).act h.tidy a
      tidy' := (invariant_tidy name).act h.tidy' a }

/-! ### Runs -/

/-- The options with another cache. -/
def Options.withCache (options : Options) (enabled : Bool) (capacity : Nat) (eviction : Eviction) :
    Options :=
  { options with cacheEnabled := enabled, cacheCapacity := capacity, eviction }

/-- What an outcome shows, apart from the cache: the answer, what observers heard and did, and the
arena that is left. -/
def StepOutcome.shown (o : StepOutcome Empty) : Except Error Answer × List Entry × Arena :=
  (o.answer.map Answer.masked, o.log.map Entry.masked, o.session.tree.store.arena)

/-- What an act shows, apart from the cache. -/
def Session.shown (r : Except Error (Change Answer) × Session Empty) :
    Except Error (Change Answer) × Arena :=
  (r.1.map (Change.map Answer.masked), r.2.tree.store.arena)

theorem twins_next (h : s.Twins name s') (step : Step Empty) :
    (s.step step).map StepOutcome.shown = (s'.step step).map StepOutcome.shown ∧
      (s.next step).Twins name (s'.next step) := by
  have alike := (simulation_twins name).step h step
  unfold Session.next
  generalize s.step step = o at alike
  generalize s'.step step = o' at alike
  cases alike with
  | none => exact ⟨rfl, h⟩
  | some alike =>
    refine ⟨?_, alike.session⟩
    simp only [Option.map_some, StepOutcome.shown, alike.answer, alike.log,
      alike.session.store.arena]

/-- The same steps show the same in twins. -/
theorem outcomes_twins (steps : List (Step Empty)) : ∀ {s s' : Session Empty}, s.Twins name s' →
    (s.outcomes steps).map (Option.map StepOutcome.shown) =
      (s'.outcomes steps).map (Option.map StepOutcome.shown) := by
  induction steps with
  | nil => exact fun _ => rfl
  | cons step rest ih =>
    intro s s' h
    obtain ⟨same, next⟩ := twins_next h step
    simp only [Session.outcomes, List.map_cons, same, ih next]

/-- The same acts show the same in twins. -/
theorem acts_twins (acts : List (Session.Act Empty)) : ∀ {s s' : Session Empty}, s.Twins name s' →
    (s.acts acts).map Session.shown = (s'.acts acts).map Session.shown := by
  induction acts with
  | nil => exact fun _ => rfl
  | cons a rest ih =>
    intro s s' h
    have next := (simulation_twins name).keeps h a
    have same : Session.shown (s.act a) = Session.shown (s'.act a) := by
      simp only [Session.shown, (simulation_twins name).yields h a, next.store.arena]
    simp only [Session.acts, List.map_cons, same, ih next]

/-- New sessions are twins, whatever their caches are. -/
theorem fresh_twins {α : Type} (options : Options) (enabled : Bool) (capacity : Nat)
    (eviction : Eviction) {f : Session Empty → α}
    (same : ∀ {s s'}, s.Twins options.rootIdentifier s' → f s = f s') :
    (Session.ofOptions options).map f =
      (Session.ofOptions (options.withCache enabled capacity eviction)).map f := by
  unfold Session.ofOptions Tree.ofOptions Store.ofOptions
  have root : (options.withCache enabled capacity eviction).rootIdentifier =
      options.rootIdentifier := rfl
  rw [root]
  cases named : readName options.rootIdentifier with
  | error e => rfl
  | ok name =>
    have spelled := readName_ok.mp named
    refine congrArg Except.ok (same ?_)
    -- a new cache is empty, however large it may become
    have fresh : ∀ options : Options, (ofRoot options name).Tidy name.text := fun _ =>
      ⟨⟨Arena.Sound.ofRoot name, rfl⟩, .of_empty rfl⟩
    exact ⟨rfl, rfl, ⟨rfl, rfl, rfl, rfl, rfl⟩, spelled ▸ fresh _, spelled ▸ fresh _⟩

/-- **The cache cannot be seen.**  Trees that are set up alike but for their caches show the same in
every run, be it of steps with all that observers do on the way or of single acts in any order; and
in every reachable session each entry of the cache is what the walk along its key finds. -/
theorem cache_transparent (options : Options) (enabled : Bool) (capacity : Nat)
    (eviction : Eviction) :
    (∀ steps : List (Step Empty),
      (Session.ofOptions options).map (fun s =>
          (s.outcomes steps).map (Option.map StepOutcome.shown)) =
        (Session.ofOptions (options.withCache enabled capacity eviction)).map fun s =>
          (s.outcomes steps).map (Option.map StepOutcome.shown)) ∧
    (∀ acts : List (Session.Act Empty),
      (Session.ofOptions options).map (fun s => (s.acts acts).map Session.shown) =
        (Session.ofOptions (options.withCache enabled capacity eviction)).map fun s =>
          (s.acts acts).map Session.shown) ∧
    ∀ s : Session Empty, s.Reachable options →
      ∀ key id, (key, id) ∈ s.tree.store.cache.entries →
        s.tree.store.arena.contains id = true ∧
          s.tree.store.walk (Address.segments key) = some id := by
  refine ⟨fun steps => ?_, fun acts => ?_, fun s h key id mem => ?_⟩
  · exact fresh_twins options enabled capacity eviction (outcomes_twins steps)
  · exact fresh_twins options enabled capacity eviction (acts_twins acts)
  · have tidy := tidy_of_reachable h
    have walked := tidy.coherent key id mem
    obtain ⟨m, live⟩ := live_of_walk tidy.upright.sound walked
    exact ⟨by rw [Arena.contains, live, Option.isSome_some], walked⟩

/-- A session in which an element was created and the address of the root looked up. -/
def Session.lookedUp : Session Empty :=
  let new : Session Empty := ⟨.ofStore .standard, #[]⟩
  let grown := new.next (.perform (.mutate (.create (some .root) "pump" .group none)))
  grown.next (.perform (.resolve "/"))

/-- The resolution is remembered under the rooted form of the address. -/
theorem cache_transparent_looked_up :
    Session.lookedUp.Reachable .standard ∧
      ("device", .root) ∈ Session.lookedUp.tree.store.cache.entries ∧
      Session.lookedUp.tree.store.walk (Address.segments "device") = some .root := by
  have reached : Session.lookedUp.Reachable .standard :=
    ((Session.Reachable.fresh rfl).next _).next _
  have remembered : ("device", .root) ∈ Session.lookedUp.tree.store.cache.entries := by
    decide +kernel
  have entries := (cache_transparent .standard false 0 .oldest).2.2 Session.lookedUp reached
  exact ⟨reached, remembered, (entries "device" .root remembered).2⟩

end DeviceTree
