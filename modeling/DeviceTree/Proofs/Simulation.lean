/-
Two trees side by side.

What a tree does next, observers and all, depends on its observers, on its arena and on what its
acts yield.  A relation on trees that fixes these and that every act keeps (`Tree.Simulation`) is
therefore kept by every operation, and the two trees show the same answers and the same log, but for
what they tell of their caches (`Answer.masked`).

* `Tree.Simulation.notifyWithin` -- notices, by induction on how deep they nest;
* `Tree.Simulation.perform` -- operations.
-/
import DeviceTree.Proofs.Runs

namespace DeviceTree

/-- The counters, where every resolution counts as walked. -/
def Counters.masked (c : Counters) : Counters :=
  { c with cacheHits := 0, cacheMisses := c.cacheHits + c.cacheMisses }

namespace Answer

/-- The answer without what it tells of the cache. -/
def masked : Answer → Answer
  | info i => info { i with cached := 0, cacheCapacity := 0, cacheEnabled := false }
  | counters c => counters (c.map Counters.masked)
  | answer => answer

theorem masked_forScript (a : Answer) : a.forScript.masked = a.masked.forScript := by
  cases a <;> rfl

end Answer

/-- The entry without what it tells of the cache. -/
def Entry.masked : Entry → Entry
  | heard node id label event => heard node id label event
  | ran id label outcome => ran id label (outcome.map Answer.masked)

/-- A relation on trees that every act keeps, and under which acts yield the same. -/
structure Tree.Simulation (R : Tree Empty → Tree Empty → Prop) : Prop where
  observers : ∀ {t t'}, R t t' → t.observers = t'.observers
  arena : ∀ {t t'}, R t t' → t.store.arena = t'.store.arena
  subscribers : ∀ {t t'}, R t t' → t.store.subscribers = t'.store.subscribers
  yields : ∀ {t t'}, R t t' → ∀ a,
    (t.act a).1.map (Change.map Answer.masked) = (t'.act a).1.map (Change.map Answer.masked)
  keeps : ∀ {t t'}, R t t' → ∀ a, R (t.act a).2 (t'.act a).2

/-- Two traces look the same as far as `f` shows the values, and leave related trees. -/
structure Traced.Alike {α β : Type} (R : Tree Empty → Tree Empty → Prop) (f : α → β)
    (r r' : Traced Empty α) : Prop where
  value : f r.value = f r'.value
  log : r.log.map Entry.masked = r'.log.map Entry.masked
  tree : R r.tree r'.tree

namespace Traced.Alike

variable {α β γ δ : Type} {R : Tree Empty → Tree Empty → Prop} {f : α → β} {g : γ → δ}
  {r r' : Traced Empty α} {t t' : Tree Empty}

theorem yield {a b : α} (h : R t t') (same : f a = f b) : Alike R f (t.yield a) (t'.yield b) :=
  ⟨same, rfl, h⟩

theorem weaken {g : α → δ} (h : Alike R f r r') (same : ∀ a b, f a = f b → g a = g b) :
    Alike R g r r' :=
  ⟨same _ _ h.value, h.log, h.tree⟩

theorem map {k k' : α → γ} (h : Alike R f r r')
    (same : ∀ a b, f a = f b → g (k a) = g (k' b)) : Alike R g (r.map k) (r'.map k') :=
  ⟨same _ _ h.value, h.log, h.tree⟩

theorem andThen {S : Tree Empty → Tree Empty → Prop} {k k' : α → Tree Empty → Traced Empty γ}
    (h : Alike R f r r') (next : ∀ a b t t', f a = f b → R t t' → Alike S g (k a t) (k' b t')) :
    Alike S g (r.andThen k) (r'.andThen k') := by
  have later := next _ _ _ _ h.value h.tree
  refine ⟨later.value, ?_, later.tree⟩
  simp only [Traced.andThen, List.map_append, h.log, later.log]

end Traced.Alike

namespace Tree

open Traced

variable {R : Tree Empty → Tree Empty → Prop} {t t' : Tree Empty}

/-- The performer cannot tell related trees apart. -/
def Blind (R : Tree Empty → Tree Empty → Prop) (perform : Performer Empty) : Prop :=
  ∀ op {t t'}, R t t' → Alike R (Except.map Answer.masked) (perform op t) (perform op t')

/-- The notifier cannot tell related trees apart. -/
def BlindNotifier (R : Tree Empty → Tree Empty → Prop) (notify : Notifier Empty) : Prop :=
  ∀ event {t t'}, R t t' → Alike R id (notify event t) (notify event t')

namespace Simulation

/-! ### Observers -/

section

variable {perform : Performer Empty}

theorem runScript (blind : Blind R perform) (id : SubscriptionId) (label : String)
    (script : List (Op Empty)) : ∀ {t t'}, R t t' →
      Alike R (fun u => u) (DeviceTree.runScript perform id label script t)
        (DeviceTree.runScript perform id label script t') := by
  induction script with
  | nil =>
    intro t t' h
    exact .yield h rfl
  | cons op rest ih =>
    intro t t' h
    refine (blind op h).andThen fun outcome outcome' u u' same h => ?_
    -- what the observer did is written down, and then it goes on with the rest
    have told : Alike R (fun u => u)
        (⟨(), u, [.ran id label (outcome.map Answer.forScript)]⟩ : Traced Empty Unit)
        ⟨(), u', [.ran id label (outcome'.map Answer.forScript)]⟩ := by
      refine ⟨rfl, ?_, h⟩
      cases outcome <;> cases outcome' <;>
        simp_all [Except.map, Entry.masked, Answer.masked_forScript]
    exact told.andThen fun _ _ _ _ _ h => ih h

theorem react (sim : Simulation R) (blind : Blind R perform) (h : R t t') (id : SubscriptionId)
    (o : Observer Empty) :
    Alike R (fun m => m) (t.react perform id o) (t'.react perform id o) := by
  unfold Tree.react
  split
  · exact .yield h rfl
  · exact .yield h rfl
  · exact .yield h rfl
  · exact .yield h rfl
  · next times script _ =>
    -- the observer uses up one of its calls before it makes it
    have turned := sim.keeps h (.turn id (.call times script))
    exact (runScript blind id o.label script turned).map fun _ _ _ => rfl

theorem tell (sim : Simulation R) (blind : Blind R perform) (h : R t t') (node : NodeId)
    (event : Event) (id : SubscriptionId) :
    Alike R (fun l => l) (t.tell perform node event id) (t'.tell perform node event id) := by
  have same : t.observer? id = t'.observer? id := by
    unfold observer?
    rw [sim.observers h]
  unfold Tree.tell
  rw [same]
  split
  · exact .yield h rfl
  · next o _ =>
    have heard : Alike R (fun u => u)
        (⟨(), t, [.heard node id o.label event]⟩ : Traced Empty Unit)
        ⟨(), t', [.heard node id o.label event]⟩ := ⟨rfl, rfl, h⟩
    refine heard.andThen fun _ _ u u' _ h => ?_
    refine (sim.react blind h id o).map fun a b same => ?_
    rw [same]

theorem tellAll (sim : Simulation R) (blind : Blind R perform) (node : NodeId) (event : Event)
    (ids : List SubscriptionId) : ∀ {t t'}, R t t' →
      Alike R (fun l => l) (Tree.tellAll perform node event ids t)
        (Tree.tellAll perform node event ids t') := by
  induction ids with
  | nil =>
    intro t t' h
    exact .yield h rfl
  | cons id rest ih =>
    intro t t' h
    refine (sim.tell blind h node event id).andThen fun failures failures' u u' same h => ?_
    refine (ih h).map fun more more' same' => ?_
    rw [same, same']

theorem bubble (sim : Simulation R) (blind : Blind R perform) (event : Event) (hops : Nat) :
    ∀ (id : NodeId) {t t'}, R t t' →
      Alike R (fun l => l) (Tree.bubble perform event hops id t)
        (Tree.bubble perform event hops id t') := by
  induction hops with
  | zero =>
    intro id t t' h
    exact .yield h rfl
  | succ hops ih =>
    intro id t t' h
    unfold Tree.bubble
    rw [sim.arena h]
    split
    · exact .yield h rfl
    · next node _ =>
      -- the parent is looked up again afterwards: observers may have moved the node
      refine (sim.tellAll blind id event node.observers h).andThen ?_
      intro failures failures' u u' same h
      rw [sim.arena h]
      split
      · exact .yield h same
      · next parent _ =>
        refine (ih parent h).map fun more more' same' => ?_
        rw [same, same']

theorem notifyWith (sim : Simulation R) (blind : Blind R perform) :
    BlindNotifier R (Tree.notifyWith perform) := by
  intro event t t' h
  unfold Tree.notifyWith
  rw [sim.subscribers h]
  split
  · exact .yield h rfl
  · rw [sim.arena h]
    have told := sim.bubble blind event (t'.store.arena.size + 1) event.source h
    refine ⟨told.value, told.log, ?_⟩
    -- the failures are counted once everybody has been told
    have counted := sim.keeps told.tree
      (.fail (Tree.bubble perform event (t'.store.arena.size + 1) event.source t').value.length)
    have value : (Tree.bubble perform event (t'.store.arena.size + 1) event.source t).value = _ :=
      told.value
    dsimp only
    rw [value]
    exact counted

end

/-! ### Operations -/

section

variable {notify : Notifier Empty} {α β : Type}

theorem change (blind : BlindNotifier R notify) {p : Request (Change α)} {f : α → β}
    (same : (t.attempt p).1.map (Change.map f) = (t'.attempt p).1.map (Change.map f))
    (h : R (t.attempt p).2 (t'.attempt p).2) :
    Alike R (Except.map f) (t.change notify p) (t'.change notify p) := by
  unfold Tree.change
  rcases attempted : t.attempt p with ⟨outcome, u⟩
  rcases attempted' : t'.attempt p with ⟨outcome', u'⟩
  rw [attempted, attempted'] at same h
  cases outcome <;> cases outcome' <;> simp only [Except.map, reduceCtorEq] at same
  · exact .yield h (by simpa [Except.map] using same)
  · next change change' =>
    obtain ⟨value, event⟩ := change
    obtain ⟨value', event'⟩ := change'
    simp only [Change.map, Except.ok.injEq, Change.mk.injEq] at same
    obtain ⟨same, rfl⟩ := same
    cases event with
    | none => exact .yield h (by simp [Except.map, same])
    | some event => exact (blind event h).map fun _ _ _ => by simp [Except.map, same]

theorem attempt_map (p : Request (Change α)) (f : Change α → Change β) (t : Tree Empty) :
    t.attempt (f <$> p) = ((t.attempt p).1.map f, (t.attempt p).2) := by
  simp only [Tree.attempt, Store.exclusively]
  split
  · rfl
  · next s _ =>
    have mapped : (f <$> p) s = match p s with
        | .ok a s => .ok (f a) s
        | .error e s => .error e s := by
      show EStateM.map f p s = _
      unfold EStateM.map
      cases p s <;> rfl
    rw [mapped]
    cases p s <;> rfl

/-- Rows of new elements are made of mutations, too. -/
theorem create (sim : Simulation R) (blind : BlindNotifier R notify) (h : R t t')
    (parent : Option NodeId) (name : String) :
    Alike R (fun o => o) (t.change notify (Store.create parent name .group none))
      (t'.change notify (Store.create parent name .group none)) := by
  have yields := sim.yields h (.mutate (.create parent name .group none))
  have keeps := sim.keeps h (.mutate (.create parent name .group none))
  simp only [Tree.act, Mutation.apply, attempt_map] at yields keeps
  have made := change (f := fun id => (Answer.node id).masked) blind ?_ keeps
  · refine made.weaken fun a b same => ?_
    cases a <;> cases b <;> simp_all [Except.map, Answer.masked]
  · generalize (t.attempt (Store.create parent name .group none)).1 = a at yields
    generalize (t'.attempt (Store.create parent name .group none)).1 = b at yields
    cases a <;> cases b <;> simp_all [Except.map, Change.map]

theorem growRest (sim : Simulation R) (blind : BlindNotifier R notify) (layout : Layout)
    (parent : Option NodeId) (stem : String) (left : Nat) :
    ∀ (made : Nat) (last : Option NodeId) {t t'}, R t t' →
      Alike R (fun o => o) (Tree.growRest notify layout parent stem left made last t)
        (Tree.growRest notify layout parent stem left made last t') := by
  induction left with
  | zero =>
    intro made last t t' h
    exact .yield h rfl
  | succ left ih =>
    intro made last t t' h
    unfold Tree.growRest
    refine (sim.create blind h _ _).andThen ?_
    rintro created _ u u' rfl h
    split
    · exact .yield h rfl
    · exact ih _ _ h

theorem announce (blind : BlindNotifier R notify) (h : R t t') (event : Event) :
    Alike R (fun o => o) (t.announce notify event) (t'.announce notify event) := by
  refine (blind event h).map fun failures failures' same => ?_
  obtain rfl : failures = failures' := same
  rfl

theorem map_value (o : Except Error α) (f : α → β) :
    (o.map fun a => (⟨f a, none⟩ : Change β)).map Change.value = o.map f := by
  cases o <;> rfl

/-- What an act yields, for an operation that is one act and no more. -/
theorem single (sim : Simulation R) (h : R t t') (a : Act Empty) :
    Alike R (Except.map Answer.masked)
      ((t.act a).2.yield ((t.act a).1.map Change.value))
      ((t'.act a).2.yield ((t'.act a).1.map Change.value)) := by
  have yields := sim.yields h a
  refine .yield (sim.keeps h a) ?_
  generalize (t.act a).1 = o at yields
  generalize (t'.act a).1 = o' at yields
  cases o <;> cases o' <;> simp_all [Except.map, Change.map]

theorem performWith (sim : Simulation R) (blind : BlindNotifier R notify) :
    Blind R (Tree.performWith notify) := by
  intro op t t' h
  have one := sim.single h
  cases op with
  | mutate mutation =>
    exact change blind (sim.yields h (.mutate mutation)) (sim.keeps h (.mutate mutation))
  | grow layout parent stem count =>
    refine (sim.growRest blind layout parent stem count 0 (firstOfRow layout parent) h).map ?_
    rintro a _ rfl
    rfl
  | resolve address => exact one (.resolve address)
  | ask query =>
    have asked := one (.ask query)
    simp only [Tree.act, map_value, show Except.map (fun a : Answer => a) = id from Except.map_id]
      at asked
    exact asked
  | verify =>
    have asked := one .verify
    simp only [Tree.act, map_value] at asked
    exact asked
  | subscribe node label reaction =>
    have asked := one (.subscribe node ⟨label, reaction⟩)
    have unfolded : ∀ t : Tree Empty, Tree.performWith notify (.subscribe node label reaction) t =
        (t.act (.subscribe node ⟨label, reaction⟩)).2.yield
          ((t.act (.subscribe node ⟨label, reaction⟩)).1.map Change.value) := by
      intro t
      simp only [Tree.performWith, Tree.act]
      cases t.subscribe node ⟨label, reaction⟩ <;> rfl
    rwa [unfolded, unfolded]
  | unsubscribe node id => exact one (.unsubscribe node id)
  | raise action source target identifier =>
    unfold Tree.performWith
    dsimp only
    split
    · exact .yield h rfl
    · refine (announce blind h _).map ?_
      rintro a _ rfl
      rfl
  | edit edit => cases edit

/-- Notices cannot tell related trees apart, however deep they nest. -/
theorem notifyWithin (sim : Simulation R) (depth : Nat) :
    BlindNotifier R (Tree.notifyWithin depth) := by
  induction depth with
  | zero => exact sim.notifyWith fun _ _ _ h => .yield h rfl
  | succ depth ih => exact sim.notifyWith (sim.performWith ih)

theorem perform (sim : Simulation R) : Blind R Tree.perform := by
  intro op t t' h
  -- how deep notices may nest is read off the observers, which are the same
  have same : t.weight = t'.weight := by rw [weight, weight, sim.observers h]
  unfold Tree.perform
  rw [same]
  exact sim.performWith (sim.notifyWithin _) op h

theorem raise (sim : Simulation R) (h : R t t') (event : Event) :
    Alike R (fun o => o) (t.raise event) (t'.raise event) := by
  have same : t.weight = t'.weight := by rw [weight, weight, sim.observers h]
  refine announce ?_ h event
  intro event u u' h
  have same : u.weight = u'.weight := by rw [weight, weight, sim.observers h]
  unfold Tree.notify
  rw [same]
  exact sim.notifyWithin _ event h

end

end Simulation

end Tree

end DeviceTree
