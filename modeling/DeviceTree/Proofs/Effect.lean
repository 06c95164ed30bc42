/-
Two stores side by side.

A request reads nothing of a store but its arena, and changes it by a handful of effects.  A
relation between stores with the same arena that each of these effects keeps (`Store.Simulation`) is
therefore kept by every mutation, and both stores grant or refuse it alike.

* `Store.Simulation.apply` -- mutations.
-/
import DeviceTree.Mutation

namespace DeviceTree

/-- A relation between stores with the same arena that every effect of a request keeps. -/
structure Store.Simulation (R : Store → Store → Prop) : Prop where
  arena : ∀ {s s'}, R s s' → s.arena = s'.arena
  insert : ∀ {s s'}, R s s' → ∀ node, R (s.insert node) (s'.insert node)
  makeChild : ∀ {s s'}, R s s' → ∀ parent child name,
    R (s.makeChild parent child name) (s'.makeChild parent child name)
  unmakeChild : ∀ {s s'}, R s s' → ∀ parent child,
    R (s.unmakeChild parent child) (s'.unmakeChild parent child)
  makeLink : ∀ {s s'}, R s s' → ∀ source target name,
    R (s.makeLink source target name) (s'.makeLink source target name)
  unmakeLink : ∀ {s s'}, R s s' → ∀ source target,
    R (s.unmakeLink source target) (s'.unmakeLink source target)
  vacate : ∀ {s s'}, R s s' → ∀ id, R (s.vacate id) (s'.vacate id)
  invalidate : ∀ {s s'}, R s s' → R s.invalidate s'.invalidate

/-- The two results are granted or refused alike, and leave related stores. -/
inductive Request.Agree {α : Type} (R : Store → Store → Prop) :
    EStateM.Result Error Store α → EStateM.Result Error Store α → Prop where
  | ok (a : α) {s s' : Store} : R s s' → Agree R (.ok a s) (.ok a s')
  | error (e : Error) {s s' : Store} : R s s' → Agree R (.error e s) (.error e s')

/-- The request cannot tell related stores apart. -/
def Request.Blind {α : Type} (R : Store → Store → Prop) (p : Request α) : Prop :=
  ∀ s s', R s s' → Agree R (p s) (p s')

namespace Request

variable {α β : Type} {R : Store → Store → Prop}

theorem Blind.bind {p : Request α} {f : α → Request β} (hp : Blind R p) (hf : ∀ a, Blind R (f a)) :
    Blind R (p >>= f) := by
  intro s s' h
  show Agree R (EStateM.bind p f s) (EStateM.bind p f s')
  have first := hp s s' h
  unfold EStateM.bind
  generalize p s = r at first
  generalize p s' = r' at first
  cases first with
  | ok a h => exact hf a _ _ h
  | error e h => exact .error e h

theorem blind_pure (a : α) : Blind R (pure a) :=
  fun _ _ h => .ok a h

theorem blind_lift (r : Except Error α) : Blind R (liftM r : Request α) := by
  intro s s' h
  cases r with
  | ok a => exact .ok a h
  | error e => exact .error e h

theorem blind_modify {f : Store → Store} (keeps : ∀ {s s'}, R s s' → R (f s) (f s')) :
    Blind R (modify f : Request Unit) :=
  fun _ _ h => .ok () (keeps h)

/-- A request that goes on with something of the store that the two have in common. -/
theorem blind_get {f : Store → Request α} (common : ∀ {s s'}, R s s' → f s = f s')
    (hf : ∀ s, Blind R (f s)) : Blind R ((get : Request Store) >>= f) := by
  intro s s' h
  show Agree R (f s s) (f s' s')
  rw [← common h]
  exact hf s s s' h

theorem Blind.map {p : Request α} (f : α → β) (hp : Blind R p) : Blind R (f <$> p) := by
  intro s s' h
  show Agree R (EStateM.map f p s) (EStateM.map f p s')
  have first := hp s s' h
  unfold EStateM.map
  generalize p s = r at first
  generalize p s' = r' at first
  cases first with
  | ok a h => exact .ok (f a) h
  | error e h => exact .error e h

end Request

namespace Store

open Request

namespace Simulation

variable {R : Store → Store → Prop} {s s' : Store}

/-! ### Steps of requests -/

theorem fetch (sim : Simulation R) (id : NodeId) : Blind R (Store.fetch id) :=
  blind_get (fun h => by rw [sim.arena h]) fun s => blind_lift (s.arena.fetch id)

theorem place (sim : Simulation R) (node : Node) : Blind R (Store.place node) :=
  blind_get (fun h => by rw [sim.arena h]) fun _ =>
    (blind_modify fun h => sim.insert h node).bind fun _ => blind_pure _

theorem requireParent (sim : Simulation R) (parent : Option NodeId) (name : Identifier) :
    Blind R (Store.requireParent parent name) := by
  cases parent with
  | none => exact blind_pure _
  | some id =>
    exact (sim.fetch id).bind fun node => (blind_lift _).bind fun _ => blind_pure _

theorem settle (sim : Simulation R) (parent : Option NodeId) (id : NodeId) (name : Identifier) :
    Blind R (Store.settle parent id name) := by
  cases parent with
  | none => exact blind_pure _
  | some parent =>
    refine (blind_modify fun h => ?_).bind fun _ => blind_pure _
    exact sim.invalidate (sim.makeChild h parent id name)

/-- An effect for each element of a list. -/
theorem foldl {α : Type} {f : Store → α → Store} (h : R s s') (xs : List α)
    (keeps : ∀ x s s', R s s' → R (f s x) (f s' x)) : R (xs.foldl f s) (xs.foldl f s') := by
  induction xs generalizing s s' with
  | nil => exact h
  | cons x xs ih => exact ih (keeps x s s' h)

theorem createPart (sim : Simulation R) (data : NodeId)
    (part : Identifier × ElementKind × Option String) (h : R s s') :
    R (Store.createPart data s part) (Store.createPart data s' part) := by
  unfold Store.createPart
  rw [sim.arena h]
  exact sim.makeChild (sim.insert h _) _ _ _

theorem releaseLinks (sim : Simulation R) (members : List NodeId) (id : NodeId) (h : R s s') :
    R (Store.releaseLinks members s id) (Store.releaseLinks members s' id) := by
  unfold Store.releaseLinks
  rw [sim.arena h]
  split
  · exact h
  · exact foldl h _ fun target _ _ h => sim.unmakeLink h id target

/-! ### Mutations -/

theorem create (sim : Simulation R) (parent : Option NodeId) (identifier : String)
    (kind : ElementKind) (attachment : Option String) :
    Blind R (Store.create parent identifier kind attachment) :=
  (blind_lift _).bind fun name => (sim.requireParent parent name).bind fun _ =>
    (sim.place _).bind fun id => sim.settle parent id name

theorem createData (sim : Simulation R) (parent : Option NodeId) (identifier : String)
    (options : DataOptions) : Blind R (Store.createData parent identifier options) := by
  refine (blind_lift _).bind fun name => (sim.requireParent parent name).bind fun _ => ?_
  refine (sim.place _).bind fun id => (blind_modify fun h => ?_).bind fun _ =>
    sim.settle parent id name
  exact foldl h options.parts fun part _ _ h => sim.createPart id part h

theorem add (sim : Simulation R) (parent child : NodeId) : Blind R (Store.add parent child) := by
  refine (sim.fetch parent).bind fun above => (sim.fetch child).bind fun below => ?_
  refine (blind_lift _).bind fun _ => (blind_lift _).bind fun _ => ?_
  refine (blind_lift _).bind fun _ => (blind_lift _).bind fun _ => ?_
  refine blind_get (fun h => by rw [sim.arena h]) fun _ => (blind_lift _).bind fun _ => ?_
  refine (blind_modify fun h => ?_).bind fun _ => blind_pure _
  exact sim.invalidate (sim.makeChild h parent child below.identifier)

theorem remove (sim : Simulation R) (parent child : NodeId) :
    Blind R (Store.remove parent child) := by
  refine (sim.fetch parent).bind fun above => (sim.fetch child).bind fun _ => ?_
  refine (blind_lift _).bind fun name => ?_
  refine blind_get (fun h => by rw [sim.arena h]) fun _ => (blind_lift _).bind fun _ => ?_
  refine (blind_modify fun h => ?_).bind fun _ => blind_pure _
  exact sim.invalidate (sim.unmakeChild h parent child)

theorem link (sim : Simulation R) (source target : NodeId) (identifier : Option String) :
    Blind R (Store.link source target identifier) := by
  refine (sim.fetch source).bind fun holder => (sim.fetch target).bind fun aim => ?_
  refine (blind_lift _).bind fun name => (blind_lift _).bind fun _ => ?_
  refine (blind_lift _).bind fun _ => (blind_lift _).bind fun _ => ?_
  refine blind_get (fun h => by rw [sim.arena h]) fun _ => (blind_lift _).bind fun _ => ?_
  refine (blind_modify fun h => ?_).bind fun _ => blind_pure _
  exact sim.invalidate (sim.makeLink h source target name)

theorem unlink (sim : Simulation R) (source : NodeId) (selector : LinkChoice) :
    Blind R (Store.unlink source selector) := by
  refine (sim.fetch source).bind fun holder => (blind_lift _).bind fun edge => ?_
  refine (blind_modify fun h => ?_).bind fun _ => blind_pure _
  exact sim.invalidate (sim.unmakeLink h source edge.target)

theorem discard (sim : Simulation R) (id : NodeId) : Blind R (Store.discard id) := by
  refine (sim.fetch id).bind fun node => (blind_lift _).bind fun _ => ?_
  refine (blind_lift _).bind fun _ => blind_get (fun h => by rw [sim.arena h]) fun s => ?_
  refine (blind_lift _).bind fun _ => ?_
  refine (blind_modify fun h => ?_).bind fun _ => (blind_modify fun h => ?_).bind fun _ =>
    (blind_modify fun h => sim.invalidate h).bind fun _ => blind_pure _
  -- the members of the subtree are read off before anything is taken away
  · exact foldl h _ fun id _ _ h => sim.releaseLinks _ id h
  · exact foldl h _ fun id _ _ h => sim.vacate h id

/-- **Related stores grant and refuse the same mutations**, and stay related. -/
theorem apply (sim : Simulation R) (m : Mutation) : Blind R m.apply := by
  cases m with
  | create parent identifier kind attachment =>
    exact (sim.create parent identifier kind attachment).map _
  | createData parent identifier options =>
    exact (sim.createData parent identifier options).map _
  | add parent child => exact (sim.add parent child).map _
  | remove parent child => exact (sim.remove parent child).map _
  | link source target identifier => exact (sim.link source target identifier).map _
  | unlink source selector => exact (sim.unlink source selector).map _
  | discard node => exact (sim.discard node).map _

end Simulation

end Store

end DeviceTree
