/-
Who is told of an event, and what comes of it.

A notice goes up the lineage of its source.  Where no observer calls back, it reaches every
subscription on the way once, whoever fails, and changes nothing but the number of failures that
was counted.

* `bubble_take` -- the walk, as far as its hops take it;
* `notifyWith_eq` -- the notice, which is not given at all while nobody is subscribed;
* `raise_delivers` -- events raised on a tree.
-/
import DeviceTree.Proofs.Lineage
import DeviceTree.Proofs.Location
import DeviceTree.Proofs.Subscriptions
import Mathlib.Data.List.Flatten

namespace DeviceTree

open Relation Arena

variable {ε : Type}

/-- What goes on matters only from where it goes on. -/
theorem Traced.andThen_congr {α β : Type} {r : Traced ε α} {f g : α → Tree ε → Traced ε β}
    (same : f r.value r.tree = g r.value r.tree) : r.andThen f = r.andThen g := by
  rw [andThen, andThen, same]

/-- The subscriptions at these nodes, node by node, each with its node. -/
def Arena.audience (a : Arena) (nodes : List NodeId) : List (NodeId × SubscriptionId) :=
  nodes.flatMap fun id => (a.observersAt id).map fun sub => (id, sub)

namespace Tree

/-- What the log tells of the observer of a subscription. -/
def entry? (t : Tree ε) (event : Event) (seat : NodeId × SubscriptionId) : Option Entry :=
  (t.observer? seat.2).map fun o => .heard seat.1 seat.2 o.label event

/-- How the observer of a subscription fails, if it does. -/
def failure? (t : Tree ε) (seat : NodeId × SubscriptionId) : Option Failure :=
  (t.observer? seat.2).bind fun o =>
    o.reaction.complaint.map fun message => ⟨seat.1, seat.2, message⟩

/-- What comes of telling an audience in which nobody calls back. -/
def told (t : Tree ε) (event : Event) (audience : List (NodeId × SubscriptionId)) :
    Traced ε (List Failure) :=
  ⟨audience.filterMap t.failure?, t, audience.filterMap (t.entry? event)⟩

section

variable {t : Tree ε} {perform : Performer ε} {event : Event} {node id : NodeId}
  {way : List NodeId} {root : Identifier}

theorem told_nil : t.told event [] = t.yield [] :=
  rfl

/-- Those who are told later are told the same. -/
theorem told_append (first rest : List (NodeId × SubscriptionId)) :
    t.told event (first ++ rest) =
      (t.told event first).andThen fun failures t =>
        (t.told event rest).map fun more => failures ++ more := by
  simp only [told, List.filterMap_append]
  rfl

/-! ### One node -/

theorem tell_eq {sub : SubscriptionId}
    (quiet : ∀ o, t.observer? sub = some o → o.reaction.Quiet) :
    t.tell perform node event sub = t.told event [(node, sub)] := by
  rw [tell]
  cases found : t.observer? sub with
  | none => simp [told, failure?, entry?, found, yield]
  | some o =>
    simp only [Traced.andThen, react_quiet (quiet o found), told, failure?, entry?, found,
      Option.bind_some, Option.map_some, List.filterMap_cons, List.filterMap_nil]
    cases o.reaction.complaint <;> rfl

theorem tellAll_eq {ids : List SubscriptionId} (quiet : t.QuietAt ids) :
    tellAll perform node event ids t = t.told event (ids.map fun sub => (node, sub)) := by
  induction ids with
  | nil => rfl
  | cons sub rest ih =>
    have others : t.QuietAt rest := fun id mem => quiet id (List.mem_cons_of_mem _ mem)
    calc tellAll perform node event (sub :: rest) t
      _ = (t.told event [(node, sub)]).andThen fun failures t =>
            (tellAll perform node event rest t).map fun more => failures ++ more := by
          rw [tellAll, tell_eq (quiet sub List.mem_cons_self)]
      _ = (t.told event [(node, sub)]).andThen fun failures t =>
            (t.told event (rest.map fun sub => (node, sub))).map fun more => failures ++ more :=
          Traced.andThen_congr (congrArg _ (ih others))
      _ = t.told event ((sub :: rest).map fun sub => (node, sub)) :=
          (told_append [(node, sub)] _).symm

/-! ### The walk -/

/-- The walk tells the observers of a node, and goes on with the parent that the node has when they
are done. -/
theorem bubble_succ {n : Node} (found : t.store.arena.get? id = some n) (hops : Nat) :
    bubble perform event (hops + 1) id t =
      (tellAll perform id event n.observers t).andThen fun failures t =>
        (t.store.arena.lastParent id).elim (t.yield failures) fun parent =>
          (bubble perform event hops parent t).map fun more => failures ++ more := by
  rw [bubble, found]
  refine Traced.andThen_congr ?_
  cases Arena.lastParent _ id <;> rfl

/-- The walk from a node whose observers do not call back. -/
theorem bubble_quiet_succ {n : Node} (found : t.store.arena.get? id = some n)
    (quiet : t.QuietAt n.observers) (hops : Nat) :
    bubble perform event (hops + 1) id t =
      (t.told event (t.store.arena.audience [id])).andThen fun failures t =>
        n.parent.elim (t.yield failures) fun parent =>
          (bubble perform event hops parent t).map fun more => failures ++ more := by
  have here : t.store.arena.audience [id] = n.observers.map fun sub => (id, sub) := by
    rw [Arena.audience, List.flatMap_singleton, observersAt_of_get? found]
  rw [bubble_succ found, tellAll_eq quiet, ← here]
  refine Traced.andThen_congr ?_
  show (t.store.arena.lastParent id).elim _ _ = _
  rw [lastParent_of_get? found]

/-- **The walk tells the observers along the lineage**, from the source upwards, as far as its hops
take it. -/
theorem bubble_take (sound : t.store.arena.Sound root) (up : t.store.arena.Lineage id way)
    (quiet : ∀ x ∈ way, t.QuietAt (t.store.arena.observersAt x)) (hops : Nat) :
    bubble perform event hops id t = t.told event (t.store.arena.audience (way.take hops)) := by
  induction up generalizing hops with
  | gone none =>
    cases hops with
    | zero => rfl
    | succ hops =>
      rw [bubble, none]
      rfl
  | @top id n found alone =>
    cases hops with
    | zero => rfl
    | succ hops =>
      have orphan : n.parent = none := by
        rw [Option.eq_none_iff_forall_ne_some]
        exact fun p up => alone p ((parent_eq_some_iff sound.wired sound.parented found).mp up)
      have here := quiet id List.mem_cons_self
      rw [observersAt_of_get? found] at here
      rw [bubble_quiet_succ found here, orphan, List.take_succ_cons, List.take_nil]
      simp [Traced.andThen, yield, told]
  | @step p id way edge _ ih =>
    cases hops with
    | zero => rfl
    | succ hops =>
      obtain ⟨n, found⟩ := sound.live_of_owns edge
      have parent := (parent_eq_some_iff sound.wired sound.parented found).mpr edge
      have here := quiet id List.mem_cons_self
      rw [observersAt_of_get? found] at here
      have later := ih (fun x mem => quiet x (List.mem_cons_of_mem _ mem)) hops
      have split : t.store.arena.audience (id :: way.take hops) =
          t.store.arena.audience [id] ++ t.store.arena.audience (way.take hops) := by
        simp [Arena.audience]
      rw [bubble_quiet_succ found here, parent, List.take_succ_cons, split, told_append]
      refine Traced.andThen_congr ?_
      show Traced.map _ (bubble perform event hops p t) = _
      rw [later]
      rfl

/-- **The walk tells the observers of the whole lineage**, from the source upwards, if it may take
as many hops. -/
theorem bubble_eq (quiet : t.Quiet) (sound : t.store.arena.Sound root)
    (up : t.store.arena.Lineage id way) {hops : Nat} (enough : way.length ≤ hops) :
    bubble perform event hops id t = t.told event (t.store.arena.audience way) := by
  have quietly : ∀ x ∈ way, t.QuietAt (t.store.arena.observersAt x) := by
    intro x mem
    obtain ⟨⟨n, found⟩, -⟩ := (up.mem_iff sound).mp mem
    rw [observersAt_of_get? found]
    exact quiet x n found
  rw [bubble_take sound up quietly, List.take_of_length_le enough]

/-! ### The notice -/

/-- A notice counts its failures. -/
def counted (r : Traced ε (List Failure)) : Traced ε (List Failure) :=
  { r with tree := r.tree.onStore fun s => s.count (.failed r.value.length) }

/-- Without subscriptions there is no audience. -/
theorem audience_eq_nil {bound : Nat} (enrolled : t.store.Enrolled bound)
    (nobody : t.store.subscribers = 0) (nodes : List NodeId) :
    t.store.arena.audience nodes = [] := by
  have none : t.store.arena.subscriptions = [] :=
    List.eq_nil_of_length_eq_zero (enrolled.count.symm.trans nobody)
  refine List.flatMap_eq_nil_iff.mpr fun id _ => List.map_eq_nil_iff.mpr ?_
  exact observersAt_eq_nil none id

/-- **A notice tells the observers of the lineage of its source**, whether it is walked or not. -/
theorem notifyWith_eq {bound : Nat} (quiet : t.Quiet) (sound : t.store.arena.Sound root)
    (enrolled : t.store.Enrolled bound) (up : t.store.arena.Lineage event.source way) :
    t.notifyWith perform event = counted (t.told event (t.store.arena.audience way)) := by
  rw [notifyWith]
  split
  · next nobody =>
    rw [audience_eq_nil enrolled nobody, told_nil]
    show _ = (⟨[], t.onStore fun s => s.count (.failed 0), []⟩ : Traced ε (List Failure))
    simp only [count_failed_zero]
    rfl
  · have enough : way.length ≤ t.store.arena.size + 1 :=
      Nat.le_succ_of_le (up.length_le sound)
    rw [bubble_eq quiet sound up enough]
    rfl

/-- How deep notices may nest makes no difference to one that nobody answers by a call. -/
theorem notifyWithin_eq [DirectEdit ε] {bound : Nat} (quiet : t.Quiet)
    (sound : t.store.arena.Sound root) (enrolled : t.store.Enrolled bound)
    (up : t.store.arena.Lineage event.source way) (depth : Nat) :
    t.notifyWithin depth event = counted (t.told event (t.store.arena.audience way)) := by
  cases depth with
  | zero => exact notifyWith_eq quiet sound enrolled up
  | succ depth => exact notifyWith_eq quiet sound enrolled up

/-! ### The audience -/

theorem mem_audience_iff (sound : t.store.arena.Sound root)
    (up : t.store.arena.Lineage event.source way) {sub : SubscriptionId} :
    (id, sub) ∈ t.store.arena.audience way ↔
      ReflTransGen t.store.arena.Owns id event.source ∧
        ∃ n, t.store.arena.get? id = some n ∧ sub ∈ n.observers := by
  simp only [Arena.audience, List.mem_flatMap, List.mem_map, Prod.mk.injEq]
  constructor
  · rintro ⟨id, mem, sub, here, rfl, rfl⟩
    obtain ⟨⟨n, found⟩, path⟩ := (up.mem_iff sound).mp mem
    rw [observersAt_of_get? found] at here
    exact ⟨path, n, found, here⟩
  · rintro ⟨path, n, found, here⟩
    refine ⟨id, (up.mem_iff sound).mpr ⟨⟨n, found⟩, path⟩, sub, ?_, rfl, rfl⟩
    rwa [observersAt_of_get? found]

theorem audience_snd (a : Arena) (nodes : List NodeId) :
    (a.audience nodes).map Prod.snd = nodes.flatMap a.observersAt := by
  simp [Arena.audience, List.map_flatMap, Function.comp_def]

/-- Nobody is twice in an audience. -/
theorem nodup_audience {bound : Nat} (sound : t.store.arena.Sound root)
    (enrolled : t.store.Enrolled bound) (up : t.store.arena.Lineage event.source way) :
    ((t.store.arena.audience way).map Prod.snd).Nodup := by
  have inside : way ⊆ (List.range t.store.arena.slots.size).map NodeId.mk := by
    intro x mem
    obtain ⟨⟨n, found⟩, -⟩ := (up.mem_iff sound).mp mem
    exact List.mem_map.mpr ⟨x.index, List.mem_range.mpr (index_lt_of_get? found), rfl⟩
  -- the lineage, in another order, is a part of the row of all places
  obtain ⟨row, perm, sub⟩ := List.subperm_of_subset (up.nodup sound) inside
  rw [audience_snd, ← (perm.flatMap_right t.store.arena.observersAt).nodup_iff]
  exact (sub.flatMap t.store.arena.observersAt).nodup enrolled.once

/-- Everybody in an audience has an observer. -/
theorem map_entry? {t : Tree Empty} (enrolled : t.store.Enrolled t.observers.size)
    (event : Event) (nodes : List NodeId) :
    ((t.store.arena.audience nodes).filterMap (t.entry? event)).map some =
      (t.store.arena.audience nodes).map (t.entry? event) := by
  have heard : ∀ seat ∈ t.store.arena.audience nodes,
      ∃ entry, t.entry? event seat = some entry := by
    intro seat mem
    have here : seat.2 ∈ nodes.flatMap t.store.arena.observersAt :=
      audience_snd t.store.arena nodes ▸ List.mem_map_of_mem mem
    obtain ⟨id, -, here⟩ := List.mem_flatMap.mp here
    obtain ⟨o, found⟩ := observer?_of_enrolled enrolled (mem_subscriptions here)
    exact ⟨_, congrArg (Option.map _) found⟩
  generalize t.store.arena.audience nodes = seats at heard
  induction seats with
  | nil => rfl
  | cons seat rest ih =>
    obtain ⟨entry, first⟩ := heard seat List.mem_cons_self
    rw [List.filterMap_cons, first, List.map_cons, List.map_cons, first,
      ih fun seat mem => heard seat (List.mem_cons_of_mem _ mem)]

end

end Tree

/-! ### Reachable sessions -/

/-- Who is told of an event and in which order, what the log tells of it, and who fails; `way` is
the lineage of the source. -/
structure Tree.Delivery (t : Tree Empty) (event : Event) (way : List NodeId)
    (failures : List Failure) (log : List Entry) : Prop where
  /-- The nodes have their turn from the source upwards. -/
  lineage : t.store.arena.Lineage event.source way
  /-- The subscriptions of one node have their turn in the order in which they were made. -/
  order : ∀ id, (t.store.arena.observersAt id).Pairwise fun x y => x.number < y.number
  /-- The audience are those who subscribed to the source or to a node above it. -/
  members : ∀ id sub, (id, sub) ∈ t.store.arena.audience way ↔
    ReflTransGen t.store.arena.Owns id event.source ∧
      ∃ n, t.store.arena.get? id = some n ∧ sub ∈ n.observers
  once : ((t.store.arena.audience way).map Prod.snd).Nodup
  /-- Each of them hears of the event once, and nobody else does. -/
  heard : log.map some = (t.store.arena.audience way).map (t.entry? event)
  /-- Those of them that fail are listed in this order. -/
  failed : failures = (t.store.arena.audience way).filterMap t.failure?

/-- What comes of a notice, whether all of it is walked or not. -/
theorem Tree.exists_delivery {t : Tree Empty} {root : Identifier} {event : Event}
    {way : List NodeId} (quiet : t.Quiet) (sound : t.store.arena.Sound root)
    (enrolled : t.store.Enrolled t.observers.size)
    (up : t.store.arena.Lineage event.source way) :
    ∃ failures log, t.Delivery event way failures log ∧
      (∀ depth, t.notifyWithin depth event =
        ⟨failures, t.onStore (Store.afterFailures failures.length), log⟩) ∧
      ∀ perform hops, t.store.arena.size ≤ hops →
        t.bubble perform event hops event.source = ⟨failures, t, log⟩ := by
  refine ⟨_, _, ⟨up, enrolled.order, fun id sub => mem_audience_iff sound up,
    nodup_audience sound enrolled up, map_entry? enrolled event way, rfl⟩, ?_, ?_⟩
  · exact notifyWithin_eq quiet sound enrolled up
  · intro perform hops enough
    exact bubble_eq quiet sound up (Nat.le_trans (up.length_le sound) enough)

/-- Raising an event fails with the list of those who failed. -/
theorem Tree.raise_of_notified [DirectEdit ε] {t t' : Tree ε} {event : Event}
    {failures : List Failure} {log : List Entry}
    (notified : ∀ depth, t.notifyWithin depth event = ⟨failures, t', log⟩) :
    t.raise event =
      ⟨if failures = [] then .ok () else .error (.observersFailed failures), t', log⟩ := by
  rw [raise, announce, notify, notified]
  simp only [Traced.map, List.isEmpty_iff]

/-- **An event that is raised where no observer calls back** is told to all who subscribed to its
source or above, to each of them once, from the source upwards, and whoever fails.  Raising it
succeeds exactly if nobody fails, yields the list of those who do otherwise, and changes nothing but
the number of failures that was counted.  The same comes of the whole walk, even where nobody is
subscribed, however many hops beyond the number of nodes it may take; and nobody hears of an event
whose source is not there.  What a mutation yields does not depend on the observers at all.  Of the
errors of observers nothing is asked but that they can be formatted (`ObserverError.formats`). -/
theorem raise_delivers (options : Options) (s : Session Empty) (h : s.Reachable options)
    (quiet : s.tree.Quiet) (event : Event) :
    (∃ way failures log, s.tree.Delivery event way failures log ∧
      s.tree.raise event =
        ⟨if failures = [] then .ok () else .error (.observersFailed failures),
          s.tree.onStore (Store.afterFailures failures.length), log⟩ ∧
      ∀ perform hops, s.tree.store.arena.size ≤ hops →
        s.tree.bubble perform event hops event.source = ⟨failures, s.tree, log⟩) ∧
    (s.tree.store.arena.get? event.source = none →
      s.tree.raise event = s.tree.yield (.ok ())) ∧
    (∀ raw, raw.mapM readName = .ok event.identifier →
      s.tree.perform (.raise event.action event.source event.target raw) =
        (s.tree.raise event).map fun outcome => outcome.map fun _ => .done) ∧
    ∀ (t : Tree Empty) m, t.store = s.tree.store →
      (t.perform (.mutate m)).value = (s.tree.store.exclusively m.apply).1.map Change.value := by
  have sound := (Store.upright_of_reachable h).sound
  obtain ⟨way, up⟩ := sound.exists_lineage event.source
  obtain ⟨failures, log, delivery, notified, walked⟩ :=
    Tree.exists_delivery quiet sound (enrolled_of_reachable h) up
  have raised : s.tree.raise event =
      ⟨if failures = [] then .ok () else .error (.observersFailed failures),
        s.tree.onStore (Store.afterFailures failures.length), log⟩ :=
    Tree.raise_of_notified notified
  refine ⟨⟨way, failures, log, delivery, raised, walked⟩, ?_, ?_, ?_⟩
  · intro gone
    obtain rfl := up.unique sound (.gone gone)
    obtain rfl : failures = [] := delivery.failed
    obtain rfl : log = [] := List.map_eq_nil_iff.mp delivery.heard
    rw [raised, if_pos rfl]
    exact congrArg (fun t => Tree.yield t (.ok () : Except Error Unit))
      (Tree.onStore_failed_zero s.tree)
  · intro raw named
    rw [raised]
    simp only [Tree.perform, Tree.performWith, named, Tree.announce, notified]
    simp only [Traced.map, List.isEmpty_iff]
  · intro t m same
    rw [← same]
    exact Tree.value_change _ m.apply t

/-- A tree in which no observer at all calls back is quiet. -/
theorem Tree.quiet_of_reactions {t : Tree ε} (quiet : ∀ o ∈ t.observers, o.reaction.Quiet) :
    t.Quiet := by
  rintro id n - ⟨_ | place⟩ - o here
  · simp [observer?] at here
  · exact quiet o (Array.mem_of_getElem? here)

/-- The session of a pump with a valve in which two observers of the valve and one of the root are
registered; those of the valve take the event and panic, that of the root fails.  The tree keeps
counters. -/
def Session.heeded : Session Empty :=
  let create (s : Session Empty) (parent : NodeId) (name : String) (kind : ElementKind) :=
    s.next (.perform (.mutate (.create (some parent) name kind none)))
  let subscribe (s : Session Empty) (node : NodeId) (label : String) (reaction : Reaction Empty) :=
    s.next (.perform (.subscribe node label reaction))
  let piped := create (create ⟨.ofStore .counted, #[]⟩ .root "Pump" .group) ⟨1⟩ "valve" .data
  let lit := subscribe piped ⟨2⟩ "lamp" .accept
  let gauged := subscribe lit ⟨2⟩ "gauge" (.panic (some "dry"))
  subscribe gauged .root "log" (.fail "full")

theorem Session.reachable_heeded : Session.heeded.Reachable .counted :=
  (((((Session.Reachable.fresh rfl).next _).next _).next _).next _).next _

theorem Session.quiet_heeded : Session.heeded.tree.Quiet := by
  refine Tree.quiet_of_reactions fun o mem => ?_
  have registered : Session.heeded.tree.observers =
    #[⟨"lamp", .accept⟩, ⟨"gauge", .panic (some "dry")⟩, ⟨"log", .fail "full"⟩] := rfl
  rw [registered] at mem
  simp only [List.mem_toArray, List.mem_cons, List.not_mem_nil, or_false] at mem
  rcases mem with rfl | rfl | rfl <;> trivial

/-- All three are told of an event at the valve, from the valve upwards, and two failures are
counted. -/
theorem raise_delivers_heeded :
    let event : Event := ⟨.treeChanged, ⟨2⟩, none, none⟩
    Session.heeded.Reachable .counted ∧ Session.heeded.tree.Quiet ∧
      (Session.heeded.tree.store.counters.map Counters.observerFailures) = some 0 ∧
      ∃ way failures log,
        Session.heeded.tree.Delivery event way failures log ∧
        failures = [⟨⟨2⟩, ⟨2⟩, "observer panicked: dry"⟩, ⟨.root, ⟨3⟩, "full"⟩] ∧
        log = [.heard ⟨2⟩ ⟨1⟩ "lamp" event, .heard ⟨2⟩ ⟨2⟩ "gauge" event,
          .heard .root ⟨3⟩ "log" event] ∧
        ((Session.heeded.tree.raise event).tree.store.counters.map
          Counters.observerFailures) = some 2 := by
  intro event
  obtain ⟨⟨way, failures, log, delivery, raised, -⟩, -⟩ := raise_delivers .counted Session.heeded
    Session.reachable_heeded Session.quiet_heeded event
  have told : (Session.heeded.tree.raise event).value = .error (.observersFailed
      [⟨⟨2⟩, ⟨2⟩, "observer panicked: dry"⟩, ⟨.root, ⟨3⟩, "full"⟩]) := rfl
  have heard : (Session.heeded.tree.raise event).log = [.heard ⟨2⟩ ⟨1⟩ "lamp" event,
    .heard ⟨2⟩ ⟨2⟩ "gauge" event, .heard .root ⟨3⟩ "log" event] := rfl
  have none : (Session.heeded.tree.store.counters.map Counters.observerFailures) = some 0 := rfl
  rw [raised] at told heard
  have listed : failures = [⟨⟨2⟩, ⟨2⟩, "observer panicked: dry"⟩, ⟨.root, ⟨3⟩, "full"⟩] := by
    by_cases none : failures = []
    · simp [none] at told
    · simpa [none] using told
  refine ⟨Session.reachable_heeded, Session.quiet_heeded, none, way, failures, log, delivery,
    listed, heard, ?_⟩
  rw [raised, listed]
  rfl

end DeviceTree
