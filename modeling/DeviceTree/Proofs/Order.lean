/-
Requests for edges may be made in any order.

While nobody else holds the lock and no observer calls back, a request to add a child or a link is
granted exactly when its edge may be made, and it makes the edge.  What is true of the order of
edges is therefore true of the order of such requests.

* `apply_wires_ok` -- what one request does to a store;
* `performAll_granted`, `granted_of_performAll` -- what a row of them does to a tree;
* `wiring_order` -- a row of requests that are all granted is so in any order, with the same
  result but for the order in which nodes keep their references.
-/
import DeviceTree.Proofs.Idle
import DeviceTree.Proofs.Wiring
import Mathlib

namespace DeviceTree

open Arena Relation

/-- The mutation asks for an edge between nodes that are there. -/
def Mutation.wires : Mutation → Bool
  | .add .. | .link .. => true
  | _ => false

/-- The edge that the mutation asks for, if its target is there and the name is an identifier. -/
def Mutation.edge? (a : Arena) : Mutation → Option Reference
  | .add parent child => (a.get? child).map fun below => childEdge parent child below.identifier
  | .link source target identifier =>
    (a.get? target).bind fun aim =>
      (Store.linkName identifier aim).toOption.map fun name =>
        ⟨name, source, target, .link, .forward⟩
  | _ => none

/-- The notice of a new edge. -/
def Event.ofEdge (e : Reference) : Event :=
  .edge (if e.isChild then .childAdded else .linkAdded) e.source e.target e.identifier

namespace Store

variable {s t : Store} {m : Mutation} {c : Change Answer}

/-- Makes the edge of which `e` is the forward half. -/
def makeEdge (s : Store) (e : Reference) : Store :=
  match e.kind with
  | .child => s.makeChild e.source e.target e.identifier
  | .link => s.makeLink e.source e.target e.identifier

theorem arena_makeEdge (s : Store) (e : Reference) : (s.makeEdge e).arena = s.arena.make e := by
  unfold makeEdge Arena.make
  cases e.kind <;> rfl

theorem leadsTo_eq_false {a : Arena} {x y : NodeId} (h : ¬ReflTransGen a.Leads x y) :
    a.leadsTo x y = false := by
  rw [← leadsTo_iff] at h
  simpa using h

/-- **A request for an edge is granted exactly when the edge may be made**, and makes it. -/
theorem apply_wires_ok (wires : m.wires = true) :
    m.apply s = .ok c t ↔ ∃ e, m.edge? s.arena = some e ∧ s.arena.Admits e ∧
      c = ⟨.done, some (.ofEdge e)⟩ ∧ t = (s.makeEdge e).invalidate := by
  cases m <;> simp only [Mutation.wires, Bool.false_eq_true] at wires
  case add parent child =>
    constructor
    · intro h
      obtain ⟨c', granted, rfl⟩ := Request.map_ok.mp h
      obtain ⟨above, below, hp, hc, apart, free, notRoot, orphan, open_, rfl, rfl⟩ :=
        add_ok.mp granted
      refine ⟨childEdge parent child below.identifier, by simp [Mutation.edge?, hc], ?_, rfl, rfl⟩
      exact ⟨⟨above, below, ⟨hp, hc, rfl, free, apart⟩, fun _ => ⟨orphan, notRoot, rfl⟩⟩,
        not_leads_of_leadsTo open_⟩
    · rintro ⟨e, edge, ⟨⟨above, below, fits, only⟩, open_⟩, rfl, rfl⟩
      obtain ⟨below', hc, rfl⟩ := Option.map_eq_some_iff.mp edge
      obtain rfl : below' = below := Option.some.inj (hc.symm.trans fits.target)
      obtain ⟨orphan, notRoot, -⟩ := only rfl
      refine Request.map_ok.mpr ⟨_, add_ok.mpr ⟨above, below', fits.source, hc, fits.apart,
        fits.free, notRoot, orphan, leadsTo_eq_false open_, rfl, rfl⟩, rfl⟩
  case link source target identifier =>
    constructor
    · intro h
      obtain ⟨c', granted, rfl⟩ := Request.map_ok.mp h
      obtain ⟨holder, aim, name, hs, ht, named, apart, free, -, open_, rfl, rfl⟩ :=
        link_ok.mp granted
      refine ⟨⟨name, source, target, .link, .forward⟩, ?_, ?_, rfl, rfl⟩
      · simp [Mutation.edge?, ht, named, Except.toOption]
      · exact ⟨⟨holder, aim, ⟨hs, ht, rfl, free, apart⟩, fun child => absurd child (by simp)⟩,
          not_leads_of_leadsTo open_⟩
    · rintro ⟨e, edge, ⟨⟨holder, aim, fits, -⟩, open_⟩, rfl, rfl⟩
      obtain ⟨aim', ht, edge⟩ := Option.bind_eq_some_iff.mp edge
      obtain ⟨name, named, rfl⟩ := Option.map_eq_some_iff.mp edge
      obtain rfl : aim' = aim := Option.some.inj (ht.symm.trans fits.target)
      have differ : source ≠ target := fun same => open_ (same ▸ .refl)
      exact Request.map_ok.mpr ⟨_, link_ok.mpr ⟨holder, aim', name, fits.source, ht,
        Request.toOption_eq_some.mp named, fits.apart, fits.free, differ,
        leadsTo_eq_false open_, rfl, rfl⟩, rfl⟩

end Store

/-- The making of an edge changes no request. -/
theorem Mutation.edge?_of_makes {a b : Arena} {e : Reference} {g : NodeId → Node → Node}
    (made : Makes a b e g) (m : Mutation) : m.edge? b = m.edge? a := by
  have name : ∀ id n, (g id n).identifier = n.identifier := fun id n => (made.pushes id n).2.2
  cases m with
  | add parent child =>
    rw [edge?, edge?, made.becomes, Option.map_map]
    congr 1
    funext n
    show childEdge parent child (g child n).identifier = _
    rw [name]
  | link source target identifier =>
    rw [edge?, edge?, made.becomes, Option.bind_map]
    congr 1
    funext n
    have same : Store.linkName identifier (g target n) = Store.linkName identifier n := by
      cases identifier with
      | some raw => rfl
      | none => exact congrArg Except.ok (name target n)
    show (Store.linkName identifier (g target n)).toOption.map _ = _
    rw [same]
  | _ => rfl

namespace Tree

variable {t : Tree Empty} {m : Mutation} {root : Identifier} {e : Reference}

/-- A request for an edge that may be made is granted. -/
theorem perform_granted (idle : t.Idle root) (wires : m.wires = true)
    (edge : m.edge? t.store.arena = some e) (admits : t.store.arena.Admits e) :
    (t.perform (.mutate m)).value = .ok .done ∧
      (t.perform (.mutate m)).tree.store.arena = t.store.arena.make e ∧
      (t.perform (.mutate m)).tree.Idle root := by
  have granted : m.apply t.store.locked =
      .ok ⟨.done, some (.ofEdge e)⟩ (t.store.locked.makeEdge e).invalidate :=
    (Store.apply_wires_ok wires).mpr ⟨e, edge, admits, rfl, rfl⟩
  obtain ⟨value, failures, left⟩ := perform_failed idle granted
  refine ⟨value, ?_, idle.perform m⟩
  rw [left]
  exact Store.arena_makeEdge t.store.locked e

/-- A request for an edge is granted only if the edge may be made. -/
theorem edge_of_perform (idle : t.Idle root) (wires : m.wires = true)
    (granted : (t.perform (.mutate m)).value = .ok .done) :
    ∃ e, m.edge? t.store.arena = some e ∧ t.store.arena.Admits e := by
  cases applied : m.apply t.store.locked with
  | ok c u =>
    obtain ⟨e, edge, admits, -⟩ := (Store.apply_wires_ok wires).mp applied
    exact ⟨e, edge, admits⟩
  | error e u =>
    have done := Store.exclusively_error idle.free applied
    rw [perform, performWith, change, attempt, done] at granted
    cases granted

/-! ### Rows of requests -/

/-- The edges that the requests ask for. -/
def edges (a : Arena) (requests : List Mutation) : List Reference :=
  requests.filterMap (Mutation.edge? a)

theorem edges_of_makes {a b : Arena} {g : NodeId → Node → Node} (made : Makes a b e g)
    (requests : List Mutation) : edges b requests = edges a requests :=
  List.filterMap_congr fun m _ => Mutation.edge?_of_makes made m

/-- Requests for edges that may be made one after the other are granted one after the other. -/
theorem performAll_granted (requests : List Mutation) : ∀ {t : Tree Empty}, t.Idle root →
    (∀ m ∈ requests, m.wires = true ∧ (m.edge? t.store.arena).isSome = true) →
    t.store.arena.Grants (edges t.store.arena requests) →
      (∀ o ∈ (t.performAll (requests.map .mutate)).value, o = .ok .done) ∧
        (t.performAll (requests.map .mutate)).tree.store.arena =
          (edges t.store.arena requests).foldl Arena.make t.store.arena := by
  induction requests with
  | nil =>
    intro t _ _ _
    refine ⟨?_, rfl⟩
    intro o mem
    cases mem
  | cons m rest ih =>
    intro t idle asked granted
    obtain ⟨wires, named⟩ := asked m List.mem_cons_self
    obtain ⟨e, edge⟩ := Option.isSome_iff_exists.mp named
    rw [edges, List.filterMap_cons_some edge] at granted ⊢
    obtain ⟨admits, rest'⟩ := granted
    obtain ⟨value, arena, idle'⟩ := perform_granted idle wires edge admits
    obtain ⟨g, made⟩ := idle.sound.makes admits
    have asked' : ∀ m' ∈ rest, m'.wires = true ∧
        (m'.edge? (t.perform (.mutate m)).tree.store.arena).isSome = true := by
      intro m' mem
      rw [arena, Mutation.edge?_of_makes made]
      exact asked m' (List.mem_cons_of_mem _ mem)
    rw [← edges, ← edges_of_makes made rest, ← arena] at rest'
    obtain ⟨values, last⟩ := ih idle' asked' rest'
    refine ⟨?_, ?_⟩
    · intro o mem
      rcases List.mem_cons.mp mem with rfl | mem
      · exact value
      · exact values o mem
    · rw [arena, edges_of_makes made rest] at last
      exact last

/-- If requests for edges are granted one after the other, the edges may be made one after the
other. -/
theorem granted_of_performAll (requests : List Mutation) : ∀ {t : Tree Empty}, t.Idle root →
    (∀ m ∈ requests, m.wires = true) →
    (∀ o ∈ (t.performAll (requests.map .mutate)).value, o = .ok .done) →
      (∀ m ∈ requests, (m.edge? t.store.arena).isSome = true) ∧
        t.store.arena.Grants (edges t.store.arena requests) := by
  induction requests with
  | nil =>
    intro t _ _ _
    refine ⟨?_, trivial⟩
    intro m mem
    cases mem
  | cons m rest ih =>
    intro t idle wires done
    have wires' := wires m List.mem_cons_self
    obtain ⟨e, edge, admits⟩ := edge_of_perform idle wires' (done _ List.mem_cons_self)
    obtain ⟨-, arena, idle'⟩ := perform_granted idle wires' edge admits
    obtain ⟨named, granted⟩ := ih idle' (fun m mem => wires m (List.mem_cons_of_mem _ mem))
      fun o mem => done o (List.mem_cons_of_mem _ mem)
    obtain ⟨g, made⟩ := idle.sound.makes admits
    rw [arena, edges_of_makes made rest] at granted
    refine ⟨?_, ?_⟩
    · intro m' mem
      rcases List.mem_cons.mp mem with rfl | mem
      · rw [edge, Option.isSome_some]
      · have here := named m' mem
        rwa [arena, Mutation.edge?_of_makes made] at here
    · rw [edges, List.filterMap_cons_some edge]
      exact ⟨admits, granted⟩

end Tree

/-- **Edges may be asked for in any order.**  If the lock is free and no observer calls back, a row
of requests to add children and links that are all granted is so in every other order as well; and
in the end every node has the same name, kind, attachment, parent, address and subscriptions, and
the same forward and inverse references but for their order. -/
theorem wiring_order (options : Options) (s : Session Empty) (h : s.Reachable options)
    (free : s.tree.store.lock.isFree = true) (quiet : s.tree.Quiet)
    (requests others : List Mutation) (wires : ∀ m ∈ requests, m.wires = true)
    (perm : requests.Perm others)
    (granted : ∀ o ∈ (s.tree.performAll (requests.map .mutate)).value, o = .ok .done) :
    (∀ o ∈ (s.tree.performAll (others.map .mutate)).value, o = .ok .done) ∧
      (s.tree.performAll (requests.map .mutate)).tree.store.arena.Reordered
        (s.tree.performAll (others.map .mutate)).tree.store.arena := by
  have idle : s.tree.Idle s.tree.store.rootIdentifier :=
    ⟨(Store.upright_of_reachable h).sound, free, quiet⟩
  obtain ⟨named, admitted⟩ := Tree.granted_of_performAll requests idle wires granted
  obtain ⟨-, first⟩ :=
    Tree.performAll_granted requests idle (fun m mem => ⟨wires m mem, named m mem⟩) admitted
  -- the requests ask for the same edges in whatever order they come
  obtain ⟨admitted', same⟩ := Grants.perm (perm.filterMap _) idle.sound admitted
  obtain ⟨granted', second⟩ := Tree.performAll_granted others idle
    (fun m mem => ⟨wires m (perm.mem_iff.mpr mem), named m (perm.mem_iff.mpr mem)⟩) admitted'
  rw [first, second]
  exact ⟨granted', same⟩

/-- A session with two elements that are on their own, and an observer of the root that fails. -/
def Session.unwired : Session Empty :=
  let new : Session Empty := ⟨.ofStore .standard, #[]⟩
  let watched := new.next (.perform (.subscribe .root "watch" (.fail "busy")))
  let pumped := watched.next (.perform (.mutate (.create none "pump" .group none)))
  pumped.next (.perform (.mutate (.create none "valve" .data none)))

/-- A pump under the root, a link from there to a valve, and the valve under the pump. -/
def Session.wiring : List Mutation :=
  [.add .root ⟨1⟩, .link .root ⟨2⟩ none, .add ⟨1⟩ ⟨2⟩]

theorem wiring_order_reversed :
    Session.unwired.Reachable .standard ∧ Session.unwired.tree.Quiet ∧
      (Session.unwired.tree.performAll (Session.wiring.map .mutate)).value =
        [.ok .done, .ok .done, .ok .done] ∧
      (∀ o ∈ (Session.unwired.tree.performAll (Session.wiring.reverse.map .mutate)).value,
        o = .ok .done) ∧
      (Session.unwired.tree.performAll (Session.wiring.map .mutate)).tree.store.arena.Reordered
        (Session.unwired.tree.performAll (Session.wiring.reverse.map .mutate)).tree.store.arena := by
  have reached : Session.unwired.Reachable .standard :=
    (((Session.Reachable.fresh rfl).next _).next _).next _
  have free : Session.unwired.tree.store.lock.isFree = true := by decide +kernel
  have quiet : Session.unwired.tree.Quiet := by
    have observers : Session.unwired.tree.observers = #[⟨"watch", .fail "busy"⟩] := rfl
    intro id n _ sub _ o registered
    unfold Tree.observer? at registered
    split at registered
    · cases registered
    · have mem := Array.mem_of_getElem? registered
      rw [observers, Array.mem_singleton] at mem
      rw [mem]
      trivial
  have value : (Session.unwired.tree.performAll (Session.wiring.map .mutate)).value =
      [.ok .done, .ok .done, .ok .done] := by cbv
  have granted : ∀ o ∈ (Session.unwired.tree.performAll (Session.wiring.map .mutate)).value,
      o = .ok .done := by
    rw [value]
    simp
  have wires : ∀ m ∈ Session.wiring, m.wires = true := by decide
  exact ⟨reached, quiet, value, wiring_order .standard Session.unwired reached free quiet
    Session.wiring Session.wiring.reverse wires (List.reverse_perm _).symm granted⟩

end DeviceTree
