/-
Data elements, part by part.

A data element is created in one request, which makes the edges to its parts first and the one from
its parent last.  The same nodes come about if the element is created on its own and its parts are
asked for one by one: edges that do not meet may be made in any order, and whatever address a node
has before it gets a parent is lost.

* `ext_core` -- sound arenas that agree in all but the addresses that follow from others;
* `Makes.map_core`, `wired_comm` -- what edges do to nodes, and when their order does not matter;
* `Furnished.attach_part` -- a part may be added before or after its element goes under a parent;
* `Store.outcome_createData` -- a data element is refused as any other element is;
* `Flushed.next`, `Flushed.parts` -- one part and all parts, asked for after their element;
* `data_assembled` -- both ways to a data element.
-/
import DeviceTree.Proofs.Admission
import DeviceTree.Proofs.Adoption
import DeviceTree.Proofs.Creation
import DeviceTree.Proofs.Idle
import DeviceTree.Proofs.Rows
import DeviceTree.Proofs.Wiring
import Mathlib.Logic.Function.Iterate

namespace DeviceTree

open Relation

namespace Node

variable {n m : Node}

/-- The node without its address, if that follows from the address of a parent. -/
def core (n : Node) : Node :=
  { n with address := if n.parent = none then n.address else "" }

theorem core_eq_iff :
    n.core = m.core ↔ { n with address := m.address } = m ∧
      (m.parent = none → n.address = m.address) := by
  constructor
  · intro same
    simp only [core, Node.ext_iff] at same ⊢
    obtain ⟨identifier, kind, attachment, address, parent, forward, inverse, observers⟩ := same
    refine ⟨⟨identifier, kind, attachment, trivial, parent, forward, inverse, observers⟩,
      fun top => ?_⟩
    rwa [if_pos (parent.trans top), if_pos top] at address
  · rintro ⟨same, top⟩
    rw [← same] at top ⊢
    by_cases up : n.parent = none
    · simp [core, up, top up]
    · simp [core, up]

@[simp] theorem core_core (n : Node) : n.core.core = n.core := by
  refine core_eq_iff.mpr ⟨rfl, fun top => ?_⟩
  show ite _ _ _ = _
  rw [if_pos top]

end Node

namespace Arena

variable {a b c : Arena} {root name part : Identifier} {x y p id : NodeId} {n m above node : Node}
  {e f : Reference} {g : NodeId → Node → Node} {used : List String}

/-- **Sound arenas are equal** if they agree in all but the addresses that follow from others. -/
theorem ext_core (ha : a.Sound root) (hb : b.Sound root) (gaps : b.gaps = a.gaps)
    (same : ∀ id, (b.get? id).map Node.core = (a.get? id).map Node.core) : b = a := by
  have alike : b.Reordered a := by
    refine address_unique hb ha fun id => ?_
    have core := same id
    cases hb : b.get? id <;> cases ha : a.get? id <;> rw [hb, ha] at core
    · exact .none
    · cases core
    · cases core
    · obtain ⟨fields, top⟩ := Node.core_eq_iff.mp (Option.some.inj core)
      refine .some ⟨?_, fun orphan => top (congrArg Node.parent fields ▸ orphan)⟩
      rw [← fields]
      exact ⟨rfl, rfl, rfl, rfl, .rfl, .rfl, rfl⟩
  refine ext_gaps gaps fun id => ?_
  have core := same id
  cases hb : b.get? id with
  | none =>
    rw [hb, Option.map_none] at core
    exact (Option.map_eq_none_iff.mp core.symm).symm
  | some n =>
    obtain ⟨m, hm, reordered⟩ := alike.live hb
    rw [hb, hm] at core
    obtain ⟨fields, -⟩ := Node.core_eq_iff.mp (Option.some.inj core)
    rw [hm, ← fields, ← reordered.address]

/-! ### Edges that do not meet -/

/-- The node at `id` once the edge is made, but for its address. -/
def wired (e : Reference) (id : NodeId) (n : Node) : Node :=
  { pushed e id n with
    parent := if e.kind = .child ∧ e.target = id then some e.source else n.parent }

theorem orphan_of_wired (top : (wired e id n).parent = none) : n.parent = none := by
  simp only [wired] at top
  split at top
  · cases top
  · exact top

theorem core_wired (core : n.core = m.core) : (wired e id n).core = (wired e id m).core := by
  obtain ⟨fields, top⟩ := Node.core_eq_iff.mp core
  refine Node.core_eq_iff.mpr ⟨?_, fun orphan => top (orphan_of_wired orphan)⟩
  rw [← fields]
  rfl

/-- **What the making of an edge does to a node**, but for an address that follows from others. -/
theorem Makes.core (made : Makes a b e g) (found : a.get? id = some n) :
    (g id n).core = (wired e id n).core := by
  obtain ⟨forward, inverse, identifier⟩ := made.pushes id n
  obtain ⟨kind, attachment, observers⟩ := made.kept id n
  have parent := made.parent id n
  refine Node.core_eq_iff.mpr ⟨?_, fun orphan => made.top found (parent.trans orphan)⟩
  exact Node.ext identifier kind attachment rfl parent forward inverse observers

theorem Makes.map_core (made : Makes a b e g) (id : NodeId) :
    (b.get? id).map Node.core =
      ((a.get? id).map Node.core).map fun n => (wired e id n).core := by
  cases found : a.get? id with
  | none => rw [made.becomes, found]; rfl
  | some n =>
    rw [made.becomes.live found, Option.map_some, made.core found, Option.map_some, Option.map_some,
      core_wired (Node.core_core n)]

/-- Edges that do not meet at the same end of both may be made in any order. -/
theorem wired_comm (sources : e.source ≠ f.source) (targets : e.target ≠ f.target) :
    wired f id (wired e id n) = wired e id (wired f id n) := by
  by_cases source : e.source = id <;> by_cases target : e.target = id <;>
    simp_all [wired, pushed, eq_comm]

theorem wired_of_ne (source : e.source ≠ id) (target : e.target ≠ id) : wired e id n = n := by
  simp [wired, pushed, source, target]

/-! ### Parts -/

theorem Furnished.ne (h : Furnished a b root x name used) (hp : a.get? p = some above) : p ≠ x := by
  rintro rfl
  exact absurd (h.new.symm.trans hp) (by simp)

/-- A new element may go under its parent. -/
theorem Furnished.admits (h : Furnished a b root x name used) (base : a.Sound root)
    (hp : a.get? p = some above) (free : above.named? name.text = none) :
    b.Admits (childEdge p x name) := by
  obtain ⟨below, fits, orphan, named⟩ := h.fits base hp free
  refine ⟨⟨above, below, fits, fun _ => ⟨orphan, ?_, named⟩⟩, fun path => ?_⟩
  · rintro isRoot
    obtain ⟨n, found, -⟩ := base.addressed.root
    rw [← isRoot] at found
    exact absurd (h.new.symm.trans found) (by simp)
  · exact absurd ((h.grows.path path h.new).symm.trans hp) (by simp)

theorem Furnished.makes (h : Furnished a b root x name used) (base : a.Sound root)
    (hp : a.get? p = some above) (free : above.named? name.text = none) :
    ∃ g, Makes b (b.attach p x name) (childEdge p x name) g :=
  h.sound.makes (h.admits base hp free)

/-- Whatever address a new node has is lost once it gets a parent. -/
theorem attach_push_address (found : a.get? x = some n) (name : Identifier) (node : Node)
    (address : String) :
    (a.push { node with address }).attach x a.nextId name =
      (a.push node).attach x a.nextId name := by
  have adopted : ∀ base, (a.push { node with address }).adopted x a.nextId name base =
      (a.push node).adopted x a.nextId name base := by
    intro base
    refine ext_gaps ?_ fun id => ?_
    · rw [adopted, adopted, gaps_modify, gaps_modify, gaps_push, gaps_push]
    · rw [adopted, adopted, get?_modify, get?_modify, get?_push, get?_push]
      by_cases here : id = a.nextId
      · subst here
        simp [Node.pushInverse]
      · simp [here, Ne.symm here]
  have differ : x ≠ a.nextId := by
    rintro rfl
    rw [get?_nextId] at found
    cases found
  have hx : ∀ node, (a.push node).get? x = some n := fun node => by
    rw [get?_push, if_neg differ, found]
  have hc : ∀ node, (a.push node).get? a.nextId = some node := fun node => by
    rw [get?_push, if_pos rfl]
  rw [attach_eq (hx _) (hc _), attach_eq (hx _) (hc _), readdressed, readdressed, adopted]
  rfl

/-- **A part may be added before or after its element goes under its parent.** -/
theorem Furnished.attach_part (h : Furnished a c root x name used) (base : a.Sound root)
    (hp : a.get? p = some above) (free : above.named? name.text = none)
    (unused : Text.fold part.text ∉ used) (kind : ElementKind) (attachment : Option String)
    (address : String) :
    ((c.attach p x name).push (.fresh part kind attachment address)).attach x
        (c.attach p x name).nextId part =
      ((c.push (.fresh part kind attachment address)).attach x c.nextId part).attach p x name := by
  obtain ⟨n, hx, -, -, names⟩ := h.node
  have differ : p ≠ x := h.ne hp
  have unnamed : n.named? part.text = none :=
    Node.named?_eq_none_iff.mpr fun mem => unused (names mem)
  have next : (c.attach p x name).nextId = c.nextId := congrArg NodeId.mk (size_attach c p x name)
  -- the element goes under its parent first
  obtain ⟨g, settled⟩ := h.makes base hp free
  have sound : (c.attach p x name).Sound root := h.settle base hp free
  have hx' : (c.attach p x name).get? x = some (g x n) := settled.becomes.live hx
  have unnamed' : (g x n).named? part.text = none := by
    have source : ¬(childEdge p x name).source = x := differ
    rw [Node.named?_eq_none_iff, Node.foldedNames, (settled.pushes x n).1, if_neg source,
      List.append_nil]
    exact Node.named?_eq_none_iff.mp unnamed
  have grown' := furnished_push sound part kind attachment address
  have sound' := grown'.settle sound hx' unnamed'
  obtain ⟨g', parted'⟩ := grown'.makes sound hx' unnamed'
  -- the part is added first
  have grown := furnished_push h.sound part kind attachment address
  obtain ⟨f, parted⟩ := grown.makes h.sound hx unnamed
  have whole := h.part unused kind attachment address
  obtain ⟨f', settled'⟩ := whole.makes base hp free
  refine ext_core (whole.settle base hp free) sound' ?_ fun id => ?_
  · rw [gaps_attach, gaps_push, gaps_attach, gaps_attach, gaps_attach, gaps_push]
  · rw [next] at parted' ⊢
    rw [parted'.map_core, settled'.map_core, parted.map_core, get?_push, get?_push, next]
    split
    · next new =>
      -- the part has nothing to do with the parent of its element
      have source : p ≠ id := by
        rintro rfl
        exact absurd (new ▸ h.grows.kept hp) (by simp [get?_nextId])
      have target : x ≠ id := by
        rintro rfl
        exact absurd (new ▸ hx) (by simp [get?_nextId])
      simp only [Option.map_some]
      rw [wired_of_ne (e := childEdge p x name) source target, Node.core_core]
    · have targets : x ≠ c.nextId := by
        rintro rfl
        exact absurd hx (by simp [get?_nextId])
      rw [settled.map_core]
      cases c.get? id with
      | none => rfl
      | some m =>
        simp only [Option.map_some, Option.some.injEq]
        rw [core_wired (Node.core_core _), core_wired (Node.core_core _),
          wired_comm (e := childEdge p x name) (f := childEdge x c.nextId part) differ targets]

end Arena

open Arena

/-! ### Requests -/

namespace Store

open Request

variable {s c : Store} {root name : Identifier} {parent : Option NodeId} {above : Option Node}
  {x : NodeId} {n : Node} {used : List String} {part : Identifier × ElementKind × Option String}

theorem outcome_settle (parent : Option NodeId) (id : NodeId) (name : Identifier) (s : Store) :
    (settle parent id name).outcome s = .ok ⟨id, settledEvent parent id name⟩ := by
  cases parent <;> rfl

/-- **A data element is refused for the same reason as any other**, and gets the same place. -/
theorem outcome_createData (parent : Option NodeId) (identifier : String) (options : DataOptions)
    (s : Store) :
    (createData parent identifier options).outcome s =
      (create parent identifier .data options.storage).outcome s := by
  rcases looks_readName identifier s with ⟨name, named⟩ | ⟨e, failed, -⟩
  · rcases looks_requireParent parent name s with ⟨above, free⟩ | ⟨e, failed, -⟩
    · rw [createData, create, outcome_bind_ok named, outcome_bind_ok named, outcome_bind_ok free,
        outcome_bind_ok free, outcome_bind_ok (place_ok.mpr ⟨rfl, rfl⟩),
        outcome_bind_ok (place_ok.mpr ⟨rfl, rfl⟩), outcome_bind_ok (a := ()) (modify_ok.mpr rfl),
        outcome_settle, outcome_settle]
    · rw [createData, create, outcome_bind_ok named, outcome_bind_ok named,
        outcome_bind_error failed, outcome_bind_error failed]
  · rw [createData, create, outcome_bind_error failed, outcome_bind_error failed]

/-- A part may be created before or after its element goes under its parent. -/
theorem arena_createPart_settled (h : Furnished s.arena c.arena root x name used)
    (base : s.arena.Sound root) (free : s.FreeUnder parent name above)
    (unused : Text.fold part.1.text ∉ used) :
    (createPart x (c.settled parent x name) part).arena =
      ((createPart x c part).settled parent x name).arena := by
  cases parent with
  | none => rfl
  | some p =>
    obtain ⟨node, found, unnamed, -⟩ := free
    exact h.attach_part base found unnamed unused part.2.1 part.2.2 part.1.text

/-- Besides the nodes a part changes two counters, whenever it is created. -/
theorem rest_createPart_settled (x : NodeId) (c : Store)
    (part : Identifier × ElementKind × Option String) (parent : Option NodeId)
    (name : Identifier) :
    let whole := (createPart x c part).settled parent x name
    let before := c.settled parent x name
    whole.rootIdentifier = before.rootIdentifier ∧ whole.cache = before.cache ∧
      whole.subscribers = before.subscribers ∧
      whole.counters = (before.counters.map Counters.created).map Counters.adopted := by
  obtain ⟨arena, root, lock, cache, counters, subscribers⟩ := c
  cases parent <;> cases counters <;> exact ⟨rfl, rfl, rfl, rfl⟩

/-- The element refers to its parts alone, whether it is under its parent or not. -/
theorem forward_settled (h : Furnished s.arena c.arena root x name used)
    (base : s.arena.Sound root) (free : s.FreeUnder parent name above)
    (hx : c.arena.get? x = some n) :
    ∃ m, (c.settled parent x name).arena.get? x = some m ∧ m.forward = n.forward := by
  cases parent with
  | none => exact ⟨n, hx, rfl⟩
  | some p =>
    obtain ⟨node, found, unnamed, -⟩ := free
    obtain ⟨g, made⟩ := h.makes base found unnamed
    have differ : ¬(childEdge p x name).source = x := h.ne found
    refine ⟨_, made.becomes.live hx, ?_⟩
    rw [(made.pushes x n).1, if_neg differ, List.append_nil]

end Store

/-- The counters, had no observer failed. -/
def Counters.hushed (c : Counters) : Counters :=
  { c with observerFailures := 0 }

/-- Asks for a part of the data element. -/
def Mutation.ofPart (data : NodeId) (part : Identifier × ElementKind × Option String) : Mutation :=
  .create (some data) part.1.text part.2.1 part.2.2

namespace Tree

/-- The events that mutations are announced by, where each is asked of the tree that the one before
has left. -/
def announcements : List Mutation → Tree Empty → List (Option Event)
  | [], _ => []
  | m :: rest, t =>
    (t.attempt m.apply).1.toOption.bind Change.event ::
      announcements rest (t.perform (.mutate m)).tree

/-- The tree `u` is `t`, but that the cache was emptied so many times more, and for how often
observers have failed. -/
structure Flushed (flushes : ℕ) (t u : Tree Empty) : Prop where
  arena : u.store.arena = t.store.arena
  rootIdentifier : u.store.rootIdentifier = t.store.rootIdentifier
  lock : u.store.lock = t.store.lock
  cache : u.store.cache = AddressCache.invalidate^[flushes] t.store.cache
  counters : u.store.counters.map Counters.hushed =
    (t.store.counters.map Counters.hushed).map Counters.flushed^[flushes]
  subscribers : u.store.subscribers = t.store.subscribers
  observers : u.observers = t.observers

variable {t u v : Tree Empty} {s c : Store} {root name : Identifier} {parent : Option NodeId}
  {above : Option Node} {x : NodeId} {used : List String} {flushes flushes' : ℕ} {m : Mutation}
  {part : Identifier × ElementKind × Option String}

theorem Flushed.symm (h : Flushed 0 t u) : Flushed 0 u t where
  arena := h.arena.symm
  rootIdentifier := h.rootIdentifier.symm
  lock := h.lock.symm
  cache := h.cache.symm
  counters := by
    have counters := h.counters
    rw [Function.iterate_zero, Option.map_id, id] at counters ⊢
    exact counters.symm
  subscribers := h.subscribers.symm
  observers := h.observers.symm

theorem Flushed.trans (h : Flushed flushes t u) (h' : Flushed flushes' u v) :
    Flushed (flushes' + flushes) t v where
  arena := h'.arena.trans h.arena
  rootIdentifier := h'.rootIdentifier.trans h.rootIdentifier
  lock := h'.lock.trans h.lock
  cache := by rw [h'.cache, h.cache, Function.iterate_add_apply]
  counters := by rw [h'.counters, h.counters, Option.map_map, Function.iterate_add]
  subscribers := h'.subscribers.trans h.subscribers
  observers := h'.observers.trans h.observers

/-- To count a part and to empty the cache come to the same in any order. -/
theorem hushed_part {counters counters' : Option Counters}
    (alike : counters'.map Counters.hushed =
      (counters.map Counters.hushed).map Counters.flushed^[flushes]) :
    (((counters'.map .created).map .adopted).map .flushed).map Counters.hushed =
      (((counters.map .created).map .adopted).map Counters.hushed).map
        Counters.flushed^[flushes + 1] := by
  have commute : Function.Commute (Counters.adopted ∘ Counters.created) Counters.flushed :=
    fun _ => rfl
  cases counters <;> cases counters' <;> simp only [Option.map_some, Option.map_none] at alike ⊢
  · cases alike
  · cases alike
  · next c c' =>
    have same : c'.hushed = Counters.flushed^[flushes] c.hushed := Option.some.inj alike
    refine congrArg some ?_
    calc c'.created.adopted.flushed.hushed
        = c'.hushed.created.adopted.flushed := rfl
      _ = (Counters.flushed^[flushes] c.hushed).created.adopted.flushed := by rw [same]
      _ = (Counters.flushed^[flushes] c.hushed.created.adopted).flushed :=
          congrArg Counters.flushed (commute.iterate_right flushes c.hushed)
      _ = Counters.flushed^[flushes + 1] c.hushed.created.adopted :=
          (Function.iterate_succ_apply' _ _ _).symm

theorem hushed_failed (counters : Option Counters) (failures : ℕ) :
    (counters.map (.failed failures)).map Counters.hushed = counters.map Counters.hushed := by
  cases counters <;> rfl

/-- What observers do about a mutation goes unseen. -/
theorem flushed_perform {change : Change Answer} (idle : t.Idle root)
    (granted : m.apply t.store.locked = .ok change s) :
    Flushed 0 { t with store := { s with lock := t.store.lock } }
      (t.perform (.mutate m)).tree := by
  obtain ⟨-, failures, left⟩ := perform_failed idle granted
  rw [left]
  refine ⟨rfl, rfl, rfl, rfl, ?_, rfl, rfl⟩
  rw [Function.iterate_zero, Option.map_id, id]
  exact hushed_failed s.counters failures

/-- **One part more**, asked for once the element is under its parent. -/
theorem Flushed.next (idle : u.Idle root) (h : Furnished s.arena c.arena root x name used)
    (base : s.arena.Sound root) (free : s.FreeUnder parent name above)
    (unused : Text.fold part.1.text ∉ used)
    (alike : Flushed flushes
      { t with store := { c.settled parent x name with lock := t.store.lock } } u) :
    (u.perform (.mutate (.ofPart x part))).value = .ok (.node c.arena.nextId) ∧
      (u.attempt (Mutation.ofPart x part).apply).1 =
        .ok ⟨.node c.arena.nextId, some (.edge .childAdded x c.arena.nextId part.1)⟩ ∧
      Flushed (flushes + 1)
        { t with
          store :=
            { (Store.createPart x c part).settled parent x name with lock := t.store.lock } }
        (u.perform (.mutate (.ofPart x part))).tree := by
  obtain ⟨n, hx, -, -, names⟩ := h.node
  obtain ⟨m, hm, forward⟩ := Store.forward_settled h base free hx
  have found : u.store.arena.get? x = some m := alike.arena ▸ hm
  have unnamed : m.named? part.1.text = none := by
    rw [Node.named?, forward]
    exact Node.named?_eq_none_iff.mpr fun mem => unused (names mem)
  have next : u.store.arena.nextId = c.arena.nextId := by
    rw [alike.arena]
    cases parent with
    | none => rfl
    | some p => exact congrArg NodeId.mk (size_attach _ _ _ _)
  have granted : (Mutation.ofPart x part).apply u.store.locked =
      .ok ⟨.node c.arena.nextId, some (.edge .childAdded x c.arena.nextId part.1)⟩ _ :=
    Request.map_ok.mpr ⟨_, Store.create_ok.mpr ⟨part.1, some m, rfl, ⟨m, found, unnamed, rfl⟩,
      rfl, rfl⟩, by rw [← next]; rfl⟩
  have performed := flushed_perform idle granted
  refine ⟨(perform_failed idle granted).1, ?_, ?_⟩
  · rw [attempt, Store.exclusively_ok idle.free granted]
  · obtain ⟨rootIdentifier, cache, subscribers, counters⟩ :=
      Store.rest_createPart_settled x c part parent name
    refine Nat.zero_add (flushes + 1) ▸ Flushed.trans ?_ performed
    refine
      { arena := ?_
        rootIdentifier := alike.rootIdentifier.trans rootIdentifier.symm
        lock := alike.lock
        cache := ?_
        counters := ?_
        subscribers := alike.subscribers.trans subscribers.symm
        observers := alike.observers }
    · refine (attach_push_address found part.1
        (.fresh part.1 part.2.1 part.2.2 part.1.text) _).trans ?_
      rw [alike.arena]
      exact Store.arena_createPart_settled h base free unused
    · show u.store.cache.invalidate = _
      rw [alike.cache, Function.iterate_succ_apply']
      exact congrArg (AddressCache.invalidate ∘ AddressCache.invalidate^[flushes]) cache.symm
    · show (((u.store.counters.map _).map _).map _).map _ = Option.map _ (Option.map _ _)
      rw [counters]
      exact hushed_part alike.counters

/-- **All parts**, asked for one after the other. -/
theorem Flushed.parts (base : s.arena.Sound root) (free : s.FreeUnder parent name above)
    (parts : List (Identifier × ElementKind × Option String)) :
    ∀ {u c used flushes}, u.Idle root → Furnished s.arena c.arena root x name used →
      (parts.map fun part => Text.fold part.1.text).Nodup →
      (∀ part ∈ parts, Text.fold part.1.text ∉ used) →
      Flushed flushes { t with store := { c.settled parent x name with lock := t.store.lock } } u →
      let row := u.performAll ((parts.map (Mutation.ofPart x)).map .mutate)
      row.value = ((parts.zipIdx c.arena.nextId.index).map fun (_, i) => .ok (.node ⟨i⟩)) ∧
        u.announcements (parts.map (Mutation.ofPart x)) =
          ((parts.zipIdx c.arena.nextId.index).map fun (part, i) =>
            some (.edge .childAdded x ⟨i⟩ part.1)) ∧
        Flushed (parts.length + flushes)
          { t with
            store :=
              { (parts.foldl (Store.createPart x) c).settled parent x name with
                lock := t.store.lock } }
          row.tree := by
  induction parts with
  | nil =>
    intro u c used flushes idle h _ _ alike
    exact ⟨rfl, rfl, (Nat.zero_add flushes).symm ▸ alike⟩
  | cons part rest ih =>
    intro u c used flushes idle h differ unused alike
    simp only [List.map_cons, List.nodup_cons, List.forall_mem_cons] at differ unused
    obtain ⟨value, event, alike⟩ := alike.next idle h base free unused.1
    have later : ∀ other ∈ rest, Text.fold other.1.text ∉ Text.fold part.1.text :: used := by
      intro other mem named
      rcases List.mem_cons.mp named with same | old
      · exact differ.1 (same ▸ List.mem_map_of_mem mem)
      · exact unused.2 other mem old
    have next : (Store.createPart x c part).arena.nextId.index = c.arena.nextId.index + 1 := by
      show (Arena.attach _ _ _ _).slots.size = _
      rw [size_attach]
      exact Array.size_push _
    obtain ⟨values, events, last⟩ := ih (idle.perform (.ofPart x part))
      (h.part unused.1 part.2.1 part.2.2 part.1.text) differ.2 later alike
    rw [next] at values events
    refine ⟨?_, ?_, ?_⟩
    · show (u.perform (.mutate (.ofPart x part))).value :: _ = _
      rw [value, List.zipIdx_cons, List.map_cons]
      exact congrArg _ values
    · rw [List.map_cons, announcements, event, events, List.zipIdx_cons, List.map_cons]
      rfl
    · rw [List.length_cons, Nat.add_right_comm]
      exact last

end Tree

/-- The mutations that create the parts of the data element one by one. -/
def DataOptions.requests (options : DataOptions) (data : NodeId) : List Mutation :=
  .create (some data) "getdata" .service none ::
    ((if options.writable then [.create (some data) "setdata" .service none] else []) ++
      [.create (some data) "datachanged" .event options.eventSender])

theorem DataOptions.requests_eq (options : DataOptions) (data : NodeId) :
    options.requests data = options.parts.map (Mutation.ofPart data) := by
  obtain ⟨writable, storage, sender⟩ := options
  cases writable <;> rfl

/-- **A data element comes about part by part.**  While nobody holds the lock and no observer calls
back, a data element is refused exactly if an element of that kind is, and for the same reason, and
it gets the same place.  If it is granted, so is each of its parts when they are asked for one after
the other once that element is there, and they take the next places.  Both ways leave the same
nodes; the trees differ in nothing but in how often the cache was emptied, once more for each part,
and in how often observers failed.  The data element is announced as the other element is, while
each part that is asked for is announced at the data element. -/
theorem data_assembled (options : Options) (s : Session Empty) (h : s.Reachable options)
    (free : s.tree.store.lock.isFree = true) (quiet : s.tree.Quiet) (parent : Option NodeId)
    (identifier : String) (data : DataOptions) :
    let t := s.tree
    let x := t.store.arena.nextId
    let whole : Mutation := .createData parent identifier data
    let plain : Mutation := .create parent identifier .data data.storage
    (t.perform (.mutate whole)).value = (t.perform (.mutate plain)).value ∧
      ∀ answer, (t.perform (.mutate plain)).value = .ok answer →
        let row := t.performAll ((plain :: data.requests x).map .mutate)
        answer = .node x ∧
          row.value = .ok (.node x) ::
            ((data.parts.zipIdx (x.index + 1)).map fun (_, i) => .ok (.node ⟨i⟩)) ∧
          Tree.Flushed data.parts.length (t.perform (.mutate whole)).tree row.tree ∧
          ∃ name : Identifier, name.text = identifier ∧
            t.announcements [whole] = [parent.map fun p => ⟨.childAdded, p, some x, some name⟩] ∧
            t.announcements (plain :: data.requests x) =
              (parent.map fun p => ⟨.childAdded, p, some x, some name⟩) ::
                (data.parts.zipIdx (x.index + 1)).map fun (part, i) =>
                  some ⟨.childAdded, x, some ⟨i⟩, some part.1⟩ := by
  intro t x whole plain
  have sound : t.store.arena.Sound _ := (Store.upright_of_reachable h).sound
  have idle : t.Idle _ := ⟨sound, free, quiet⟩
  refine ⟨?_, fun answer ok => ?_⟩
  · rw [Tree.value_of_free free, Tree.value_of_free free]
    simp only [whole, plain, Mutation.apply, Request.outcome_map, Store.outcome_createData]
  · obtain ⟨-, c, u, applied, rfl⟩ := Tree.granted_of_perform ok
    obtain ⟨c', granted, rfl⟩ := Request.map_ok.mp applied
    obtain ⟨name, above, spelled, under, rfl, rfl⟩ := Store.create_ok.mp granted
    have applied' : whole.apply t.store.locked = .ok _ _ :=
      Request.map_ok.mpr ⟨_, Store.createData_ok.mpr ⟨name, above, spelled, under, rfl, rfl⟩, rfl⟩
    have made := Tree.flushed_perform idle applied'
    have begun := Tree.flushed_perform idle applied
    have furnished : t.store.arena.Furnished (t.store.locked.insert
        (.fresh name .data data.storage (Store.newAddress above name))).arena _ x name [] :=
      furnished_push sound name .data data.storage _
    obtain ⟨values, events, last⟩ := Tree.Flushed.parts (s := t.store.locked) sound under data.parts
      (idle.perform plain) furnished (Store.nodup_parts data) (fun _ _ => List.not_mem_nil) begun
    have next : (t.store.locked.insert (.fresh name .data data.storage
        (Store.newAddress above name))).arena.nextId.index = x.index + 1 := Array.size_push _
    have event : (t.attempt plain.apply).1 = .ok _ :=
      congrArg Prod.fst ((Tree.attempt_ok free).mpr ⟨_, applied, rfl⟩)
    have event' : (t.attempt whole.apply).1 = .ok _ :=
      congrArg Prod.fst ((Tree.attempt_ok free).mpr ⟨_, applied', rfl⟩)
    rw [next] at values events
    refine ⟨rfl, ?_, ?_, name, spelled, ?_, ?_⟩
    · show (t.perform (.mutate plain)).value :: _ = _
      rw [ok, data.requests_eq]
      exact congrArg _ values
    · rw [data.requests_eq]
      exact made.symm.trans last
    · rw [Tree.announcements, event', Tree.announcements]
      rfl
    · rw [Tree.announcements, event, data.requests_eq, events]
      rfl

/-- A meter in the hall. -/
theorem data_assembled_meter :
    let t := Session.stored.tree
    let meter : DataOptions := ⟨true, some "cell", some "bell"⟩
    let whole := t.perform (.mutate (.createData (some ⟨3⟩) "meter" meter))
    let row := t.performAll
      ((.create (some ⟨3⟩) "meter" .data meter.storage :: meter.requests ⟨4⟩).map .mutate)
    Session.stored.Reachable .standard ∧ t.store.lock.isFree = true ∧ t.Quiet ∧
      whole.value = .ok (.node ⟨4⟩) ∧
      row.value = [.ok (.node ⟨4⟩), .ok (.node ⟨5⟩), .ok (.node ⟨6⟩), .ok (.node ⟨7⟩)] ∧
      row.tree.store.arena = whole.tree.store.arena := by
  intro t meter whole row
  have free : Session.stored.tree.store.lock.isFree = true := by decide +kernel
  have next : Session.stored.tree.store.arena.nextId = ⟨4⟩ := by decide +kernel
  have granted : (Session.stored.tree.perform
      (.mutate (.create (some ⟨3⟩) "meter" .data (some "cell")))).value = .ok (.node ⟨4⟩) := by cbv
  obtain ⟨value, both⟩ := data_assembled .standard Session.stored Session.reachable_stored free
    Session.quiet_stored (some ⟨3⟩) "meter" meter
  obtain ⟨-, values, flushed, -⟩ := both _ granted
  have plainly : row = Session.stored.tree.performAll _ := rfl
  have wholly : whole = Session.stored.tree.perform _ := rfl
  rw [next, ← plainly] at values flushed
  rw [← wholly] at flushed
  refine ⟨Session.reachable_stored, free, Session.quiet_stored, value.trans granted, ?_,
    flushed.arena⟩
  rw [values]
  rfl

end DeviceTree
