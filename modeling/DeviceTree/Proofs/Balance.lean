/-
Counters and what they count.

What was counted as made is what was counted as unmade, what is there, and what nobody has counted.
Three things are counted by nobody: how often an address was looked up, and the child edges and the
links that went with the nodes at both of their ends; a ledger keeps them.

* `Counters.Agree` -- counters, a ledger and the numbers of a tree are in balance;
* `Store.Balanced` -- so are those of a store, and each effect keeps them so;
* `Store.Balanced.apply` -- what a mutation preserves that discards nothing.
-/
import DeviceTree.Proofs.Epoch
import DeviceTree.Proofs.Places
import DeviceTree.Proofs.Totals

namespace DeviceTree

open Arena

/-- What no counter tells. -/
@[ext] structure Ledger where
  /-- How often an address was looked up. -/
  lookUps : Nat
  /-- How many child edges went with the nodes at both ends. -/
  children : Nat
  /-- How many links went with the nodes at both ends. -/
  links : Nat

/-- An edge of that kind was made. -/
def Counters.made : EdgeKind → Counters → Counters
  | .child => adopted
  | .link => linked

/-- An edge of that kind was unmade. -/
def Counters.unmade : EdgeKind → Counters → Counters
  | .child => released
  | .link => unlinked

/-- The counters agree with a ledger and with the numbers of a tree: so many nodes, child edges and
links, and so many epochs of the cache. -/
structure Counters.Agree (c : Counters) (l : Ledger) (nodes children links epoch : Nat) : Prop where
  /-- The root was not created. -/
  elements : c.elementsCreated + 1 = c.elementsDiscarded + nodes
  children : c.childrenAdded = c.childrenRemoved + l.children + children
  links : c.linksAdded = c.linksRemoved + l.links + links
  epochs : c.cacheInvalidations = epoch
  lookUps : c.cacheHits + c.cacheMisses = l.lookUps

namespace Store

/-- The store keeps counters, and they agree with what is there. -/
def Balanced (l : Ledger) (s : Store) : Prop :=
  ∃ c, s.counters = some c ∧ c.Agree l s.arena.size s.arena.census.childEdges
    s.arena.census.linkEdges s.cache.epoch

variable {s t : Store} {l l' : Ledger} {id : NodeId} {root : Identifier}

theorem balanced_iff : s.Balanced l ↔ ∃ c, s.counters = some c ∧
    c.Agree l s.arena.size (s.arena.edges .child) (s.arena.edges .link) s.cache.epoch := by
  rw [Balanced, (census_edges s.arena).1, (census_edges s.arena).2]

/-- Something is counted, and nothing else changes that a counter could tell. -/
theorem Balanced.move (h : s.Balanced l) {f : Counters → Counters}
    (counters : t.counters = s.counters.map f)
    (agree : ∀ c : Counters,
      c.Agree l s.arena.size (s.arena.edges .child) (s.arena.edges .link) s.cache.epoch →
      (f c).Agree l' t.arena.size (t.arena.edges .child) (t.arena.edges .link) t.cache.epoch) :
    t.Balanced l' := by
  obtain ⟨c, kept, before⟩ := balanced_iff.mp h
  exact balanced_iff.mpr ⟨f c, by rw [counters, kept, Option.map_some], agree c before⟩

theorem Balanced.congr (h : s.Balanced l) (counters : t.counters = s.counters)
    (arena : t.arena = s.arena) (epoch : t.cache.epoch = s.cache.epoch) : t.Balanced l := by
  rw [Balanced, counters, arena, epoch]
  exact h

/-- A new store is in balance, with nothing in the ledger. -/
theorem balanced_ofRoot {options : Options} (counting : options.counting = true)
    (root : Identifier) : (ofRoot options root).Balanced ⟨0, 0, 0⟩ :=
  ⟨.zero, if_pos counting, ⟨rfl, rfl, rfl, rfl, rfl⟩⟩

/-! ### Effects -/

theorem Balanced.lock (h : s.Balanced l) (lock : Lock) : Balanced l { s with lock } :=
  h.congr rfl rfl rfl

theorem Balanced.invalidate (h : s.Balanced l) : s.invalidate.Balanced l :=
  h.move (f := .flushed) rfl fun _ agree =>
    { agree with epochs := congrArg (· + 1) agree.epochs }

theorem Balanced.refused (h : s.Balanced l) : (s.count .refused).Balanced l :=
  h.move (f := .refused) rfl fun _ agree => { agree with }

theorem Balanced.failed (h : s.Balanced l) (count : Nat) : (s.count (.failed count)).Balanced l :=
  h.move (f := .failed count) rfl fun _ agree => { agree with }

theorem Balanced.insert (h : s.Balanced l) {node : Node} (bare : node.forward = []) :
    (s.insert node).Balanced l := by
  have none : ∀ kind, node.edges kind = 0 := fun kind => by rw [Node.edges, bare, List.countP_nil]
  have edges : ∀ kind, (s.arena.push node).edges kind = s.arena.edges kind := fun kind =>
    (total_push _ _ _).trans (by rw [none]; rfl)
  refine h.move (f := .created) rfl fun c agree => ?_
  show c.created.Agree l (s.arena.push node).size _ _ _
  rw [size_push]
  exact ⟨congrArg (· + 1) agree.elements, (edges .child).symm ▸ agree.children,
    (edges .link).symm ▸ agree.links, agree.epochs, agree.lookUps⟩

/-- An edge is made, and counted. -/
theorem Balanced.gain {r : Reference} (h : s.Balanced l) (gains : Gains s.arena t.arena r)
    (nodes : t.arena.row (fun _ => 1) = s.arena.row fun _ => 1) (epoch : t.cache = s.cache)
    (counters : t.counters = s.counters.map (Counters.made r.kind)) : t.Balanced l := by
  have edges := gains.edges nodes
  refine h.move counters fun c agree => ?_
  rw [size_of_rows nodes, epoch, edges, edges]
  cases r.kind with
  | child => exact { agree with children := congrArg (· + 1) agree.children }
  | link => exact { agree with links := congrArg (· + 1) agree.links }

/-- An edge is unmade, and counted. -/
theorem Balanced.loss {r : Reference} (h : s.Balanced l) (gains : Gains t.arena s.arena r)
    (nodes : t.arena.row (fun _ => 1) = s.arena.row fun _ => 1) (epoch : t.cache = s.cache)
    (counters : t.counters = s.counters.map (Counters.unmade r.kind)) : t.Balanced l := by
  -- seen backwards, the edge is gained
  have edges := gains.edges nodes.symm
  refine h.move counters fun c agree => ?_
  rw [edges, edges, ← size_of_rows nodes, ← epoch] at agree
  obtain ⟨elements, children, links, epochs, lookUps⟩ := agree
  generalize r.kind = kind at children links ⊢
  cases kind with
  | child =>
    refine ⟨elements, ?_, links, epochs, lookUps⟩
    show c.childrenAdded = c.childrenRemoved + 1 + l.children + _
    rw [if_pos rfl] at children
    omega
  | link =>
    refine ⟨elements, children, ?_, epochs, lookUps⟩
    show c.linksAdded = c.linksRemoved + 1 + l.links + _
    rw [if_pos rfl] at links
    omega

theorem Balanced.makeChild (h : s.Balanced l) {parent child : NodeId}
    (hp : s.arena.Live parent) (hc : s.arena.Live child) (name : Identifier) :
    (s.makeChild parent child name).Balanced l := by
  obtain ⟨above, hp⟩ := hp
  obtain ⟨below, hc⟩ := hc
  exact h.gain (gains_of_pushes (becomes_attach hp hc name) (pushes_afterAttach _) hp)
    (row_attach (Node.unwired_const 1) _ _ _ _) rfl rfl

theorem Balanced.makeLink (h : s.Balanced l) {source : NodeId} (live : s.arena.Live source)
    (target : NodeId) (name : Identifier) : (s.makeLink source target name).Balanced l := by
  obtain ⟨n, found⟩ := live
  exact h.gain (gains_of_pushes (becomes_link _ source target name) (pushes_pushed _) found)
    (row_link (Node.unwired_const 1) _ _ _ _) rfl rfl

theorem Balanced.unmakeChild (h : s.Balanced l) (w : s.arena.Wired) {parent child : NodeId}
    (owned : s.arena.Owns parent child) : (s.unmakeChild parent child).Balanced l := by
  obtain ⟨n, found, mem⟩ := owned
  obtain ⟨r, mem, target⟩ := List.mem_map.mp mem
  obtain ⟨inside, isChild⟩ := List.mem_filter.mp mem
  have kind : r.kind = .child := of_decide_eq_true isChild
  exact h.loss (gains_of_drops w (w.becomes_detach parent child) (fun _ _ => ⟨rfl, rfl, rfl⟩) found
    inside target kind) (row_detach (Node.unwired_const 1) _ _ _) rfl (by rw [kind]; rfl)

theorem Balanced.unmakeLink (h : s.Balanced l) (w : s.arena.Wired) {source target : NodeId}
    (link : s.arena.LinksTo source target) : (s.unmakeLink source target).Balanced l := by
  obtain ⟨n, found, mem⟩ := link
  obtain ⟨r, mem, aim⟩ := List.mem_map.mp mem
  obtain ⟨inside, isLink⟩ := List.mem_filter.mp mem
  have kind : r.kind = .link := of_decide_eq_true isLink
  exact h.loss (gains_of_drops w (w.becomes_unlink source target) (drops_dropped _ _ _) found
    inside aim kind) (row_unlink (Node.unwired_const 1) _ _ _) rfl (by rw [kind]; rfl)

/-- With a node go the edges that start at it. -/
theorem Balanced.vacate (h : s.Balanced l) {n : Node} (found : s.arena.get? id = some n) :
    (s.vacate id).Balanced
      { l with children := l.children + n.edges .child, links := l.links + n.edges .link } := by
  have size := size_vacate found
  have children : (s.arena.vacate id).edges .child + n.edges .child = s.arena.edges .child :=
    total_vacate _ found
  have links : (s.arena.vacate id).edges .link + n.edges .link = s.arena.edges .link :=
    total_vacate _ found
  have left : (s.vacate id).arena = s.arena.vacate id := by rw [Store.vacate, found]; rfl
  have counted : (s.vacate id).counters = s.counters.map .discarded := by
    rw [Store.vacate, found]; rfl
  have cache : (s.vacate id).cache = s.cache := by rw [Store.vacate, found]; rfl
  refine h.move counted fun c agree => ?_
  rw [left, cache]
  obtain ⟨elements, added, linked, epochs, lookUps⟩ := agree
  refine ⟨?_, ?_, ?_, epochs, lookUps⟩
  · show c.elementsCreated + 1 = c.elementsDiscarded + 1 + _
    omega
  · show c.childrenAdded = c.childrenRemoved + (l.children + _) + _
    omega
  · show c.linksAdded = c.linksRemoved + (l.links + _) + _
    omega

/-- What is looked up is counted once, whether the cache knows it or not. -/
theorem Balanced.resolve (h : s.Balanced l) (address : String) :
    (s.resolve address).2.Balanced { l with lookUps := l.lookUps + 1 } := by
  have counted : ∃ cached, (s.resolve address).2.counters = s.counters.map (.lookedUp cached) := by
    unfold Store.resolve
    dsimp only
    split
    · exact ⟨true, rfl⟩
    · split <;> exact ⟨false, rfl⟩
  obtain ⟨cached, counted⟩ := counted
  refine h.move counted fun c agree => ?_
  rw [arena_resolve, epoch_resolve]
  have before := agree.lookUps
  cases cached with
  | true =>
    exact { agree with lookUps := show c.cacheHits + 1 + c.cacheMisses = l.lookUps + 1 by omega }
  | false => exact { agree with lookUps := congrArg (· + 1) before }

/-- Subscriptions are no edges. -/
theorem Balanced.observers (h : s.Balanced l) (node : NodeId)
    (f : List SubscriptionId → List SubscriptionId) (subscribers : Nat) :
    Balanced l { s with
      arena := s.arena.modify node fun n => { n with observers := f n.observers }
      subscribers } := by
  let g : Node → Node := fun n => { n with observers := f n.observers }
  have edges : ∀ kind, (s.arena.modify node g).edges kind = s.arena.edges kind := fun kind =>
    total_of_row (row_modify (g := g) (fun _ => rfl) s.arena node)
  have size : (s.arena.modify node g).size = s.arena.size :=
    size_of_rows (row_modify (g := g) (fun _ => rfl) s.arena node)
  -- nothing is counted
  refine h.move (f := id) (by simp) fun c agree => ?_
  show c.Agree l (s.arena.modify node g).size ((s.arena.modify node g).edges .child)
    ((s.arena.modify node g).edges .link) _
  rw [edges, edges, size]
  exact agree

theorem Balanced.aside (h : s.Balanced l) (aside : s.Aside t) : t.Balanced l := by
  cases aside with
  | same => exact h
  | lock lock => exact h.lock lock
  | refused => exact h.refused
  | failed count => exact h.failed count
  | observers node f subscribers => exact h.observers node f subscribers

/-! ### Mutations -/

/-- Nodes stay where they are while new ones come up. -/
theorem live_insert {x : NodeId} (live : s.arena.Live x) (node : Node) :
    (s.insert node).arena.Live x := by
  obtain ⟨n, found⟩ := live
  have apart : x ≠ s.arena.nextId := by
    rintro rfl
    simp [get?_nextId] at found
  exact ⟨n, (get?_push _ _ _).trans (by rw [if_neg apart, found])⟩

theorem live_nextId (s : Store) (node : Node) : (s.insert node).arena.Live s.arena.nextId :=
  ⟨node, (get?_push _ _ _).trans (if_pos rfl)⟩

theorem live_makeChild {x parent child : NodeId} (live : s.arena.Live x)
    (hp : s.arena.Live parent) (hc : s.arena.Live child) (name : Identifier) :
    (s.makeChild parent child name).arena.Live x := by
  obtain ⟨n, found⟩ := live
  obtain ⟨above, hp⟩ := hp
  obtain ⟨below, hc⟩ := hc
  exact ⟨_, (becomes_attach hp hc name).live found⟩

theorem Balanced.settled (h : s.Balanced l) {parent : Option NodeId}
    (hp : ∀ p, parent = some p → s.arena.Live p) (hc : s.arena.Live id) (name : Identifier) :
    (s.settled parent id name).Balanced l := by
  cases parent with
  | none => exact h
  | some p => exact (h.makeChild (hp p rfl) hc name).invalidate

/-- The parts of a data element, one after the other; `x` is any node that was there before. -/
theorem Balanced.parts {data x : NodeId} (parts : List (Identifier × ElementKind × Option String)) :
    ∀ {s : Store}, s.Balanced l → s.arena.Live data → s.arena.Live x →
      (parts.foldl (createPart data) s).Balanced l ∧
        (parts.foldl (createPart data) s).arena.Live x := by
  induction parts with
  | nil => exact fun h _ live => ⟨h, live⟩
  | cons part rest ih =>
    intro s h owner live
    let node : Node := .fresh part.1 part.2.1 part.2.2 part.1.text
    have hp := live_insert owner node
    have hc := s.live_nextId node
    exact ih ((h.insert rfl).makeChild hp hc part.1) (live_makeChild hp hp hc part.1)
      (live_makeChild (live_insert live node) hp hc part.1)

theorem FreeUnder.live {parent : Option NodeId} {name : Identifier} {above : Option Node}
    (free : s.FreeUnder parent name above) (p : NodeId) (here : parent = some p) :
    s.arena.Live p := by
  subst here
  obtain ⟨n, found, -⟩ := free
  exact ⟨n, found⟩

/-- **A mutation that discards nothing keeps the balance**, with nothing new in the ledger. -/
theorem Balanced.apply {m : Mutation} {c : Change Answer} (h : s.Balanced l)
    (sound : s.arena.Sound root) (granted : m.apply s = .ok c t) (stays : ∀ id, m ≠ .discard id) :
    t.Balanced l := by
  cases m <;> obtain ⟨c', made, -⟩ := Request.map_ok.mp granted
  case create =>
    obtain ⟨name, above, -, free, -, rfl⟩ := create_ok.mp made
    exact (h.insert rfl).settled (fun p here => live_insert (free.live p here) _)
      (live_nextId s _) name
  case createData _ _ options =>
    obtain ⟨name, above, -, free, -, rfl⟩ := createData_ok.mp made
    -- whatever was there, the new element too, is there still when it has its parts
    let node : Node := .fresh name .data options.storage (newAddress above name)
    have bare : node.forward = [] := rfl
    have parts := fun {x} => Balanced.parts (x := x) options.parts (h.insert bare)
      (live_nextId s node)
    exact (parts (live_nextId s node)).1.settled
      (fun p here => (parts (live_insert (free.live p here) node)).2) (parts (live_nextId s node)).2
      name
  case add =>
    obtain ⟨above, below, hp, hc, -, -, -, -, -, -, rfl⟩ := add_ok.mp made
    exact (h.makeChild ⟨above, hp⟩ ⟨below, hc⟩ _).invalidate
  case remove =>
    obtain ⟨above, below, r, hp, -, found, isChild, -, -, rfl⟩ := remove_ok.mp made
    obtain ⟨inside, rfl⟩ := Node.mem_of_toward? found
    exact (h.unmakeChild sound.wired ⟨above, hp,
      List.mem_map_of_mem (List.mem_filter.mpr ⟨inside, isChild⟩)⟩).invalidate
  case link =>
    obtain ⟨holder, aim, name, found, -, -, -, -, -, -, -, rfl⟩ := link_ok.mp made
    exact (h.makeLink ⟨holder, found⟩ _ name).invalidate
  case unlink =>
    obtain ⟨holder, r, found, picked, isLink, -, rfl⟩ := unlink_ok.mp made
    exact (h.unmakeLink sound.wired ⟨holder, found,
      List.mem_map_of_mem (List.mem_filter.mpr ⟨mem_of_select picked, isLink⟩)⟩).invalidate
  case discard => exact absurd rfl (stays _)

end Store

end DeviceTree
