/-
Conservation of what is counted.

Edges are counted when they are made and when they are unmade, but a discard lets nodes leave with
edges that nobody unmakes: the child edges within the subtree, one for each node but the topmost,
and the links from one node of it to another.  Links that lead out of it are unmade first, and links
that lead into it forbid the discard.  With these taken off, the counters tell at every point of
every run how many nodes and edges there are.

* `Arena.Sound.length_owned` -- the child edges within a subtree;
* `Store.Balanced.discard` -- what a discard does to the balance;
* `Session.balanced_act`, `Session.balanced_after` -- what an act preserves, and a run;
* `counters_conserved` -- all of it.
-/
import DeviceTree.Proofs.Balance
import DeviceTree.Proofs.Course
import DeviceTree.Proofs.Spent

namespace DeviceTree

open Relation Arena Store

/-- The targets of the links that start at the node. -/
def Node.linkIds (n : Node) : List NodeId :=
  n.links.map Reference.target

theorem Node.childIds_sublist (n : Node) : n.childIds.Sublist n.targets :=
  List.filter_sublist.map _

theorem Node.linkIds_sublist (n : Node) : n.linkIds.Sublist n.targets :=
  List.filter_sublist.map _

theorem Node.length_linkIds (n : Node) : n.linkIds.length = n.edges .link := by
  rw [linkIds, List.length_map, length_links]

/-! ### The edges within a subtree -/

namespace Arena

variable {a b : Arena} {root : Identifier} {id x y : NodeId} {members : List NodeId}
  {next : Node → List NodeId}

/-- The links from one of these nodes to another. -/
def linksWithin (a : Arena) (nodes : List NodeId) : List Reference :=
  nodes.flatMap fun id =>
    ((a.get? id).elim [] Node.links).filter fun r => nodes.contains r.target

/-- Where a place leads. -/
def aims (next : Node → List NodeId) (a : Arena) (id : NodeId) : List NodeId :=
  (a.get? id).elim [] next

theorem mem_aims_iff : y ∈ a.aims next x ↔ a.Step next x y := by
  rw [aims, Step]
  cases a.get? x <;> simp

theorem Wired.nodup_aims (w : a.Wired) (part : ∀ n, (next n).Sublist n.targets) (id : NodeId) :
    (a.aims next id).Nodup := by
  rw [aims]
  cases found : a.get? id with
  | none => exact List.nodup_nil
  | some n => exact (w.targets found).sublist (part n)

/-- **Every node of a subtree but the topmost is the child of one of them.** -/
theorem Sound.length_owned (sound : a.Sound root) (nodup : members.Nodup)
    (mem : ∀ x, x ∈ members ↔ ReflTransGen a.Owns id x) (top : ∀ x, ¬a.Owns x id) :
    (members.flatMap (a.aims Node.childIds)).length + 1 = members.length := by
  have owned : ∀ y, y ∈ members.flatMap (a.aims Node.childIds) ↔
      ∃ x, ReflTransGen a.Owns id x ∧ a.Owns x y := by
    intro y
    simp only [List.mem_flatMap, mem_aims_iff, mem]
    rfl
  have once : (members.flatMap (a.aims Node.childIds)).Nodup := by
    refine List.nodup_flatMap.mpr ⟨fun x _ => ?_, nodup.imp fun differ y hx hx' => differ ?_⟩
    · exact sound.wired.nodup_aims Node.childIds_sublist x
    -- what two of them lead to would have two owners
    · exact owner_unique sound.wired sound.parented (mem_aims_iff.mp hx) (mem_aims_iff.mp hx')
  have apart : id ∉ members.flatMap (a.aims Node.childIds) := by
    rw [owned]
    rintro ⟨x, -, up⟩
    exact top x up
  have perm : (id :: members.flatMap (a.aims Node.childIds)).Perm members := by
    refine (List.perm_ext_iff_of_nodup (List.nodup_cons.mpr ⟨apart, once⟩) nodup).mpr fun y => ?_
    rw [List.mem_cons, owned, mem]
    constructor
    · rintro (rfl | ⟨x, path, last⟩)
      · exact .refl
      · exact path.tail last
    · intro path
      rcases path.cases_tail with same | step
      · exact .inl same
      · exact .inr step
  exact perm.length_eq

/-- Once the links that lead out are unmade, the links of the members are those within. -/
theorem Trimmed.length_linked (trimmed : Trimmed a b root fun x y => x ∈ members ∧ y ∉ members)
    (w : a.Wired) :
    (members.flatMap (b.aims Node.linkIds)).length = (a.linksWithin members).length := by
  rw [linksWithin, List.length_flatMap, List.length_flatMap]
  refine congrArg List.sum (List.map_congr_left fun x inside => ?_)
  -- both lists are without repetition, so that it is enough to look at what they hold
  have perm : (b.aims Node.linkIds x).Perm ((a.aims Node.linkIds x).filter members.contains) := by
    have once := trimmed.sound.wired.nodup_aims Node.linkIds_sublist x
    have once' := w.nodup_aims Node.linkIds_sublist x
    refine (List.perm_ext_iff_of_nodup once (once'.filter _)).mpr fun y => ?_
    rw [List.mem_filter, mem_aims_iff, mem_aims_iff, List.contains_iff_mem]
    refine trimmed.links.trans (and_congr_right fun _ => ?_)
    rw [not_and, not_not]
    exact ⟨fun kept => kept inside, fun mem _ => mem⟩
  rw [perm.length_eq, aims]
  cases a.get? x with
  | none => rfl
  | some n =>
    rw [Option.elim_some, Option.elim_some, Node.linkIds, List.filter_map, List.length_map]
    rfl

end Arena

/-! ### Discards -/

namespace Store

variable {s t : Store} {l : Ledger} {root : Identifier} {id : NodeId} {members : List NodeId}

theorem Balanced.unmakeLinks {targets : List NodeId} (nodup : targets.Nodup) :
    ∀ {s : Store}, s.Balanced l → s.arena.Sound root →
      (∀ target ∈ targets, s.arena.LinksTo id target) →
      (targets.foldl (fun s target => s.unmakeLink id target) s).Balanced l := by
  induction targets with
  | nil => exact fun h _ _ => h
  | cons first rest ih =>
    intro s h sound there
    obtain ⟨apart, nodup⟩ := List.nodup_cons.mp nodup
    have trimmed := trimmed_unlink sound id first
    refine ih nodup (h.unmakeLink sound.wired (there first List.mem_cons_self)) trimmed.sound ?_
    -- the links to the others are there still
    intro target mem
    refine trimmed.links.mpr ⟨there target (List.mem_cons_of_mem _ mem), ?_⟩
    rintro ⟨-, rfl⟩
    exact apart mem

theorem Balanced.releaseLinks (h : s.Balanced l) (sound : s.arena.Sound root)
    (members : List NodeId) (id : NodeId) : (s.releaseLinks members id).Balanced l := by
  unfold Store.releaseLinks
  cases found : s.arena.get? id with
  | none => exact h
  | some n =>
    refine Balanced.unmakeLinks ?_ h sound fun target mem => ?_
    · exact (sound.wired.targets found).sublist (List.filter_sublist.map _)
    -- what is released is a link of the node
    · obtain ⟨r, picked, rfl⟩ := List.mem_map.mp mem
      obtain ⟨inside, outgoing⟩ := List.mem_filter.mp picked
      have isLink : r.isLink = true := (Bool.and_eq_true _ _ ▸ outgoing).1
      exact ⟨n, found, List.mem_map_of_mem (List.mem_filter.mpr ⟨inside, isLink⟩)⟩

theorem Balanced.release (members visited : List NodeId) : ∀ {s : Store}, s.Balanced l →
    s.arena.Sound root → (visited.foldl (Store.releaseLinks members) s).Balanced l := by
  induction visited with
  | nil => exact fun h _ => h
  | cons id rest ih =>
    intro s h sound
    exact ih (h.releaseLinks sound members id) (trimmed_releaseLinks sound members id).sound

/-- With the nodes that leave go the edges that start at them. -/
theorem Balanced.vacateAll {gone : List NodeId} (nodup : gone.Nodup) :
    ∀ {s : Store} {l : Ledger}, s.Balanced l → (∀ id ∈ gone, s.arena.Live id) →
      (gone.foldl Store.vacate s).Balanced
        { l with
          children := l.children + (gone.flatMap (s.arena.aims Node.childIds)).length
          links := l.links + (gone.flatMap (s.arena.aims Node.linkIds)).length } := by
  induction gone with
  | nil => exact fun h _ => h
  | cons id rest ih =>
    intro s l h live
    obtain ⟨fresh, nodup⟩ := List.nodup_cons.mp nodup
    obtain ⟨n, found⟩ := live id List.mem_cons_self
    have others : ∀ x ∈ rest, (s.vacate id).arena.get? x = s.arena.get? x := fun x mem =>
      get?_vacate_of_ne (ne_of_mem_of_not_mem mem fresh) s
    have later := ih nodup (h.vacate found) fun x mem => by
      rw [Live, others x mem]
      exact live x (List.mem_cons_of_mem _ mem)
    -- the others lead where they led
    have same : ∀ next, rest.flatMap ((s.vacate id).arena.aims next) =
        rest.flatMap (s.arena.aims next) := fun next =>
      List.flatMap_congr fun x mem => by rw [aims, aims, others x mem]
    have here : ∀ next, s.arena.aims next id = next n := fun next => by
      rw [aims, found, Option.elim_some]
    rw [same, same] at later
    rw [List.foldl_cons, List.flatMap_cons, List.flatMap_cons, List.length_append,
      List.length_append, here, here, n.length_childIds, n.length_linkIds, ← Nat.add_assoc,
      ← Nat.add_assoc]
    exact later

theorem live_released (sound : s.arena.Sound root) {node : Node}
    (found : s.arena.get? id = some node) {x : NodeId} (mem : x ∈ s.arena.subtree id) :
    (List.foldl (Store.releaseLinks members) s members).arena.Live x := by
  obtain ⟨n, there⟩ := sound.live_of_subtree found mem
  have row := row_released (Node.unwired_const ()) members members s
  obtain ⟨m, still, -⟩ := get?_of_row (f := fun _ => ()) ⟨[], by rw [row, List.append_nil]⟩ there
  exact ⟨m, still⟩

/-- **A discard buries the edges within the subtree**, and nothing else that is not counted. -/
theorem Balanced.discard {c : Change Nat} (h : s.Balanced l) (sound : s.arena.Sound root)
    (granted : Store.discard id s = .ok c t) :
    t.Balanced
      { l with
        children := l.children + (c.value - 1)
        links := l.links + (s.arena.linksWithin (s.arena.subtree id)).length } := by
  obtain ⟨node, found, -, orphan, -, rfl, rfl⟩ := discard_ok.mp granted
  have trimmed := trimmed_members (s.arena.subtree id) (s.arena.subtree id) sound
  have nodup : (s.arena.subtree id).Nodup := nodup_reachable id
  -- the links that lead out are unmade and counted, and then the nodes leave with the others
  have vacated := (h.release (s.arena.subtree id) _ sound).vacateAll nodup fun x mem =>
    live_released sound found mem
  have owns : (List.foldl (Store.releaseLinks (s.arena.subtree id)) s
      (s.arena.subtree id)).arena.Owns = s.arena.Owns :=
    funext₂ fun _ _ => propext trimmed.owns
  have children := trimmed.sound.length_owned nodup
    (fun x => by rw [owns, mem_subtree_iff]) (fun x => owns ▸ sound.not_owned found orphan)
  rw [trimmed.length_linked sound.wired, Nat.eq_sub_of_add_eq children] at vacated
  exact vacated.invalidate

end Store

/-! ### Runs -/

/-- A discard that was granted. -/
structure Burial where
  /-- How many nodes it took away, as it has answered. -/
  nodes : Nat
  /-- How many links led from one of these nodes to another. -/
  links : Nat

/-- The discard that a mutation is, if it is one and was granted. -/
def Mutation.burial? (m : Mutation) (outcome : Except Error (Change Answer)) (a : Arena) :
    Option Burial :=
  match m, outcome with
  | .discard id, .ok ⟨.count nodes, _⟩ => some ⟨nodes, (a.linksWithin (a.subtree id)).length⟩
  | _, _ => none

instance : Add Ledger :=
  ⟨fun l l' => ⟨l.lookUps + l'.lookUps, l.children + l'.children, l.links + l'.links⟩⟩

theorem Ledger.add_assoc (k l m : Ledger) : k + l + m = k + (l + m) := by
  ext <;> exact Nat.add_assoc _ _ _

theorem Ledger.zero_add (l : Ledger) : ⟨0, 0, 0⟩ + l = l := by
  ext <;> exact Nat.zero_add _

namespace Session

variable {s new : Session Empty} {options : Options} {l : Ledger} {a : Act Empty}

/-- The act looks up an address. -/
def Act.looksUp : Act Empty → Bool
  | .tree (.resolve _) => true
  | _ => false

theorem Act.looksUp_iff : a.looksUp = true ↔ ∃ address, a = .tree (.resolve address) := by
  constructor
  · intro looks
    cases a with
    | tree a =>
      cases a with
      | resolve address => exact ⟨address, rfl⟩
      | _ => cases looks
    | _ => cases looks
  · rintro ⟨address, rfl⟩
    rfl

/-- The discard that an act carries out, if it does and it was granted. -/
def burial? (s : Session Empty) (a : Act Empty) : Option Burial :=
  (s.asked a).bind fun m => m.burial? (s.act a).1 s.tree.store.arena

/-- The discards that were granted in a row of acts. -/
def burials : Session Empty → List (Act Empty) → List Burial
  | _, [] => []
  | s, a :: rest => (s.burial? a).toList ++ burials (s.act a).2 rest

/-- What no counter tells of a row of acts: how often it looks up an address, one child edge less
than the nodes for each discard, and the links within what was discarded. -/
def ledger (s : Session Empty) (row : List (Act Empty)) : Ledger :=
  { lookUps := row.countP Act.looksUp
    children := ((s.burials row).map fun b => b.nodes - 1).sum
    links := ((s.burials row).map Burial.links).sum }

theorem ledger_cons (s : Session Empty) (a : Act Empty) (rest : List (Act Empty)) :
    s.ledger (a :: rest) = s.ledger [a] + (s.act a).2.ledger rest := by
  ext
  · show ([a] ++ rest).countP _ = _
    exact List.countP_append
  · simp [ledger, burials]; rfl
  · simp [ledger, burials]; rfl

theorem ledger_single (s : Session Empty) (a : Act Empty) :
    s.ledger [a] = ⟨if a.looksUp then 1 else 0, (s.burial? a).elim 0 fun b => b.nodes - 1,
      (s.burial? a).elim 0 Burial.links⟩ := by
  ext
  · exact List.countP_singleton
  · cases found : s.burial? a <;> simp [ledger, burials, found]
  · cases found : s.burial? a <;> simp [ledger, burials, found]

/-- A mutation that is granted is entered in the ledger if it is a discard. -/
theorem balanced_mutation {m : Mutation} {c c' : Change Answer} {s t : Store} {root : Identifier}
    (h : s.Balanced l) (sound : s.arena.Sound root) (granted : m.apply s = .ok c t)
    (value : c'.value = c.value) :
    let burial := m.burial? (.ok c') s.arena
    t.Balanced (l + ⟨0, burial.elim 0 fun b => b.nodes - 1, burial.elim 0 Burial.links⟩) := by
  -- what a discard answers is the number of nodes that it took away
  by_cases discards : ∃ id, m = .discard id
  · obtain ⟨id, rfl⟩ := discards
    obtain ⟨c'', made, rfl⟩ := Request.map_ok.mp granted
    obtain ⟨answer, event⟩ := c'
    obtain rfl : answer = .count c''.value := value
    exact h.discard sound made
  · have kept := h.apply sound granted fun id same => discards ⟨id, same⟩
    cases m with
    | discard id => exact absurd ⟨id, rfl⟩ discards
    | _ => exact kept

/-- **What one act preserves.** -/
theorem balanced_act (sound : s.tree.store.arena.Sound s.tree.store.rootIdentifier)
    (h : s.tree.store.Balanced l) (a : Act Empty) :
    (s.act a).2.tree.store.Balanced (l + s.ledger [a]) := by
  rw [ledger_single, burial?]
  cases asked : s.asked a with
  | none =>
    cases looks : a.looksUp with
    | true =>
      obtain ⟨address, rfl⟩ := Act.looksUp_iff.mp looks
      exact h.resolve address
    | false =>
      rcases store_unasked asked with ⟨address, rfl⟩ | aside
      · cases looks
      · exact h.aside aside
  | some m =>
    have looks : a.looksUp = false := by
      rw [← Bool.not_eq_true, Act.looksUp_iff]
      rintro ⟨address, rfl⟩
      cases asked
    rw [looks, if_neg Bool.false_ne_true, Option.bind_some]
    rcases store_asked asked with ⟨before, after, c, t, c', granted, outcome, value, left⟩ |
      ⟨e, outcome, left⟩
    · rw [outcome, left]
      exact (balanced_mutation (h.lock before) sound granted value).lock after
    -- a discard that is refused buries nothing
    · have none : m.burial? (s.act a).1 s.tree.store.arena = none := by
        rw [outcome]
        cases m <;> rfl
      rw [none]
      rcases left with left | ⟨lock, left⟩
      · rw [left]
        exact h.refused
      · rw [left]
        exact h.lock lock

/-- **What a run preserves.** -/
theorem balanced_after (reached : s.Reachable options) (h : s.tree.store.Balanced l)
    (row : List (Act Empty)) : (s.after row).tree.store.Balanced (l + s.ledger row) := by
  induction row generalizing s l with
  | nil => exact h
  | cons a rest ih =>
    have sound := (Store.upright_of_reachable reached).sound
    rw [ledger_cons, ← Ledger.add_assoc]
    exact ih (reached.act a) (balanced_act sound h a)

end Session

open Session

/-- **The counters tell what is there.**  Of a new tree with counters, let any row of acts be done,
of callers, observers and transactions alike.  By then the elements that were created and the root
are those that were discarded and the nodes that are there; the child edges that were made are those
that were unmade, those that are there, and one less than the answer for each discard that was
granted; the links that were made are those that were unmade, those that are there, and those that
led from one node of a discarded subtree to another.  The cache was invalidated once for each of its
epochs, and hits and misses are together as many as look-ups.  So it is at the end of a run of
steps, when the session is closed, and at every point before that. -/
theorem counters_conserved (options : Options) (counting : options.counting = true)
    (new : Session Empty) (accepted : Session.ofOptions options = .ok new) :
    (∀ row, (new.after row).tree.store.Balanced (new.ledger row)) ∧
      ∀ steps, (new.run steps).tree.store.Balanced (new.ledger (new.chronicle steps)) ∧
        (new.run steps).close.session.tree.store.Balanced
          (new.ledger (new.chronicle steps ++ (new.run steps).ending)) := by
  have every : ∀ row, (new.after row).tree.store.Balanced (new.ledger row) := by
    intro row
    obtain ⟨root, -, fresh⟩ := Invariant.ofRoot_of_fresh accepted
    have start : new.tree.store.Balanced ⟨0, 0, 0⟩ := fresh ▸ balanced_ofRoot counting root
    have later := balanced_after (.fresh accepted) start row
    rwa [Ledger.zero_add] at later
  refine ⟨every, fun steps => ⟨?_, ?_⟩⟩
  · have ended := every (new.chronicle steps)
    rwa [after_chronicle] at ended
  · have ended := every (new.chronicle steps ++ (new.run steps).ending)
    rwa [Session.after_append, after_chronicle, after_ending] at ended

/-- A rack that hangs nowhere, with a shelf and a lamp, a link from the one to the other and a link
to the root, is looked for and then discarded. -/
def Session.scrapping : List (Session.Act Empty) :=
  [.tree (.mutate (.create none "rack" .group none)),
    .tree (.mutate (.create (some ⟨1⟩) "shelf" .group none)),
    .tree (.mutate (.create (some ⟨1⟩) "lamp" .data none)),
    .tree (.mutate (.link ⟨2⟩ ⟨3⟩ (some "light"))),
    .tree (.mutate (.link ⟨1⟩ .root (some "home"))),
    .tree (.resolve "/rack"),
    .tree (.mutate (.discard ⟨1⟩))]

/-- Three nodes come and go: two child edges and a link are buried with them, while the link to the
root is counted as unmade. -/
theorem counters_conserved_scrap :
    let new : Session Empty := ⟨.ofStore (.ofRoot .counted ⟨"device", rfl⟩), #[]⟩
    Options.counted.counting = true ∧ Session.ofOptions .counted = .ok new ∧
      new.ledger scrapping = ⟨1, 2, 1⟩ ∧ (new.after scrapping).tree.store.Balanced ⟨1, 2, 1⟩ ∧
      (new.after scrapping).tree.store.counters = some ⟨3, 3, 2, 0, 2, 1, 0, 1, 5, 0, 0⟩ := by
  intro new
  have ledger : new.ledger scrapping = ⟨1, 2, 1⟩ := by cbv
  have counters : (new.after scrapping).tree.store.counters =
    some ⟨3, 3, 2, 0, 2, 1, 0, 1, 5, 0, 0⟩ := by cbv
  obtain ⟨every, -⟩ := counters_conserved .counted rfl new rfl
  exact ⟨rfl, rfl, ledger, ledger ▸ every scrapping, counters⟩

end DeviceTree
