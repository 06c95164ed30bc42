/-
Places that are gone.

All that a store says is about nodes that are there: what it answers, what its nodes refer to, what
its cache remembers.  A place that a node has left is therefore never heard of again, for nobody
else gets it; and a mutation that is asked to work with it is refused.

* `Store.live_of_operand` -- what a granted mutation works with is there;
* `Session.live_of_answer` -- the nodes that an answer names are there, or new;
* `Session.forgets` -- nothing in a session speaks of a place that is gone;
* `places_once` -- the history of places along a run.
-/
import DeviceTree.Proofs.Location
import DeviceTree.Proofs.Places
import Mathlib

namespace DeviceTree

open Relation

/-! ### What is spoken of -/

/-- Both ends of an edge. -/
def Reference.ends (r : Reference) : List NodeId :=
  [r.source, r.target]

/-- The nodes to which the record of a node refers. -/
def Node.mentions (n : Node) : List NodeId :=
  n.parent.toList ++ (n.forward ++ n.inverse).flatMap Reference.ends

/-- The nodes that a snapshot names. -/
def Snapshot.places (s : Snapshot) : List NodeId :=
  s.id :: s.node.mentions

/-- The nodes that a finding names. -/
def Finding.places (f : Finding) : List NodeId :=
  match f.problem with
  | .noInverse id | .missingTarget id | .noForward id | .cycleThrough id => [f.node, id]
  | _ => [f.node]

/-- The nodes that an answer names. -/
def Answer.places : Answer → List NodeId
  | .node id => [id]
  | .maybeNode id => id.toList
  | .nodes ids => ids
  | .references edges => edges.flatMap Reference.ends
  | .maybeSnapshot snapshot => snapshot.elim [] Snapshot.places
  | .info i => [i.root]
  | .dump _ snapshots => snapshots.flatMap Snapshot.places
  | .verdict v => v.findings.flatMap Finding.places
  | _ => []

/-- The nodes that a mutation is to work with. -/
def Mutation.operands : Mutation → List NodeId
  | create parent _ _ _ | createData parent _ _ => parent.toList
  | add parent child | remove parent child => [parent, child]
  | link source target _ => [source, target]
  | unlink source (.target target) => [source, target]
  | unlink source (.named _) => [source]
  | discard node => [node]

namespace Arena

variable {a : Arena} {root : Identifier} {id other : NodeId} {n : Node} {r : Reference}

/-- A reference of a node leads from a node that is there to one that is there. -/
theorem Wired.live_of_ends (w : a.Wired) (found : a.get? id = some n)
    (mem : r ∈ n.forward ++ n.inverse) (ends : other ∈ r.ends) : ∃ m, a.get? other = some m := by
  simp only [Reference.ends, List.mem_cons, List.not_mem_nil, or_false] at ends
  rcases List.mem_append.mp mem with mem | mem
  · obtain ⟨-, source, m, live, -⟩ := w.forward found mem
    rcases ends with rfl | rfl
    · exact ⟨n, source ▸ found⟩
    · exact ⟨m, live⟩
  · obtain ⟨-, target, m, live, -⟩ := w.inverse found mem
    rcases ends with rfl | rfl
    · exact ⟨m, live⟩
    · exact ⟨n, target ▸ found⟩

/-- **What the record of a node refers to is there.** -/
theorem Sound.live_of_mentions (sound : a.Sound root) (found : a.get? id = some n)
    (mem : other ∈ n.mentions) : ∃ m, a.get? other = some m := by
  rcases List.mem_append.mp mem with parent | ends
  · have named : n.parent = some other := Option.mem_toList.mp parent
    obtain ⟨m, live, -⟩ := (parent_eq_some_iff sound.wired sound.parented found).mp named
    exact ⟨m, live⟩
  · obtain ⟨r, mem, ends⟩ := List.mem_flatMap.mp ends
    exact sound.wired.live_of_ends found mem ends

theorem Sound.live_of_snapshot (sound : a.Sound root) (found : a.get? id = some n)
    (mem : other ∈ (Snapshot.mk id n).places) : ∃ m, a.get? other = some m := by
  rcases List.mem_cons.mp mem with rfl | mem
  · exact ⟨n, found⟩
  · exact sound.live_of_mentions found mem

/-- The nodes below a node that is there are there. -/
theorem Sound.live_of_subtree (sound : a.Sound root) (found : a.get? id = some n)
    (mem : other ∈ a.subtree id) : ∃ m, a.get? other = some m := by
  rcases ReflTransGen.cases_tail (mem_subtree_iff.mp mem) with rfl | ⟨above, -, edge⟩
  · exact ⟨n, found⟩
  · exact sound.live_of_owns edge

theorem findings_of_sound (sound : a.Sound root) : a.findings root = [] :=
  findings_eq_nil_iff.mpr sound.intact

end Arena

open Arena

namespace Store

variable {s t : Store} {root : Identifier} {m : Mutation} {c : Change Answer} {id : NodeId}

/-- **What a granted mutation works with is there.** -/
theorem live_of_operand (w : s.arena.Wired) (h : m.apply s = .ok c t) (mem : id ∈ m.operands) :
    ∃ n, s.arena.get? id = some n := by
  have above : ∀ {parent : Option NodeId} {name above}, s.FreeUnder parent name above →
      id ∈ parent.toList → ∃ n, s.arena.get? id = some n := by
    intro parent name above free mem
    obtain rfl : parent = some id := Option.mem_toList.mp mem
    obtain ⟨n, found, -⟩ := free
    exact ⟨n, found⟩
  cases m <;> obtain ⟨c', granted, -⟩ := Request.map_ok.mp h
  case create =>
    obtain ⟨name, node, -, free, -⟩ := create_ok.mp granted
    exact above free mem
  case createData =>
    obtain ⟨name, node, -, free, -⟩ := createData_ok.mp granted
    exact above free mem
  case add =>
    obtain ⟨n, n', source, target, -⟩ := add_ok.mp granted
    simp only [Mutation.operands, List.mem_cons, List.not_mem_nil, or_false] at mem
    rcases mem with rfl | rfl
    exacts [⟨n, source⟩, ⟨n', target⟩]
  case remove =>
    obtain ⟨n, n', r, source, target, -⟩ := remove_ok.mp granted
    simp only [Mutation.operands, List.mem_cons, List.not_mem_nil, or_false] at mem
    rcases mem with rfl | rfl
    exacts [⟨n, source⟩, ⟨n', target⟩]
  case link =>
    obtain ⟨n, n', name, source, target, -⟩ := link_ok.mp granted
    simp only [Mutation.operands, List.mem_cons, List.not_mem_nil, or_false] at mem
    rcases mem with rfl | rfl
    exacts [⟨n, source⟩, ⟨n', target⟩]
  case unlink source selector =>
    obtain ⟨n, r, found, picked, -⟩ := unlink_ok.mp granted
    cases selector with
    | named name =>
      rw [Mutation.operands, List.mem_singleton] at mem
      exact ⟨n, mem ▸ found⟩
    | target target =>
      simp only [Mutation.operands, List.mem_cons, List.not_mem_nil, or_false] at mem
      rcases mem with rfl | rfl
      · exact ⟨n, found⟩
      · -- the link that is picked leads there
        obtain ⟨forward, rfl⟩ := Node.mem_of_toward? picked
        obtain ⟨-, -, m, live, -⟩ := w.forward found forward
        exact ⟨m, live⟩
  case discard node =>
    obtain ⟨n, found, -⟩ := discard_ok.mp granted
    rw [Mutation.operands, List.mem_singleton] at mem
    exact ⟨n, mem ▸ found⟩

/-- The only nodes that the answer to a mutation names are new. -/
theorem new_of_answer (h : m.apply s = .ok c t) (mem : id ∈ c.value.places) :
    id = s.arena.nextId := by
  by_cases creates : m.newborn = []
  · cases m <;> obtain ⟨c', -, rfl⟩ := Request.map_ok.mp h
    case create => cases creates
    case createData => cases creates
    all_goals cases mem
  · rw [answer_of_newborn h creates] at mem
    exact List.mem_singleton.mp mem

/-- Something about a node that is there. -/
theorem about_ok {f : Node → Answer} {answer : Answer} (h : s.about id f = .ok answer) :
    ∃ n, s.arena.get? id = some n ∧ answer = f n := by
  obtain ⟨n, fetched, rfl⟩ := Request.outcome_ok.mp h
  unfold Arena.fetch at fetched
  split at fetched
  · next m found => exact ⟨n, Except.ok.inj fetched ▸ found, rfl⟩
  · cases fetched

/-- **The nodes that the answer to a question names are there.** -/
theorem live_of_ask {q : Query} {answer : Answer} (sound : s.arena.Sound root)
    (h : s.ask q = .ok answer) (mem : id ∈ answer.places) : ∃ n, s.arena.get? id = some n := by
  have among : ∀ {x : NodeId} {n : Node} {refs : List Reference}, s.arena.get? x = some n →
      (∀ r ∈ refs, r ∈ n.forward ++ n.inverse) → id ∈ refs.flatMap Reference.ends →
      ∃ m, s.arena.get? id = some m := by
    intro x n refs found all mem
    obtain ⟨r, here, ends⟩ := List.mem_flatMap.mp mem
    exact sound.wired.live_of_ends found (all r here) ends
  cases q
  case child node name =>
    obtain rfl := Except.ok.inj h
    exact sound.wired.live_of_leads (leads_of_childNamed (Option.mem_toList.mp mem))
  case node x =>
    obtain rfl := Except.ok.inj h
    cases found : s.arena.get? x with
    | none =>
      rw [found] at mem
      cases mem
    | some n =>
      rw [found] at mem
      exact sound.live_of_snapshot found mem
  case parent =>
    obtain ⟨n, found, rfl⟩ := about_ok h
    exact sound.live_of_mentions found (List.mem_append_left _ mem)
  case forward =>
    obtain ⟨n, found, rfl⟩ := about_ok h
    exact among found (fun r mem => List.mem_append_left _ mem) mem
  case inverse =>
    obtain ⟨n, found, rfl⟩ := about_ok h
    exact among found (fun r mem => List.mem_append_right _ mem) mem
  case children =>
    obtain ⟨n, found, rfl⟩ := about_ok h
    exact among found (fun r mem => List.mem_append_left _ (List.mem_filter.mp mem).1) mem
  case links =>
    obtain ⟨n, found, rfl⟩ := about_ok h
    exact among found (fun r mem => List.mem_append_left _ (List.mem_filter.mp mem).1) mem
  case descendants =>
    obtain ⟨n, found, rfl⟩ := about_ok h
    exact sound.live_of_subtree found (List.mem_of_mem_tail mem)
  case info =>
    obtain rfl := Except.ok.inj h
    obtain ⟨n, found, -⟩ := sound.addressed.root
    exact ⟨n, List.mem_singleton.mp mem ▸ found⟩
  case dump =>
    obtain rfl := Except.ok.inj h
    obtain ⟨snapshot, listed, mem⟩ := List.mem_flatMap.mp mem
    exact sound.live_of_snapshot (mem_snapshots_iff.mp listed) mem
  -- the other answers name no node
  case contains | observerCount | counters =>
    obtain rfl := Except.ok.inj h
    cases mem
  all_goals
    obtain ⟨n, -, rfl⟩ := about_ok h
    cases mem

/-- A verification names no node: it finds nothing. -/
theorem places_verdict (sound : s.arena.Sound s.rootIdentifier) {v : Verdict}
    (h : s.verify.1 = .ok v) : (Answer.verdict v).places = [] := by
  have nothing := findings_of_sound sound
  unfold Store.verify at h
  split at h
  · cases h
  · obtain rfl := Except.ok.inj h
    simp [Answer.places, Arena.verdict, nothing]

end Store

/-! ### Sessions -/

open Store DeviceTree.Tree

namespace Session

variable {options : Options} {s : Session Empty} {a : Act Empty} {id : NodeId}

/-- An act that carries out no mutation takes no place. -/
theorem nextId_of_unasked (unasked : s.asked a = none) :
    (s.act a).2.tree.store.arena.nextId = s.tree.store.arena.nextId := by
  rcases store_unasked unasked with ⟨address, rfl⟩ | aside
  · exact congrArg nextId (arena_resolve s.tree.store address)
  · exact aside.nextId

theorem answer_start {begun : Except Error Unit × Store} {tx : Transaction} {answer : Answer}
    (h : (s.start begun tx).answer = .ok answer) : answer = .count s.transactions.size := by
  unfold start at h
  split at h
  · cases h
  · exact (Except.ok.inj h).symm

/-- **The nodes that an answer names are there, or new.** -/
theorem live_of_answer (tidy : s.tree.store.Tidy options.rootIdentifier) {c : Change Answer}
    (granted : (s.act a).1 = .ok c) (mem : id ∈ c.value.places) :
    (∃ n, s.tree.store.arena.get? id = some n) ∨ id = s.tree.store.arena.nextId := by
  have sound := tidy.upright.sound
  cases carried : s.asked a with
  | some m =>
    -- a mutation names the node that it creates
    right
    rcases act_asked carried with ⟨lock, c, t, c', applied, outcome, value, -⟩ | ⟨e, outcome, -⟩
    · obtain rfl := Except.ok.inj (granted.symm.trans outcome)
      exact new_of_answer (s := { s.tree.store with lock }) applied (value ▸ mem)
    · cases granted.symm.trans outcome
  | none =>
    left
    cases a with
    | tree a =>
      cases a with
      | mutate m => cases carried
      | resolve address =>
        obtain rfl := Except.ok.inj granted
        have found : (s.tree.store.resolve address).1 = some id := Option.mem_toList.mp mem
        rw [resolve_fst tidy.coherent] at found
        exact live_of_walk sound found
      | ask query =>
        obtain ⟨answer, asked, rfl⟩ := Request.outcome_ok.mp granted
        exact live_of_ask sound asked mem
      | verify =>
        obtain ⟨v, found, rfl⟩ := Request.outcome_ok.mp granted
        rw [places_verdict sound found] at mem
        cases mem
      | subscribe node observer =>
        simp only [act, Tree.act, subscribe_eq] at granted
        cases fetched : s.tree.store.arena.fetch node with
        | error e => simp [fetched, Except.map] at granted
        | ok n =>
          simp only [fetched, Except.map, Except.ok.injEq] at granted
          subst granted
          cases mem
      | unsubscribe node id =>
        obtain rfl := Except.ok.inj granted
        cases mem
      | turn id reaction =>
        obtain rfl := Except.ok.inj granted
        cases mem
      | fail count =>
        obtain rfl := Except.ok.inj granted
        cases mem
    | beginWrite =>
      obtain ⟨answer, begun, rfl⟩ := Request.outcome_ok.mp granted
      rw [answer_start begun] at mem
      cases mem
    | beginRead =>
      obtain ⟨answer, begun, rfl⟩ := Request.outcome_ok.mp granted
      rw [answer_start begun] at mem
      cases mem
    | mutate number m =>
      unfold Session.asked at carried
      unfold act at granted
      dsimp only at carried granted
      split at granted
      · next tx found => simp [found] at carried
      · obtain rfl := Except.ok.inj granted
        cases mem
    | release number | forget number =>
      unfold act at granted
      dsimp only at granted
      split at granted <;> obtain rfl := Except.ok.inj granted <;> cases mem
    | clear =>
      obtain rfl := Except.ok.inj granted
      cases mem

/-- The places that an act takes. -/
structure Allots (s : Session Empty) (a : Act Empty) : Prop where
  /-- A mutation that is granted takes the next places, one for each element that it creates; there
  they stand, and the answer names the first. -/
  granted : ∀ m c, s.asked a = some m → (s.act a).1 = .ok c →
    (s.act a).2.tree.store.arena.nextId.index =
        s.tree.store.arena.nextId.index + m.newborn.length ∧
      ((s.act a).2.tree.store.arena.row Node.nature).drop s.tree.store.arena.nextId.index =
        m.newborn.map some ∧
      (m.newborn ≠ [] → c.value = .node s.tree.store.arena.nextId)
  /-- One that is refused takes none. -/
  refused : ∀ m e, s.asked a = some m → (s.act a).1 = .error e →
    (s.act a).2.tree.store.arena = s.tree.store.arena
  /-- Nothing else takes any. -/
  other : s.asked a = none → (s.act a).2.tree.store.arena.nextId = s.tree.store.arena.nextId

theorem allots (s : Session Empty) (a : Act Empty) : s.Allots a where
  granted m c asked ok := by
    rcases act_asked asked with ⟨lock, c', t, c'', applied, outcome, value, left⟩ | ⟨e, outcome, -⟩
    · obtain rfl := Except.ok.inj (ok.symm.trans outcome)
      obtain ⟨size, row⟩ := newborn_of_apply applied
      rw [left, value]
      exact ⟨size, row, answer_of_newborn (s := { s.tree.store with lock }) applied⟩
    · cases ok.symm.trans outcome
  refused m e asked refused := by
    rcases act_asked asked with ⟨lock, c, t, c', -, outcome, -⟩ | ⟨e', -, left⟩
    · cases refused.symm.trans outcome
    · exact left
  other := nextId_of_unasked

/-- What a discard takes away has left its place. -/
theorem spent_of_discard (sound : s.tree.store.arena.Sound s.tree.store.rootIdentifier)
    {x : NodeId} {c : Change Answer} (asked : s.asked a = some (.discard x))
    (ok : (s.act a).1 = .ok c) (mem : id ∈ s.tree.store.arena.subtree x) :
    (s.act a).2.tree.store.arena.Spent id := by
  rcases act_asked asked with ⟨lock, c', t, c'', applied, -, -, left⟩ | ⟨e, outcome, -⟩
  · obtain ⟨n, granted, -⟩ := Request.map_ok.mp applied
    obtain ⟨node, found, -, -, -, -, rfl⟩ := discard_ok.mp granted
    obtain ⟨m, live⟩ := sound.live_of_subtree found mem
    refine left ▸ ⟨?_, ?_⟩
    · rw [size_discarded]
      exact index_lt_of_get? live
    · exact (vacated_members _ id).trans (if_pos mem)
  · cases ok.symm.trans outcome

/-- Nothing in a session speaks of a place. -/
structure Forgets (id : NodeId) (s : Session Empty) : Prop where
  gone : s.tree.store.arena.get? id = none
  /-- No node refers to it. -/
  mentions : ∀ other n, s.tree.store.arena.get? other = some n → id ∉ n.mentions
  /-- No address is remembered to lead there. -/
  cache : ∀ key, (key, id) ∉ s.tree.store.cache.entries
  /-- No answer names it, be it to a look-up, to a question or to a creation. -/
  answers : ∀ a c, (s.act a).1 = .ok c → id ∉ c.value.places
  /-- No mutation works with it, on the tree or in a transaction. -/
  refused : ∀ m : Mutation, id ∈ m.operands →
    (∀ answer, (s.tree.perform (.mutate m)).value ≠ .ok answer) ∧
      ∀ (tx : WriteTransaction) answer, (tx.perform m s.tree.store).1 ≠ .ok answer
  /-- Nobody can subscribe there. -/
  unheard : ∀ observer, s.tree.subscribe id observer = .error (.noSuchNode id)

theorem forgets (tidy : s.tree.store.Tidy options.rootIdentifier)
    (spent : s.tree.store.arena.Spent id) : s.Forgets id := by
  have sound := tidy.upright.sound
  have dead : ¬∃ n, s.tree.store.arena.get? id = some n := by
    rintro ⟨n, found⟩
    rw [spent.2] at found
    cases found
  have refused : ∀ lock {m : Mutation} {c t}, id ∈ m.operands →
      m.apply { s.tree.store with lock } ≠ .ok c t :=
    fun lock _ _ _ mem granted =>
      dead (live_of_operand (s := { s.tree.store with lock }) sound.wired granted mem)
  refine ⟨spent.2, fun other n found mem => dead (sound.live_of_mentions found mem),
    fun key mem => dead (live_of_walk sound (tidy.coherent key id mem)), ?_, ?_, ?_⟩
  · intro a c granted mem
    rcases live_of_answer tidy granted mem with live | new
    · exact dead live
    · exact absurd spent.1 (by simp [new, nextId])
  · intro m mem
    refine ⟨fun answer ok => ?_, fun tx answer ok => ?_⟩
    · obtain ⟨c, t, attempted, -⟩ := attempt_of_perform ok
      have admitted : (s.tree.store.exclusively m.apply).1 = .ok c := congrArg Prod.fst attempted
      rcases exclusively_apply s.tree.store m with ⟨lock, c', u, granted, -⟩ | ⟨e, outcome, -⟩
      · exact refused lock mem granted
      · cases outcome.symm.trans admitted
    · rcases tx.perform_apply s.tree.store m with ⟨c, t, granted, -⟩ | ⟨e, outcome, -⟩
      · exact refused s.tree.store.lock mem granted
      · cases outcome.symm.trans ok
  · intro observer
    rw [subscribe_eq, Arena.fetch, spent.2]
    rfl

end Session

/-- **Places are handed out once.**  Every node stands at a place before the next one; a mutation
that is granted takes the next places for the elements that it creates, and nothing else takes any.
As long as a node is there it keeps its name, its kind and its attachment.  Where a node has left,
be it because it was discarded, nobody else will ever stand, and from then on nothing refers to it,
no address leads to it, no answer names it and no mutation works with it. -/
theorem places_once (options : Options) (s : Session Empty) (h : s.Reachable options) :
    (∀ id n, s.tree.store.arena.get? id = some n →
      id.index < s.tree.store.arena.nextId.index) ∧
    (∀ a, s.Allots a) ∧
    (∀ s' id n m, s.Later s' → s.tree.store.arena.get? id = some n →
      s'.tree.store.arena.get? id = some m →
        m.identifier = n.identifier ∧ m.kind = n.kind ∧ m.attachment = n.attachment) ∧
    (∀ a x c, s.asked a = some (.discard x) → (s.act a).1 = .ok c →
      ∀ id ∈ s.tree.store.arena.subtree x, ∀ s', (s.act a).2.Later s' → s'.Forgets id) ∧
    ∀ id, s.tree.store.arena.Spent id → ∀ s', s.Later s' → s'.Forgets id := by
  have forgotten : ∀ {u s' : Session Empty} {id}, u.Reachable options →
      u.tree.store.arena.Spent id → u.Later s' → s'.Forgets id := by
    intro u s' id reached spent later
    have tidy := tidy_of_reachable (reached.later later)
    exact Session.forgets tidy (spent.ages (Session.ages_of_later later))
  refine ⟨fun id n found => index_lt_of_get? found, s.allots, ?_, ?_, ?_⟩
  · intro s' id n m later found found'
    obtain ⟨n', before, same⟩ :=
      (Session.ages_of_later later).same found' (index_lt_of_get? found)
    obtain rfl := Option.some.inj (found.symm.trans before)
    exact Node.nature_eq_iff.mp same
  · intro a x c asked ok id mem s' later
    have sound := (tidy_of_reachable h).upright.sound
    exact forgotten (h.act a) (Session.spent_of_discard sound asked ok mem) later
  · exact fun id spent s' later => forgotten h spent later

/-- A session in which a rack was made that hangs nowhere, with a shelf below it. -/
def Session.racked : Session Empty :=
  let new : Session Empty := ⟨.ofStore .standard, #[]⟩
  let rack := new.next (.perform (.mutate (.create none "rack" .group none)))
  rack.next (.perform (.mutate (.create (some ⟨1⟩) "shelf" .data none)))

/-- When the rack is discarded, its shelf is gone for good; the next rack stands at another place.
-/
theorem places_once_rack :
    let scrap : Session.Act Empty := .tree (.mutate (.discard ⟨1⟩))
    let again : Session.Act Empty := .tree (.mutate (.create none "rack" .group none))
    let scrapped := (Session.racked.act scrap).2
    Session.racked.Reachable .standard ∧ (Session.racked.act scrap).1 = .ok ⟨.count 2, none⟩ ∧
      (scrapped.act again).1 = .ok ⟨.node ⟨3⟩, none⟩ ∧ (scrapped.act again).2.Forgets ⟨2⟩ := by
  intro scrap again scrapped
  have reached : Session.racked.Reachable .standard :=
    ((Session.Reachable.fresh rfl).next _).next _
  have ok : (Session.racked.act scrap).1 = .ok ⟨.count 2, none⟩ := by cbv
  have created : (scrapped.act again).1 = .ok ⟨.node ⟨3⟩, none⟩ := by cbv
  have below : Session.racked.tree.store.arena.Owns ⟨1⟩ ⟨2⟩ := of_decide_eq_true (by cbv)
  obtain ⟨-, -, -, discarded, -⟩ := places_once .standard Session.racked reached
  exact ⟨reached, ok, created, discarded scrap ⟨1⟩ _ rfl ok ⟨2⟩
    (mem_subtree_iff.mpr (.single below)) _ (.act again (.refl scrapped))⟩

end DeviceTree
