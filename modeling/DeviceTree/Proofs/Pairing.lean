/-
How far verification vouches for the pairing of references.

Both halves of every edge should be kept once, each at its own end (`Arena.Paired`).  Verification
looks for the other half of each reference that it comes upon, and asks of a forward reference
alone whether it is kept where it belongs.  An inverse reference may therefore be kept twice, or by
a node that the edge does not lead to, and nothing is found.

* `Intact.inverse_once` -- what is sure about an inverse reference: it has exactly one forward half;
* `Intact.spare` -- a further inverse half of a link goes unnoticed wherever it is put;
* `Intact.paired_iff` -- the references of an intact arena pair up exactly if it has as many inverse
  ones as forward ones;
* `pairing_of_verified` -- the operation, on any tree.
-/
import DeviceTree.Proofs.Verification
import Mathlib

namespace DeviceTree

namespace Reference

/-- The edge of which the reference is one half, up to ASCII case. -/
def edge (r : Reference) : String × NodeId × NodeId × EdgeKind :=
  (Text.fold r.identifier.text, r.source, r.target, r.kind)

/-- References agree if they are the same half of the same edge. -/
theorem agrees_iff {r s : Reference} :
    r.agrees s = true ↔ r.edge = s.edge ∧ r.direction = s.direction := by
  simp only [agrees, edge, Bool.and_eq_true, decide_eq_true_eq, Prod.mk.injEq,
    Identifier.sameName_iff]
  tauto

/-- Among halves of different edges at most one agrees with a reference. -/
theorem countP_agrees {l : List Reference} (differ : (l.map edge).Nodup) {r s : Reference}
    (mem : s ∈ l) (same : r.agrees s = true) : l.countP r.agrees = 1 := by
  have positive : 0 < l.countP r.agrees := List.countP_pos_iff.mpr ⟨s, mem, same⟩
  have fewer : l.countP r.agrees ≤ (l.map edge).count r.edge := by
    rw [List.count, List.countP_map]
    refine List.countP_mono_left fun x _ agrees => ?_
    rw [Function.comp_apply, beq_iff_eq, (agrees_iff.mp agrees).1]
  have once := List.nodup_iff_count_le_one.mp differ r.edge
  omega

end Reference

namespace Arena

variable {a : Arena} {root : Identifier} {id other : NodeId} {n m : Node} {r r' : Reference}

/-- The two halves of every edge are kept one to one. -/
structure Paired (a : Arena) : Prop where
  /-- A forward reference starts at its holder and has one inverse half at its target. -/
  forward : ∀ {id n r}, a.get? id = some n → r ∈ n.forward →
    r.direction = .forward ∧ r.source = id ∧
      ∃ m, a.get? r.target = some m ∧ m.inverse.countP r.flip.agrees = 1
  /-- An inverse reference ends at its holder and has one forward half at its source. -/
  inverse : ∀ {id n r}, a.get? id = some n → r ∈ n.inverse →
    r.direction = .inverse ∧ r.target = id ∧
      ∃ m, a.get? r.source = some m ∧ m.forward.countP r.flip.agrees = 1
  /-- No node has the same inverse reference twice. -/
  once : ∀ {id n}, a.get? id = some n → n.inverse.Pairwise fun r r' => r.agrees r' = false

/-! ### The edges that the nodes know of -/

/-- The edges of which the nodes keep a half in that list of theirs. -/
def edgesOf (a : Arena) (half : Node → List Reference) :
    List (String × NodeId × NodeId × EdgeKind) :=
  a.snapshots.flatMap fun s => (half s.node).map Reference.edge

/-- The number of inverse references. -/
def arrivals (a : Arena) : Nat :=
  a.snapshots.foldr (fun s n => s.node.inverse.length + n) 0

section

variable {half : Node → List Reference}

theorem mem_edgesOf {e : String × NodeId × NodeId × EdgeKind} :
    e ∈ a.edgesOf half ↔ ∃ id n, a.get? id = some n ∧ ∃ r ∈ half n, r.edge = e := by
  simp only [edgesOf, List.mem_flatMap, mem_snapshots_iff, List.mem_map]
  constructor
  · rintro ⟨⟨id, n⟩, found, r, mem, same⟩
    exact ⟨id, n, found, r, mem, same⟩
  · rintro ⟨id, n, found, r, mem, same⟩
    exact ⟨⟨id, n⟩, found, r, mem, same⟩

/-- Different snapshots are of different nodes. -/
theorem pairwise_snapshots (a : Arena) : a.snapshots.Pairwise fun s s' => s.id ≠ s'.id := by
  rw [snapshots, List.pairwise_filterMap]
  refine (nodup_liveIds a).imp fun {x y} apart s hs s' hs' => ?_
  obtain ⟨n, -, rfl⟩ := Option.map_eq_some_iff.mp hs
  obtain ⟨m, -, rfl⟩ := Option.map_eq_some_iff.mp hs'
  exact apart

/-- The edges differ if those of each node do and no two nodes have one in common. -/
theorem nodup_edgesOf_iff :
    (a.edgesOf half).Nodup ↔
      (∀ id n, a.get? id = some n → ((half n).map Reference.edge).Nodup) ∧
      ∀ id other n m r r', a.get? id = some n → a.get? other = some m → r ∈ half n →
        r' ∈ half m → r.edge = r'.edge → id = other := by
  rw [edgesOf, List.nodup_flatMap]
  constructor
  · rintro ⟨each, apart⟩
    refine ⟨fun id n found => each ⟨id, n⟩ (mem_snapshots_iff.mpr found), ?_⟩
    intro id other n m r r' hn hm hr hr' same
    by_contra differ
    have symm : Std.Symm (Function.onFun List.Disjoint fun s : Snapshot =>
        (half s.node).map Reference.edge) := ⟨fun _ _ h => List.disjoint_symm h⟩
    have first : ⟨id, n⟩ ∈ a.snapshots := mem_snapshots_iff.mpr hn
    have second : ⟨other, m⟩ ∈ a.snapshots := mem_snapshots_iff.mpr hm
    have disjoint := apart.forall first second (by simp [differ])
    exact disjoint (List.mem_map_of_mem hr) (same ▸ List.mem_map_of_mem hr')
  · rintro ⟨each, apart⟩
    refine ⟨fun s mem => each s.id s.node (mem_snapshots_iff.mp mem), ?_⟩
    refine (pairwise_snapshots a).imp_of_mem fun {s s'} mem mem' differ e shared shared' => ?_
    obtain ⟨r, hr, rfl⟩ := List.mem_map.mp shared
    obtain ⟨r', hr', same⟩ := List.mem_map.mp shared'
    exact differ (apart _ _ _ _ r r' (mem_snapshots_iff.mp mem) (mem_snapshots_iff.mp mem') hr hr'
      same.symm)

end

theorem length_inverse (a : Arena) : (a.edgesOf Node.inverse).length = a.arrivals := by
  rw [edgesOf, arrivals]
  induction a.snapshots with
  | nil => rfl
  | cons s rest ih => rw [List.flatMap_cons, List.length_append, List.length_map, ih,
      List.foldr_cons]

/-- A census counts every forward reference. -/
theorem length_forward (a : Arena) :
    (a.edgesOf Node.forward).length = a.census.childEdges + a.census.linkEdges := by
  have split : ∀ n : Node, n.forward.length =
      n.forward.countP Reference.isChild + n.forward.countP Reference.isLink := by
    intro n
    rw [List.length_eq_countP_add_countP Reference.isChild]
    congr 1
    refine List.countP_congr fun r _ => ?_
    cases h : r.kind <;> simp [Reference.isChild, Reference.isLink, h]
  rw [edgesOf, census]
  induction a.snapshots with
  | nil => rfl
  | cons s rest ih =>
    simp only [List.flatMap_cons, List.length_append, List.length_map, List.foldr_cons] at ih ⊢
    rw [ih, split]
    omega

/-! ### Intact arenas -/

theorem Matched.agrees {others : List Reference} (matched : Matched r others) :
    ∃ other ∈ others, r.flip.agrees other = true :=
  List.any_eq_true.mp (matched_iff.mpr matched)

/-- The forward references of an intact arena are halves of different edges. -/
theorem Intact.nodup_forward (intact : a.Intact root) : (a.edgesOf Node.forward).Nodup := by
  rw [nodup_edgesOf_iff]
  constructor
  · intro id n found
    have names : ((n.forward.map Reference.edge).map Prod.fst).Nodup := by
      rw [List.map_map]
      exact intact.names found
    exact names.of_map
  · -- edges that start at different nodes differ
    intro id other n m r r' hn hm hr hr' same
    rw [← (intact.forward hn hr).2.1, ← (intact.forward hm hr').2.1]
    exact congrArg (fun e => e.2.1) same

/-- **An inverse reference of an intact arena is one by its direction, and it has exactly one
forward half.** -/
theorem Intact.inverse_once (intact : a.Intact root) (found : a.get? id = some n)
    (mem : r ∈ n.inverse) :
    r.direction = .inverse ∧
      ∃ m, a.get? r.source = some m ∧ m.forward.countP r.flip.agrees = 1 := by
  obtain ⟨m, hm, matched⟩ := intact.inverse found mem
  obtain ⟨f, hf, agrees⟩ := matched.agrees
  have way : r.direction.flip = .forward :=
    (Reference.agrees_iff.mp agrees).2.trans (intact.forward hm hf).1
  have differ := (nodup_edgesOf_iff.mp intact.nodup_forward).1 _ _ hm
  refine ⟨?_, m, hm, Reference.countP_agrees differ hf agrees⟩
  rw [← Direction.flip_flip r.direction, way, Direction.flip]

/-- In an intact arena the two lists of the nodes tell of the same edges. -/
theorem Intact.mem_edgesOf_iff (intact : a.Intact root)
    (e : String × NodeId × NodeId × EdgeKind) :
    e ∈ a.edgesOf Node.inverse ↔ e ∈ a.edgesOf Node.forward := by
  rw [mem_edgesOf, mem_edgesOf]
  constructor
  · rintro ⟨id, n, found, r, mem, rfl⟩
    obtain ⟨m, hm, matched⟩ := intact.inverse found mem
    obtain ⟨f, hf, agrees⟩ := matched.agrees
    exact ⟨r.source, m, hm, f, hf, (Reference.agrees_iff.mp agrees).1.symm⟩
  · rintro ⟨id, n, found, r, mem, rfl⟩
    obtain ⟨-, -, m, hm, matched⟩ := intact.forward found mem
    obtain ⟨i, hi, agrees⟩ := matched.agrees
    exact ⟨r.target, m, hm, i, hi, (Reference.agrees_iff.mp agrees).1.symm⟩

/-- The references of an intact arena pair up if its inverse ones are halves of different edges. -/
theorem Intact.paired_of_nodup (intact : a.Intact root)
    (differ : (a.edgesOf Node.inverse).Nodup) : a.Paired where
  forward {id n r} found mem := by
    obtain ⟨way, here, m, hm, matched⟩ := intact.forward found mem
    obtain ⟨i, hi, agrees⟩ := matched.agrees
    exact ⟨way, here, m, hm,
      Reference.countP_agrees ((nodup_edgesOf_iff.mp differ).1 _ _ hm) hi agrees⟩
  inverse {id n r} found mem := by
    obtain ⟨way, m, hm, once⟩ := intact.inverse_once found mem
    refine ⟨way, ?_, m, hm, once⟩
    -- the target has an inverse half of the same edge, and only one node has one
    obtain ⟨f, hf, agrees⟩ := List.countP_pos_iff.mp (Nat.lt_of_lt_of_eq Nat.one_pos once.symm)
    obtain ⟨-, -, t, ht, matched⟩ := intact.forward hm hf
    obtain ⟨i, hi, agrees'⟩ := matched.agrees
    have same : i.edge = r.edge :=
      ((Reference.agrees_iff.mp agrees).1.trans (Reference.agrees_iff.mp agrees').1).symm
    have target : f.target = r.target := congrArg (fun e => e.2.2.1)
      (Reference.agrees_iff.mp agrees).1.symm
    rw [← target]
    exact (nodup_edgesOf_iff.mp differ).2 _ _ _ _ _ _ ht found hi mem same
  once {id n} found := by
    have each := (nodup_edgesOf_iff.mp differ).1 _ _ found
    refine (List.pairwise_map.mp each).imp fun {r r'} apart => ?_
    rw [← Bool.not_eq_true, Reference.agrees_iff]
    exact fun same => apart same.1

theorem Paired.nodup_inverse (paired : a.Paired) : (a.edgesOf Node.inverse).Nodup := by
  rw [nodup_edgesOf_iff]
  constructor
  · intro id n found
    refine List.pairwise_map.mpr ((paired.once found).imp_of_mem fun {r r'} hr hr' apart same => ?_)
    have way := (paired.inverse found hr).1.trans (paired.inverse found hr').1.symm
    rw [Reference.agrees_iff.mpr ⟨same, way⟩] at apart
    exact Bool.noConfusion apart
  · intro id other n m r r' hn hm hr hr' same
    rw [← (paired.inverse hn hr).2.1, ← (paired.inverse hm hr').2.1]
    exact congrArg (fun e => e.2.2.1) same

/-- **The references of an intact arena pair up exactly if it has as many inverse ones as forward
ones**, of which a census tells the number. -/
theorem Intact.paired_iff (intact : a.Intact root) :
    a.Paired ↔ a.arrivals = a.census.childEdges + a.census.linkEdges := by
  rw [← length_inverse, ← length_forward]
  constructor
  · intro paired
    exact ((List.perm_ext_iff_of_nodup paired.nodup_inverse intact.nodup_forward).mpr
      intact.mem_edgesOf_iff).length_eq
  · intro same
    -- the forward edges differ and are all among the inverse ones, which are no more
    have sub : (a.edgesOf Node.forward).Subperm (a.edgesOf Node.inverse) :=
      List.subperm_of_subset intact.nodup_forward fun e mem => (intact.mem_edgesOf_iff e).mpr mem
    exact intact.paired_of_nodup
      ((sub.perm_of_length_le same.le).nodup_iff.mp intact.nodup_forward)

/-- **A further inverse half of a link goes unnoticed**, whichever node is given it. -/
theorem Intact.spare (intact : a.Intact root) (found : a.get? id = some n) (mem : r ∈ n.inverse)
    (link : r.isChild = false) (holder : NodeId) :
    (a.modify holder fun n => n.pushInverse r).Intact root := by
  have becomes : Becomes a (a.modify holder fun n => n.pushInverse r) fun other n =>
      { n with inverse := n.inverse ++ if holder = other then [r] else [] } := by
    intro other
    rw [get?_modify]
    cases a.get? other <;> by_cases here : holder = other <;> simp [here, Node.pushInverse]
  generalize a.modify holder (fun n => n.pushInverse r) = b at becomes
  have more : ∀ {other : NodeId} {n : Node} {r' : Reference},
      r' ∈ n.inverse ++ (if holder = other then [r] else []) → r' ∈ n.inverse ∨ r' = r := by
    intro other n r' mem
    rcases List.mem_append.mp mem with old | new
    · exact .inl old
    · split at new
      · exact .inr (List.mem_singleton.mp new)
      · exact absurd new List.not_mem_nil
  constructor
  case forward =>
    intro other m r' found' mem'
    obtain ⟨m, hm, rfl⟩ := becomes.origin found'
    obtain ⟨way, here, t, ht, i, hi, same⟩ := intact.forward hm mem'
    exact ⟨way, here, _, becomes.live ht, i, List.mem_append_left _ hi, same⟩
  case names =>
    intro other m found'
    obtain ⟨m, hm, rfl⟩ := becomes.origin found'
    show m.foldedNames.Nodup
    exact intact.names hm
  case single =>
    intro other m found'
    obtain ⟨m, hm, rfl⟩ := becomes.origin found'
    have none : (if holder = other then [r] else []).countP Reference.isChild = 0 := by
      split <;> simp [link]
    rw [List.countP_append, none]
    exact intact.single hm
  case parent =>
    intro other m r' found' mem' child
    obtain ⟨m, hm, rfl⟩ := becomes.origin found'
    rcases more mem' with old | rfl
    · show m.parent = some r'.source
      exact intact.parent hm old child
    · simp [link] at child
  case orphan =>
    intro other m found' none
    obtain ⟨m, hm, rfl⟩ := becomes.origin found'
    show m.parent = Option.none
    exact intact.orphan hm fun r' old => none r' (List.mem_append_left _ old)
  case inverse =>
    intro other m r' found' mem'
    obtain ⟨m, hm, rfl⟩ := becomes.origin found'
    have half : ∃ s, a.get? r'.source = some s ∧ Matched r' s.forward := by
      rcases more mem' with old | rfl
      · exact intact.inverse hm old
      · exact intact.inverse found mem
    obtain ⟨s, hs, matched⟩ := half
    exact ⟨_, becomes.live hs, matched⟩
  case address =>
    intro other m p above found' parent up
    obtain ⟨m, hm, rfl⟩ := becomes.origin found'
    obtain ⟨above, ha, rfl⟩ := becomes.origin up
    show m.address = Address.join above.address m.identifier.text
    exact intact.address hm parent ha
  case root =>
    obtain ⟨m, hm, rest⟩ := intact.root
    exact ⟨_, becomes.live hm, rest⟩
  case acyclic =>
    exact intact.acyclic.mono fun x y => (becomes.step_iff fun _ _ => rfl).mp

end Arena

open Arena

/-! ### The operation -/

/-- A verdict is one about the arena, which verification leaves alone. -/
theorem Tree.verify_eq_ok {ε : Type} [DirectEdit ε] {t : Tree ε} {v : Verdict} :
    (t.perform .verify).value = .ok (.verdict v) ↔
      t.store.lock.writer = false ∧ v = t.store.arena.verdict t.store.rootIdentifier := by
  cases writer : t.store.lock.writer with
  | true =>
    simp [Tree.perform, Tree.performWith, Store.verify, Lock.admitReader, writer, Except.map,
      Tree.yield]
  | false =>
    simp [Tree.perform, Tree.performWith, Store.verify_of_unlocked writer, Except.map, Tree.yield,
      eq_comm]

/-- The tree in which a further inverse reference was put at a node, behind its back. -/
def Tree.spare {ε : Type} (t : Tree ε) (holder : NodeId) (r : Reference) : Tree ε :=
  t.onStore fun s => s.onArena fun a => a.modify holder fun n => n.pushInverse r

/-- **What verification says about pairs of references.**  If a tree passes, whatever was done to
it, every inverse reference has exactly one forward half, at the node that it names as its source;
but it need not be kept at its target, and not once.  The references pair up one to one exactly if
there are as many inverse ones as the verdict counts edges.  Nothing more can be said: a further
inverse half of any of its links may be put at any node, and the tree still passes. -/
theorem pairing_of_verified {ε : Type} [DirectEdit ε] (t : Tree ε) (v : Verdict)
    (verified : (t.perform .verify).value = .ok (.verdict v)) (success : v.success = true) :
    (∀ id n, t.store.arena.get? id = some n → ∀ r ∈ n.inverse, r.direction = .inverse ∧
      ∃ m, t.store.arena.get? r.source = some m ∧ m.forward.countP r.flip.agrees = 1) ∧
    (t.store.arena.Paired ↔
      t.store.arena.arrivals = v.counts.childEdges + v.counts.linkEdges) ∧
    ∀ id n, t.store.arena.get? id = some n → ∀ r ∈ n.inverse, r.isChild = false → ∀ holder,
      ∃ v', ((t.spare holder r).perform .verify).value = .ok (.verdict v') ∧
        v'.success = true := by
  obtain ⟨unlocked, rfl⟩ := Tree.verify_eq_ok.mp verified
  have intact := verdict_success_iff.mp success
  refine ⟨fun id n found r mem => intact.inverse_once found mem, intact.paired_iff, ?_⟩
  intro id n found r mem link holder
  exact ⟨_, Tree.verify_eq_ok.mpr ⟨unlocked, rfl⟩,
    verdict_success_iff.mpr (intact.spare found mem link holder)⟩

/-- A new tree with the nodes `a` and `b` under the root and a link from the one to the other, of
which a further inverse half was put at `holder`. -/
def Tree.spared (holder : NodeId) : Tree RawEdit :=
  let new : Tree RawEdit := .ofStore .standard
  let half : RawReference := ⟨"b", ⟨1⟩, ⟨2⟩, .link, .inverse⟩
  let edit : NodeEdit := ⟨none, none, false, false, false, [], [half]⟩
  (new.performAll [.mutate (.create (some .root) "a" .group none),
    .mutate (.create (some .root) "b" .group none), .mutate (.link ⟨1⟩ ⟨2⟩ none),
    .edit (.amend holder edit)]).tree

theorem Tree.verified_of_findings {ε : Type} [DirectEdit ε] (t : Tree ε)
    (unlocked : t.store.lock.writer = false)
    (nothing : t.store.arena.findings t.store.rootIdentifier = []) :
    ((t.perform .verify).value = .ok (.verdict (t.store.arena.verdict t.store.rootIdentifier))) ∧
      (t.store.arena.verdict t.store.rootIdentifier).success = true :=
  ⟨Tree.verify_eq_ok.mpr ⟨unlocked, rfl⟩, success_verdict_iff.mpr nothing⟩

/-- The halves of the link do not pair up, whether the spare one is at its target or elsewhere; the
verdict gives it away by its numbers alone. -/
theorem pairing_of_verified_spared :
    (∃ v, ((Tree.spared ⟨2⟩).perform .verify).value = .ok (.verdict v) ∧ v.success = true ∧
      ¬(Tree.spared ⟨2⟩).store.arena.Paired) ∧
    ∃ v, ((Tree.spared ⟨1⟩).perform .verify).value = .ok (.verdict v) ∧ v.success = true ∧
      ¬(Tree.spared ⟨1⟩).store.arena.Paired := by
  obtain ⟨verified, success⟩ := Tree.verified_of_findings (.spared ⟨2⟩) (by cbv) (by cbv)
  obtain ⟨verified', success'⟩ := Tree.verified_of_findings (.spared ⟨1⟩) (by cbv) (by cbv)
  refine ⟨⟨_, verified, success, ?_⟩, _, verified', success', ?_⟩
  · rw [(pairing_of_verified _ _ verified success).2.1]
    cbv
  · rw [(pairing_of_verified _ _ verified' success').2.1]
    cbv

/-- Verification passes although the node `b` has the same inverse reference twice, and although
the node `a` has one that names `b` as its target. -/
theorem spare_halves_verified :
    (∃ v n, ((Tree.spared ⟨2⟩).perform .verify).value = .ok (.verdict v) ∧ v.success = true ∧
      (Tree.spared ⟨2⟩).store.arena.get? ⟨2⟩ = some n ∧ ¬n.inverse.Nodup) ∧
    ∃ v n r, ((Tree.spared ⟨1⟩).perform .verify).value = .ok (.verdict v) ∧ v.success = true ∧
      (Tree.spared ⟨1⟩).store.arena.get? ⟨1⟩ = some n ∧ r ∈ n.inverse ∧ r.target ≠ ⟨1⟩ := by
  obtain ⟨verified, success⟩ := Tree.verified_of_findings (.spared ⟨2⟩) (by cbv) (by cbv)
  obtain ⟨verified', success'⟩ := Tree.verified_of_findings (.spared ⟨1⟩) (by cbv) (by cbv)
  have twice : ((Tree.spared ⟨2⟩).store.arena.get? ⟨2⟩).any
      (fun n => decide ¬n.inverse.Nodup) = true := by cbv
  have elsewhere : ((Tree.spared ⟨1⟩).store.arena.get? ⟨1⟩).any
      (fun n => n.inverse.any fun r => decide (r.target ≠ ⟨1⟩)) = true := by cbv
  obtain ⟨n, found, twice⟩ := (Option.any_eq_true _ _).mp twice
  obtain ⟨n', found', elsewhere⟩ := (Option.any_eq_true _ _).mp elsewhere
  obtain ⟨r, mem, elsewhere⟩ := List.any_eq_true.mp elsewhere
  exact ⟨⟨_, n, verified, success, found, of_decide_eq_true twice⟩,
    _, n', r, verified', success', found', mem, of_decide_eq_true elsewhere⟩

end DeviceTree
