/-
Verification succeeds exactly on trees that are as they should be.

`Arena.Intact` says what a tree should be like, reference by reference, and compares names without
regard to ASCII case, as verification does.  Each check of verification stands for one part of it,
on every arena, whatever its records say:

* `forwardProblems_eq_nil_iff`, `parentProblems_eq_nil_iff`, `inverseProblems_eq_nil_iff`,
  `addressProblems_eq_nil_iff`, `rootProblems_eq_nil_iff` -- the checks;
* `findings_eq_nil_iff` -- all of them together;
* `Sound.intact` -- the invariant of trees that change by requests only is stronger;
* `verify_success_iff` -- the operation, on any tree.
-/
import DeviceTree.Proofs.Creation
import DeviceTree.Proofs.Cycle
import DeviceTree.Proofs.Runs
import Mathlib

namespace DeviceTree

namespace Arena

/-- The other half of the reference is in the list: one between the same nodes and of the same
kind, of the same name up to ASCII case, that looks the other way. -/
def Matched (r : Reference) (others : List Reference) : Prop :=
  ∃ other ∈ others, Text.fold other.identifier.text = Text.fold r.identifier.text ∧
    other.source = r.source ∧ other.target = r.target ∧ other.kind = r.kind ∧
    other.direction = r.direction.flip

/-- An arena, whose root is named `root`, as it should be. -/
structure Intact (a : Arena) (root : Identifier) : Prop where
  /-- A forward reference starts at its holder, and its live target knows of it. -/
  forward : ∀ {id n r}, a.get? id = some n → r ∈ n.forward →
    r.direction = .forward ∧ r.source = id ∧
      ∃ m, a.get? r.target = some m ∧ Matched r m.inverse
  /-- The names of the forward references of a node differ, also up to ASCII case. -/
  names : ∀ {id n}, a.get? id = some n → n.foldedNames.Nodup
  /-- A node has one parent edge at most. -/
  single : ∀ {id n}, a.get? id = some n → n.inverse.countP Reference.isChild ≤ 1
  /-- The parent field is the source of that edge. -/
  parent : ∀ {id n r}, a.get? id = some n → r ∈ n.inverse → r.isChild = true →
    n.parent = some r.source
  /-- It is empty if there is no such edge. -/
  orphan : ∀ {id n}, a.get? id = some n → (∀ r ∈ n.inverse, r.isChild = false) → n.parent = none
  /-- The source of an inverse reference is live and has its forward half. -/
  inverse : ∀ {id n r}, a.get? id = some n → r ∈ n.inverse →
    ∃ m, a.get? r.source = some m ∧ Matched r m.forward
  /-- Addresses follow the parents that are live. -/
  address : ∀ {id n p above}, a.get? id = some n → n.parent = some p → a.get? p = some above →
    n.address = Address.join above.address n.identifier.text
  root : ∃ n, a.get? .root = some n ∧ n.parent = none ∧ n.address = root.text
  acyclic : a.Acyclic

section

variable {a : Arena} {root : Identifier} {id : NodeId} {n : Node}

/-! ### The checks -/

theorem ite_problem_eq_nil_iff {condition : Prop} [Decidable condition] {problem : Problem} :
    (if condition then [problem] else []) = [] ↔ ¬condition := by
  split <;> simp_all

theorem matched_of_mem_flip {r : Reference} {others : List Reference} (mem : r.flip ∈ others) :
    Matched r others :=
  ⟨r.flip, mem, rfl, rfl, rfl, rfl, rfl⟩

theorem matched_iff {r : Reference} {others : List Reference} :
    others.any r.flip.agrees = true ↔ Matched r others := by
  rw [List.any_eq_true, Matched]
  refine exists_congr fun other => and_congr_right fun _ => ?_
  simp only [Reference.agrees, Bool.and_eq_true, decide_eq_true_eq, and_assoc,
    Identifier.sameName_iff]
  constructor
  · rintro ⟨name, source, target, kind, way⟩
    exact ⟨name.symm, source.symm, target.symm, kind.symm, way.symm⟩
  · rintro ⟨name, source, target, kind, way⟩
    exact ⟨name.symm, source.symm, target.symm, kind.symm, way.symm⟩

theorem forwardProblems_cons_eq_nil_iff {id : NodeId} {earlier : List String} {r : Reference}
    {rest : List Reference} :
    a.forwardProblems id earlier (r :: rest) = [] ↔
      (r.direction = .forward ∧ r.source = id ∧
        ∃ m, a.get? r.target = some m ∧ Matched r m.inverse) ∧
      Text.fold r.identifier.text ∉ earlier ∧
      a.forwardProblems id (Text.fold r.identifier.text :: earlier) rest = [] := by
  have own : ¬(r.direction != .forward || r.source != id) = true ↔
      r.direction = .forward ∧ r.source = id := by
    by_cases way : r.direction = .forward <;> simp [way]
  rw [forwardProblems]
  simp only [List.append_eq_nil_iff, ite_problem_eq_nil_iff, own, List.contains_iff_mem]
  cases found : a.get? r.target with
  | none => simp
  | some m =>
    have half : (if m.inverse.any r.flip.agrees = true then [] else [Problem.noInverse r.target]) =
        [] ↔ Matched r m.inverse := by
      rw [← matched_iff]
      split <;> simp_all
    simp only [half, Option.some.injEq, exists_eq_left']
    tauto

theorem forwardProblems_eq_nil_iff (id : NodeId) (refs : List Reference) :
    ∀ earlier, a.forwardProblems id earlier refs = [] ↔
      (∀ r ∈ refs, r.direction = .forward ∧ r.source = id ∧
        ∃ m, a.get? r.target = some m ∧ Matched r m.inverse) ∧
      (refs.map fun r => Text.fold r.identifier.text).Nodup ∧
      ∀ r ∈ refs, Text.fold r.identifier.text ∉ earlier := by
  induction refs with
  | nil =>
    intro earlier
    simp [forwardProblems]
  | cons r rest ih =>
    intro earlier
    -- that a name is not repeated later is that it is not among the earlier ones then
    rw [forwardProblems_cons_eq_nil_iff, ih, List.forall_mem_cons, List.forall_mem_cons,
      List.map_cons, List.nodup_cons]
    simp only [List.mem_cons, not_or, List.mem_map, not_exists, not_and]
    constructor
    · rintro ⟨first, free, others, differ, later⟩
      exact ⟨⟨first, others⟩, ⟨fun r' mem => (later r' mem).1, differ⟩, free,
        fun r' mem => (later r' mem).2⟩
    · rintro ⟨⟨first, others⟩, ⟨apart, differ⟩, free, later⟩
      exact ⟨first, free, others, differ, fun r' mem => ⟨apart r' mem, later r' mem⟩⟩

theorem parentProblems_eq_nil_iff :
    parentProblems n = [] ↔ n.inverse.countP Reference.isChild ≤ 1 ∧ n.parent = edgeParent n := by
  have flip : (if n.parent = edgeParent n then [] else [Problem.parentDisagrees]) = [] ↔
      n.parent = edgeParent n := by
    split <;> simp_all
  rw [parentProblems, List.append_eq_nil_iff, ite_problem_eq_nil_iff, flip, Nat.not_lt]

theorem inverseProblems_eq_nil_iff :
    a.inverseProblems n = [] ↔
      ∀ r ∈ n.inverse, ∃ m, a.get? r.source = some m ∧ Matched r m.forward := by
  rw [inverseProblems, List.filterMap_eq_nil_iff]
  refine forall₂_congr fun r _ => ?_
  cases found : a.get? r.source with
  | none => simp
  | some m =>
    simp only [Option.any_some, Option.some.injEq, exists_eq_left', ← matched_iff]
    split <;> simp_all

theorem addressProblems_eq_nil_iff :
    a.addressProblems n = [] ↔
      ∀ p above, n.parent = some p → a.get? p = some above →
        n.address = Address.join above.address n.identifier.text := by
  have up : ∀ above, a.liveParent n = some above ↔
      ∃ p, n.parent = some p ∧ a.get? p = some above := fun _ => Option.bind_eq_some_iff
  unfold addressProblems
  cases found : a.liveParent n with
  | none =>
    refine ⟨fun _ p above child live => ?_, fun _ => rfl⟩
    simp [(up above).mpr ⟨p, child, live⟩] at found
  | some above =>
    obtain ⟨p, child, live⟩ := (up above).mp found
    dsimp only
    constructor
    · intro none p' above' child' live'
      obtain rfl : p = p' := Option.some.inj (child.symm.trans child')
      obtain rfl : above = above' := Option.some.inj (live.symm.trans live')
      by_contra wrong
      simp [wrong] at none
    · intro right
      rw [if_pos (right p above child live)]

theorem rootProblems_eq_nil_iff :
    a.rootProblems root = [] ↔
      ∃ n, a.get? .root = some n ∧ n.parent = none ∧ n.address = root.text := by
  unfold rootProblems
  cases found : a.get? .root with
  | none => simp
  | some n =>
    have flip : (if n.address = root.text then [] else [Problem.rootAddress n.address]) = [] ↔
        n.address = root.text := by
      split <;> simp_all
    simp only [List.append_eq_nil_iff, ite_problem_eq_nil_iff, flip, Option.some.injEq,
      exists_eq_left', Option.not_isSome_iff_eq_none]

/-! ### All checks -/

theorem mem_snapshots_iff {snapshot : Snapshot} :
    snapshot ∈ a.snapshots ↔ a.get? snapshot.id = some snapshot.node := by
  simp only [snapshots, List.mem_filterMap, mem_liveIds_iff, Option.map_eq_some_iff]
  constructor
  · rintro ⟨id, -, n, found, rfl⟩
    exact found
  · intro found
    exact ⟨snapshot.id, ⟨_, found⟩, snapshot.node, found, rfl⟩

theorem nodeProblems_eq_nil_iff :
    a.nodeProblems id n = [] ↔ a.forwardProblems id [] n.forward = [] ∧ parentProblems n = [] ∧
      a.inverseProblems n = [] ∧ a.addressProblems n = [] := by
  simp only [nodeProblems, List.append_eq_nil_iff, and_assoc]

theorem findings_eq_nil_iff_checks :
    a.findings root = [] ↔ (∀ id n, a.get? id = some n → a.nodeProblems id n = []) ∧
      a.rootProblems root = [] ∧ a.cycleFindings = [] := by
  rw [findings, List.append_eq_nil_iff, List.append_eq_nil_iff, List.flatMap_eq_nil_iff,
    List.map_eq_nil_iff, and_assoc]
  refine and_congr_left' ?_
  constructor
  · intro h id n found
    exact List.map_eq_nil_iff.mp (h ⟨id, n⟩ (mem_snapshots_iff.mpr found))
  · intro h snapshot mem
    rw [h snapshot.id snapshot.node (mem_snapshots_iff.mp mem), List.map_nil]

/-- The parent field is right exactly when it repeats the parent edge. -/
theorem parent_eq_edgeParent_iff (single : n.inverse.countP Reference.isChild ≤ 1) :
    n.parent = edgeParent n ↔
      (∀ r ∈ n.inverse, r.isChild = true → n.parent = some r.source) ∧
        ((∀ r ∈ n.inverse, r.isChild = false) → n.parent = none) := by
  unfold edgeParent
  cases found : n.inverse.find? Reference.isChild with
  | none =>
    have bare : ∀ r ∈ n.inverse, r.isChild = false := by simpa using found
    constructor
    · intro none
      exact ⟨fun r mem child => by simp [bare r mem] at child, fun _ => none⟩
    · intro h
      exact h.2 bare
  | some r =>
    have mem := List.mem_of_find?_eq_some found
    have child := List.find?_some found
    constructor
    · intro same
      refine ⟨fun r' mem' child' => ?_, fun bare => by simp [bare r mem] at child⟩
      rw [same, eq_of_countP_le_one single mem' child' mem child, Option.map_some]
    · intro h
      exact h.1 r mem child

/-- **Nothing is found exactly in an arena that is as it should be.** -/
theorem findings_eq_nil_iff : a.findings root = [] ↔ a.Intact root := by
  rw [findings_eq_nil_iff_checks, rootProblems_eq_nil_iff, cycleFindings_eq_nil_iff]
  simp only [nodeProblems_eq_nil_iff, forwardProblems_eq_nil_iff, parentProblems_eq_nil_iff,
    inverseProblems_eq_nil_iff, addressProblems_eq_nil_iff]
  constructor
  · rintro ⟨nodes, top, acyclic⟩
    -- the parent field is judged only together with the number of parent edges
    have parents := fun id n found =>
      (parent_eq_edgeParent_iff (nodes id n found).2.1.1).mp (nodes id n found).2.1.2
    exact
      { forward := fun found => (nodes _ _ found).1.1 _
        names := fun found => (nodes _ _ found).1.2.1
        single := fun found => (nodes _ _ found).2.1.1
        parent := fun found => (parents _ _ found).1 _
        orphan := fun found => (parents _ _ found).2
        inverse := fun found => (nodes _ _ found).2.2.1 _
        address := fun found => (nodes _ _ found).2.2.2 _ _
        root := top
        acyclic }
  · intro intact
    refine ⟨fun id n found => ⟨?_, ?_, ?_, ?_⟩, intact.root, intact.acyclic⟩
    · exact ⟨fun _ => intact.forward found, intact.names found, fun _ _ => List.not_mem_nil⟩
    · refine ⟨intact.single found, (parent_eq_edgeParent_iff (intact.single found)).mpr ?_⟩
      exact ⟨fun _ => intact.parent found, intact.orphan found⟩
    · exact fun _ => intact.inverse found
    · exact fun _ _ => intact.address found

/-- What requests keep is more than verification asks for. -/
theorem Sound.intact (sound : a.Sound root) : a.Intact root where
  forward found mem := by
    obtain ⟨way, here, m, hm, half⟩ := sound.wired.forward found mem
    exact ⟨way, here, m, hm, matched_of_mem_flip half⟩
  names := sound.wired.names
  single := sound.parented.single
  parent found := ((parent_eq_edgeParent_iff (sound.parented.single found)).mp
    (sound.parented.parent found)).1 _
  orphan found := ((parent_eq_edgeParent_iff (sound.parented.single found)).mp
    (sound.parented.parent found)).2
  inverse found mem := by
    obtain ⟨-, -, m, hm, half⟩ := sound.wired.inverse found mem
    exact ⟨m, hm, matched_of_mem_flip half⟩
  address := sound.addressed.below
  root := by
    obtain ⟨n, found, -, top, address⟩ := sound.addressed.root
    exact ⟨n, found, top, address⟩
  acyclic := sound.acyclic

end

end Arena

open Arena

/-- While no writer is in, verification reads the arena and changes nothing. -/
theorem Store.verify_of_unlocked {s : Store} (unlocked : s.lock.writer = false) :
    s.verify = (.ok (s.arena.verdict s.rootIdentifier), s) := by
  simp [Store.verify, Lock.admitReader, unlocked]

/-- A verdict says no less than all that was found. -/
theorem Arena.verdict_success_iff {a : Arena} {root : Identifier} :
    (a.verdict root).success = true ↔ a.Intact root := by
  rw [success_verdict_iff, findings_eq_nil_iff]

/-- **Verification succeeds exactly on an intact tree.**  It always comes to a verdict while no
writer is in, on any tree at all, and lists a finding unless it succeeds. -/
theorem verify_success_iff {ε : Type} [DirectEdit ε] (t : Tree ε)
    (unlocked : t.store.lock.writer = false) :
    ∃ v, t.perform .verify = t.yield (.ok (.verdict v)) ∧
      (v.success = true ↔ t.store.arena.Intact t.store.rootIdentifier) ∧
      (v.success = true ↔ v.findings = []) := by
  refine ⟨t.store.arena.verdict t.store.rootIdentifier, ?_, verdict_success_iff, ?_⟩
  · simp only [Tree.perform, Tree.performWith, Store.verify_of_unlocked unlocked, Except.map]
  · rw [success_verdict_iff]
    cases found : t.store.arena.findings t.store.rootIdentifier <;>
      simp [verdict, Verdict.findingLimit, found]

/-- A new tree with the groups `a` and `b` under the root and a link from the one to the other,
after direct edits. -/
def Tree.meddled (edits : List RawEdit) : Tree RawEdit :=
  let new : Tree RawEdit := .ofStore .standard
  (new.performAll ([.mutate (.create (some .root) "a" .group none),
    .mutate (.create (some .root) "b" .group none), .mutate (.link ⟨1⟩ ⟨2⟩ none)] ++
      edits.map .edit)).tree

/-- Spells the link anew in the inverse list of `b`, or leaves it out there. -/
def RawEdit.respell (link : Option String) : RawEdit :=
  let child : RawReference := ⟨"b", .root, ⟨2⟩, .child, .inverse⟩
  let half (name : String) : RawReference := ⟨name, ⟨1⟩, ⟨2⟩, .link, .inverse⟩
  .amend ⟨2⟩ ⟨none, none, false, false, true, [], child :: link.toList.map half⟩

/-- Puts both halves of a link from `b` back to `a`. -/
def RawEdit.back : List RawEdit :=
  let half (way : Direction) : RawReference := ⟨"a", ⟨2⟩, ⟨1⟩, .link, way⟩
  [.amend ⟨2⟩ ⟨none, none, false, false, false, [half .forward], []⟩,
    .amend ⟨1⟩ ⟨none, none, false, false, false, [], [half .inverse]⟩]

/-- Overwrites the address of the root. -/
def RawEdit.misaddress : RawEdit :=
  .amend .root ⟨some "away", none, false, false, false, [], []⟩

/-- Only a child edge is left in the list where the other half of the link should be. -/
theorem Tree.not_intact_unspelled {root : Identifier} :
    ¬(Tree.meddled [.respell none]).store.arena.Intact root := by
  intro intact
  have link : ((Tree.meddled [.respell none]).store.arena.get? ⟨1⟩).any (fun n =>
    n.forward.any fun r => decide (r.target = ⟨2⟩ ∧ r.kind = .link)) = true := by cbv
  have bare : ((Tree.meddled [.respell none]).store.arena.get? ⟨2⟩).all (fun n =>
    n.inverse.all Reference.isChild) = true := by cbv
  obtain ⟨n, found, link⟩ := (Option.any_eq_true _ _).mp link
  obtain ⟨r, mem, link⟩ := List.any_eq_true.mp link
  obtain ⟨target, kind⟩ := of_decide_eq_true link
  obtain ⟨-, -, m, hm, other, half, -, -, -, same, -⟩ := intact.forward found mem
  rw [target] at hm
  have child := List.all_eq_true.mp ((Option.all_eq_true _ _).mp bare m hm) other half
  simp [Reference.isChild, same, kind] at child

theorem Tree.not_intact_back {root : Identifier} :
    ¬(Tree.meddled RawEdit.back).store.arena.Intact root := by
  intro intact
  have leads : ∀ x y, ((Tree.meddled RawEdit.back).store.arena.get? x).map Node.targets =
      some [y] → (Tree.meddled RawEdit.back).store.arena.Leads x y := by
    intro x y shown
    obtain ⟨n, found, only⟩ := Option.map_eq_some_iff.mp shown
    exact ⟨n, found, by simp [only]⟩
  exact intact.acyclic ⟨1⟩ (.tail (.single (leads ⟨1⟩ ⟨2⟩ (by cbv))) (leads ⟨2⟩ ⟨1⟩ (by cbv)))

theorem Tree.not_intact_misaddressed :
    ¬(Tree.meddled [.misaddress]).store.arena.Intact
      (Tree.meddled [.misaddress]).store.rootIdentifier := by
  intro intact
  obtain ⟨n, found, -, address⟩ := intact.root
  have moved : ((Tree.meddled [.misaddress]).store.arena.get? .root).all (fun n =>
    decide (n.address = "away")) = true := by cbv
  have elsewhere := of_decide_eq_true ((Option.all_eq_true _ _).mp moved n found)
  exact absurd (elsewhere.symm.trans address) (by cbv)

/-- The tree passes as the requests left it, and with one half of the link in capitals.  It does not
if that half is missing, if the links lead in a circle or if the root is at another address. -/
theorem verify_success_iff_misaddressed :
    (∀ edits ∈ [[], [.respell (some "B")]], (Tree.meddled edits).store.lock.writer = false ∧
      ∃ v, (Tree.meddled edits).perform .verify =
        (Tree.meddled edits).yield (.ok (.verdict v)) ∧ v.success = true) ∧
    ∀ edits ∈ [[.respell none], RawEdit.back, [.misaddress]],
      (Tree.meddled edits).store.lock.writer = false ∧
        ∃ v, (Tree.meddled edits).perform .verify =
          (Tree.meddled edits).yield (.ok (.verdict v)) ∧ v.findings ≠ [] := by
  simp only [List.forall_mem_cons, List.not_mem_nil, false_imp_iff, implies_true, and_true]
  refine ⟨⟨⟨by cbv, ?_⟩, by cbv, ?_⟩, ⟨by cbv, ?_⟩, ⟨by cbv, ?_⟩, by cbv, ?_⟩
  · obtain ⟨v, verified, success, -⟩ := verify_success_iff (Tree.meddled []) (by cbv)
    exact ⟨v, verified, success.mpr (findings_eq_nil_iff.mp (by cbv))⟩
  · have verdict := verify_success_iff (Tree.meddled [.respell (some "B")]) (by cbv)
    obtain ⟨v, verified, success, -⟩ := verdict
    exact ⟨v, verified, success.mpr (findings_eq_nil_iff.mp (by cbv))⟩
  · have verdict := verify_success_iff (Tree.meddled [.respell none]) (by cbv)
    obtain ⟨v, verified, success, listed⟩ := verdict
    exact ⟨v, verified, fun empty => Tree.not_intact_unspelled (success.mp (listed.mpr empty))⟩
  · have verdict := verify_success_iff (Tree.meddled RawEdit.back) (by cbv)
    obtain ⟨v, verified, success, listed⟩ := verdict
    exact ⟨v, verified, fun empty => Tree.not_intact_back (success.mp (listed.mpr empty))⟩
  · have verdict := verify_success_iff (Tree.meddled [.misaddress]) (by cbv)
    obtain ⟨v, verified, success, listed⟩ := verdict
    exact ⟨v, verified, fun empty => Tree.not_intact_misaddressed (success.mp (listed.mpr empty))⟩

end DeviceTree
