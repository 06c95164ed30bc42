/-
What a discard takes away.

A subtree may be discarded if nothing owns its top and no link leads into it from outside.  Its
links to the outside are unmade one by one, member by member, and then the members leave; of the
nodes that stay, those that were linked to forget these links and nothing else.

* `Wired.firstLinkedFromOutside_iff` -- when no link leads into a subtree;
* `get?_releaseLinks` -- what stays of an outsider when the links of one member are unmade;
* `cleared_discarded` -- what is left of an arena once a subtree is discarded;
* `Enrolled.vacateAll` -- the number of subscriptions when nodes leave;
* `discard_ok_iff` -- when a subtree may be discarded;
* `subtree_discarded` -- both as a request to a tree.
-/
import DeviceTree.Proofs.Anchored
import DeviceTree.Proofs.Idle
import DeviceTree.Proofs.Roster
import Mathlib

namespace DeviceTree

open Relation

namespace Arena

variable {a b : Arena} {root : Identifier} {x y id : NodeId} {n : Node} {members : List NodeId}

/-- What is left once the members have left `a`. -/
structure Cleared (a b : Arena) (members : List NodeId) : Prop where
  gone : ∀ x ∈ members, a.Live x ∧ b.get? x = none
  /-- All others stay; of what refers to them, the links of the members are gone. -/
  kept : ∀ x, x ∉ members → b.get? x = (a.get? x).map fun n =>
    { n with inverse := n.inverse.filter fun r => !(r.isLink && members.contains r.source) }
  /-- Nothing that is left names one that has left. -/
  closed : ∀ x n, b.get? x = some n → x ∉ members ∧ (∀ p ∈ members, n.parent ≠ some p) ∧
    ∀ r ∈ n.forward ++ n.inverse, r.source ∉ members ∧ r.target ∉ members

/-- A subscription of a node that has left stands nowhere any more. -/
theorem Cleared.not_mem_subscriptions (cleared : Cleared a b members)
    (once : a.subscriptions.Nodup) (mem : x ∈ members) {sub : SubscriptionId}
    (here : sub ∈ a.observersAt x) : sub ∉ b.subscriptions := by
  intro still
  obtain ⟨y, -, there⟩ := List.mem_flatMap.mp still
  have outside : y ∉ members := by
    intro gone
    rw [observersAt, (cleared.gone y gone).2] at there
    exact absurd there List.not_mem_nil
  have same : b.observersAt y = a.observersAt y := by
    rw [observersAt, observersAt, cleared.kept y outside]
    cases a.get? y <;> rfl
  exact outside (eq_of_mem_observersAt once here (same ▸ there) ▸ mem)

/-- The guard of a discard looks at everything that links into the members. -/
theorem Wired.firstLinkedFromOutside_iff (w : a.Wired) :
    a.firstLinkedFromOutside members = none ↔
      ∀ x y, y ∈ members → a.LinksTo x y → x ∈ members := by
  constructor
  · intro unlinked x y mem link
    obtain ⟨m, found⟩ := w.live_of_leads (leads_iff.mpr (.inr link))
    obtain ⟨r, hr, isLink, rfl⟩ := (w.linksTo_iff found).mp link
    have none := List.find?_eq_none.mp unlinked y mem
    rw [found, Option.any_some, List.any_eq_true, not_exists] at none
    simpa [hr, isLink] using none r
  · intro inside
    rw [firstLinkedFromOutside, List.find?_eq_none]
    intro y mem linked
    obtain ⟨m, found, entered⟩ := (Option.any_eq_true _ _).mp linked
    obtain ⟨r, hr, outside⟩ := List.any_eq_true.mp entered
    simp only [Bool.and_eq_true, Bool.not_eq_true', List.contains_eq_mem,
      decide_eq_false_iff_not] at outside
    exact outside.2 (inside r.source y mem ((w.linksTo_iff found).mpr ⟨r, hr, outside.1, rfl⟩))

end Arena

open Arena

namespace Store

variable {s t : Store} {root : Identifier} {id x y : NodeId} {n : Node} {members : List NodeId}

/-! ### Outsiders -/

/-- Somebody's links to some targets are unmade; everybody else forgets those that led to him. -/
theorem get?_unmakeLinks (differ : y ≠ id) (targets : List NodeId) :
    ∀ {s : Store}, s.arena.Sound root →
      (targets.foldl (fun s target => s.unmakeLink id target) s).arena.get? y =
        (s.arena.get? y).map fun n =>
          { n with
            inverse := n.inverse.filter fun r =>
              !(r.isLink && decide (r.source = id) && targets.contains y) } := by
  induction targets with
  | nil =>
    intro s sound
    cases found : s.arena.get? y <;> simp [found]
  | cons target rest ih =>
    intro s sound
    have becomes : Becomes s.arena (s.unmakeLink id target).arena _ :=
      sound.wired.becomes_unlink id target
    rw [List.foldl_cons, ih (s := s.unmakeLink id target) (sound.unlink id target), becomes,
      Option.map_map]
    congr 1
    funext n
    have forward : (dropped id target .link y n).forward = n.forward := by
      simp [dropped, differ.symm]
    have inverse : (dropped id target .link y n).inverse.filter (fun r =>
          !(r.isLink && decide (r.source = id) && rest.contains y)) =
        n.inverse.filter fun r =>
          !(r.isLink && decide (r.source = id) && (target :: rest).contains y) := by
      simp only [dropped, List.filter_filter, List.contains_cons]
      refine List.filter_congr fun r _ => ?_
      by_cases source : r.source = id <;> by_cases here : y = target <;>
        cases kind : r.kind <;> simp [Reference.isLink, kind, here, source, eq_comm (a := target)]
    exact Node.ext rfl rfl rfl rfl rfl forward inverse rfl

/-- A member's links to the outside are unmade, and an outsider forgets all links of that member. -/
theorem get?_releaseLinks (sound : s.arena.Sound root) (mem : id ∈ members)
    (outside : y ∉ members) :
    (releaseLinks members s id).arena.get? y = (s.arena.get? y).map fun n =>
      { n with inverse := n.inverse.filter fun r => !(r.isLink && decide (r.source = id)) } := by
  have differ : y ≠ id := fun same => outside (same ▸ mem)
  unfold releaseLinks
  cases found : s.arena.get? y with
  | none =>
    split
    · exact found
    · rw [get?_unmakeLinks differ _ sound, found]
      rfl
  | some n =>
    -- the links that lead here from the member are among those that are unmade
    have among : ∀ r ∈ n.inverse, r.isLink = true → r.source = id →
        ∃ node, s.arena.get? id = some node ∧ y ∈ outgoingLinks members node := by
      rintro r hr isLink rfl
      obtain ⟨-, target, node, hn, half⟩ := sound.wired.inverse found hr
      refine ⟨node, hn, List.mem_map.mpr ⟨r.flip, List.mem_filter.mpr ⟨half, ?_⟩, target⟩⟩
      have link : r.flip.isLink = true := isLink
      have away : r.flip.target ∉ members := show r.target ∉ members from target ▸ outside
      simp [link, away]
    split
    · next gone =>
      have all : n.inverse.filter (fun r => !(r.isLink && decide (r.source = id))) = n.inverse := by
        refine List.filter_eq_self.mpr fun r hr => ?_
        cases isLink : r.isLink with
        | false => rfl
        | true =>
          have other : r.source ≠ id := by
            intro source
            obtain ⟨node, there, -⟩ := among r hr isLink source
            rw [gone] at there
            cases there
          simp [other]
      rw [found, Option.map_some, all]
    · next node there =>
      rw [get?_unmakeLinks differ _ sound, found, Option.map_some, Option.map_some]
      congr 2
      refine List.filter_congr fun r hr => ?_
      cases isLink : r.isLink with
      | false => rfl
      | true =>
        by_cases source : r.source = id
        · obtain ⟨node', there', mem'⟩ := among r hr isLink source
          rw [there, Option.some.injEq] at there'
          simp [source, there', mem']
        · simp [source]

/-- Outsiders forget the links of all members that are visited. -/
theorem get?_released (outside : y ∉ members) (visited : List NodeId) (inside : visited ⊆ members) :
    ∀ {s : Store}, s.arena.Sound root →
      (visited.foldl (releaseLinks members) s).arena.get? y = (s.arena.get? y).map fun n =>
        { n with
          inverse := n.inverse.filter fun r => !(r.isLink && visited.contains r.source) } := by
  induction visited with
  | nil =>
    intro s sound
    cases found : s.arena.get? y <;> simp [found]
  | cons first rest ih =>
    intro s sound
    obtain ⟨mem, inside⟩ := List.cons_subset.mp inside
    rw [List.foldl_cons, ih inside (trimmed_releaseLinks sound members first).sound,
      get?_releaseLinks sound mem outside, Option.map_map]
    congr 1
    funext n
    refine Node.ext rfl rfl rfl rfl rfl rfl ?_ rfl
    simp only [Function.comp, List.filter_filter, List.contains_cons]
    refine List.filter_congr fun r _ => ?_
    cases r.isLink <;> by_cases source : r.source = first <;> simp [source]

/-- **What is left of an arena once a subtree is discarded.** -/
theorem cleared_discarded (sound : s.arena.Sound root) (found : s.arena.get? id = some n)
    {c : Change Nat} (granted : discard id s = .ok c t) :
    Cleared s.arena t.arena (s.arena.subtree id) := by
  have sound' := discard_sound sound granted
  obtain ⟨-, -, -, -, -, -, rfl⟩ := discard_ok.mp granted
  have vacated : Vacated _ (s.discarded (s.arena.subtree id)).arena (s.arena.subtree id) :=
    vacated_members (s.arena.subtree id)
  have gone : ∀ x ∈ s.arena.subtree id, (s.discarded (s.arena.subtree id)).arena.get? x = none :=
    fun x mem => (vacated x).trans (if_pos mem)
  -- whatever is named is there
  have apart : ∀ {x m}, (s.discarded (s.arena.subtree id)).arena.get? x = some m →
      x ∉ s.arena.subtree id := by
    intro x m there mem
    rw [gone x mem] at there
    cases there
  refine ⟨fun x mem => ⟨sound.live_of_subtree found mem, gone x mem⟩, fun x outside => ?_,
    fun x m there => ⟨apart there, fun p mem up => ?_, fun r hr => ?_⟩⟩
  · rw [vacated, if_neg outside, get?_released outside _ (List.Subset.refl _) sound]
  · obtain ⟨above, hp, -⟩ := (parent_eq_some_iff sound'.wired sound'.parented there).mp up
    exact apart hp mem
  · rcases List.mem_append.mp hr with hr | hr
    · obtain ⟨-, here, k, hk, -⟩ := sound'.wired.forward there hr
      exact ⟨here ▸ apart there, apart hk⟩
    · obtain ⟨-, here, k, hk, -⟩ := sound'.wired.inverse there hr
      exact ⟨apart hk, here ▸ apart there⟩

/-! ### Subscriptions -/

/-- **When nodes leave, their subscriptions are no longer counted**, and those of no others. -/
theorem Enrolled.vacateAll {bound : ℕ} {gone : List NodeId} (nodup : gone.Nodup) :
    ∀ {s : Store}, s.Enrolled bound →
      (gone.foldl Store.vacate s).subscribers + (gone.flatMap s.arena.observersAt).length =
        s.subscribers := by
  induction gone with
  | nil => exact fun _ => rfl
  | cons first rest ih =>
    intro s h
    obtain ⟨apart, nodup⟩ := List.nodup_cons.mp nodup
    have others : rest.flatMap (s.vacate first).arena.observersAt =
        rest.flatMap s.arena.observersAt := by
      refine List.flatMap_congr fun x mem => ?_
      rw [observersAt, observersAt, get?_vacate_of_ne (ne_of_mem_of_not_mem mem apart)]
    have here : (s.vacate first).subscribers + (s.arena.observersAt first).length =
        s.subscribers := by
      have bounded := length_observersAt_le s.arena first
      rw [← h.count] at bounded
      unfold Store.vacate
      cases found : s.arena.get? first with
      | none => simp [observersAt, found]
      | some node =>
        rw [observersAt_of_get? found] at bounded ⊢
        exact Nat.sub_add_cancel bounded
    have later := ih nodup (h.vacate first)
    rw [others] at later
    rw [List.foldl_cons, List.flatMap_cons, List.length_append]
    omega

theorem subscribers_discarded {bound : ℕ} (h : s.Enrolled bound) {members : List NodeId}
    (nodup : members.Nodup) :
    (s.discarded members).subscribers + (members.flatMap s.arena.observersAt).length =
      s.subscribers := by
  have effects : Effects s (members.foldl (releaseLinks members) s) :=
    Effects.none.foldl members fun id _ h => h.releaseLinks members id
  have same : SameObservers s.arena (members.foldl (releaseLinks members) s).arena :=
    sameObservers_of_row (row_released Node.unwired_observers members members s)
  have enrolled := effects.enrolled h
  have count := enrolled.vacateAll nodup
  rw [funext same.same, enrolled.count, same.subscriptions, ← h.count] at count
  exact count

/-- **When a subtree may be discarded.** -/
theorem discard_ok_iff (sound : s.arena.Sound root) {c : Change Nat} :
    discard id s = .ok c t ↔ (∃ n, s.arena.get? id = some n ∧ n.parent = none) ∧ id ≠ .root ∧
      (∀ x y, ReflTransGen s.arena.Owns id y → s.arena.LinksTo x y →
        ReflTransGen s.arena.Owns id x) ∧
      c = ⟨(s.arena.subtree id).length, none⟩ ∧ t = s.discarded (s.arena.subtree id) := by
  rw [discard_ok]
  simp only [sound.wired.firstLinkedFromOutside_iff, mem_subtree_iff]
  constructor
  · rintro ⟨n, found, notRoot, orphan, inside, value, left⟩
    exact ⟨⟨n, found, orphan⟩, notRoot, inside, value, left⟩
  · rintro ⟨⟨n, found, orphan⟩, notRoot, inside, value, left⟩
    exact ⟨n, found, notRoot, orphan, inside, value, left⟩

end Store

/-- **What a discard takes away.**  While nobody holds the lock, a node may be discarded exactly if
it is there, is not the root and has no parent, and every link to a node below it, or to itself,
starts at such a node.  The answer is the number of these nodes.  They leave, and no others; a node
that stays is what it was, but that the links from those that have left are gone from what refers to
it, and nothing that is left names any of them.  Their subscriptions are gone with them and are no
longer counted, while those of all others are; and nobody is told of anything. -/
theorem subtree_discarded (options : Options) (s : Session Empty) (h : s.Reachable options)
    (free : s.tree.store.lock.isFree = true) (id : NodeId) :
    let a := s.tree.store.arena
    ((∃ answer, (s.tree.perform (.mutate (.discard id))).value = .ok answer) ↔
      (∃ n, a.get? id = some n ∧ n.parent = none) ∧ id ≠ .root ∧
        ∀ x y, ReflTransGen a.Owns id y → a.LinksTo x y → ReflTransGen a.Owns id x) ∧
    ∀ answer, (s.tree.perform (.mutate (.discard id))).value = .ok answer →
      ∃ members : List NodeId, members.Nodup ∧ (∀ x, x ∈ members ↔ ReflTransGen a.Owns id x) ∧
        answer = .count members.length ∧
        ∃ store, s.tree.attempt (Mutation.discard id).apply =
            (.ok ⟨answer, none⟩, { s.tree with store }) ∧
          s.tree.perform (.mutate (.discard id)) = ⟨.ok answer, { s.tree with store }, []⟩ ∧
          Cleared a store.arena members ∧
          (∀ x ∈ members, ∀ sub ∈ a.observersAt x, sub ∉ store.arena.subscriptions) ∧
          store.subscribers + (members.flatMap a.observersAt).length =
            s.tree.store.subscribers := by
  intro a
  have sound := (Store.upright_of_reachable h).sound
  have enrolled := enrolled_of_reachable h
  refine ⟨⟨?_, ?_⟩, fun answer ok => ?_⟩
  · rintro ⟨answer, ok⟩
    obtain ⟨-, c, u, applied, rfl⟩ := Tree.granted_of_perform ok
    obtain ⟨c', granted, rfl⟩ := Request.map_ok.mp applied
    obtain ⟨top, notRoot, inside, -⟩ :=
      (Store.discard_ok_iff (s := s.tree.store.locked) sound).mp granted
    exact ⟨top, notRoot, inside⟩
  · rintro ⟨top, notRoot, inside⟩
    have granted := (Store.discard_ok_iff (s := s.tree.store.locked) sound).mpr
      ⟨top, notRoot, inside, rfl, rfl⟩
    exact ⟨_, Tree.perform_of_attempt
      ((Tree.attempt_ok free).mpr ⟨_, Request.map_ok.mpr ⟨_, granted, rfl⟩, rfl⟩)⟩
  · obtain ⟨-, c, u, applied, rfl⟩ := Tree.granted_of_perform ok
    obtain ⟨c', granted, rfl⟩ := Request.map_ok.mp applied
    obtain ⟨⟨n, found, -⟩, -, -, rfl, rfl⟩ :=
      (Store.discard_ok_iff (s := s.tree.store.locked) sound).mp granted
    have cleared := Store.cleared_discarded (s := s.tree.store.locked) sound found granted
    have nodup : (a.subtree id).Nodup := nodup_reachable id
    refine ⟨a.subtree id, nodup, fun x => mem_subtree_iff, rfl, _,
      (Tree.attempt_ok free).mpr ⟨_, applied, rfl⟩, ?_, cleared, ?_, ?_⟩
    · rw [Tree.perform, Tree.performWith_of_ok free applied]
      rfl
    · exact fun x mem sub here => cleared.not_mem_subscriptions enrolled.once mem here
    · exact Store.subscribers_discarded (s := s.tree.store.locked) (enrolled.congr (.refl _) rfl)
        nodup

/-- A session of a detached rack, which links to the root and, beside owning it, to its shelf, with
an observer at the shelf that calls back. -/
def Session.scrapped : Session Empty :=
  let new : Session Empty := ⟨.ofStore .standard, #[]⟩
  let rack := new.next (.perform (.mutate (.create none "rack" .group none)))
  let shelf := rack.next (.perform (.mutate (.create (some ⟨1⟩) "shelf" .group none)))
  let home := shelf.next (.perform (.mutate (.link ⟨1⟩ .root (some "home"))))
  let top := home.next (.perform (.mutate (.link ⟨1⟩ ⟨2⟩ (some "top"))))
  top.next (.perform (.subscribe ⟨2⟩ "watch" (.call 1 [.mutate (.discard ⟨1⟩)])))

/-- The rack goes with its shelf, the observer too, and the root is no longer linked to. -/
theorem subtree_discarded_rack :
    let s := Session.scrapped
    let rest := (s.tree.perform (.mutate (.discard ⟨1⟩))).tree.store
    s.Reachable .standard ∧ s.tree.store.lock.isFree = true ∧
      (s.tree.perform (.mutate (.discard ⟨1⟩))).value = .ok (.count 2) ∧
      (s.tree.store.arena.get? .root).map (·.inverse.length) = some 1 ∧
      (rest.arena.get? .root).map (·.inverse.length) = some 0 ∧
      rest.arena.get? ⟨2⟩ = none ∧
      s.tree.store.subscribers = 1 ∧ rest.subscribers = 0 := by
  intro s rest
  have reached : Session.scrapped.Reachable .standard :=
    (((((Session.Reachable.fresh rfl).next _).next _).next _).next _).next _
  have free : Session.scrapped.tree.store.lock.isFree = true := by cbv
  have granted : (Session.scrapped.tree.perform (.mutate (.discard ⟨1⟩))).value =
      .ok (.count 2) := by cbv
  have linked : (Session.scrapped.tree.store.arena.get? .root).map Node.inverse =
      some [⟨⟨"home", rfl⟩, ⟨1⟩, .root, .link, .inverse⟩] := by cbv
  have subtree : Session.scrapped.tree.store.arena.subtree ⟨1⟩ = [⟨1⟩, ⟨2⟩] := by cbv
  have watched : Session.scrapped.tree.store.arena.observersAt ⟨2⟩ = [⟨1⟩] := by cbv
  have single : Session.scrapped.tree.store.subscribers = 1 := by cbv
  obtain ⟨members, -, owned, -, store, -, left, cleared, -, count⟩ :=
    (subtree_discarded .standard Session.scrapped reached free ⟨1⟩).2 _ granted
  have rest : rest = store := congrArg (·.tree.store) left
  have mem : ∀ x, x ∈ members ↔ x ∈ [⟨1⟩, ⟨2⟩] := fun x => by
    rw [owned, ← mem_subtree_iff, subtree]
  obtain ⟨n, hn, inverse⟩ := Option.map_eq_some_iff.mp linked
  refine ⟨reached, free, granted, ?_, ?_, ?_, single, ?_⟩
  · rw [hn, Option.map_some, inverse]
    rfl
  · -- the root is no part of the rack
    have outside : NodeId.root ∉ members := fun inside => absurd ((mem _).mp inside) (by decide)
    have inside : (⟨1⟩ : NodeId) ∈ members := (mem _).mpr (by decide)
    rw [rest, cleared.kept .root outside, hn, Option.map_some, Option.map_some, inverse]
    simp [Reference.isLink, inside]
  · exact rest ▸ (cleared.gone ⟨2⟩ ((mem _).mpr (by decide))).2
  · have shelf : (⟨2⟩ : NodeId) ∈ members := (mem _).mpr (by decide)
    have counted := List.length_pos_of_mem
      (List.mem_flatMap.mpr ⟨_, shelf, watched ▸ List.mem_singleton_self _⟩)
    rw [rest]
    omega

end DeviceTree
