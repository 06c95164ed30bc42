/-
Discarding a subtree keeps the invariant.

First every link that leads out of the subtree is unmade (`Trimmed` says which edges are left), then
its places are emptied.  No edge crosses the border by then: none led in, as the request has made
sure, and none leads out any more.

* `Sound.vacated` -- nodes that no edge connects to the rest may leave;
* `trimmed_members` -- no link leads out of the subtree once the links of its members are released;
* `Store.discard_sound` -- the request.
-/
import DeviceTree.Proofs.Attach
import DeviceTree.Proofs.Request

namespace DeviceTree

open Relation

namespace Arena

variable {a b c : Arena} {root : Identifier} {x y s t : NodeId} {gone : List NodeId}

/-! ### Emptied places -/

/-- The arena `b` is `a` without some nodes. -/
def Vacated (a b : Arena) (gone : List NodeId) : Prop :=
  ∀ id, b.get? id = if id ∈ gone then none else a.get? id

theorem Vacated.origin (h : Vacated a b gone) {id : NodeId} {n : Node}
    (found : b.get? id = some n) : a.get? id = some n ∧ id ∉ gone := by
  rw [h] at found
  split at found
  · simp at found
  · next here => exact ⟨found, here⟩

theorem Vacated.live (h : Vacated a b gone) {id : NodeId} {n : Node}
    (found : a.get? id = some n) (kept : id ∉ gone) : b.get? id = some n := by
  rw [h, if_neg kept, found]

theorem Vacated.leads (h : Vacated a b gone) (step : b.Leads x y) : a.Leads x y := by
  obtain ⟨n, found, mem⟩ := step
  exact ⟨n, (h.origin found).1, mem⟩

/-- No edge crosses the border of the set. -/
def Closed (a : Arena) (nodes : List NodeId) : Prop :=
  ∀ {x y}, a.Leads x y → (x ∈ nodes ↔ y ∈ nodes)

theorem Wired.vacated (w : a.Wired) (h : Vacated a b gone) (closed : a.Closed gone) :
    b.Wired where
  names found := w.names (h.origin found).1
  targets found := w.targets (h.origin found).1
  forward found mem := by
    obtain ⟨old, kept⟩ := h.origin found
    obtain ⟨way, here, m, hm, half⟩ := w.forward old mem
    have step : a.Leads _ _ := ⟨_, old, List.mem_map_of_mem mem⟩
    exact ⟨way, here, m, h.live hm fun mem => kept ((closed step).mpr mem), half⟩
  inverse found mem := by
    obtain ⟨old, kept⟩ := h.origin found
    obtain ⟨way, here, m, hm, half⟩ := w.inverse old mem
    have step : a.Leads _ _ := ⟨m, hm, List.mem_map_of_mem half⟩
    refine ⟨way, here, m, h.live hm fun mem => kept ?_, half⟩
    -- the edge would cross the border
    have crossed := (closed step).mp mem
    rwa [show Reference.target (Reference.flip _) = _ from here] at crossed
  once found := w.once (h.origin found).1

theorem Parented.vacated (p : a.Parented) (h : Vacated a b gone) : b.Parented where
  single found := p.single (h.origin found).1
  parent found := p.parent (h.origin found).1
  name found := p.name (h.origin found).1

/-- Nodes that no edge connects to the rest may leave, but for the root. -/
theorem Sound.vacated (sound : a.Sound root) (h : Vacated a b gone) (closed : a.Closed gone)
    (notRoot : NodeId.root ∉ gone) : b.Sound root where
  wired := sound.wired.vacated h closed
  parented := sound.parented.vacated h
  acyclic := sound.acyclic.mono fun _ _ => h.leads
  addressed :=
    { below := fun found child up =>
        sound.addressed.below (h.origin found).1 child (h.origin up).1
      root := by
        obtain ⟨n, found, rest⟩ := sound.addressed.root
        exact ⟨n, h.live found notRoot, rest⟩ }

/-! ### Released links -/

/-- Some link of the node at `x` leads to `y`. -/
def LinksTo (a : Arena) : NodeId → NodeId → Prop :=
  a.Step fun n => n.links.map Reference.target

theorem leads_iff : a.Leads x y ↔ a.Owns x y ∨ a.LinksTo x y := by
  have split : ∀ n : Node, y ∈ n.targets ↔
      y ∈ n.childIds ∨ y ∈ n.links.map Reference.target := by
    intro n
    simp only [Node.targets, Node.childIds, Node.children, Node.links, List.mem_map,
      List.mem_filter, ← exists_or, ← or_and_right, ← and_or_left]
    refine exists_congr fun r => and_congr_left' ?_
    cases h : r.kind <;> simp [Reference.isChild, Reference.isLink, h]
  simp only [Leads, Owns, LinksTo, Step, split, and_or_left, exists_or]

/-- The arena `b` is `a` without the links in `cut`. -/
structure Trimmed (a b : Arena) (root : Identifier) (cut : NodeId → NodeId → Prop) : Prop where
  sound : b.Sound root
  owns : ∀ {x y}, b.Owns x y ↔ a.Owns x y
  links : ∀ {x y}, b.LinksTo x y ↔ a.LinksTo x y ∧ ¬cut x y

theorem Trimmed.refl (sound : a.Sound root) : Trimmed a a root fun _ _ => False :=
  ⟨sound, .rfl, by simp⟩

theorem Trimmed.trans {cut cut' : NodeId → NodeId → Prop} (h : Trimmed a b root cut)
    (h' : Trimmed b c root cut') : Trimmed a c root fun x y => cut x y ∨ cut' x y where
  sound := h'.sound
  owns := h'.owns.trans h.owns
  links := by
    intro x y
    rw [h'.links, h.links]
    tauto

theorem Trimmed.congr {cut cut' : NodeId → NodeId → Prop} (h : Trimmed a b root cut)
    (same : ∀ {x y}, a.LinksTo x y → (cut x y ↔ cut' x y)) : Trimmed a b root cut' where
  sound := h.sound
  owns := h.owns
  links := by
    intro x y
    rw [h.links]
    exact and_congr_right fun link => not_congr (same link)

theorem trimmed_unlink (sound : a.Sound root) (s t : NodeId) :
    Trimmed a (a.unlink s t) root fun x y => x = s ∧ y = t where
  sound := sound.unlink s t
  owns := by
    refine (sound.wired.becomes_unlink s t).step_iff fun id n => ?_
    simp only [Node.childIds, Node.children, dropped, List.filter_filter]
    refine congrArg (List.map Reference.target) (List.filter_congr fun r _ => ?_)
    cases h : r.kind <;> simp [Reference.isChild, h]
  links := by
    intro x y
    have becomes := sound.wired.becomes_unlink s t
    -- a link of `x` survives unless it is the one from `s` to `t`
    have split : ∀ n : Node, y ∈ (dropped s t .link x n).links.map Reference.target ↔
        y ∈ n.links.map Reference.target ∧ ¬(x = s ∧ y = t) := by
      intro n
      simp only [Node.links, dropped, List.mem_map, List.mem_filter, Reference.isLink]
      constructor
      · rintro ⟨r, ⟨⟨mem, kept⟩, link⟩, rfl⟩
        refine ⟨⟨r, ⟨mem, link⟩, rfl⟩, ?_⟩
        rintro ⟨rfl, rfl⟩
        simp [of_decide_eq_true link] at kept
      · rintro ⟨⟨r, ⟨mem, link⟩, rfl⟩, kept⟩
        refine ⟨r, ⟨⟨mem, ?_⟩, link⟩, rfl⟩
        have apart : (decide (s = x) && decide (r.target = t)) = false := by
          simpa using fun here : s = x => not_and.mp kept here.symm
        rw [apart, Bool.false_and, Bool.not_false]
    constructor
    · rintro ⟨m, hm, mem⟩
      obtain ⟨n, hn, rfl⟩ := becomes.origin hm
      exact ⟨⟨n, hn, ((split n).mp mem).1⟩, ((split n).mp mem).2⟩
    · rintro ⟨⟨n, hn, mem⟩, kept⟩
      exact ⟨_, becomes.live hn, (split n).mpr ⟨mem, kept⟩⟩

end Arena

namespace Store

open Arena

variable {s : Store} {root : Identifier} {members : List NodeId}

theorem trimmed_targets (id : NodeId) (targets : List NodeId) :
    ∀ {s : Store}, s.arena.Sound root →
      Trimmed s.arena (targets.foldl (fun s target => s.unmakeLink id target) s).arena root
        fun x y => x = id ∧ y ∈ targets := by
  induction targets with
  | nil =>
    intro s sound
    exact (Trimmed.refl sound).congr fun _ => by simp
  | cons target rest ih =>
    intro s sound
    have first := trimmed_unlink sound id target
    refine (first.trans (ih (s := s.unmakeLink id target) first.sound)).congr fun _ => ?_
    rw [List.mem_cons]
    tauto

/-- Afterwards no link leads out of `members` from this node. -/
theorem trimmed_releaseLinks (sound : s.arena.Sound root) (members : List NodeId) (id : NodeId) :
    Trimmed s.arena (releaseLinks members s id).arena root fun x y => x = id ∧ y ∉ members := by
  unfold releaseLinks
  cases found : s.arena.get? id with
  | none =>
    refine (Trimmed.refl sound).congr ?_
    rintro x y ⟨n, hn, -⟩
    simp only [false_iff, not_and]
    rintro rfl
    simp [found] at hn
  | some node =>
    refine (trimmed_targets id (outgoingLinks members node) sound).congr ?_
    rintro x y ⟨n, hn, mem⟩
    refine and_congr_right ?_
    rintro rfl
    obtain rfl : node = n := Option.some.inj (found.symm.trans hn)
    simp only [Node.links, List.mem_map, List.mem_filter] at mem
    obtain ⟨r, ⟨hr, link⟩, rfl⟩ := mem
    simp only [outgoingLinks, List.mem_map, List.mem_filter, Bool.and_eq_true,
      Bool.not_eq_true', List.contains_eq_mem, decide_eq_false_iff_not]
    constructor
    · rintro ⟨r', ⟨-, -, outside⟩, same⟩
      exact same ▸ outside
    · intro outside
      exact ⟨r, ⟨hr, link, outside⟩, rfl⟩

/-- Once the links of some members are released, none of these leads out of `members`. -/
theorem trimmed_members (members visited : List NodeId) :
    ∀ {s : Store}, s.arena.Sound root →
      Trimmed s.arena (visited.foldl (releaseLinks members) s).arena root
        fun x y => x ∈ visited ∧ y ∉ members := by
  induction visited with
  | nil =>
    intro s sound
    exact (Trimmed.refl sound).congr fun _ => by simp
  | cons id rest ih =>
    intro s sound
    have first := trimmed_releaseLinks sound members id
    refine (first.trans (ih (s := releaseLinks members s id) first.sound)).congr fun _ => ?_
    rw [List.mem_cons]
    tauto

theorem vacated_members (gone : List NodeId) :
    ∀ {s : Store}, Vacated s.arena (gone.foldl vacate s).arena gone := by
  have one : ∀ (s : Store) (id other : NodeId), (s.vacate id).arena.get? other =
      if id = other then none else s.arena.get? other := by
    intro s id other
    unfold vacate
    cases found : s.arena.get? id with
    | none =>
      by_cases here : id = other
      · simp [← here, found]
      · simp [here]
    | some node => exact Arena.get?_vacate _ _ _
  induction gone with
  | nil =>
    intro s id
    simp
  | cons first rest ih =>
    intro s id
    rw [List.foldl_cons, ih (s := s.vacate first), one]
    by_cases here : first = id
    · simp [here]
    · by_cases later : id ∈ rest <;> simp [here, later, Ne.symm here]

theorem get?_vacate_of_ne {id x : NodeId} (apart : x ≠ id) (s : Store) :
    (s.vacate id).arena.get? x = s.arena.get? x :=
  (vacated_members [id] x).trans (if_neg (mt List.mem_singleton.mp apart))

/-! ### The request -/

section

variable {id : NodeId} {node : Node}

theorem owns_mem_subtree (sound : s.arena.Sound root) (found : s.arena.get? id = some node)
    (orphan : node.parent = none) {x y : NodeId} (owned : s.arena.Owns x y) :
    x ∈ s.arena.subtree id ↔ y ∈ s.arena.subtree id := by
  rw [mem_subtree_iff, mem_subtree_iff]
  constructor
  · intro path
    exact path.tail owned
  · intro path
    -- an owner of `y` is the last node before it on every way down
    rcases path.cases_tail with same | ⟨z, path, last⟩
    · exact absurd (same ▸ owned) (sound.not_owned found orphan)
    · exact owner_unique sound.wired sound.parented last owned ▸ path

theorem linksTo_mem_of_mem (w : s.arena.Wired)
    (unlinked : s.arena.firstLinkedFromOutside members = none) {x y : NodeId}
    (link : s.arena.LinksTo x y) (mem : y ∈ members) : x ∈ members := by
  obtain ⟨n, found, target⟩ := link
  simp only [Node.links, List.mem_map, List.mem_filter] at target
  obtain ⟨r, ⟨hr, isLink⟩, rfl⟩ := target
  obtain ⟨-, here, m, hm, half⟩ := w.forward found hr
  have inside := List.find?_eq_none.mp unlinked _ mem
  simp only [hm, Option.any_some, List.any_eq_true, Bool.and_eq_true, Bool.not_eq_true',
    not_exists, not_and] at inside
  have := inside _ half isLink
  simpa [Reference.flip, here] using this

theorem root_not_mem_subtree (sound : s.arena.Sound root) (notRoot : id ≠ .root) :
    NodeId.root ∉ s.arena.subtree id := by
  rw [mem_subtree_iff]
  intro path
  rcases path.cases_tail with same | ⟨z, -, last⟩
  · exact notRoot same.symm
  · exact sound.root_not_owned last

/-- A discarded subtree leaves a sound arena. -/
theorem discard_sound {c : Change Nat} {t : Store} (sound : s.arena.Sound root)
    (h : discard id s = .ok c t) : t.arena.Sound root := by
  obtain ⟨node, found, notRoot, orphan, unlinked, -, rfl⟩ := discard_ok.mp h
  have trimmed := trimmed_members (s.arena.subtree id) (s.arena.subtree id) sound
  refine trimmed.sound.vacated (vacated_members _) ?_ (root_not_mem_subtree sound notRoot)
  intro x y step
  -- child edges stay within the subtree or without; a link that crosses the border is gone
  rcases leads_iff.mp step with owned | link
  · exact owns_mem_subtree sound found orphan (trimmed.owns.mp owned)
  · obtain ⟨link, kept⟩ := trimmed.links.mp link
    constructor
    · intro mem
      by_contra outside
      exact kept ⟨mem, outside⟩
    · exact linksTo_mem_of_mem sound.wired unlinked link

end

end Store

end DeviceTree
