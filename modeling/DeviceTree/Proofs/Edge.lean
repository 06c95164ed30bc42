/-
Making and unmaking one edge keeps the invariant.

`Pushes g f` says that `g` adds the two halves of the edge `f` to the lists at its ends, and
`Drops g s t k` that it takes the edge of kind `k` from `s` to `t` out of both.  Each part of the
invariant is kept by an edge that is pushed where it may be, and by any edge that is dropped:

* `Wired.push`, `Wired.drop`;
* `Acyclic.push` -- an edge closes no cycle unless a path leads back from its target;
* `sound_link`, `sound_unlink` -- links, which touch neither parents nor addresses.
-/
import DeviceTree.Proofs.Sound

namespace DeviceTree.Arena

open Relation

/-- The edge `f` is added at both of its ends. -/
def Pushes (g : NodeId → Node → Node) (f : Reference) : Prop :=
  ∀ id n, (g id n).forward = n.forward ++ (if f.source = id then [f] else []) ∧
    (g id n).inverse = n.inverse ++ (if f.target = id then [f.flip] else []) ∧
    (g id n).identifier = n.identifier

/-- The edge of kind `k` from `s` to `t` is taken out at both of its ends. -/
def Drops (g : NodeId → Node → Node) (s t : NodeId) (k : EdgeKind) : Prop :=
  ∀ id n, (g id n).forward = n.forward.filter (fun r => !(s = id && r.target = t && r.kind = k)) ∧
    (g id n).inverse = n.inverse.filter (fun r => !(t = id && r.source = s && r.kind = k)) ∧
    (g id n).identifier = n.identifier

section

variable {a b : Arena} {g : NodeId → Node → Node} {f : Reference} {holder aim : Node}
  {s t : NodeId} {k : EdgeKind} {x y : NodeId}

/-! ### Pushing an edge -/

/-- The forward half of the edge `f` may be added to the list of `holder`. -/
structure Fits (a : Arena) (f : Reference) (holder aim : Node) : Prop where
  source : a.get? f.source = some holder
  target : a.get? f.target = some aim
  forward : f.direction = .forward
  free : holder.named? f.identifier.text = none
  apart : holder.toward? f.target = none

theorem Wired.push (w : a.Wired) (h : Becomes a b g) (pushes : Pushes g f)
    (fits : Fits a f holder aim) : b.Wired where
  names {id m} found := by
    obtain ⟨n, hn, rfl⟩ := h.origin found
    rw [Node.foldedNames, (pushes id n).1]
    split
    · next here =>
      -- only here is there a name more, and it was free
      have same : n = holder := Option.some.inj ((here ▸ hn).symm.trans fits.source)
      subst same
      rw [List.map_append, List.map_singleton, ← List.concat_eq_append]
      exact (w.names hn).concat (Node.named?_eq_none_iff.mp fits.free)
    · rw [List.append_nil]
      exact w.names hn
  targets {id m} found := by
    obtain ⟨n, hn, rfl⟩ := h.origin found
    rw [Node.targets, (pushes id n).1]
    split
    · next here =>
      have same : n = holder := Option.some.inj ((here ▸ hn).symm.trans fits.source)
      subst same
      rw [List.map_append, List.map_singleton, ← List.concat_eq_append]
      exact (w.targets hn).concat (Node.toward?_eq_none_iff.mp fits.apart)
    · rw [List.append_nil]
      exact w.targets hn
  forward {id m r} found mem := by
    obtain ⟨n, hn, rfl⟩ := h.origin found
    rw [(pushes id n).1, List.mem_append] at mem
    rcases mem with mem | mem
    · obtain ⟨way, here, m, hm, half⟩ := w.forward hn mem
      refine ⟨way, here, _, h.live hm, ?_⟩
      rw [(pushes _ m).2.1]
      exact List.mem_append_left _ half
    · split at mem
      · next here =>
        rw [List.mem_singleton] at mem
        subst mem
        refine ⟨fits.forward, here, _, h.live fits.target, ?_⟩
        simp [(pushes _ aim).2.1]
      · simp at mem
  inverse {id m r} found mem := by
    obtain ⟨n, hn, rfl⟩ := h.origin found
    rw [(pushes id n).2.1, List.mem_append] at mem
    rcases mem with mem | mem
    · obtain ⟨way, here, m, hm, half⟩ := w.inverse hn mem
      refine ⟨way, here, _, h.live hm, ?_⟩
      rw [(pushes _ m).1]
      exact List.mem_append_left _ half
    · split at mem
      · next here =>
        rw [List.mem_singleton] at mem
        subst mem
        refine ⟨by simp [Reference.flip, fits.forward, Direction.flip], here, _,
          h.live fits.source, ?_⟩
        rw [Reference.flip_flip]
        simp [(pushes _ holder).1, Reference.flip]
      · simp at mem
  once {id m} found := by
    obtain ⟨n, hn, rfl⟩ := h.origin found
    rw [(pushes id n).2.1]
    split
    · rw [← List.concat_eq_append]
      refine (w.once hn).concat fun mem => ?_
      -- the other half of an edge that is there already would stand in the list of `holder`
      obtain ⟨-, -, m, hm, half⟩ := w.inverse hn mem
      have same : m = holder := Option.some.inj (hm.symm.trans fits.source)
      rw [Reference.flip_flip, same] at half
      exact Node.toward?_eq_none_iff.mp fits.apart (List.mem_map_of_mem half)
    · simpa using w.once hn

theorem leads_push (h : Becomes a b g) (pushes : Pushes g f) (step : b.Leads x y) :
    a.Leads x y ∨ x = f.source ∧ y = f.target := by
  obtain ⟨m, hm, mem⟩ := step
  obtain ⟨n, hn, rfl⟩ := h.origin hm
  rw [Node.targets, (pushes x n).1, List.map_append, List.mem_append] at mem
  rcases mem with mem | mem
  · exact .inl ⟨n, hn, mem⟩
  · split at mem
    · next here => exact .inr ⟨here.symm, by simpa using mem⟩
    · simp at mem

/-- A path over one more edge either does without it or crosses it. -/
theorem transGen_push {α : Type} {r r' : α → α → Prop} {u v : α}
    (more : ∀ x y, r' x y → r x y ∨ x = u ∧ y = v) {x y : α} (path : TransGen r' x y) :
    TransGen r x y ∨ ReflTransGen r x u ∧ ReflTransGen r v y := by
  induction path with
  | single step =>
    rcases more _ _ step with step | ⟨rfl, rfl⟩
    · exact .inl (.single step)
    · exact .inr ⟨.refl, .refl⟩
  | tail _ step ih =>
    -- a path that crosses the edge twice is cut short: the last crossing counts
    rcases more _ _ step with step | ⟨rfl, rfl⟩
    · rcases ih with path | ⟨before, after⟩
      · exact .inl (path.tail step)
      · exact .inr ⟨before, after.tail step⟩
    · rcases ih with path | ⟨before, -⟩
      · exact .inr ⟨path.to_reflTransGen, .refl⟩
      · exact .inr ⟨before, .refl⟩

/-- An edge closes no cycle unless a path leads back from its target to its source. -/
theorem Acyclic.push (acyclic : a.Acyclic)
    (more : ∀ x y, b.Leads x y → a.Leads x y ∨ x = s ∧ y = t)
    (open_ : ¬ReflTransGen a.Leads t s) : b.Acyclic := by
  intro x cycle
  rcases transGen_push more cycle with cycle | ⟨before, after⟩
  · exact acyclic x cycle
  · exact open_ (after.trans before)

/-! ### Dropping an edge -/

theorem Wired.drop (w : a.Wired) (h : Becomes a b g) (drops : Drops g s t k) : b.Wired where
  names {id m} found := by
    obtain ⟨n, hn, rfl⟩ := h.origin found
    rw [Node.foldedNames, (drops id n).1]
    exact (w.names hn).sublist (List.filter_sublist.map _)
  targets {id m} found := by
    obtain ⟨n, hn, rfl⟩ := h.origin found
    rw [Node.targets, (drops id n).1]
    exact (w.targets hn).sublist (List.filter_sublist.map _)
  forward {id m r} found mem := by
    obtain ⟨n, hn, rfl⟩ := h.origin found
    rw [(drops id n).1, List.mem_filter] at mem
    obtain ⟨mem, kept⟩ := mem
    obtain ⟨way, here, m, hm, half⟩ := w.forward hn mem
    refine ⟨way, here, _, h.live hm, ?_⟩
    rw [(drops _ m).2.1, List.mem_filter]
    refine ⟨half, ?_⟩
    subst here
    simp only [Reference.flip] at kept ⊢
    simp only [Bool.not_eq_true', Bool.and_eq_false_iff, decide_eq_false_iff_not] at kept ⊢
    grind
  inverse {id m r} found mem := by
    obtain ⟨n, hn, rfl⟩ := h.origin found
    rw [(drops id n).2.1, List.mem_filter] at mem
    obtain ⟨mem, kept⟩ := mem
    obtain ⟨way, here, m, hm, half⟩ := w.inverse hn mem
    refine ⟨way, here, _, h.live hm, ?_⟩
    rw [(drops _ m).1, List.mem_filter]
    refine ⟨half, ?_⟩
    subst here
    simp only [Reference.flip] at kept ⊢
    simp only [Bool.not_eq_true', Bool.and_eq_false_iff, decide_eq_false_iff_not] at kept ⊢
    grind
  once {id m} found := by
    obtain ⟨n, hn, rfl⟩ := h.origin found
    rw [(drops id n).2.1]
    exact (w.once hn).filter _

theorem leads_drop (h : Becomes a b g) (drops : Drops g s t k) (step : b.Leads x y) :
    a.Leads x y := by
  obtain ⟨m, hm, mem⟩ := step
  obtain ⟨n, hn, rfl⟩ := h.origin hm
  rw [Node.targets, (drops x n).1] at mem
  exact ⟨n, hn, (List.filter_sublist.map _).subset mem⟩

/-- Where at most one element satisfies `p`, to erase the first is to filter. -/
theorem eraseP_eq_filter {α : Type} {p : α → Bool} {l : List α}
    (h : l.Pairwise fun x y => ¬(p x = true ∧ p y = true)) :
    l.eraseP p = l.filter (fun x => !p x) := by
  induction l with
  | nil => rfl
  | cons x l ih =>
    rw [List.pairwise_cons] at h
    by_cases px : p x = true
    · have rest : l.filter (fun x => !p x) = l := by
        rw [List.filter_eq_self]
        intro y mem
        simpa using fun py => h.1 y mem ⟨px, py⟩
      simp [px, rest]
    · simp [px, ih h.2]

theorem Wired.eraseForward (w : a.Wired) {n : Node} (found : a.get? x = some n) (t : NodeId)
    (k : EdgeKind) : (n.eraseForward t k).forward =
      n.forward.filter (fun r => !(r.target = t && r.kind = k)) := by
  refine eraseP_eq_filter ?_
  -- two edges with that target would be one and the same
  refine List.Pairwise.imp ?_ (List.pairwise_map.mp (w.targets found))
  intro r r' differ
  simp only [Bool.and_eq_true, decide_eq_true_eq]
  rintro ⟨⟨rfl, -⟩, ⟨same, -⟩⟩
  exact differ same.symm

theorem Wired.eraseInverse (w : a.Wired) {n : Node} (found : a.get? x = some n) (s : NodeId)
    (k : EdgeKind) : (n.eraseInverse s k).inverse =
      n.inverse.filter (fun r => !(r.source = s && r.kind = k)) := by
  refine eraseP_eq_filter ((w.once found).pairwise_of_forall_ne ?_)
  intro r hr r' hr' differ
  simp only [Bool.and_eq_true, decide_eq_true_eq]
  rintro ⟨⟨rfl, -⟩, ⟨same, -⟩⟩
  exact differ (w.eq_of_source found hr hr' same.symm)

/-! ### Parents -/

/-- A link changes no parent edge. -/
theorem Parented.push_link (p : a.Parented) (h : Becomes a b g) (pushes : Pushes g f)
    (link : f.kind = .link) (same : ∀ id n, (g id n).parent = n.parent) : b.Parented := by
  have pushed : ∀ id n, ∃ l : List Reference, (g id n).inverse = n.inverse ++ l ∧
      ∀ r ∈ l, r.isChild = false := by
    intro id n
    refine ⟨_, (pushes id n).2.1, ?_⟩
    split
    · simp [Reference.isChild, Reference.flip, link]
    · simp
  constructor
  · intro id m found
    obtain ⟨n, hn, rfl⟩ := h.origin found
    obtain ⟨l, eq, links⟩ := pushed id n
    have none : l.countP Reference.isChild = 0 := by simpa using links
    rw [eq, List.countP_append, none]
    exact p.single hn
  · intro id m found
    obtain ⟨n, hn, rfl⟩ := h.origin found
    obtain ⟨l, eq, links⟩ := pushed id n
    have none : l.find? Reference.isChild = none := by simpa using links
    rw [same, edgeParent, eq, List.find?_append, none, Option.or_none]
    exact p.parent hn
  · intro id m r found mem child
    obtain ⟨n, hn, rfl⟩ := h.origin found
    obtain ⟨l, eq, links⟩ := pushed id n
    rw [(pushes id n).2.2]
    rw [eq, List.mem_append] at mem
    rcases mem with mem | mem
    · exact p.name hn mem child
    · simp [links r mem] at child

/-- A child edge makes a parent of a node that has none. -/
theorem Parented.push_child (p : a.Parented) (h : Becomes a b g) (pushes : Pushes g f)
    (target : a.get? f.target = some aim) (child : f.kind = .child) (orphan : aim.parent = none)
    (name : f.identifier = aim.identifier)
    (parent : ∀ id n, (g id n).parent = if f.target = id then some f.source else n.parent) :
    b.Parented := by
  -- a node without a parent has no parent edge either
  have bare : ∀ r ∈ aim.inverse, r.isChild = false := by
    have := (p.parent target).symm.trans orphan
    simpa [edgeParent] using this
  have childF : f.flip.isChild = true := by simp [Reference.isChild, Reference.flip, child]
  constructor
  · intro id m found
    obtain ⟨n, hn, rfl⟩ := h.origin found
    rw [(pushes id n).2.1, List.countP_append]
    split
    · next here =>
      have same : n = aim := Option.some.inj ((here ▸ hn).symm.trans target)
      subst same
      have none : n.inverse.countP Reference.isChild = 0 := by simpa using bare
      simp [none, childF]
    · simpa using p.single hn
  · intro id m found
    obtain ⟨n, hn, rfl⟩ := h.origin found
    rw [parent, edgeParent, (pushes id n).2.1, List.find?_append]
    split
    · next here =>
      have same : n = aim := Option.some.inj ((here ▸ hn).symm.trans target)
      subst same
      have none : n.inverse.find? Reference.isChild = none := by simpa using bare
      rw [none, Option.none_or, List.find?_singleton, if_pos childF, Option.map_some]
      rfl
    · rw [p.parent hn, edgeParent]
      simp
  · intro id m r found mem own
    obtain ⟨n, hn, rfl⟩ := h.origin found
    rw [(pushes id n).2.2]
    rw [(pushes id n).2.1, List.mem_append] at mem
    rcases mem with mem | mem
    · exact p.name hn mem own
    · split at mem
      · next here =>
        have same : n = aim := Option.some.inj ((here ▸ hn).symm.trans target)
        rw [List.mem_singleton] at mem
        subst mem same
        exact name
      · simp at mem

/-- To unmake a link changes no parent edge. -/
theorem Parented.drop_link (p : a.Parented) (h : Becomes a b g) (drops : Drops g s t .link)
    (same : ∀ id n, (g id n).parent = n.parent) : b.Parented := by
  have kept : ∀ id (r : Reference), r.isChild = true →
      (!(t = id && r.source = s && r.kind = .link)) = true := by
    intro id r child
    have : r.kind = .child := by simpa [Reference.isChild] using child
    simp [this]
  constructor
  · intro id m found
    obtain ⟨n, hn, rfl⟩ := h.origin found
    rw [(drops id n).2.1]
    exact Nat.le_trans List.filter_sublist.countP_le (p.single hn)
  · intro id m found
    obtain ⟨n, hn, rfl⟩ := h.origin found
    rw [same, p.parent hn, edgeParent, edgeParent, (drops id n).2.1, List.find?_filter]
    congr 2
    funext r
    cases child : r.isChild with
    | true => simpa using kept id r child
    | false => simp
  · intro id m r found mem child
    obtain ⟨n, hn, rfl⟩ := h.origin found
    rw [(drops id n).2.1, List.mem_filter] at mem
    rw [(drops id n).2.2]
    exact p.name hn mem.1 child

/-- To unmake its parent edge leaves a node without a parent. -/
theorem Parented.drop_child (p : a.Parented) (h : Becomes a b g) (drops : Drops g s t .child)
    (w : a.Wired) (owned : a.Owns s t)
    (parent : ∀ id n, (g id n).parent = if t = id then none else n.parent) : b.Parented := by
  constructor
  · intro id m found
    obtain ⟨n, hn, rfl⟩ := h.origin found
    rw [(drops id n).2.1]
    exact Nat.le_trans List.filter_sublist.countP_le (p.single hn)
  · intro id m found
    obtain ⟨n, hn, rfl⟩ := h.origin found
    rw [parent, edgeParent, (drops id n).2.1]
    split
    · next here =>
      -- every child edge that ends at `t` starts at `s`
      subst here
      symm
      rw [Option.map_eq_none_iff, List.find?_eq_none]
      intro r mem child
      rw [List.mem_filter] at mem
      have source : r.source = s :=
        owner_unique w p ((w.owns_iff hn).mpr ⟨r, mem.1, child, rfl⟩) owned
      have kind : r.kind = .child := by simpa [Reference.isChild] using child
      simp [source, kind] at mem
    · next elsewhere =>
      rw [p.parent hn, edgeParent]
      simp [elsewhere]
  · intro id m r found mem child
    obtain ⟨n, hn, rfl⟩ := h.origin found
    rw [(drops id n).2.1, List.mem_filter] at mem
    rw [(drops id n).2.2]
    exact p.name hn mem.1 child

/-! ### The operations -/

/-- The node at `id` once the edge `f` is added. -/
def pushed (f : Reference) (id : NodeId) (n : Node) : Node :=
  { n with
    forward := n.forward ++ (if f.source = id then [f] else [])
    inverse := n.inverse ++ (if f.target = id then [f.flip] else []) }

/-- The node at `id` once the edge of kind `k` from `s` to `t` is taken out. -/
def dropped (s t : NodeId) (k : EdgeKind) (id : NodeId) (n : Node) : Node :=
  { n with
    forward := n.forward.filter fun r => !(s = id && r.target = t && r.kind = k)
    inverse := n.inverse.filter fun r => !(t = id && r.source = s && r.kind = k) }

theorem pushes_pushed (f : Reference) : Pushes (pushed f) f :=
  fun _ _ => ⟨rfl, rfl, rfl⟩

theorem drops_dropped (s t : NodeId) (k : EdgeKind) : Drops (dropped s t k) s t k :=
  fun _ _ => ⟨rfl, rfl, rfl⟩

theorem becomes_link (a : Arena) (source target : NodeId) (name : Identifier) :
    Becomes a (a.link source target name) (pushed ⟨name, source, target, .link, .forward⟩) := by
  intro id
  rw [link, get?_modify, get?_modify]
  cases a.get? id with
  | none => simp
  | some n =>
    by_cases hs : source = id <;> by_cases ht : target = id <;>
      simp [pushed, hs, ht, Reference.halves, Node.pushForward, Node.pushInverse]

theorem Wired.becomes_unlink (w : a.Wired) (source target : NodeId) :
    Becomes a (a.unlink source target) (dropped source target .link) := by
  intro id
  rw [unlink, get?_modify, get?_modify]
  cases found : a.get? id with
  | none => simp
  | some n =>
    have hf := w.eraseForward found target .link
    have hi := w.eraseInverse found source .link
    simp only [Node.eraseForward, Node.eraseInverse] at hf hi
    by_cases hs : source = id <;> by_cases ht : target = id <;>
      simp_all [dropped, Node.eraseForward, Node.eraseInverse]

theorem Wired.becomes_detach (w : a.Wired) (parent child : NodeId) :
    Becomes a (a.detach parent child) fun id n =>
      { dropped parent child .child id n with
        parent := if child = id then none else n.parent } := by
  intro id
  rw [detach, get?_modify, get?_modify]
  cases found : a.get? id with
  | none => simp
  | some n =>
    have hf := w.eraseForward found child .child
    have hi := w.eraseInverse found parent .child
    simp only [Node.eraseForward, Node.eraseInverse] at hf hi
    by_cases hs : parent = id <;> by_cases ht : child = id <;>
      simp_all [dropped, Node.eraseForward, Node.eraseInverse]

variable {root : Identifier}

/-- A link that fits and closes no cycle may be made. -/
theorem Sound.link (sound : a.Sound root) {source target : NodeId} {name : Identifier}
    (fits : Fits a ⟨name, source, target, .link, .forward⟩ holder aim)
    (open_ : ¬ReflTransGen a.Leads target source) : (a.link source target name).Sound root where
  wired := sound.wired.push (becomes_link a source target name) (pushes_pushed _) fits
  parented := sound.parented.push_link (becomes_link a source target name) (pushes_pushed _) rfl
    fun _ _ => rfl
  acyclic := sound.acyclic.push
    (fun _ _ => leads_push (becomes_link a source target name) (pushes_pushed _)) open_
  addressed := sound.addressed.congr (becomes_link a source target name)
    (fun _ _ => ⟨rfl, rfl⟩) fun _ _ _ parent => parent

/-- Any link may be unmade, also one that is not there. -/
theorem Sound.unlink (sound : a.Sound root) (source target : NodeId) :
    (a.unlink source target).Sound root where
  wired := sound.wired.drop (sound.wired.becomes_unlink source target) (drops_dropped _ _ _)
  parented := sound.parented.drop_link (sound.wired.becomes_unlink source target)
    (drops_dropped _ _ _) fun _ _ => rfl
  acyclic := sound.acyclic.mono fun _ _ =>
    leads_drop (sound.wired.becomes_unlink source target) (drops_dropped _ _ _)
  addressed := sound.addressed.congr (sound.wired.becomes_unlink source target)
    (fun _ _ => ⟨rfl, rfl⟩) fun _ _ _ parent => parent

/-- A child edge that is there may be unmade. -/
theorem Sound.detach (sound : a.Sound root) {parent child : NodeId} (owned : a.Owns parent child) :
    (a.detach parent child).Sound root := by
  have becomes := sound.wired.becomes_detach parent child
  have drops : Drops (fun id n => { dropped parent child .child id n with
      parent := if child = id then none else n.parent }) parent child .child :=
    fun _ _ => ⟨rfl, rfl, rfl⟩
  refine ⟨sound.wired.drop becomes drops, ?_, ?_, ?_⟩
  · exact sound.parented.drop_child becomes drops sound.wired owned fun _ _ => rfl
  · exact sound.acyclic.mono fun _ _ => leads_drop becomes drops
  · refine sound.addressed.congr becomes (fun _ _ => ⟨rfl, rfl⟩) fun id n p h => ?_
    by_cases here : child = id
    · simp [here] at h
    · simpa [here] using h

end

end DeviceTree.Arena
