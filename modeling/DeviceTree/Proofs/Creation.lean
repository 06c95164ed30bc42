/-
Creating elements keeps the invariant.

A new element takes a place that nothing refers to.  `Sprouts a b` says that `b` has nodes without
edges besides those of `a`, and `Grows a b` that no path leads from the new nodes of `b` back to
those of `a`; a data element gets its parts before it goes under its parent, and by then it is still
on its own.

* `Sound.ofRoot` -- a new tree;
* `Furnished.settle` -- a new element, with or without parts, may go under its parent;
* `Store.create_sound`, `Store.createData_sound` -- the two requests.
-/
import DeviceTree.Proofs.Attach
import DeviceTree.Proofs.Request

namespace DeviceTree

open Relation

namespace Arena

variable {a b c : Arena} {root name : Identifier} {x y p : NodeId} {node above : Node}

theorem get?_nextId (a : Arena) : a.get? a.nextId = none := by
  cases found : a.get? a.nextId with
  | none => rfl
  | some n => exact absurd (index_lt_of_get? found) (Nat.lt_irrefl _)

/-! ### Nodes without edges -/

/-- The node is not connected to any other. -/
def Bare (n : Node) : Prop :=
  n.forward = [] ∧ n.inverse = [] ∧ n.parent = none

theorem bare_fresh (name : Identifier) (kind : ElementKind) (attachment : Option String)
    (address : String) : Bare (.fresh name kind attachment address) :=
  ⟨rfl, rfl, rfl⟩

/-- Besides the nodes of `a`, the arena `b` has only bare ones. -/
structure Sprouts (a b : Arena) : Prop where
  kept : ∀ {id n}, a.get? id = some n → b.get? id = some n
  bare : ∀ {id n}, b.get? id = some n → a.get? id = some n ∨ Bare n

theorem sprouts_push (a : Arena) (bare : Bare node) : Sprouts a (a.push node) where
  kept {id n} found := by
    have differ : id ≠ a.nextId := by
      rintro rfl
      simp [get?_nextId] at found
    rw [get?_push, if_neg differ, found]
  bare {id n} found := by
    rw [get?_push] at found
    split at found
    · simp only [Option.some.injEq] at found
      exact .inr (found ▸ bare)
    · exact .inl found

theorem Sprouts.leads (h : Sprouts a b) (step : b.Leads x y) : a.Leads x y := by
  obtain ⟨n, found, mem⟩ := step
  rcases h.bare found with found | ⟨none, -, -⟩
  · exact ⟨n, found, mem⟩
  · simp [Node.targets, none] at mem

theorem Wired.sprout (w : a.Wired) (h : Sprouts a b) : b.Wired where
  names found := by
    rcases h.bare found with found | ⟨none, -, -⟩
    · exact w.names found
    · simp [Node.foldedNames, none]
  targets found := by
    rcases h.bare found with found | ⟨none, -, -⟩
    · exact w.targets found
    · simp [Node.targets, none]
  forward found mem := by
    rcases h.bare found with found | ⟨none, -, -⟩
    · obtain ⟨way, here, m, hm, half⟩ := w.forward found mem
      exact ⟨way, here, m, h.kept hm, half⟩
    · simp [none] at mem
  inverse found mem := by
    rcases h.bare found with found | ⟨-, none, -⟩
    · obtain ⟨way, here, m, hm, half⟩ := w.inverse found mem
      exact ⟨way, here, m, h.kept hm, half⟩
    · simp [none] at mem
  once found := by
    rcases h.bare found with found | ⟨-, none, -⟩
    · exact w.once found
    · simp [none]

theorem Parented.sprout (q : a.Parented) (h : Sprouts a b) : b.Parented where
  single found := by
    rcases h.bare found with found | ⟨-, none, -⟩
    · exact q.single found
    · simp [none]
  parent found := by
    rcases h.bare found with found | ⟨-, none, orphan⟩
    · exact q.parent found
    · simp [edgeParent, none, orphan]
  name found mem child := by
    rcases h.bare found with found | ⟨-, none, -⟩
    · exact q.name found mem child
    · simp [none] at mem

/-- Bare nodes may come up anywhere. -/
theorem Sound.sprout (sound : a.Sound root) (h : Sprouts a b) : b.Sound root where
  wired := sound.wired.sprout h
  parented := sound.parented.sprout h
  acyclic := sound.acyclic.mono fun _ _ => h.leads
  addressed := by
    constructor
    · intro id n p above found child up
      rcases h.bare found with old | ⟨-, -, orphan⟩
      · have owned := (parent_eq_some_iff sound.wired sound.parented old).mp child
        obtain ⟨m, hm, -⟩ := owned
        obtain rfl : above = m := Option.some.inj (up.symm.trans (h.kept hm))
        exact sound.addressed.below old child hm
      · simp [orphan] at child
    · obtain ⟨n, found, rest⟩ := sound.addressed.root
      exact ⟨n, h.kept found, rest⟩

/-- The arena of a new tree has one bare node. -/
theorem Sound.ofRoot (root : Identifier) : (Arena.ofRoot root).Sound root := by
  have only : ∀ {id n}, (Arena.ofRoot root).get? id = some n →
      id = .root ∧ n = .fresh root .group none root.text := by
    intro id n found
    have here := index_lt_of_get? found
    simp only [Arena.ofRoot, List.size_toArray, List.length_singleton] at here
    obtain rfl : id = .root := congrArg NodeId.mk (show id.index = 0 by omega)
    exact ⟨rfl, (Option.some.inj found).symm⟩
  -- all but the addresses is as it is where there are no nodes at all
  have nothing : Sprouts ⟨#[]⟩ (Arena.ofRoot root) := by
    constructor
    · intro id n found
      simp [get?] at found
    · intro id n found
      obtain ⟨-, rfl⟩ := only found
      exact .inr (bare_fresh _ _ _ _)
  have empty : ∀ {id : NodeId} {n : Node}, get? ⟨#[]⟩ id ≠ some n := by simp [get?]
  refine ⟨?_, ?_, ?_, ?_⟩
  · exact Wired.sprout ⟨fun h => absurd h empty, fun h => absurd h empty, fun h => absurd h empty,
      fun h => absurd h empty, fun h => absurd h empty⟩ nothing
  · exact Parented.sprout ⟨fun h => absurd h empty, fun h => absurd h empty,
      fun h => absurd h empty⟩ nothing
  · refine Acyclic.mono (a := ⟨#[]⟩) ?_ fun _ _ => nothing.leads
    intro x cycle
    obtain ⟨_, ⟨n, found, -⟩, -⟩ := TransGen.head'_iff.mp cycle
    exact empty found
  · constructor
    · intro id n p above found child up
      obtain ⟨-, rfl⟩ := only found
      simp [Node.fresh] at child
    · exact ⟨_, rfl, rfl, rfl, rfl⟩

/-! ### Nodes with edges among themselves -/

/-- The nodes of `a` are the same in `b`, and the new nodes of `b` do not lead to them. -/
structure Grows (a b : Arena) : Prop where
  kept : ∀ {id n}, a.get? id = some n → b.get? id = some n
  apart : ∀ {x y}, b.Leads x y → a.get? x = none → a.get? y = none

theorem Grows.path (h : Grows a b) (path : ReflTransGen b.Leads x y) (new : a.get? x = none) :
    a.get? y = none := by
  induction path with
  | refl => exact new
  | tail _ step ih => exact h.apart step ih

theorem Sprouts.grows (h : Sprouts a b) : Grows a b where
  kept := h.kept
  apart step new := by
    obtain ⟨n, found, -⟩ := h.leads step
    simp [new] at found

/-- Outside of the subtree that is attached, only the parent changes. -/
theorem get?_attach_of_outside {above below : Node} (hp : a.get? p = some above)
    (hx : a.get? x = some below) (found : a.get? y = some node) (differ : p ≠ y)
    (outside : ¬ReflTransGen a.Owns x y) : (a.attach p x name).get? y = some node := by
  have hy : x ≠ y := fun e => outside (e ▸ .refl)
  rw [(becomes_attach hp hx name).live found, afterAttach, addressAt_readdressed hx outside,
    addressAt_of_get? found]
  simp [pushed, childEdge, differ, hy]

/-- The new element `x` of `b`, known as `name`, is on its own still; the names of its parts are
among `used`. -/
structure Furnished (a b : Arena) (root : Identifier) (x : NodeId) (name : Identifier)
    (used : List String) : Prop where
  grows : Grows a b
  sound : b.Sound root
  new : a.get? x = none
  node : ∃ n, b.get? x = some n ∧ n.parent = none ∧ n.identifier = name ∧ n.foldedNames ⊆ used

/-- A new element starts bare. -/
theorem furnished_push (sound : a.Sound root) (name : Identifier) (kind : ElementKind)
    (attachment : Option String) (address : String) :
    Furnished a (a.push (.fresh name kind attachment address)) root a.nextId name [] where
  grows := (sprouts_push a (bare_fresh name kind attachment address)).grows
  sound := sound.sprout (sprouts_push a (bare_fresh name kind attachment address))
  new := get?_nextId a
  node := ⟨.fresh name kind attachment address, by simp, rfl, rfl, List.nil_subset _⟩

section

variable {used : List String}

theorem Furnished.fits (h : Furnished a b root x name used) (base : a.Sound root)
    (hp : a.get? p = some above) (free : above.named? name.text = none) :
    ∃ below, Fits b (childEdge p x name) above below ∧ below.parent = none ∧
      name = below.identifier := by
  obtain ⟨n, found, orphan, named, -⟩ := h.node
  refine ⟨n, ⟨h.grows.kept hp, found, rfl, free, ?_⟩, orphan, named.symm⟩
  -- nothing in `a` leads to the new element, its parent included
  rw [Node.toward?_eq_none_iff]
  intro mem
  obtain ⟨m, hm⟩ := base.wired.live_of_leads ⟨above, hp, mem⟩
  exact absurd (h.new.symm.trans hm) (by simp)

/-- **A new element may go under its parent**, if its name is free there. -/
theorem Furnished.settle (h : Furnished a b root x name used) (base : a.Sound root)
    (hp : a.get? p = some above) (free : above.named? name.text = none) :
    (b.attach p x name).Sound root := by
  obtain ⟨below, fits, orphan, named⟩ := h.fits base hp free
  refine h.sound.attach fits orphan ?_ named ?_
  · rintro rfl
    obtain ⟨n, found, -⟩ := base.addressed.root
    simp [h.new] at found
  · intro path
    rw [h.grows.path path h.new] at hp
    simp at hp

/-- One more part. -/
theorem Furnished.part (h : Furnished a b root x name used) {part : Identifier}
    (free : Text.fold part.text ∉ used) (kind : ElementKind) (attachment : Option String)
    (address : String) :
    Furnished a ((b.push (.fresh part kind attachment address)).attach x b.nextId part) root x name
      (Text.fold part.text :: used) := by
  obtain ⟨n, found, orphan, named, names⟩ := h.node
  have fresh := furnished_push h.sound part kind attachment address
  have unnamed : n.named? part.text = none :=
    Node.named?_eq_none_iff.mpr fun mem => free (names mem)
  obtain ⟨below, fits, -, -⟩ := fresh.fits h.sound found unnamed
  have hx : get? _ x = some n := fits.source
  have hp : get? _ b.nextId = some below := fits.target
  have becomes := becomes_attach hx hp part
  have differ : b.nextId ≠ x := by
    intro e
    rw [← e, get?_nextId] at found
    simp at found
  -- the part is as new to `a` as the element is
  have newPart : a.get? b.nextId = none := by
    cases old : a.get? b.nextId with
    | none => rfl
    | some m => simpa [get?_nextId] using h.grows.kept old
  refine ⟨⟨?_, ?_⟩, fresh.settle h.sound found unnamed, h.new, ?_⟩
  · -- the part goes under the new element and takes along nothing that was there
    intro id m old
    have kept := fresh.grows.kept (h.grows.kept old)
    refine get?_attach_of_outside hx hp kept ?_ ?_
    · rintro rfl
      simp [h.new] at old
    · intro path
      have path := ReflTransGen.mono (fun _ _ => Owns.leads) _ _ path
      simpa [fresh.grows.path path fresh.new] using h.grows.kept old
  · intro y z step new
    rcases leads_push becomes (pushes_afterAttach _) step with step | ⟨rfl, rfl⟩
    · have old := (sprouts_push b (bare_fresh part kind attachment address)).leads step
      exact h.grows.apart old new
    · exact newPart
  · refine ⟨_, becomes.live hx, ?_, named, ?_⟩
    · simpa [afterAttach, differ] using orphan
    · intro z mem
      simp only [Node.foldedNames, afterAttach, pushed, childEdge, if_true, List.map_append,
        List.map_singleton, List.mem_append, List.mem_singleton] at mem
      rcases mem with mem | rfl
      · exact List.mem_cons_of_mem _ (names mem)
      · exact List.mem_cons_self

end

end Arena

/-! ### The requests -/

namespace Store

open Arena

variable {s : Store} {root name : Identifier} {a : Arena} {x : NodeId} {used : List String}

/-- The names of the parts of a data element differ. -/
theorem nodup_parts (options : DataOptions) :
    (options.parts.map fun part => Text.fold part.1.text).Nodup := by
  -- an element that is not writable lacks the second part
  have apart : (["getdata", "setdata", "datachanged"].map Text.fold).Nodup := by
    refine List.Nodup.of_map String.toList ?_
    simp only [List.map_cons, List.map_nil, Text.toList_fold]
    decide
  obtain ⟨writable, storage, sender⟩ := options
  cases writable with
  | false => exact apart.sublist (.cons_cons _ (.cons _ (.refl _)))
  | true => exact apart

/-- All parts of a data element may be created. -/
theorem furnished_parts (parts : List (Identifier × ElementKind × Option String)) :
    ∀ {s : Store} {used : List String}, Furnished a s.arena root x name used →
      (parts.map fun part => Text.fold part.1.text).Nodup →
      (∀ part ∈ parts, Text.fold part.1.text ∉ used) →
      ∃ used', Furnished a (parts.foldl (createPart x) s).arena root x name used' := by
  induction parts with
  | nil =>
    intro s used h _ _
    exact ⟨used, h⟩
  | cons part parts ih =>
    intro s used h differ free
    obtain ⟨partName, kind, attachment⟩ := part
    simp only [List.map_cons, List.nodup_cons, List.forall_mem_cons] at differ free
    refine ih (s := createPart x s (partName, kind, attachment))
      (h.part free.1 kind attachment partName.text) differ.2 ?_
    intro other mem used
    rcases List.mem_cons.mp used with same | used
    · exact differ.1 (same ▸ List.mem_map_of_mem mem)
    · exact free.2 other mem used

/-- A new element with all its parts. -/
theorem furnished_data (sound : s.arena.Sound root) (name : Identifier) (options : DataOptions)
    (address : String) :
    ∃ used, Furnished s.arena (options.parts.foldl (createPart s.arena.nextId)
      (s.insert (.fresh name .data options.storage address))).arena root s.arena.nextId name used :=
  furnished_parts options.parts (furnished_push sound name .data options.storage address)
    (nodup_parts options) fun _ _ => List.not_mem_nil

theorem settled_sound {t : Store} (base : s.arena.Sound root)
    (h : Furnished s.arena t.arena root x name used) {parent : Option NodeId} {above : Option Node}
    (free : s.FreeUnder parent name above) : (t.settled parent x name).arena.Sound root := by
  cases parent with
  | none => exact h.sound
  | some p =>
    obtain ⟨node, found, unnamed, -⟩ := free
    exact h.settle base found unnamed

theorem create_sound {parent : Option NodeId} {identifier : String} {kind : ElementKind}
    {attachment : Option String} {c : Change NodeId} {t : Store} (sound : s.arena.Sound root)
    (h : create parent identifier kind attachment s = .ok c t) : t.arena.Sound root := by
  obtain ⟨name, above, -, free, -, rfl⟩ := create_ok.mp h
  exact settled_sound sound (furnished_push sound name kind attachment _) free

theorem createData_sound {parent : Option NodeId} {identifier : String} {options : DataOptions}
    {c : Change NodeId} {t : Store} (sound : s.arena.Sound root)
    (h : createData parent identifier options s = .ok c t) : t.arena.Sound root := by
  obtain ⟨name, above, -, free, -, rfl⟩ := createData_ok.mp h
  obtain ⟨used, furnished⟩ := furnished_data sound name options (newAddress above name)
  exact settled_sound sound furnished free

end Store

end DeviceTree
