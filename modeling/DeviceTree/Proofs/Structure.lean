/-
Every tree that comes about is sound.

Each mutation keeps the structural invariant, under the lock of the tree or within a transaction,
and nothing else that a session does touches edges, names or addresses.

* `apply_sound` -- what one mutation preserves;
* `invariant_upright` -- what everything preserves that a session does to its store;
* `reachable_sound` -- every reachable session has a sound arena, and passes verification.
-/
import DeviceTree.Proofs.Creation
import DeviceTree.Proofs.Departure
import DeviceTree.Proofs.Effect
import DeviceTree.Proofs.Invariant
import DeviceTree.Proofs.Refusal
import DeviceTree.Proofs.Verification

namespace DeviceTree

open Relation Arena

namespace Store

variable {s t : Store} {root : Identifier}

/-! ### Mutations -/

theorem not_leads_of_leadsTo {a : Arena} {x y : NodeId} (h : a.leadsTo x y = false) :
    ¬ReflTransGen a.Leads x y := by
  rw [← leadsTo_iff, h]
  exact Bool.false_ne_true

theorem add_sound {parent child : NodeId} {c : Change Unit} (sound : s.arena.Sound root)
    (h : add parent child s = .ok c t) : t.arena.Sound root := by
  obtain ⟨above, below, hp, hc, apart, free, notRoot, orphan, open_, -, rfl⟩ := add_ok.mp h
  have fits : Fits s.arena (childEdge parent child below.identifier) above below :=
    ⟨hp, hc, rfl, free, apart⟩
  exact sound.attach fits orphan notRoot rfl (not_leads_of_leadsTo open_)

theorem remove_sound {parent child : NodeId} {c : Change Unit} (sound : s.arena.Sound root)
    (h : remove parent child s = .ok c t) : t.arena.Sound root := by
  obtain ⟨above, below, r, hp, -, found, child, -, -, rfl⟩ := remove_ok.mp h
  refine sound.detach ((owns_iff_mem hp).mpr ?_)
  simp only [Node.childIds, Node.children, List.mem_map, List.mem_filter]
  have target := List.find?_some found
  exact ⟨r, ⟨List.mem_of_find?_eq_some found, child⟩, by simpa using target⟩

theorem link_sound {source target : NodeId} {identifier : Option String} {c : Change Unit}
    (sound : s.arena.Sound root) (h : link source target identifier s = .ok c t) :
    t.arena.Sound root := by
  obtain ⟨holder, aim, name, hs, ht, -, apart, free, -, open_, -, rfl⟩ := link_ok.mp h
  have fits : Fits s.arena ⟨name, source, target, .link, .forward⟩ holder aim :=
    ⟨hs, ht, rfl, free, apart⟩
  exact sound.link fits (not_leads_of_leadsTo open_)

theorem unlink_sound {source : NodeId} {selector : LinkChoice} {c : Change Identifier}
    (sound : s.arena.Sound root) (h : unlink source selector s = .ok c t) :
    t.arena.Sound root := by
  obtain ⟨holder, r, -, -, -, -, rfl⟩ := unlink_ok.mp h
  exact sound.unlink source r.target

/-- **A mutation that is granted keeps the structural invariant.** -/
theorem apply_sound {m : Mutation} {c : Change Answer} (sound : s.arena.Sound root)
    (h : m.apply s = .ok c t) : t.arena.Sound root := by
  cases m <;> obtain ⟨c', granted, -⟩ := Request.map_ok.mp h
  case create => exact create_sound sound granted
  case createData => exact createData_sound sound granted
  case add => exact add_sound sound granted
  case remove => exact remove_sound sound granted
  case link => exact link_sound sound granted
  case unlink => exact unlink_sound sound granted
  case discard => exact discard_sound sound granted

/-! ### Stores -/

/-- The arena is sound, and its root is spelled `name`. -/
structure Upright (name : String) (s : Store) : Prop where
  sound : s.arena.Sound s.rootIdentifier
  named : s.rootIdentifier.text = name

/-- No effect of a request gives the root another name. -/
theorem simulation_rootIdentifier (root : Identifier) :
    Simulation fun s s' => s = s' ∧ s.rootIdentifier = root where
  arena h := by rw [h.1]
  insert h _ := ⟨by rw [h.1], h.2⟩
  makeChild h _ _ _ := ⟨by rw [h.1], h.2⟩
  unmakeChild h _ _ := ⟨by rw [h.1], h.2⟩
  makeLink h _ _ _ := ⟨by rw [h.1], h.2⟩
  unmakeLink h _ _ := ⟨by rw [h.1], h.2⟩
  vacate h _ := by
    refine ⟨by rw [h.1], ?_⟩
    unfold vacate
    split <;> exact h.2
  invalidate h := ⟨by rw [h.1], h.2⟩

theorem rootIdentifier_of_apply {m : Mutation} {c : Change Answer} (h : m.apply s = .ok c t) :
    t.rootIdentifier = s.rootIdentifier := by
  have named := (simulation_rootIdentifier s.rootIdentifier).apply m s s ⟨rfl, rfl⟩
  rw [h] at named
  cases named with
  | ok _ named => exact named.2

/-- A mutation either is granted or leaves the store alone. -/
theorem leftBy_apply (m : Mutation) (s : Store) :
    (∃ c t, m.apply s = .ok c t ∧ s.leftBy m.apply = t) ∨ s.leftBy m.apply = s := by
  unfold leftBy
  rcases clean_apply m s with ⟨c, t, granted⟩ | ⟨e, refused, -⟩
  · exact .inl ⟨c, t, granted, by rw [granted]⟩
  · exact .inr (by rw [refused])

theorem invariant_upright (name : String) : Invariant (Upright name) where
  apply {s} h m := by
    rcases leftBy_apply m s with ⟨c, t, granted, left⟩ | left
    · have same := rootIdentifier_of_apply granted
      rw [left]
      exact ⟨same ▸ apply_sound h.sound granted, same ▸ h.named⟩
    · rw [left]
      exact h
  resolve {s} h address := by
    unfold Store.resolve
    dsimp only
    split
    · exact ⟨h.sound, h.named⟩
    · split <;> exact ⟨h.sound, h.named⟩
  observers {s} h node f subscribers := by
    refine ⟨h.sound.congr (becomes_modify s.arena node _) ?_ ?_, h.named⟩
    · intro id n
      by_cases here : node = id <;> simp [here]
    · intro id n
      by_cases here : node = id <;> simp [here]
  lock h _ := ⟨h.sound, h.named⟩
  count h _ := ⟨h.sound, h.named⟩

theorem upright_of_reachable {options : Options} {s : Session Empty} (h : s.Reachable options) :
    s.tree.store.Upright options.rootIdentifier :=
  (invariant_upright options.rootIdentifier).reachable
    (fun root named => ⟨Sound.ofRoot root, named⟩) h

end Store

/-! ### Reachable sessions -/

/-- **Every reachable tree is sound**: its references pair up, its parents and addresses fit
together under a root of the name that was asked for, and no path of edges comes back to where it
started.  Verification passes whenever it is admitted. -/
theorem reachable_sound (options : Options) (s : Session Empty) (h : s.Reachable options) :
    s.tree.store.arena.Sound s.tree.store.rootIdentifier ∧
      s.tree.store.rootIdentifier.text = options.rootIdentifier ∧
      (s.tree.store.lock.writer = false →
        ∃ v, s.tree.perform .verify = s.tree.yield (.ok (.verdict v)) ∧ v.success = true) := by
  have upright := Store.upright_of_reachable h
  refine ⟨upright.sound, upright.named, fun unlocked => ?_⟩
  refine ⟨s.tree.store.arena.verdict s.tree.store.rootIdentifier, ?_, ?_⟩
  · simp only [Tree.perform, Tree.performWith, Store.verify_of_unlocked unlocked, Except.map]
  · exact verdict_success_iff.mpr upright.sound.intact

/-- A session in which an observer of the root creates another element as soon as a data element is
there, and a transaction is open afterwards. -/
def Session.furnished : Session Empty :=
  let new : Session Empty := ⟨.ofStore .standard, #[]⟩
  let late : Op Empty := .mutate (.create (some .root) "late" .group none)
  let watched := new.next (.perform (.subscribe .root "watch" (.call 1 [late])))
  let pump : Mutation := .createData (some .root) "pump" ⟨true, none, none⟩
  let grown := watched.next (.perform (.mutate pump))
  grown.next .beginWrite

theorem reachable_sound_furnished :
    Session.furnished.Reachable .standard ∧ Session.furnished.tree.store.arena.size = 6 ∧
      Session.furnished.tree.store.arena.Sound Session.furnished.tree.store.rootIdentifier := by
  have reached : Session.furnished.Reachable .standard :=
    (((Session.Reachable.fresh rfl).next _).next _).next _
  refine ⟨reached, ?_, ?_⟩
  · decide +kernel
  · exact (reachable_sound .standard Session.furnished reached).1

end DeviceTree
