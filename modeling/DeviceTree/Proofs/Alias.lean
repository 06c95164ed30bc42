/-
A link is another name for its target.

The names in a text that follows an address lead on from the node at that address, whatever else the
address looks like; so a path that goes on behind a link leads where it leads behind the target of
the link.

* `Store.walk_below` -- what follows the address of an attached node is walked from that node;
* `alias_transparent` -- addresses by way of a link resolve as those by way of its target.
-/
import DeviceTree.Proofs.Ended
import DeviceTree.Proofs.Location
import DeviceTree.Proofs.Segments
import Mathlib

namespace DeviceTree

open Relation

namespace Store

open Arena

variable {s : Store} {id : NodeId} {n : Node}

/-- Where a text leads depends on nothing but its segments. -/
theorem walk_rooted (s : Store) (address : String) :
    s.walk (Address.segments (s.rooted address)) =
      s.walk (Address.rootedSegments address s.rootIdentifier.text) := by
  rw [rooted, Address.segments_normalize]

/-- **What follows the address of an attached node is walked from that node.** -/
theorem walk_below (sound : s.arena.Sound s.rootIdentifier) (attached : s.arena.Attached id)
    (found : s.arena.get? id = some n) (rest : String) :
    s.walk (Address.segments (s.rooted (n.address ++ "/" ++ rest))) =
      s.arena.follow id (Address.namesBelow rest) := by
  obtain ⟨path, m, found', address, way⟩ := path_of_attached sound attached
  obtain rfl : n = m := Option.some.inj (found.symm.trans found')
  rw [walk_rooted, address, Address.rootedSegments_along (List.cons_ne_nil _ path), List.map_cons,
    List.cons_append, walk, if_pos (Identifier.isNamed_text _), follow_append, way,
    Option.bind_some]

/-- Behind a link the walk goes on from its target. -/
theorem walk_link {r : Reference} (sound : s.arena.Sound s.rootIdentifier)
    (attached : s.arena.Attached id) (found : s.arena.get? id = some n) (mem : r ∈ n.forward)
    (rest : String) :
    s.walk (Address.segments
        (s.rooted (n.address ++ "/" ++ (r.identifier.text ++ "/" ++ rest)))) =
      s.arena.follow r.target (Address.namesBelow rest) := by
  rw [walk_below sound attached found, Address.namesBelow_cons, follow_cons,
    sound.wired.childNamed found mem, Option.bind_some]

end Store

/-! ### Reachable sessions -/

/-- The session once the addresses were resolved, one after the other. -/
def Session.consulted (s : Session Empty) (addresses : List String) : Session Empty :=
  s.run (addresses.map fun address => .perform (.resolve address))

theorem Session.arena_consulted (addresses : List String) :
    ∀ s : Session Empty, (s.consulted addresses).tree.store.arena = s.tree.store.arena := by
  induction addresses with
  | nil => exact fun _ => rfl
  | cons address rest ih => exact fun s => (ih _).trans (s.tree.store.arena_resolve address)

/-- **A link is another name for its target.**  An address that goes from an attached node over one
of its links leads on from the target of the link, name by name, and so to where it leads from the
address of the target, if the target is attached.  What was looked up before makes no difference, be
it one of the two addresses or any other. -/
theorem alias_transparent (options : Options) (s : Session Empty) (h : s.Reachable options)
    (source : NodeId) (attached : s.tree.store.arena.Attached source) (n : Node)
    (found : s.tree.store.arena.get? source = some n) (r : Reference) (mem : r ∈ n.links)
    (rest : String) (earlier : List String) :
    let s' := s.consulted earlier
    let goal := s.tree.store.arena.follow r.target (Address.namesBelow rest)
    (s'.tree.perform (.resolve (n.address ++ "/" ++ r.identifier.text ++ "/" ++ rest))).value =
        .ok (.maybeNode goal) ∧
      ∀ m, s.tree.store.arena.Attached r.target → s.tree.store.arena.get? r.target = some m →
        (s'.tree.perform (.resolve (m.address ++ "/" ++ rest))).value = .ok (.maybeNode goal) := by
  intro s' goal
  have reached : s'.Reachable options := h.run _
  have tidy := Store.tidy_of_reachable reached
  have arena : s'.tree.store.arena = s.tree.store.arena := s.arena_consulted earlier
  have sound := tidy.upright.sound
  rw [← arena] at attached found
  refine ⟨?_, fun m attached' found' => ?_⟩
  · have forward : r ∈ n.forward := (List.mem_filter.mp mem).1
    have walked := Store.walk_link sound attached found forward rest
    rw [perform_resolve, Store.resolve_fst tidy.coherent]
    simp only [String.append_assoc] at walked ⊢
    rw [walked, arena]
  · rw [← arena] at attached' found'
    rw [perform_resolve, Store.resolve_fst tidy.coherent,
      Store.walk_below sound attached' found' rest, arena]

/-- A session in which the root has a link to a valve that has a seat, under a name of its own. -/
def Session.aliased : Session Empty :=
  let seated := Session.piped.next (.perform (.mutate (.create (some ⟨2⟩) "seat" .group none)))
  seated.next (.perform (.mutate (.link .root ⟨2⟩ (some "Feed"))))

/-- The seat is found by way of the link, and below the valve, whichever is looked up first. -/
theorem alias_transparent_seat :
    Session.aliased.Reachable .standard ∧
      ((Session.aliased.consulted ["/pump/valve/seat"]).tree.perform
          (.resolve ("device" ++ "/" ++ "Feed" ++ "/" ++ "/seat/ "))).value =
        .ok (.maybeNode (some ⟨3⟩)) ∧
      ∃ m, Session.aliased.tree.store.arena.get? ⟨2⟩ = some m ∧
        ((Session.aliased.consulted ["/feed/seat"]).tree.perform
            (.resolve (m.address ++ "/" ++ "/seat/ "))).value =
          .ok (.maybeNode (some ⟨3⟩)) := by
  have reached : Session.aliased.Reachable .standard :=
    ((((Session.Reachable.fresh rfl).next _).next _).next _).next _
  have upright := Store.upright_of_reachable reached
  have pump : Session.aliased.tree.store.arena.Owns .root ⟨1⟩ := of_decide_eq_true (by cbv)
  have valve : Session.aliased.tree.store.arena.Owns ⟨1⟩ ⟨2⟩ := of_decide_eq_true (by cbv)
  have seat : Session.aliased.tree.store.arena.Owns ⟨2⟩ ⟨3⟩ := of_decide_eq_true (by cbv)
  have links : (Session.aliased.tree.store.arena.get? .root).map Node.links =
      some [⟨⟨"Feed", by decide⟩, .root, ⟨2⟩, .link, .forward⟩] := by cbv
  have spelled : (Session.aliased.tree.store.arena.get? ⟨3⟩).map (·.identifier.text) =
      some "seat" := by cbv
  have names : Address.namesBelow "/seat/ " = ["seat"] := by decide +kernel
  obtain ⟨n, found, -, -, address⟩ := upright.sound.addressed.root
  obtain ⟨m, found'⟩ := upright.sound.live_of_owns valve
  obtain ⟨k, found'', named⟩ := Option.map_eq_some_iff.mp spelled
  rw [found, Option.map_some, Option.some.injEq] at links
  have goal : Session.aliased.tree.store.arena.follow ⟨2⟩ ["seat"] = some ⟨3⟩ := by
    rw [Arena.follow_cons, ← named, upright.sound.childNamed seat found'']
    rfl
  have behind := alias_transparent .standard Session.aliased reached .root .refl n found _
    (links ▸ List.mem_singleton_self _) "/seat/ "
  simp only [address, upright.named, names, goal] at behind
  exact ⟨reached, (behind ["/pump/valve/seat"]).1, m, found',
    (behind ["/feed/seat"]).2 m (.tail (.single pump) valve) found'⟩

end DeviceTree
