/-
Every attached node is found under its address.

A node is attached if child edges lead to it from the root.  The names on the way are the segments
of its address, and no other reference answers to any of them: children and links of a node share
one set of names.

* `path_of_attached` -- the way down to an attached node spells its address;
* `walk_of_attached` -- whatever has that address for its rooted form leads to the node;
* `attached_found` -- resolutions find it, with the cache or without, and no two attached nodes have
  the same address.
-/
import DeviceTree.Proofs.Coherence
import DeviceTree.Proofs.Spelling

namespace DeviceTree

open Relation

namespace Arena

variable {a : Arena} {root : Identifier} {x y id : NodeId} {n : Node}

instance (a : Arena) (next : Node → List NodeId) (x y : NodeId) : Decidable (a.Step next x y) :=
  decidable_of_iff ((a.get? x).any (fun n => decide (y ∈ next n)) = true)
    (by simp [Step, Option.any_eq_true])

instance (a : Arena) (x y : NodeId) : Decidable (a.Owns x y) :=
  inferInstanceAs (Decidable (a.Step Node.childIds x y))

/-- Child edges lead from the root to the node. -/
def Attached (a : Arena) (id : NodeId) : Prop :=
  ReflTransGen a.Owns .root id

/-- A reference is found under its name: no other reference of the node has it. -/
theorem Wired.childNamed (w : a.Wired) (found : a.get? x = some n) (mem : r ∈ n.forward) :
    a.childNamed x r.identifier.text = some r.target := by
  cases first : n.named? r.identifier.text with
  | none =>
    rw [Node.named?_eq_none_iff] at first
    exact absurd (List.mem_map_of_mem mem) first
  | some r' =>
    have answers := List.find?_some first
    have same : r' = r :=
      List.inj_on_of_nodup_map (w.names found) (List.mem_of_find?_eq_some first) mem
        (Text.sameFold_iff.mp answers)
    rw [Arena.childNamed, found, Option.bind_some, first, same, Option.map_some]

/-- A child is found under its own name. -/
theorem Sound.childNamed (sound : a.Sound root) (edge : a.Owns x y) (found : a.get? y = some n) :
    a.childNamed x n.identifier.text = some y := by
  obtain ⟨m, hm, mem⟩ := edge
  simp only [Node.childIds, Node.children, List.mem_map, List.mem_filter] at mem
  obtain ⟨r, ⟨hr, child⟩, rfl⟩ := mem
  -- the edge is known at the child, where it carries the name of the child
  obtain ⟨-, -, m', hm', half⟩ := sound.wired.forward hm hr
  obtain rfl : n = m' := Option.some.inj (found.symm.trans hm')
  have name : r.flip.identifier = n.identifier := sound.parented.name hm' half child
  have led := sound.wired.childNamed hm hr
  rwa [← name]

theorem follow_append (a : Arena) (start : NodeId) (names more : List String) :
    a.follow start (names ++ more) = (a.follow start names).bind fun x => a.follow x more :=
  List.foldlM_append

theorem follow_cons (a : Arena) (start : NodeId) (name : String) (names : List String) :
    a.follow start (name :: names) = (a.childNamed start name).bind fun x => a.follow x names :=
  List.foldlM_cons

theorem follow_concat (a : Arena) (start : NodeId) (names : List String) (name : String) :
    a.follow start (names ++ [name]) =
      (a.follow start names).bind fun x => a.childNamed x name := by
  rw [follow_append]
  congr 1
  funext x
  rw [follow_cons]
  cases a.childNamed x name <;> rfl

/-- **The way down to an attached node spells its address.** -/
theorem path_of_attached (sound : a.Sound root) (h : a.Attached id) :
    ∃ path n, a.get? id = some n ∧ n.address = Address.along (root :: path) ∧
      a.follow .root (path.map Identifier.text) = some id := by
  induction h with
  | refl =>
    obtain ⟨n, found, -, -, address⟩ := sound.addressed.root
    exact ⟨[], n, found, by rw [address, Address.along_singleton], rfl⟩
  | @tail x y _ edge ih =>
    obtain ⟨path, above, hx, address, way⟩ := ih
    obtain ⟨n, hy⟩ := sound.live_of_owns edge
    have up := (parent_eq_some_iff sound.wired sound.parented hy).mpr edge
    refine ⟨path ++ [n.identifier], n, hy, ?_, ?_⟩
    · rw [sound.addressed.below hy up hx, address, ← List.cons_append,
        Address.along_concat (List.cons_ne_nil root path)]
    · rw [List.map_append, List.map_singleton, follow_concat, way, Option.bind_some,
        sound.childNamed edge hy]

end Arena

namespace Store

open Arena

variable {s : Store} {id : NodeId} {n : Node}

/-- Addresses with the same fold are walked alike. -/
theorem walk_segments_congr (s : Store) {address other : String}
    (same : Text.fold address = Text.fold other) :
    s.walk (Address.segments address) = s.walk (Address.segments other) := by
  rw [← walk_key, Address.key, same]
  exact walk_key s other

/-- **An attached node is where its address leads**, and its address is in rooted form. -/
theorem walk_of_attached (sound : s.arena.Sound s.rootIdentifier) (h : s.arena.Attached id) :
    ∃ n, s.arena.get? id = some n ∧ s.rooted n.address = n.address ∧
      s.walk (Address.segments n.address) = some id := by
  obtain ⟨path, n, found, address, way⟩ := path_of_attached sound h
  refine ⟨n, found, ?_, ?_⟩
  · rw [address, rooted, Address.normalize_along]
  · rw [address, Address.segments_along, List.map_cons, walk, if_pos (Identifier.isNamed_text _)]
    exact way

end Store

/-! ### Reachable sessions -/

theorem perform_resolve (t : Tree Empty) (address : String) :
    (t.perform (.resolve address)).value = .ok (.maybeNode (t.store.resolve address).1) :=
  rfl

/-- **Every attached node is found under its address.**  Whatever a text looks like, if its rooted
form is the address of the node up to ASCII case, then it resolves to the node, and so does the walk
that asks no cache; the address itself is such a text.  In particular no two attached nodes have
addresses that differ at most in ASCII case. -/
theorem attached_found (options : Options) (s : Session Empty) (h : s.Reachable options)
    (id : NodeId) (attached : s.tree.store.arena.Attached id) :
    ∃ n, s.tree.store.arena.get? id = some n ∧
      s.tree.store.rooted n.address = n.address ∧
      (∀ address, Text.fold (s.tree.store.rooted address) = Text.fold n.address →
        (s.tree.perform (.resolve address)).value = .ok (.maybeNode (some id)) ∧
          s.tree.store.walk (Address.segments (s.tree.store.rooted address)) = some id) ∧
      ∀ other m, s.tree.store.arena.Attached other → s.tree.store.arena.get? other = some m →
        Text.fold m.address = Text.fold n.address → other = id := by
  have tidy := Store.tidy_of_reachable h
  have sound := tidy.upright.sound
  obtain ⟨n, found, rooted, leads⟩ := Store.walk_of_attached sound attached
  refine ⟨n, found, rooted, ?_, ?_⟩
  · intro address spelled
    have walked : s.tree.store.walk (Address.segments (s.tree.store.rooted address)) = some id :=
      (Store.walk_segments_congr _ spelled).trans leads
    refine ⟨?_, walked⟩
    rw [perform_resolve, Store.resolve_fst tidy.coherent, walked]
  · intro other m attached' found' same
    obtain ⟨m', found'', -, leads'⟩ := Store.walk_of_attached sound attached'
    obtain rfl : m = m' := Option.some.inj (found'.symm.trans found'')
    rw [Store.walk_segments_congr _ same, leads] at leads'
    exact (Option.some.inj leads').symm

/-- A session in which a pump with a valve was created under the root. -/
def Session.piped : Session Empty :=
  let new : Session Empty := ⟨.ofStore .standard, #[]⟩
  let pumped := new.next (.perform (.mutate (.create (some .root) "Pump" .group none)))
  pumped.next (.perform (.mutate (.create (some ⟨1⟩) "valve" .data none)))

/-- The valve answers to a rootless spelling with capitals, blanks and slashes too many. -/
theorem attached_found_valve :
    Session.piped.Reachable .standard ∧ Session.piped.tree.store.arena.Attached ⟨2⟩ ∧
      (Session.piped.tree.perform (.resolve "  //PUMP//Valve/ ")).value =
        .ok (.maybeNode (some ⟨2⟩)) := by
  have reached : Session.piped.Reachable .standard :=
    ((Session.Reachable.fresh rfl).next _).next _
  have first : Session.piped.tree.store.arena.Owns .root ⟨1⟩ := by decide +kernel
  have second : Session.piped.tree.store.arena.Owns ⟨1⟩ ⟨2⟩ := by decide +kernel
  have attached : Session.piped.tree.store.arena.Attached ⟨2⟩ :=
    (ReflTransGen.single first).tail second
  obtain ⟨n, found, -, resolved, -⟩ := attached_found .standard Session.piped reached ⟨2⟩ attached
  have address : (Session.piped.tree.store.arena.get? ⟨2⟩).map Node.address =
      some "device/Pump/valve" := by decide +kernel
  rw [found, Option.map_some, Option.some.injEq] at address
  have named := (Store.upright_of_reachable reached).named
  have spelled : Text.fold (Session.piped.tree.store.rooted "  //PUMP//Valve/ ") =
      Text.fold "device/Pump/valve" := by
    have rooted : Address.normalize "  //PUMP//Valve/ " "device" = "device/PUMP/Valve" := by
      decide +kernel
    rw [Store.rooted, named, Options.standard, rooted]
    apply String.toList_injective
    rw [Text.toList_fold, Text.toList_fold]
    decide
  exact ⟨reached, attached, (resolved _ (spelled.trans (by rw [address]))).1⟩

end DeviceTree
