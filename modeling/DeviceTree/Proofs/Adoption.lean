/-
What the adding of a child changes.

The child learns its parent, the edge comes last at both of its ends, and the addresses in the
subtree of the child are written anew, whatever stood there: each is that of the child with the
names on the way down behind it.  All else stays as it is.

* `Arena.Hung` -- an arena with a child more under one of its nodes;
* `Sound.address_spelled` -- the addresses below the child;
* `Sound.hung_attach` -- attaching a node does this and nothing else;
* `subtree_adopted` -- so does every child that is added, and the addresses are written in as many
  rounds as nodes lie below it.
-/
import DeviceTree.Proofs.Anchored
import DeviceTree.Proofs.Delivery
import DeviceTree.Proofs.Idle
import DeviceTree.Proofs.Rounds
import Mathlib

namespace DeviceTree

open Relation

namespace Arena

variable {a b : Arena} {root : Identifier} {x y z id parent child : NodeId} {n above below : Node}
  {path : List Identifier}

/-! ### Ways down -/

/-- Child edges lead from `x` down to a node, and these are the names of the nodes on the way,
without that of `x` itself. -/
inductive Spells (a : Arena) (x : NodeId) : List Identifier → NodeId → Prop where
  | single {y : NodeId} {n : Node} : a.Owns x y → a.get? y = some n → Spells a x [n.identifier] y
  | tail {path : List Identifier} {y z : NodeId} {n : Node} :
      Spells a x path y → a.Owns y z → a.get? z = some n → Spells a x (path ++ [n.identifier]) z

theorem Spells.path_ne_nil (h : a.Spells x path y) : path ≠ [] := by
  cases h with
  | single => exact List.cons_ne_nil _ _
  | tail => exact List.append_ne_nil_of_right_ne_nil _ (List.cons_ne_nil _ _)

theorem Spells.transGen (h : a.Spells x path y) : TransGen a.Owns x y := by
  induction h with
  | single edge _ => exact .single edge
  | tail _ edge _ ih => exact ih.tail edge

/-- Every node below has a way down to it. -/
theorem Sound.exists_spells (sound : a.Sound root) (h : TransGen a.Owns x y) :
    ∃ path, a.Spells x path y := by
  induction h with
  | single edge =>
    obtain ⟨n, found⟩ := sound.live_of_owns edge
    exact ⟨[n.identifier], .single edge found⟩
  | tail _ edge ih =>
    obtain ⟨path, spelled⟩ := ih
    obtain ⟨n, found⟩ := sound.live_of_owns edge
    exact ⟨path ++ [n.identifier], spelled.tail edge found⟩

/-- **The new addresses below the child**: that of the child, and the names on the way down. -/
theorem Sound.address_spelled (sound : a.Sound root) (hc : a.get? child = some below)
    (orphan : below.parent = none) {name : Identifier} (spelled : a.Spells child path y) :
    (a.readdressed parent child name above below).addressAt y =
      Address.join (Address.join above.address below.identifier.text) (Address.along path) := by
  induction spelled with
  | single edge found =>
    rw [addressAt_readdressed_of_owns sound hc orphan edge found,
      addressAt_readdressed_child sound hc, Address.along_singleton]
  | tail spelled edge found ih =>
    rw [addressAt_readdressed_of_owns sound hc orphan edge found, ih,
      Address.along_concat spelled.path_ne_nil]
    simp only [Address.join, String.append_assoc]

/-! ### A child more -/

theorem liveIds_congr (size : b.slots.size = a.slots.size)
    (same : ∀ id, (b.get? id).isSome = (a.get? id).isSome) : b.liveIds = a.liveIds := by
  rw [liveIds, liveIds, size, show b.contains = a.contains from funext same]

/-- The arena `b` is `a` with `child` put under `parent`, where `above` and `below` are the nodes at
the two places in `a`. -/
structure Hung (a b : Arena) (parent child : NodeId) (above below : Node) : Prop where
  holder : b.get? parent = some
    { above with forward := above.forward ++ [childEdge parent child below.identifier] }
  member : b.get? child = some
    { below with
      parent := some parent
      inverse := below.inverse ++ [(childEdge parent child below.identifier).flip]
      address := Address.join above.address below.identifier.text }
  /-- Of the nodes below only the address changes, and goes by the way down from the child. -/
  lower : ∀ path id n, a.Spells child path id → a.get? id = some n → b.get? id = some
    { n with
      address :=
        Address.join (Address.join above.address below.identifier.text) (Address.along path) }
  spelled : ∀ id, TransGen a.Owns child id → ∃ path, a.Spells child path id
  elsewhere : ∀ id, id ≠ parent → ¬ReflTransGen a.Owns child id → b.get? id = a.get? id
  ids : b.liveIds = a.liveIds
  next : b.nextId = a.nextId

/-- **To attach a node does this and nothing else**, unless a path leads back from it. -/
theorem Sound.hung_attach (sound : a.Sound root) (hp : a.get? parent = some above)
    (hc : a.get? child = some below) (orphan : below.parent = none)
    (open_ : ¬ReflTransGen a.Leads child parent) :
    Hung a (a.attach parent child below.identifier) parent child above below := by
  have becomes := becomes_attach hp hc below.identifier
  have size := size_attach a parent child below.identifier
  have differ : child ≠ parent := fun same => open_ (same ▸ .refl)
  have apart : ¬ReflTransGen a.Owns child parent :=
    fun path => open_ (ReflTransGen.mono (fun _ _ => Owns.leads) _ _ path)
  refine ⟨?_, ?_, fun path id n spelled found => ?_, fun id => sound.exists_spells,
    fun id other outside => ?_, liveIds_congr size fun id => ?_, congrArg NodeId.mk size⟩
  · rw [becomes.live hp, afterAttach, addressAt_readdressed hc apart, addressAt_of_get? hp]
    simp [pushed, childEdge, differ]
  · rw [becomes.live hc, afterAttach, addressAt_readdressed_child sound hc]
    simp [pushed, childEdge, differ.symm]
  · -- what lies below is neither the child nor the parent
    have notChild : child ≠ id := by
      rintro rfl
      exact sound.forest.acyclic spelled.transGen
    have notParent : parent ≠ id := by
      rintro rfl
      exact apart spelled.transGen.to_reflTransGen
    rw [becomes.live found, afterAttach, sound.address_spelled hc orphan spelled]
    simp [pushed, childEdge, notChild, notParent]
  · cases found : a.get? id with
    | none => rw [becomes, found, Option.map_none]
    | some n => exact get?_attach_of_outside hp hc found other.symm outside
  · rw [becomes]
    cases a.get? id <;> rfl

end Arena

open Arena

namespace Tree

variable {t : Tree Empty} {root : Identifier} {parent child : NodeId}

/-- Why a child was added, and what is left of it. -/
theorem add_of_perform {answer : Answer} (sound : t.store.arena.Sound root) (quiet : t.Quiet)
    (ok : (t.perform (.mutate (.add parent child))).value = .ok answer) :
    answer = .done ∧ ∃ above below, Fits t.store.arena (childEdge parent child below.identifier)
        above below ∧ below.parent = none ∧ child ≠ .root ∧
      ¬ReflTransGen t.store.arena.Leads child parent ∧
      ∃ cache counters, (t.perform (.mutate (.add parent child))).tree =
        { t with
          store :=
            { t.store with
              arena := t.store.arena.attach parent child below.identifier, cache, counters } } := by
  obtain ⟨free, c, u, applied, rfl⟩ := granted_of_perform ok
  obtain ⟨c', granted, rfl⟩ := Request.map_ok.mp applied
  obtain ⟨above, below, hp, hc, apart, unnamed, notRoot, orphan, open_, rfl, rfl⟩ :=
    Store.add_ok.mp granted
  obtain ⟨counters, left⟩ := perform_leaves ⟨sound, free, quiet⟩ applied
  exact ⟨rfl, above, below, ⟨hp, hc, rfl, unnamed, apart⟩, orphan, notRoot,
    Store.not_leads_of_leadsTo open_, _, counters, left⟩

end Tree

/-- **What the adding of a child does.**  If no observer calls back and the child is added, the
addresses below it were written in rounds that came to an end: as many as there are nodes below it
over child edges, each of which got its address exactly once.  By then the child has the address
that goes with its parent, and every node below it has that address with the names on the way down
behind it, whatever its address was; the child knows its parent, and their edge comes last in the
forward references of the one and the inverse references of the other.  All other references,
parents and addresses stay the same, and the same nodes are there. -/
theorem subtree_adopted (options : Options) (s : Session Empty) (h : s.Reachable options)
    (quiet : s.tree.Quiet) (parent child : NodeId) (answer : Answer)
    (ok : (s.tree.perform (.mutate (.add parent child))).value = .ok answer) :
    let a := s.tree.store.arena
    let b := (s.tree.perform (.mutate (.add parent child))).tree.store.arena
    ∃ above below, a.get? parent = some above ∧ a.get? child = some below ∧
      Hung a b parent child above below ∧
      ∃ order : List NodeId, order.Nodup ∧ (∀ x, x ∈ order ↔ TransGen a.Owns child x) ∧
        let name := below.identifier
        let base := Address.join above.address name.text
        let begun := Rewriting.start (a.adopted parent child name base) below.childIds base
        ∃ ended, Rewriting.round^[order.length] begun = ended ∧ ended.written = order ∧
          (∀ k, (Rewriting.round^[k] begun).pile = [] ↔ order.length ≤ k) ∧
          b = ended.arena.modify parent fun n => n.pushForward (childEdge parent child name) := by
  intro a b
  have sound := (Store.upright_of_reachable h).sound
  obtain ⟨-, above, below, fits, orphan, -, open_, cache, counters, left⟩ :=
    Tree.add_of_perform sound quiet ok
  have hp : a.get? parent = some above := fits.source
  have hc : a.get? child = some below := fits.target
  obtain ⟨order, nodup, mem, run, done⟩ :=
    sound.rounds_readdressed hc parent below.identifier above
  have after : b = a.attach parent child below.identifier := by
    show (s.tree.perform _).tree.store.arena = _
    rw [left]
  refine ⟨above, below, hp, hc, ?_, order, nodup, mem, _, run, rfl, done, ?_⟩
  · rw [after]
    exact sound.hung_attach hp hc orphan open_
  · rw [after, attach_eq hp hc]

/-- A session with a hall under the root, whose observer fails, and a rack with a shelf that hangs
nowhere. -/
def Session.stored : Session Empty :=
  let new : Session Empty := ⟨.ofStore .standard, #[]⟩
  let rack := new.next (.perform (.mutate (.create none "rack" .group none)))
  let shelf := rack.next (.perform (.mutate (.create (some ⟨1⟩) "shelf" .data none)))
  let hall := shelf.next (.perform (.mutate (.create (some .root) "hall" .group none)))
  hall.next (.perform (.subscribe .root "watch" (.fail "busy")))

theorem Session.reachable_stored : Session.stored.Reachable .standard :=
  ((((Session.Reachable.fresh rfl).next _).next _).next _).next _

theorem Session.quiet_stored : Session.stored.tree.Quiet := by
  have observers : Session.stored.tree.observers = #[⟨"watch", .fail "busy"⟩] := rfl
  refine Tree.quiet_of_reactions fun o mem => ?_
  rw [observers, Array.mem_singleton] at mem
  rw [mem]
  trivial

/-- The rack goes into the hall, and the address of its shelf, which was stale, comes out right. -/
theorem subtree_adopted_hall :
    let a := Session.stored.tree.store.arena
    let b := (Session.stored.tree.perform (.mutate (.add ⟨3⟩ ⟨1⟩))).tree.store.arena
    Session.stored.Reachable .standard ∧ Session.stored.tree.Quiet ∧
      (Session.stored.tree.perform (.mutate (.add ⟨3⟩ ⟨1⟩))).value = .ok .done ∧
      (a.get? ⟨2⟩).map Node.address = some "rack/shelf" ∧
      (b.get? ⟨2⟩).map Node.address = some "device/hall/rack/shelf" ∧
      b.get? .root = a.get? .root := by
  intro a b
  have granted : (Session.stored.tree.perform (.mutate (.add ⟨3⟩ ⟨1⟩))).value = .ok .done := by cbv
  obtain ⟨above, below, hp, hc, hung, -⟩ := subtree_adopted .standard Session.stored
    Session.reachable_stored Session.quiet_stored ⟨3⟩ ⟨1⟩ .done granted
  have hall : above.address = "device/hall" := by
    have address : (a.get? ⟨3⟩).map Node.address = some "device/hall" := by decide +kernel
    simpa [a, hp] using address
  have rack : below.identifier.text = "rack" := by
    have name : (a.get? ⟨1⟩).map (·.identifier.text) = some "rack" := by decide +kernel
    simpa [a, hc] using name
  have shelf : (a.get? ⟨2⟩).map (·.identifier.text) = some "shelf" := by decide +kernel
  obtain ⟨n, hn, name⟩ := Option.map_eq_some_iff.mp shelf
  have edge : a.Owns ⟨1⟩ ⟨2⟩ := by decide +kernel
  refine ⟨Session.reachable_stored, Session.quiet_stored, granted, by decide +kernel, ?_, ?_⟩
  · rw [hung.lower _ _ n (.single edge hn) hn, Option.map_some, hall, rack, Address.along_singleton,
      name]
    have joined : Address.join (Address.join "device/hall" "rack") "shelf" =
        "device/hall/rack/shelf" := by decide +kernel
    exact congrArg some joined
  · -- the root is no part of the rack
    refine hung.elsewhere .root (by decide) fun path => ?_
    rcases path.cases_tail with same | ⟨x, -, last⟩
    · cases same
    · exact (Store.upright_of_reachable Session.reachable_stored).sound.root_not_owned last

end DeviceTree
