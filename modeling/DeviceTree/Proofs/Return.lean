/-
Taking a child away and putting it back.

A child that was taken from its parent may go back at once, and then everything is as it was, but
that it comes last among what its parent refers to: nothing links to the child, so that the edge was
all that it knew of, and its addresses depend on nothing else than its parents.  A child that was
added may be taken away again unless something links into its subtree, and then nothing is left of
it but the new addresses.

* `Sound.admits_detach`, `Sound.make_detach` -- an edge that is unmade may be made again;
* `Sound.detach_attach` -- an edge that is made and unmade;
* `Tree.add_of_remove`, `Tree.remove_of_add` -- the same, as requests of a tree;
* `child_returns` -- both, wherever one may get to.
-/
import DeviceTree.Proofs.Adoption
import DeviceTree.Proofs.Order
import Mathlib

namespace DeviceTree

open Relation

namespace Arena

variable {a b : Arena} {root : Identifier} {x y id p child : NodeId} {n above below : Node}
  {r : Reference} {g : NodeId → Node → Node}

/-! ### One edge -/

theorem Wired.eq_childEdge (w : a.Wired) (hp : a.get? p = some n) (mem : r ∈ n.forward)
    (isChild : r.isChild = true) : r = childEdge p r.target r.identifier := by
  obtain ⟨way, here, -⟩ := w.forward hp mem
  have kind : r.kind = .child := of_decide_eq_true isChild
  cases r
  simp_all [childEdge]

/-- The edge of a child has its name. -/
theorem Sound.name_of_edge (sound : a.Sound root) (hp : a.get? p = some n) (mem : r ∈ n.forward)
    (isChild : r.isChild = true) (hc : a.get? r.target = some below) :
    r.identifier = below.identifier := by
  obtain ⟨-, -, m, hm, half⟩ := sound.wired.forward hp mem
  obtain rfl : below = m := Option.some.inj (hc.symm.trans hm)
  exact sound.parented.name (r := r.flip) hm half isChild

/-- A node that nothing links to knows of no edge but that of its parent. -/
theorem Sound.inverse_of_unlinked (sound : a.Sound root) (hp : a.get? p = some n)
    (mem : r ∈ n.forward) (isChild : r.isChild = true) (hc : a.get? r.target = some below)
    (unlinked : ∀ source, ¬a.LinksTo source r.target) : below.inverse = [r.flip] := by
  obtain ⟨-, -, m, hm, half⟩ := sound.wired.forward hp mem
  obtain rfl : below = m := Option.some.inj (hc.symm.trans hm)
  have only : ∀ r' ∈ below.inverse, r' = r.flip := by
    intro r' mem'
    refine eq_of_countP_le_one (sound.parented.single hm) mem' ?_ half isChild
    by_contra link
    refine unlinked r'.source ((sound.wired.linksTo_iff hm).mpr ⟨r', mem', ?_, rfl⟩)
    cases kind : r'.kind <;> simp_all [Reference.isChild, Reference.isLink]
  have all := List.eq_replicate_of_mem only
  have once := sound.wired.once hm
  rw [all, List.nodup_replicate] at once
  have some := List.length_pos_of_mem half
  rw [all, show below.inverse.length = 1 by omega, List.replicate_one]

/-- Where a child edge is made, nothing owns more than before but its source. -/
theorem owns_of_push {f : Reference} (becomes : Becomes a b g) (pushes : Pushes g f)
    (kind : f.kind = .child) : b.Owns x y → a.Owns x y ∨ x = f.source ∧ y = f.target := by
  rintro ⟨m, hm, mem⟩
  obtain ⟨k, hk, rfl⟩ := becomes.origin hm
  rw [Node.childIds, Node.children, (pushes x k).1, List.filter_append, List.map_append,
    List.mem_append] at mem
  rcases mem with mem | mem
  · exact .inl ⟨k, hk, mem⟩
  · split at mem
    · next here =>
      have alone : y = f.target := by simpa [Reference.isChild, kind] using mem
      exact .inr ⟨here.symm, alone⟩
    · simp at mem

/-- A child edge is no link. -/
theorem linksTo_push_iff {f : Reference} (becomes : Becomes a b g) (pushes : Pushes g f)
    (kind : f.kind = .child) : b.LinksTo x y ↔ a.LinksTo x y := by
  refine becomes.step_iff fun id m => ?_
  rw [Node.links, Node.links, (pushes id m).1, List.filter_append]
  split <;> simp [Reference.isLink, kind]

/-! ### Unmade and made again -/

/-- Where nothing but the edge `r` has gone from its source, it may be made again. -/
theorem Sound.admits_erase (sound : a.Sound root) (hs : a.get? r.source = some n)
    (mem : r ∈ n.forward) (becomes : Becomes a b g)
    (erased : (g r.source n).forward = n.forward.erase r)
    (fewer : ∀ x y, b.Leads x y → a.Leads x y)
    (child : ∀ m, a.get? r.target = some m → r.kind = .child → (g r.target m).parent = none ∧
      r.target ≠ .root ∧ r.identifier = (g r.target m).identifier) : b.Admits r := by
  obtain ⟨way, -, m, hm, -⟩ := sound.wired.forward hs mem
  have perm := List.perm_cons_erase mem
  refine ⟨⟨_, _, ⟨becomes.live hs, becomes.live hm, way, ?_, ?_⟩, child m hm⟩, fun path => ?_⟩
  · -- the name was that of no other reference
    have names := (perm.map fun e : Reference => Text.fold e.identifier.text).nodup_iff.mp
      (sound.wired.names hs)
    rw [Node.named?_eq_none_iff, Node.foldedNames, erased]
    exact (List.nodup_cons.mp names).1
  · have targets := (perm.map Reference.target).nodup_iff.mp (sound.wired.targets hs)
    rw [Node.toward?_eq_none_iff, Node.targets, erased]
    exact (List.nodup_cons.mp targets).1
  · have step : a.Leads r.source r.target := ⟨n, hs, List.mem_map_of_mem mem⟩
    exact sound.acyclic r.source (.head' step (ReflTransGen.mono fewer _ _ path))

/-- **An edge that was unmade may be made again.** -/
theorem Sound.admits_detach (sound : a.Sound root) (hp : a.get? p = some n) (mem : r ∈ n.forward)
    (isChild : r.isChild = true) : (a.detach p r.target).Admits r := by
  obtain ⟨-, rfl, -⟩ := sound.wired.forward hp mem
  have becomes := sound.wired.becomes_parted hp mem isChild
  have kid : r.target ∈ n.childIds := List.mem_map_of_mem (List.mem_filter.mpr ⟨mem, isChild⟩)
  refine sound.admits_erase hp mem becomes (if_pos rfl) (fun x y => ?_) fun m hm _ => ?_
  · rintro ⟨m, hm, mem'⟩
    obtain ⟨k, hk, rfl⟩ := becomes.origin hm
    refine ⟨k, hk, ?_⟩
    simp only [Node.targets, parted] at mem' ⊢
    split at mem'
    · exact (List.erase_sublist.map _).subset mem'
    · exact mem'
  · have name : r.identifier = m.identifier := sound.name_of_edge hp mem isChild hm
    refine ⟨if_pos rfl, fun isRoot => ?_, name⟩
    exact sound.root_not_owned (x := r.source) ⟨n, hp, isRoot ▸ kid⟩

/-- The node at `id` once the edge `r` comes last among the references of its source. -/
def requeued (r : Reference) (id : NodeId) (n : Node) : Node :=
  { n with forward := if r.source = id then n.forward.erase r ++ [r] else n.forward }

/-- What the edge does that is unmade and made again, but to addresses. -/
theorem Makes.requeued (made : Makes (a.detach p r.target) b r g) (sound : a.Sound root)
    (hp : a.get? p = some n) (mem : r ∈ n.forward) (isChild : r.isChild = true)
    (unlinked : ∀ source, ¬a.LinksTo source r.target) {k : Node} (hk : a.get? id = some k) :
    g id (parted r id k) =
      { Arena.requeued r id k with address := (g id (parted r id k)).address } := by
  obtain ⟨-, here, below, hc, -⟩ := sound.wired.forward hp mem
  have up : r.target = id → k.parent = some r.source := by
    rintro rfl
    refine (parent_eq_some_iff sound.wired sound.parented hk).mpr ?_
    exact ⟨n, here ▸ hp, List.mem_map_of_mem (List.mem_filter.mpr ⟨mem, isChild⟩)⟩
  have inverse : r.target = id → k.inverse = [r.flip] := by
    rintro rfl
    exact sound.inverse_of_unlinked hp mem isChild hk unlinked
  ext1
  · exact (made.pushes id _).2.2
  · exact (made.kept id _).1
  · exact (made.kept id _).2.1
  · rfl
  · rw [made.parent]
    by_cases target : r.target = id
    · rw [if_pos ⟨of_decide_eq_true isChild, target⟩]
      exact (up target).symm
    · rw [if_neg fun h => target h.2]
      exact if_neg target
  · rw [(made.pushes id _).1]
    by_cases source : r.source = id <;> simp [parted, Arena.requeued, source]
  · rw [(made.pushes id _).2.1]
    by_cases target : r.target = id
    · simp [parted, Arena.requeued, target, inverse target]
    · simp [parted, Arena.requeued, target]
  · exact (made.kept id _).2.2

/-- **Once it is made again everything is as it was**, but for the place of the edge among the
references of its source. -/
theorem Sound.make_detach (sound : a.Sound root) (hp : a.get? p = some n) (mem : r ∈ n.forward)
    (isChild : r.isChild = true) (unlinked : ∀ source, ¬a.LinksTo source r.target) :
    (a.detach p r.target).make r =
      a.modify p fun n => { n with forward := n.forward.erase r ++ [r] } := by
  have admits := sound.admits_detach hp mem isChild
  obtain ⟨-, here, -⟩ := sound.wired.forward hp mem
  have parts := sound.wired.becomes_parted hp mem isChild
  have sound' := sound.detach
    ⟨n, hp, List.mem_map_of_mem (List.mem_filter.mpr ⟨mem, isChild⟩)⟩
  obtain ⟨g, made⟩ := sound'.makes admits
  have same := fun {id k} (hk : a.get? id = some k) =>
    made.requeued sound hp mem isChild unlinked hk
  have live := fun {id k} (hk : a.get? id = some k) => made.becomes.live (parts.live hk)
  -- the parents are the same, and so are the addresses
  have reordered : a.Reordered ((a.detach p r.target).make r) := by
    refine address_unique sound (sound'.make admits) fun id => ?_
    cases hk : a.get? id with
    | none =>
      rw [made.becomes, parts, hk]
      exact .none
    | some k =>
      rw [live hk]
      refine .some ⟨?_, fun top => ?_⟩
      · rw [same hk]
        refine ⟨rfl, rfl, rfl, rfl, ?_, .rfl, rfl⟩
        unfold Arena.requeued
        split
        · next at_ =>
          obtain rfl : n = k := Option.some.inj (hp.symm.trans (here ▸ at_ ▸ hk))
          exact (List.perm_cons_erase mem).trans (List.perm_append_singleton r _).symm
        · exact .rfl
      · have none : (g id (parted r id k)).parent = Option.none := by rw [same hk]; exact top
        exact (made.top (parts.live hk) none).symm
  have attached : (a.detach p r.target).make r =
      (a.detach p r.target).attach r.source r.target r.identifier := by
    rw [Arena.make, of_decide_eq_true isChild]
  refine ext_gaps ?_ fun id => ?_
  · rw [attached, gaps_attach, gaps_detach, gaps_modify]
  · cases hk : a.get? id with
    | none => rw [made.becomes, parts, becomes_modify, hk]; rfl
    | some k =>
      obtain ⟨m, hm, alike⟩ := reordered.live hk
      rw [live hk, Option.some.injEq] at hm
      rw [live hk, (becomes_modify a p _).live hk, same hk, hm, ← alike.address, Arena.requeued,
        here]
      split <;> rfl

/-! ### Made and unmade again -/

theorem erase_concat_self {l : List Reference} (new : r ∉ l) : (l ++ [r]).erase r = l := by
  rw [List.erase_append_right _ new, List.erase_cons_head, List.append_nil]

/-- Neither end of an edge that may be made knows of it yet. -/
theorem Wired.not_mem_of_fits (w : a.Wired) (fits : Fits a r above below) :
    r ∉ above.forward ∧ r.flip ∉ below.inverse := by
  have new : r ∉ above.forward := by
    intro mem
    exact Node.toward?_eq_none_iff.mp fits.apart (List.mem_map_of_mem mem)
  refine ⟨new, fun mem => ?_⟩
  obtain ⟨-, -, m, hm, half⟩ := w.inverse fits.target mem
  obtain rfl : above = m := Option.some.inj (fits.source.symm.trans hm)
  exact new (r.flip_flip ▸ half)

/-- The node at `id` once both halves of the edge `r` are taken out. -/
def snipped (r : Reference) (id : NodeId) (n : Node) : Node :=
  { n with
    forward := if r.source = id then n.forward.erase r else n.forward
    inverse := if r.target = id then n.inverse.erase r.flip else n.inverse }

/-- A node that had neither half of the edge is what it was. -/
theorem snipped_pushed {k : Node} (forward : r.source = id → r ∉ k.forward)
    (inverse : r.target = id → r.flip ∉ k.inverse) : snipped r id (pushed r id k) = k := by
  have left : (snipped r id (pushed r id k)).forward = k.forward := by
    by_cases here : r.source = id
    · simpa [snipped, pushed, here] using erase_concat_self (forward here)
    · simp [snipped, pushed, here]
  have right : (snipped r id (pushed r id k)).inverse = k.inverse := by
    by_cases here : r.target = id
    · simpa [snipped, pushed, here] using erase_concat_self (inverse here)
    · simp [snipped, pushed, here]
  exact Node.ext rfl rfl rfl rfl rfl left right rfl

/-- A node that had neither half of the edge is what it was, but for its address. -/
theorem parted_afterAttach {name : Identifier} {k : Node}
    (forward : p = id → childEdge p child name ∉ k.forward)
    (inverse : child = id → (childEdge p child name).flip ∉ k.inverse ∧ k.parent = none)
    (addresses : NodeId → String) :
    parted (childEdge p child name) id (afterAttach p child name addresses id k) =
      { k with address := addresses id } := by
  have halves : snipped (childEdge p child name) id (pushed (childEdge p child name) id k) = k :=
    snipped_pushed forward fun here => (inverse here).1
  have left := congrArg Node.forward halves
  have right := congrArg Node.inverse halves
  ext1
  case parent =>
    by_cases here : child = id
    · simp [parted, childEdge, here, (inverse here).2]
    · simp [parted, afterAttach, childEdge, here]
  case forward => exact left
  case inverse => exact right
  all_goals rfl

/-- **An edge that is made and unmade again leaves nothing** but the new addresses below it. -/
theorem Sound.detach_attach (sound : a.Sound root)
    (fits : Fits a (childEdge p child below.identifier) above below) (orphan : below.parent = none)
    (notRoot : child ≠ .root) (open_ : ¬ReflTransGen a.Leads child p) :
    let b := (a.attach p child below.identifier).detach p child
    a.SameButAddresses b ∧ ∀ id, ¬ReflTransGen a.Owns child id → b.get? id = a.get? id := by
  intro b
  have hp : a.get? p = some above := fits.source
  have hc : a.get? child = some below := fits.target
  have sound' := sound.attach fits orphan notRoot rfl open_
  have first := becomes_attach hp hc below.identifier
  have second := sound'.wired.becomes_parted (first.live hp)
    (r := childEdge p child below.identifier) (by simp [afterAttach, pushed, childEdge]) rfl
  obtain ⟨new, new'⟩ := sound.wired.not_mem_of_fits fits
  have becomes : Becomes a b fun id k =>
      { k with
        address := (a.readdressed p child below.identifier above below).addressAt id } := by
    intro id
    cases hk : a.get? id with
    | none => exact (second id).trans (by rw [first, hk]; rfl)
    | some k =>
      refine (second.live (first.live hk)).trans (congrArg some (parted_afterAttach ?_ ?_ _))
      · rintro rfl
        exact Option.some.inj (hp.symm.trans hk) ▸ new
      · rintro rfl
        exact Option.some.inj (hc.symm.trans hk) ▸ ⟨new', orphan⟩
  refine ⟨Becomes.sameButAddresses _ becomes, fun id outside => ?_⟩
  cases hk : a.get? id with
  | none => rw [becomes, hk, Option.map_none]
  | some k => rw [becomes.live hk, addressAt_readdressed hc outside, addressAt_of_get? hk]

/-- If nothing links to what lies below a child, then nothing does once it is added. -/
theorem unlinked_attach (fits : Fits a (childEdge p child below.identifier) above below)
    (open_ : ¬ReflTransGen a.Leads child p)
    (unlinked : ∀ x, ReflTransGen a.Owns child x → ∀ source, ¬a.LinksTo source x) :
    let b := a.attach p child below.identifier
    ∀ x, ReflTransGen b.Owns child x → ∀ source, ¬b.LinksTo source x := by
  intro b x path source link
  have hp : a.get? p = some above := fits.source
  have hc : a.get? child = some below := fits.target
  have becomes : Becomes a b _ := becomes_attach hp hc below.identifier
  have pushes : Pushes _ (childEdge p child below.identifier) := pushes_afterAttach
    (a.readdressed p child below.identifier above below).addressAt
  refine unlinked x ?_ source ((linksTo_push_iff becomes pushes rfl).mp link)
  -- below the child there is nothing else than before, for it does not lead to its parent
  clear link
  induction path with
  | refl => exact .refl
  | tail _ edge ih =>
    rcases owns_of_push becomes pushes rfl edge with edge | ⟨rfl, -⟩
    · exact ih.tail edge
    · exact absurd (ReflTransGen.mono (fun _ _ => Owns.leads) _ _ ih) open_

end Arena

open Arena

namespace Tree

variable {t : Tree Empty} {root : Identifier} {p child : NodeId} {answer : Answer}

/-- What is left once a child was taken away. -/
theorem remove_leaves (sound : t.store.arena.Sound root) (quiet : t.Quiet)
    (ok : (t.perform (.mutate (.remove p child))).value = .ok answer) :
    ∃ cache counters, (t.perform (.mutate (.remove p child))).tree =
      { t with
        store :=
          { t.store with arena := t.store.arena.detach p child, cache, counters } } := by
  obtain ⟨free, c, u, applied, rfl⟩ := granted_of_perform ok
  obtain ⟨c', granted, rfl⟩ := Request.map_ok.mp applied
  obtain ⟨above, below, r, -, -, -, -, -, -, rfl⟩ := Store.remove_ok.mp granted
  obtain ⟨counters, left⟩ := perform_leaves ⟨sound, free, quiet⟩ applied
  exact ⟨_, counters, left⟩

/-- **A child that was taken away may be put back**, and is the last that its parent refers to. -/
theorem add_of_remove (sound : t.store.arena.Sound root) (quiet : t.Quiet)
    (ok : (t.perform (.mutate (.remove p child))).value = .ok answer) :
    let taken := (t.perform (.mutate (.remove p child))).tree
    (taken.perform (.mutate (.add p child))).value = .ok .done ∧
      ∃ n r cache counters, t.store.arena.get? p = some n ∧ r ∈ n.forward ∧ r.isChild = true ∧
        r.target = child ∧
        (taken.perform (.mutate (.add p child))).tree =
          { t with
            store :=
              { t.store with
                arena :=
                  t.store.arena.modify p fun n => { n with forward := n.forward.erase r ++ [r] }
                cache, counters } } := by
  intro taken
  obtain ⟨free, -⟩ := granted_of_perform ok
  obtain ⟨n, r, hp, mem, isChild, rfl, unlinked, -⟩ := remove_of_perform sound free ok
  obtain ⟨cache, counters, left : taken = _⟩ := remove_leaves sound quiet ok
  have idle : taken.Idle root := Idle.perform ⟨sound, free, quiet⟩ _
  have arena : taken.store.arena = t.store.arena.detach p r.target := by rw [left]
  -- the request is for the edge that was unmade
  obtain ⟨-, -, below, hc, -⟩ := sound.wired.forward hp mem
  have edge : (Mutation.add p r.target).edge? taken.store.arena = some r := by
    have live := (sound.wired.becomes_parted hp mem isChild).live hc
    rw [arena, Mutation.edge?, live, Option.map_some, parted,
      ← sound.name_of_edge hp mem isChild hc, ← sound.wired.eq_childEdge hp mem isChild]
  have admits : taken.store.arena.Admits r := arena ▸ sound.admits_detach hp mem isChild
  obtain ⟨value, made, -⟩ := perform_granted idle rfl edge admits
  obtain ⟨-, -, m, -, -, -, -, cache', counters', left'⟩ :=
    add_of_perform idle.sound idle.quiet value
  have whole : taken.store.arena.attach p r.target m.identifier =
      t.store.arena.modify p fun n => { n with forward := n.forward.erase r ++ [r] } := by
    rw [left', arena] at made
    exact arena ▸ made.trans (sound.make_detach hp mem isChild (unlinked _ .refl))
  refine ⟨value, n, r, cache', counters', hp, mem, isChild, rfl, ?_⟩
  rw [left', whole, left]

/-- **A child that was added may be taken away**, if nothing links to it or to a node below it, and
leaves nothing but new addresses. -/
theorem remove_of_add (sound : t.store.arena.Sound root) (quiet : t.Quiet)
    (ok : (t.perform (.mutate (.add p child))).value = .ok answer)
    (unlinked : ∀ x, ReflTransGen t.store.arena.Owns child x →
      ∀ source, ¬t.store.arena.LinksTo source x) :
    let put := (t.perform (.mutate (.add p child))).tree
    (put.perform (.mutate (.remove p child))).value = .ok .done ∧
      ∃ b cache counters,
        (put.perform (.mutate (.remove p child))).tree =
          { t with store := { t.store with arena := b, cache, counters } } ∧
        t.store.arena.SameButAddresses b ∧
        (∀ id, ¬ReflTransGen t.store.arena.Owns child id → b.get? id = t.store.arena.get? id) ∧
        b.gaps = t.store.arena.gaps := by
  intro put
  obtain ⟨free, -⟩ := granted_of_perform ok
  obtain ⟨-, above, below, fits, orphan, notRoot, open_, cache, counters, left : put = _⟩ :=
    add_of_perform sound quiet ok
  have idle : put.Idle root := Idle.perform ⟨sound, free, quiet⟩ _
  have arena : put.store.arena = t.store.arena.attach p child below.identifier := by rw [left]
  have hp' : put.store.arena.get? p = _ :=
    arena ▸ (becomes_attach fits.source fits.target below.identifier).live fits.source
  obtain ⟨after, attempted, -⟩ := attempt_remove idle.sound idle.free hp'
    (r := childEdge p child below.identifier) (by simp [afterAttach, pushed, childEdge]) rfl rfl
    (arena ▸ unlinked_attach fits open_ unlinked)
  have value : (put.perform (.mutate (.remove p child))).value = .ok .done :=
    perform_of_attempt attempted
  obtain ⟨cache', counters', left'⟩ := remove_leaves idle.sound idle.quiet value
  obtain ⟨same, elsewhere⟩ := sound.detach_attach fits orphan notRoot open_
  refine ⟨value, _, cache', counters', ?_, same, elsewhere, ?_⟩
  · rw [left', left]
  · rw [gaps_detach, gaps_attach]

end Tree

/-- **A child may be taken away and put back, and put there and taken away.**  Let no observer call
back.  If a child is taken from its parent, it may be added to the same parent at once, and the tree
is what it was, addresses and all, but that the edge to the child comes last among the references of
the parent.  If a child is added, and nothing links to it or to a node below it, it may be taken
away at once, and the tree is what it was but for the addresses of the child and of the nodes below
it.  Only the cache and the counters show that anything has happened. -/
theorem child_returns (options : Options) (s : Session Empty) (h : s.Reachable options)
    (quiet : s.tree.Quiet) (p child : NodeId) :
    let a := s.tree.store.arena
    (∀ answer, (s.tree.perform (.mutate (.remove p child))).value = .ok answer →
      let taken := (s.tree.perform (.mutate (.remove p child))).tree
      (taken.perform (.mutate (.add p child))).value = .ok .done ∧
      ∃ n r cache counters, a.get? p = some n ∧ r ∈ n.forward ∧ r.isChild = true ∧
        r.target = child ∧
        (taken.perform (.mutate (.add p child))).tree =
          { s.tree with
            store :=
              { s.tree.store with
                arena := a.modify p fun n => { n with forward := n.forward.erase r ++ [r] }
                cache, counters } }) ∧
    ∀ answer, (s.tree.perform (.mutate (.add p child))).value = .ok answer →
      (∀ x, ReflTransGen a.Owns child x → ∀ source, ¬a.LinksTo source x) →
      let put := (s.tree.perform (.mutate (.add p child))).tree
      (put.perform (.mutate (.remove p child))).value = .ok .done ∧
      ∃ b cache counters,
        (put.perform (.mutate (.remove p child))).tree =
          { s.tree with store := { s.tree.store with arena := b, cache, counters } } ∧
        a.SameButAddresses b ∧ (∀ id, ¬ReflTransGen a.Owns child id → b.get? id = a.get? id) ∧
        b.gaps = a.gaps := by
  intro a
  have sound := (Store.upright_of_reachable h).sound
  exact ⟨fun answer ok => Tree.add_of_remove sound quiet ok,
    fun answer ok unlinked => Tree.remove_of_add sound quiet ok unlinked⟩

/-- The session of a hall, with a gate beside it. -/
def Session.gated : Session Empty :=
  Session.stored.next (.perform (.mutate (.create (some .root) "gate" .group none)))

/-- The hall comes back behind the gate, and the rack leaves the gate with nothing but addresses. -/
theorem child_returns_hall :
    let t := Session.gated.tree
    let taken := (t.perform (.mutate (.remove .root ⟨3⟩))).tree
    let put := (t.perform (.mutate (.add ⟨4⟩ ⟨1⟩))).tree
    Session.gated.Reachable .standard ∧ t.Quiet ∧
      (t.perform (.mutate (.remove .root ⟨3⟩))).value = .ok .done ∧
      (taken.perform (.mutate (.add .root ⟨3⟩))).value = .ok .done ∧
      (∃ n r, t.store.arena.get? .root = some n ∧ n.childIds = [⟨3⟩, ⟨4⟩] ∧ r.target = ⟨3⟩ ∧
        (taken.perform (.mutate (.add .root ⟨3⟩))).tree.store.arena =
          t.store.arena.modify .root fun n => { n with forward := n.forward.erase r ++ [r] }) ∧
      (t.perform (.mutate (.add ⟨4⟩ ⟨1⟩))).value = .ok .done ∧
      (∀ x, ReflTransGen t.store.arena.Owns ⟨1⟩ x → ∀ source, ¬t.store.arena.LinksTo source x) ∧
      (put.perform (.mutate (.remove ⟨4⟩ ⟨1⟩))).value = .ok .done ∧
      t.store.arena.SameButAddresses
        (put.perform (.mutate (.remove ⟨4⟩ ⟨1⟩))).tree.store.arena := by
  intro t taken put
  have reached : Session.gated.Reachable .standard := Session.reachable_stored.next _
  have quiet : t.Quiet := by
    have observers : Session.gated.tree.observers.toList = [⟨"watch", .fail "busy"⟩] := by cbv
    refine Tree.quiet_of_reactions fun o mem => ?_
    rw [← Array.mem_toList_iff, observers, List.mem_singleton] at mem
    rw [mem]
    trivial
  have removed : (Session.gated.tree.perform (.mutate (.remove .root ⟨3⟩))).value = .ok .done := by
    cbv
  have added : (Session.gated.tree.perform (.mutate (.add ⟨4⟩ ⟨1⟩))).value = .ok .done := by cbv
  have free : Session.gated.tree.store.arena.firstLinked
      (Session.gated.tree.store.arena.subtree ⟨1⟩) = none := by cbv
  have unlinked := (Store.upright_of_reachable reached).sound.wired.firstLinked_subtree_iff.mp free
  have root : (Session.gated.tree.store.arena.get? .root).map Node.childIds = some [⟨3⟩, ⟨4⟩] := by
    cbv
  obtain ⟨back, n, r, cache, counters, hp, -, -, target, whole⟩ :=
    (child_returns .standard Session.gated reached quiet .root ⟨3⟩).1 .done removed
  obtain ⟨away, b, cache', counters', left, same, -⟩ :=
    (child_returns .standard Session.gated reached quiet ⟨4⟩ ⟨1⟩).2 .done added unlinked
  rw [hp, Option.map_some, Option.some.injEq] at root
  refine ⟨reached, quiet, removed, back, ⟨n, r, hp, root, target, ?_⟩, added, unlinked, away, ?_⟩
  · exact congrArg (·.store.arena) whole
  · have arena := congrArg (·.store.arena) left
    exact arena ▸ same

end DeviceTree
