/-
What something links into stays where it is.

A child edge may be unmade as long as no link leads to the child or to anything below it.  No other
mutation takes an attached node from its parent, gives it another address or lets it leave, so that
a node that is attached and linked into (`Arena.Anchored`) stays put (`Arena.Stays`).

* `Store.remove_ok_iff` -- exactly when a child edge may be unmade;
* `Store.stays_of_apply` -- mutations;
* `anchored_stays` -- runs.
-/
import DeviceTree.Proofs.Acts
import DeviceTree.Proofs.Location
import Mathlib

namespace DeviceTree

open Relation

namespace Arena

variable {a b c : Arena} {root name : Identifier} {id x y p child : NodeId} {n above below : Node}
  {g : NodeId → Node → Node}

/-- The node is attached, and something links to it or to a node below it. -/
def Anchored (a : Arena) (id : NodeId) : Prop :=
  a.Attached id ∧ ∃ source target, a.LinksTo source target ∧ ReflTransGen a.Owns id target

/-- The node is still there in `b`, still attached, and has the parent and the address that it has
in `a`. -/
structure Stays (a b : Arena) (id : NodeId) : Prop where
  same : ∃ n m, a.get? id = some n ∧ b.get? id = some m ∧ m.parent = n.parent ∧
    m.address = n.address
  attached : b.Attached id

theorem Stays.trans (h : Stays a b id) (h' : Stays b c id) : Stays a c id where
  same := by
    obtain ⟨n, m, hn, hm, parent, address⟩ := h.same
    obtain ⟨m', k, hm', hk, parent', address'⟩ := h'.same
    obtain rfl : m = m' := Option.some.inj (hm.symm.trans hm')
    exact ⟨n, k, hn, hk, parent'.trans parent, address'.trans address⟩
  attached := h'.attached

theorem Sound.live_of_attached (sound : a.Sound root) (attached : a.Attached id) :
    ∃ n, a.get? id = some n := by
  rcases attached.cases_tail with rfl | ⟨x, -, edge⟩
  · obtain ⟨n, found, -⟩ := sound.addressed.root
    exact ⟨n, found⟩
  · exact sound.live_of_owns edge

theorem Sound.stays_refl (sound : a.Sound root) (attached : a.Attached id) : Stays a a id where
  same := by
    obtain ⟨n, found⟩ := sound.live_of_attached attached
    exact ⟨n, n, found, found, rfl, rfl⟩
  attached := attached

/-- A node stays if it keeps its parent and its address, and no edge on the way to it goes. -/
theorem Sound.stays_of_becomes (sound : a.Sound root) (becomes : Becomes a b g)
    (attached : a.Attached id)
    (keeps : ∀ n, a.get? id = some n →
      (g id n).parent = n.parent ∧ (g id n).address = n.address)
    (path : b.Attached id) : Stays a b id where
  same := by
    obtain ⟨n, found⟩ := sound.live_of_attached attached
    exact ⟨n, g id n, found, becomes.live found, keeps n found⟩
  attached := path

/-- An attached node does not lie below a detached one. -/
theorem Sound.outside_of_attached (sound : a.Sound root) (hc : a.get? child = some below)
    (orphan : below.parent = none) (notRoot : child ≠ .root) (attached : a.Attached id) :
    ¬ReflTransGen a.Owns child id := by
  induction attached with
  | refl =>
    intro path
    rcases path.cases_tail with same | ⟨x, -, edge⟩
    · exact notRoot same.symm
    · exact sound.root_not_owned edge
  | @tail x y _ edge ih =>
    intro path
    rcases path.cases_tail with same | ⟨z, path, edge'⟩
    · exact sound.not_owned hc orphan (same ▸ edge)
    · exact ih (owner_unique sound.wired sound.parented edge' edge ▸ path)

/-! ### Edges -/

theorem owns_of_pushes {f : Reference} (becomes : Becomes a b g) (pushes : Pushes g f)
    (edge : a.Owns x y) : b.Owns x y := by
  obtain ⟨n, found, mem⟩ := edge
  refine ⟨g x n, becomes.live found, ?_⟩
  rw [Node.childIds, Node.children, (pushes x n).1, List.filter_append, List.map_append]
  exact List.mem_append_left _ mem

theorem Attached.mono (attached : a.Attached id) (more : ∀ {x y}, a.Owns x y → b.Owns x y) :
    b.Attached id :=
  ReflTransGen.mono (fun _ _ => more) _ _ attached

/-- A new child does not move attached nodes. -/
theorem Sound.stays_attach (sound : a.Sound root) (hp : a.get? p = some above)
    (hc : a.get? child = some below) (orphan : below.parent = none) (notRoot : child ≠ .root)
    (attached : a.Attached id) : Stays a (a.attach p child name) id := by
  have becomes := becomes_attach hp hc name
  have outside := sound.outside_of_attached hc orphan notRoot attached
  have differ : child ≠ id := fun same => outside (same ▸ .refl)
  refine sound.stays_of_becomes becomes attached (fun n found => ⟨?_, ?_⟩)
    (attached.mono (owns_of_pushes becomes (pushes_afterAttach _)))
  · simp [afterAttach, differ]
  · rw [afterAttach, addressAt_readdressed hc outside, addressAt_of_get? found]

theorem Sound.stays_link (sound : a.Sound root) (source target : NodeId) (name : Identifier)
    (attached : a.Attached id) : Stays a (a.link source target name) id :=
  have becomes := becomes_link a source target name
  sound.stays_of_becomes becomes attached (fun _ _ => ⟨rfl, rfl⟩)
    (attached.mono (owns_of_pushes becomes (pushes_pushed _)))

theorem Sound.stays_unlink (sound : a.Sound root) (source target : NodeId)
    (attached : a.Attached id) : Stays a (a.unlink source target) id :=
  sound.stays_of_becomes (sound.wired.becomes_unlink source target) attached
    (fun _ _ => ⟨rfl, rfl⟩) (attached.mono (trimmed_unlink sound source target).owns.mpr)

/-- The edge that goes matters only to what lies below it. -/
theorem Sound.stays_detach (sound : a.Sound root) (attached : a.Attached id)
    (outside : ¬ReflTransGen a.Owns child id) : Stays a (a.detach p child) id := by
  have becomes := sound.wired.becomes_detach p child
  have differ : child ≠ id := fun same => outside (same ▸ .refl)
  refine sound.stays_of_becomes becomes attached (fun n found => ?_) ?_
  · exact ⟨if_neg differ, rfl⟩
  · clear differ
    induction attached with
    | refl => exact .refl
    | @tail x y _ edge ih =>
      have differ : child ≠ y := fun same => outside (same ▸ .refl)
      refine (ih fun path => outside (path.tail edge)).tail ?_
      obtain ⟨n, found, mem⟩ := edge
      refine ⟨_, becomes.live found, ?_⟩
      simp only [Node.childIds, Node.children, List.mem_map, List.mem_filter] at mem ⊢
      obtain ⟨r, ⟨hr, isChild⟩, rfl⟩ := mem
      refine ⟨r, ⟨?_, isChild⟩, rfl⟩
      simp [dropped, hr, Ne.symm differ]

/-- The node at `id` once the child edge is unmade of which `r` is the forward half. -/
def parted (r : Reference) (id : NodeId) (n : Node) : Node :=
  { n with
    forward := if r.source = id then n.forward.erase r else n.forward
    inverse := if r.target = id then n.inverse.erase r.flip else n.inverse
    parent := if r.target = id then none else n.parent }

theorem erase_eq_filter {l : List Reference} {r : Reference} {q : Reference → Bool}
    (nodup : l.Nodup) (mem : r ∈ l) (only : ∀ r' ∈ l, q r' = true ↔ r' = r) :
    l.erase r = l.filter fun r' => !q r' := by
  rw [nodup.erase_eq_filter]
  refine List.filter_congr fun r' mem' => ?_
  by_cases same : r' = r
  · simp [same, (only r mem).mpr rfl]
  · have other : q r' = false := by simpa using mt (only r' mem').mp same
    simp [same, other]

theorem Wired.eraseForward_eq (w : a.Wired) {r : Reference} (found : a.get? x = some n)
    (mem : r ∈ n.forward) :
    n.eraseForward r.target r.kind = { n with forward := n.forward.erase r } := by
  have erased : n.forward.erase r =
      n.forward.filter fun r' => !(r'.target = r.target && r'.kind = r.kind) := by
    refine erase_eq_filter (w.targets found).of_map mem fun r' mem' => ?_
    rw [Bool.and_eq_true, decide_eq_true_eq]
    constructor
    · intro same
      exact w.eq_of_target found mem' mem same.1
    · rintro rfl
      exact ⟨rfl, decide_eq_true rfl⟩
  have forward := (w.eraseForward found r.target r.kind).trans erased.symm
  exact congrArg (fun l => { n with forward := l }) forward

theorem Wired.eraseInverse_eq (w : a.Wired) {r : Reference} (found : a.get? x = some n)
    (mem : r ∈ n.inverse) :
    n.eraseInverse r.source r.kind = { n with inverse := n.inverse.erase r } := by
  have erased : n.inverse.erase r =
      n.inverse.filter fun r' => !(r'.source = r.source && r'.kind = r.kind) := by
    refine erase_eq_filter (w.once found) mem fun r' mem' => ?_
    rw [Bool.and_eq_true, decide_eq_true_eq]
    constructor
    · intro same
      exact w.eq_of_source found mem' mem same.1
    · rintro rfl
      exact ⟨rfl, decide_eq_true rfl⟩
  have inverse := (w.eraseInverse found r.source r.kind).trans erased.symm
  exact congrArg (fun l => { n with inverse := l }) inverse

/-- What an edge takes along when it goes: at its source the forward half, at its target the
inverse half. -/
theorem Wired.erase_halves (w : a.Wired) {r : Reference} (hp : a.get? p = some n)
    (mem : r ∈ n.forward) {k : Node} (found : a.get? id = some k) :
    (r.source = id → k.eraseForward r.target r.kind = { k with forward := k.forward.erase r }) ∧
      (r.target = id →
        k.eraseInverse r.source r.kind = { k with inverse := k.inverse.erase r.flip }) := by
  obtain ⟨-, rfl, m, hm, half⟩ := w.forward hp mem
  constructor
  · rintro rfl
    obtain rfl : n = k := Option.some.inj (hp.symm.trans found)
    exact w.eraseForward_eq hp mem
  · rintro rfl
    obtain rfl : m = k := Option.some.inj (hm.symm.trans found)
    exact w.eraseInverse_eq hm half

/-- **To detach a child takes away the two halves of its edge** and its parent, nothing else. -/
theorem Wired.becomes_parted (w : a.Wired) {r : Reference} (hp : a.get? p = some n)
    (mem : r ∈ n.forward) (isChild : r.isChild = true) :
    Becomes a (a.detach p r.target) (parted r) := by
  obtain ⟨-, rfl, -⟩ := w.forward hp mem
  have kind : r.kind = .child := of_decide_eq_true isChild
  intro id
  rw [detach, get?_modify, get?_modify]
  cases found : a.get? id with
  | none => simp
  | some k =>
    obtain ⟨forward, inverse⟩ := w.erase_halves hp mem found
    rw [kind] at forward inverse
    simp only [Node.eraseForward, Node.eraseInverse, Node.mk.injEq] at forward inverse
    by_cases hs : r.source = id <;> by_cases ht : r.target = id <;>
      simp_all [parted, Node.eraseForward, Node.eraseInverse]

/-- Where new nodes come up, nothing else happens. -/
theorem Grows.stays (grows : Grows a b) (sound : a.Sound root) (attached : a.Attached id) :
    Stays a b id where
  same := by
    obtain ⟨n, found⟩ := sound.live_of_attached attached
    exact ⟨n, n, found, grows.kept found, rfl, rfl⟩
  attached := attached.mono fun ⟨n, found, mem⟩ => ⟨n, grows.kept found, mem⟩

/-- Nodes that lie outside of a detached subtree stay when the subtree leaves. -/
theorem Sound.stays_vacated {gone : List NodeId} (sound : a.Sound root) (h : Vacated a b gone)
    (outside : ∀ {x}, a.Attached x → x ∉ gone) (attached : a.Attached id) : Stays a b id where
  same := by
    obtain ⟨n, found⟩ := sound.live_of_attached attached
    exact ⟨n, n, found, h.live found (outside attached), rfl, rfl⟩
  attached := by
    induction attached with
    | refl => exact .refl
    | @tail x y above edge ih =>
      obtain ⟨n, found, mem⟩ := edge
      exact ih.tail ⟨n, h.live found (outside above), mem⟩

/-! ### Links -/

instance (a : Arena) (x y : NodeId) : Decidable (a.LinksTo x y) :=
  inferInstanceAs (Decidable (a.Step _ x y))

theorem Wired.linksTo_iff (w : a.Wired) (found : a.get? y = some n) :
    a.LinksTo x y ↔ ∃ r ∈ n.inverse, r.isLink = true ∧ r.source = x := by
  constructor
  · rintro ⟨m, hm, mem⟩
    simp only [Node.links, List.mem_map, List.mem_filter] at mem
    obtain ⟨r, ⟨hr, link⟩, rfl⟩ := mem
    obtain ⟨-, here, m', hm', half⟩ := w.forward hm hr
    obtain rfl : n = m' := Option.some.inj (found.symm.trans hm')
    exact ⟨r.flip, half, link, here⟩
  · rintro ⟨r, hr, link, rfl⟩
    obtain ⟨-, here, m, hm, half⟩ := w.inverse found hr
    refine ⟨m, hm, ?_⟩
    simp only [Node.links, List.mem_map, List.mem_filter]
    exact ⟨r.flip, ⟨half, link⟩, here⟩

/-- The guard of a removal looks at everything below the child. -/
theorem Wired.firstLinked_subtree_iff (w : a.Wired) :
    a.firstLinked (a.subtree child) = none ↔
      ∀ target, ReflTransGen a.Owns child target → ∀ source, ¬a.LinksTo source target := by
  rw [firstLinked, List.find?_eq_none]
  simp only [mem_subtree_iff]
  refine forall₂_congr fun target _ => ?_
  constructor
  · intro unlinked source link
    obtain ⟨m, found⟩ := w.live_of_leads (leads_iff.mpr (.inr link))
    obtain ⟨r, hr, isLink, -⟩ := (w.linksTo_iff found).mp link
    rw [found, Option.any_some] at unlinked
    exact unlinked (List.any_eq_true.mpr ⟨r, hr, isLink⟩)
  · intro unlinked linked
    obtain ⟨m, found, linked⟩ := (Option.any_eq_true _ _).mp linked
    obtain ⟨r, hr, isLink⟩ := List.any_eq_true.mp linked
    exact unlinked r.source ((w.linksTo_iff found).mpr ⟨r, hr, isLink, rfl⟩)

end Arena

open Arena

/-! ### Mutations -/

namespace Store

variable {s t : Store} {root name : Identifier} {id p child : NodeId}

/-- Effects that move nothing, one for each element of a list. -/
theorem stays_foldl {α : Type} {f : Store → α → Store} (xs : List α)
    (each : ∀ {s : Store} x, s.arena.Sound root → s.arena.Attached id →
      (f s x).arena.Sound root ∧ Stays s.arena (f s x).arena id) :
    ∀ {s : Store}, s.arena.Sound root → s.arena.Attached id →
      (xs.foldl f s).arena.Sound root ∧ Stays s.arena (xs.foldl f s).arena id := by
  induction xs with
  | nil =>
    intro s sound attached
    exact ⟨sound, sound.stays_refl attached⟩
  | cons x xs ih =>
    intro s sound attached
    obtain ⟨sound', first⟩ := each x sound attached
    obtain ⟨sound'', rest⟩ := ih (s := f s x) sound' first.attached
    exact ⟨sound'', first.trans rest⟩

theorem stays_releaseLinks (members : List NodeId) (x : NodeId) (sound : s.arena.Sound root)
    (attached : s.arena.Attached id) :
    (releaseLinks members s x).arena.Sound root ∧
      Stays s.arena (releaseLinks members s x).arena id := by
  unfold releaseLinks
  split
  · exact ⟨sound, sound.stays_refl attached⟩
  · exact stays_foldl _ (fun target sound attached =>
      ⟨sound.unlink x target, sound.stays_unlink x target attached⟩) sound attached

/-- A new element that is on its own still may go under its parent. -/
theorem stays_settled {x : NodeId} {used : List String} {above : Option Node}
    {parent : Option NodeId} (base : s.arena.Sound root)
    (h : Furnished s.arena t.arena root x name used) (free : s.FreeUnder parent name above)
    (attached : s.arena.Attached id) : Stays s.arena (t.settled parent x name).arena id := by
  have grown := h.grows.stays base attached
  cases parent with
  | none => exact grown
  | some p =>
    obtain ⟨node, found, unnamed, -⟩ := free
    obtain ⟨below, fits, orphan, -⟩ := h.fits base found unnamed
    have notRoot : x ≠ .root := by
      rintro rfl
      obtain ⟨n, live, -⟩ := base.addressed.root
      simp [h.new] at live
    exact grown.trans
      (h.sound.stays_attach fits.source fits.target orphan notRoot grown.attached)

theorem stays_discard {x : NodeId} {c : Change Nat} (sound : s.arena.Sound root)
    (h : discard x s = .ok c t) (attached : s.arena.Attached id) :
    Stays s.arena t.arena id := by
  obtain ⟨node, found, notRoot, orphan, -, -, rfl⟩ := discard_ok.mp h
  have trimmed := trimmed_members (s.arena.subtree x) (s.arena.subtree x) sound
  obtain ⟨sound', kept⟩ := stays_foldl (s.arena.subtree x)
    (fun y sound attached => stays_releaseLinks (s.arena.subtree x) y sound attached) sound attached
  refine kept.trans (sound'.stays_vacated (vacated_members _) ?_ kept.attached)
  intro y above mem
  have above : s.arena.Attached y := Attached.mono above trimmed.owns.mp
  exact sound.outside_of_attached found orphan notRoot above (mem_subtree_iff.mp mem)

/-- **Exactly when a child edge may be unmade**: if it is there, and no link leads to the child or
to anything below it. -/
theorem remove_ok_iff (sound : s.arena.Sound root) {c : Change Unit} :
    remove p child s = .ok c t ↔ ∃ n r, s.arena.get? p = some n ∧ r ∈ n.forward ∧
      r.isChild = true ∧ r.target = child ∧
      (∀ target, ReflTransGen s.arena.Owns child target →
        ∀ source, ¬s.arena.LinksTo source target) ∧
      c = ⟨(), some (.edge .childRemoved p child r.identifier)⟩ ∧
      t = (s.unmakeChild p child).invalidate := by
  rw [remove_ok]
  constructor
  · rintro ⟨above, below, r, hp, -, first, isChild, unlinked, rfl, rfl⟩
    obtain ⟨mem, target⟩ := Node.mem_of_toward? first
    exact ⟨above, r, hp, mem, isChild, target, sound.wired.firstLinked_subtree_iff.mp unlinked, rfl,
      rfl⟩
  · rintro ⟨above, r, hp, mem, isChild, rfl, unlinked, rfl, rfl⟩
    obtain ⟨-, -, below, hc, -⟩ := sound.wired.forward hp mem
    refine ⟨above, below, r, hp, hc, ?_, isChild,
      sound.wired.firstLinked_subtree_iff.mpr unlinked, rfl, rfl⟩
    -- the first reference to the child is the only one
    cases first : above.toward? r.target with
    | none =>
      exact absurd (List.mem_map_of_mem mem) (Node.toward?_eq_none_iff.mp first)
    | some r' =>
      obtain ⟨mem', target⟩ := Node.mem_of_toward? first
      rw [sound.wired.eq_of_target hp mem' mem target]

/-- **A mutation leaves alone what is attached and linked into.** -/
theorem stays_of_apply {m : Mutation} {c : Change Answer} (sound : s.arena.Sound root)
    (h : m.apply s = .ok c t) (anchored : s.arena.Anchored id) : Stays s.arena t.arena id := by
  obtain ⟨attached, source, target, link, path⟩ := anchored
  cases m <;> obtain ⟨c', granted, -⟩ := Request.map_ok.mp h
  case create =>
    obtain ⟨name, above, -, free, -, rfl⟩ := create_ok.mp granted
    exact stays_settled sound (furnished_push sound name _ _ _) free attached
  case createData =>
    obtain ⟨name, above, -, free, -, rfl⟩ := createData_ok.mp granted
    obtain ⟨used, furnished⟩ := furnished_data sound name _ (newAddress above name)
    exact stays_settled sound furnished free attached
  case add =>
    obtain ⟨above, below, hp, hc, -, -, notRoot, orphan, -, -, rfl⟩ := add_ok.mp granted
    exact sound.stays_attach hp hc orphan notRoot attached
  case remove =>
    obtain ⟨above, below, r, -, -, -, -, unlinked, -, rfl⟩ := remove_ok.mp granted
    refine sound.stays_detach attached fun inside => ?_
    exact sound.wired.firstLinked_subtree_iff.mp unlinked target (inside.trans path) source link
  case link =>
    obtain ⟨holder, aim, name, -, -, -, -, -, -, -, -, rfl⟩ := link_ok.mp granted
    exact sound.stays_link _ _ name attached
  case unlink =>
    obtain ⟨holder, r, -, -, -, -, rfl⟩ := unlink_ok.mp granted
    exact sound.stays_unlink _ r.target attached
  case discard => exact stays_discard sound granted attached

end Store

/-! ### Acts -/

/-- **Whatever happens at one go, a node that is attached and linked into stays where it is.** -/
theorem Tree.Deed.stays {t t' : Tree Empty} {root : Identifier} {id : NodeId} (deed : Deed t t')
    (sound : t.store.arena.Sound root) (anchored : t.store.arena.Anchored id) :
    Stays t.store.arena t'.store.arena id := by
  have watched : ∀ node (f : List SubscriptionId → List SubscriptionId), Stays t.store.arena
      (t.store.arena.modify node fun n => { n with observers := f n.observers }) id := by
    intro node f
    have becomes := becomes_modify t.store.arena node fun n => { n with observers := f n.observers }
    refine sound.stays_of_becomes becomes anchored.1 (fun n _ => ?_) (anchored.1.mono ?_)
    · split <;> exact ⟨rfl, rfl⟩
    · exact fun {x y} => (becomes.step_iff fun id n => by split <;> rfl).mpr
  cases deed with
  | idle arena =>
    rw [arena]
    exact sound.stays_refl anchored.1
  | @mutation m c s before after granted =>
    have moved : Stays t.store.arena s.arena id :=
      Store.stays_of_apply (s := { t.store with lock := before }) sound granted anchored
    exact moved
  | @subscription node n observer => exact watched node fun l => l ++ [⟨t.observers.size + 1⟩]
  | @cancellation node n sub => exact watched node fun l => l.filter fun other => other != sub

namespace Tree

variable {t : Tree Empty} {root : Identifier} {p child : NodeId} {n : Node} {r : Reference}

/-- What a removal that is granted leaves, before any observer hears of it. -/
theorem attempt_remove (sound : t.store.arena.Sound root) (free : t.store.lock.isFree = true)
    (hp : t.store.arena.get? p = some n) (mem : r ∈ n.forward) (isChild : r.isChild = true)
    (target : r.target = child)
    (unlinked : ∀ target, ReflTransGen t.store.arena.Owns child target →
      ∀ source, ¬t.store.arena.LinksTo source target) :
    ∃ t', t.attempt (Mutation.remove p child).apply =
        (.ok ⟨.done, some ⟨.childRemoved, p, some child, some r.identifier⟩⟩, t') ∧
      ∀ id, t'.store.arena.get? id = (t.store.arena.get? id).map (parted r id) := by
  have granted := (Store.remove_ok_iff (s := t.store.locked) sound).mpr
    ⟨n, r, hp, mem, isChild, target, unlinked, rfl, rfl⟩
  refine ⟨_, (attempt_ok free).mpr ⟨_, Request.map_ok.mpr ⟨_, granted, rfl⟩, rfl⟩, ?_⟩
  subst target
  exact sound.wired.becomes_parted hp mem isChild

/-- Why a removal was granted. -/
theorem remove_of_perform {answer : Answer} (sound : t.store.arena.Sound root)
    (free : t.store.lock.isFree = true)
    (ok : (t.perform (.mutate (.remove p child))).value = .ok answer) :
    ∃ n r, t.store.arena.get? p = some n ∧ r ∈ n.forward ∧ r.isChild = true ∧ r.target = child ∧
      (∀ target, ReflTransGen t.store.arena.Owns child target →
        ∀ source, ¬t.store.arena.LinksTo source target) ∧ answer = .done := by
  obtain ⟨c, t', attempted, rfl⟩ := attempt_of_perform ok
  obtain ⟨u, applied, -⟩ := (attempt_ok free).mp attempted
  obtain ⟨c', granted, rfl⟩ := Request.map_ok.mp applied
  obtain ⟨n, r, hp, mem, isChild, target, unlinked, -, -⟩ :=
    (Store.remove_ok_iff (s := t.store.locked) sound).mp granted
  exact ⟨n, r, hp, mem, isChild, target, unlinked, rfl⟩

end Tree

namespace Session

/-- The session after a row of acts. -/
def after (s : Session Empty) (row : List (Act Empty)) : Session Empty :=
  row.foldl (fun s a => (s.act a).2) s

theorem Reachable.after {options : Options} {s : Session Empty} (h : s.Reachable options)
    (row : List (Act Empty)) : (s.after row).Reachable options := by
  induction row generalizing s with
  | nil => exact h
  | cons a rest ih => exact ih (h.act a)

/-- The act leaves alone what is attached and linked into. -/
def Spares (s : Session Empty) (a : Act Empty) : Prop :=
  ∀ id, s.tree.store.arena.Anchored id →
    Stays s.tree.store.arena (s.act a).2.tree.store.arena id

theorem Reachable.spares {options : Options} {s : Session Empty} (h : s.Reachable options)
    (a : Act Empty) : s.Spares a :=
  fun _ anchored => (s.deed_act a).stays (Store.upright_of_reachable h).sound anchored

/-- **Every run is a row of acts.** -/
theorem Later.row {s s' : Session Empty} (later : s.Later s') : ∃ row, s.after row = s' := by
  refine later.invariant (P := fun s' => ∃ row, s.after row = s') ?_ ⟨[], rfl⟩
  rintro _ ⟨row, rfl⟩ a
  exact ⟨row ++ [a], by rw [Session.after, List.foldl_append]; rfl⟩

end Session

open Session

/-- **What something links into stays where it is.**  While nobody holds the lock, a child is
released exactly if its parent has it and no link, from wherever it may start, leads to the child or
to anything below it; before any observer hears of it, the two halves of the edge and the parent of
the child are gone, and everything else is as it was.  Any run is a row of acts, those of observers
among them, and whatever the act, a node that is attached by then, and is the target of a link or
has one below it, is there and attached afterwards, under the same parent and the same address. -/
theorem anchored_stays (options : Options) (s : Session Empty) (h : s.Reachable options) :
    (∀ p child, s.tree.store.lock.isFree = true →
      ((∃ answer, (s.tree.perform (.mutate (.remove p child))).value = .ok answer) ↔
        ((∃ n, s.tree.store.arena.get? p = some n) ∧ (∃ n, s.tree.store.arena.get? child = some n) ∧
          ∃ n r, s.tree.store.arena.get? p = some n ∧ r ∈ n.forward ∧ r.isChild = true ∧
            r.target = child) ∧
        ∀ target, ReflTransGen s.tree.store.arena.Owns child target →
          ∀ source, ¬s.tree.store.arena.LinksTo source target) ∧
      ∀ answer, (s.tree.perform (.mutate (.remove p child))).value = .ok answer →
        ∃ n r t, s.tree.store.arena.get? p = some n ∧ r ∈ n.forward ∧ r.isChild = true ∧
          r.target = child ∧
          s.tree.attempt (Mutation.remove p child).apply =
            (.ok ⟨answer, some ⟨.childRemoved, p, some child, some r.identifier⟩⟩, t) ∧
          ∀ id, t.store.arena.get? id = (s.tree.store.arena.get? id).map (parted r id)) ∧
    (∀ a, s.Spares a) ∧
    ∀ s', s.Later s' → ∃ row, s.after row = s' ∧
      ∀ before a rest, row = before ++ a :: rest → (s.after before).Spares a := by
  have sound := (Store.upright_of_reachable h).sound
  refine ⟨fun p child free => ?_, h.spares, fun s' later => ?_⟩
  · constructor
    · constructor
      · rintro ⟨answer, ok⟩
        obtain ⟨n, r, hp, mem, isChild, target, unlinked, -⟩ := Tree.remove_of_perform sound free ok
        obtain ⟨-, -, m, hm, -⟩ := sound.wired.forward hp mem
        exact ⟨⟨⟨n, hp⟩, ⟨m, target ▸ hm⟩, n, r, hp, mem, isChild, target⟩, unlinked⟩
      · rintro ⟨⟨-, -, n, r, hp, mem, isChild, target⟩, unlinked⟩
        obtain ⟨t, attempted, -⟩ := Tree.attempt_remove sound free hp mem isChild target unlinked
        exact ⟨.done, Tree.perform_of_attempt attempted⟩
    · intro answer ok
      obtain ⟨n, r, hp, mem, isChild, target, unlinked, rfl⟩ :=
        Tree.remove_of_perform sound free ok
      obtain ⟨t, attempted, left⟩ := Tree.attempt_remove sound free hp mem isChild target unlinked
      exact ⟨n, r, t, hp, mem, isChild, target, attempted, left⟩
  · obtain ⟨row, rfl⟩ := later.row
    refine ⟨row, rfl, ?_⟩
    intro before a rest _
    exact (h.after before).spares a

/-- A session in which the valve of a pump has another name on a bench. -/
def Session.moored : Session Empty :=
  let benched := Session.piped.next (.perform (.mutate (.create (some .root) "bench" .group none)))
  benched.next (.perform (.mutate (.link ⟨3⟩ ⟨2⟩ none)))

/-- The pump cannot be released, the bench can; and no act moves the pump. -/
theorem anchored_stays_moored :
    Session.moored.Reachable .standard ∧ Session.moored.tree.store.arena.Anchored ⟨1⟩ ∧
      (¬∃ answer, (Session.moored.tree.perform (.mutate (.remove .root ⟨1⟩))).value = .ok answer) ∧
      (Session.moored.tree.perform (.mutate (.remove .root ⟨3⟩))).value = .ok .done ∧
      ∀ a, Stays Session.moored.tree.store.arena (Session.moored.act a).2.tree.store.arena ⟨1⟩ := by
  have reached : Session.moored.Reachable .standard :=
    ((((Session.Reachable.fresh rfl).next _).next _).next _).next _
  have pump : Session.moored.tree.store.arena.Owns .root ⟨1⟩ := of_decide_eq_true (by cbv)
  have valve : Session.moored.tree.store.arena.Owns ⟨1⟩ ⟨2⟩ := of_decide_eq_true (by cbv)
  have link : Session.moored.tree.store.arena.LinksTo ⟨3⟩ ⟨2⟩ := of_decide_eq_true (by cbv)
  have anchored : Session.moored.tree.store.arena.Anchored ⟨1⟩ :=
    ⟨.single pump, ⟨3⟩, ⟨2⟩, link, .single valve⟩
  obtain ⟨removals, spared, -⟩ := anchored_stays .standard Session.moored reached
  refine ⟨reached, anchored, ?_, by cbv, fun a => spared a ⟨1⟩ anchored⟩
  rw [(removals .root ⟨1⟩ (by cbv)).1]
  exact fun allowed => allowed.2 ⟨2⟩ (.single valve) ⟨3⟩ link

end DeviceTree
