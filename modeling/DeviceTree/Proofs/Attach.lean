/-
Attaching a node keeps the invariant.

A child edge changes more than the lists at its ends: the child learns its parent, and it and
everything below it get new addresses, which may have been stale for long.  `afterAttach` is the
effect on each node.

* `becomes_attach` -- the arena after an attachment;
* `Sound.attach` -- a child edge that fits may be made, unless the child leads to its parent;
* `Sound.root_not_owned` -- nothing owns the root.
-/
import DeviceTree.Proofs.Edge
import DeviceTree.Proofs.Readdress

namespace DeviceTree.Arena

open Relation

/-- The forward half of the child edge. -/
def childEdge (parent child : NodeId) (name : Identifier) : Reference :=
  ⟨name, parent, child, .child, .forward⟩

/-- The arena in which `child` knows of its parent, and the parent not yet of `child`. -/
def adopted (a : Arena) (parent child : NodeId) (name : Identifier) (address : String) : Arena :=
  a.modify child fun n =>
    { n.pushInverse (childEdge parent child name).flip with parent := some parent, address }

/-- The node at `id` once `child` is attached, where `addresses` are those of the arena by then. -/
def afterAttach (parent child : NodeId) (name : Identifier) (addresses : NodeId → String)
    (id : NodeId) (n : Node) : Node :=
  { pushed (childEdge parent child name) id n with
    parent := if child = id then some parent else n.parent
    address := addresses id }

section

variable {a : Arena} {root : Identifier} {parent child : NodeId} {name : Identifier}
  {above below : Node} {x y : NodeId}

/-! ### The effect of an attachment -/

theorem pushes_afterAttach (addresses : NodeId → String) :
    Pushes (afterAttach parent child name addresses) (childEdge parent child name) :=
  fun _ _ => ⟨rfl, rfl, rfl⟩

/-- The arena once the addresses are right. -/
def readdressed (a : Arena) (parent child : NodeId) (name : Identifier) (above below : Node) :
    Arena :=
  let address := Address.join above.address below.identifier.text
  (a.adopted parent child name address).rebase below.childIds address

theorem attach_eq (hp : a.get? parent = some above) (hc : a.get? child = some below) :
    a.attach parent child name =
      (a.readdressed parent child name above below).modify parent fun n =>
        n.pushForward (childEdge parent child name) := by
  rw [attach, hp, hc]
  rfl

theorem becomes_adopted (a : Arena) (parent child : NodeId) (name : Identifier)
    (address : String) :
    Becomes a (a.adopted parent child name address) fun id n =>
      { n with
        inverse := n.inverse ++
          if child = id then [(childEdge parent child name).flip] else []
        parent := if child = id then some parent else n.parent
        address := if child = id then address else n.address } := by
  intro id
  rw [adopted, get?_modify]
  cases a.get? id <;> by_cases here : child = id <;> simp [here, Node.pushInverse]

theorem becomes_attach (hp : a.get? parent = some above) (hc : a.get? child = some below)
    (name : Identifier) :
    Becomes a (a.attach parent child name)
      (afterAttach parent child name
        (a.readdressed parent child name above below).addressAt) := by
  have same : SameButAddresses _ (a.readdressed parent child name above below) :=
    sameButAddresses_rebaseBelow _ _ _ _
  rw [attach_eq hp hc]
  intro id
  rw [((becomes_adopted a parent child name _).trans same).trans (becomes_modify _ parent _)]
  congr 1
  funext n
  by_cases hp : parent = id <;> by_cases hc : child = id <;>
    simp [hp, hc, afterAttach, pushed, childEdge, Node.pushForward]

theorem owns_adopted (a : Arena) (parent child : NodeId) (name : Identifier) (address : String) :
    (a.adopted parent child name address).Owns = a.Owns :=
  funext₂ fun _ _ => propext <|
    (becomes_adopted a parent child name address).step_iff fun _ _ => rfl

theorem addressAt_adopted (hc : a.get? child = some below) (parent : NodeId) (name : Identifier)
    (address : String) (x : NodeId) :
    (a.adopted parent child name address).addressAt x =
      if child = x then address else a.addressAt x := by
  have becomes := becomes_adopted a parent child name address
  by_cases here : child = x
  · subst here
    rw [if_pos rfl, addressAt_of_get? (becomes.live hc), if_pos rfl]
  · rw [if_neg here]
    cases found : a.get? x with
    | none => rw [addressAt, addressAt, becomes, found, Option.map_none]
    | some n => rw [addressAt_of_get? (becomes.live found), if_neg here, addressAt_of_get? found]

/-! ### Addresses -/

theorem Sound.forest (sound : a.Sound root) : Forest a where
  single := owner_unique sound.wired sound.parented
  acyclic cycle := sound.acyclic _ (TransGen.mono (fun _ _ => Owns.leads) _ _ cycle)

theorem Sound.live_of_owns (sound : a.Sound root) (h : a.Owns x y) : ∃ m, a.get? y = some m :=
  sound.wired.live_of_leads h.leads

/-- Nothing owns a node without a parent. -/
theorem Sound.not_owned (sound : a.Sound root) (hc : a.get? child = some below)
    (orphan : below.parent = none) : ¬a.Owns x child := by
  intro owned
  rw [(parent_eq_some_iff sound.wired sound.parented hc).mpr owned] at orphan
  simp at orphan

/-- Nothing owns the root. -/
theorem Sound.root_not_owned (sound : a.Sound root) : ¬a.Owns x .root := by
  obtain ⟨n, found, -, top, -⟩ := sound.addressed.root
  exact sound.not_owned found top

theorem Sound.follows (sound : a.Sound root) (edge : a.Owns x y) : a.Follows x y := by
  intro n found
  have up := (parent_eq_some_iff sound.wired sound.parented found).mpr edge
  obtain ⟨m, hm, -⟩ := edge
  rw [addressAt_of_get? hm]
  exact sound.addressed.below found up hm

/-- Outside of the subtree of `child` no address changes. -/
theorem addressAt_readdressed (hc : a.get? child = some below)
    (outside : ¬ReflTransGen a.Owns child x) :
    (a.readdressed parent child name above below).addressAt x = a.addressAt x := by
  have differ : child ≠ x := fun e => outside (e ▸ .refl)
  rw [readdressed, rebase, addressAt_rebaseBelow, addressAt_adopted hc, if_neg differ]
  rintro ⟨c, mem, path⟩
  rw [owns_adopted] at path
  exact outside (.head ((owns_iff_mem hc).mpr mem) path)

/-- The child itself gets the address that goes with its parent. -/
theorem addressAt_readdressed_child (sound : a.Sound root) (hc : a.get? child = some below) :
    (a.readdressed parent child name above below).addressAt child =
      Address.join above.address below.identifier.text := by
  rw [readdressed, rebase, addressAt_rebaseBelow, addressAt_adopted hc, if_pos rfl]
  rintro ⟨c, mem, path⟩
  rw [owns_adopted] at path
  exact sound.forest.acyclic (.head' ((owns_iff_mem hc).mpr mem) path)

theorem follows_readdressed (sound : a.Sound root) (hc : a.get? child = some below)
    (orphan : below.parent = none) (edge : a.Owns x y) :
    (a.readdressed parent child name above below).Follows x y := by
  have owns := owns_adopted a parent child name (Address.join above.address below.identifier.text)
  have becomes := becomes_adopted a parent child name
    (Address.join above.address below.identifier.text)
  have addresses := addressAt_adopted hc parent name
    (Address.join above.address below.identifier.text)
  rw [readdressed]
  generalize a.adopted parent child name (Address.join above.address below.identifier.text) = b at *
  have forest : Forest b := ⟨owns ▸ sound.forest.single, owns ▸ sound.forest.acyclic⟩
  have live : ∀ {x y}, b.Owns x y → ∃ m, b.get? y = some m := by
    intro x y owned
    obtain ⟨m, hm⟩ := sound.live_of_owns (owns ▸ owned)
    exact ⟨_, becomes.live hm⟩
  have found := becomes.live hc
  rw [if_pos rfl] at found
  refine follows_rebase forest live found (owns ▸ edge) ?_
  -- inside of the subtree the old address does not matter, outside of it nothing was touched
  by_cases inside : ReflTransGen a.Owns child x
  · exact .inr (owns ▸ inside)
  · have hx : child ≠ x := fun e => inside (e ▸ .refl)
    have hy : child ≠ y := fun e => sound.not_owned hc orphan (e ▸ edge)
    refine .inl fun m hm => ?_
    obtain ⟨n, hn, rfl⟩ := becomes.origin hm
    rw [addresses, if_neg hx]
    simpa [hy] using sound.follows edge n hn

theorem addressAt_readdressed_of_owns (sound : a.Sound root) (hc : a.get? child = some below)
    (orphan : below.parent = none) (edge : a.Owns x y) {n : Node} (hn : a.get? y = some n) :
    (a.readdressed parent child name above below).addressAt y =
      Address.join ((a.readdressed parent child name above below).addressAt x)
        n.identifier.text := by
  have same : SameButAddresses _ (a.readdressed parent child name above below) :=
    sameButAddresses_rebaseBelow _ _ _ _
  have found := ((becomes_adopted a parent child name _).trans same).live hn
  exact follows_readdressed sound hc orphan edge _ found

/-! ### The invariant -/

theorem Sound.attach_addressed (sound : a.Sound root) (hp : a.get? parent = some above)
    (hc : a.get? child = some below) (orphan : below.parent = none) (notRoot : child ≠ .root)
    (open_ : ¬ReflTransGen a.Leads child parent) :
    (a.attach parent child name).Addressed root := by
  have becomes := becomes_attach hp hc name
  have outside : ∀ {x}, ¬ReflTransGen a.Owns child x →
      (a.readdressed parent child name above below).addressAt x = a.addressAt x :=
    addressAt_readdressed hc
  constructor
  · intro id n p up found linked upper
    obtain ⟨n, hn, rfl⟩ := becomes.origin found
    obtain ⟨up, hup, rfl⟩ := becomes.origin upper
    by_cases here : child = id
    · -- the child itself, whose parent is new
      subst here
      obtain rfl : below = n := Option.some.inj (hc.symm.trans hn)
      obtain rfl : parent = p := by simpa [afterAttach] using linked
      obtain rfl : above = up := Option.some.inj (hp.symm.trans hup)
      have apart : ¬ReflTransGen a.Owns child parent :=
        fun path => open_ (ReflTransGen.mono (fun _ _ => Owns.leads) _ _ path)
      show _ = Address.join (addressAt _ parent) _
      rw [outside apart, addressAt_of_get? hp]
      exact addressAt_readdressed_child sound hc
    · -- any other node keeps its parent, and follows it wherever it went
      have linked : n.parent = some p := by simpa [afterAttach, here] using linked
      have owned := (parent_eq_some_iff sound.wired sound.parented hn).mp linked
      show _ = Address.join (addressAt _ p) n.identifier.text
      exact addressAt_readdressed_of_owns sound hc orphan owned hn
  · obtain ⟨n, found, named, top, address⟩ := sound.addressed.root
    have apart : ¬ReflTransGen a.Owns child .root := by
      intro path
      rcases path.cases_tail with same | ⟨x, -, owned⟩
      · exact notRoot same.symm
      · exact sound.root_not_owned owned
    refine ⟨_, becomes.live found, named, ?_, ?_⟩
    · simpa [afterAttach, notRoot] using top
    · show addressAt _ .root = _
      rw [outside apart, addressAt_of_get? found, address]

/-- **A child edge may be made** if it fits, its child has no parent and is not the root, and no
path leads from there to the parent. -/
theorem Sound.attach (sound : a.Sound root)
    (fits : Fits a (childEdge parent child name) above below) (orphan : below.parent = none)
    (notRoot : child ≠ .root) (named : name = below.identifier)
    (open_ : ¬ReflTransGen a.Leads child parent) : (a.attach parent child name).Sound root := by
  have becomes := becomes_attach fits.source fits.target name
  have pushes : Pushes (afterAttach parent child name _) _ := pushes_afterAttach
    (a.readdressed parent child name above below).addressAt
  refine ⟨sound.wired.push becomes pushes fits, ?_, ?_, ?_⟩
  · exact sound.parented.push_child becomes pushes fits.target rfl orphan named fun _ _ => rfl
  · exact sound.acyclic.push (fun _ _ => leads_push becomes pushes) open_
  · exact sound.attach_addressed fits.source fits.target orphan notRoot open_

end

end DeviceTree.Arena
