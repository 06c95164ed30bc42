/-
New addresses below a node.

`rebase` writes an address for every node below another one over child edges.  Where child edges
form a forest (`Forest`), the fuel of the recursion is never used up:

* `sameButAddresses_rebaseBelow` -- nothing but addresses changes;
* `addressAt_rebaseBelow` -- and only those of nodes that lie below;
* `follows_rebase` -- afterwards the address of each of these nodes follows that of its owner.
-/
import DeviceTree.Proofs.Sound

namespace DeviceTree.Arena

open Relation

/-- The address kept at a place. -/
def addressAt (a : Arena) (id : NodeId) : String :=
  (a.get? id).elim "" Node.address

/-- The arena `b` is `a` but for addresses. -/
def SameButAddresses (a b : Arena) : Prop :=
  Becomes a b fun id n => { n with address := b.addressAt id }

section

variable {a b c : Arena} {id x y : NodeId} {n : Node}

theorem addressAt_of_get? (h : a.get? id = some n) : a.addressAt id = n.address := by
  rw [addressAt, h, Option.elim_some]

theorem SameButAddresses.refl (a : Arena) : SameButAddresses a a := by
  intro id
  cases h : a.get? id with
  | none => rfl
  | some n => simp [addressAt_of_get? h]

theorem Becomes.sameButAddresses (address : NodeId → Node → String)
    (h : Becomes a b fun id n => { n with address := address id n }) : SameButAddresses a b := by
  intro id
  cases found : a.get? id with
  | none => rw [h, found, Option.map_none, Option.map_none]
  | some n =>
    simp [h.live found, addressAt_of_get? (h.live found)]

theorem SameButAddresses.trans (h : SameButAddresses a b) (h' : SameButAddresses b c) :
    SameButAddresses a c :=
  Becomes.sameButAddresses (fun id _ => c.addressAt id) (Becomes.trans h h')

theorem SameButAddresses.keepsEdges (address : NodeId → Node → String) :
    KeepsEdges fun id n => { n with address := address id n } :=
  fun _ _ => ⟨rfl, rfl, rfl, rfl⟩

theorem SameButAddresses.owns_iff (h : SameButAddresses a b) : b.Owns x y ↔ a.Owns x y :=
  Becomes.owns_iff h (keepsEdges fun id _ => b.addressAt id)

theorem sameButAddresses_setAddress (a : Arena) (id : NodeId) (address : String) :
    SameButAddresses a (a.setAddress id address) := by
  refine Becomes.sameButAddresses (fun other n => if id = other then address else n.address) ?_
  intro other
  rw [setAddress, becomes_modify]
  congr 1
  funext n
  by_cases same : id = other <;> simp [same]

theorem addressAt_setAddress (a : Arena) (id other : NodeId) (address : String) :
    (a.setAddress id address).addressAt other =
      if id = other ∧ (a.get? other).isSome then address else a.addressAt other := by
  rw [addressAt, setAddress, get?_modify]
  by_cases same : id = other <;> cases h : a.get? other <;> simp [same, h, addressAt]

/-! ### What changes -/

/-- Some of the nodes owns `x`, over any number of child edges. -/
def Under (a : Arena) (nodes : List NodeId) (x : NodeId) : Prop :=
  ∃ c ∈ nodes, ReflTransGen a.Owns c x

theorem SameButAddresses.under_iff (h : SameButAddresses a b) {nodes : List NodeId} :
    b.Under nodes x ↔ a.Under nodes x := by
  have same : b.Owns = a.Owns := funext₂ fun _ _ => propext h.owns_iff
  rw [Under, Under, same]

/-- What the recursion does for one child. -/
theorem rebaseBelow_cons (levels : Nat) (child : NodeId) (children : List NodeId) (base : String)
    (a : Arena) :
    rebaseBelow (levels + 1) (child :: children) base a =
      match (rebaseBelow (levels + 1) children base a).get? child with
      | none => rebaseBelow (levels + 1) children base a
      | some node =>
        rebaseBelow levels node.childIds (Address.join base node.identifier.text)
          ((rebaseBelow (levels + 1) children base a).setAddress child
            (Address.join base node.identifier.text)) := by
  rw [rebaseBelow, List.foldr_cons]
  rfl

theorem rebaseBelow_nil (levels : Nat) (base : String) (a : Arena) :
    rebaseBelow levels [] base a = a := by
  cases levels <;> rfl

/-- The recursion writes addresses and does nothing else: what each of these keeps, it keeps. -/
theorem rebaseBelow_keeps {P : Arena → Prop}
    (keeps : ∀ {a} id address, P a → P (a.setAddress id address)) (levels : Nat)
    (children : List NodeId) (base : String) (h : P a) :
    P (rebaseBelow levels children base a) := by
  induction levels generalizing children base a with
  | zero => exact h
  | succ levels ih =>
    induction children with
    | nil =>
      rw [rebaseBelow_nil]
      exact h
    | cons child children ihc =>
      rw [rebaseBelow_cons]
      split
      · exact ihc
      · exact ih _ _ (keeps _ _ ihc)

theorem sameButAddresses_rebaseBelow (levels : Nat) (children : List NodeId) (base : String)
    (a : Arena) : SameButAddresses a (rebaseBelow levels children base a) :=
  rebaseBelow_keeps (fun id address same => same.trans (sameButAddresses_setAddress _ id address))
    levels children base (.refl a)

theorem addressAt_rebaseBelow (levels : Nat) (children : List NodeId) (base : String) (a : Arena)
    (apart : ¬a.Under children x) :
    (rebaseBelow levels children base a).addressAt x = a.addressAt x := by
  induction levels generalizing children base a with
  | zero => rfl
  | succ levels ih =>
    induction children with
    | nil => rw [rebaseBelow_nil]
    | cons child children ihc =>
      have later := ihc fun ⟨c, mem, path⟩ => apart ⟨c, List.mem_cons_of_mem _ mem, path⟩
      rw [rebaseBelow_cons]
      split
      · exact later
      · next node found =>
        have before := sameButAddresses_rebaseBelow (levels + 1) children base a
        have here : child ≠ x := fun e => apart ⟨child, List.mem_cons_self, e ▸ .refl⟩
        rw [ih, addressAt_setAddress, if_neg fun h => here h.1, later]
        -- what the child owns lies under it also before
        rw [(sameButAddresses_setAddress _ _ _).under_iff, before.under_iff]
        rintro ⟨c, mem, path⟩
        refine apart ⟨child, List.mem_cons_self, .head ?_ path⟩
        exact before.owns_iff.mp ⟨node, found, mem⟩

/-! ### Where the new addresses come from -/

/-- The address of `y` follows from that of `x`. -/
def Follows (a : Arena) (x y : NodeId) : Prop :=
  ∀ n, a.get? y = some n → n.address = Address.join (a.addressAt x) n.identifier.text

theorem owns_iff_mem (found : a.get? x = some n) : a.Owns x y ↔ y ∈ n.childIds := by
  constructor
  · rintro ⟨m, hm, mem⟩
    rw [found, Option.some.injEq] at hm
    exact hm ▸ mem
  · intro mem
    exact ⟨n, found, mem⟩

/-- Child edges form a forest: every node has one owner at most, and none lies below itself. -/
structure Forest (a : Arena) : Prop where
  single : ∀ {x y z}, a.Owns x z → a.Owns y z → x = y
  acyclic : ∀ {x}, ¬TransGen a.Owns x x

theorem Follows.setAddress {child : NodeId} {address : String} (h : a.Follows x y)
    (hx : x ≠ child) (hy : y ≠ child) : (a.setAddress child address).Follows x y := by
  intro n found
  rw [Arena.setAddress, get?_modify, if_neg hy.symm] at found
  rw [addressAt_setAddress, if_neg fun e => hx e.1.symm]
  exact h n found

/-- So many different nodes fit into an arena. -/
theorem length_le_of_nodup {nodes : List NodeId} {size : ℕ} (nodup : nodes.Nodup)
    (inside : ∀ z ∈ nodes, z.index < size) : nodes.length ≤ size := by
  have indices : (nodes.map NodeId.index).Nodup :=
    nodup.map fun x y same => by cases x; cases y; simp_all
  have sub : nodes.map NodeId.index ⊆ List.range size := by
    intro i mem
    obtain ⟨z, hz, rfl⟩ := List.mem_map.mp mem
    exact List.mem_range.mpr (inside z hz)
  simpa using indices.length_le_of_subset sub

theorem Forest.congr (forest : Forest a) (same : SameButAddresses a b) : Forest b where
  single hx hy := forest.single (same.owns_iff.mp hx) (same.owns_iff.mp hy)
  acyclic cycle := forest.acyclic (TransGen.mono (fun _ _ => same.owns_iff.mp) _ _ cycle)

/-- The address written for a child follows that of its owner. -/
theorem follows_setAddress (forest : Forest a) {top child : NodeId} (owned : a.Owns top child)
    (found : a.get? child = some n) (edge : a.Owns x child) :
    (a.setAddress child (Address.join (a.addressAt top) n.identifier.text)).Follows x child := by
  have here : x = top := forest.single edge owned
  subst here
  have differ : child ≠ x := by
    rintro rfl
    exact forest.acyclic (.single owned)
  intro m hm
  rw [setAddress, get?_modify, if_pos rfl, found, Option.map_some, Option.some.injEq] at hm
  subst hm
  rw [addressAt_setAddress, if_neg fun e => differ e.1]

/-- The nodes on the way down to `top`, all of them different. -/
structure WayDown (a : Arena) (above : List NodeId) (top : NodeId) : Prop where
  nodup : above.Nodup
  live : ∀ z ∈ above, ∃ m, a.get? z = some m
  path : ∀ z ∈ above, ReflTransGen a.Owns z top

/-- A node by itself is a way down. -/
theorem wayDown_single (found : a.get? x = some n) : WayDown a [x] x where
  nodup := List.nodup_singleton x
  live _ mem := ⟨n, List.mem_singleton.mp mem ▸ found⟩
  path _ mem := List.mem_singleton.mp mem ▸ .refl

/-- The next node down is none of those above it. -/
theorem WayDown.cons (forest : Forest a) {above : List NodeId} {top child : NodeId}
    (way : WayDown a above top) (owned : a.Owns top child) (found : a.get? child = some n) :
    WayDown a (child :: above) child where
  nodup := List.nodup_cons.mpr
    ⟨fun mem => forest.acyclic (.head' owned (way.path child mem)), way.nodup⟩
  live z mem := by
    rcases List.mem_cons.mp mem with rfl | mem
    · exact ⟨n, found⟩
    · exact way.live z mem
  path z mem := by
    rcases List.mem_cons.mp mem with rfl | mem
    · exact .refl
    · exact (way.path z mem).tail owned

theorem WayDown.length_le {above : List NodeId} {top : NodeId} {size : ℕ}
    (way : WayDown a above top) (inside : ∀ {z m}, a.get? z = some m → z.index < size) :
    above.length ≤ size :=
  length_le_of_nodup way.nodup fun z mem => inside (way.live z mem).choose_spec

/-- The forest over which the recursion runs, and the number of its places. -/
structure Ground (a : Arena) (size : ℕ) : Prop where
  forest : Forest a
  live : ∀ {x y}, a.Owns x y → ∃ m, a.get? y = some m
  inside : ∀ {z m}, a.get? z = some m → z.index < size

/-- Where the way down has as many nodes as there are places, there is no child to go on to. -/
theorem Ground.eq_nil {size : ℕ} (ground : Ground a size) {children above : List NodeId}
    {top : NodeId} (owned : ∀ c ∈ children, a.Owns top c) (way : WayDown a above top)
    (full : size ≤ above.length) : children = [] := by
  rw [List.eq_nil_iff_forall_not_mem]
  intro c mem
  obtain ⟨m, hm⟩ := ground.live (owned c mem)
  have := (way.cons ground.forest (owned c mem) hm).length_le ground.inside
  simp only [List.length_cons] at this
  omega

/-- The recursion writes right addresses.  The induction is on its fuel, which cannot run out
before the nodes do. -/
theorem follows_rebaseBelow {a₀ : Arena} {size : ℕ} (ground : Ground a₀ size) (levels : ℕ) :
    ∀ (children : List NodeId) (a : Arena) (above : List NodeId) (top : NodeId),
      SameButAddresses a₀ a → (∀ c ∈ children, a₀.Owns top c) → WayDown a₀ above top →
      size ≤ levels + above.length → ∀ {x y}, a₀.Owns x y →
      (a.Follows x y ∨ a₀.Under children x ∨ x = top ∧ y ∈ children) →
      (rebaseBelow levels children (a.addressAt top) a).Follows x y := by
  have forest := ground.forest
  have nothing : ∀ {top x y : NodeId} {a : Arena},
      (a.Follows x y ∨ a₀.Under [] x ∨ x = top ∧ y ∈ []) → a.Follows x y := by
    rintro top x y a (h | ⟨c, mem, -⟩ | ⟨-, mem⟩)
    · exact h
    · simp at mem
    · simp at mem
  induction levels with
  | zero =>
    intro children a above top same owned way fuel x y edge h
    obtain rfl := ground.eq_nil owned way (by omega)
    exact nothing h
  | succ levels ih =>
    intro children a above top same owned way fuel
    induction children with
    | nil =>
      intro x y edge h
      rw [rebaseBelow_nil]
      exact nothing h
    | cons child rest ihc =>
      intro x y edge h
      have ownsChild := owned child List.mem_cons_self
      have ownsRest := fun c mem => owned c (List.mem_cons_of_mem _ mem)
      obtain ⟨m, hm⟩ := ground.live ownsChild
      -- first the other children are done
      have same₁ := same.trans (sameButAddresses_rebaseBelow (levels + 1) rest (a.addressAt top) a)
      have done := fun h => ihc ownsRest edge h
      have topStays : (rebaseBelow (levels + 1) rest (a.addressAt top) a).addressAt top =
          a.addressAt top := by
        refine addressAt_rebaseBelow _ _ _ _ ?_
        rw [same.under_iff]
        rintro ⟨c, mem, path⟩
        exact forest.acyclic (.head' (ownsRest c mem) path)
      have found := Becomes.live same₁ hm
      rw [rebaseBelow_cons, found]
      generalize rebaseBelow (levels + 1) rest (a.addressAt top) a = b at *
      rw [← topStays]
      -- then this child is written, and what lies below it
      have written := fun owned => follows_setAddress (forest.congr same₁)
        (same₁.owns_iff.mpr ownsChild) found (x := x) owned
      have address := addressAt_setAddress b child child
        (Address.join (b.addressAt top) m.identifier.text)
      rw [if_pos ⟨rfl, by simp [found]⟩] at address
      have below : ∀ {c}, c ∈ m.childIds ↔ a₀.Owns child c := (owns_iff_mem hm).symm
      have key := ih m.childIds
        (b.setAddress child (Address.join (b.addressAt top) m.identifier.text)) (child :: above)
        child (same₁.trans (sameButAddresses_setAddress b child _)) (fun _ => below.mp)
        (way.cons forest ownsChild hm) (by simp; omega) edge
      rw [address] at key
      refine key ?_
      -- an edge starts at the child, ends there, or is none of its own
      by_cases hx : x = child
      · subst hx
        exact .inr (.inr ⟨rfl, below.mpr edge⟩)
      · by_cases hy : y = child
        · subst hy
          exact .inl (written (same₁.owns_iff.mpr edge))
        · rcases h with h | ⟨c, mem, path⟩ | ⟨rfl, mem⟩
          · exact .inl ((done (.inl h)).setAddress hx hy)
          · rcases List.mem_cons.mp mem with rfl | mem
            · -- below the child, the recursion for it is in charge
              rcases path.cases_head with rfl | ⟨w, first, path⟩
              · exact absurd rfl hx
              · exact .inr (.inl ⟨w, below.mpr first, path⟩)
            · exact .inl ((done (.inr (.inl ⟨c, mem, path⟩))).setAddress hx hy)
          · rcases List.mem_cons.mp mem with rfl | mem
            · exact absurd rfl hy
            · exact .inl ((done (.inr (.inr ⟨rfl, mem⟩))).setAddress hx hy)

/-- **After the recursion the address of every node below `top` follows that of its owner**, and so
does every address that did before. -/
theorem follows_rebase (forest : Forest a) (live : ∀ {x y}, a.Owns x y → ∃ m, a.get? y = some m)
    {top : NodeId} (found : a.get? top = some n) (edge : a.Owns x y)
    (h : a.Follows x y ∨ ReflTransGen a.Owns top x) :
    (a.rebase n.childIds n.address).Follows x y := by
  have way := wayDown_single found
  rw [rebase, ← addressAt_of_get? found]
  refine follows_rebaseBelow ⟨forest, live, index_lt_of_get?⟩ _ _ a [top] top (.refl a)
    (fun c mem => (owns_iff_mem found).mpr mem) way (by simp) edge ?_
  rcases h with h | path
  · exact .inl h
  · rcases path.cases_head with rfl | ⟨c, first, path⟩
    · exact .inr (.inr ⟨rfl, (owns_iff_mem found).mp edge⟩)
    · exact .inr (.inl ⟨c, (owns_iff_mem found).mp first, path⟩)

end

end DeviceTree.Arena
