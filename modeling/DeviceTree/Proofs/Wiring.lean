/-
Edges may be made in any order.

Whether an edge may be made depends on the edges that are there, and what it does to an arena is to
add its two halves; addresses follow the parents, whatever the order in which these came about.

* `address_unique` -- two sound arenas with the same parents have the same addresses, if they have
  them at the tops;
* `Sound.swap` -- two edges that may be made one after the other may be made the other way round;
* `Grants.perm` -- so may any number of edges, and the arenas that are left differ in nothing but
  the order in which nodes keep their references.
-/
import DeviceTree.Proofs.Attach

namespace DeviceTree

open Relation

/-- The nodes differ in nothing but their addresses and the order of their references. -/
structure Node.Akin (n m : Node) : Prop where
  identifier : n.identifier = m.identifier
  kind : n.kind = m.kind
  attachment : n.attachment = m.attachment
  parent : n.parent = m.parent
  forward : n.forward.Perm m.forward
  inverse : n.inverse.Perm m.inverse
  observers : n.observers = m.observers

/-- The nodes differ in nothing but the order of their references. -/
structure Node.Reordered (n m : Node) : Prop extends n.Akin m where
  address : n.address = m.address

namespace Node

variable {n m k : Node}

theorem Akin.refl (n : Node) : n.Akin n :=
  ⟨rfl, rfl, rfl, rfl, .rfl, .rfl, rfl⟩

theorem Akin.symm (h : n.Akin m) : m.Akin n where
  identifier := h.identifier.symm
  kind := h.kind.symm
  attachment := h.attachment.symm
  parent := h.parent.symm
  forward := h.forward.symm
  inverse := h.inverse.symm
  observers := h.observers.symm

theorem Akin.trans (h : n.Akin m) (h' : m.Akin k) : n.Akin k where
  identifier := h.identifier.trans h'.identifier
  kind := h.kind.trans h'.kind
  attachment := h.attachment.trans h'.attachment
  parent := h.parent.trans h'.parent
  forward := h.forward.trans h'.forward
  inverse := h.inverse.trans h'.inverse
  observers := h.observers.trans h'.observers

theorem Akin.named?_eq_none (h : n.Akin m) {name : String} (free : n.named? name = none) :
    m.named? name = none := by
  rw [named?_eq_none_iff] at free ⊢
  intro mem
  exact free ((h.forward.map _).mem_iff.mpr mem)

theorem Akin.mem_targets (h : n.Akin m) {id : NodeId} : id ∈ n.targets ↔ id ∈ m.targets :=
  (h.forward.map _).mem_iff

end Node

namespace Arena

/-- The arenas differ in nothing but the order in which nodes keep their references. -/
def Reordered (a b : Arena) : Prop :=
  ∀ id, Option.Rel Node.Reordered (a.get? id) (b.get? id)

/-- Makes the edge of which `e` is the forward half. -/
def make (a : Arena) (e : Reference) : Arena :=
  match e.kind with
  | .child => a.attach e.source e.target e.identifier
  | .link => a.link e.source e.target e.identifier

/-- The edge of which `e` is the forward half may be made. -/
structure Admits (a : Arena) (e : Reference) : Prop where
  fits : ∃ holder aim, Fits a e holder aim ∧
    (e.kind = .child → aim.parent = none ∧ e.target ≠ .root ∧ e.identifier = aim.identifier)
  /-- No path leads back from the target to the source. -/
  open_ : ¬ReflTransGen a.Leads e.target e.source

/-- The edges may be made one after the other. -/
def Grants (a : Arena) : List Reference → Prop
  | [] => True
  | e :: es => a.Admits e ∧ (a.make e).Grants es

variable {a b : Arena} {root : Identifier} {e f : Reference} {x y id : NodeId} {n m : Node}
  {g : NodeId → Node → Node}

/-! ### What the making of an edge does -/

/-- What the making of the edge `e` does to each node, as `g` tells. -/
structure Makes (a b : Arena) (e : Reference) (g : NodeId → Node → Node) : Prop where
  becomes : Becomes a b g
  pushes : Pushes g e
  parent : ∀ id n, (g id n).parent =
    if e.kind = .child ∧ e.target = id then some e.source else n.parent
  /-- A node that has no parent even then keeps its address. -/
  top : ∀ {id n}, a.get? id = some n → (g id n).parent = none → (g id n).address = n.address
  kept : ∀ id n, (g id n).kind = n.kind ∧ (g id n).attachment = n.attachment ∧
    (g id n).observers = n.observers

theorem Sound.makes (sound : a.Sound root) (h : a.Admits e) : ∃ g, Makes a (a.make e) e g := by
  obtain ⟨name, source, target, kind, direction⟩ := e
  obtain ⟨⟨holder, aim, fits, only⟩, -⟩ := h
  obtain rfl : direction = .forward := fits.forward
  cases kind with
  | link =>
    refine ⟨_, becomes_link a source target name, pushes_pushed _, ?_, fun _ _ => rfl,
      fun _ _ => ⟨rfl, rfl, rfl⟩⟩
    intro id n
    rw [if_neg (by simp)]
    rfl
  | child =>
    refine ⟨_, becomes_attach fits.source fits.target name, pushes_afterAttach _, ?_, ?_,
      fun _ _ => ⟨rfl, rfl, rfl⟩⟩
    · intro id n
      simp [afterAttach]
    · intro id n found none
      -- a node below the child is the child or owned by some node, and has a parent either way
      have differ : target ≠ id := by
        rintro rfl
        simp [afterAttach] at none
      have orphan : n.parent = Option.none := by simpa [afterAttach, differ] using none
      have outside : ¬ReflTransGen a.Owns target id := by
        intro path
        rcases path.cases_tail with same | ⟨y, -, owned⟩
        · exact differ same.symm
        · exact sound.not_owned found orphan owned
      show addressAt _ id = n.address
      rw [addressAt_readdressed fits.target outside, addressAt_of_get? found]

theorem Sound.make (sound : a.Sound root) (h : a.Admits e) : (a.make e).Sound root := by
  obtain ⟨name, source, target, kind, direction⟩ := e
  obtain ⟨⟨holder, aim, fits, only⟩, open_⟩ := h
  obtain rfl : direction = .forward := fits.forward
  cases kind with
  | link => exact sound.link fits open_
  | child =>
    obtain ⟨orphan, notRoot, named⟩ := only rfl
    exact sound.attach fits orphan notRoot named open_

theorem Makes.leads_iff (h : Makes a b e g) (live : a.get? e.source = some n) :
    b.Leads x y ↔ a.Leads x y ∨ x = e.source ∧ y = e.target := by
  constructor
  · exact leads_push h.becomes h.pushes
  · rintro (⟨n, found, mem⟩ | ⟨rfl, rfl⟩)
    · refine ⟨_, h.becomes.live found, ?_⟩
      rw [Node.targets, (h.pushes x n).1, List.map_append]
      exact List.mem_append_left _ mem
    · refine ⟨_, h.becomes.live live, ?_⟩
      rw [Node.targets, (h.pushes _ n).1, if_pos rfl, List.map_append]
      exact List.mem_append_right _ (List.mem_singleton_self _)

/-- A node that has a parent keeps it. -/
theorem Makes.orphan (h : Makes a b e g) (none : (g id n).parent = Option.none) :
    n.parent = Option.none := by
  rw [h.parent] at none
  split at none
  · cases none
  · exact none

theorem Makes.akin {a' b' : Arena} {g' : NodeId → Node → Node} (h : Makes a b e g)
    (h' : Makes a' b' e g') (id : NodeId) (akin : n.Akin m) : (g id n).Akin (g' id m) where
  identifier := by rw [(h.pushes id n).2.2, (h'.pushes id m).2.2, akin.identifier]
  kind := by rw [(h.kept id n).1, (h'.kept id m).1, akin.kind]
  attachment := by rw [(h.kept id n).2.1, (h'.kept id m).2.1, akin.attachment]
  parent := by rw [h.parent, h'.parent, akin.parent]
  forward := by
    rw [(h.pushes id n).1, (h'.pushes id m).1]
    exact akin.forward.append_right _
  inverse := by
    rw [(h.pushes id n).2.1, (h'.pushes id m).2.1]
    exact akin.inverse.append_right _
  observers := by rw [(h.kept id n).2.2, (h'.kept id m).2.2, akin.observers]

/-- Two edges that do not give a parent to the same node may change places. -/
theorem Makes.akin_swap {c b' c' : Arena} {g' h h' : NodeId → Node → Node}
    (first : Makes a b e g) (second : Makes b c f g') (first' : Makes a b' f h)
    (second' : Makes b' c' e h')
    (apart : ¬(e.kind = .child ∧ f.kind = .child ∧ e.target = f.target)) (id : NodeId) (n : Node) :
    (g' id (g id n)).Akin (h' id (h id n)) := by
  have swap : ∀ l x y : List Reference, ((l ++ x) ++ y).Perm ((l ++ y) ++ x) := by
    intro l x y
    rw [List.append_assoc, List.append_assoc]
    exact List.perm_append_comm.append_left l
  refine ⟨?_, ?_, ?_, ?_, ?_, ?_, ?_⟩
  · rw [(second.pushes id _).2.2, (first.pushes id n).2.2, (second'.pushes id _).2.2,
      (first'.pushes id n).2.2]
  · rw [(second.kept id _).1, (first.kept id n).1, (second'.kept id _).1, (first'.kept id n).1]
  · rw [(second.kept id _).2.1, (first.kept id n).2.1, (second'.kept id _).2.1,
      (first'.kept id n).2.1]
  · rw [second.parent, first.parent, second'.parent, first'.parent]
    by_cases he : e.kind = .child ∧ e.target = id
    · have hf : ¬(f.kind = .child ∧ f.target = id) :=
        fun hf => apart ⟨he.1, hf.1, he.2.trans hf.2.symm⟩
      rw [if_neg hf, if_pos he, if_pos he]
    · rw [if_neg he, if_neg he]
  · rw [(second.pushes id _).1, (first.pushes id n).1, (second'.pushes id _).1,
      (first'.pushes id n).1]
    exact swap _ _ _
  · rw [(second.pushes id _).2.1, (first.pushes id n).2.1, (second'.pushes id _).2.1,
      (first'.pushes id n).2.1]
    exact swap _ _ _
  · rw [(second.kept id _).2.2, (first.kept id n).2.2, (second'.kept id _).2.2,
      (first'.kept id n).2.2]

/-! ### Addresses -/

/-- **Addresses follow the parents.**  Sound arenas that agree in all but the addresses, and in
those of the nodes without a parent, agree in all addresses. -/
theorem address_unique (ha : a.Sound root) (hb : b.Sound root)
    (akin : ∀ id, Option.Rel (fun n m : Node => n.Akin m ∧ (n.parent = none → n.address = m.address))
      (a.get? id) (b.get? id)) :
    a.Reordered b := by
  -- the address of a parent is shorter than those of its children
  have address : ∀ length id n m, n.address.length = length → a.get? id = some n →
      b.get? id = some m → n.address = m.address := by
    intro length
    induction length using Nat.strongRecOn with
    | ind length ih =>
      intro id n m bound hn hm
      have here := akin id
      rw [hn, hm] at here
      obtain ⟨akin', top⟩ := Option.rel_some_some.mp here
      cases up : n.parent with
      | none => exact top up
      | some p =>
        obtain ⟨above, hp, -⟩ := (parent_eq_some_iff ha.wired ha.parented hn).mp up
        obtain ⟨above', hp', -⟩ :=
          (parent_eq_some_iff hb.wired hb.parented hm).mp (akin'.parent ▸ up)
        have below := ha.addressed.below hn up hp
        have below' := hb.addressed.below hm (akin'.parent ▸ up) hp'
        have shorter : above.address.length < length := by
          have slash : "/".length = 1 := rfl
          rw [← bound, below, Address.join, String.length_append, String.length_append]
          omega
        rw [below, below', ih _ shorter p above above' rfl hp hp', akin'.identifier]
  intro id
  have here := akin id
  cases hn : a.get? id <;> cases hm : b.get? id <;> rw [hn, hm] at here
  · exact .none
  · cases here
  · cases here
  · next n m =>
    obtain ⟨akin', -⟩ := Option.rel_some_some.mp here
    exact .some ⟨akin', address _ id n m rfl hn hm⟩

/-! ### Arenas in which references are ordered differently -/

theorem Reordered.refl (a : Arena) : a.Reordered a := by
  intro id
  cases a.get? id with
  | none => exact .none
  | some n => exact .some ⟨.refl n, rfl⟩

theorem Reordered.live (h : a.Reordered b) (found : a.get? id = some n) :
    ∃ m, b.get? id = some m ∧ n.Reordered m := by
  have here := h id
  rw [found] at here
  cases hm : b.get? id <;> rw [hm] at here
  · cases here
  · exact ⟨_, rfl, Option.rel_some_some.mp here⟩

theorem Reordered.symm (h : a.Reordered b) : b.Reordered a := by
  intro id
  have here := h id
  cases hn : a.get? id <;> cases hm : b.get? id <;> rw [hn, hm] at here
  · exact .none
  · cases here
  · cases here
  · obtain ⟨akin, address⟩ := Option.rel_some_some.mp here
    exact .some ⟨akin.symm, address.symm⟩

theorem Reordered.trans {c : Arena} (h : a.Reordered b) (h' : b.Reordered c) : a.Reordered c := by
  intro id
  cases hn : a.get? id with
  | none =>
    cases hk : c.get? id with
    | none => exact .none
    | some k =>
      obtain ⟨m, hm, -⟩ := h'.symm.live hk
      obtain ⟨n, hn', -⟩ := h.symm.live hm
      rw [hn] at hn'
      cases hn'
  | some n =>
    obtain ⟨m, hm, first⟩ := h.live hn
    obtain ⟨k, hk, second⟩ := h'.live hm
    rw [hk]
    exact .some ⟨first.toAkin.trans second.toAkin, first.address.trans second.address⟩

theorem Reordered.leads (h : a.Reordered b) (step : a.Leads x y) : b.Leads x y := by
  obtain ⟨n, hn, mem⟩ := step
  obtain ⟨m, hm, reordered⟩ := h.live hn
  exact ⟨m, hm, reordered.mem_targets.mp mem⟩

/-- The order of references does not matter to whether an edge may be made. -/
theorem Reordered.admits (h : a.Reordered b) (admits : a.Admits e) : b.Admits e := by
  obtain ⟨⟨holder, aim, fits, only⟩, open_⟩ := admits
  obtain ⟨holder', source, same⟩ := h.live fits.source
  obtain ⟨aim', target, same'⟩ := h.live fits.target
  refine ⟨⟨holder', aim', ⟨source, target, fits.forward, ?_, ?_⟩, ?_⟩, ?_⟩
  · exact same.named?_eq_none fits.free
  · rw [Node.toward?_eq_none_iff, ← same.mem_targets, ← Node.toward?_eq_none_iff]
    exact fits.apart
  · rw [← same'.parent, ← same'.identifier]
    exact only
  · exact fun path => open_ (ReflTransGen.mono (fun _ _ => h.symm.leads) _ _ path)

theorem Reordered.make (h : a.Reordered b) (ha : a.Sound root) (hb : b.Sound root)
    (admits : a.Admits e) : (a.make e).Reordered (b.make e) := by
  obtain ⟨g, made⟩ := ha.makes admits
  obtain ⟨g', made'⟩ := hb.makes (h.admits admits)
  refine address_unique (ha.make admits) (hb.make (h.admits admits)) fun id => ?_
  rw [made.becomes, made'.becomes]
  cases hn : a.get? id with
  | none =>
    have missing := h id
    rw [hn] at missing
    cases hm : b.get? id with
    | none => exact .none
    | some m =>
      rw [hm] at missing
      cases missing
  | some n =>
    obtain ⟨m, hm, same⟩ := h.live hn
    rw [hm]
    have akin := made.akin made' id same.toAkin
    refine .some ⟨akin, fun none => ?_⟩
    rw [made.top hn none, made'.top hm (akin.parent ▸ none), same.address]

theorem Reordered.grants {es : List Reference} (h : a.Reordered b) (ha : a.Sound root)
    (hb : b.Sound root) (granted : a.Grants es) :
    b.Grants es ∧ (es.foldl Arena.make a).Reordered (es.foldl Arena.make b) := by
  induction es generalizing a b with
  | nil => exact ⟨trivial, h⟩
  | cons e es ih =>
    obtain ⟨admits, rest⟩ := granted
    have admits' := h.admits admits
    obtain ⟨rest', same⟩ := ih (h.make ha hb admits) (ha.make admits) (hb.make admits') rest
    exact ⟨⟨admits', rest'⟩, same⟩

/-! ### Two edges -/

/-- What may be made after another edge may be made before it. -/
theorem Sound.admits_of_make (sound : a.Sound root) (he : a.Admits e)
    (hf : (a.make e).Admits f) : a.Admits f := by
  obtain ⟨g, made⟩ := sound.makes he
  obtain ⟨⟨holder, aim, fits, only⟩, open_⟩ := hf
  obtain ⟨source, hs, rfl⟩ := made.becomes.origin fits.source
  obtain ⟨target, ht, rfl⟩ := made.becomes.origin fits.target
  have free := Node.named?_eq_none_iff.mp fits.free
  have apart := Node.toward?_eq_none_iff.mp fits.apart
  rw [Node.foldedNames, (made.pushes _ source).1, List.map_append, List.mem_append,
    not_or] at free
  rw [Node.targets, (made.pushes _ source).1, List.map_append, List.mem_append, not_or] at apart
  refine ⟨⟨source, target, ⟨hs, ht, fits.forward, ?_, ?_⟩, fun child => ?_⟩, fun path => ?_⟩
  · exact Node.named?_eq_none_iff.mpr free.1
  · exact Node.toward?_eq_none_iff.mpr apart.1
  · obtain ⟨orphan, notRoot, named⟩ := only child
    rw [made.parent] at orphan
    rw [(made.pushes _ target).2.2] at named
    split at orphan
    · cases orphan
    · exact ⟨orphan, notRoot, named⟩
  · obtain ⟨_, _, fits', -⟩ := he.fits
    refine open_ (ReflTransGen.mono (fun x y step => ?_) _ _ path)
    exact (made.leads_iff fits'.source).mpr (.inl step)

/-- **Two edges that may be made one after the other may be made the other way round.** -/
theorem Sound.swap (sound : a.Sound root) (he : a.Admits e) (hf : (a.make e).Admits f) :
    (a.make f).Admits e := by
  have hf' := sound.admits_of_make he hf
  obtain ⟨g, made⟩ := sound.makes he
  obtain ⟨g', made'⟩ := sound.makes hf'
  have both := (sound.make he).make hf
  obtain ⟨g'', made''⟩ := (sound.make he).makes hf
  obtain ⟨⟨holder, aim, fits, only⟩, open_⟩ := he
  obtain ⟨⟨holder', aim', fits', only'⟩, open'⟩ := hf
  obtain ⟨source, hs, rfl⟩ := made.becomes.origin fits'.source
  obtain ⟨target, ht, rfl⟩ := made.becomes.origin fits'.target
  refine ⟨⟨_, _, ⟨made'.becomes.live fits.source, made'.becomes.live fits.target, fits.forward,
    ?_, ?_⟩, fun child => ?_⟩, fun path => ?_⟩
  · -- two edges of one node have different names
    rw [Node.named?_eq_none_iff, Node.foldedNames, (made'.pushes _ holder).1, List.map_append,
      List.mem_append, not_or]
    refine ⟨Node.named?_eq_none_iff.mp fits.free, fun mem => ?_⟩
    split at mem
    · next here =>
      have free := Node.named?_eq_none_iff.mp fits'.free
      rw [Node.foldedNames, (made.pushes _ source).1, if_pos here.symm, List.map_append,
        List.mem_append, not_or] at free
      rw [List.map_singleton, List.mem_singleton] at mem
      exact free.2 (by simp [mem])
    · simp at mem
  · rw [Node.toward?_eq_none_iff, Node.targets, (made'.pushes _ holder).1, List.map_append,
      List.mem_append, not_or]
    refine ⟨Node.toward?_eq_none_iff.mp fits.apart, fun mem => ?_⟩
    split at mem
    · next here =>
      have apart := Node.toward?_eq_none_iff.mp fits'.apart
      rw [Node.targets, (made.pushes _ source).1, if_pos here.symm, List.map_append,
        List.mem_append, not_or] at apart
      rw [List.map_singleton, List.mem_singleton] at mem
      exact apart.2 (by simp [mem])
    · simp at mem
  · obtain ⟨orphan, notRoot, named⟩ := only child
    rw [made'.parent, (made'.pushes _ aim).2.2]
    refine ⟨?_, notRoot, named⟩
    split
    · next here =>
      -- a node that has just got a parent gets no other
      obtain ⟨orphan', -, -⟩ := only' here.1
      rw [made.parent, if_pos ⟨child, here.2.symm⟩] at orphan'
      cases orphan'
    · exact orphan
  · -- the path would close a cycle once both edges are there
    have live := made.becomes.live fits.source
    have inside : ∀ x y, (a.make f).Leads x y → ((a.make e).make f).Leads x y := by
      intro x y step
      rw [made''.leads_iff fits'.source, made.leads_iff fits.source]
      rcases (made'.leads_iff hs).mp step with old | new
      · exact .inl (.inl old)
      · exact .inr new
    have edge : ((a.make e).make f).Leads e.source e.target :=
      (made''.leads_iff fits'.source).mpr
        (.inl ((made.leads_iff fits.source).mpr (.inr ⟨rfl, rfl⟩)))
    exact both.acyclic _ (.head' edge (ReflTransGen.mono inside _ _ path))

/-- It makes no difference which of two edges comes first. -/
theorem Sound.make_swap (sound : a.Sound root) (he : a.Admits e) (hf : (a.make e).Admits f) :
    ((a.make e).make f).Reordered ((a.make f).make e) := by
  have hf' := sound.admits_of_make he hf
  have he' := sound.swap he hf
  obtain ⟨g₁, made₁⟩ := sound.makes he
  obtain ⟨g₂, made₂⟩ := (sound.make he).makes hf
  obtain ⟨h₁, made₁'⟩ := sound.makes hf'
  obtain ⟨h₂, made₂'⟩ := (sound.make hf').makes he'
  have apart : ¬(e.kind = .child ∧ f.kind = .child ∧ e.target = f.target) := by
    rintro ⟨first, second, same⟩
    -- the second edge finds the node with a parent
    obtain ⟨holder, aim, fits, only⟩ := hf.fits
    obtain ⟨m, -, rfl⟩ := made₁.becomes.origin fits.target
    obtain ⟨orphan, -, -⟩ := only second
    rw [made₁.parent, if_pos ⟨first, same⟩] at orphan
    cases orphan
  refine address_unique ((sound.make he).make hf) ((sound.make hf').make he') fun id => ?_
  rw [made₂.becomes, made₁.becomes, made₂'.becomes, made₁'.becomes]
  cases hn : a.get? id with
  | none => exact .none
  | some n =>
    have akin := made₁.akin_swap made₂ made₁' made₂' apart id n
    refine .some ⟨akin, fun none => ?_⟩
    -- a node that has no parent at the end has kept its address all along
    have none' := akin.parent ▸ none
    rw [made₂.top (made₁.becomes.live hn) none, made₁.top hn (made₂.orphan none),
      made₂'.top (made₁'.becomes.live hn) none', made₁'.top hn (made₂'.orphan none')]

/-! ### Any number of edges -/

/-- **Edges that may be made one after the other may be made in any order**, and it makes no
difference. -/
theorem Grants.perm {es fs : List Reference} (perm : es.Perm fs) (sound : a.Sound root)
    (granted : a.Grants es) :
    a.Grants fs ∧ (es.foldl Arena.make a).Reordered (fs.foldl Arena.make a) := by
  induction perm generalizing a with
  | nil => exact ⟨granted, .refl a⟩
  | cons e _ ih =>
    obtain ⟨admits, rest⟩ := granted
    obtain ⟨rest', same⟩ := ih (sound.make admits) rest
    exact ⟨⟨admits, rest'⟩, same⟩
  | swap f e es =>
    obtain ⟨he, hf, rest⟩ := granted
    have hf' := sound.admits_of_make he hf
    have he' := sound.swap he hf
    obtain ⟨rest', same⟩ := (sound.make_swap he hf).grants ((sound.make he).make hf)
      ((sound.make hf').make he') rest
    exact ⟨⟨hf', he', rest'⟩, same⟩
  | trans _ _ ih ih' =>
    obtain ⟨between, same⟩ := ih sound granted
    obtain ⟨last, same'⟩ := ih' sound between
    exact ⟨last, same.trans same'⟩

end Arena

end DeviceTree
