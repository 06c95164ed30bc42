/-
New addresses below a node, round by round.

Whoever writes the addresses below a node keeps a pile of nodes, each with the address of its owner.
In every round the one on top is taken off, gets its address, and has its children put on the pile;
nobody keeps a record of where he was already.  This comes to an end because child edges form a
forest: the pile never holds a node twice, nor one that was written.

* `Rewriting.round` -- one round;
* `Ground.rounds` -- what the rounds do is what `rebaseBelow` does, and they come upon every node
  below exactly once;
* `Sound.rounds_readdressed` -- the rounds below a node that is attached.
-/
import DeviceTree.Proofs.Attach
import Mathlib

namespace DeviceTree.Arena

open Relation

/-- The writing of addresses under way. -/
structure Rewriting where
  arena : Arena
  /-- The pile, its top first: nodes that wait for their address, each with that of its owner. -/
  pile : List (NodeId × String)
  /-- The nodes that got their address, in order. -/
  written : List NodeId

namespace Rewriting

/-- The children of a node whose address is `base`, as they are put on the pile one by one. -/
def piled (children : List NodeId) (base : String) : List (NodeId × String) :=
  (children.map fun child => (child, base)).reverse

/-- Addresses are to be written below a node. -/
def start (a : Arena) (children : List NodeId) (base : String) : Rewriting :=
  ⟨a, piled children base, []⟩

/-- Deals with the top of the pile.  An empty place is passed over. -/
def round (w : Rewriting) : Rewriting :=
  match w.pile with
  | [] => w
  | (id, above) :: rest =>
    match w.arena.get? id with
    | none => { w with pile := rest }
    | some node =>
      let address := Address.join above node.identifier.text
      { arena := w.arena.setAddress id address
        pile := piled node.childIds address ++ rest
        written := w.written ++ [id] }

theorem piled_cons (child : NodeId) (children : List NodeId) (base : String) :
    piled (child :: children) base = piled children base ++ [(child, base)] := by
  simp [piled]

theorem round_of_get? {a : Arena} {id : NodeId} {n : Node} (found : a.get? id = some n)
    (above : String) (rest : List (NodeId × String)) (written : List NodeId) :
    round ⟨a, (id, above) :: rest, written⟩ =
      ⟨a.setAddress id (Address.join above n.identifier.text),
        piled n.childIds (Address.join above n.identifier.text) ++ rest, written ++ [id]⟩ := by
  simp only [round, found]

/-- Once the pile is gone nothing happens any more. -/
theorem round_of_nil {w : Rewriting} (done : w.pile = []) : w.round = w := by
  rw [round, done]

/-- A round writes one address at most. -/
theorem length_written_round (w : Rewriting) :
    w.round.written.length ≤ w.written.length + 1 := by
  unfold round
  split
  · exact Nat.le_succ _
  · split
    · exact Nat.le_succ _
    · simp

theorem length_written_rounds (w : Rewriting) (k : ℕ) :
    (round^[k] w).written.length ≤ w.written.length + k := by
  induction k with
  | zero => exact Nat.le_refl _
  | succ k ih =>
    rw [Function.iterate_succ_apply']
    have := length_written_round (round^[k] w)
    omega

/-- If every round writes an address, the pile is not gone before the last of them. -/
theorem pile_eq_nil_iff {w w' : Rewriting} {rounds : ℕ} (last : round^[rounds] w = w')
    (done : w'.pile = []) (each : w'.written.length = w.written.length + rounds) (k : ℕ) :
    (round^[k] w).pile = [] ↔ rounds ≤ k := by
  constructor
  · intro gone
    by_contra early
    -- after round `k` nothing would change, and one address at least would be missing
    have fixed : round^[rounds] w = round^[k] w := by
      obtain ⟨more, rfl⟩ := Nat.exists_eq_add_of_lt (Nat.lt_of_not_le early)
      rw [show k + more + 1 = (more + 1) + k by omega, Function.iterate_add_apply]
      exact Function.iterate_fixed (round_of_nil gone) _
    have few := length_written_rounds w k
    rw [← fixed, last, each] at few
    omega
  · intro enough
    obtain ⟨more, rfl⟩ := Nat.exists_eq_add_of_le enough
    rw [Nat.add_comm, Function.iterate_add_apply, last,
      Function.iterate_fixed (round_of_nil done), done]

end Rewriting

open Rewriting

section

variable {a b : Arena} {root : Identifier} {x y z child : NodeId} {below : Node}

/-- Two nodes above a third one lie one above the other. -/
theorem Forest.total (forest : Forest a) (hx : ReflTransGen a.Owns x z)
    (hy : ReflTransGen a.Owns y z) : ReflTransGen a.Owns x y ∨ ReflTransGen a.Owns y x := by
  have single : Relator.RightUnique (Function.swap a.Owns) := fun _ _ _ => forest.single
  rcases hx.swap.total_of_right_unique single hy.swap with path | path
  · exact .inr (reflTransGen_swap.mp path)
  · exact .inl (reflTransGen_swap.mp path)

/-- Of the children of one node, no two have a node below them in common. -/
theorem Forest.eq_of_siblings (forest : Forest a) (hx : a.Owns x y) (hy : a.Owns x z) {w : NodeId}
    (wx : ReflTransGen a.Owns y w) (wy : ReflTransGen a.Owns z w) : y = z := by
  have strict : ∀ {y z}, a.Owns x y → a.Owns x z → ReflTransGen a.Owns y z → y = z := by
    intro y z hy hz path
    rcases path.cases_tail with same | ⟨v, path, last⟩
    · exact same.symm
    · exact absurd (.head' hy (forest.single last hz ▸ path)) forest.acyclic
  rcases forest.total wx wy with path | path
  · exact strict hx hy path
  · exact (strict hy hx path).symm

/-- Below the children of a node lies what lies below the node. -/
theorem under_childIds_iff (found : a.get? x = some below) :
    a.Under below.childIds y ↔ TransGen a.Owns x y := by
  rw [Under, TransGen.head'_iff]
  simp only [owns_iff_mem found]

/-- **The rounds do what the recursion does**, and come upon every node below exactly once.  The
induction is that of the recursion: the last child is on top of the pile, and all that lies below it
is dealt with before its siblings are. -/
theorem Ground.rounds {a₀ : Arena} {size : ℕ} (ground : Ground a₀ size)
    (distinct : ∀ {id n}, a₀.get? id = some n → n.childIds.Nodup) (levels : ℕ) :
    ∀ (children : List NodeId) (base : String) (a : Arena) (above : List NodeId) (top : NodeId)
      (rest : List (NodeId × String)) (written : List NodeId),
      SameButAddresses a₀ a → (∀ c ∈ children, a₀.Owns top c) → children.Nodup →
      WayDown a₀ above top → size ≤ levels + above.length →
      ∃ order : List NodeId, order.Nodup ∧ (∀ x, x ∈ order ↔ a₀.Under children x) ∧
        Rewriting.round^[order.length] ⟨a, piled children base ++ rest, written⟩ =
          ⟨rebaseBelow levels children base a, rest, written ++ order⟩ := by
  have forest := ground.forest
  induction levels with
  | zero =>
    intro children base a above top rest written same owned nodup way fuel
    obtain rfl := ground.eq_nil owned way (by omega)
    exact ⟨[], List.nodup_nil, fun x => by simp [Under], by simp [piled, rebaseBelow]⟩
  | succ levels ih =>
    intro children
    induction children with
    | nil =>
      intro base a above top rest written same owned nodup way fuel
      exact ⟨[], List.nodup_nil, fun x => by simp [Under], by simp [piled, rebaseBelow_nil]⟩
    | cons child children ihc =>
      intro base a above top rest written same owned nodup way fuel
      obtain ⟨apart, nodup⟩ := List.nodup_cons.mp nodup
      have ownsChild := owned child List.mem_cons_self
      have ownsRest := fun c mem => owned c (List.mem_cons_of_mem _ mem)
      obtain ⟨m, hm⟩ := ground.live ownsChild
      -- first the other children are done
      obtain ⟨first, nodup₁, mem₁, run₁⟩ := ihc base a above top ((child, base) :: rest) written
        same ownsRest nodup way fuel
      have same₁ := same.trans (sameButAddresses_rebaseBelow (levels + 1) children base a)
      obtain ⟨m', found, named, kids⟩ : ∃ m',
          (rebaseBelow (levels + 1) children base a).get? child = some m' ∧
            m'.identifier = m.identifier ∧ m'.childIds = m.childIds :=
        ⟨_, Becomes.live same₁ hm, rfl, rfl⟩
      -- then this child, and what lies below it
      obtain ⟨second, nodup₂, mem₂, run₂⟩ := ih m.childIds (Address.join base m.identifier.text)
        ((rebaseBelow (levels + 1) children base a).setAddress child
          (Address.join base m.identifier.text))
        (child :: above) child rest (written ++ first ++ [child])
        (same₁.trans (sameButAddresses_setAddress _ child _)) (fun _ => (owns_iff_mem hm).mpr)
        (distinct hm) (way.cons forest ownsChild hm) (by simp only [List.length_cons]; omega)
      have lower : ∀ {x}, x ∈ second ↔ TransGen a₀.Owns child x :=
        (mem₂ _).trans (under_childIds_iff hm)
      refine ⟨first ++ child :: second, ?_, fun x => ?_, ?_⟩
      · refine List.nodup_append.mpr ⟨nodup₁, List.nodup_cons.mpr ⟨?_, nodup₂⟩, ?_⟩
        · exact fun mem => forest.acyclic (lower.mp mem)
        · -- what lies below a sibling does not lie below this child
          rintro x mem x' mem' rfl
          obtain ⟨c, sibling, path⟩ := (mem₁ x).mp mem
          have path' : ReflTransGen a₀.Owns child x := by
            rcases List.mem_cons.mp mem' with rfl | mem'
            · exact .refl
            · exact (lower.mp mem').to_reflTransGen
          exact apart (forest.eq_of_siblings (ownsRest c sibling) ownsChild path path' ▸ sibling)
      · rw [List.mem_append, List.mem_cons, mem₁, lower]
        constructor
        · rintro (⟨c, mem, path⟩ | rfl | path)
          · exact ⟨c, List.mem_cons_of_mem _ mem, path⟩
          · exact ⟨x, List.mem_cons_self, .refl⟩
          · exact ⟨child, List.mem_cons_self, path.to_reflTransGen⟩
        · rintro ⟨c, mem, path⟩
          rcases List.mem_cons.mp mem with rfl | mem
          · rcases reflTransGen_iff_eq_or_transGen.mp path with rfl | path
            · exact .inr (.inl rfl)
            · exact .inr (.inr path)
          · exact .inl ⟨c, mem, path⟩
      · rw [show (first ++ child :: second).length = second.length + 1 + first.length by
            simp only [List.length_append, List.length_cons]; omega,
          piled_cons, List.append_assoc, List.singleton_append, Function.iterate_add_apply, run₁,
          Function.iterate_succ_apply, round_of_get? found, rebaseBelow_cons, found]
        simpa only [named, kids, List.append_assoc, List.singleton_append] using run₂

/-- No node is a child of another one twice. -/
theorem Sound.nodup_childIds (sound : a.Sound root) (found : a.get? x = some below) :
    below.childIds.Nodup :=
  (sound.wired.targets found).sublist (List.filter_sublist.map _)

/-- **When a node is attached, the rounds below it come to an end.**  They write the address of
every node that lies below it exactly once, and no other; each round writes one. -/
theorem Sound.rounds_readdressed (sound : a.Sound root) (hc : a.get? child = some below)
    (parent : NodeId) (name : Identifier) (above : Node) :
    let base := Address.join above.address below.identifier.text
    let begun := start (a.adopted parent child name base) below.childIds base
    ∃ order : List NodeId, order.Nodup ∧ (∀ x, x ∈ order ↔ TransGen a.Owns child x) ∧
      Rewriting.round^[order.length] begun =
        ⟨a.readdressed parent child name above below, [], order⟩ ∧
      ∀ k, (Rewriting.round^[k] begun).pile = [] ↔ order.length ≤ k := by
  intro base begun
  have owns := owns_adopted a parent child name base
  have becomes := becomes_adopted a parent child name base
  obtain ⟨m, found, kids⟩ : ∃ m, (a.adopted parent child name base).get? child = some m ∧
      m.childIds = below.childIds := ⟨_, becomes.live hc, rfl⟩
  have ground : Ground (a.adopted parent child name base)
      (a.adopted parent child name base).slots.size := by
    refine ⟨⟨owns ▸ sound.forest.single, owns ▸ sound.forest.acyclic⟩, ?_, index_lt_of_get?⟩
    intro x y owned
    obtain ⟨m, hm⟩ := sound.live_of_owns (owns ▸ owned)
    exact ⟨_, becomes.live hm⟩
  have distinct : ∀ {id n}, (a.adopted parent child name base).get? id = some n →
      n.childIds.Nodup := by
    intro id n there
    obtain ⟨m, hm, rfl⟩ := becomes.origin there
    have nodup := sound.nodup_childIds hm
    exact nodup
  obtain ⟨order, nodup, mem, run⟩ := ground.rounds distinct
    (a.adopted parent child name base).slots.size below.childIds base _ [child] child [] []
    (.refl _) (fun c mem => (owns_iff_mem found).mpr (kids ▸ mem)) (kids ▸ distinct found)
    (wayDown_single found) (by simp)
  rw [List.append_nil, List.nil_append] at run
  refine ⟨order, nodup, fun x => ?_, run, pile_eq_nil_iff run rfl (by simp [begun, start])⟩
  rw [mem, ← kids, under_childIds_iff found, owns]

end

end DeviceTree.Arena
