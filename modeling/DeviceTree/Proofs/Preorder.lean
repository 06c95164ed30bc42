/-
The nodes below a node, in order.

In pre-order every node comes before what lies below it over child edges, and what lies below a
child comes before the next child (`Arena.Preorder`).  Where child edges form a forest this lists
every node below exactly once, and a search that marks the nodes on its way goes in this order.

* `Preorder.unique`, `Ground.exists_preorder` -- there is one such listing and no other;
* `Preorder.mem_iff`, `Preorder.nodup` -- what it lists, and that it lists it once;
* `Preorder.explore` -- the search with marks;
* `Sound.exists_preorder` -- the listing from the root, with the depth of every node as the number
  of separators in its address.
-/
import DeviceTree.Proofs.Location
import DeviceTree.Proofs.Rounds

namespace DeviceTree.Arena

open Relation

/-- The nodes of a row and all that lie below them over child edges: each comes before those below
it, which come before the rest of the row.  With every node comes its depth, where the row itself
lies at `depth`. -/
inductive Preorder (a : Arena) : (depth : ℕ) → List NodeId → List (ℕ × Snapshot) → Prop where
  | nil (depth : ℕ) : Preorder a depth [] []
  | cons {depth : ℕ} {id : NodeId} {n : Node} {rest : List NodeId}
      {below after : List (ℕ × Snapshot)} : a.get? id = some n →
      Preorder a (depth + 1) n.childIds below → Preorder a depth rest after →
      Preorder a depth (id :: rest) ((depth, ⟨id, n⟩) :: below ++ after)

/-- The places of the nodes that are listed. -/
def places (listing : List (ℕ × Snapshot)) : List NodeId :=
  listing.map fun entry => entry.2.id

variable {a : Arena} {root : Identifier} {depth size : ℕ} {ids : List NodeId}
  {listing listing' : List (ℕ × Snapshot)} {entry : ℕ × Snapshot} {x : NodeId} {n : Node}

@[simp] theorem places_cons (entry : ℕ × Snapshot) (listing : List (ℕ × Snapshot)) :
    places (entry :: listing) = entry.2.id :: places listing :=
  rfl

@[simp] theorem places_append (listing listing' : List (ℕ × Snapshot)) :
    places (listing ++ listing') = places listing ++ places listing' :=
  List.map_append

/-! ### What is listed -/

theorem Preorder.unique (h : a.Preorder depth ids listing) (h' : a.Preorder depth ids listing') :
    listing = listing' := by
  induction h generalizing listing' with
  | nil =>
    cases h'
    rfl
  | cons found _ _ ih₁ ih₂ =>
    cases h' with
    | cons found' below' after' =>
      obtain rfl := Option.some.inj (found.symm.trans found')
      rw [ih₁ below', ih₂ after']

/-- Every node is listed as it is. -/
theorem Preorder.found (h : a.Preorder depth ids listing) :
    ∀ entry ∈ listing, a.get? entry.2.id = some entry.2.node := by
  induction h with
  | nil => exact fun _ mem => absurd mem List.not_mem_nil
  | cons found _ _ ih₁ ih₂ =>
    intro entry mem
    rcases List.mem_cons.mp mem with rfl | mem
    · exact found
    · exact (List.mem_append.mp mem).elim (ih₁ entry) (ih₂ entry)

/-- **What is listed lies below the row**, or is part of it. -/
theorem Preorder.mem_iff (h : a.Preorder depth ids listing) :
    x ∈ places listing ↔ a.Under ids x := by
  induction h with
  | nil => simp [places, Under]
  | @cons _ id n rest below after found _ _ ih₁ ih₂ =>
    rw [List.cons_append, places_cons, places_append, List.mem_cons, List.mem_append, ih₁, ih₂,
      under_childIds_iff found]
    constructor
    · rintro (rfl | path | ⟨c, mem, path⟩)
      · exact ⟨x, List.mem_cons_self, .refl⟩
      · exact ⟨id, List.mem_cons_self, path.to_reflTransGen⟩
      · exact ⟨c, List.mem_cons_of_mem _ mem, path⟩
    · rintro ⟨c, mem, path⟩
      rcases List.mem_cons.mp mem with rfl | mem
      · rcases reflTransGen_iff_eq_or_transGen.mp path with rfl | path
        · exact .inl rfl
        · exact .inr (.inl path)
      · exact .inr (.inr ⟨c, mem, path⟩)

/-- No node lies below two of the row. -/
def Apart (a : Arena) (ids : List NodeId) : Prop :=
  ids.Pairwise fun x y => ∀ w, ReflTransGen a.Owns x w → ¬ReflTransGen a.Owns y w

/-- The children of a node are apart. -/
theorem Forest.apart (forest : Forest a) (found : a.get? x = some n) (nodup : n.childIds.Nodup) :
    a.Apart n.childIds := by
  refine List.Pairwise.imp_of_mem ?_ nodup
  intro y z hy hz differ w path path'
  exact differ (forest.eq_of_siblings ((owns_iff_mem found).mpr hy) ((owns_iff_mem found).mpr hz)
    path path')

/-- **Nothing is listed twice.** -/
theorem Preorder.nodup (forest : Forest a)
    (distinct : ∀ {id n}, a.get? id = some n → n.childIds.Nodup)
    (h : a.Preorder depth ids listing) (apart : a.Apart ids) : (places listing).Nodup := by
  induction h with
  | nil => exact List.nodup_nil
  | @cons _ id n rest below after found first second ih₁ ih₂ =>
    obtain ⟨away, apart⟩ := List.pairwise_cons.mp apart
    have lower : ∀ {w}, w ∈ places below ↔ TransGen a.Owns id w := by
      intro w
      rw [first.mem_iff, under_childIds_iff found]
    have elsewhere : ∀ {w}, ReflTransGen a.Owns id w → w ∉ places after := by
      intro w path mem
      obtain ⟨c, here, path'⟩ := second.mem_iff.mp mem
      exact away c here w path path'
    rw [List.cons_append, places_cons, places_append, List.nodup_cons, List.mem_append, not_or]
    refine ⟨⟨fun mem => forest.acyclic (lower.mp mem), elsewhere .refl⟩, ?_⟩
    refine List.nodup_append.mpr ⟨ih₁ (forest.apart found (distinct found)), ih₂ apart, ?_⟩
    rintro w mem w' mem' rfl
    exact elsewhere (lower.mp mem).to_reflTransGen mem'

/-! ### That there is a listing -/

/-- **There is a listing** of whatever lies below.  The induction is on the places that are left on
the way down. -/
theorem Ground.exists_preorder (ground : Ground a size) (left : ℕ) :
    ∀ (depth : ℕ) (ids above : List NodeId), (∀ c ∈ ids, WayDown a (c :: above) c) →
      size ≤ left + above.length → ∃ listing, a.Preorder depth ids listing := by
  have forest := ground.forest
  induction left with
  | zero =>
    intro depth ids above way full
    cases ids with
    | nil => exact ⟨[], .nil depth⟩
    | cons id rest =>
      have long := (way id List.mem_cons_self).length_le ground.inside
      rw [List.length_cons] at long
      omega
  | succ left ih =>
    intro depth ids
    induction ids with
    | nil => exact fun _ _ _ => ⟨[], .nil depth⟩
    | cons id rest ihr =>
      intro above way full
      have here := way id List.mem_cons_self
      obtain ⟨n, found⟩ := here.live id List.mem_cons_self
      have further : ∀ c ∈ n.childIds, WayDown a (c :: id :: above) c := by
        intro c mem
        have edge := (owns_iff_mem found).mpr mem
        obtain ⟨m, live⟩ := ground.live edge
        exact here.cons forest edge live
      obtain ⟨below, first⟩ := ih (depth + 1) n.childIds (id :: above) further
        (by rw [List.length_cons]; omega)
      obtain ⟨after, second⟩ := ihr above (fun c mem => way c (List.mem_cons_of_mem _ mem)) full
      exact ⟨_, .cons found first second⟩

/-- No node lies as deep as there are places. -/
theorem Ground.depth_lt (ground : Ground a size) (h : a.Preorder depth ids listing) :
    ∀ above : List NodeId, (∀ c ∈ ids, WayDown a (c :: above) c) → above.length = depth →
      ∀ entry ∈ listing, entry.1 < size := by
  induction h with
  | nil => exact fun _ _ _ _ mem => absurd mem List.not_mem_nil
  | @cons depth id n rest below after found _ _ ih₁ ih₂ =>
    intro above way length entry mem
    have here := way id List.mem_cons_self
    rcases List.mem_cons.mp mem with rfl | mem
    · have long := here.length_le ground.inside
      rwa [List.length_cons, length] at long
    · rcases List.mem_append.mp mem with mem | mem
      · refine ih₁ (id :: above) (fun c child => ?_) (by rw [List.length_cons, length]) entry mem
        have edge := (owns_iff_mem found).mpr child
        obtain ⟨m, live⟩ := ground.live edge
        exact here.cons ground.forest edge live
      · exact ih₂ above (fun c mem => way c (List.mem_cons_of_mem _ mem)) length entry mem

/-! ### The search with marks -/

theorem explore_cons {next : Node → List NodeId} {seen : NodeSet a.slots.size}
    (found : a.get? x = some n) (new : seen.contains x = false) (rest : List NodeId) :
    a.explore next (x :: rest) seen = x :: a.explore next (next n ++ rest) (seen.insert x) := by
  rw [Arena.explore, dif_neg (by rw [new]; exact Bool.false_ne_true)]
  split
  · next none => exact absurd (none.symm.trans found) (Option.some_ne_none n).symm
  · next n' found' =>
    obtain rfl := Option.some.inj (found.symm.trans found')
    rfl

/-- **The search goes in this order**: it lists all of it, before it goes on with what is left. -/
theorem Preorder.explore (h : a.Preorder depth ids listing) :
    ∀ (stack : List NodeId) (seen : NodeSet a.slots.size), (places listing).Nodup →
      (∀ x ∈ places listing, seen.contains x = false) →
      ∃ seen' : NodeSet a.slots.size,
        a.explore Node.childIds (ids ++ stack) seen =
          places listing ++ a.explore Node.childIds stack seen' ∧
        ∀ x, seen'.contains x = true → seen.contains x = true ∨ x ∈ places listing := by
  induction h with
  | nil => exact fun stack seen _ _ => ⟨seen, rfl, fun _ => .inl⟩
  | @cons _ id n rest below after found _ _ ih₁ ih₂ =>
    intro stack seen nodup new
    rw [List.cons_append, places_cons, places_append] at nodup new
    obtain ⟨outside, nodup⟩ := List.nodup_cons.mp nodup
    obtain ⟨nodup₁, nodup₂, disjoint⟩ := List.nodup_append.mp nodup
    -- the node itself, then what lies below it, then the rest of the row
    obtain ⟨seen₁, run₁, marks₁⟩ := ih₁ (rest ++ stack) (seen.insert id) nodup₁ fun x mem => by
      have differ : x ≠ id := fun same => outside (List.mem_append_left _ (same ▸ mem))
      rw [NodeSet.contains_insert, new x (List.mem_cons_of_mem _ (List.mem_append_left _ mem)),
        decide_eq_false differ, Bool.or_false]
    have marked : ∀ x, seen₁.contains x = true →
        seen.contains x = true ∨ x = id ∨ x ∈ places below := by
      intro x mark
      rcases marks₁ x mark with mark | mem
      · rw [NodeSet.contains_insert, Bool.or_eq_true, decide_eq_true_eq] at mark
        exact mark.elim (fun same => .inr (.inl same)) .inl
      · exact .inr (.inr mem)
    obtain ⟨seen₂, run₂, marks₂⟩ := ih₂ stack seen₁ nodup₂ fun x mem => by
      refine Bool.eq_false_iff.mpr fun mark => ?_
      rcases marked x mark with mark | rfl | mem'
      · rw [new x (List.mem_cons_of_mem _ (List.mem_append_right _ mem))] at mark
        cases mark
      · exact outside (List.mem_append_right _ mem)
      · exact disjoint x mem' x mem rfl
    refine ⟨seen₂, ?_, fun x mark => ?_⟩
    · rw [List.cons_append, explore_cons found (new id List.mem_cons_self), run₁, run₂]
      simp only [List.cons_append, places_cons, places_append, List.append_assoc]
    · rw [List.cons_append, places_cons, places_append, List.mem_cons, List.mem_append]
      rcases marks₂ x mark with mark | mem
      · rcases marked x mark with mark | rfl | mem
        · exact .inl mark
        · exact .inr (.inl rfl)
        · exact .inr (.inr (.inl mem))
      · exact .inr (.inr (.inr mem))

/-- The nodes that are found from the row on are those of the listing, in order. -/
theorem Preorder.subtree (h : a.Preorder depth [x] listing) (nodup : (places listing).Nodup) :
    a.subtree x = places listing := by
  obtain ⟨seen, run, -⟩ := h.explore [] (.empty _) nodup fun y _ => NodeSet.contains_empty y
  rw [Arena.subtree, reachable, ← List.append_nil [x], run, Arena.explore, List.append_nil]

/-! ### Sound arenas -/

theorem Sound.ground (sound : a.Sound root) : Ground a a.slots.size where
  forest := sound.forest
  live := sound.live_of_owns
  inside := index_lt_of_get?

/-- **Below every node there is a listing**, and it is what the search lists. -/
theorem Sound.exists_preorder (sound : a.Sound root) (found : a.get? x = some n) (depth : ℕ) :
    ∃ listing, a.Preorder depth [x] listing ∧ (places listing).Nodup ∧
      a.subtree x = places listing := by
  obtain ⟨listing, h⟩ := sound.ground.exists_preorder a.slots.size depth [x] []
    (fun c mem => List.mem_singleton.mp mem ▸ wayDown_single found) (Nat.le_refl _)
  have nodup := h.nodup sound.forest sound.nodup_childIds (List.pairwise_singleton _ x)
  exact ⟨listing, h, nodup, h.subtree nodup⟩

/-- One separator more for every child edge on the way down. -/
theorem Preorder.separators (sound : a.Sound root) (h : a.Preorder depth ids listing)
    (start : ∀ c ∈ ids, ∀ n, a.get? c = some n →
      n.address.toList.count Address.separator = depth) :
    ∀ entry ∈ listing, entry.2.node.address.toList.count Address.separator = entry.1 := by
  induction h with
  | nil => exact fun _ mem => absurd mem List.not_mem_nil
  | @cons depth id n rest below after found _ _ ih₁ ih₂ =>
    have here := start id List.mem_cons_self n found
    intro entry mem
    rcases List.mem_cons.mp mem with rfl | mem
    · exact here
    · rcases List.mem_append.mp mem with mem | mem
      · refine ih₁ (fun c child m live => ?_) entry mem
        have edge := (owns_iff_mem found).mpr child
        have up := (parent_eq_some_iff sound.wired sound.parented live).mpr edge
        have name : m.identifier.text.toList.count Address.separator = 0 :=
          List.count_eq_zero.mpr m.identifier.separator_not_mem
        rw [sound.addressed.below live up found, Address.join, String.toList_append,
          String.toList_append, List.count_append, List.count_append, here, name]
        rfl
      · exact ih₂ (fun c mem => start c (List.mem_cons_of_mem _ mem)) entry mem

end DeviceTree.Arena
