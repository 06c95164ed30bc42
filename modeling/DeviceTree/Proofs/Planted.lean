/-
Trees to which elements are only added.

A new element is put at the end of the row of places, below an element that is there, and its parts
come right after it.  So a tree in which nothing else was done is known by its row, in which every
node but the root hangs below an earlier one (`Planted`): all places are taken, every node is
attached, and as the row only grows no address changes.

* `standings_of_creation` -- the row after an element was created;
* `attached_of_planted`, `liveIds_of_planted` -- every node hangs below the root, and no place is
  empty;
* `address_of_grown` -- an address stays what it was.
-/
import DeviceTree.Proofs.Location
import DeviceTree.Proofs.Places
import DeviceTree.Proofs.Verification

namespace DeviceTree

open Relation

/-- What a node is, and below which node it hangs. -/
abbrev Standing := (String × ElementKind × Option String) × Option NodeId

def Node.standing (n : Node) : Standing :=
  (n.nature, n.parent)

/-- An element `x` below `p`, with its parts below itself. -/
def family (p x : NodeId) : List (String × ElementKind × Option String) → List Standing
  | [] => []
  | first :: parts => (first, some p) :: parts.map fun part => (part, some x)

theorem length_family (p x : NodeId) (natures : List (String × ElementKind × Option String)) :
    (family p x natures).length = natures.length := by
  cases natures <;> simp [family]

/-- Every place is taken, the first by the root and every other one by a node that hangs below an
earlier place. -/
def Planted (row : List (Option Standing)) : Prop :=
  ∀ i seen, row[i]? = some seen →
    ∃ nature, (i = 0 ∧ seen = some (nature, none)) ∨ ∃ p < i, seen = some (nature, some ⟨p⟩)

theorem Planted.append_family {row : List (Option Standing)} (planted : Planted row) {p : NodeId}
    (earlier : p.index < row.length)
    (natures : List (String × ElementKind × Option String)) :
    Planted (row ++ (family p ⟨row.length⟩ natures).map some) := by
  intro i seen here
  rw [List.getElem?_append] at here
  split at here
  · exact planted i seen here
  · next behind =>
    cases natures with
    | nil => simp [family] at here
    | cons first parts =>
      rw [family, List.map_cons, List.getElem?_cons] at here
      split at here
      · cases here
        exact ⟨first, .inr ⟨p.index, by omega, rfl⟩⟩
      · next part =>
        rw [List.map_map, List.getElem?_map] at here
        obtain ⟨nature, -, rfl⟩ := Option.map_eq_some_iff.mp here
        exact ⟨nature, .inr ⟨row.length, by omega, rfl⟩⟩

namespace Arena

variable {a b : Arena} {root name : Identifier} {id p x : NodeId} {n above below : Node}

/-! ### Planted arenas -/

/-- Every place is taken. -/
theorem live_of_planted (planted : Planted (a.row Node.standing))
    (inside : id.index < a.slots.size) : ∃ n, a.get? id = some n := by
  have seen := getElem?_row Node.standing a id.index
  rw [if_pos inside] at seen
  obtain ⟨nature, ⟨-, taken⟩ | ⟨p, -, taken⟩⟩ := planted _ _ seen
  · obtain ⟨n, found, -⟩ := Option.map_eq_some_iff.mp taken
    exact ⟨n, found⟩
  · obtain ⟨n, found, -⟩ := Option.map_eq_some_iff.mp taken
    exact ⟨n, found⟩

theorem liveIds_of_planted (planted : Planted (a.row Node.standing)) :
    a.liveIds = (List.range a.slots.size).map NodeId.mk := by
  refine List.filter_eq_self.mpr fun id mem => ?_
  obtain ⟨i, inside, rfl⟩ := List.mem_map.mp mem
  have inside : (⟨i⟩ : NodeId).index < a.slots.size := List.mem_range.mp inside
  obtain ⟨n, found⟩ := live_of_planted planted inside
  rw [contains, found, Option.isSome_some]

/-- A node that is not the root hangs below an earlier one. -/
theorem parent_of_planted (planted : Planted (a.row Node.standing)) (found : a.get? id = some n)
    (notRoot : id ≠ .root) : ∃ p, p.index < id.index ∧ n.parent = some p := by
  have seen := getElem?_row Node.standing a id.index
  rw [if_pos (index_lt_of_get? found)] at seen
  have standing : (a.get? id).map Node.standing = some (n.nature, n.parent) := by
    rw [found]
    rfl
  obtain ⟨nature, ⟨first, -⟩ | ⟨p, earlier, taken⟩⟩ := planted _ _ seen
  · exact absurd (congrArg NodeId.mk first) notRoot
  · have same := Option.some.inj (standing.symm.trans taken)
    exact ⟨⟨p⟩, earlier, congrArg Prod.snd same⟩

theorem detachedRoots_of_planted (sound : a.Sound root) (planted : Planted (a.row Node.standing)) :
    a.census.detachedRoots = 0 := by
  refine List.countP_eq_zero.mpr fun s mem => ?_
  have found := mem_snapshots_iff.mp mem
  by_cases first : s.id = .root
  · simp [first]
  · obtain ⟨p, -, hangs⟩ := parent_of_planted planted found first
    obtain ⟨above, live, -⟩ := (parent_eq_some_iff sound.wired sound.parented found).mp hangs
    simp [liveParent, hangs, live]

/-- **Every node hangs below the root.** -/
theorem attached_of_planted (sound : a.Sound root) (planted : Planted (a.row Node.standing)) :
    ∀ {id n}, a.get? id = some n → a.Attached id := by
  -- along the places: the parent comes earlier
  suffices below : ∀ i n, a.get? ⟨i⟩ = some n → a.Attached ⟨i⟩ from fun {id n} => below id.index n
  intro i
  induction i using Nat.strong_induction_on with
  | _ i ih =>
    intro n found
    by_cases first : (⟨i⟩ : NodeId) = .root
    · rw [first]
      exact .refl
    · obtain ⟨p, earlier, parent⟩ := parent_of_planted planted found first
      have edge := (parent_eq_some_iff sound.wired sound.parented found).mp parent
      obtain ⟨above, live, -⟩ := id edge
      exact .tail (ih p.index earlier above live) edge

/-- **No address changes while the row only grows.** -/
theorem address_of_grown (before : a.Sound root) (after : b.Sound root)
    (planted : Planted (a.row Node.standing))
    (grown : a.row Node.standing <+: b.row Node.standing) :
    ∀ {id n m}, a.get? id = some n → b.get? id = some m → m.address = n.address := by
  suffices same : ∀ i n m, a.get? ⟨i⟩ = some n → b.get? ⟨i⟩ = some m → m.address = n.address from
    fun {id n m} => same id.index n m
  intro i
  induction i using Nat.strong_induction_on with
  | _ i ih =>
    intro n m found found'
    obtain ⟨m', live, standing⟩ := get?_of_row grown found
    obtain rfl := Option.some.inj (found'.symm.trans live)
    obtain ⟨nature, parent⟩ := Prod.mk.inj standing
    by_cases first : (⟨i⟩ : NodeId) = .root
    · obtain ⟨r, foundRoot, -, -, address⟩ := before.addressed.root
      obtain ⟨r', foundRoot', -, -, address'⟩ := after.addressed.root
      rw [first] at found found'
      obtain rfl := Option.some.inj (found.symm.trans foundRoot)
      obtain rfl := Option.some.inj (found'.symm.trans foundRoot')
      exact address'.trans address.symm
    · obtain ⟨p, earlier, hangs⟩ := parent_of_planted planted found first
      obtain ⟨above, live, -⟩ :=
        (parent_eq_some_iff before.wired before.parented found).mp hangs
      obtain ⟨above', live', -⟩ :=
        (parent_eq_some_iff after.wired after.parented found').mp (parent.trans hangs)
      rw [before.addressed.below found hangs live,
        after.addressed.below found' (parent.trans hangs) live',
        ih p.index earlier above above' live live', (Node.nature_eq_iff.mp nature).1]

/-- A link changes nothing about where nodes hang. -/
theorem standings_link (a : Arena) (source target : NodeId) (name : Identifier) :
    (a.link source target name).row Node.standing = a.row Node.standing :=
  (row_modify (g := fun n => n.pushForward _) (fun _ => rfl) _ source).trans
    (row_modify (g := fun n => n.pushInverse _) (fun _ => rfl) a target)

/-! ### New elements -/

theorem standings_attach (hp : a.get? p = some above) (hx : a.get? x = some below)
    (name : Identifier) :
    (a.attach p x name).row Node.standing =
      (a.row Node.standing).set x.index (some (below.nature, some p)) := by
  have row := row_of_becomes (f := Node.standing) (becomes_attach hp hx name)
    (size_attach a p x name) hx ?_
  · rw [row]
    simp [Node.standing, Node.nature, afterAttach, pushed]
  · intro other m apart
    simp [Node.standing, Node.nature, afterAttach, pushed, Ne.symm apart]

end Arena

open Arena

namespace Store

variable {s t : Store} {id p x : NodeId} {n : Node}

/-- A new element at the end of the row, once it hangs below a node that was there. -/
theorem standings_adopted {more : List (Option Standing)} {nature}
    (row : t.arena.row Node.standing = s.arena.row Node.standing ++ some (nature, none) :: more)
    (hp : s.arena.get? p = some n) (name : Identifier) :
    (t.makeChild p s.arena.nextId name).arena.row Node.standing =
      s.arena.row Node.standing ++ some (nature, some p) :: more := by
  obtain ⟨above, live, -⟩ := get?_of_row ⟨_, row.symm⟩ hp
  have seen : (t.arena.get? s.arena.nextId).map Node.standing = some (nature, none) := by
    rw [← join_row, row]
    simp [nextId]
  obtain ⟨below, new, standing⟩ := Option.map_eq_some_iff.mp seen
  refine (standings_attach live new name).trans ?_
  rw [row, (Prod.mk.inj standing).1, List.set_append_right _ _ (by simp [nextId])]
  simp [nextId]

/-- The parts of a data element hang below it. -/
theorem standings_parts {data : NodeId}
    (parts : List (Identifier × ElementKind × Option String)) :
    ∀ {s : Store} {n}, s.arena.get? data = some n →
      (parts.foldl (createPart data) s).arena.row Node.standing =
        s.arena.row Node.standing ++
          parts.map fun part => some ((part.1.text, part.2), some data) := by
  induction parts with
  | nil => simp
  | cons part parts ih =>
    intro s n found
    have first : (s.createPart data part).arena.row Node.standing =
        s.arena.row Node.standing ++ [some ((part.1.text, part.2), some data)] :=
      standings_adopted (row_push Node.standing s.arena _) found part.1
    obtain ⟨m, live, -⟩ := get?_of_row ⟨_, first.symm⟩ found
    rw [List.foldl_cons, ih live, first, List.append_assoc, List.singleton_append, List.map_cons]

/-- **What stands at the end of the row once an element was created**: the element, below its
parent, and its parts below the element. -/
theorem standings_of_creation {e : DeclaredElement} {name : String} {c : Change Answer}
    (h : (Manifest.Batch.creation p name e).apply s = .ok c t) :
    t.arena.row Node.standing = s.arena.row Node.standing ++
      (family p s.arena.nextId (Manifest.Batch.creation p name e).newborn).map some := by
  obtain ⟨address, kind, writable⟩ := e
  cases kind <;> obtain ⟨c', granted, -⟩ := Request.map_ok.mp h
  case data =>
    obtain ⟨name, above, rfl, ⟨node, found, -⟩, -, rfl⟩ := createData_ok.mp granted
    -- the parts come while the element still hangs nowhere
    have new := row_push Node.standing s.arena (.fresh name .data none (newAddress above name))
    have here := get?_push s.arena (.fresh name .data none (newAddress above name)) s.arena.nextId
    have parts := standings_parts (s := s.insert (.fresh name .data none (newAddress above name)))
      (DataOptions.parts ⟨writable, none, none⟩) (here.trans (if_pos rfl))
    have row := parts.trans (congrArg (· ++ _) new)
    rw [List.append_assoc, List.singleton_append] at row
    refine (standings_adopted row found name).trans ?_
    simp [Manifest.Batch.creation, Mutation.newborn, family, Node.nature, Node.fresh]
  all_goals
    obtain ⟨name, above, rfl, ⟨node, found, -⟩, -, rfl⟩ := create_ok.mp granted
    exact standings_adopted (row_push Node.standing s.arena _) found name

end Store

end DeviceTree
