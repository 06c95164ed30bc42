/-
Sets of nodes for searches in an arena of `n` places.

A set has one bit for each place of the arena and a list for ids that lie outside it, which a
reference may name all the same.

* **`contains_insert`** -- what a set holds after an insertion;
* **`room_insert_lt`** -- a new place in the arena leaves less room, which ends every search that
  visits no node twice.
-/
import DeviceTree.Reference

namespace DeviceTree

/-- A set of nodes, most of them in an arena of `n` places. -/
structure NodeSet (n : Nat) where
  bits : Vector Bool n
  strays : List NodeId

namespace NodeSet

variable {n : Nat}

/-- The set without nodes. -/
def empty (n : Nat) : NodeSet n :=
  ⟨Vector.replicate n false, []⟩

/-- The node is in the set. -/
def contains (s : NodeSet n) (id : NodeId) : Bool :=
  if h : id.index < n then s.bits[id.index] else s.strays.contains id

/-- The set with one more node. -/
def insert (s : NodeSet n) (id : NodeId) : NodeSet n :=
  if h : id.index < n then { s with bits := s.bits.set id.index true }
  else { s with strays := id :: s.strays }

/-- The number of places of the arena that are not in the set. -/
def room (s : NodeSet n) : Nat :=
  s.bits.count false

@[simp] theorem contains_empty (id : NodeId) : (empty n).contains id = false := by
  unfold contains empty
  split <;> simp

theorem contains_insert (s : NodeSet n) (id other : NodeId) :
    (s.insert id).contains other = (decide (other = id) || s.contains other) := by
  by_cases same : other = id
  · subst same
    by_cases h : other.index < n <;> simp [contains, insert, h]
  · have differ : id.index ≠ other.index := fun e => same (by cases id; cases other; simp_all)
    by_cases h : id.index < n <;> by_cases g : other.index < n <;>
      simp [contains, insert, h, g, same, differ]

theorem room_insert_lt {s : NodeSet n} {id : NodeId} (h : id.index < n)
    (absent : s.contains id = false) : (s.insert id).room < s.room := by
  simp only [contains, h, dite_true] at absent
  have pos : 0 < s.bits.count false := by
    rw [Vector.count_pos_iff, ← absent]
    exact Vector.getElem_mem _
  simp only [room, insert, h, dite_true]
  rw [Vector.count_set, absent]
  have : (true == false) = false := rfl
  simp only [beq_self_eq_true, if_true, this]
  exact Nat.sub_lt pos Nat.one_pos

theorem room_insert_le (s : NodeSet n) (id : NodeId) : (s.insert id).room ≤ s.room := by
  by_cases h : id.index < n
  · by_cases absent : s.contains id = false
    · exact Nat.le_of_lt (room_insert_lt h absent)
    · have present : s.bits[id.index] = true := by simpa [contains, h] using absent
      have same : s.bits.set id.index true = s.bits := by
        rw [← present]; exact Vector.set_getElem_self h
      simp [insert, h, same]
  · simp [insert, h, room]

end NodeSet

end DeviceTree
