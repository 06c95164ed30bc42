/-
ASCII case folding.

Two texts that have the same fold differ at most in the case of ASCII letters.  The fold is the
key under which names and addresses are compared:

* **`fold_append`** -- folding goes through concatenation;
* **`fold_fold`** -- a folded text is its own fold.
-/

namespace DeviceTree.Text

/-- The text with every ASCII capital replaced by its small letter. -/
def fold (s : String) : String :=
  s.map Char.toLower

/-- The two texts are equal up to the case of ASCII letters. -/
def sameFold (a b : String) : Bool :=
  fold a == fold b

theorem toList_fold (s : String) : (fold s).toList = s.toList.map Char.toLower := by
  simp [fold]

theorem fold_append (a b : String) : fold (a ++ b) = fold a ++ fold b := by
  apply String.toList_injective
  simp [toList_fold]

theorem toLower_toLower (c : Char) : c.toLower.toLower = c.toLower := by
  unfold Char.toLower
  split
  · next h =>
    have h' := h
    simp only [UInt32.le_iff_toNat_le, ge_iff_le] at h'
    split
    · next g =>
      simp only [UInt32.le_iff_toNat_le, ge_iff_le, UInt32.toNat_add] at g
      simp at g h'
      omega
    · rfl
  · rfl

theorem fold_fold (s : String) : fold (fold s) = fold s := by
  apply String.toList_injective
  simp only [toList_fold, List.map_map]
  exact List.map_congr_left fun c _ => toLower_toLower c

theorem sameFold_iff {a b : String} : sameFold a b = true ↔ fold a = fold b := by
  simp [sameFold]

theorem sameFold_refl (a : String) : sameFold a a = true := by
  simp [sameFold]

end DeviceTree.Text
