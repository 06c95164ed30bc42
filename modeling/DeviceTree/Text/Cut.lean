/-
Cuts of a text between two bytes.

A cut that is given by a number of bytes is possible only where a character starts, or at the end:

* **`cutAt_eq_some_iff`** -- a cut yields the two parts of the text of which the first takes just
  that many bytes, and it fails if there are none.
-/

namespace DeviceTree.Text

/-- How many bytes the characters take. -/
def byteCount : List Char → Nat
  | [] => 0
  | c :: cs => c.utf8Size + byteCount cs

/-- The characters that take the first `n` bytes and the characters after them, unless a character
lies across the cut. -/
def cutAt : Nat → List Char → Option (List Char × List Char)
  | 0, cs => some ([], cs)
  | _ + 1, [] => none
  | n + 1, c :: cs =>
    if c.utf8Size ≤ n + 1 then
      (cutAt (n + 1 - c.utf8Size) cs).map fun (before, after) => (c :: before, after)
    else none

theorem byteCount_eq_zero_iff {cs : List Char} : byteCount cs = 0 ↔ cs = [] := by
  cases cs with
  | nil => simp [byteCount]
  | cons c cs => simp [byteCount, Nat.ne_of_gt c.utf8Size_pos]

theorem cutAt_eq_some_iff {n : Nat} {cs before after : List Char} :
    cutAt n cs = some (before, after) ↔ cs = before ++ after ∧ byteCount before = n := by
  fun_induction cutAt n cs generalizing before with
  | case1 cs =>
    rw [byteCount_eq_zero_iff]
    grind
  | case2 n =>
    constructor
    · intro h
      cases h
    · rintro ⟨h, hn⟩
      simp_all [byteCount]
  | case3 n c cs fits ih =>
    constructor
    · intro h
      obtain ⟨⟨first, rest⟩, hcut, heq⟩ := Option.map_eq_some_iff.1 h
      cases heq
      obtain ⟨hparts, hcount⟩ := ih.1 hcut
      exact ⟨by simp [hparts], by simp [byteCount, hcount]; omega⟩
    · rintro ⟨hparts, hcount⟩
      cases before with
      | nil => simp [byteCount] at hcount
      | cons d first =>
        obtain ⟨rfl, htail⟩ := List.cons.inj hparts
        have hrest := ih.2 ⟨htail, by simp only [byteCount] at hcount; omega⟩
        simp [hrest]
  | case4 n c cs across =>
    constructor
    · intro h
      cases h
    · rintro ⟨hparts, hcount⟩
      cases before with
      | nil => simp [byteCount] at hcount
      | cons d first =>
        obtain ⟨rfl, -⟩ := List.cons.inj hparts
        simp only [byteCount] at hcount
        omega

/-- As many characters as fit into the first `n` bytes. -/
def within : (n : Nat) → List Char → List Char
  | _, [] => []
  | n, c :: cs => if c.utf8Size ≤ n then c :: within (n - c.utf8Size) cs else []

/-- The characters between two bytes, counted from the start. -/
def between (start stop : Nat) (cs : List Char) : Option (List Char) := do
  let (_, rest) ← cutAt start cs
  let (part, _) ← cutAt (stop - start) rest
  return part

end DeviceTree.Text
