/-
What is left of a text when it is trimmed and cut.

Cutting takes the separators out of a text and nothing else, and joining segments with single
separators is undone by cutting.  So the rooted form of an address has the segments of the address,
and the blanks that count are those in front of it, those at its end and no others.

* `flatten_charSegments` -- the segments have all characters but the separators;
* `segments_normalize` -- the rooted form has the segments of the address;
* `rootedSegments_along` -- what follows a path of identifiers is cut on its own.
-/
import DeviceTree.Proofs.Spelling
import Mathlib.Data.List.TakeWhile

namespace DeviceTree

open Text

namespace Text

/-- What is dropped at the end is of that kind. -/
theorem exists_dropEnd (p : Char → Bool) (cs : List Char) :
    ∃ ds, (∀ c ∈ ds, p c = true) ∧ cs = dropEnd p cs ++ ds := by
  refine ⟨(cs.reverse.takeWhile p).reverse, ?_, ?_⟩
  · intro c mem
    exact List.mem_takeWhile_imp (List.mem_reverse.mp mem)
  · rw [dropEnd, ← List.reverse_append, List.takeWhile_append_dropWhile, List.reverse_reverse]

end Text

/-- What an identifier is named like has the characters of an identifier. -/
theorem Identifier.isNameChar_of_isNamed {i : Identifier} {name : String}
    (named : i.isNamed name = true) {c : Char} (mem : c ∈ name.toList) : isNameChar c = true := by
  have folds : i.text.toList.map Char.toLower = name.toList.map Char.toLower := by
    rw [← toList_fold, ← toList_fold, Text.sameFold_iff.mp named]
  have small : c.toLower ∈ i.text.toList.map Char.toLower := folds ▸ List.mem_map_of_mem mem
  obtain ⟨d, mem', same⟩ := List.mem_map.mp small
  rw [← isNameChar_toLower, ← same, isNameChar_toLower]
  exact isNameChar_of_mem mem'

namespace Address

/-! ### Segments -/

theorem mem_consSegment {segment s : List Char} {rest : List (List Char)}
    (mem : s ∈ consSegment segment rest) : s ≠ [] ∧ s = segment ∨ s ∈ rest := by
  unfold consSegment at mem
  split at mem
  · exact .inr mem
  · next some =>
    rcases List.mem_cons.mp mem with rfl | mem
    · exact .inl ⟨by simpa using some, rfl⟩
    · exact .inr mem

theorem splitFrom_plain (cs : List Char) :
    separator ∉ (splitFrom cs).1 ∧ ∀ s ∈ (splitFrom cs).2, s ≠ [] ∧ separator ∉ s := by
  induction cs with
  | nil => exact ⟨List.not_mem_nil, fun _ mem => absurd mem List.not_mem_nil⟩
  | cons c cs ih =>
    obtain ⟨first, others⟩ := ih
    rw [splitFrom]
    dsimp only
    by_cases mark : c = separator
    · rw [if_pos mark]
      refine ⟨List.not_mem_nil, fun s mem => ?_⟩
      rcases mem_consSegment mem with ⟨some, rfl⟩ | mem
      · exact ⟨some, first⟩
      · exact others s mem
    · rw [if_neg mark]
      refine ⟨fun mem => ?_, others⟩
      rcases List.mem_cons.mp mem with same | mem
      · exact mark same.symm
      · exact first mem

/-- A segment has a character, and no separator. -/
theorem charSegments_plain {cs s : List Char} (mem : s ∈ charSegments cs) :
    s ≠ [] ∧ separator ∉ s := by
  obtain ⟨first, others⟩ := splitFrom_plain cs
  rcases mem_consSegment mem with ⟨some, rfl⟩ | mem
  · exact ⟨some, first⟩
  · exact others s mem

theorem flatten_consSegment (segment : List Char) (rest : List (List Char)) :
    (consSegment segment rest).flatten = segment ++ rest.flatten := by
  unfold consSegment
  cases segment <;> simp

/-- **The segments have all characters of a text but the separators**, in order. -/
theorem flatten_charSegments (cs : List Char) :
    (charSegments cs).flatten = cs.filter (· != separator) := by
  rw [charSegments, flatten_consSegment]
  induction cs with
  | nil => rfl
  | cons c cs ih =>
    rw [splitFrom]
    dsimp only
    by_cases mark : c = separator
    · rw [if_pos mark, List.nil_append, flatten_consSegment, ih]
      simp [mark]
    · rw [if_neg mark, List.cons_append, ih, List.filter_cons_of_pos (by simpa using mark)]

/-- A text of separators has no segment. -/
theorem charSegments_separators {cs : List Char} (only : ∀ c ∈ cs, c = separator) :
    charSegments cs = [] := by
  rw [List.eq_nil_iff_forall_not_mem]
  intro s mem
  obtain ⟨c, rest, rfl⟩ := List.exists_cons_of_ne_nil (charSegments_plain mem).1
  have there : c ∈ (charSegments cs).flatten :=
    List.mem_flatten_of_mem mem List.mem_cons_self
  rw [flatten_charSegments, List.mem_filter] at there
  simp [only c there.1] at there

/-- Separators at the end do not count. -/
theorem charSegments_dropEnd (cs : List Char) :
    charSegments (dropEnd (· == separator) cs) = charSegments cs := by
  obtain ⟨marks, only, split⟩ := exists_dropEnd (· == separator) cs
  have same : ∀ c ∈ marks, c = separator := fun c mem => by simpa using only c mem
  generalize dropEnd (· == separator) cs = ds at split ⊢
  subst split
  cases marks with
  | nil => rw [List.append_nil]
  | cons c marks =>
    obtain rfl : c = separator := same c List.mem_cons_self
    rw [charSegments_append,
      charSegments_separators fun c mem => same c (List.mem_cons_of_mem _ mem), List.append_nil]

theorem rootedSegments_plain (address : String) (root : Identifier) :
    ∀ s ∈ rootedSegments address root.text, s.toList ≠ [] ∧ separator ∉ s.toList := by
  have below : ∀ s ∈ (charSegments (trim address.toList)).map String.ofList,
      s.toList ≠ [] ∧ separator ∉ s.toList := by
    intro s mem
    obtain ⟨cs, mem', rfl⟩ := List.mem_map.mp mem
    rw [String.toList_ofList]
    exact charSegments_plain mem'
  intro s mem
  rw [rootedSegments] at mem
  split at mem
  · rcases List.mem_cons.mp mem with rfl | mem
    · exact ⟨root.toList_ne_nil, root.separator_not_mem⟩
    · exact below s mem
  · exact below s mem

/-- **The rooted form has the segments of the address**, with the root in front if a slash stands
for it. -/
theorem segments_normalize (address : String) (root : Identifier) :
    segments (normalize address root.text) = rootedSegments address root.text :=
  segments_intercalate (rootedSegments_plain address root)

/-- The last separator is the one behind which there is no other. -/
theorem splitLast_eq_some_iff {cs before name : List Char} :
    splitLast cs = some (before, name) ↔ cs = before ++ separator :: name ∧ separator ∉ name := by
  constructor
  · intro h
    have whole : cs.reverse.takeWhile (· != separator) ++ cs.reverse.dropWhile (· != separator) =
        cs.reverse := List.takeWhile_append_dropWhile
    have first := List.head?_dropWhile_not (· != separator) cs.reverse
    have plain : ∀ c ∈ cs.reverse.takeWhile (· != separator), c ≠ separator :=
      fun c mem => by simpa using List.mem_takeWhile_imp mem
    unfold splitLast at h
    dsimp only at h
    split at h
    · cases h
    · next mark parent rest =>
      cases h
      rw [rest, List.head?_cons] at first
      obtain rfl : mark = separator := by simpa using first
      rw [rest] at whole
      have turned := List.reverse_eq_iff.mp whole.symm
      exact ⟨turned.trans (by simp), fun mem => plain _ (List.mem_reverse.mp mem) rfl⟩
  · rintro ⟨rfl, plain⟩
    have reversed : (before ++ separator :: name).reverse =
        name.reverse ++ separator :: before.reverse := by simp
    have stays : ∀ c ∈ name.reverse, (c != separator) = true := by
      intro c mem
      rw [bne_iff_ne]
      rintro rfl
      exact plain (List.mem_reverse.mp mem)
    rw [splitLast, reversed, List.takeWhile_append_of_pos stays, List.dropWhile_append_of_pos stays]
    simp

/-! ### Below a path -/

/-- The names in what follows an address; blanks at its end do not count. -/
def namesBelow (rest : String) : List String :=
  (charSegments (dropEnd isBlank rest.toList)).map String.ofList

/-- One more name in front. -/
theorem namesBelow_cons (i : Identifier) (rest : String) :
    namesBelow (i.text ++ "/" ++ rest) = i.text :: namesBelow rest := by
  have toList : (i.text ++ "/" ++ rest).toList = i.text.toList ++ separator :: rest.toList := by
    rw [String.toList_append, String.toList_append, List.append_assoc]
    rfl
  rw [namesBelow, toList, dropEnd_append_cons (by decide), charSegments_append,
    charSegments_word i.toList_ne_nil i.separator_not_mem, List.map_append, List.map_singleton,
    String.ofList_toList, List.singleton_append, namesBelow]

/-- **What follows a path of identifiers is cut on its own.** -/
theorem rootedSegments_along {path : List Identifier} (some : path ≠ []) (rest root : String) :
    rootedSegments (along path ++ "/" ++ rest) root =
      path.map Identifier.text ++ namesBelow rest := by
  have toList : (along path ++ "/" ++ rest).toList =
      (along path).toList ++ separator :: rest.toList := by
    rw [String.toList_append, String.toList_append, List.append_assoc]
    rfl
  have nonempty : (along path).toList ≠ [] := by
    intro empty
    have segments := segments_along path
    rw [String.toList_eq_nil_iff.mp empty] at segments
    exact some (List.map_eq_nil_iff.mp segments.symm)
  obtain ⟨c, cs, spelled⟩ := List.exists_cons_of_ne_nil nonempty
  have first : c ∈ (along path).toList := spelled ▸ List.mem_cons_self
  have plain : isBlank c = false := not_isBlank_of_mem_along first
  have unmarked : c ≠ separator := by
    rintro rfl
    exact head_along path (by rw [spelled]; rfl)
  have trimmed : trim ((along path).toList ++ separator :: rest.toList) =
      (along path).toList ++ separator :: dropEnd isBlank rest.toList := by
    have start : trimStart (c :: (cs ++ separator :: rest.toList)) = _ := trimStart_eq_self plain
    rw [spelled, trim, List.cons_append, start, ← List.cons_append,
      dropEnd_append_cons (by decide)]
  have segments : (charSegments (along path).toList).map String.ofList =
      path.map Identifier.text := segments_along path
  rw [rootedSegments, toList, trimmed, charSegments_append, List.map_append, segments, spelled]
  simp [unmarked, namesBelow]

end Address

end DeviceTree
