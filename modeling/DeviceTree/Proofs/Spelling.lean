/-
How addresses are spelled.

The address of a node is a row of identifiers with slashes between them (`Address.along`).  Of the
many spellings that lead to the node it is the one in rooted form:

* `segments_along` -- its segments are the identifiers;
* `normalize_along`, `normalize_rootless` -- it is its own rooted form, and that of the spelling
  that leaves out the root;
* `normalize_fold` -- the rooted form of a folded text is the folded rooted form.
-/
import DeviceTree.Proofs.Walk

namespace DeviceTree

open Text

/-! ### Characters -/

theorem toLower_eq_self {c : Char} (h : 128 ≤ c.toNat) : c.toLower = c := by
  unfold Char.toLower
  rw [dif_neg]
  intro capital
  have high : c.toNat ≤ 90 := by
    simpa [UInt32.le_iff_toNat_le, ← Char.toNat_val] using capital.2
  omega

/-- What holds of the ASCII characters and of all that have no other small letter holds of every
character. -/
theorem forall_char {P : Char → Prop} (ascii : ∀ n < 128, P (Char.ofNat n))
    (rest : ∀ c : Char, c.toLower = c → P c) (c : Char) : P c := by
  by_cases small : c.toNat < 128
  · have here := ascii c.toNat small
    rwa [Char.ofNat_toNat] at here
  · exact rest c (toLower_eq_self (by omega))

theorem isBlank_toLower : ∀ c : Char, isBlank c.toLower = isBlank c :=
  forall_char (by decide +kernel) fun _ same => by rw [same]

theorem isNameChar_toLower : ∀ c : Char, isNameChar c.toLower = isNameChar c :=
  forall_char (by decide +kernel) fun _ same => by rw [same]

/-- No identifier holds a character that is blank, or a separator. -/
theorem isNameChar_plain {c : Char} (h : isNameChar c = true) :
    isBlank c = false ∧ c ≠ Address.separator := by
  have small : c.toNat < 128 := by
    unfold isNameChar Char.isAlphanum Char.isAlpha Char.isUpper Char.isLower Char.isDigit at h
    simp only [Bool.or_eq_true, beq_iff_eq, Bool.and_eq_true, decide_eq_true_eq,
      UInt32.le_iff_toNat_le, ge_iff_le] at h
    rcases h with ((h | rfl) | rfl) | rfl
    · have value : c.toNat = c.val.toNat := rfl
      have upper : 'Z'.val.toNat = 90 := rfl
      have lower : 'z'.val.toNat = 122 := rfl
      have digit : '9'.val.toNat = 57 := rfl
      omega
    all_goals decide
  have plain : ∀ n < 128, isNameChar (Char.ofNat n) = true →
      isBlank (Char.ofNat n) = false ∧ Char.ofNat n ≠ Address.separator := by
    decide +kernel
  have here := plain c.toNat small
  rw [Char.ofNat_toNat] at here
  exact here h

namespace Identifier

theorem isNameChar_of_mem {i : Identifier} {c : Char} (h : c ∈ i.text.toList) :
    isNameChar c = true := by
  have valid := i.valid
  rw [isIdentifier, Bool.and_eq_true, List.all_eq_true] at valid
  exact valid.2 c h

theorem toList_ne_nil (i : Identifier) : i.text.toList ≠ [] := by
  have valid := i.valid
  rw [isIdentifier, Bool.and_eq_true] at valid
  simpa using valid.1

theorem separator_not_mem (i : Identifier) : Address.separator ∉ i.text.toList :=
  fun mem => (isNameChar_plain (isNameChar_of_mem mem)).2 rfl

end Identifier

namespace Text

/-- Nothing in front of a character that stays is dropped, and what follows is dropped as if it
stood alone. -/
theorem dropEnd_append_cons {p : Char → Bool} {c : Char} (stays : p c = false)
    (cs ds : List Char) : dropEnd p (cs ++ c :: ds) = cs ++ c :: dropEnd p ds := by
  have reversed : (cs ++ c :: ds).reverse = ds.reverse ++ c :: cs.reverse := by simp
  rw [dropEnd, dropEnd, reversed, List.dropWhile_append]
  split
  · next nothing =>
    rw [List.isEmpty_iff] at nothing
    rw [nothing, List.dropWhile_cons_of_neg (by simp [stays])]
    simp
  · simp

/-- A text without blanks at its ends is left alone. -/
theorem trim_of_ends {cs : List Char} (first : ∀ c, cs.head? = some c → isBlank c = false)
    (last : cs.getLast?.any isBlank = false) : trim cs = cs := by
  have start : trimStart cs = cs := by
    cases cs with
    | nil => rfl
    | cons c cs => exact trimStart_eq_self (first c rfl)
  rw [trim, start]
  rcases List.eq_nil_or_concat' cs with rfl | ⟨cs, c, rfl⟩
  · rfl
  · exact dropEnd_append_cons (by simpa using last) cs []

end Text

namespace Address

/-! ### Segments -/

theorem consSegment_append (segment : List Char) (rest more : List (List Char)) :
    consSegment segment (rest ++ more) = consSegment segment rest ++ more := by
  unfold consSegment
  split <;> rfl

theorem splitFrom_append (cs ds : List Char) :
    splitFrom (cs ++ separator :: ds) =
      ((splitFrom cs).1, (splitFrom cs).2 ++ charSegments ds) := by
  induction cs with
  | nil => simp [splitFrom, charSegments]
  | cons c cs ih =>
    rw [List.cons_append, splitFrom, ih, splitFrom]
    by_cases mark : c = separator
    · simp [mark, consSegment_append]
    · simp [mark]

/-- The segments on both sides of a separator do not depend on each other. -/
theorem charSegments_append (cs ds : List Char) :
    charSegments (cs ++ separator :: ds) = charSegments cs ++ charSegments ds := by
  rw [charSegments, splitFrom_append, consSegment_append]
  rfl

theorem splitFrom_word {cs : List Char} (h : separator ∉ cs) : splitFrom cs = (cs, []) := by
  induction cs with
  | nil => rfl
  | cons c cs ih =>
    rw [List.mem_cons, not_or] at h
    rw [splitFrom, ih h.2]
    exact if_neg fun mark => h.1 mark.symm

theorem charSegments_word {cs : List Char} (some : cs ≠ []) (h : separator ∉ cs) :
    charSegments cs = [cs] := by
  rw [charSegments, splitFrom_word h, consSegment, if_neg (by simpa using some)]

/-- **Segments that are joined are found again.** -/
theorem segments_intercalate {names : List String}
    (plain : ∀ s ∈ names, s.toList ≠ [] ∧ separator ∉ s.toList) :
    segments ("/".intercalate names) = names := by
  induction names with
  | nil => rw [String.intercalate_nil]; rfl
  | cons name names ih =>
    obtain ⟨some, whole⟩ := plain name List.mem_cons_self
    have word := charSegments_word some whole
    by_cases last : names = []
    · rw [last, String.intercalate_singleton, segments, word, List.map_singleton,
        String.ofList_toList]
    · have toList : ("/".intercalate (name :: names)).toList =
          name.toList ++ separator :: ("/".intercalate names).toList := by
        rw [String.intercalate_cons_of_ne_nil last, String.toList_append, String.toList_append,
          List.append_assoc]
        rfl
      rw [segments, toList, charSegments_append, word, List.map_append, List.map_singleton,
        String.ofList_toList, List.singleton_append]
      exact congrArg _ (ih fun s mem => plain s (List.mem_cons_of_mem _ mem))

/-- The address along a path of identifiers. -/
def along (path : List Identifier) : String :=
  "/".intercalate (path.map Identifier.text)

theorem along_singleton (i : Identifier) : along [i] = i.text := by
  simp [along]

theorem along_cons (i : Identifier) {path : List Identifier} (h : path ≠ []) :
    along (i :: path) = i.text ++ "/" ++ along path := by
  obtain ⟨j, rest, rfl⟩ := List.exists_cons_of_ne_nil h
  exact String.intercalate_cons_cons

/-- One more identifier at the end. -/
theorem along_concat {path : List Identifier} (h : path ≠ []) (i : Identifier) :
    along (path ++ [i]) = join (along path) i.text := by
  induction path with
  | nil => exact absurd rfl h
  | cons j path ih =>
    by_cases last : path = []
    · rw [last, List.singleton_append, along_cons j (List.cons_ne_nil i []), along_singleton,
        along_singleton]
      rfl
    · rw [List.cons_append, along_cons j (List.append_ne_nil_of_left_ne_nil last _), ih last,
        along_cons j last]
      simp only [join, String.append_assoc]

/-- **The segments of an address are its identifiers.** -/
theorem segments_along (path : List Identifier) :
    segments (along path) = path.map Identifier.text := by
  refine segments_intercalate fun s mem => ?_
  obtain ⟨i, -, rfl⟩ := List.mem_map.mp mem
  exact ⟨i.toList_ne_nil, i.separator_not_mem⟩

/-! ### Rooted forms -/

theorem trim_eq_self {cs : List Char} (h : ∀ c ∈ cs, isBlank c = false) : trim cs = cs := by
  refine trim_of_ends (fun c first => h c (List.mem_of_mem_head? first)) ?_
  cases last : cs.getLast? with
  | none => rfl
  | some c => exact h c (List.mem_of_getLast? last)

theorem not_isBlank_of_mem_along {path : List Identifier} {c : Char}
    (h : c ∈ (along path).toList) : isBlank c = false := by
  induction path with
  | nil => simp [along] at h
  | cons i path ih =>
    by_cases last : path = []
    · rw [last, along_singleton] at h
      exact (isNameChar_plain (Identifier.isNameChar_of_mem h)).1
    · rw [along_cons i last, String.toList_append, String.toList_append, List.mem_append,
        List.mem_append] at h
      rcases h with (h | h) | h
      · exact (isNameChar_plain (Identifier.isNameChar_of_mem h)).1
      · obtain rfl : c = '/' := by simpa using h
        decide
      · exact ih h

theorem head_along (path : List Identifier) : (along path).toList.head? ≠ some separator := by
  cases path with
  | nil => simp [along]
  | cons i path =>
    obtain ⟨c, cs, spelled⟩ := List.exists_cons_of_ne_nil i.toList_ne_nil
    have name : isNameChar c = true :=
      Identifier.isNameChar_of_mem (i := i) (by rw [spelled]; exact List.mem_cons_self)
    have head : (along (i :: path)).toList.head? = some c := by
      by_cases last : path = []
      · rw [last, along_singleton, spelled]
        rfl
      · rw [along_cons i last, String.toList_append, String.toList_append, spelled]
        rfl
    rw [head]
    exact fun mark => (isNameChar_plain name).2 (Option.some.inj mark)

/-- **An address along a path is in rooted form.** -/
theorem normalize_along (path : List Identifier) (root : String) :
    normalize (along path) root = along path := by
  have segments : (charSegments (along path).toList).map String.ofList =
      path.map Identifier.text := segments_along path
  have rootless :
      (decide ((along path).toList.head? = some separator) && !root.isEmpty) = false := by
    rw [decide_eq_false (head_along path), Bool.false_and]
  rw [normalize, rootedSegments, trim_eq_self fun _ => not_isBlank_of_mem_along, segments]
  rw [if_neg (by rw [rootless]; exact Bool.false_ne_true), along]

theorem isEmpty_of_plain {s : String} (h : s.toList ≠ []) : s.isEmpty = false := by
  rw [Bool.eq_false_iff, ne_eq, String.isEmpty_iff]
  exact mt String.toList_eq_nil_iff.mpr h

/-- **The root may be left out** before a slash. -/
theorem normalize_rootless (root : Identifier) (path : List Identifier) :
    normalize ("/" ++ along path) root.text = along (root :: path) := by
  have toList : ("/" ++ along path).toList = separator :: (along path).toList := by
    rw [String.toList_append]
    rfl
  have plain : ∀ c ∈ separator :: (along path).toList, isBlank c = false := by
    intro c mem
    rcases List.mem_cons.mp mem with rfl | mem
    · decide
    · exact not_isBlank_of_mem_along mem
  have segments : (charSegments (separator :: (along path).toList)).map String.ofList =
      path.map Identifier.text := by
    have apart := charSegments_append [] (along path).toList
    rw [List.nil_append] at apart
    rw [apart]
    exact segments_along path
  have named := isEmpty_of_plain root.toList_ne_nil
  rw [normalize, rootedSegments, toList, trim_eq_self plain, segments]
  simp [named, along]

/-! ### Case -/

theorem dropEnd_map_toLower {p : Char → Bool} (same : p ∘ Char.toLower = p) (cs : List Char) :
    dropEnd p (cs.map Char.toLower) = (dropEnd p cs).map Char.toLower := by
  simp only [dropEnd, List.dropWhile_map, same, ← List.map_reverse]

theorem trim_map_toLower (cs : List Char) :
    trim (cs.map Char.toLower) = (trim cs).map Char.toLower := by
  have same : isBlank ∘ Char.toLower = isBlank := funext isBlank_toLower
  rw [trim, trim, trimStart, trimStart, List.dropWhile_map, same, dropEnd_map_toLower same]

theorem beq_separator_toLower :
    (fun c : Char => c == separator) ∘ Char.toLower = fun c => c == separator := by
  funext c
  rw [Function.comp_apply, Bool.eq_iff_iff, beq_iff_eq, beq_iff_eq, toLower_eq_separator_iff]

theorem splitLast_map_toLower (cs : List Char) :
    splitLast (cs.map Char.toLower) =
      (splitLast cs).map fun parts => (parts.1.map Char.toLower, parts.2.map Char.toLower) := by
  have same : (fun c => c != separator) ∘ Char.toLower = fun c => c != separator := by
    funext c
    exact congrArg (! ·) (congrFun beq_separator_toLower c)
  rw [splitLast, splitLast, ← List.map_reverse, List.takeWhile_map, List.dropWhile_map, same]
  cases cs.reverse.dropWhile fun c => c != separator with
  | nil => rfl
  | cons mark parent => simp only [List.map_cons, List.map_reverse, Option.map_some]

theorem fold_slash : fold "/" = "/" := by
  apply String.toList_injective
  rw [toList_fold]
  decide

theorem join_fold (parent name : String) :
    join (fold parent) (fold name) = fold (join parent name) := by
  rw [join, join, fold_append, fold_append, fold_slash]

theorem fold_intercalate (names : List String) :
    fold ("/".intercalate names) = "/".intercalate (names.map fold) := by
  induction names with
  | nil => simp [fold]
  | cons name names ih =>
    cases names with
    | nil => simp
    | cons next rest =>
      rw [List.map_cons, List.map_cons, String.intercalate_cons_cons, fold_append, fold_append, ih,
        fold_slash, String.intercalate_cons_cons, List.map_cons]

theorem isEmpty_fold (s : String) : (fold s).isEmpty = s.isEmpty := by
  rw [Bool.eq_iff_iff, String.isEmpty_iff, String.isEmpty_iff, ← String.toList_eq_nil_iff,
    toList_fold, List.map_eq_nil_iff, String.toList_eq_nil_iff]

/-- **The rooted form of a folded text is the folded rooted form.** -/
theorem normalize_fold (address root : String) :
    normalize (fold address) (fold root) = fold (normalize address root) := by
  have head : ∀ cs : List Char, (cs.map Char.toLower).head? = some separator ↔
      cs.head? = some separator := by
    intro cs
    cases cs with
    | nil => rfl
    | cons c cs => simp [toLower_eq_separator_iff]
  rw [normalize, normalize, fold_intercalate, rootedSegments, rootedSegments, toList_fold,
    trim_map_toLower, charSegments_map_toLower, isEmpty_fold]
  simp only [head]
  split
  · rw [List.map_cons]
  · rfl

end Address

end DeviceTree
