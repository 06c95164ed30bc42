/-
What two addresses with the same key have in common.

The segments of an address are what stands between its separators, as far as that is not empty; the
blanks around the address do not count, and if it starts with a separator then the root comes first.
The rooted form is put together from them, segment by segment.  Nothing of them is lost in it, nor
in the key but for ASCII case: two addresses have the same key exactly if they have the same
segments up to case.  So an entry of the cache answers for no address that the walk takes elsewhere.

* `charSegments_eq_splitOn` -- the segments, by the parts that a split yields;
* `normalize_eq_foldl` -- the rooted form, segment by segment;
* `key_normalize_inj` -- when the keys of two rooted forms are the same;
* `foldl_join` -- identifiers that are joined one after the other;
* `keys_exact` -- all of it, for every text and every root.
-/
import DeviceTree.Proofs.Epoch
import DeviceTree.Proofs.Location
import DeviceTree.Proofs.Segments

namespace DeviceTree

open Text

namespace Address

variable {out segment : String} {names others : List String}

/-! ### Segments -/

/-- The parts between the separators are those that are found from the end, but for empty ones. -/
theorem splitFrom_splitOn (cs : List Char) :
    ∃ first rest, cs.splitOn separator = first :: rest ∧
      splitFrom cs = (first, rest.filter fun s => !s.isEmpty) := by
  induction cs with
  | nil => exact ⟨[], [], rfl, rfl⟩
  | cons c cs ih =>
    obtain ⟨first, rest, parts, found⟩ := ih
    rw [List.splitOn] at parts ⊢
    rw [List.splitOnP_cons_eq_if_modifyHead, parts, splitFrom, found]
    by_cases mark : c = separator
    · -- what was the first part is one of many now, and goes if it is empty
      refine ⟨[], first :: rest, if_pos (beq_iff_eq.mpr mark), ?_⟩
      cases first with
      | nil => simp [mark, consSegment]
      | cons d ds => simp [mark, consSegment]
    · exact ⟨c :: first, rest, if_neg (by simpa using mark), by simp [mark]⟩

/-- **The segments are the parts between the separators** that are not empty. -/
theorem charSegments_eq_splitOn (cs : List Char) :
    charSegments cs = (cs.splitOn separator).filter fun s => !s.isEmpty := by
  obtain ⟨first, rest, parts, found⟩ := splitFrom_splitOn cs
  rw [charSegments, found, parts, consSegment]
  cases first with
  | nil => rfl
  | cons c cs => rfl

/-- The segments of an address without the blanks around it, as texts. -/
def trimmedSegments (address : String) : List String :=
  (((trim address.toList).splitOn separator).filter fun s => !s.isEmpty).map String.ofList

/-- An address is rootless if it starts with a separator. -/
def Rootless (address : String) : Prop :=
  (trim address.toList).head? = some separator

instance (address : String) : Decidable (Rootless address) :=
  inferInstanceAs (Decidable (_ = _))

theorem rootedSegments_eq (address : String) (root : Identifier) :
    rootedSegments address root.text =
      if Rootless address then root.text :: trimmedSegments address
      else trimmedSegments address := by
  have named := isEmpty_of_plain root.toList_ne_nil
  rw [rootedSegments, charSegments_eq_splitOn, named, Bool.not_false, Bool.and_true]
  by_cases rootless : Rootless address
  · rw [if_pos rootless]
    exact if_pos (decide_eq_true rootless)
  · rw [if_neg rootless]
    exact if_neg (mt of_decide_eq_true rootless)

/-! ### Rooted forms -/

/-- One segment more, with a separator in between if anything stands before it. -/
def append (out segment : String) : String :=
  if out.isEmpty then segment else join out segment

theorem intercalate_join (out segment : String) (names : List String) :
    "/".intercalate (join out segment :: names) = "/".intercalate (out :: segment :: names) := by
  cases names with
  | nil =>
    rw [String.intercalate_singleton, String.intercalate_cons_cons, String.intercalate_singleton]
    rfl
  | cons name names =>
    simp only [String.intercalate_cons_cons, join, String.append_assoc]

theorem isEmpty_join (out segment : String) : (join out segment).isEmpty = false := by
  refine isEmpty_of_plain ?_
  rw [join, String.toList_append, String.toList_append]
  simp

/-- Behind something that is there already, every segment comes with a separator. -/
theorem foldl_append (some : out.isEmpty = false) (names : List String) :
    names.foldl append out = "/".intercalate (out :: names) := by
  induction names generalizing out with
  | nil => rw [List.foldl_nil, String.intercalate_singleton]
  | cons name names ih =>
    have step : append out name = join out name := if_neg (by simp [some])
    rw [List.foldl_cons, step, ih (isEmpty_join out name), intercalate_join]

theorem foldl_append_empty (plain : ∀ s ∈ names, s.isEmpty = false) :
    names.foldl append "" = "/".intercalate names := by
  cases names with
  | nil => rfl
  | cons name names =>
    have step : append "" name = name := if_pos rfl
    rw [List.foldl_cons, step, foldl_append (plain name List.mem_cons_self)]

/-- **The rooted form is put together segment by segment.** -/
theorem normalize_eq_foldl (address : String) (root : Identifier) :
    normalize address root.text =
      (trimmedSegments address).foldl append (if Rootless address then root.text else "") := by
  have plain := rootedSegments_plain address root
  rw [rootedSegments_eq] at plain
  rw [normalize, rootedSegments_eq]
  by_cases rootless : Rootless address
  · rw [if_pos rootless, if_pos rootless,
      foldl_append (isEmpty_of_plain root.toList_ne_nil)]
  · rw [if_neg rootless] at plain
    rw [if_neg rootless, if_neg rootless,
      foldl_append_empty fun s mem => isEmpty_of_plain (plain s mem).1]

/-! ### Keys -/

/-- Folded segments are found again when they are joined. -/
theorem segments_intercalate_fold
    (plain : ∀ s ∈ names, s.toList ≠ [] ∧ separator ∉ s.toList) :
    segments (fold ("/".intercalate names)) = names.map fold := by
  rw [segments_fold, segments_intercalate plain]

/-- **Joined segments have the same key exactly if they are the same up to case.** -/
theorem key_intercalate_inj
    (plain : ∀ s ∈ names, s.toList ≠ [] ∧ separator ∉ s.toList)
    (plain' : ∀ s ∈ others, s.toList ≠ [] ∧ separator ∉ s.toList) :
    key ("/".intercalate names) = key ("/".intercalate others) ↔
      List.Forall₂ (fun s t => sameFold s t = true) names others := by
  have byFold : List.Forall₂ (fun s t => sameFold s t = true) names others ↔
      names.map fold = others.map fold := by
    rw [← List.forall₂_eq_eq_eq, List.forall₂_map_left_iff, List.forall₂_map_right_iff]
    simp only [sameFold_iff]
  rw [byFold]
  constructor
  · -- a key can be cut again, for folding makes no separator
    intro same
    rw [← segments_intercalate_fold plain, ← segments_intercalate_fold plain']
    exact congrArg segments same
  · intro same
    rw [key, key, fold_intercalate, fold_intercalate, same]

theorem key_normalize_inj (a b : String) (root : Identifier) :
    key (normalize a root.text) = key (normalize b root.text) ↔
      List.Forall₂ (fun s t => sameFold s t = true) (segments (normalize a root.text))
        (segments (normalize b root.text)) := by
  rw [segments_normalize, segments_normalize]
  exact key_intercalate_inj (rootedSegments_plain a root) (rootedSegments_plain b root)

/-! ### Joined identifiers -/

/-- Identifiers that are joined one after the other make the address along their path. -/
theorem foldl_join (root : Identifier) (rest : List Identifier) :
    rest.foldl (fun address i => join address i.text) root.text = along (root :: rest) := by
  induction rest using List.reverseRecOn with
  | nil => exact (along_singleton root).symm
  | append_singleton rest i ih =>
    rw [List.foldl_concat, ih, ← List.cons_append, along_concat (List.cons_ne_nil root rest)]

end Address

open Address

/-- **Addresses, their rooted forms and their keys.**  Let `root` be the name of the root.  The
segments of the rooted form of any text are the non-empty parts between the slashes of the text
without the blanks around it, with the root in front if and only if that starts with a slash; and
the rooted form is these segments with single slashes in between, as it is put together one by one.

Two texts have rooted forms with the same key exactly if these have as many segments and all of them
agree up to ASCII case; and then the walk leads to the same node in every tree with that root.

If identifiers are joined to the root one after the other, the segments of what comes out are the
root and these identifiers.  It is its own rooted form, and that of what is left of it without the
root. -/
theorem keys_exact (root : Identifier) :
    (∀ address,
      let names := if Rootless address then root.text :: trimmedSegments address
        else trimmedSegments address
      segments (Address.normalize address root.text) = names ∧
        Address.normalize address root.text = "/".intercalate names ∧
        Address.normalize address root.text =
          (trimmedSegments address).foldl append (if Rootless address then root.text else "")) ∧
    (∀ a b, key (Address.normalize a root.text) = key (Address.normalize b root.text) ↔
      List.Forall₂ (fun s t => sameFold s t = true) (segments (Address.normalize a root.text))
        (segments (Address.normalize b root.text))) ∧
    (∀ (s : Store) (a b : String), s.rootIdentifier = root → key (s.rooted a) = key (s.rooted b) →
      s.uncached a = s.uncached b) ∧
    ∀ rest : List Identifier,
      let joined := rest.foldl (fun address i => join address i.text) root.text
      let rootless := "/" ++ "/".intercalate (rest.map Identifier.text)
      segments joined = (root :: rest).map Identifier.text ∧
        Address.normalize joined root.text = joined ∧ Address.normalize rootless root.text = joined ∧
        (rest ≠ [] → joined = root.text ++ rootless) := by
  refine ⟨fun address => ⟨?_, ?_, normalize_eq_foldl address root⟩,
    fun a b => key_normalize_inj a b root, fun s a b _ same => s.walk_segments_congr same,
    fun rest => ?_⟩
  · rw [segments_normalize, rootedSegments_eq]
  · rw [Address.normalize, rootedSegments_eq]
  · intro joined rootless
    have whole : joined = along (root :: rest) := foldl_join root rest
    refine ⟨?_, ?_, ?_, fun some => ?_⟩
    · rw [whole, segments_along]
    · rw [whole, normalize_along]
    · rw [whole]
      exact normalize_rootless root rest
    · rw [whole, along_cons root some, String.append_assoc]
      rfl

/-- Four spellings with one key. -/
example : ["device/x/y", "/x/y", " Device//x/Y/ ", "/X//y//"].map
    (fun address => key (Address.normalize address "device")) = List.replicate 4 "device/x/y" := by
  decide +kernel

end DeviceTree
