/-
What the walk along an address depends on.

* `segments_fold`, `walk_fold` -- the walk treats addresses alike that differ in ASCII case only,
  and such addresses have the same segments up to ASCII case;
* `walk_congr` -- it reads nothing but the references of the nodes that it passes;
* `walk_grows` -- nodes that are on their own change no walk;
* `live_of_walk` -- in a sound arena it ends at a live node.
-/
import DeviceTree.Proofs.Creation
import DeviceTree.Store.Resolve

namespace DeviceTree

namespace Address

open Text

theorem toLower_eq_separator_iff {c : Char} : c.toLower = separator ↔ c = separator := by
  constructor
  · intro h
    unfold Char.toLower at h
    split at h
    · next capital =>
      -- no capital has the mark for its small letter
      exfalso
      have value := congrArg (fun c : Char => c.val.toNat) h
      simp only [UInt32.le_iff_toNat_le, ge_iff_le] at capital
      simp [separator] at value capital
      omega
    · exact h
  · rintro rfl
    decide

theorem consSegment_map (f : Char → Char) (segment : List Char) (rest : List (List Char)) :
    consSegment (segment.map f) (rest.map fun s => s.map f) =
      (consSegment segment rest).map fun s => s.map f := by
  unfold consSegment
  cases segment <;> simp

theorem splitFrom_map_toLower (cs : List Char) :
    splitFrom (cs.map Char.toLower) =
      ((splitFrom cs).1.map Char.toLower, (splitFrom cs).2.map fun s => s.map Char.toLower) := by
  induction cs with
  | nil => rfl
  | cons c rest ih =>
    rw [List.map_cons, splitFrom, ih, splitFrom]
    dsimp only
    rw [consSegment_map]
    by_cases mark : c = separator
    · rw [if_pos mark, if_pos (toLower_eq_separator_iff.mpr mark), List.map_nil]
    · rw [if_neg mark, if_neg (mt toLower_eq_separator_iff.mp mark), List.map_cons]

theorem ofList_map_toLower (cs : List Char) :
    String.ofList (cs.map Char.toLower) = fold (String.ofList cs) := by
  apply String.toList_injective
  simp [toList_fold]

/-- Folding goes through the cut into segments. -/
theorem charSegments_map_toLower (cs : List Char) :
    (charSegments (cs.map Char.toLower)).map String.ofList =
      ((charSegments cs).map String.ofList).map fold := by
  simp only [charSegments, splitFrom_map_toLower, consSegment_map, List.map_map]
  exact List.map_congr_left fun cs _ => ofList_map_toLower cs

/-- The segments of a folded address are the folded segments. -/
theorem segments_fold (address : String) :
    segments (fold address) = (segments address).map fold := by
  rw [segments, toList_fold, charSegments_map_toLower]
  rfl

end Address

namespace Arena

variable {a b : Arena} {root : Identifier} {x y : NodeId}

/-! ### Following names -/

theorem childNamed_fold (a : Arena) (id : NodeId) (name : String) :
    a.childNamed id (Text.fold name) = a.childNamed id name := by
  simp only [childNamed, Node.named?, Identifier.isNamed, Text.sameFold, Text.fold_fold]

theorem follow_fold (a : Arena) (names : List String) (start : NodeId) :
    a.follow start (names.map Text.fold) = a.follow start names := by
  unfold follow
  induction names generalizing start with
  | nil => rfl
  | cons name rest ih =>
    simp only [List.map_cons, List.foldlM_cons, childNamed_fold]
    exact congrArg _ (funext ih)

/-- Where names lead does not depend on more than the names of the references. -/
theorem follow_congr (same : ∀ id name, b.childNamed id name = a.childNamed id name)
    (start : NodeId) (names : List String) : b.follow start names = a.follow start names := by
  have : b.childNamed = a.childNamed := funext₂ same
  rw [follow, follow, this]

theorem leads_of_childNamed {name : String} (h : a.childNamed x name = some y) : a.Leads x y := by
  obtain ⟨n, found, h⟩ := Option.bind_eq_some_iff.mp h
  obtain ⟨r, named, rfl⟩ := Option.map_eq_some_iff.mp h
  exact ⟨n, found, List.mem_map_of_mem (List.mem_of_find?_eq_some named)⟩

theorem live_of_follow (w : a.Wired) (names : List String) :
    ∀ {start n}, a.get? start = some n → a.follow start names = some x →
      ∃ m, a.get? x = some m := by
  induction names with
  | nil =>
    intro start n live h
    obtain rfl : start = x := Option.some.inj h
    exact ⟨n, live⟩
  | cons name rest ih =>
    intro start n live h
    simp only [follow, List.foldlM_cons] at h
    obtain ⟨next, step, h⟩ := Option.bind_eq_some_iff.mp h
    obtain ⟨m, there⟩ := w.live_of_leads (leads_of_childNamed step)
    exact ih there h

/-- From a node that is there already, names lead to where they led before. -/
theorem follow_grows (w : a.Wired) (grows : Grows a b) (names : List String) :
    ∀ {start n}, a.get? start = some n → b.follow start names = a.follow start names := by
  induction names with
  | nil => exact fun _ => rfl
  | cons name rest ih =>
    intro start n live
    have first : b.childNamed start name = a.childNamed start name := by
      rw [childNamed, childNamed, live, grows.kept live]
    simp only [follow, List.foldlM_cons, first]
    cases step : a.childNamed start name with
    | none => rfl
    | some next =>
      obtain ⟨m, there⟩ := w.live_of_leads (leads_of_childNamed step)
      exact ih there

end Arena

namespace Store

open Arena

variable {s t : Store} {root : Identifier} {id : NodeId}

/-! ### Walks -/

/-- The walk does not look at ASCII case. -/
theorem walk_fold (s : Store) (names : List String) :
    s.walk (names.map Text.fold) = s.walk names := by
  cases names with
  | nil => rfl
  | cons first rest =>
    have named : s.rootIdentifier.isNamed (Text.fold first) = s.rootIdentifier.isNamed first := by
      simp only [Identifier.isNamed, Text.sameFold, Text.fold_fold]
    rw [List.map_cons, walk, walk, named, follow_fold]

theorem walk_key (s : Store) (address : String) :
    s.walk (Address.segments (Address.key address)) = s.walk (Address.segments address) := by
  rw [Address.key, Address.segments_fold, walk_fold]

theorem walk_congr (named : t.rootIdentifier = s.rootIdentifier)
    (same : ∀ id name, t.arena.childNamed id name = s.arena.childNamed id name)
    (names : List String) : t.walk names = s.walk names := by
  cases names with
  | nil => rfl
  | cons first rest => rw [walk, walk, named, follow_congr same]

theorem walk_grows (sound : s.arena.Sound root) (named : t.rootIdentifier = s.rootIdentifier)
    (grows : Grows s.arena t.arena) (names : List String) : t.walk names = s.walk names := by
  obtain ⟨n, live, -⟩ := sound.addressed.root
  cases names with
  | nil => rfl
  | cons first rest => rw [walk, walk, named, follow_grows sound.wired grows rest live]

/-- The walk ends at a live node. -/
theorem live_of_walk (sound : s.arena.Sound root) {names : List String}
    (h : s.walk names = some id) : ∃ m, s.arena.get? id = some m := by
  obtain ⟨n, live, -⟩ := sound.addressed.root
  cases names with
  | nil => simp [walk] at h
  | cons first rest =>
    rw [walk] at h
    split at h
    · exact live_of_follow sound.wired rest live h
    · simp at h

end Store

end DeviceTree
