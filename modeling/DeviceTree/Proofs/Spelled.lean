/-
Under which spelling a declared element is found.

The address of a declared element is cut at its last slash before the part in front of it is
resolved, and that part is trimmed once more.  A look-up trims the address only as a whole.  The two
agree unless a blank stands in front of the last slash; then the element is there, and its address
as it was declared leads nowhere.

* `Address.rootedSegments_declared` -- the segments of a declared address;
* `Arena.Extends` -- forward references are only added at the end, and all walks are kept;
* `declared_found` -- which declared addresses lead to their elements.
-/
import DeviceTree.Proofs.Alias
import DeviceTree.Proofs.Declared
import Mathlib

namespace DeviceTree

open Text

/-! ### Spelling -/

namespace Text

/-- What was trimmed starts with no blank. -/
theorem head_trim {cs rest : List Char} {c : Char} (h : trim cs = c :: rest) :
    isBlank c = false := by
  obtain ⟨blanks, -, split⟩ := exists_dropEnd isBlank (trimStart cs)
  have first := List.head?_dropWhile_not isBlank cs
  have start : cs.dropWhile isBlank = c :: (rest ++ blanks) := by
    rw [← List.cons_append, ← h]
    exact split
  rwa [start, List.head?_cons] at first

end Text

namespace Address

variable {address parent name : String}

theorem charSegments_declared
    (split : dropEnd (· == separator) (trim address.toList) =
      parent.toList ++ separator :: name.toList) :
    charSegments (trim address.toList) =
      charSegments parent.toList ++ charSegments name.toList := by
  rw [← charSegments_dropEnd, split, charSegments_append]

/-- **A declared address has the segments of its parent and one more**, unless the parent ends in a
blank. -/
theorem rootedSegments_declared {root last : Identifier}
    (split : dropEnd (· == separator) (trim address.toList) =
      parent.toList ++ separator :: last.text.toList)
    (ends : parent.toList.getLast?.any isBlank = false) :
    rootedSegments address root.text =
      (if parent = "" then [root.text] else rootedSegments parent root.text) ++ [last.text] := by
  have segments := charSegments_declared split
  rw [charSegments_word last.toList_ne_nil last.separator_not_mem] at segments
  obtain ⟨marks, -, whole⟩ := exists_dropEnd (· == separator) (trim address.toList)
  rw [split, List.append_assoc, List.cons_append] at whole
  have some : root.text.isEmpty = false := by
    rw [Bool.eq_false_iff]
    intro empty
    exact root.toList_ne_nil (by rw [String.isEmpty_iff.mp empty]; rfl)
  rw [rootedSegments, segments]
  cases spelled : parent.toList with
  | nil =>
    obtain rfl : parent = "" := String.toList_eq_nil_iff.mp spelled
    rw [whole, spelled]
    simp [some, charSegments, splitFrom, consSegment]
  | cons c cs =>
    have named : parent ≠ "" := fun empty => by simp [empty] at spelled
    have plain : isBlank c = false := head_trim (by rw [whole, spelled, List.cons_append])
    have same : trim parent.toList = parent.toList := by
      refine trim_of_ends (fun d first => ?_) ends
      rw [spelled, List.head?_cons] at first
      exact Option.some.inj first ▸ plain
    rw [if_neg named, rootedSegments, same, whole, spelled]
    -- a slash in front stands for the root in both
    by_cases marked : c = separator <;> simp [marked, some]

/-- If the parent ends in a blank, a blank stands within the segments. -/
theorem blank_of_declared {root : String}
    (split : dropEnd (· == separator) (trim address.toList) =
      parent.toList ++ separator :: name.toList)
    (ends : parent.toList.getLast?.any isBlank = true) :
    ∃ s ∈ rootedSegments address root, ∃ c ∈ s.toList, isBlank c = true := by
  obtain ⟨c, last, blank⟩ := (Option.any_eq_true _ _).mp ends
  have mem : c ∈ (charSegments (trim address.toList)).flatten := by
    rw [charSegments_declared split, List.flatten_append, List.mem_append, flatten_charSegments,
      List.mem_filter]
    refine .inl ⟨List.mem_of_getLast? last, ?_⟩
    rw [bne_iff_ne]
    rintro rfl
    exact absurd blank (by decide)
  obtain ⟨s, segment, inside⟩ := List.mem_flatten.mp mem
  have below : String.ofList s ∈ (charSegments (trim address.toList)).map String.ofList :=
    List.mem_map_of_mem segment
  refine ⟨String.ofList s, ?_, c, by rwa [String.toList_ofList], blank⟩
  rw [rootedSegments]
  split
  · exact List.mem_cons_of_mem _ below
  · exact below

end Address

/-! ### Walks -/

namespace Arena

variable {a b c : Arena} {g : NodeId → Node → Node} {x y id : NodeId} {n : Node}

/-- What was there is still there, and forward references were only added behind those of before. -/
def Extends (a b : Arena) : Prop :=
  ∀ id n, a.get? id = some n → ∃ m, b.get? id = some m ∧ n.forward <+: m.forward

theorem Extends.refl (a : Arena) : Extends a a :=
  fun _ n found => ⟨n, found, List.prefix_rfl⟩

theorem Extends.trans (h : Extends a b) (h' : Extends b c) : Extends a c := by
  intro id n found
  obtain ⟨m, found', before⟩ := h id n found
  obtain ⟨k, found'', after⟩ := h' id m found'
  exact ⟨k, found'', before.trans after⟩

theorem extends_push (a : Arena) (node : Node) : Extends a (a.push node) := by
  intro id n found
  have differ : id ≠ a.nextId := by
    rintro rfl
    rw [get?_nextId] at found
    cases found
  exact ⟨n, by rw [get?_push, if_neg differ, found], List.prefix_rfl⟩

theorem extends_of_pushes {r : Reference} (h : Becomes a b g) (pushes : Pushes g r) :
    Extends a b := by
  intro id n found
  refine ⟨g id n, h.live found, ?_⟩
  rw [(pushes id n).1]
  exact List.prefix_append _ _

theorem extends_attach (a : Arena) (parent child : NodeId) (name : Identifier) :
    Extends a (a.attach parent child name) := by
  cases hp : a.get? parent with
  | none =>
    rw [attach, hp]
    exact .refl a
  | some above =>
    cases hc : a.get? child with
    | none =>
      rw [attach, hp, hc]
      exact .refl a
    | some below => exact extends_of_pushes (becomes_attach hp hc name) (pushes_afterAttach _)

theorem Extends.childNamed {name : String} (h : Extends a b) (led : a.childNamed x name = some y) :
    b.childNamed x name = some y := by
  obtain ⟨n, found, led⟩ := Option.bind_eq_some_iff.mp led
  obtain ⟨r, first, rfl⟩ := Option.map_eq_some_iff.mp led
  obtain ⟨m, found', more, forward⟩ := h x n found
  have first' : m.named? name = some r := by
    rw [Node.named?, ← forward, List.find?_append]
    exact Option.or_eq_some_iff.mpr (.inl first)
  rw [Arena.childNamed, found', Option.bind_some, first', Option.map_some]

theorem Extends.follow (h : Extends a b) (names : List String) :
    ∀ {start}, a.follow start names = some x → b.follow start names = some x := by
  induction names with
  | nil => exact fun led => led
  | cons name names ih =>
    intro start led
    rw [follow_cons] at led ⊢
    obtain ⟨y, first, rest⟩ := Option.bind_eq_some_iff.mp led
    rw [h.childNamed first]
    exact ih rest

/-- Only what an identifier could be spelled like leads anywhere. -/
theorem isNameChar_of_follow (names : List String) :
    ∀ {start}, a.follow start names = some x →
      ∀ s ∈ names, ∀ c ∈ s.toList, isNameChar c = true := by
  induction names with
  | nil => simp
  | cons name names ih =>
    intro start led
    rw [follow_cons] at led
    obtain ⟨y, first, rest⟩ := Option.bind_eq_some_iff.mp led
    obtain ⟨n, -, first⟩ := Option.bind_eq_some_iff.mp first
    obtain ⟨r, named, -⟩ := Option.map_eq_some_iff.mp first
    have answers := List.find?_some named
    rintro s (_ | ⟨_, mem⟩)
    · exact fun c => Identifier.isNameChar_of_isNamed answers
    · exact ih rest s mem

end Arena

open Arena

namespace Store

variable {s t : Store} {names : List String} {name : String} {id : NodeId}

theorem walk_extends (h : Extends s.arena t.arena) (root : t.rootIdentifier = s.rootIdentifier)
    (led : s.walk names = some id) : t.walk names = some id := by
  cases names with
  | nil => cases led
  | cons first rest =>
    rw [walk] at led ⊢
    rw [root]
    split at led
    · next named => rw [if_pos named, h.follow rest led]
    · cases led

theorem walk_concat (led : s.walk names = some id) (name : String) :
    s.walk (names ++ [name]) = s.arena.childNamed id name := by
  cases names with
  | nil => cases led
  | cons first rest =>
    rw [walk] at led
    rw [List.cons_append, walk]
    split at led
    · next named => rw [if_pos named, follow_concat, led, Option.bind_some]
    · cases led

theorem isNameChar_of_walk (led : s.walk names = some id) :
    ∀ name ∈ names, ∀ c ∈ name.toList, isNameChar c = true := by
  cases names with
  | nil => cases led
  | cons first rest =>
    rw [walk] at led
    split at led
    · next named =>
      rintro name (_ | ⟨_, mem⟩)
      · exact fun c => Identifier.isNameChar_of_isNamed named
      · exact isNameChar_of_follow rest led name mem
    · cases led

/-- Nothing is found under a name with a blank in it. -/
theorem walk_of_blank (blank : ∃ s ∈ names, ∃ c ∈ s.toList, isBlank c = true) :
    s.walk names = none := by
  obtain ⟨name, mem, c, inside, blank⟩ := blank
  cases led : s.walk names with
  | none => rfl
  | some id =>
    have plain := (isNameChar_plain (isNameChar_of_walk led name mem c inside)).1
    rw [blank] at plain
    cases plain

theorem extends_of_creation {p : NodeId} {e : DeclaredElement} {c : Change Answer}
    (h : (Manifest.Batch.creation p name e).apply s = .ok c t) : Extends s.arena t.arena :=
  creation_induction Extends.trans (fun a n _ => extends_push a n) extends_attach h

end Store

/-! ### Declared elements -/

namespace Manifest

variable {m : Manifest} {options : Options} {done more : List Entry} {b b' : Batch}
  {e : DeclaredElement} {t : Store}

/-- Entries keep every walk. -/
theorem extends_all (h : Batch.all Entry.declare more b = (.ok (), b')) :
    Extends b.store.arena b'.store.arena := by
  refine all_induction (R := fun b b' => Extends b.store.arena b'.store.arena)
    (fun _ => .refl _) Extends.trans ?_ more b h
  rintro (e | l) b b' declared
  · obtain ⟨_, _, _, _, _, -, found, granted⟩ := Batch.declareElement_ok (e := e) (b := b) declared
    exact found.arena ▸ Store.extends_of_creation granted
  · obtain ⟨source, target, _, _, name, -, -, -, -, -, made⟩ := arena_link declared
    exact made ▸ extends_of_pushes (becomes_link _ source target name) (pushes_pushed _)

/-- **A declared address leads to its element**, unless a blank stands in front of its last slash.
-/
theorem uncached_declared (h : m.after options (done ++ .element e :: more) = .ok b') :
    ∃ (parent : String) (n : Node), b'.store.arena.get? (room done) = some n ∧ n.kind = e.kind ∧
      dropEnd (· == Address.separator) (trim e.address.toList) =
        parent.toList ++ Address.separator :: n.identifier.text.toList ∧
      Address.separator ∉ n.identifier.text.toList ∧
      b'.store.uncached e.address =
        if parent.toList.getLast?.any isBlank then none else some (room done) := by
  obtain ⟨b, stage, rest⟩ := after_append.mp h
  obtain ⟨_, stage', ⟨n, parent, p, live, kind, split, plain, hangs, led⟩, -⟩ := element_stands h
  cases stage.symm.trans stage'
  refine ⟨parent, n, live, kind, split, plain, ?_⟩
  have before := (grown stage).tidy
  have sound := (grown h).tidy.upright.sound
  have root := rootIdentifier_after stage h
  rw [Store.uncached, Store.walk_rooted]
  split
  · next ends => exact Store.walk_of_blank (Address.blank_of_declared split ends)
  · next ends =>
    have parentLed : b'.store.walk (if parent = "" then [b'.store.rootIdentifier.text]
        else Address.rootedSegments parent b'.store.rootIdentifier.text) = some p := by
      by_cases top : parent = ""
      · rw [if_pos top] at led ⊢
        rw [led]
        exact if_pos (Identifier.isNamed_text _)
      · rw [if_neg top] at led ⊢
        rw [Store.resolve_fst before.coherent, Store.walk_rooted] at led
        rw [root]
        exact Store.walk_extends (extends_all rest) root led
    have edge := (parent_eq_some_iff sound.wired sound.parented live).mp hangs
    rw [Address.rootedSegments_declared split (by simpa using ends),
      Store.walk_concat parentLed, sound.childNamed edge live]

end Manifest

/-- The store once the addresses were resolved, one after the other. -/
def Store.consulted (t : Store) (addresses : List String) : Store :=
  addresses.foldl (fun s address => (s.resolve address).2) t

theorem Store.Tidy.resolve_consulted {name : String} (addresses : List String) :
    ∀ {t : Store}, t.Tidy name → ∀ address,
      ((t.consulted addresses).resolve address).1 = t.uncached address := by
  induction addresses with
  | nil => exact fun tidy => resolve_fst tidy.coherent
  | cons first rest ih =>
    intro t tidy address
    rw [← t.uncached_resolve first]
    exact ih ((invariant_tidy name).resolve tidy first) address

/-- **Which declared addresses are found.**  In a tree that was built of a manifest, the address of
an element as it was declared leads to the element that was created for it, whatever was looked up
before, exactly if no blank stands in front of its last slash; otherwise it leads nowhere, although
the element is there. -/
theorem declared_found (m : Manifest) (options : Options) (t : Store)
    (built : m.build options = .ok t) (before after : List DeclaredElement) (e : DeclaredElement)
    (split : m.elements = before ++ e :: after) :
    let x : NodeId := ⟨Manifest.extent before⟩
    ∃ (parent : String) (n : Node), t.arena.get? x = some n ∧ n.kind = e.kind ∧
      dropEnd (· == Address.separator) (trim e.address.toList) =
        parent.toList ++ Address.separator :: n.identifier.text.toList ∧
      Address.separator ∉ n.identifier.text.toList ∧
      ∀ earlier, ((t.consulted earlier).resolve e.address).1 =
        if parent.toList.getLast?.any isBlank then none else some x := by
  intro x
  rw [Manifest.build_eq] at built
  obtain ⟨b, carried, rfl⟩ := Request.outcome_ok.mp built
  have tidy := (Manifest.grown carried).tidy
  rw [Manifest.entries_of_elements split] at carried
  obtain ⟨parent, n, live, kind, spelled, plain, led⟩ := Manifest.uncached_declared carried
  rw [Manifest.room_elements] at live led
  refine ⟨parent, n, live, kind, spelled, plain, fun earlier => ?_⟩
  have tidy : b.store.endWrite.Tidy _ := (Store.invariant_tidy _).lock tidy _
  rw [tidy.resolve_consulted, Store.uncached_endWrite, led]

/-- Two elements, the second of which has a blank in front of its last slash. -/
def Manifest.spaced : Manifest :=
  { root := none
    elements := [⟨"/a", .group, false⟩, ⟨"/a /b", .group, false⟩]
    links := [] }

/-- Both are created, and the first is found under its address, but not the second. -/
theorem declared_found_spaced :
    ∃ t, Manifest.spaced.build .standard = .ok t ∧ (t.resolve "/a").1 = some ⟨1⟩ ∧
      (∃ n, t.arena.get? ⟨2⟩ = some n) ∧ (t.resolve "/a /b").1 = none := by
  obtain ⟨t, result⟩ : ∃ t, Manifest.spaced.build .standard = .ok t :=
    Request.exists_ok_of_isSome (of_decide_eq_true (by cbv))
  obtain ⟨parent, _, -, -, spelled, plain, found⟩ :=
    declared_found Manifest.spaced .standard t result [] [⟨"/a /b", .group, false⟩] _ rfl
  obtain ⟨parent', n, live, -, spelled', plain', found'⟩ :=
    declared_found Manifest.spaced .standard t result [⟨"/a", .group, false⟩] [] _ rfl
  have cut : Address.splitLast (dropEnd (· == Address.separator) (trim "/a".toList)) =
      some ([], ['a']) := by cbv
  have cut' : Address.splitLast (dropEnd (· == Address.separator) (trim "/a /b".toList)) =
      some (['/', 'a', ' '], ['b']) := by cbv
  rw [Address.splitLast_eq_some_iff.mpr ⟨spelled, plain⟩, Option.some.injEq, Prod.mk.injEq] at cut
  rw [Address.splitLast_eq_some_iff.mpr ⟨spelled', plain'⟩, Option.some.injEq,
    Prod.mk.injEq] at cut'
  rw [cut.1] at found
  rw [cut'.1] at found'
  exact ⟨t, result, found [], ⟨n, live⟩, found' []⟩

/-- So it is not true that every declared address leads to its element. -/
theorem declared_lost :
    ¬∀ (m : Manifest) (options : Options) (t : Store), m.build options = .ok t →
      ∀ before e after, m.elements = before ++ e :: after →
        (t.resolve e.address).1 = some ⟨Manifest.extent before⟩ := by
  intro claim
  have lost : (Manifest.spaced.build .standard).toOption.map (fun t => (t.resolve "/a /b").1) =
      some none := of_decide_eq_true (by cbv)
  obtain ⟨t, built, none⟩ := Option.map_eq_some_iff.mp lost
  have found := claim Manifest.spaced .standard t (Request.toOption_eq_some.mp built)
    [⟨"/a", .group, false⟩] ⟨"/a /b", .group, false⟩ [] rfl
  rw [none] at found
  cases found

end DeviceTree
