/-
What a manifest builds.

A tree that was built of a manifest is known node by node: its elements stand in the order in which
they are declared, each of them followed by its parts and below the node that its address led to at
the time; what comes later moves none of them.

* `Manifest.grown` -- what holds after any number of entries;
* `Manifest.element_stands`, `Manifest.links_made` -- what has become of each entry;
* `manifest_realized` -- the tree that is built, and why none is.
-/
import DeviceTree.Proofs.Epoch
import DeviceTree.Proofs.Planted
import DeviceTree.Proofs.Tally
import Mathlib

namespace DeviceTree

open Relation Arena

namespace DeclaredElement

/-- What comes with a declared element: the services and the event of a data element. -/
def parts (e : DeclaredElement) : List (String × ElementKind × Option String) :=
  match e.kind with
  | .data => (DataOptions.parts ⟨e.writable, none, none⟩).map fun part => (part.1.text, part.2)
  | _ => []

/-- How many places a declared element takes, those of its parts included. -/
def weight (e : DeclaredElement) : Nat :=
  match e.kind, e.writable with
  | .data, true => 4
  | .data, false => 3
  | _, _ => 1

theorem weight_eq (e : DeclaredElement) : e.weight = e.parts.length + 1 := by
  obtain ⟨address, kind, writable⟩ := e
  cases kind <;> cases writable <;> rfl

end DeclaredElement

namespace Manifest

theorem newborn_creation (p : NodeId) (name : String) (e : DeclaredElement) :
    (Batch.creation p name e).newborn = (name, e.kind, none) :: e.parts := by
  obtain ⟨address, kind, writable⟩ := e
  cases kind <;> rfl

/-- How many places there are in a tree with these elements: one for the root, and theirs. -/
def extent (elements : List DeclaredElement) : Nat :=
  elements.foldl (fun places e => places + e.weight) 1

/-- How many places an entry takes. -/
def Entry.weight : Entry → Nat
  | element e => e.weight
  | link _ => 0

/-- The place at which the next element is put after the entries. -/
def room (done : List Entry) : NodeId :=
  ⟨done.foldl (fun places x => places + x.weight) 1⟩

theorem room_concat (done : List Entry) (x : Entry) :
    room (done ++ [x]) = ⟨(room done).index + x.weight⟩ := by
  rw [room, List.foldl_append]
  rfl

theorem room_elements (elements : List DeclaredElement) :
    room (elements.map .element) = ⟨extent elements⟩ := by
  rw [room, List.foldl_map]
  rfl

theorem room_links (done : List Entry) (links : List DeclaredLink) :
    room (done ++ links.map .link) = room done := by
  induction links using List.reverseRecOn with
  | nil => rw [List.map_nil, List.append_nil]
  | append_singleton links l ih =>
    rw [List.map_append, ← List.append_assoc, List.map_singleton, room_concat, ih]
    rfl

end Manifest

namespace Store

variable {s t : Store} {name address : String} {id : NodeId}

theorem Invariant.applied {P : Store → Prop} (inv : Invariant P) {m : Mutation}
    {c : Change Answer} (h : P s) (granted : m.apply s = .ok c t) : P t := by
  have kept := inv.apply h m
  rwa [leftBy, granted] at kept

theorem Tidy.found (tidy : s.Tidy name) (resolved : (s.resolve address).1 = some id) :
    ∃ n, s.arena.get? id = some n := by
  rw [resolve_fst tidy.coherent] at resolved
  exact live_of_walk tidy.upright.sound resolved

theorem Finds.live (found : s.Finds address id t) (tidy : s.Tidy name) :
    ∃ n, s.arena.get? id = some n := by
  cases found with
  | root =>
    obtain ⟨n, live, -⟩ := tidy.upright.sound.addressed.root
    exact ⟨n, live⟩
  | resolved _ resolved => exact tidy.found (congrArg Prod.fst resolved)

/-- What an address leads to does not depend on what was resolved before. -/
theorem Tidy.resolve_resolve (tidy : s.Tidy name) (first address : String) :
    ((s.resolve first).2.resolve address).1 = (s.resolve address).1 := by
  rw [resolve_fst (tidy.coherent.resolve first), resolve_fst tidy.coherent]
  exact s.uncached_resolve first address

end Store

namespace Manifest

variable {m : Manifest} {options : Options} {done more : List Entry} {b b' : Batch} {x : Entry}
  {e : DeclaredElement} {l : DeclaredLink} {id : NodeId} {n : Node} {t : Store}

/-! ### One entry -/

/-- An entry keeps what every request keeps. -/
theorem Entry.keeps {P : Store → Prop} (inv : Store.Invariant P) (h : x.declare b = (.ok (), b'))
    (kept : P b.store) : P b'.store := by
  cases x with
  | element e =>
    obtain ⟨_, _, _, _, _, -, found, granted⟩ := Batch.declareElement_ok (e := e) (b := b) h
    exact inv.applied (found.keeps inv kept) granted
  | link l =>
    obtain ⟨source, target, s, s', c, first, second, granted⟩ :=
      Batch.declareLink_ok (l := l) (b := b) h
    have one := inv.resolve kept l.source
    rw [first] at one
    have two := inv.resolve one l.target
    rw [second] at two
    exact inv.applied two granted

/-- **A declared element comes at the end of the row**, below the node that its parent was. -/
theorem standings_element (h : (Entry.element e).declare b = (.ok (), b')) :
    ∃ parent name p s, Batch.declared e.address = .ok (parent, name) ∧
      b.store.Finds parent p s ∧
      b'.store.arena.row Node.standing = b.store.arena.row Node.standing ++
        (family p b.store.arena.nextId ((name, e.kind, none) :: e.parts)).map some := by
  obtain ⟨parent, name, p, s, c, spelled, found, granted⟩ :=
    Batch.declareElement_ok (e := e) (b := b) h
  refine ⟨parent, name, p, s, spelled, found, ?_⟩
  rw [Store.standings_of_creation granted, found.arena, newborn_creation]

/-- What a link of the manifest has become: `r` joins what its addresses led to. -/
structure Joined (b : Batch) (l : DeclaredLink) (r : Reference) : Prop where
  source : (b.store.resolve l.source).1 = some r.source
  target : (b.store.resolve l.target).1 = some r.target
  /-- It is named as declared, or after its target. -/
  name : ∃ aim, b.store.arena.get? r.target = some aim ∧
    r.identifier.text = l.identifier.getD aim.identifier.text
  kind : r.kind = .link
  direction : r.direction = .forward

/-- **A declared link is made** between what its addresses lead to. -/
theorem arena_link (h : (Entry.link l).declare b = (.ok (), b')) :
    ∃ source target holder aim name, b.store.arena.get? source = some holder ∧
      b.store.arena.get? target = some aim ∧ (b.store.resolve l.source).1 = some source ∧
      ((b.store.resolve l.source).2.resolve l.target).1 = some target ∧
      Store.linkName l.identifier aim = .ok name ∧
      b'.store.arena = b.store.arena.link source target name := by
  obtain ⟨source, target, s, s', c, first, second, applied⟩ :=
    Batch.declareLink_ok (l := l) (b := b) h
  obtain ⟨c', granted, -⟩ := Request.map_ok.mp applied
  obtain ⟨holder, aim, name, hs, ht, named, -, -, -, -, -, left⟩ := Store.link_ok.mp granted
  have same : s'.arena = b.store.arena := by
    have one := b.store.arena_resolve l.source
    have two := s.arena_resolve l.target
    rw [first] at one
    rw [second] at two
    exact two.trans one
  refine ⟨source, target, holder, aim, name, same ▸ hs, same ▸ ht, congrArg Prod.fst first, ?_,
    named, ?_⟩
  · rw [first]
    exact congrArg Prod.fst second
  · rw [left, ← same]
    rfl

theorem standings_link (h : (Entry.link l).declare b = (.ok (), b')) :
    b'.store.arena.row Node.standing = b.store.arena.row Node.standing := by
  obtain ⟨_, _, _, _, _, -, -, -, -, -, made⟩ := arena_link h
  rw [made]
  exact Arena.standings_link _ _ _ _

theorem joined_of_link {name : String} (tidy : b.store.Tidy name)
    (h : (Entry.link l).declare b = (.ok (), b')) :
    ∃ r, Joined b l r ∧ b'.store.arena.allLinks.Perm (b.store.arena.allLinks ++ [r]) := by
  obtain ⟨source, target, holder, aim, name, hs, ht, first, second, named, made⟩ :=
    arena_link h
  rw [tidy.resolve_resolve] at second
  refine ⟨⟨name, source, target, .link, .forward⟩,
    ⟨first, second, ⟨aim, ht, Store.linkName_ok named⟩, rfl, rfl⟩, ?_⟩
  rw [made]
  exact allLinks_link hs target name

theorem allLinks_element (h : (Entry.element e).declare b = (.ok (), b')) :
    b'.store.arena.allLinks = b.store.arena.allLinks := by
  obtain ⟨_, _, _, _, _, -, found, granted⟩ := Batch.declareElement_ok (e := e) (b := b) h
  rw [Store.allLinks_of_creation granted, found.arena]

/-! ### Any number of entries -/

/-- How things stand once the entries `done` were carried out. -/
structure Grown (name : String) (done : List Entry) (b : Batch) : Prop where
  tidy : b.store.Tidy name
  planted : Planted (b.store.arena.row Node.standing)
  next : b.store.arena.nextId = room done

theorem begun_ok (h : m.begun options = .ok b) :
    ∃ root, root.text = m.root.getD options.rootIdentifier ∧
      b.store = (Store.ofRoot (m.optionsFor options) root).beginWrite.2 := by
  obtain ⟨s, new, rfl⟩ := Request.outcome_ok.mp h
  obtain ⟨root, named, rfl⟩ := Request.outcome_ok.mp new
  exact ⟨root, Store.readName_ok.mp named, rfl⟩

theorem grown_begun (h : m.begun options = .ok b) :
    Grown (m.root.getD options.rootIdentifier) [] b := by
  obtain ⟨root, named, new⟩ := begun_ok h
  have arena : b.store.arena = .ofRoot root := by rw [new]; rfl
  refine ⟨?_, ?_, ?_⟩
  · rw [new]
    exact (Store.invariant_tidy _).beginWrite ⟨⟨Sound.ofRoot root, named⟩, .of_empty rfl⟩
  · intro i seen here
    have only : b.store.arena.row Node.standing = [some ((root.text, .group, none), none)] := by
      rw [arena]
      rfl
    rw [only, List.getElem?_singleton] at here
    split at here
    · next first =>
      cases here
      exact ⟨_, .inl ⟨first, rfl⟩⟩
    · cases here
  · rw [arena]
    rfl

theorem Grown.step {name : String} (grown : Grown name done b) (h : x.declare b = (.ok (), b')) :
    Grown name (done ++ [x]) b' := by
  have tidy := Entry.keeps (Store.invariant_tidy name) h grown.tidy
  have next : b.store.arena.slots.size = (room done).index := congrArg NodeId.index grown.next
  cases x with
  | element e =>
    obtain ⟨parent, name, p, s, -, found, row⟩ := standings_element h
    obtain ⟨above, live⟩ := found.live grown.tidy
    refine ⟨tidy, ?_, ?_⟩
    · have earlier : p.index < (b.store.arena.row Node.standing).length := by
        rw [length_row]
        exact index_lt_of_get? live
      have planted := grown.planted.append_family earlier ((name, e.kind, none) :: e.parts)
      rw [length_row] at planted
      exact row ▸ planted
    · have size := congrArg List.length row
      rw [List.length_append, List.length_map, length_family, List.length_cons, length_row,
        length_row, next, ← e.weight_eq] at size
      rw [nextId, size, room_concat]
      rfl
  | link l =>
    have row := standings_link h
    refine ⟨tidy, row ▸ grown.planted, ?_⟩
    rw [nextId, size_of_row row, next, room_concat]
    rfl

theorem grown (h : m.after options done = .ok b) :
    Grown (m.root.getD options.rootIdentifier) done b :=
  after_induction (P := Grown _) (fun _ => grown_begun) (fun _ _ _ _ => Grown.step) h

/-- Entries only add to the row. -/
theorem row_grows (h : Batch.all Entry.declare more b = (.ok (), b')) :
    b.store.arena.row Node.standing <+: b'.store.arena.row Node.standing := by
  let row (b : Batch) := b.store.arena.row Node.standing
  refine all_induction (R := fun b b' => row b <+: row b') (fun _ => List.prefix_rfl)
    (fun h h' => h.trans h') ?_ more b h
  rintro (e | l) b b' declared
  · obtain ⟨_, _, _, _, -, -, added⟩ := standings_element declared
    exact ⟨_, added.symm⟩
  · have same : row b' = row b := standings_link declared
    exact same ▸ List.prefix_rfl

theorem rootIdentifier_after {done' : List Entry} (h : m.after options done = .ok b)
    (h' : m.after options done' = .ok b') :
    b'.store.rootIdentifier = b.store.rootIdentifier :=
  Identifier.text_inj.mp
    ((grown h').tidy.upright.named.trans (grown h).tidy.upright.named.symm)

/-- **What stands somewhere stays there**, and so does its address. -/
theorem kept_after (h : m.after options done = .ok b)
    (rest : Batch.all Entry.declare more b = (.ok (), b'))
    (found : b.store.arena.get? id = some n) :
    ∃ n', b'.store.arena.get? id = some n' ∧ n'.standing = n.standing ∧ n'.address = n.address := by
  have later := after_append.mpr ⟨b, h, rest⟩
  have sound := (grown later).tidy.upright.sound
  rw [rootIdentifier_after h later] at sound
  obtain ⟨n', live, standing⟩ := get?_of_row (row_grows rest) found
  exact ⟨n', live, standing, address_of_grown (grown h).tidy.upright.sound sound
    (grown h).planted (row_grows rest) found live⟩

/-- The element `e`, declared when things stood as in `b`, is the node at `x`, and its parts are
those behind it. -/
structure Stands (b : Batch) (e : DeclaredElement) (x : NodeId) (a : Arena) : Prop where
  /-- It is of the declared kind, named by what follows the last slash, and below the node that the
  text before that slash led to, or below the root if there is none. -/
  node : ∃ n parent p, a.get? x = some n ∧ n.kind = e.kind ∧
    Text.dropEnd (· == Address.separator) (Text.trim e.address.toList) =
      parent.toList ++ Address.separator :: n.identifier.text.toList ∧
    Address.separator ∉ n.identifier.text.toList ∧
    n.parent = some p ∧ if parent = "" then p = .root else (b.store.resolve parent).1 = some p
  parts : ∀ i part, e.parts[i]? = some part →
    ∃ n, a.get? ⟨x.index + 1 + i⟩ = some n ∧ n.nature = part ∧ n.parent = some x

/-- **Every declared element stands at its place** from then on. -/
theorem element_stands (h : m.after options (done ++ .element e :: more) = .ok b') :
    ∃ b, m.after options done = .ok b ∧ Stands b e (room done) b'.store.arena := by
  obtain ⟨b, before, rest⟩ := after_append.mp h
  obtain ⟨u, b₁, declared, rest⟩ := Batch.andThen_ok.mp rest
  obtain ⟨parent, name, p, s, spelled, found, row⟩ := standings_element declared
  have next : (⟨b.store.arena.slots.size⟩ : NodeId) = room done := (grown before).next
  have behind : ∀ i seen, (family p (room done) ((name, e.kind, none) :: e.parts))[i]? = some seen →
      ∃ n, b'.store.arena.get? ⟨(room done).index + i⟩ = some n ∧ n.standing = seen := by
    intro i seen here
    have grows := row ▸ row_grows rest
    rw [(grown before).next] at grows
    rw [← next] at here ⊢
    exact get?_of_row_append (next ▸ grows) here
  refine ⟨b, before, ?_, ?_⟩
  · obtain ⟨n, live, standing⟩ := behind 0 _ rfl
    obtain ⟨nature, hangs⟩ := Prod.mk.inj standing
    obtain ⟨text, kind, -⟩ : n.identifier.text = name ∧ n.kind = e.kind ∧ n.attachment = none := by
      simpa [Node.nature] using nature
    obtain ⟨split, plain⟩ := Batch.declared_ok.mp spelled
    refine ⟨n, parent, p, live, kind, text ▸ split, text ▸ plain, hangs, ?_⟩
    cases found with
    | root => rw [if_pos rfl]
    | resolved some resolved => exact (if_neg some).mpr (congrArg Prod.fst resolved)
  · intro i part here
    obtain ⟨n, live, standing⟩ := behind (i + 1) (part, some (room done)) (by simp [family, here])
    obtain ⟨nature, hangs⟩ := Prod.mk.inj standing
    exact ⟨n, by rwa [Nat.add_assoc, Nat.add_comm 1], nature, hangs⟩

/-- Its address is from then on what it is in the end. -/
theorem address_stands {rest : List Entry}
    (h : m.after options (done ++ .element e :: more ++ rest) = .ok b') :
    ∃ b n n', m.after options (done ++ .element e :: more) = .ok b ∧
      b.store.arena.get? (room done) = some n ∧ b'.store.arena.get? (room done) = some n' ∧
      n'.address = n.address := by
  obtain ⟨b, stage, carried⟩ := after_append.mp h
  obtain ⟨_, -, ⟨n, _, _, live, -⟩, -⟩ := element_stands stage
  obtain ⟨n', live', -, address⟩ := kept_after stage carried live
  exact ⟨b, n, n', stage, live, live', address⟩

/-! ### Links -/

theorem allLinks_elements (elements : List DeclaredElement)
    (h : m.after options (elements.map .element) = .ok b) : b.store.arena.allLinks = [] := by
  induction elements using List.reverseRecOn generalizing b with
  | nil =>
    obtain ⟨root, -, new⟩ := begun_ok (after_nil ▸ h)
    rw [new]
    rfl
  | append_singleton elements e ih =>
    rw [List.map_append] at h
    obtain ⟨b₁, before, declared⟩ := after_concat.mp h
    exact (allLinks_element declared).trans (ih before)

/-- What has become of the links that follow the elements: `made` is one for each, in order. -/
def Links (m : Manifest) (options : Options) (elements : List DeclaredElement)
    (links : List DeclaredLink) (made : List Reference) : Prop :=
  made.length = links.length ∧ ∀ before l after, links = before ++ l :: after →
    ∃ b r, m.after options (elements.map .element ++ before.map .link) = .ok b ∧
      made[before.length]? = some r ∧ Joined b l r

/-- **The links of the tree are those that were declared.** -/
theorem links_made (elements : List DeclaredElement) (links : List DeclaredLink)
    (h : m.after options (elements.map .element ++ links.map .link) = .ok b) :
    ∃ made, b.store.arena.allLinks.Perm made ∧ Links m options elements links made := by
  induction links using List.reverseRecOn generalizing b with
  | nil =>
    rw [List.map_nil, List.append_nil] at h
    refine ⟨[], ?_, rfl, ?_⟩
    · rw [allLinks_elements elements h]
    · intro before l after split
      simp at split
  | append_singleton links l ih =>
    rw [List.map_append, ← List.append_assoc] at h
    obtain ⟨b₁, stage, declared⟩ := after_concat.mp h
    obtain ⟨made, perm, length, joined⟩ := ih stage
    obtain ⟨r, last, more⟩ := joined_of_link (grown stage).tidy declared
    refine ⟨made ++ [r], more.trans (perm.append_right [r]), by simp [length], ?_⟩
    intro before l' after split
    rcases List.eq_nil_or_concat' after with rfl | ⟨after, l'', rfl⟩
    · -- the link that is new
      obtain ⟨rfl, same⟩ := List.append_inj' split rfl
      cases same
      exact ⟨b₁, r, stage, by rw [← length, List.getElem?_concat_length], last⟩
    · rw [← List.cons_append, ← List.append_assoc] at split
      obtain ⟨rfl, -⟩ := List.append_inj' split rfl
      obtain ⟨b₀, r', stage₀, here, first⟩ := joined before l' after rfl
      refine ⟨b₀, r', stage₀, ?_, first⟩
      rw [List.getElem?_append_left (List.getElem?_eq_some_iff.mp here).1, here]

/-! ### The whole tree -/

/-- The entries before an element are the elements before it. -/
theorem entries_of_elements {before after : List DeclaredElement}
    (split : m.elements = before ++ e :: after) :
    m.entries = before.map .element ++
      .element e :: (after.map .element ++ m.links.map .link) := by
  rw [entries, split, List.map_append, List.map_cons, List.append_assoc, List.cons_append]

/-- The store `t` is the tree that the manifest describes. -/
structure Realized (m : Manifest) (options : Options) (t : Store) : Prop where
  /-- The root is named by the manifest, or else by the options. -/
  root : t.rootIdentifier.text = m.root.getD options.rootIdentifier ∧
    ∃ n, t.arena.get? .root = some n ∧ n.identifier = t.rootIdentifier
  verified : ∃ v, t.verify = (.ok v, t) ∧ v.success = true ∧ v.counts.detachedRoots = 0 ∧
    v.counts.nodes = extent m.elements ∧ v.counts.linkEdges = m.links.length
  /-- The places are taken in order, without gaps. -/
  ids : t.arena.liveIds = (List.range (extent m.elements)).map NodeId.mk
  attached : ∀ id ∈ t.arena.liveIds, t.arena.Attached id
  /-- Every element stands behind those before it, and has from then on the address it has. -/
  elements : ∀ before e after, m.elements = before ++ e :: after →
    let x : NodeId := ⟨extent before⟩
    (∃ b, m.after options (before.map .element) = .ok b ∧ Stands b e x t.arena) ∧
    ∀ done rest, m.entries = done ++ rest → before.length < done.length →
      ∃ b n n', m.after options done = .ok b ∧ b.store.arena.get? x = some n ∧
        t.arena.get? x = some n' ∧ n'.address = n.address
  links : ∃ made, (t.arena.snapshots.flatMap fun s => s.node.links).Perm made ∧
    Links m options m.elements m.links made

theorem realized_of_build (h : m.build options = .ok t) : m.Realized options t := by
  rw [build_eq] at h
  obtain ⟨b, carried, rfl⟩ := Request.outcome_ok.mp h
  have sound := (grown carried).tidy.upright.sound
  have planted := (grown carried).planted
  have size : b.store.arena.slots.size = extent m.elements := by
    have next := (grown carried).next
    rw [entries, room_links, room_elements] at next
    exact congrArg NodeId.index next
  have ids := liveIds_of_planted planted
  obtain ⟨made, perm, joined⟩ := links_made m.elements m.links carried
  obtain ⟨n, found, named, -⟩ := sound.addressed.root
  refine ⟨⟨(grown carried).tidy.upright.named, n, found, named⟩, ?_, size ▸ ids, ?_, ?_,
    made, perm, joined⟩
  · refine ⟨_, Store.verify_of_unlocked rfl, verdict_success_iff.mpr sound.intact,
      detachedRoots_of_planted sound planted, ?_, ?_⟩
    · refine (nodes_census _).trans ((congrArg List.length ids).trans ?_)
      rw [List.length_map, List.length_range, size]
    · exact (length_allLinks _).symm.trans (perm.length_eq.trans joined.1)
  · intro id mem
    obtain ⟨n, found⟩ := mem_liveIds_iff.mp mem
    exact attached_of_planted sound planted found
  · intro before e after split x
    have place : room (before.map .element) = x := room_elements before
    have ordered := entries_of_elements split
    refine ⟨?_, fun done rest split' longer => ?_⟩
    · rw [ordered] at carried
      exact place ▸ element_stands carried
    · rw [split'] at carried
      rcases List.append_eq_append_iff.mp (ordered.symm.trans split') with
        ⟨more, rfl, tail⟩ | ⟨more, shorter, -⟩
      · cases more with
        | nil => simp at longer
        | cons first more =>
          obtain ⟨rfl, -⟩ := List.cons.inj tail
          exact place ▸ address_stands carried
      · have length := congrArg List.length shorter
        rw [List.length_map, List.length_append] at length
        omega

end Manifest

/-- **A manifest is built as it is declared.**  In a tree that was built of one, the elements stand
in order, each with its declared kind and the name after the last slash of its trimmed address,
below the node to which the text before that slash led when its turn came; nothing that came later
has changed its address.  There is one link for each that was declared, made once all elements and
the links before it were there.  The tree verifies, and there is nothing in it besides.  No tree is
built if the name of the root is none, or if an entry is refused; then the first that is refused
says why. -/
theorem manifest_realized (m : Manifest) (options : Options) :
    (∀ t, m.build options = .ok t → m.Realized options t) ∧
    ∀ e, m.build options = .error e ↔
      readName (m.root.getD options.rootIdentifier) = .error e ∨
      ∃ before x after b, m.entries = before ++ x :: after ∧ m.after options before = .ok b ∧
        (x.declare b).1 = .error e :=
  ⟨fun _ => Manifest.realized_of_build, fun _ => Manifest.build_error_iff⟩

/-- A bay with a fan in it, to which a bus leads, and by way of the bus the root. -/
def Manifest.bay : Manifest :=
  { root := some "hub"
    elements :=
      [⟨"/bay", .group, false⟩, ⟨" /bay//fan/ ", .data, true⟩, ⟨"/bus", .group, false⟩]
    links := [⟨"/bus", "/bay/fan", none⟩, ⟨"/", "/bus/fan", some "via"⟩] }

theorem manifest_realized_bay :
    ∃ t, Manifest.bay.build .standard = .ok t ∧ Manifest.bay.Realized .standard t := by
  obtain ⟨t, built⟩ : ∃ t, Manifest.bay.build .standard = .ok t :=
    Request.exists_ok_of_isSome (of_decide_eq_true (by cbv))
  exact ⟨t, built, (manifest_realized Manifest.bay .standard).1 t built⟩

end DeviceTree
