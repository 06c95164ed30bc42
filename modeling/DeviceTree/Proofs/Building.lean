/-
Manifests, entry by entry.

A manifest is a row of entries, first its elements and then its links.  Each of them is carried out
on what those before it have left (`Manifest.after`); a tree comes of it if all of them are granted,
and otherwise the first that is refused says why.

* `Manifest.after_concat` -- one entry more;
* `declareElement_ok`, `declareLink_ok` -- what an entry has done that was granted;
* `Manifest.build_eq`, `Manifest.build_error_iff` -- what comes of the whole.
-/
import DeviceTree.Manifest
import DeviceTree.Proofs.Places
import DeviceTree.Proofs.Segments

namespace DeviceTree

namespace Store

variable {s t : Store} {address : String} {id : NodeId}

/-- The text leads to a node, the empty one to the root; `t` is what the look-up leaves. -/
inductive Finds (s : Store) : String → NodeId → Store → Prop where
  | root : Finds s "" .root s
  | resolved {address : String} {id : NodeId} {t : Store} : address ≠ "" →
      s.resolve address = (some id, t) → Finds s address id t

theorem Finds.keeps {P : Store → Prop} (inv : Invariant P) (found : s.Finds address id t)
    (h : P s) : P t := by
  cases found with
  | root => exact h
  | resolved _ resolved =>
    have kept := inv.resolve h address
    rwa [resolved] at kept

theorem Finds.arena (found : s.Finds address id t) : t.arena = s.arena := by
  cases found with
  | root => rfl
  | resolved _ resolved =>
    have same := s.arena_resolve address
    rwa [resolved] at same

/-- **What new nodes and child edges keep, the creation of a declared element keeps.** -/
theorem creation_induction {R : Arena → Arena → Prop} (trans : ∀ {a b c}, R a b → R b c → R a c)
    (push : ∀ a n, n.forward = [] → R a (a.push n))
    (attach : ∀ (a : Arena) parent child name, R a (a.attach parent child name))
    {p : NodeId} {name : String} {e : DeclaredElement} {c : Change Answer}
    (h : (Manifest.Batch.creation p name e).apply s = .ok c t) : R s.arena t.arena := by
  obtain ⟨address, kind, writable⟩ := e
  cases kind <;> obtain ⟨c', granted, -⟩ := Request.map_ok.mp h
  case data =>
    obtain ⟨name, above, -, -, -, rfl⟩ := createData_ok.mp granted
    have parts : ∀ (parts : List (Identifier × ElementKind × Option String)) (u : Store),
        R s.arena u.arena → R s.arena (parts.foldl (createPart s.arena.nextId) u).arena := by
      intro parts
      induction parts with
      | nil => exact fun _ kept => kept
      | cons part parts ih =>
        exact fun u kept => ih _ (trans kept (trans (push u.arena _ rfl) (attach _ _ _ _)))
    exact trans (parts _ (s.insert _) (push s.arena _ rfl)) (attach _ p s.arena.nextId name)
  all_goals
    obtain ⟨name, above, -, -, -, rfl⟩ := create_ok.mp granted
    exact trans (push s.arena _ rfl) (attach _ p s.arena.nextId name)

end Store

namespace Manifest

namespace Batch

variable {α β : Type} {b b' : Batch}

theorem andThen_ok {r : Except Error α × Batch} {next : α → Batch → Except Error β × Batch}
    {c : β} : andThen r next = (.ok c, b') ↔ ∃ a b, r = (.ok a, b) ∧ next a b = (.ok c, b') := by
  obtain ⟨outcome, b⟩ := r
  cases outcome <;> simp [andThen]

theorem locate_ok {address : String} {id : NodeId} (h : b.locate address = (.ok id, b')) :
    b.store.resolve address = (some id, b'.store) := by
  rcases resolved : b.store.resolve address with ⟨found, s⟩
  simp only [locate, resolved] at h
  cases found <;> cases h
  rfl

theorem locateParent_ok {parent : String} {id : NodeId}
    (h : b.locateParent parent = (.ok id, b')) : b.store.Finds parent id b'.store := by
  unfold locateParent at h
  split at h
  · next empty =>
    cases h
    rw [String.isEmpty_iff.mp empty]
    exact .root
  · next some => exact .resolved (fun empty => some (empty ▸ rfl)) (locate_ok h)

theorem perform_ok {m : Mutation} {u : Unit} (h : b.perform m = (.ok u, b')) :
    ∃ c, m.apply b.store = .ok c b'.store := by
  have outcome : (b.tx.perform m b.store).1.map (fun _ => ()) = .ok u := congrArg Prod.fst h
  have left : (b.tx.perform m b.store).2.2 = b'.store := congrArg (fun r => r.2.store) h
  rcases b.tx.perform_apply b.store m with ⟨c, t, granted, -, rfl⟩ | ⟨e, refused, -⟩
  · exact ⟨c, left ▸ granted⟩
  · rw [refused] at outcome
    cases outcome

/-- The parent of a declared element and its name are what the last slash parts. -/
theorem declared_ok {address parent name : String} :
    declared address = .ok (parent, name) ↔
      Text.dropEnd (· == Address.separator) (Text.trim address.toList) =
        parent.toList ++ Address.separator :: name.toList ∧ Address.separator ∉ name.toList := by
  unfold declared
  dsimp only
  rw [← Address.splitLast_eq_some_iff]
  cases Address.splitLast (Text.dropEnd (· == Address.separator) (Text.trim address.toList)) with
  | none => simp
  | some parts =>
    obtain ⟨before, last⟩ := parts
    simp only [Except.ok.injEq, Prod.mk.injEq, Option.some.injEq]
    constructor
    · rintro ⟨rfl, rfl⟩
      exact ⟨(String.toList_ofList).symm, (String.toList_ofList).symm⟩
    · rintro ⟨rfl, rfl⟩
      exact ⟨String.ofList_toList, String.ofList_toList⟩

/-- **A declared element is created where its parent is found.** -/
theorem declareElement_ok {e : DeclaredElement} {u : Unit}
    (h : declareElement e b = (.ok u, b')) :
    ∃ parent name p s c, declared e.address = .ok (parent, name) ∧ b.store.Finds parent p s ∧
      (creation p name e).apply s = .ok c b'.store := by
  unfold declareElement at h
  split at h
  · cases h
  · next parent name declared =>
    obtain ⟨p, b₁, located, performed⟩ := andThen_ok.mp h
    obtain ⟨c, applied⟩ := perform_ok performed
    exact ⟨parent, name, p, b₁.store, c, declared, locateParent_ok located, applied⟩

/-- **A declared link is made between what its addresses lead to.** -/
theorem declareLink_ok {l : DeclaredLink} {u : Unit} (h : declareLink l b = (.ok u, b')) :
    ∃ source target s s' c, b.store.resolve l.source = (some source, s) ∧
      s.resolve l.target = (some target, s') ∧
      (Mutation.link source target l.identifier).apply s' = .ok c b'.store := by
  obtain ⟨source, b₁, first, h⟩ := andThen_ok.mp h
  obtain ⟨target, b₂, second, h⟩ := andThen_ok.mp h
  obtain ⟨c, applied⟩ := perform_ok h
  exact ⟨source, target, b₁.store, b₂.store, c, locate_ok first, locate_ok second, applied⟩

theorem all_append {step : α → Batch → Except Error Unit × Batch} (xs ys : List α) :
    ∀ b, all step (xs ++ ys) b = andThen (all step xs b) fun _ b => all step ys b := by
  induction xs with
  | nil => exact fun _ => rfl
  | cons x xs ih =>
    intro b
    rw [List.cons_append, all, all]
    rcases step x b with ⟨e | u, b₁⟩
    · rfl
    · exact ih b₁

theorem all_map {step : β → Batch → Except Error Unit × Batch} (f : α → β) (xs : List α) :
    ∀ b, all step (xs.map f) b = all (fun x => step (f x)) xs b := by
  induction xs with
  | nil => exact fun _ => rfl
  | cons x xs ih =>
    intro b
    rw [List.map_cons, all, all]
    exact congrArg _ (funext fun _ => funext fun b => ih b)

/-- **The first step that is refused says why.** -/
theorem all_error_iff {step : α → Batch → Except Error Unit × Batch} {e : Error} (xs : List α) :
    ∀ b, (all step xs b).1 = .error e ↔
      ∃ before x after b', xs = before ++ x :: after ∧ all step before b = (.ok (), b') ∧
        (step x b').1 = .error e := by
  induction xs with
  | nil => simp [all]
  | cons x xs ih =>
    intro b
    rw [all]
    rcases stepped : step x b with ⟨e' | u, b₁⟩
    · constructor
      · intro h
        exact ⟨[], x, xs, b, rfl, rfl, (congrArg Prod.fst stepped).trans h⟩
      · rintro ⟨before, y, after, b', split, done, refused⟩
        cases before with
        | nil =>
          obtain ⟨rfl, -⟩ := List.cons.inj split
          cases done
          rw [stepped] at refused
          exact refused
        | cons z before =>
          obtain ⟨rfl, -⟩ := List.cons.inj split
          rw [all, stepped] at done
          cases done
    · refine (ih b₁).trans ⟨?_, ?_⟩
      · rintro ⟨before, y, after, b', rfl, done, refused⟩
        exact ⟨x :: before, y, after, b', rfl, by rw [all, stepped]; exact done, refused⟩
      · rintro ⟨before, y, after, b', split, done, refused⟩
        cases before with
        | nil =>
          obtain ⟨rfl, -⟩ := List.cons.inj split
          cases done
          rw [stepped] at refused
          cases refused
        | cons z before =>
          obtain ⟨rfl, rfl⟩ := List.cons.inj split
          rw [all, stepped] at done
          exact ⟨before, y, after, b', rfl, done, refused⟩

end Batch

/-! ### Entries -/

/-- An entry of a manifest. -/
inductive Entry where
  | element (e : DeclaredElement)
  | link (l : DeclaredLink)

/-- Carries out an entry. -/
def Entry.declare : Entry → Batch → Except Error Unit × Batch
  | element e => Batch.declareElement e
  | link l => Batch.declareLink l

/-- What a manifest says, in the order in which it is carried out. -/
def entries (m : Manifest) : List Entry :=
  m.elements.map .element ++ m.links.map .link

/-- The transaction in which a manifest is carried out on a new tree. -/
def begun (m : Manifest) (options : Options) : Except Error Batch :=
  (Store.ofOptions (m.optionsFor options)).map fun s => ⟨.fresh, s.beginWrite.2⟩

/-- How things stand once the entries are carried out. -/
def after (m : Manifest) (options : Options) (done : List Entry) : Except Error Batch := do
  let (outcome, b) := Batch.all Entry.declare done (← m.begun options)
  outcome
  return b

variable {m : Manifest} {options : Options} {done more : List Entry} {x : Entry} {b b' : Batch}
  {e : Error}

theorem after_eq {b₀ : Batch} (begun : m.begun options = .ok b₀) (done : List Entry) :
    m.after options done =
      (Batch.all Entry.declare done b₀).1.map fun _ => (Batch.all Entry.declare done b₀).2 := by
  unfold after
  rw [begun]
  show (do
    let (outcome, b) := Batch.all Entry.declare done b₀
    outcome
    return b : Except Error Batch) = _
  rcases Batch.all Entry.declare done b₀ with ⟨e | u, b⟩ <;> rfl

theorem after_ok_iff :
    m.after options done = .ok b ↔
      ∃ b₀, m.begun options = .ok b₀ ∧ Batch.all Entry.declare done b₀ = (.ok (), b) := by
  cases begun : m.begun options with
  | error e =>
    have refused : m.after options done = .error e := by
      unfold after
      rw [begun]
      rfl
    simp [refused]
  | ok b₀ =>
    rw [after_eq begun]
    constructor
    · intro h
      obtain ⟨u, granted, rfl⟩ := Request.outcome_ok.mp h
      exact ⟨b₀, rfl, Prod.ext granted rfl⟩
    · rintro ⟨_, same, granted⟩
      cases same
      rw [granted]
      rfl

theorem after_nil : m.after options [] = m.begun options := by
  cases begun : m.begun options with
  | error e =>
    unfold after
    rw [begun]
    rfl
  | ok b => exact after_ok_iff.mpr ⟨b, begun, rfl⟩

/-- What comes after some entries comes of what they have left. -/
theorem after_append :
    m.after options (done ++ more) = .ok b' ↔
      ∃ b, m.after options done = .ok b ∧ Batch.all Entry.declare more b = (.ok (), b') := by
  simp only [after_ok_iff, Batch.all_append, Batch.andThen_ok]
  constructor
  · rintro ⟨b₀, begun, _, b, before, rest⟩
    exact ⟨b, ⟨b₀, begun, before⟩, rest⟩
  · rintro ⟨b, ⟨b₀, begun, before⟩, rest⟩
    exact ⟨b₀, begun, (), b, before, rest⟩

theorem after_concat :
    m.after options (done ++ [x]) = .ok b' ↔
      ∃ b, m.after options done = .ok b ∧ x.declare b = (.ok (), b') := by
  have single : ∀ b, Batch.all Entry.declare [x] b = x.declare b := by
    intro b
    rw [Batch.all]
    rcases x.declare b with ⟨e | u, b₁⟩ <;> rfl
  simp only [after_append, single]

/-- What holds at the start and is kept by every entry holds after any of them. -/
theorem after_induction {P : List Entry → Batch → Prop}
    (start : ∀ b, m.begun options = .ok b → P [] b)
    (step : ∀ done x b b', P done b → x.declare b = (.ok (), b') → P (done ++ [x]) b') :
    m.after options done = .ok b → P done b := by
  induction done using List.reverseRecOn generalizing b with
  | nil =>
    intro h
    exact start b (after_nil ▸ h)
  | append_singleton done x ih =>
    intro h
    obtain ⟨b₁, before, declared⟩ := after_concat.mp h
    exact step done x b₁ b (ih before) declared

/-- What every entry leaves behind, entries that follow leave behind as well. -/
theorem all_induction {R : Batch → Batch → Prop} (refl : ∀ b, R b b)
    (trans : ∀ {b b' b''}, R b b' → R b' b'' → R b b'')
    (step : ∀ (x : Entry) (b b' : Batch), x.declare b = (.ok (), b') → R b b') (more : List Entry) :
    ∀ b : Batch, Batch.all Entry.declare more b = (.ok (), b') → R b b' := by
  induction more with
  | nil =>
    intro b h
    cases h
    exact refl _
  | cons x more ih =>
    intro b h
    obtain ⟨u, b₁, first, rest⟩ := Batch.andThen_ok.mp h
    exact trans (step x b b₁ first) (ih b₁ rest)

/-! ### Building -/

theorem apply_eq (m : Manifest) (b : Batch) : m.apply b = Batch.all Entry.declare m.entries b := by
  have links : ∀ b, Batch.all Entry.declare (m.links.map .link) b =
      Batch.all Batch.declareLink m.links b := Batch.all_map Entry.link m.links
  unfold apply entries
  rw [Batch.all_append, Batch.all_map, funext links]
  rfl

/-- **A tree is built by carrying out all entries**, one after the other. -/
theorem build_eq (m : Manifest) (options : Options) :
    m.build options = (m.after options m.entries).map fun b => b.store.endWrite := by
  unfold build after begun
  cases new : Store.ofOptions (m.optionsFor options) with
  | error e => rfl
  | ok s =>
    -- the lock of a new tree is free
    have free : s.beginWrite.1 = .ok () := by
      unfold Store.ofOptions at new
      obtain ⟨root, -, rfl⟩ := Request.outcome_ok.mp new
      rfl
    rcases locked : s.beginWrite with ⟨outcome, s'⟩
    rw [locked] at free
    obtain rfl : outcome = .ok () := free
    simp only [bind, Except.bind, Except.map, locked, m.apply_eq]
    rcases Batch.all Entry.declare m.entries ⟨.fresh, s'⟩ with ⟨e | u, b⟩ <;> rfl

/-- **The first entry that is refused says why** no tree can be built, unless the name of the root
is none. -/
theorem build_error_iff :
    m.build options = .error e ↔
      readName (m.root.getD options.rootIdentifier) = .error e ∨
      ∃ before x after b, m.entries = before ++ x :: after ∧ m.after options before = .ok b ∧
        (x.declare b).1 = .error e := by
  rw [build_eq]
  cases named : readName (m.root.getD options.rootIdentifier) with
  | error e' =>
    have begun : m.begun options = .error e' := by
      unfold begun Store.ofOptions optionsFor
      rw [named]
      rfl
    have never : ∀ done, m.after options done = .error e' := by
      intro done
      unfold after
      rw [begun]
      rfl
    simp [never, Except.map]
  | ok root =>
    obtain ⟨b₀, begun⟩ : ∃ b₀, m.begun options = .ok b₀ := by
      unfold Manifest.begun Store.ofOptions optionsFor
      rw [named]
      exact ⟨_, rfl⟩
    have start : ∀ {done b}, m.after options done = .ok b ↔
        Batch.all Entry.declare done b₀ = (.ok (), b) := by
      intro done b
      simp [after_ok_iff, begun]
    have refused : ((m.after options m.entries).map fun b => b.store.endWrite) = .error e ↔
        (Batch.all Entry.declare m.entries b₀).1 = .error e := by
      rw [after_eq begun]
      rcases Batch.all Entry.declare m.entries b₀ with ⟨e | u, b⟩ <;> simp [Except.map]
    rw [refused, Batch.all_error_iff]
    simp only [start, reduceCtorEq, false_or]

end Manifest

end DeviceTree
