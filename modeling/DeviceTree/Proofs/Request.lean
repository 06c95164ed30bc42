/-
What a granted request has done.

A request is a row of checks and effects.  The lemmas of the first part take such a row apart, one
step at a time; from them each request gets one lemma that says under which conditions it was
granted and which store it has left:

* `create_ok`, `createData_ok` -- elements;
* `add_ok`, `remove_ok` -- child edges;
* `link_ok`, `unlink_ok` -- links;
* `discard_ok` -- detached subtrees.
-/
import DeviceTree.Mutation

namespace DeviceTree

namespace Request

variable {α β : Type} {s t u : Store}

theorem bind_ok {p : Request α} {f : α → Request β} {b : β} :
    (p >>= f) s = .ok b u ↔ ∃ a t, p s = .ok a t ∧ f a t = .ok b u := by
  show EStateM.bind p f s = _ ↔ _
  unfold EStateM.bind
  cases h : p s with
  | ok a t =>
    constructor
    · intro g
      exact ⟨a, t, rfl, g⟩
    · rintro ⟨a', t', same, g⟩
      cases same
      exact g
  | error e t => simp

@[simp] theorem pure_ok {a b : α} : (pure a : Request α) s = .ok b t ↔ b = a ∧ t = s := by
  show EStateM.Result.ok a s = _ ↔ _
  simp [eq_comm]

@[simp] theorem get_ok {a : Store} : (get : Request Store) s = .ok a t ↔ a = s ∧ t = s := by
  show EStateM.Result.ok s s = _ ↔ _
  simp [eq_comm]

@[simp] theorem modify_ok {f : Store → Store} {a : Unit} :
    (modify f : Request Unit) s = .ok a t ↔ t = f s := by
  show EStateM.Result.ok () (f s) = _ ↔ _
  simp [eq_comm]

@[simp] theorem lift_ok {r : Except Error α} {a : α} :
    (liftM r : Request α) s = .ok a t ↔ r = .ok a ∧ t = s := by
  cases r with
  | ok b =>
    show EStateM.Result.ok b s = _ ↔ _
    simp [eq_comm]
  | error e =>
    show EStateM.Result.error e s = _ ↔ _
    simp

theorem outcome_ok {r : Except Error α} {f : α → β} {b : β} :
    r.map f = .ok b ↔ ∃ a, r = .ok a ∧ b = f a := by
  cases r <;> simp [Except.map, eq_comm]

theorem toOption_eq_some {r : Except Error α} {a : α} : r.toOption = some a ↔ r = .ok a := by
  cases r <;> simp [Except.toOption]

theorem exists_ok_of_isSome {r : Except Error α} (h : r.toOption.isSome = true) :
    ∃ a, r = .ok a := by
  obtain ⟨a, some⟩ := Option.isSome_iff_exists.mp h
  exact ⟨a, toOption_eq_some.mp some⟩

theorem map_ok {p : Request α} {f : α → β} {b : β} :
    (f <$> p) s = .ok b t ↔ ∃ a, p s = .ok a t ∧ b = f a := by
  show EStateM.map f p s = _ ↔ _
  unfold EStateM.map
  cases h : p s with
  | ok a t =>
    constructor
    · intro g
      cases g
      exact ⟨a, rfl, rfl⟩
    · rintro ⟨a', same, rfl⟩
      cases same
      rfl
  | error e t => simp

end Request

namespace Store

open Request

variable {s t : Store} {name : Identifier}

/-! ### Checks -/

theorem refuseIf_ok {condition : Prop} [Decidable condition] {e : Error} {a : Unit} :
    refuseIf condition e = .ok a ↔ ¬condition := by
  unfold refuseIf
  split <;> simp_all

theorem refuseAny_ok {α : Type} {found : Option α} {e : α → Error} {a : Unit} :
    refuseAny found e = .ok a ↔ found = none := by
  cases found <;> simp [refuseAny]

theorem readName_ok {raw : String} : readName raw = .ok name ↔ name.text = raw := by
  unfold readName
  constructor
  · intro h
    cases g : Identifier.ofString raw with
    | ok i =>
      rw [g] at h
      exact Except.ok.inj h ▸ Identifier.text_of_ofString g
    | error e =>
      rw [g] at h
      cases h
  · rintro rfl
    rw [Identifier.ofString_text]
    rfl

@[simp] theorem fetch_ok {id : NodeId} {n : Node} :
    fetch id s = .ok n t ↔ s.arena.get? id = some n ∧ t = s := by
  simp only [fetch, bind_ok, get_ok, lift_ok, Arena.fetch]
  constructor
  · rintro ⟨_, _, ⟨rfl, rfl⟩, h, rfl⟩
    cases g : t.arena.get? id <;> simp_all
  · rintro ⟨h, rfl⟩
    exact ⟨t, t, ⟨rfl, rfl⟩, by simp [h], rfl⟩

@[simp] theorem place_ok {node : Node} {id : NodeId} :
    place node s = .ok id t ↔ id = s.arena.nextId ∧ t = s.insert node := by
  simp only [place, bind_ok, get_ok, modify_ok, pure_ok]
  constructor
  · rintro ⟨_, _, ⟨rfl, rfl⟩, _, _, rfl, rfl, rfl⟩
    exact ⟨rfl, rfl⟩
  · rintro ⟨rfl, rfl⟩
    exact ⟨s, s, ⟨rfl, rfl⟩, (), _, rfl, rfl, rfl⟩

theorem requireChild_ok {holder : Node} {child : NodeId} :
    requireChild holder child = .ok name ↔
      ∃ r, holder.toward? child = some r ∧ r.isChild = true ∧ name = r.identifier := by
  unfold requireChild
  cases h : holder.toward? child with
  | none => simp
  | some r =>
    cases g : r.isChild with
    | true => simp [Option.filter_some, g, eq_comm (a := name)]
    | false => simp [Option.filter_some, g]

theorem requireLink_ok {holder : Node} {selector : LinkChoice} {r : Reference} :
    requireLink holder selector = .ok r ↔ select holder selector = some r ∧ r.isLink = true := by
  unfold requireLink
  cases h : select holder selector with
  | none => simp
  | some r' =>
    cases g : r'.isLink with
    | true =>
      simp only [Option.filter_some, g, if_true, Except.ok.injEq, Option.some.injEq]
      exact ⟨fun e => ⟨e, e ▸ g⟩, And.left⟩
    | false =>
      simp only [Option.filter_some, g, Bool.false_eq_true, if_false, reduceCtorEq,
        Option.some.injEq, false_iff, not_and]
      rintro rfl
      simp [g]

/-- The node under which a new element goes, if any, leaves the name free. -/
def FreeUnder (s : Store) (parent : Option NodeId) (name : Identifier) (above : Option Node) :
    Prop :=
  match parent with
  | none => above = none
  | some id => ∃ node, s.arena.get? id = some node ∧ node.named? name.text = none ∧
      above = some node

theorem requireParent_ok {parent : Option NodeId} {above : Option Node} :
    requireParent parent name s = .ok above t ↔ s.FreeUnder parent name above ∧ t = s := by
  cases parent with
  | none => simp [requireParent, FreeUnder]
  | some id =>
    simp only [requireParent, FreeUnder, bind_ok, fetch_ok, lift_ok, pure_ok, requireFreeName,
      refuseAny_ok]
    constructor
    · rintro ⟨node, _, ⟨found, rfl⟩, _, _, ⟨free, rfl⟩, rfl, rfl⟩
      exact ⟨⟨node, found, free, rfl⟩, rfl⟩
    · rintro ⟨⟨node, found, free, rfl⟩, rfl⟩
      exact ⟨node, t, ⟨found, rfl⟩, (), t, ⟨free, rfl⟩, rfl, rfl⟩

/-! ### Requests -/

/-- The store once a new element is under its parent, if it has one. -/
def settled (s : Store) (parent : Option NodeId) (id : NodeId) (name : Identifier) : Store :=
  match parent with
  | none => s
  | some parent => (s.makeChild parent id name).invalidate

/-- The event of a new element. -/
def settledEvent (parent : Option NodeId) (id : NodeId) (name : Identifier) : Option Event :=
  parent.map fun parent => .edge .childAdded parent id name

theorem settle_ok {parent : Option NodeId} {id : NodeId} {c : Change NodeId} :
    settle parent id name s = .ok c t ↔
      c = ⟨id, settledEvent parent id name⟩ ∧ t = s.settled parent id name := by
  cases parent with
  | none => simp [settle, settled, settledEvent]
  | some parent =>
    simp only [settle, settled, settledEvent, bind_ok, modify_ok, pure_ok, Option.map_some]
    constructor
    · rintro ⟨_, _, rfl, rfl, rfl⟩
      exact ⟨rfl, rfl⟩
    · rintro ⟨rfl, rfl⟩
      exact ⟨(), _, rfl, rfl, rfl⟩

theorem create_ok {parent : Option NodeId} {identifier : String} {kind : ElementKind}
    {attachment : Option String} {c : Change NodeId} :
    create parent identifier kind attachment s = .ok c t ↔
      ∃ name above, name.text = identifier ∧ s.FreeUnder parent name above ∧
        c = ⟨s.arena.nextId, settledEvent parent s.arena.nextId name⟩ ∧
        t = (s.insert (.fresh name kind attachment (newAddress above name))).settled parent
          s.arena.nextId name := by
  simp only [create, bind_ok, lift_ok, readName_ok, requireParent_ok, place_ok, settle_ok]
  constructor
  · rintro ⟨name, _, ⟨spelled, rfl⟩, above, _, ⟨free, rfl⟩, _, _, ⟨rfl, rfl⟩, rfl, rfl⟩
    exact ⟨name, above, spelled, free, rfl, rfl⟩
  · rintro ⟨name, above, spelled, free, rfl, rfl⟩
    exact ⟨name, s, ⟨spelled, rfl⟩, above, s, ⟨free, rfl⟩, _, _, ⟨rfl, rfl⟩, rfl, rfl⟩

theorem createData_ok {parent : Option NodeId} {identifier : String} {options : DataOptions}
    {c : Change NodeId} :
    createData parent identifier options s = .ok c t ↔
      ∃ name above, name.text = identifier ∧ s.FreeUnder parent name above ∧
        c = ⟨s.arena.nextId, settledEvent parent s.arena.nextId name⟩ ∧
        t = (options.parts.foldl (createPart s.arena.nextId)
          (s.insert (.fresh name .data options.storage (newAddress above name)))).settled parent
            s.arena.nextId name := by
  simp only [createData, bind_ok, lift_ok, readName_ok, requireParent_ok, place_ok, modify_ok,
    settle_ok]
  constructor
  · rintro ⟨name, _, ⟨spelled, rfl⟩, above, _, ⟨free, rfl⟩, _, _, ⟨rfl, rfl⟩, _, _, rfl, rfl, rfl⟩
    exact ⟨name, above, spelled, free, rfl, rfl⟩
  · rintro ⟨name, above, spelled, free, rfl, rfl⟩
    exact ⟨name, s, ⟨spelled, rfl⟩, above, s, ⟨free, rfl⟩, _, _, ⟨rfl, rfl⟩, (), _, rfl, rfl,
      rfl⟩

theorem add_ok {parent child : NodeId} {c : Change Unit} :
    add parent child s = .ok c t ↔
      ∃ above below, s.arena.get? parent = some above ∧ s.arena.get? child = some below ∧
        above.toward? child = none ∧ above.named? below.identifier.text = none ∧
        child ≠ .root ∧ below.parent = none ∧ s.arena.leadsTo child parent = false ∧
        c = ⟨(), some (.edge .childAdded parent child below.identifier)⟩ ∧
        t = (s.makeChild parent child below.identifier).invalidate := by
  simp only [add, bind_ok, fetch_ok, lift_ok, get_ok, modify_ok, pure_ok, requireUnreferenced,
    requireFreeName, refuseAny_ok, refuseIf_ok, Bool.not_eq_true]
  constructor
  · rintro ⟨above, _, ⟨hp, rfl⟩, below, _, ⟨hc, rfl⟩, _, _, ⟨apart, rfl⟩, _, _, ⟨free, rfl⟩,
      _, _, ⟨notRoot, rfl⟩, _, _, ⟨orphan, rfl⟩, _, _, ⟨rfl, rfl⟩, _, _, ⟨acyclic, rfl⟩, _, _,
      rfl, rfl, rfl⟩
    exact ⟨above, below, hp, hc, apart, free, notRoot, orphan, acyclic, rfl, rfl⟩
  · rintro ⟨above, below, hp, hc, apart, free, notRoot, orphan, acyclic, rfl, rfl⟩
    exact ⟨above, s, ⟨hp, rfl⟩, below, s, ⟨hc, rfl⟩, (), s, ⟨apart, rfl⟩, (), s, ⟨free, rfl⟩,
      (), s, ⟨notRoot, rfl⟩, (), s, ⟨orphan, rfl⟩, s, s, ⟨rfl, rfl⟩, (), s, ⟨acyclic, rfl⟩, (),
      _, rfl, rfl, rfl⟩

theorem remove_ok {parent child : NodeId} {c : Change Unit} :
    remove parent child s = .ok c t ↔
      ∃ above below r, s.arena.get? parent = some above ∧ s.arena.get? child = some below ∧
        above.toward? child = some r ∧ r.isChild = true ∧
        s.arena.firstLinked (s.arena.subtree child) = none ∧
        c = ⟨(), some (.edge .childRemoved parent child r.identifier)⟩ ∧
        t = (s.unmakeChild parent child).invalidate := by
  simp only [remove, bind_ok, fetch_ok, lift_ok, get_ok, modify_ok, pure_ok, requireChild_ok,
    refuseAny_ok]
  constructor
  · rintro ⟨above, _, ⟨hp, rfl⟩, below, _, ⟨hc, rfl⟩, _, _, ⟨⟨r, found, owned, rfl⟩, rfl⟩,
      _, _, ⟨rfl, rfl⟩, _, _, ⟨unlinked, rfl⟩, _, _, rfl, rfl, rfl⟩
    exact ⟨above, below, r, hp, hc, found, owned, unlinked, rfl, rfl⟩
  · rintro ⟨above, below, r, hp, hc, found, owned, unlinked, rfl, rfl⟩
    exact ⟨above, s, ⟨hp, rfl⟩, below, s, ⟨hc, rfl⟩, _, s, ⟨⟨r, found, owned, rfl⟩, rfl⟩, s, s,
      ⟨rfl, rfl⟩, (), s, ⟨unlinked, rfl⟩, (), _, rfl, rfl, rfl⟩

/-- A link has the name that was asked for, or else that of its target. -/
theorem linkName_ok {identifier : Option String} {aim : Node} {name : Identifier}
    (h : linkName identifier aim = .ok name) : name.text = identifier.getD aim.identifier.text := by
  cases identifier with
  | none => cases h; rfl
  | some raw => exact readName_ok.mp h

theorem link_ok {source target : NodeId} {identifier : Option String} {c : Change Unit} :
    link source target identifier s = .ok c t ↔
      ∃ holder aim name, s.arena.get? source = some holder ∧ s.arena.get? target = some aim ∧
        linkName identifier aim = .ok name ∧ holder.toward? target = none ∧
        holder.named? name.text = none ∧ source ≠ target ∧
        s.arena.leadsTo target source = false ∧
        c = ⟨(), some (.edge .linkAdded source target name)⟩ ∧
        t = (s.makeLink source target name).invalidate := by
  simp only [link, bind_ok, fetch_ok, lift_ok, get_ok, modify_ok, pure_ok, requireUnreferenced,
    requireFreeName, refuseAny_ok, refuseIf_ok, Bool.not_eq_true]
  constructor
  · rintro ⟨holder, _, ⟨hs, rfl⟩, aim, _, ⟨ht, rfl⟩, name, _, ⟨named, rfl⟩, _, _, ⟨apart, rfl⟩,
      _, _, ⟨free, rfl⟩, _, _, ⟨differ, rfl⟩, _, _, ⟨rfl, rfl⟩, _, _, ⟨acyclic, rfl⟩, _, _, rfl,
      rfl, rfl⟩
    exact ⟨holder, aim, name, hs, ht, named, apart, free, differ, acyclic, rfl, rfl⟩
  · rintro ⟨holder, aim, name, hs, ht, named, apart, free, differ, acyclic, rfl, rfl⟩
    exact ⟨holder, s, ⟨hs, rfl⟩, aim, s, ⟨ht, rfl⟩, name, s, ⟨named, rfl⟩, (), s, ⟨apart, rfl⟩,
      (), s, ⟨free, rfl⟩, (), s, ⟨differ, rfl⟩, s, s, ⟨rfl, rfl⟩, (), s, ⟨acyclic, rfl⟩, (), _,
      rfl, rfl, rfl⟩

theorem unlink_ok {source : NodeId} {selector : LinkChoice} {c : Change Identifier} :
    unlink source selector s = .ok c t ↔
      ∃ holder r, s.arena.get? source = some holder ∧ select holder selector = some r ∧
        r.isLink = true ∧
        c = ⟨r.identifier, some (.edge .linkRemoved source r.target r.identifier)⟩ ∧
        t = (s.unmakeLink source r.target).invalidate := by
  simp only [unlink, bind_ok, fetch_ok, lift_ok, modify_ok, pure_ok, requireLink_ok]
  constructor
  · rintro ⟨holder, _, ⟨hs, rfl⟩, r, _, ⟨⟨picked, link⟩, rfl⟩, _, _, rfl, rfl, rfl⟩
    exact ⟨holder, r, hs, picked, link, rfl, rfl⟩
  · rintro ⟨holder, r, hs, picked, link, rfl, rfl⟩
    exact ⟨holder, s, ⟨hs, rfl⟩, r, s, ⟨⟨picked, link⟩, rfl⟩, (), _, rfl, rfl, rfl⟩

/-- The store once the members of a detached subtree are gone. -/
def discarded (s : Store) (members : List NodeId) : Store :=
  (members.foldl vacate (members.foldl (releaseLinks members) s)).invalidate

theorem discard_ok {id : NodeId} {c : Change Nat} :
    discard id s = .ok c t ↔
      ∃ node, s.arena.get? id = some node ∧ id ≠ .root ∧ node.parent = none ∧
        s.arena.firstLinkedFromOutside (s.arena.subtree id) = none ∧
        c = ⟨(s.arena.subtree id).length, none⟩ ∧ t = s.discarded (s.arena.subtree id) := by
  simp only [discard, bind_ok, fetch_ok, lift_ok, get_ok, modify_ok, pure_ok, refuseAny_ok,
    refuseIf_ok, discarded]
  constructor
  · rintro ⟨node, _, ⟨hn, rfl⟩, _, _, ⟨notRoot, rfl⟩, _, _, ⟨orphan, rfl⟩, _, _, ⟨rfl, rfl⟩,
      _, _, ⟨unlinked, rfl⟩, _, _, rfl, _, _, rfl, _, _, rfl, rfl, rfl⟩
    exact ⟨node, hn, notRoot, orphan, unlinked, rfl, rfl⟩
  · rintro ⟨node, hn, notRoot, orphan, unlinked, rfl, rfl⟩
    exact ⟨node, s, ⟨hn, rfl⟩, (), s, ⟨notRoot, rfl⟩, (), s, ⟨orphan, rfl⟩, s, s, ⟨rfl, rfl⟩,
      (), s, ⟨unlinked, rfl⟩, (), _, rfl, (), _, rfl, (), _, rfl, rfl, rfl⟩

end Store

end DeviceTree
