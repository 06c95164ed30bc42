/-
Places are handed out once.

Mutations that create elements put them at the next places, in order; no other mutation and no
refused one takes a place.  A node stays what it is for as long as it is there, and a place that it
has left (`Arena.Spent`) stays empty for good.

* `Store.newborn_of_apply` -- the places that a granted mutation takes, and what stands there;
* `Session.store_asked`, `Session.store_unasked` -- what an act comes to that carries out a
  mutation, and one that does not;
* `Effects.ages`, `Deed.ages`, `ages_of_later` -- from one effect to a whole run.
-/
import DeviceTree.Proofs.Acts
import DeviceTree.Proofs.Coherence
import DeviceTree.Proofs.Rows

namespace DeviceTree

/-- What a node is, as long as it is there: its name, its kind and its attachment. -/
def Node.nature (n : Node) : String × ElementKind × Option String :=
  (n.identifier.text, n.kind, n.attachment)

theorem Node.unwired_nature : Unwired Node.nature :=
  fun _ _ _ _ _ => rfl

theorem Identifier.text_inj {i j : Identifier} : i.text = j.text ↔ i = j :=
  ⟨fun same => by cases i; cases j; cases same; rfl, congrArg _⟩

theorem Node.nature_eq_iff {n m : Node} :
    m.nature = n.nature ↔
      m.identifier = n.identifier ∧ m.kind = n.kind ∧ m.attachment = n.attachment := by
  simp only [nature, Prod.mk.injEq, Identifier.text_inj]

/-- What the elements are that a mutation creates, in the order in which it creates them. -/
def Mutation.newborn : Mutation → List (String × ElementKind × Option String)
  | create _ identifier kind attachment => [(identifier, kind, attachment)]
  | createData _ identifier options =>
    (identifier, .data, options.storage) :: options.parts.map fun part => (part.1.text, part.2)
  | _ => []

namespace Arena

variable {a b c : Arena} {id : NodeId} {n : Node}

/-- Time has passed: there are no fewer places, and at those of before no other nodes. -/
structure Ages (a b : Arena) : Prop where
  size : a.slots.size ≤ b.slots.size
  same : ∀ {id m}, b.get? id = some m → id.index < a.slots.size →
    ∃ n, a.get? id = some n ∧ m.nature = n.nature

theorem Ages.refl (a : Arena) : Ages a a :=
  ⟨Nat.le_refl _, fun found _ => ⟨_, found, rfl⟩⟩

theorem Ages.trans (h : Ages a b) (h' : Ages b c) : Ages a c where
  size := Nat.le_trans h.size h'.size
  same found old := by
    obtain ⟨m, between, is⟩ := h'.same found (Nat.lt_of_lt_of_le old h.size)
    obtain ⟨n, before, was⟩ := h.same between old
    exact ⟨n, before, is.trans was⟩

theorem ages_of_row (same : b.row Node.nature = a.row Node.nature) : Ages a b where
  size := Nat.le_of_eq (size_of_row same).symm
  same {id m} found _ := by
    have seen : (a.get? id).map Node.nature = some m.nature := by
      rw [← join_row, ← same, join_row, found, Option.map_some]
    obtain ⟨n, before, was⟩ := Option.map_eq_some_iff.mp seen
    exact ⟨n, before, was.symm⟩

theorem ages_push (a : Arena) (n : Node) : Ages a (a.push n) where
  size := by simp [push]
  same {id m} found old := by
    have apart : id ≠ a.nextId := fun new => Nat.ne_of_lt old (congrArg NodeId.index new)
    rw [get?_push, if_neg apart] at found
    exact ⟨m, found, rfl⟩

theorem ages_vacate (a : Arena) (id : NodeId) : Ages a (a.vacate id) where
  size := by simp [vacate]
  same {other m} found _ := by
    rw [get?_vacate] at found
    split at found
    · cases found
    · exact ⟨m, found, rfl⟩

/-- A node once stood at the place, and has left. -/
def Spent (a : Arena) (id : NodeId) : Prop :=
  id.index < a.slots.size ∧ a.get? id = none

/-- **A place is not given to anybody else.** -/
theorem Spent.ages (spent : a.Spent id) (h : Ages a b) : b.Spent id := by
  refine ⟨Nat.lt_of_lt_of_le spent.1 h.size, ?_⟩
  cases found : b.get? id with
  | none => rfl
  | some m =>
    obtain ⟨n, before, -⟩ := h.same found spent.1
    rw [spent.2] at before
    cases before

end Arena

open Arena

namespace Store

variable {s t : Store} {m : Mutation} {c : Change Answer}

/-- **No effect of a request gives a place to another node.** -/
theorem Effects.ages (effects : Effects s t) : Ages s.arena t.arena := by
  induction effects with
  | none => exact .refl _
  | insert name kind attachment address _ ih => exact ih.trans (ages_push _ _)
  | makeChild parent child name _ ih =>
    exact ih.trans (ages_of_row (row_attach Node.unwired_nature _ _ _ _))
  | unmakeChild parent child _ ih =>
    exact ih.trans (ages_of_row (row_detach Node.unwired_nature _ _ _))
  | makeLink source target name _ ih =>
    exact ih.trans (ages_of_row (row_link Node.unwired_nature _ _ _ _))
  | unmakeLink source target _ ih =>
    exact ih.trans (ages_of_row (row_unlink Node.unwired_nature _ _ _))
  | vacate id _ ih =>
    unfold Store.vacate
    split
    · exact ih
    · exact ih.trans (ages_vacate _ id)
  | invalidate _ ih => exact ih

/-! ### New elements -/

theorem natures_settled (s : Store) (parent : Option NodeId) (id : NodeId) (name : Identifier) :
    (s.settled parent id name).arena.row Node.nature = s.arena.row Node.nature := by
  cases parent with
  | none => rfl
  | some parent => exact row_attach Node.unwired_nature s.arena parent id name

theorem natures_insert (s : Store) (name : Identifier) (kind : ElementKind)
    (attachment : Option String) (address : String) :
    (s.insert (.fresh name kind attachment address)).arena.row Node.nature =
      s.arena.row Node.nature ++ [some (name.text, kind, attachment)] :=
  row_push Node.nature s.arena _

theorem natures_parts (data : NodeId) (parts : List (Identifier × ElementKind × Option String)) :
    ∀ s : Store, (parts.foldl (createPart data) s).arena.row Node.nature =
      s.arena.row Node.nature ++ parts.map fun part => some (part.1.text, part.2) := by
  induction parts with
  | nil => simp
  | cons part parts ih =>
    intro s
    have first : (s.createPart data part).arena.row Node.nature =
        s.arena.row Node.nature ++ [some (part.1.text, part.2)] :=
      (row_attach Node.unwired_nature _ _ _ _).trans (natures_insert s part.1 _ _ _)
    rw [List.foldl_cons, ih, first, List.append_assoc, List.singleton_append, List.map_cons]

/-- To release links changes nothing but edges. -/
theorem row_releaseLinks {α : Type} {f : Node → α} (unwired : Node.Unwired f)
    (members : List NodeId) (s : Store) (id : NodeId) :
    (s.releaseLinks members id).arena.row f = s.arena.row f := by
  unfold Store.releaseLinks
  split
  · rfl
  · refine foldl_same (·.arena.row f) (fun s target => s.unmakeLink id target) ?_ _ s
    exact fun s target => row_unlink unwired s.arena id target

theorem row_released {α : Type} {f : Node → α} (unwired : Node.Unwired f)
    (members visited : List NodeId) (s : Store) :
    (visited.foldl (releaseLinks members) s).arena.row f = s.arena.row f :=
  foldl_same (·.arena.row f) (releaseLinks members) (row_releaseLinks unwired members) visited s

theorem size_discarded (s : Store) (members : List NodeId) :
    (s.discarded members).arena.slots.size = s.arena.slots.size := by
  have vacated : ∀ (s : Store) id, (s.vacate id).arena.slots.size = s.arena.slots.size := by
    intro s id
    unfold Store.vacate
    split
    · rfl
    · simp [onArena, Store.count, Arena.vacate]
  exact (foldl_same (·.arena.slots.size) vacate vacated members _).trans
    (size_of_row (row_released Node.unwired_observers members members s))

/-- The nodes that a mutation puts at the end of the row.  A discard makes gaps in it and is left
out here. -/
theorem natures_of_apply (h : m.apply s = .ok c t) (stays : ∀ id, m ≠ .discard id) :
    t.arena.row Node.nature = s.arena.row Node.nature ++ m.newborn.map some := by
  cases m <;> obtain ⟨c', granted, -⟩ := Request.map_ok.mp h
  case create =>
    obtain ⟨name, above, rfl, -, -, rfl⟩ := create_ok.mp granted
    rw [natures_settled, natures_insert]
    rfl
  case createData =>
    obtain ⟨name, above, rfl, -, -, rfl⟩ := createData_ok.mp granted
    rw [natures_settled, natures_parts, natures_insert, List.append_assoc]
    simp [Mutation.newborn]
  case add =>
    obtain ⟨above, below, -, -, -, -, -, -, -, -, rfl⟩ := add_ok.mp granted
    exact (row_attach Node.unwired_nature _ _ _ _).trans (List.append_nil _).symm
  case remove =>
    obtain ⟨above, below, r, -, -, -, -, -, -, rfl⟩ := remove_ok.mp granted
    exact (row_detach Node.unwired_nature _ _ _).trans (List.append_nil _).symm
  case link =>
    obtain ⟨holder, aim, name, -, -, -, -, -, -, -, -, rfl⟩ := link_ok.mp granted
    exact (row_link Node.unwired_nature _ _ _ _).trans (List.append_nil _).symm
  case unlink =>
    obtain ⟨holder, r, -, -, -, -, rfl⟩ := unlink_ok.mp granted
    exact (row_unlink Node.unwired_nature _ _ _).trans (List.append_nil _).symm
  case discard id => exact absurd rfl (stays id)

/-- **The places that a granted mutation takes**: the next ones, one for each element that it
creates, in order. -/
theorem newborn_of_apply (h : m.apply s = .ok c t) :
    t.arena.slots.size = s.arena.slots.size + m.newborn.length ∧
      (t.arena.row Node.nature).drop s.arena.slots.size = m.newborn.map some := by
  by_cases discards : ∃ id, m = .discard id
  · obtain ⟨id, rfl⟩ := discards
    obtain ⟨c', granted, -⟩ := Request.map_ok.mp h
    obtain ⟨node, -, -, -, -, -, rfl⟩ := discard_ok.mp granted
    have size := s.size_discarded (s.arena.subtree id)
    exact ⟨size, List.drop_eq_nil_of_le (by rw [length_row, size])⟩
  · have row := natures_of_apply h fun id same => discards ⟨id, same⟩
    refine ⟨by simpa using congrArg List.length row, ?_⟩
    rw [row, List.drop_left' (length_row _ _)]

/-- The places that the answer to a mutation names are those of new elements. -/
theorem answer_of_newborn (h : m.apply s = .ok c t) (some : m.newborn ≠ []) :
    c.value = .node s.arena.nextId := by
  cases m
  case create =>
    obtain ⟨c', granted, rfl⟩ := Request.map_ok.mp h
    obtain ⟨name, above, -, -, rfl, -⟩ := create_ok.mp granted
    rfl
  case createData =>
    obtain ⟨c', granted, rfl⟩ := Request.map_ok.mp h
    obtain ⟨name, above, -, -, rfl, -⟩ := createData_ok.mp granted
    rfl
  all_goals exact absurd rfl some

/-- Nothing has changed but the lock, or the count of refusals. -/
def Withheld (s t : Store) : Prop :=
  t = s.count .refused ∨ ∃ lock, t = { s with lock }

theorem Withheld.arena (h : s.Withheld t) : t.arena = s.arena := by
  rcases h with rfl | ⟨lock, rfl⟩ <;> rfl

/-- Nothing has changed but the lock, the subscriptions, or how often something was refused or has
failed. -/
inductive Aside (s : Store) : Store → Prop where
  | same : Aside s s
  | lock (lock : Lock) : Aside s { s with lock }
  | refused : Aside s (s.count .refused)
  | failed (count : Nat) : Aside s (s.count (.failed count))
  | observers (node : NodeId) (f : List SubscriptionId → List SubscriptionId) (subscribers : Nat) :
      Aside s { s with
        arena := s.arena.modify node fun n => { n with observers := f n.observers }
        subscribers }

theorem Aside.nextId (h : s.Aside t) : t.arena.nextId = s.arena.nextId := by
  cases h with
  | same | lock | refused | failed => rfl
  | observers node f => exact nextId_modify _ _ _

theorem aside_verify (s : Store) : s.Aside s.verify.2 := by
  unfold Store.verify
  split
  · exact .refused
  · exact .same

theorem aside_beginWrite (s : Store) : s.Aside s.beginWrite.2 := by
  unfold Store.beginWrite
  split
  · exact .refused
  · exact .lock _

theorem aside_beginRead (s : Store) : s.Aside s.beginRead.2 := by
  unfold Store.beginRead
  split
  · exact .refused
  · exact .lock _

/-- What a mutation comes to that takes the lock for itself. -/
theorem exclusively_apply (s : Store) (m : Mutation) :
    (∃ lock c t, m.apply { s with lock } = .ok c t ∧ (s.exclusively m.apply).1 = .ok c ∧
      (s.exclusively m.apply).2 = t.endWrite) ∨
    ∃ e, (s.exclusively m.apply).1 = .error e ∧ s.Withheld (s.exclusively m.apply).2 := by
  unfold exclusively beginWrite
  cases s.lock.admitWriter with
  | error e => exact .inr ⟨e, rfl, .inl rfl⟩
  | ok lock =>
    rcases clean_apply m { s with lock } with ⟨c, t, granted⟩ | ⟨e, refused, -⟩
    · simp only [granted]
      exact .inl ⟨lock, c, t, granted, rfl, rfl⟩
    · simp only [refused]
      exact .inr ⟨e, rfl, .inr ⟨_, rfl⟩⟩

end Store

/-- What a mutation comes to in a write transaction. -/
theorem WriteTransaction.perform_apply (tx : WriteTransaction) (s : Store) (m : Mutation) :
    (∃ c t, m.apply s = .ok c t ∧ (tx.perform m s).1 = .ok c.value ∧ (tx.perform m s).2.2 = t) ∨
    ∃ e, (tx.perform m s).1 = .error e ∧ (tx.perform m s).2.2 = s := by
  unfold perform
  split
  · rcases clean_apply m s with ⟨c, t, granted⟩ | ⟨e, refused, -⟩
    · simp only [granted]
      exact .inl ⟨c, t, rfl, rfl, rfl⟩
    · simp only [refused]
      exact .inr ⟨e, rfl, trivial⟩
  · exact .inr ⟨_, rfl, rfl⟩

/-! ### Acts -/

open Store DeviceTree.Tree

theorem Tree.Deed.ages {t t' : Tree Empty} (deed : Deed t t') :
    Ages t.store.arena t'.store.arena := by
  cases deed with
  | idle arena _ _ => exact arena ▸ .refl _
  | mutation before after granted => exact (effects_of_apply granted).ages
  | @subscription node _ observer _ =>
    refine ages_of_row (row_modify ?_ t.store.arena node)
    exact fun _ => rfl
  | @cancellation node _ id _ _ =>
    refine ages_of_row (row_modify ?_ t.store.arena node)
    exact fun _ => rfl

namespace Session

variable {s s' : Session Empty} {m : Mutation} {a : Act Empty}

/-- **Nothing that happens to a session gives a place to another node.** -/
theorem ages_of_later (later : s.Later s') : Ages s.tree.store.arena s'.tree.store.arena :=
  later.invariant (P := fun s' => Ages s.tree.store.arena s'.tree.store.arena)
    (fun {s'} h a => h.trans (s'.deed_act a).ages) (.refl _)

/-- The mutation that an act carries out, on the tree or in a write transaction that is there. -/
def asked (s : Session Empty) : Act Empty → Option Mutation
  | .tree (.mutate m) => some m
  | .mutate number m =>
    match s.transaction? number with
    | some (.write _) => some m
    | _ => none
  | _ => none

/-- What an act comes to that carries out a mutation: it leaves what the mutation leaves, but for
the lock, or nothing has changed. -/
theorem store_asked (asked : s.asked a = some m) :
    (∃ before after c t c', m.apply { s.tree.store with lock := before } = .ok c t ∧
      (s.act a).1 = .ok c' ∧ c'.value = c.value ∧
      (s.act a).2.tree.store = { t with lock := after }) ∨
    ∃ e, (s.act a).1 = .error e ∧ s.tree.store.Withheld (s.act a).2.tree.store := by
  unfold Session.asked at asked
  split at asked
  · next m' =>
    obtain rfl := Option.some.inj asked
    rcases exclusively_apply s.tree.store m' with ⟨lock, c, t, granted, outcome, left⟩ | refused
    · exact .inl ⟨lock, _, c, t, c, granted, outcome, rfl, left⟩
    · exact .inr refused
  · next number m' =>
    split at asked
    · next tx found =>
      obtain rfl := Option.some.inj asked
      simp only [Session.act, found]
      rcases tx.perform_apply s.tree.store m' with ⟨c, t, granted, outcome, left⟩ | refused
      · exact .inl ⟨s.tree.store.lock, t.lock, c, t, _, granted, congrArg _ outcome, rfl, left⟩
      · obtain ⟨e, outcome, left⟩ := refused
        exact .inr ⟨e, congrArg _ outcome, .inr ⟨s.tree.store.lock, left⟩⟩
    · cases asked
  · cases asked

/-- The nodes are those that the mutation leaves, or those of before. -/
theorem act_asked (asked : s.asked a = some m) :
    (∃ lock c t c', m.apply { s.tree.store with lock } = .ok c t ∧
      (s.act a).1 = .ok c' ∧ c'.value = c.value ∧ (s.act a).2.tree.store.arena = t.arena) ∨
    ∃ e, (s.act a).1 = .error e ∧ (s.act a).2.tree.store.arena = s.tree.store.arena := by
  rcases store_asked asked with ⟨lock, _, c, t, c', granted, outcome, value, left⟩ |
    ⟨e, outcome, left⟩
  · exact .inl ⟨lock, c, t, c', granted, outcome, value, by rw [left]⟩
  · exact .inr ⟨e, outcome, left.arena⟩

/-- What the other acts come to: they look up an address, or have to do with the lock, the observers
or the transactions. -/
theorem store_unasked (unasked : s.asked a = none) :
    (∃ address, a = .tree (.resolve address)) ∨ s.tree.store.Aside (s.act a).2.tree.store := by
  cases a with
  | tree a =>
    cases a with
    | mutate m => cases unasked
    | resolve address => exact .inl ⟨address, rfl⟩
    | ask query => exact .inr .same
    | verify => exact .inr (aside_verify _)
    | subscribe node observer =>
      right
      show Aside _ (Tree.act (.subscribe node observer) s.tree).2.store
      simp only [Tree.act, subscribe_eq]
      cases s.tree.store.arena.fetch node with
      | error e => exact .same
      | ok n => exact .observers node (· ++ [⟨s.tree.observers.size + 1⟩]) _
    | unsubscribe node id =>
      right
      show Aside _ (s.tree.unsubscribe node id).2.store
      rw [unsubscribe_eq]
      split
      · exact .observers node (·.filter fun other => other != id) _
      · exact .same
    | turn id reaction =>
      right
      show Aside _ (s.tree.setReaction id reaction).store
      unfold setReaction
      split <;> exact .same
    | fail count => exact .inr (.failed count)
  | beginWrite =>
    right
    show Aside _ (s.start _ _).session.tree.store
    rw [tree_start]
    exact aside_beginWrite _
  | beginRead =>
    right
    show Aside _ (s.start _ _).session.tree.store
    rw [tree_start]
    exact aside_beginRead _
  | mutate number m =>
    right
    cases found : s.transaction? number with
    | none =>
      simp only [act, found]
      exact .same
    | some tx =>
      cases tx with
      | write tx => simp [asked, found] at unasked
      | read active =>
        simp only [act, found]
        exact .same
  | release number =>
    right
    cases found : s.transaction? number with
    | none =>
      simp only [act, found]
      exact .same
    | some tx =>
      simp only [act, found]
      show Aside _ (letGo tx s.tree).store
      rcases tx with ⟨_ | _, operations⟩ | _ | _
      · exact .same
      · exact .lock _
      · exact .same
      · exact .lock _
  | forget number =>
    right
    cases found : s.transaction? number with
    | none =>
      simp only [act, found]
      exact .same
    | some tx =>
      simp only [act, found]
      split <;> exact .same
  | clear =>
    right
    simp only [act]
    split <;> exact .same

end Session

end DeviceTree
