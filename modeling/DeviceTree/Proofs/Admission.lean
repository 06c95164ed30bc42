/-
Which edges may be made.

A request for an edge passes a row of gates, one after the other: the nodes have to be there, the
name has to be an identifier, the holder must neither refer to the target already nor know the name,
and the edge must close no circle.  It is granted exactly if all gates are open; otherwise the first
that is shut says of which class the error is.

* `GoesBy` -- an outcome goes by a row of gates;
* `Store.add_goesBy`, `Store.link_goesBy` -- the two requests, on every store;
* `edges_admitted` -- the two requests, asked of a tree that nobody has locked.
-/
import DeviceTree.Proofs.Acts
import DeviceTree.Proofs.Location
import Mathlib

namespace DeviceTree

open Relation

/-! ### Gates -/

/-- The outcome goes by these conditions, of which each has the class of the errors that speak of
it: the first one that does not hold makes it an error of its class, and it is a success if all of
them hold. -/
def GoesBy {α : Type} (o : Except Error α) : List (Prop × ErrorClass) → Prop
  | [] => ∃ a, o = .ok a
  | (holds, c) :: rest =>
    (holds → GoesBy o rest) ∧ (¬holds → ∃ e, o = .error e ∧ e.errorClass = c)

section

variable {α β : Type} {o : Except Error α} {gates : List (Prop × ErrorClass)}

/-- A success has passed every gate. -/
theorem GoesBy.ok_iff (h : GoesBy o gates) : (∃ a, o = .ok a) ↔ ∀ gate ∈ gates, gate.1 := by
  induction gates with
  | nil => exact ⟨fun _ _ mem => absurd mem List.not_mem_nil, fun _ => h⟩
  | cons gate rest ih =>
    obtain ⟨passes, stops⟩ := h
    rw [List.forall_mem_cons]
    by_cases holds : gate.1
    · rw [ih (passes holds), and_iff_right holds]
    · obtain ⟨e, rfl, -⟩ := stops holds
      simp [holds]

theorem GoesBy.map (h : GoesBy o gates) (f : α → β) : GoesBy (o.map f) gates := by
  induction gates with
  | nil =>
    obtain ⟨a, rfl⟩ := h
    exact ⟨f a, rfl⟩
  | cons gate rest ih =>
    refine ⟨fun holds => ih (h.1 holds), fun shut => ?_⟩
    obtain ⟨e, rfl, speaks⟩ := h.2 shut
    exact ⟨e, rfl, speaks⟩

end

/-! ### Requests that pass gates -/

namespace Request

variable {α β : Type} {s t : Store} {p : Request α} {f : α → Request β}

/-- What a request comes to, without the store that it leaves. -/
def outcome (p : Request α) (s : Store) : Except Error α :=
  match p s with
  | .ok a _ => .ok a
  | .error e _ => .error e

theorem outcome_bind_ok {a : α} (h : p s = .ok a t) : (p >>= f).outcome s = (f a).outcome t := by
  rw [outcome, outcome, bind_of_ok h]

theorem outcome_bind_error {e : Error} (h : p s = .error e t) :
    (p >>= f).outcome s = .error e := by
  rw [outcome, bind_of_error h]

theorem outcome_map (f : α → β) : (f <$> p).outcome s = (p.outcome s).map f := by
  show (match EStateM.map f p s with
    | .ok a _ => Except.ok a
    | .error e _ => Except.error e) = _
  rw [EStateM.map, outcome]
  cases p s <;> rfl

variable {holds : Prop} {c : ErrorClass} {rest : List (Prop × ErrorClass)}

/-- A check is a gate. -/
theorem goesBy_check {r : Except Error α}
    (passes : holds → ∃ a, r = .ok a ∧ GoesBy ((f a).outcome s) rest)
    (stops : ¬holds → ∃ e, r = .error e ∧ e.errorClass = c) :
    GoesBy (((liftM r : Request α) >>= f).outcome s) ((holds, c) :: rest) := by
  refine ⟨fun open_ => ?_, fun shut => ?_⟩
  · obtain ⟨a, rfl, later⟩ := passes open_
    exact later
  · obtain ⟨e, rfl, speaks⟩ := stops shut
    exact ⟨e, rfl, speaks⟩

theorem goesBy_refuseIf {condition : Prop} [Decidable condition] {e : Error}
    {f : Unit → Request β} (same : holds ↔ ¬condition) (speaks : e.errorClass = c)
    (later : GoesBy ((f ()).outcome s) rest) :
    GoesBy (((liftM (Store.refuseIf condition e) : Request Unit) >>= f).outcome s)
      ((holds, c) :: rest) := by
  refine goesBy_check (fun open_ => ⟨(), Store.refuseIf_ok.mpr (same.mp open_), later⟩) ?_
  intro shut
  rw [same, not_not] at shut
  exact ⟨e, if_pos shut, speaks⟩

theorem goesBy_refuseAny {found : Option α} {e : α → Error} {f : Unit → Request β}
    (same : holds ↔ found = none) (speaks : ∀ a, (e a).errorClass = c)
    (later : GoesBy ((f ()).outcome s) rest) :
    GoesBy (((liftM (Store.refuseAny found e) : Request Unit) >>= f).outcome s)
      ((holds, c) :: rest) := by
  refine goesBy_check (fun open_ => ⟨(), Store.refuseAny_ok.mpr (same.mp open_), later⟩) ?_
  intro shut
  cases found with
  | none => exact absurd (same.mpr rfl) shut
  | some a => exact ⟨e a, rfl, speaks a⟩

end Request

/-! ### What the gates ask -/

namespace Arena

variable {a : Arena} {x y : NodeId} {n : Node}

/-- Some forward reference of the node at `x`, child edge or link, has that name up to ASCII
case. -/
def Knows (a : Arena) (x : NodeId) (name : String) : Prop :=
  ∃ n, a.get? x = some n ∧ ∃ r ∈ n.forward, Text.fold r.identifier.text = Text.fold name

instance (a : Arena) (x y : NodeId) : Decidable (a.Leads x y) :=
  inferInstanceAs (Decidable (a.Step Node.targets x y))

/-- The name of the node at `x`. -/
def nameAt (a : Arena) (x : NodeId) : String :=
  (a.get? x).elim "" fun n => n.identifier.text

/-- The parent of the node at `x`, if it has one. -/
def parentAt (a : Arena) (x : NodeId) : Option NodeId :=
  (a.get? x).bind Node.parent

theorem not_leads_iff (found : a.get? x = some n) : ¬a.Leads x y ↔ n.toward? y = none := by
  rw [Node.toward?_eq_none_iff, Leads, Step]
  simp [found]

theorem not_knows_iff (found : a.get? x = some n) (name : String) :
    ¬a.Knows x name ↔ n.named? name = none := by
  rw [Node.named?_eq_none_iff, Node.foldedNames, List.mem_map, Knows]
  simp [found]

theorem not_path_iff : ¬ReflTransGen a.Leads x y ↔ ¬a.leadsTo x y = true := by
  rw [leadsTo_iff]

end Arena

open Arena Request

/-- The name that was asked for, if any, is an identifier. -/
def Valid (identifier : Option String) : Prop :=
  ∀ raw, identifier = some raw → isIdentifier raw = true

namespace Store

variable {s : Store} {α : Type} {rest : List (Prop × ErrorClass)}

theorem goesBy_fetch {id : NodeId} {f : Node → Request α}
    (later : ∀ n, s.arena.get? id = some n → GoesBy ((f n).outcome s) rest) :
    GoesBy ((fetch id >>= f).outcome s) ((s.arena.Live id, .notFound) :: rest) := by
  refine ⟨?_, fun gone => ?_⟩
  · rintro ⟨n, found⟩
    rw [outcome_bind_ok (fetch_ok.mpr ⟨found, rfl⟩)]
    exact later n found
  · have none : s.arena.get? id = none :=
      Option.eq_none_iff_forall_ne_some.mpr fun n found => gone ⟨n, found⟩
    have refused : fetch id s = .error (.noSuchNode id) s := by
      show (liftM (s.arena.fetch id) : Request Node) s = _
      rw [Arena.fetch, none]
      rfl
    exact ⟨_, outcome_bind_error refused, rfl⟩

/-- The name of a new link: the one asked for, or else that of its target. -/
theorem goesBy_linkName {identifier : Option String} {target : NodeId} {aim : Node}
    {f : Identifier → Request α} (found : s.arena.get? target = some aim)
    (later : ∀ name : Identifier, name.text = identifier.getD (s.arena.nameAt target) →
      GoesBy ((f name).outcome s) rest) :
    GoesBy (((liftM (linkName identifier aim) : Request Identifier) >>= f).outcome s)
      ((Valid identifier, .invalidArgument) :: rest) := by
  cases identifier with
  | none =>
    refine goesBy_check (fun _ => ⟨aim.identifier, rfl, later _ ?_⟩) fun shut => ?_
    · rw [nameAt, found]
      rfl
    · exact absurd (fun _ asked => nomatch asked) shut
  | some raw =>
    refine goesBy_check (fun valid => ⟨⟨raw, valid raw rfl⟩, ?_, later _ rfl⟩) fun shut => ?_
    · exact readName_ok.mpr rfl
    · have bad : ¬isIdentifier raw = true := fun valid =>
        shut fun other asked => Option.some.inj asked ▸ valid
      refine ⟨.badIdentifier (.ofString raw), ?_, rfl⟩
      rw [linkName, readName, Identifier.ofString, dif_neg bad]
      rfl

/-- What is left of a request once all gates are passed. -/
theorem goesBy_act (f : Store → Store) (c : Change Unit) :
    GoesBy ((do modify f; return c : Request (Change Unit)).outcome s) [] :=
  ⟨c, rfl⟩

/-! ### The requests -/

/-- **A child edge goes by these gates**, on every store. -/
theorem add_goesBy (s : Store) (parent child : NodeId) :
    GoesBy ((add parent child).outcome s)
      [(s.arena.Live parent, .notFound),
        (s.arena.Live child, .notFound),
        (¬s.arena.Leads parent child, .alreadyExists),
        (¬s.arena.Knows parent (s.arena.nameAt child), .alreadyExists),
        (child ≠ .root, .badRequest),
        (s.arena.parentAt child = none, .badRequest),
        (¬ReflTransGen s.arena.Leads child parent, .badRequest)] := by
  refine goesBy_fetch fun above hp => goesBy_fetch fun below hc => ?_
  refine goesBy_refuseAny (not_leads_iff hp) (fun _ => rfl) ?_
  -- the request reads the child that it has fetched, the gates ask the arena
  have name : s.arena.nameAt child = below.identifier.text := by
    rw [nameAt, hc]
    rfl
  have parent : s.arena.parentAt child = below.parent := by
    rw [parentAt, hc]
    rfl
  rw [name, parent]
  refine goesBy_refuseAny (not_knows_iff hp _) (fun _ => rfl) ?_
  refine goesBy_refuseIf .rfl rfl ?_
  refine goesBy_refuseAny .rfl (fun _ => rfl) ?_
  rw [outcome_bind_ok (get_ok.mpr ⟨rfl, rfl⟩)]
  exact goesBy_refuseIf not_path_iff rfl (goesBy_act _ _)

/-- **A link goes by these gates**, on every store. -/
theorem link_goesBy (s : Store) (source target : NodeId) (identifier : Option String) :
    GoesBy ((link source target identifier).outcome s)
      [(s.arena.Live source, .notFound),
        (s.arena.Live target, .notFound),
        (Valid identifier, .invalidArgument),
        (¬s.arena.Leads source target, .alreadyExists),
        (¬s.arena.Knows source (identifier.getD (s.arena.nameAt target)), .alreadyExists),
        (source ≠ target, .badRequest),
        (¬ReflTransGen s.arena.Leads target source, .badRequest)] := by
  refine goesBy_fetch fun holder hs => goesBy_fetch fun aim ht => ?_
  refine goesBy_linkName ht fun name named => ?_
  refine goesBy_refuseAny (not_leads_iff hs) (fun _ => rfl) ?_
  rw [← named]
  refine goesBy_refuseAny (not_knows_iff hs _) (fun _ => rfl) ?_
  refine goesBy_refuseIf .rfl rfl ?_
  rw [outcome_bind_ok (get_ok.mpr ⟨rfl, rfl⟩)]
  exact goesBy_refuseIf not_path_iff rfl (goesBy_act _ _)

end Store

/-! ### Trees -/

namespace Tree

variable {ε : Type} [DirectEdit ε] {t : Tree ε} {m : Mutation}

/-- Where the lock is free, a mutation comes to what its request comes to. -/
theorem value_of_free (free : t.store.lock.isFree = true) (m : Mutation) :
    (t.perform (.mutate m)).value = (m.apply.outcome t.store.locked).map Change.value := by
  show (t.change _ m.apply).value = _
  rw [value_change, outcome]
  cases asked : m.apply t.store.locked with
  | ok c s => rw [Store.exclusively_ok free asked]
  | error e s => rw [Store.exclusively_error free asked]

/-- A request that yields nothing but its success goes by its gates, asked of a tree. -/
theorem perform_goesBy {p : Request (Change Unit)} {gates : List (Prop × ErrorClass)}
    (free : t.store.lock.isFree = true) (asks : m.apply = Change.map (fun _ => .done) <$> p)
    (h : GoesBy (p.outcome t.store.locked) gates) :
    ((t.perform (.mutate m)).value = .ok .done ↔ ∀ gate ∈ gates, gate.1) ∧
      GoesBy (t.perform (.mutate m)).value gates := by
  have value : (t.perform (.mutate m)).value =
      (p.outcome t.store.locked).map fun _ => Answer.done := by
    rw [value_of_free free, asks, outcome_map]
    cases p.outcome t.store.locked <;> rfl
  have goes : GoesBy (t.perform (.mutate m)).value gates := value ▸ h.map _
  -- a success has nothing else to say than that it is one
  refine ⟨Iff.trans ⟨fun ok => ⟨_, ok⟩, ?_⟩ goes.ok_iff, goes⟩
  rintro ⟨answer, ok⟩
  rw [value] at ok ⊢
  obtain ⟨c, asked, -⟩ := outcome_ok.mp ok
  rw [asked]
  rfl

end Tree

/-- **An edge is made exactly if it may be.**  Where nobody holds the lock, a child or a link is
added exactly if it meets every condition: its ends are there, its name is an identifier, its source
neither refers to its target nor knows the name yet, and it closes no circle, over child edges and
links alike; a child, besides, must not be the root nor have a parent.  Otherwise the error is of
the class of the first condition that is not met, in this order. -/
theorem edges_admitted {ε : Type} [DirectEdit ε] (t : Tree ε)
    (free : t.store.lock.isFree = true) :
    let a := t.store.arena
    (∀ source target identifier,
      let outcome := (t.perform (.mutate (.link source target identifier))).value
      let name := identifier.getD (a.nameAt target)
      (outcome = .ok .done ↔
        a.Live source ∧ a.Live target ∧ Valid identifier ∧ ¬a.Leads source target ∧
          ¬a.Knows source name ∧ source ≠ target ∧ ¬ReflTransGen a.Leads target source) ∧
      GoesBy outcome
        [(a.Live source, .notFound), (a.Live target, .notFound),
          (Valid identifier, .invalidArgument),
          (¬a.Leads source target, .alreadyExists), (¬a.Knows source name, .alreadyExists),
          (source ≠ target, .badRequest), (¬ReflTransGen a.Leads target source, .badRequest)]) ∧
    ∀ parent child,
      let outcome := (t.perform (.mutate (.add parent child))).value
      let name := a.nameAt child
      (outcome = .ok .done ↔
        a.Live parent ∧ a.Live child ∧ ¬a.Leads parent child ∧ ¬a.Knows parent name ∧
          child ≠ .root ∧ a.parentAt child = none ∧ ¬ReflTransGen a.Leads child parent) ∧
      GoesBy outcome
        [(a.Live parent, .notFound), (a.Live child, .notFound),
          (¬a.Leads parent child, .alreadyExists), (¬a.Knows parent name, .alreadyExists),
          (child ≠ .root, .badRequest), (a.parentAt child = none, .badRequest),
          (¬ReflTransGen a.Leads child parent, .badRequest)] := by
  refine ⟨fun source target identifier => ?_, fun parent child => ?_⟩
  · obtain ⟨granted, goes⟩ := Tree.perform_goesBy (m := .link source target identifier) free rfl
      (Store.link_goesBy t.store.locked source target identifier)
    simp only [List.forall_mem_cons, List.not_mem_nil, false_implies, implies_true, and_true]
      at granted
    exact ⟨granted, goes⟩
  · obtain ⟨granted, goes⟩ := Tree.perform_goesBy (m := .add parent child) free rfl
      (Store.add_goesBy t.store.locked parent child)
    simp only [List.forall_mem_cons, List.not_mem_nil, false_implies, implies_true, and_true]
      at granted
    exact ⟨granted, goes⟩

/-- The valve may be linked from the root under a name of its own, but may not itself link to the
root, from which a path leads to it; and nothing links to what is not there. -/
theorem edges_admitted_piped :
    let perform (m : Mutation) := (Session.piped.tree.perform (.mutate m)).value
    Session.piped.tree.store.lock.isFree = true ∧
      perform (.link .root ⟨2⟩ (some "Spare")) = .ok .done ∧
      (∃ e, perform (.link ⟨2⟩ .root none) = .error e ∧ e.errorClass = .badRequest) ∧
      ∃ e, perform (.link ⟨2⟩ ⟨7⟩ (some "bad name")) = .error e ∧ e.errorClass = .notFound := by
  intro perform
  have free : Session.piped.tree.store.lock.isFree = true := by decide +kernel
  obtain ⟨links, -⟩ := edges_admitted Session.piped.tree free
  have root : Session.piped.tree.store.arena.Live .root := Option.isSome_iff_exists.mp (by cbv)
  have valve : Session.piped.tree.store.arena.Live ⟨2⟩ := Option.isSome_iff_exists.mp (by cbv)
  have pump : Session.piped.tree.store.arena.Owns .root ⟨1⟩ := of_decide_eq_true (by cbv)
  have below : Session.piped.tree.store.arena.Owns ⟨1⟩ ⟨2⟩ := of_decide_eq_true (by cbv)
  have valid : Valid (some "Spare") := fun raw asked => Option.some.inj asked ▸ by decide
  refine ⟨free, (links .root ⟨2⟩ (some "Spare")).1.mpr ⟨root, valve, valid, ?_, ?_, ?_, ?_⟩, ?_, ?_⟩
  · exact of_decide_eq_false (by cbv)
  · rw [Arena.not_knows_iff rfl]
    cbv
  · decide
  · rw [Arena.not_path_iff, Bool.not_eq_true]
    cbv
  · -- only the last gate is shut
    obtain ⟨-, goes⟩ := links ⟨2⟩ .root none
    have path := (ReflTransGen.single pump.leads).tail below.leads
    have apart : ¬Session.piped.tree.store.arena.Leads ⟨2⟩ .root := of_decide_eq_false (by cbv)
    have unknown : ¬Session.piped.tree.store.arena.Knows ⟨2⟩
        (Session.piped.tree.store.arena.nameAt .root) := by
      rw [Arena.not_knows_iff rfl]
      cbv
    have named := ((goes.1 valve).1 root).1 fun raw asked =>
      absurd asked.symm (Option.some_ne_none raw)
    exact (((named.1 apart).1 unknown).1 (by decide)).2 (not_not.mpr path)
  · obtain ⟨-, goes⟩ := links ⟨2⟩ ⟨7⟩ (some "bad name")
    have gone : Session.piped.tree.store.arena.get? ⟨7⟩ = none := by cbv
    refine (goes.1 valve).2 ?_
    rintro ⟨n, found⟩
    exact Option.some_ne_none n (found.symm.trans gone)

end DeviceTree
