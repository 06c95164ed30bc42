/-
What a mutation gives notice of.

A mutation changes one edge between the elements that were there, or none.  The event of a mutation
that is granted tells of this edge, as it was kept by its source.

* `Arena.Gains` -- one arena has one edge more than the other;
* `Event.Reports` -- the event of an edge that was made or unmade;
* `event_of_silent`, `reports_of_apply` -- the events of mutations that are granted.
-/
import DeviceTree.Proofs.Structure

namespace DeviceTree

namespace Arena

variable {a b c : Arena} {g : NodeId → Node → Node} {r : Reference} {s t : NodeId} {k : EdgeKind}
  {n : Node} {root : Identifier}

/-- Every node of `a` is in `b` with the same forward references, but for `r`, which its source has
in addition. -/
structure Gains (a b : Arena) (r : Reference) : Prop where
  source : ∃ n, a.get? r.source = some n
  forward : ∀ {id n}, a.get? id = some n → ∃ m, b.get? id = some m ∧
    m.forward.Perm ((if r.source = id then [r] else []) ++ n.forward)

theorem gains_of_pushes (h : Becomes a b g) (pushes : Pushes g r)
    (source : a.get? r.source = some n) : Gains a b r where
  source := ⟨n, source⟩
  forward {id m} found := by
    refine ⟨_, h.live found, ?_⟩
    rw [(pushes id m).1]
    exact List.perm_append_comm

/-- Nodes that were created on the way do not count. -/
theorem Gains.of_grows (h : Gains b c r) (grows : Grows a b) (source : a.get? r.source = some n) :
    Gains a c r where
  source := ⟨n, source⟩
  forward found := h.forward (grows.kept found)

/-- What drops an edge drops one reference. -/
theorem gains_of_drops (w : a.Wired) (h : Becomes a b g) (drops : Drops g s t k)
    (source : a.get? s = some n) (mem : r ∈ n.forward) (target : r.target = t)
    (kind : r.kind = k) : Gains b a r where
  source := by
    rw [(w.forward source mem).2.1]
    exact ⟨_, h.live source⟩
  forward {id m} found := by
    obtain ⟨o, ho, rfl⟩ := h.origin found
    refine ⟨o, ho, ?_⟩
    rw [(drops id o).1, (w.forward source mem).2.1]
    by_cases here : s = id
    · subst here
      obtain rfl : n = o := Option.some.inj (source.symm.trans ho)
      -- no other reference of the node has this target
      have only : ∀ q ∈ n.forward, (!(q.target = t && q.kind = k)) = (q != r) := by
        intro q held
        by_cases same : q = r
        · simp [same, target, kind]
        · have differ : q.target ≠ t := fun aim =>
            same (List.inj_on_of_nodup_map (w.targets source) held mem (aim.trans target.symm))
          simp [same, differ]
      have distinct : n.forward.Nodup := (w.targets source).of_map _
      simp only [decide_true, Bool.true_and, if_true, List.filter_congr only,
        ← distinct.erase_eq_filter]
      exact List.perm_cons_erase mem
    · simp [here]

/-- A new element that goes under its parent is the target of one new edge. -/
theorem Furnished.gains {x p : NodeId} {name : Identifier} {used : List String} {above : Node}
    (h : Furnished a b root x name used) (base : a.Sound root) (hp : a.get? p = some above)
    (free : above.named? name.text = none) :
    Gains a (b.attach p x name) (childEdge p x name) := by
  obtain ⟨below, fits, -, -⟩ := h.fits base hp free
  have made := gains_of_pushes (becomes_attach fits.source fits.target name)
    (pushes_afterAttach _) fits.source
  exact made.of_grows h.grows hp

end Arena

open Arena

/-- The event tells of the one edge that made the difference between two arenas: its action says
what became of the edge, and its other fields are the ends of the edge and the name under which the
source keeps it. -/
inductive Event.Reports (a b : Arena) : Event → Prop where
  | childAdded {r : Reference} : r.kind = .child → a.Gains b r →
      Reports a b ⟨.childAdded, r.source, some r.target, some r.identifier⟩
  | childRemoved {r : Reference} : r.kind = .child → b.Gains a r →
      Reports a b ⟨.childRemoved, r.source, some r.target, some r.identifier⟩
  | linkAdded {r : Reference} : r.kind = .link → a.Gains b r →
      Reports a b ⟨.linkAdded, r.source, some r.target, some r.identifier⟩
  | linkRemoved {r : Reference} : r.kind = .link → b.Gains a r →
      Reports a b ⟨.linkRemoved, r.source, some r.target, some r.identifier⟩

/-- Nobody is told of elements that are created on their own, nor of those that are discarded. -/
def Mutation.silent : Mutation → Bool
  | create none _ _ _ | createData none _ _ | discard _ => true
  | _ => false

namespace Store

variable {s t : Store} {root : Identifier} {m : Mutation} {c : Change Answer}

theorem event_of_silent (silent : m.silent = true) (h : m.apply s = .ok c t) : c.event = none := by
  cases m <;> obtain ⟨c', granted, rfl⟩ := Request.map_ok.mp h
  case create parent _ _ _ =>
    obtain ⟨name, above, -, -, rfl, -⟩ := create_ok.mp granted
    cases parent with
    | none => rfl
    | some p => cases silent
  case createData parent _ _ =>
    obtain ⟨name, above, -, -, rfl, -⟩ := createData_ok.mp granted
    cases parent with
    | none => rfl
    | some p => cases silent
  case discard =>
    obtain ⟨node, -, -, -, -, rfl, -⟩ := discard_ok.mp granted
    rfl
  all_goals cases silent

/-- The new element under its parent. -/
theorem reports_settled {x p : NodeId} {name : Identifier} {used : List String} {u : Store}
    {above : Option Node} (sound : s.arena.Sound root)
    (made : Furnished s.arena u.arena root x name used) (free : s.FreeUnder (some p) name above) :
    ∃ e, settledEvent (some p) x name = some e ∧
      e.Reports s.arena (u.settled (some p) x name).arena := by
  obtain ⟨node, found, unnamed, -⟩ := free
  exact ⟨_, rfl, .childAdded rfl (made.gains sound found unnamed)⟩

theorem mem_of_select {holder : Node} {selector : LinkChoice} {r : Reference}
    (h : select holder selector = some r) : r ∈ holder.forward := by
  cases selector <;> exact List.mem_of_find?_eq_some h

/-- **The event of a mutation tells of the edge that it has changed.** -/
theorem reports_of_apply (sound : s.arena.Sound root) (aloud : m.silent = false)
    (h : m.apply s = .ok c t) : ∃ e, c.event = some e ∧ e.Reports s.arena t.arena := by
  cases m <;> obtain ⟨c', granted, rfl⟩ := Request.map_ok.mp h
  case create parent _ _ _ =>
    obtain ⟨name, above, -, free, rfl, rfl⟩ := create_ok.mp granted
    cases parent with
    | none => cases aloud
    | some p => exact reports_settled sound (furnished_push sound name _ _ _) free
  case createData parent _ options =>
    obtain ⟨name, above, -, free, rfl, rfl⟩ := createData_ok.mp granted
    cases parent with
    | none => cases aloud
    | some p =>
      obtain ⟨used, made⟩ := furnished_data sound name options (newAddress above name)
      exact reports_settled sound made free
  case add parent child =>
    obtain ⟨above, below, hp, hc, -, -, -, -, -, rfl, rfl⟩ := add_ok.mp granted
    refine ⟨_, rfl, .childAdded (r := childEdge parent child below.identifier) rfl ?_⟩
    exact gains_of_pushes (becomes_attach hp hc _) (pushes_afterAttach _) hp
  case remove parent child =>
    obtain ⟨above, below, r, hp, -, found, owned, -, rfl, rfl⟩ := remove_ok.mp granted
    obtain ⟨mem, rfl⟩ := Node.mem_of_toward? found
    obtain ⟨-, rfl, -⟩ := sound.wired.forward hp mem
    have kind : r.kind = .child := of_decide_eq_true owned
    refine ⟨_, rfl, .childRemoved kind ?_⟩
    exact gains_of_drops sound.wired (sound.wired.becomes_detach _ _) (fun _ _ => ⟨rfl, rfl, rfl⟩)
      hp mem rfl kind
  case link source target _ =>
    obtain ⟨holder, aim, name, hs, -, -, -, -, -, -, rfl, rfl⟩ := link_ok.mp granted
    refine ⟨_, rfl, .linkAdded (r := ⟨name, source, target, .link, .forward⟩) rfl ?_⟩
    exact gains_of_pushes (becomes_link _ _ _ _) (pushes_pushed _) hs
  case unlink source _ =>
    obtain ⟨holder, r, hs, picked, link, rfl, rfl⟩ := unlink_ok.mp granted
    have mem := mem_of_select picked
    obtain ⟨-, rfl, -⟩ := sound.wired.forward hs mem
    have kind : r.kind = .link := of_decide_eq_true link
    refine ⟨_, rfl, .linkRemoved kind ?_⟩
    exact gains_of_drops sound.wired (sound.wired.becomes_unlink _ _) (drops_dropped _ _ _) hs mem
      rfl kind
  case discard => cases aloud

end Store

end DeviceTree
