/-
Notices whose first observers call back.

The observers at the source of an event may change the tree before the notice goes on, and may move
the source itself.  The notice goes on with the ancestors that the source has when they are done,
and tells those who are subscribed there by then.  But it takes no more hops than there were nodes
when it began: where the observers have created nodes and put the source far below them, it stops on
the way up.

* `bubble_resumes`, `notifyWith_resumes` -- the walk and the notice after the turn of the source;
* `notice_resumes` -- notices in reachable sessions;
* `root_not_told` -- a notice that never reaches the root, below which its source hangs.
-/
import DeviceTree.Proofs.Course
import DeviceTree.Proofs.Delivery

namespace DeviceTree

open Relation Arena

namespace Tree

section

variable {ε : Type}

/-- The way in which observers perform operations, where notices nest at most `depth` deep. -/
def performWithin [DirectEdit ε] : (depth : Nat) → Performer ε
  | 0 => fun _ t => t.yield (.ok .done)
  | depth + 1 => performWith (notifyWithin depth)

theorem notifyWithin_eq_notifyWith [DirectEdit ε] (depth : Nat) :
    (notifyWithin depth : Notifier ε) = notifyWith (performWithin depth) := by
  cases depth <;> rfl

/-- What the observers at the source of an event do about it. -/
def sourceTold (perform : Performer ε) (event : Event) (t : Tree ε) : Traced ε (List Failure) :=
  t.tellAll perform event.source event (t.store.arena.observersAt event.source)

/-- Where there is no source, nobody has a turn. -/
theorem sourceTold_of_gone {t : Tree ε} {perform : Performer ε} {event : Event}
    (gone : t.store.arena.get? event.source = none) : t.sourceTold perform event = t.yield [] := by
  rw [sourceTold, observersAt, gone]
  rfl

/-- What comes of a notice once the source has had its turn, where nobody else calls back and the
walk goes on with these nodes. -/
def toldOn (first : Traced ε (List Failure)) (event : Event) (nodes : List NodeId) :
    Traced ε (List Failure) :=
  first.andThen fun failures t =>
    (t.told event (t.store.arena.audience nodes)).map fun more => failures ++ more

variable {t : Tree ε} {perform : Performer ε} {event : Event} {first : Traced ε (List Failure)}
  {n : Node} {above : List NodeId} {root : Identifier} {bound : Nat}

/-- **The walk goes on with the ancestors that the source has after its turn**, as far as its hops
take it. -/
theorem bubble_resumes (found : t.store.arena.get? event.source = some n)
    (turn : t.sourceTold perform event = first) (sound : first.tree.store.arena.Sound root)
    (up : first.tree.store.arena.Lineage event.source (event.source :: above))
    (quiet : ∀ x ∈ above, first.tree.QuietAt (first.tree.store.arena.observersAt x)) (hops : Nat) :
    bubble perform event (hops + 1) event.source t = toldOn first event (above.take hops) := by
  rw [bubble_succ found, ← observersAt_of_get? found]
  change (t.sourceTold perform event).andThen _ = _
  rw [turn]
  refine Traced.andThen_congr ?_
  cases up with
  | top found' alone =>
    have orphan : first.tree.store.arena.lastParent event.source = none := by
      rw [lastParent_of_get? found', Option.eq_none_iff_forall_ne_some]
      exact fun p up => alone p ((parent_eq_some_iff sound.wired sound.parented found').mp up)
    rw [orphan, List.take_nil]
    simp [yield, told, Traced.map, Arena.audience]
  | step edge up =>
    obtain ⟨m, found'⟩ := sound.live_of_owns edge
    have parent := (parent_eq_some_iff sound.wired sound.parented found').mpr edge
    rw [lastParent_of_get? found', parent, Option.elim_some, bubble_take sound up quiet]

/-- **The notice goes on in the same way**, whether it is walked or not. -/
theorem notifyWith_resumes (enrolled : t.store.Enrolled bound)
    (found : t.store.arena.get? event.source = some n)
    (turn : t.sourceTold perform event = first) (sound : first.tree.store.arena.Sound root)
    (up : first.tree.store.arena.Lineage event.source (event.source :: above))
    (quiet : ∀ x ∈ above, first.tree.QuietAt (first.tree.store.arena.observersAt x)) :
    t.notifyWith perform event =
      counted (toldOn first event (above.take t.store.arena.size)) := by
  rw [notifyWith]
  split
  · next nobody =>
    -- nobody has a turn, so that the tree is as it was and nobody is told further up
    have none : t.store.arena.subscriptions = [] :=
      List.eq_nil_of_length_eq_zero (enrolled.count.symm.trans nobody)
    rw [sourceTold, observersAt_eq_nil none] at turn
    subst turn
    show _ = counted ((t.yield []).andThen fun failures t =>
      (t.told event (t.store.arena.audience (above.take _))).map fun more => failures ++ more)
    simp only [Traced.andThen, yield, audience_eq_nil enrolled nobody, told_nil, Traced.map,
      counted, List.append_nil, List.length_nil, onStore_failed_zero]
  · rw [bubble_resumes found turn sound up quiet]
    rfl

end

/-- Who hears of an event after the turn of its source, where the notice goes on with these
nodes. -/
structure Resumes (first : Traced Empty (List Failure)) (event : Event) (nodes : List NodeId)
    (notice : Traced Empty (List Failure)) : Prop where
  /-- The subscriptions of one node have their turn in the order in which they were made. -/
  order : ∀ id, (first.tree.store.arena.observersAt id).Pairwise fun x y => x.number < y.number
  once : ((first.tree.store.arena.audience nodes).map Prod.snd).Nodup
  /-- Node by node, those who are subscribed there after the turn of the source hear of the event,
  each once, and nobody else does. -/
  heard : ∃ log, notice.log = first.log ++ log ∧
    log.map some = (first.tree.store.arena.audience nodes).map (first.tree.entry? event)
  failed : notice.value = first.value ++
    (first.tree.store.arena.audience nodes).filterMap first.tree.failure?
  left : notice.tree = first.tree.onStore (Store.afterFailures notice.value.length)

variable {first : Traced Empty (List Failure)} {event : Event} {root : Identifier}
  {above nodes : List NodeId}

theorem resumes_toldOn (sound : first.tree.store.arena.Sound root)
    (enrolled : first.tree.store.Enrolled first.tree.observers.size)
    (up : first.tree.store.arena.Lineage event.source (event.source :: above))
    (part : nodes.Sublist above) :
    Resumes first event nodes (counted (toldOn first event nodes)) where
  order := enrolled.order
  once := by
    have all := nodup_audience sound enrolled up
    rw [audience_snd] at all ⊢
    exact ((part.cons event.source).flatMap _).nodup all
  heard := ⟨_, rfl, map_entry? enrolled event nodes⟩
  failed := rfl
  left := rfl

end Tree

/-- What the observers at the source of an event leave in a reachable session is reachable. -/
theorem Session.Reachable.sourceTold {options : Options} {s : Session Empty}
    (h : s.Reachable options) (event : Event) (depth : Nat) :
    (⟨(s.tree.sourceTold (Tree.performWithin depth) event).tree, s.transactions⟩ :
      Session Empty).Reachable options := by
  obtain ⟨acts, performs⟩ : ∃ acts, Tree.Performs (Tree.performWithin depth) acts := by
    cases depth with
    | zero => exact ⟨fun _ _ => [], fun op t => rfl⟩
    | succ depth => exact ⟨_, Tree.after_operationActs (Tree.notifies_heardWithin depth)⟩
  have reached := h.after ((Tree.tellAllActs (Tree.performWithin depth) acts event.source event
    (s.tree.store.arena.observersAt event.source) s.tree).map .tree)
  rwa [Session.after_tree, Tree.after_tellAllActs performs] at reached

/-- **A notice goes on from where its source is after its turn**, however deep notices may nest.
Let nobody call back but the observers at the source of the event, and let the source hang below the
root when the last of them is done.  The notice then goes on upwards from there: of the ancestors
that the source has by then, up to the root, it reaches as many as there were nodes when it began,
the nearest first, and tells those who are subscribed at them by then, each of them once.  It
reaches all of them if the observers at the source have left at most one node more than there
was. -/
theorem notice_resumes (options : Options) (s : Session Empty) (h : s.Reachable options)
    (event : Event) (depth : Nat) :
    let first := s.tree.sourceTold (Tree.performWithin depth) event
    let a := first.tree.store.arena
    (∀ id n, a.get? id = some n → id ≠ event.source → first.tree.QuietAt n.observers) →
    a.Attached event.source →
    ∃ above, a.Lineage event.source (event.source :: above) ∧
      (event.source :: above).getLast? = some .root ∧
      (∀ x, x ∈ above ↔ TransGen a.Owns x event.source) ∧
      Tree.Resumes first event (above.take s.tree.store.arena.size)
        (s.tree.notifyWithin depth event) ∧
      (a.size ≤ s.tree.store.arena.size + 1 →
        Tree.Resumes first event above (s.tree.notifyWithin depth event)) := by
  intro first a quiet attached
  have reached := h.sourceTold event depth
  have sound : a.Sound _ := (Store.upright_of_reachable reached).sound
  obtain ⟨way, up⟩ := sound.exists_lineage event.source
  obtain ⟨m, found⟩ := sound.live_of_attached attached
  obtain ⟨above, rfl⟩ := up.exists_above found
  have apart := (List.nodup_cons.mp (up.nodup sound)).1
  have quietly : ∀ x ∈ above, first.tree.QuietAt (a.observersAt x) := by
    intro x mem
    obtain ⟨⟨n, found⟩, -⟩ := (up.mem_iff sound).mp (List.mem_cons_of_mem _ mem)
    rw [observersAt_of_get? found]
    exact quiet x n found fun same => apart (same ▸ mem)
  -- had the source not been there from the first, nothing would have happened
  obtain ⟨n, live⟩ : ∃ n, s.tree.store.arena.get? event.source = some n := by
    cases missing : s.tree.store.arena.get? event.source with
    | some n => exact ⟨n, rfl⟩
    | none =>
      have still : first = s.tree.yield [] := Tree.sourceTold_of_gone missing
      have gone : first.tree.store.arena.get? event.source = none := by
        rw [still]
        exact missing
      exact absurd (gone.symm.trans found) (Option.some_ne_none m).symm
  have notice := Tree.notifyWith_resumes (enrolled_of_reachable h) live rfl sound up quietly
  rw [← Tree.notifyWithin_eq_notifyWith] at notice
  have resumes : Tree.Resumes first event (above.take s.tree.store.arena.size)
      (s.tree.notifyWithin depth event) :=
    notice ▸ Tree.resumes_toldOn sound (enrolled_of_reachable reached) up (List.take_sublist _ _)
  refine ⟨above, up, up.ends_at_root sound attached, fun x => up.mem_above_iff sound, resumes,
    fun few => ?_⟩
  have long := up.length_le sound
  rw [List.length_cons] at long
  rwa [List.take_of_length_le (by omega)] at resumes

/-- Moves a cart from the root into a shed in a new yard, and has the shed watched. -/
def cartMoves : List (Op Empty) :=
  [.mutate (.remove .root ⟨1⟩), .mutate (.create (some .root) "yard" .group none),
    .mutate (.create (some ⟨2⟩) "shed" .group none), .subscribe ⟨3⟩ "guard" .accept,
    .mutate (.add ⟨3⟩ ⟨1⟩)]

/-- The session of a cart under the root, which one observer watches; another one at the cart moves
it as soon as it hears of anything. -/
def Session.hauled : Session Empty :=
  let new : Session Empty := ⟨.ofStore .standard, #[]⟩
  let cart := new.next (.perform (.mutate (.create (some .root) "cart" .group none)))
  let watched := cart.next (.perform (.subscribe .root "watch" .accept))
  watched.next (.perform (.subscribe ⟨1⟩ "haul" (.call 1 cartMoves)))

theorem Session.reachable_hauled : Session.hauled.Reachable .standard :=
  (((Session.Reachable.fresh rfl).next _).next _).next _

/-- Something is up with the cart. -/
def Event.atCart : Event :=
  ⟨.treeChanged, ⟨1⟩, none, none⟩

/-- What the observer at the cart does about it. -/
def Session.cartTold : Traced Empty (List Failure) :=
  Session.hauled.tree.sourceTold (Tree.performWithin Session.hauled.tree.weight) .atCart

theorem Session.quiet_cartTold : Session.cartTold.tree.Quiet := by
  refine Tree.quiet_of_reactions fun o mem => ?_
  have registered : Session.cartTold.tree.observers.toList =
      [⟨"watch", .accept⟩, ⟨"haul", .call 0 cartMoves⟩, ⟨"guard", .accept⟩] := by cbv
  rw [← Array.mem_toList_iff, registered] at mem
  simp only [List.mem_cons, List.not_mem_nil, or_false] at mem
  rcases mem with rfl | rfl | rfl <;> trivial

theorem Session.sound_cartTold :
    Session.cartTold.tree.store.arena.Sound Session.cartTold.tree.store.rootIdentifier :=
  (Store.upright_of_reachable
    (Session.reachable_hauled.sourceTold .atCart Session.hauled.tree.weight)).sound

/-- The cart is in the shed, the shed in the yard, and the yard under the root. -/
theorem Session.lineage_cartTold :
    Session.cartTold.tree.store.arena.Lineage ⟨1⟩ [⟨1⟩, ⟨3⟩, ⟨2⟩, .root] := by
  have shed : Session.cartTold.tree.store.arena.Owns ⟨3⟩ ⟨1⟩ := of_decide_eq_true (by cbv)
  have yard : Session.cartTold.tree.store.arena.Owns ⟨2⟩ ⟨3⟩ := of_decide_eq_true (by cbv)
  have root : Session.cartTold.tree.store.arena.Owns .root ⟨2⟩ := of_decide_eq_true (by cbv)
  exact .step shed (.step yard (.step root Session.sound_cartTold.lineage_root))

theorem Session.attached_cartTold : Session.cartTold.tree.store.arena.Attached ⟨1⟩ :=
  ((Session.lineage_cartTold.mem_iff Session.sound_cartTold).mp (by simp)).2

/-- The guard of the shed hears of the cart that was moved there; the notice goes up to the yard,
and no further. -/
theorem notice_resumes_hauled :
    Session.hauled.Reachable .standard ∧ Session.cartTold.tree.Quiet ∧
      Session.cartTold.tree.store.arena.Attached ⟨1⟩ ∧
      Tree.Resumes Session.cartTold .atCart [⟨3⟩, ⟨2⟩] (Session.hauled.tree.notify .atCart) ∧
      Session.cartTold.tree.store.arena.audience [⟨3⟩, ⟨2⟩] = [(⟨3⟩, ⟨3⟩)] := by
  obtain ⟨above, up, -, -, resumes, -⟩ := notice_resumes .standard Session.hauled
    Session.reachable_hauled .atCart Session.hauled.tree.weight
    (fun id n found _ => Session.quiet_cartTold id n found) Session.attached_cartTold
  obtain rfl : above = [⟨3⟩, ⟨2⟩, .root] :=
    List.tail_eq_of_cons_eq (up.unique Session.sound_cartTold Session.lineage_cartTold)
  have size : Session.hauled.tree.store.arena.size = 2 := by cbv
  rw [size] at resumes
  exact ⟨Session.reachable_hauled, Session.quiet_cartTold, Session.attached_cartTold, resumes,
    by cbv⟩

/-- So it is not true that a notice goes on with all ancestors of its source, up to the root. -/
theorem root_not_told :
    ¬∀ (options : Options) (s : Session Empty), s.Reachable options → ∀ event : Event,
      let first := s.tree.sourceTold (Tree.performWithin s.tree.weight) event
      let a := first.tree.store.arena
      (∀ id n, a.get? id = some n → id ≠ event.source → first.tree.QuietAt n.observers) →
      a.Attached event.source →
      ∃ above, a.Lineage event.source (event.source :: above) ∧
        Tree.Resumes first event above (s.tree.notify event) := by
  intro claim
  obtain ⟨above, up, resumes⟩ := claim .standard Session.hauled Session.reachable_hauled .atCart
    (fun id n found _ => Session.quiet_cartTold id n found) Session.attached_cartTold
  obtain rfl : above = [⟨3⟩, ⟨2⟩, .root] :=
    List.tail_eq_of_cons_eq (up.unique Session.sound_cartTold Session.lineage_cartTold)
  obtain ⟨log, all, heard⟩ := resumes.heard
  -- the guard and the watch are subscribed on the way up, but one of them only hears of the cart
  have due : (Session.cartTold.tree.store.arena.audience [⟨3⟩, ⟨2⟩, .root]).length = 2 := by cbv
  have before : Session.cartTold.log.length = 11 := by cbv
  have after : (Session.hauled.tree.notify .atCart).log.length = 12 := by cbv
  have told := congrArg List.length heard
  have total := congrArg List.length all
  rw [List.length_map, List.length_map] at told
  rw [List.length_append, after] at total
  have same : log.length = 2 := told.trans due
  have first : 12 = 11 + log.length := total.trans (congrArg (· + log.length) before)
  omega

end DeviceTree
