/-
Making a link and unmaking it.

A link that was made may be unmade at once, under its target or under its name in whatever case, and
nothing is left of it: it comes last at both of its ends, and neither end knew of it before.  A link
that was unmade may be made again under its name, and comes last then.  No choice ever falls on a
child edge and takes it away, for the children and links of a node share one set of targets and one
set of names.

* `Wired.select_eq_some_iff` -- the reference that a choice means is the one that is found;
* `Store.unlink_ok_iff` -- when a link may be unmade, and what goes with it;
* `Sound.unlink_link` -- a link that is made and unmade;
* `Sound.admits_unlink`, `Wired.link_unlink` -- a link that is unmade and made again;
* `links_undone` -- both, wherever one may get to, asked of the tree or within a transaction.
-/
import DeviceTree.Proofs.Batch
import DeviceTree.Proofs.Return
import Mathlib

namespace DeviceTree

open Relation

/-- The choice is of that reference: by its target, or by its name up to ASCII case. -/
def LinkChoice.Means (choice : LinkChoice) (r : Reference) : Prop :=
  match choice with
  | .target aim => r.target = aim
  | .named name => Text.fold r.identifier.text = Text.fold name

namespace Arena

variable {a b : Arena} {root name : Identifier} {x id source target : NodeId} {n m : Node}
  {r : Reference} {choice : LinkChoice}

/-! ### Choices -/

/-- **The reference that a choice means is the one that is found**: targets and names differ. -/
theorem Wired.select_eq_some_iff (w : a.Wired) (found : a.get? x = some n) :
    Store.select n choice = some r ↔ r ∈ n.forward ∧ choice.Means r := by
  have alone : ∀ r' ∈ n.forward, r ∈ n.forward → choice.Means r' → choice.Means r → r' = r := by
    intro r' mem' mem means' means
    cases choice with
    | target target => exact w.eq_of_target found mem' mem (means'.trans means.symm)
    | named name =>
      exact List.inj_on_of_nodup_map (w.names found) mem' mem (means'.trans means.symm)
  -- both searches take the first reference that the choice means
  obtain ⟨p, search, meant⟩ : ∃ p : Reference → Bool, Store.select n choice = n.forward.find? p ∧
      ∀ r', p r' = true ↔ choice.Means r' := by
    cases choice with
    | target target => exact ⟨_, rfl, fun r' => decide_eq_true_iff⟩
    | named name => exact ⟨_, rfl, fun r' => Text.sameFold_iff⟩
  rw [search]
  constructor
  · intro first
    exact ⟨List.mem_of_find?_eq_some first, (meant r).mp (List.find?_some first)⟩
  · rintro ⟨mem, means⟩
    cases first : n.forward.find? p with
    | none => exact absurd ((meant r).mpr means) (List.find?_eq_none.mp first r mem)
    | some r' =>
      have mem' := List.mem_of_find?_eq_some first
      have means' := (meant r').mp (List.find?_some first)
      rw [alone r' mem' mem means' means]

/-! ### Unmade -/

/-- **To unmake a link takes out its two halves**, nothing else. -/
theorem Wired.becomes_snipped (w : a.Wired) (hs : a.get? r.source = some n) (mem : r ∈ n.forward)
    (isLink : r.isLink = true) : Becomes a (a.unlink r.source r.target) (snipped r) := by
  have kind : r.kind = .link := of_decide_eq_true isLink
  intro id
  rw [unlink, get?_modify, get?_modify]
  cases found : a.get? id with
  | none => simp
  | some k =>
    obtain ⟨forward, inverse⟩ := w.erase_halves hs mem found
    rw [kind] at forward inverse
    simp only [Node.eraseForward, Node.eraseInverse, Node.mk.injEq] at forward inverse
    by_cases hs : r.source = id <;> by_cases ht : r.target = id <;>
      simp_all [snipped, Node.eraseForward, Node.eraseInverse]

theorem gaps_link (a : Arena) (source target : NodeId) (name : Identifier) :
    (a.link source target name).gaps = a.gaps :=
  (gaps_modify _ source _).trans (gaps_modify a target _)

theorem gaps_unlink (a : Arena) (source target : NodeId) : (a.unlink source target).gaps = a.gaps :=
  (gaps_modify _ source _).trans (gaps_modify a target _)

theorem Wired.unlink_eq (w : a.Wired) (hs : a.get? r.source = some n) (mem : r ∈ n.forward)
    (isLink : r.isLink = true) :
    a.unlink r.source r.target =
      (a.modify r.target fun m => { m with inverse := m.inverse.erase r.flip }).modify r.source
        fun n => { n with forward := n.forward.erase r } := by
  refine ext_gaps ?_ fun id => ?_
  · rw [gaps_unlink, gaps_modify, gaps_modify]
  · rw [w.becomes_snipped hs mem isLink, get?_modify, get?_modify]
    cases a.get? id <;> by_cases hs : r.source = id <;> by_cases ht : r.target = id <;>
      simp [snipped, hs, ht]

/-! ### Made and unmade -/

/-- The forward half of the link. -/
def linkEdge (source target : NodeId) (name : Identifier) : Reference :=
  ⟨name, source, target, .link, .forward⟩

/-- **A link that is made and unmade again leaves nothing.** -/
theorem Sound.unlink_link (sound : a.Sound root) (fits : Fits a (linkEdge source target name) n m)
    (open_ : ¬ReflTransGen a.Leads target source) :
    (a.link source target name).unlink source target = a := by
  obtain ⟨new, new'⟩ := sound.wired.not_mem_of_fits fits
  have hs : a.get? source = some n := fits.source
  have ht : a.get? target = some m := fits.target
  have made := becomes_link a source target name
  have unmade := (sound.link fits open_).wired.becomes_snipped (r := linkEdge source target name)
    (made.live hs) (by simp [pushed, linkEdge]) rfl
  -- neither end knew of the link before, so what is taken out is what was put in
  refine ext_gaps ?_ fun id => ?_
  · rw [gaps_unlink, gaps_link]
  · cases found : a.get? id with
    | none =>
      rw [← found]
      exact (made.trans unmade id).trans (by rw [found, Option.map_none])
    | some k =>
      refine ((made.trans unmade).live found).trans (congrArg some (snipped_pushed ?_ ?_))
      · rintro rfl
        exact Option.some.inj (hs.symm.trans found) ▸ new
      · rintro rfl
        exact Option.some.inj (ht.symm.trans found) ▸ new'

/-! ### Unmade and made again -/

theorem Wired.eq_linkEdge (w : a.Wired) (hs : a.get? source = some n) (mem : r ∈ n.forward)
    (isLink : r.isLink = true) : r = linkEdge source r.target r.identifier := by
  obtain ⟨way, here, -⟩ := w.forward hs mem
  have kind : r.kind = .link := of_decide_eq_true isLink
  cases r
  simp_all [linkEdge]

/-- **A link that was unmade may be made again.** -/
theorem Sound.admits_unlink (sound : a.Sound root) (hs : a.get? r.source = some n)
    (mem : r ∈ n.forward) (isLink : r.isLink = true) :
    (a.unlink r.source r.target).Admits r := by
  have becomes := sound.wired.becomes_snipped hs mem isLink
  have kind : r.kind = .link := of_decide_eq_true isLink
  refine sound.admits_erase hs mem becomes (if_pos rfl) (fun x y => ?_) fun m hm child => ?_
  · exact leads_drop (sound.wired.becomes_unlink r.source r.target) (drops_dropped _ _ _)
  · rw [kind] at child
    cases child

/-- **Once it is made again everything is as it was**, but for its place at both of its ends. -/
theorem Wired.link_unlink (w : a.Wired) (hs : a.get? r.source = some n) (mem : r ∈ n.forward)
    (isLink : r.isLink = true) :
    (a.unlink r.source r.target).link r.source r.target r.identifier =
      (a.modify r.target fun m => { m with inverse := m.inverse.erase r.flip ++ [r.flip] }).modify
        r.source fun n => { n with forward := n.forward.erase r ++ [r] } := by
  have edge := w.eq_linkEdge hs mem isLink
  have becomes := (w.becomes_snipped hs mem isLink).trans
    (becomes_link _ r.source r.target r.identifier)
  rw [← linkEdge, ← edge] at becomes
  refine ext_gaps ?_ fun id => ?_
  · rw [gaps_link, gaps_unlink, gaps_modify, gaps_modify]
  · rw [becomes, get?_modify, get?_modify]
    cases a.get? id <;> by_cases hs : r.source = id <;> by_cases ht : r.target = id <;>
      simp [snipped, pushed, hs, ht]

end Arena

open Arena

/-- **When a link may be unmade**: the choice means it, and it is no child edge. -/
theorem Store.unlink_ok_iff {s t : Store} {source : NodeId}
    {choice : LinkChoice} {c : Change Identifier} (w : s.arena.Wired) :
    unlink source choice s = .ok c t ↔ ∃ n r, s.arena.get? source = some n ∧ r ∈ n.forward ∧
      r.isLink = true ∧ choice.Means r ∧
      c = ⟨r.identifier, some (.edge .linkRemoved source r.target r.identifier)⟩ ∧
      t = (s.unmakeLink source r.target).invalidate := by
  rw [unlink_ok]
  constructor
  · rintro ⟨n, r, hs, picked, isLink, rfl, rfl⟩
    obtain ⟨mem, means⟩ := (w.select_eq_some_iff hs).mp picked
    exact ⟨n, r, hs, mem, isLink, means, rfl, rfl⟩
  · rintro ⟨n, r, hs, mem, isLink, means, rfl, rfl⟩
    exact ⟨n, r, hs, (w.select_eq_some_iff hs).mpr ⟨mem, means⟩, isLink, rfl, rfl⟩

/-! ### Where mutations are asked for -/

/-- The mutation, asked of the tree or of the transaction of that number. -/
def Mutation.asked (m : Mutation) : Option Nat → Step Empty
  | none => m.alone
  | some number => m.inside number

namespace Session

variable {s : Session Empty} {place : Option Nat} {m : Mutation} {o : StepOutcome Empty}
  {answer : Answer} {root : Identifier}

/-- Whoever asks there is let in: nobody holds the lock, and no observer calls back, or else a write
transaction holds it. -/
def Opens (s : Session Empty) : Option Nat → Prop
  | none => s.tree.store.lock.isFree = true ∧ s.tree.Quiet
  | some number => ∃ k, s.transactions[number]? = some (some (.write ⟨true, k⟩))

/-- The store as a mutation finds it that is asked for there. -/
def storeAt (s : Session Empty) : Option Nat → Store
  | none => s.tree.store.locked
  | some _ => s.tree.store

theorem arena_storeAt (s : Session Empty) (place : Option Nat) :
    (s.storeAt place).arena = s.tree.store.arena := by
  cases place <;> rfl

/-- A mutation is granted only to one who is let in. -/
theorem opens_of_granted (quiet : s.tree.Quiet) (stepped : s.step (m.asked place) = some o)
    (granted : o.answer = .ok answer) :
    s.Opens place ∧ ∃ c u, m.apply (s.storeAt place) = .ok c u ∧ answer = c.value := by
  cases place with
  | none =>
    obtain rfl := Option.some.inj stepped
    obtain ⟨free, c, u, applied, value⟩ := Tree.granted_of_perform granted
    exact ⟨⟨free, quiet⟩, c, u, applied, value⟩
  | some number =>
    rcases found : s.transactions[number]? with _ | _ | tx
    · simp [Mutation.asked, Mutation.inside, Session.step, found] at stepped
    · simp [Mutation.asked, Mutation.inside, Session.step, found] at stepped
    · have inside := (step_within found (.mutate m)).symm.trans stepped
      rcases tx with ⟨active, k⟩ | active
      · simp only [stepWithin, WriteTransaction.perform, Option.some.injEq] at inside
        subst inside
        cases active with
        | false => simp at granted
        | true =>
          cases applied : m.apply s.tree.store with
          | error e u => simp [applied] at granted
          | ok c u =>
            simp only [applied, if_true, Except.ok.injEq] at granted
            exact ⟨⟨k, found⟩, c, u, applied, granted.symm⟩
      · simp [stepWithin] at inside

/-- **What a mutation comes to for one who is let in**: what its request does to the store, but for
the counters, and he is let in again. -/
theorem step_of_opens (sound : s.tree.store.arena.Sound root) (opens : s.Opens place)
    {c : Change Answer} {u : Store} (applied : m.apply (s.storeAt place) = .ok c u) :
    ∃ o, s.step (m.asked place) = some o ∧ o.answer = .ok c.value ∧ o.session.Opens place ∧
      ∃ counters, o.session.tree =
        { s.tree with store := { u with lock := s.tree.store.lock, counters } } := by
  cases place with
  | none =>
    have idle : s.tree.Idle root := ⟨sound, opens.1, opens.2⟩
    have after := idle.perform m
    obtain ⟨value, -⟩ := Tree.perform_failed idle applied
    exact ⟨_, rfl, value, ⟨after.free, after.quiet⟩, Tree.perform_leaves idle applied⟩
  | some number =>
    obtain ⟨k, found⟩ := opens
    have lock : u.lock = s.tree.store.lock := (Store.effects_of_apply applied).lock
    have inside : s.step (m.asked (some number)) = some ⟨.ok c.value,
        putTx ⟨{ s.tree with store := u }, s.transactions⟩ number (some (.write ⟨true, k + 1⟩)),
        []⟩ := by
      refine (step_within found (.mutate m)).trans ?_
      have applied' : m.apply s.tree.store = .ok c u := applied
      simp only [stepWithin, WriteTransaction.perform, if_true, applied']
    refine ⟨_, inside, rfl, ⟨k + 1, ?_⟩, u.counters, ?_⟩
    · exact getElem?_putTx (s := ⟨_, s.transactions⟩) (Array.getElem?_eq_some_iff.mp found).1 _
    · rw [← lock]
      rfl

/-- What a mutation has done that was granted, and that he who asked is let in again. -/
theorem step_of_granted (sound : s.tree.store.arena.Sound root) (quiet : s.tree.Quiet)
    (stepped : s.step (m.asked place) = some o) (granted : o.answer = .ok answer) :
    s.Opens place ∧ o.session.Opens place ∧
      ∃ c u counters, m.apply (s.storeAt place) = .ok c u ∧ answer = c.value ∧
        o.session.tree = { s.tree with store := { u with lock := s.tree.store.lock, counters } } := by
  obtain ⟨opens, c, u, applied, value⟩ := opens_of_granted quiet stepped granted
  obtain ⟨o', stepped', -, again, counters, left⟩ := step_of_opens sound opens applied
  obtain rfl : o = o' := Option.some.inj (stepped.symm.trans stepped')
  exact ⟨opens, again, c, u, counters, applied, value, left⟩

/-- A mutation that is refused there changes nothing. -/
theorem eq_afterRefusal (stepped : s.step (m.asked place) = some o) {e : Error}
    (refused : o.answer = .error e) : o.session = s.afterRefusal e := by
  cases place with
  | none =>
    obtain rfl := Option.some.inj stepped
    exact congrArg (Session.mk · s.transactions)
      (change_refused (clean_apply m) refused).2
  | some number =>
    rcases found : s.transactions[number]? with _ | _ | tx
    · simp [Mutation.asked, Mutation.inside, Session.step, found] at stepped
    · simp [Mutation.asked, Mutation.inside, Session.step, found] at stepped
    · have inside := (step_within found (.mutate m)).symm.trans stepped
      exact (stepWithin_refused found inside refused).2

variable {source target : NodeId} {identifier : Option String} {choice : LinkChoice}
  {name : Identifier} {n : Node} {r : Reference}

theorem link_of_granted (sound : s.tree.store.arena.Sound root) (quiet : s.tree.Quiet)
    (stepped : s.step ((Mutation.link source target identifier).asked place) = some o)
    (granted : o.answer = .ok answer) :
    o.session.Opens place ∧ ∃ n m name,
      Fits s.tree.store.arena (linkEdge source target name) n m ∧
      name.text = identifier.getD m.identifier.text ∧
      ¬ReflTransGen s.tree.store.arena.Leads target source ∧
      ∃ cache counters, o.session.tree =
        { s.tree with
          store :=
            { s.tree.store with
              arena := s.tree.store.arena.link source target name, cache, counters } } := by
  obtain ⟨-, again, c, u, counters, applied, -, left⟩ := step_of_granted sound quiet stepped granted
  obtain ⟨c', linked, rfl⟩ := Request.map_ok.mp applied
  obtain ⟨n, m, name, hs, ht, named, apart, free, -, open_, -, rfl⟩ := Store.link_ok.mp linked
  rw [arena_storeAt] at hs ht open_
  refine ⟨again, n, m, name, ⟨hs, ht, rfl, free, apart⟩, Store.linkName_ok named,
    Store.not_leads_of_leadsTo open_, ?_⟩
  cases place <;> exact ⟨_, counters, left⟩

theorem unlink_of_granted (sound : s.tree.store.arena.Sound root) (quiet : s.tree.Quiet)
    (stepped : s.step ((Mutation.unlink source choice).asked place) = some o)
    (granted : o.answer = .ok answer) :
    o.session.Opens place ∧ ∃ n r, s.tree.store.arena.get? source = some n ∧ r ∈ n.forward ∧
      r.isLink = true ∧ choice.Means r ∧ answer = .name r.identifier ∧
      ∃ cache counters, o.session.tree =
        { s.tree with
          store :=
            { s.tree.store with
              arena := s.tree.store.arena.unlink source r.target, cache, counters } } := by
  obtain ⟨-, again, c, u, counters, applied, rfl, left⟩ :=
    step_of_granted sound quiet stepped granted
  obtain ⟨c', unlinked, rfl⟩ := Request.map_ok.mp applied
  have wired : (s.storeAt place).arena.Wired := arena_storeAt s place ▸ sound.wired
  obtain ⟨n, r, hs, mem, isLink, means, rfl, rfl⟩ := (Store.unlink_ok_iff wired).mp unlinked
  rw [arena_storeAt] at hs
  refine ⟨again, n, r, hs, mem, isLink, means, rfl, ?_⟩
  cases place <;> exact ⟨_, counters, left⟩

/-- **A link that may be made is made.** -/
theorem link_granted (sound : s.tree.store.arena.Sound root) (opens : s.Opens place)
    (admits : s.tree.store.arena.Admits (linkEdge source target name)) :
    ∃ o, s.step ((Mutation.link source target (some name.text)).asked place) = some o ∧
      o.answer = .ok .done ∧ ∃ cache counters, o.session.tree =
        { s.tree with
          store :=
            { s.tree.store with
              arena := s.tree.store.arena.link source target name, cache, counters } } := by
  obtain ⟨holder, m, fits, only⟩ := admits.fits
  have ht : s.tree.store.arena.get? target = some m := fits.target
  have edge : (Mutation.link source target (some name.text)).edge? (s.storeAt place).arena =
      some (linkEdge source target name) := by
    have named : readName name.text = .ok name := Store.readName_ok.mpr rfl
    rw [arena_storeAt, Mutation.edge?, ht, Option.bind_some, Store.linkName, named]
    rfl
  have applied := (Store.apply_wires_ok (m := .link source target (some name.text)) rfl).mpr
    ⟨_, edge, arena_storeAt s place ▸ admits, rfl, rfl⟩
  obtain ⟨o, stepped, value, -, counters, left⟩ := step_of_opens sound opens applied
  refine ⟨o, stepped, value, ?_⟩
  cases place <;> exact ⟨_, counters, left⟩

/-- **A link that is meant is unmade.** -/
theorem unlink_granted (sound : s.tree.store.arena.Sound root) (opens : s.Opens place)
    (hs : s.tree.store.arena.get? source = some n) (mem : r ∈ n.forward)
    (isLink : r.isLink = true) (means : choice.Means r) :
    ∃ o, s.step ((Mutation.unlink source choice).asked place) = some o ∧
      o.answer = .ok (.name r.identifier) ∧ ∃ cache counters, o.session.tree =
        { s.tree with
          store :=
            { s.tree.store with
              arena := s.tree.store.arena.unlink source r.target, cache, counters } } := by
  have wired : (s.storeAt place).arena.Wired := arena_storeAt s place ▸ sound.wired
  have unlinked := (Store.unlink_ok_iff wired).mpr
    ⟨n, r, (arena_storeAt s place).symm ▸ hs, mem, isLink, means, rfl, rfl⟩
  have applied : (Mutation.unlink source choice).apply (s.storeAt place) = _ :=
    Request.map_ok.mpr ⟨_, unlinked, rfl⟩
  obtain ⟨o, stepped, value, -, counters, left⟩ := step_of_opens sound opens applied
  refine ⟨o, stepped, value, ?_⟩
  cases place <;> exact ⟨_, counters, left⟩

end Session

/-- **A link may be made and unmade, and unmade and made again.**  Let no observer call back; the
requests may be asked of the tree or all within one write transaction.

If a link is made, it may be unmade at once, under its target or under its name in whatever case.
That yields the name as it is kept, and the arena is what it was, down to the order of all
references.  If a link is unmade, it may be made again at once under the name that it had, and the
arena is what it was, but that the link comes last at both of its ends.  What is unmade is a link of
the source that is meant, and its two halves are all that goes; whoever means a child edge is
refused, and a refusal changes nothing. -/
theorem links_undone (options : Options) (s : Session Empty) (h : s.Reachable options)
    (quiet : s.tree.Quiet) (place : Option Nat) (source target : NodeId) :
    let a := s.tree.store.arena
    let link := fun identifier => (Mutation.link source target identifier).asked place
    let unlink := fun choice => (Mutation.unlink source choice).asked place
    (∀ identifier o answer, s.step (link identifier) = some o → o.answer = .ok answer →
      ∃ n m name, o.session.tree.store.arena.get? source = some n ∧ a.get? target = some m ∧
        linkEdge source target name ∈ n.forward ∧
        name.text = identifier.getD m.identifier.text ∧
        ∀ choice, (choice = .target target ∨
            ∃ other, choice = .named other ∧ Text.fold name.text = Text.fold other) →
          ∃ o', o.session.step (unlink choice) = some o' ∧ o'.answer = .ok (.name name) ∧
            ∃ cache counters, o'.session.tree =
              { s.tree with store := { s.tree.store with cache, counters } }) ∧
    (∀ o name, s.step (unlink (.target target)) = some o → o.answer = .ok (.name name) →
      let r := linkEdge source target name
      ∃ n m, a.get? source = some n ∧ r ∈ n.forward ∧ a.get? target = some m ∧ r.flip ∈ m.inverse ∧
        ∃ o', o.session.step (link (some name.text)) = some o' ∧ o'.answer = .ok .done ∧
          ∃ cache counters, o'.session.tree =
            { s.tree with
              store :=
                { s.tree.store with
                  arena :=
                    (a.modify target fun m =>
                      { m with inverse := m.inverse.erase r.flip ++ [r.flip] }).modify source
                        fun n => { n with forward := n.forward.erase r ++ [r] }
                  cache, counters } }) ∧
    ∀ choice o, s.step (unlink choice) = some o →
      (∀ e, o.answer = .error e → o.session = s.afterRefusal e) ∧
      (∀ answer, o.answer = .ok answer →
        ∃ n r cache counters, a.get? source = some n ∧ r ∈ n.forward ∧ r.isLink = true ∧
          choice.Means r ∧ answer = .name r.identifier ∧
          o.session.tree =
            { s.tree with
              store :=
                { s.tree.store with
                  arena :=
                    (a.modify r.target fun m => { m with inverse := m.inverse.erase r.flip }).modify
                      source fun n => { n with forward := n.forward.erase r }
                  cache, counters } }) ∧
      ∀ n r, a.get? source = some n → r ∈ n.forward → r.isChild = true → choice.Means r →
        ∃ e, o.answer = .error e := by
  intro a link unlink
  have sound : a.Sound _ := (Store.upright_of_reachable h).sound
  refine ⟨fun identifier o answer stepped granted => ?_, fun o name stepped granted => ?_,
    fun choice o stepped => ⟨fun e => Session.eq_afterRefusal stepped,
      fun answer granted => ?_, fun n r hs mem isChild means => ?_⟩⟩
  · obtain ⟨again, n, m, name, fits, named, open_, cache, counters, left⟩ :=
      Session.link_of_granted sound quiet stepped granted
    have arena : o.session.tree.store.arena = a.link source target name := by rw [left]
    have there : o.session.tree.store.arena.get? source = some _ :=
      arena ▸ (becomes_link a source target name).live fits.source
    have mem : linkEdge source target name ∈
        (pushed (linkEdge source target name) source n).forward := by
      simp [pushed, linkEdge]
    refine ⟨_, m, name, there, fits.target, mem, named, fun choice chosen => ?_⟩
    have means : choice.Means (linkEdge source target name) := by
      rcases chosen with rfl | ⟨other, rfl, same⟩
      · rfl
      · exact same
    obtain ⟨o', stepped', value, cache', counters', left'⟩ :=
      Session.unlink_granted (arena ▸ sound.link fits open_) again there mem rfl means
    refine ⟨o', stepped', value, cache', counters', ?_⟩
    have whole : o.session.tree.store.arena.unlink source target = a :=
      arena ▸ sound.unlink_link fits open_
    rw [left', show (linkEdge source target name).target = target from rfl, whole, left]
  · obtain ⟨again, n, r, hs, mem, isLink, means, named, cache, counters, left⟩ :=
      Session.unlink_of_granted sound quiet stepped granted
    obtain rfl : r.target = target := means
    obtain rfl : name = r.identifier := Answer.name.inj named
    have edge := sound.wired.eq_linkEdge hs mem isLink
    obtain ⟨-, here, m, hm, half⟩ := sound.wired.forward hs mem
    have arena : o.session.tree.store.arena = a.unlink source r.target := by rw [left]
    have sound' : o.session.tree.store.arena.Sound _ := arena ▸ sound.unlink source r.target
    have admits : o.session.tree.store.arena.Admits (linkEdge source r.target r.identifier) := by
      rw [arena, ← edge, ← here]
      exact sound.admits_unlink (here ▸ hs) mem isLink
    obtain ⟨o', stepped', value, cache', counters', left'⟩ :=
      Session.link_granted sound' again admits
    rw [← edge]
    refine ⟨n, m, hs, mem, hm, half, o', stepped', value, cache', counters', ?_⟩
    have whole := sound.wired.link_unlink (here ▸ hs) mem isLink
    rw [here] at whole
    rw [left', arena, whole, left]
  · obtain ⟨-, n, r, hs, mem, isLink, means, rfl, cache, counters, left⟩ :=
      Session.unlink_of_granted sound quiet stepped granted
    obtain ⟨-, here, -⟩ := sound.wired.forward hs mem
    have gone := sound.wired.unlink_eq (here ▸ hs) mem isLink
    rw [here] at gone
    exact ⟨n, r, cache, counters, hs, mem, isLink, means, rfl, gone ▸ left⟩
  · cases outcome : o.answer with
    | error e => exact ⟨e, rfl⟩
    | ok answer =>
      -- the choice would have fallen on this edge, which is no link
      obtain ⟨-, n', r', hs', mem', isLink, means', -⟩ :=
        Session.unlink_of_granted sound quiet stepped outcome
      obtain rfl : n = n' := Option.some.inj (hs.symm.trans hs')
      have first := (sound.wired.select_eq_some_iff hs).mpr ⟨mem, means⟩
      have second := (sound.wired.select_eq_some_iff hs).mpr ⟨mem', means'⟩
      obtain rfl : r = r' := Option.some.inj (first.symm.trans second)
      rw [Reference.isChild, decide_eq_true_eq] at isChild
      simp [Reference.isLink, isChild] at isLink

/-- A session with three links from the gate, to the hall, the rack and the shelf, in which a write
transaction is open. -/
def Session.crossed : Session Empty :=
  let spare := Session.gated.next (.perform (.mutate (.link ⟨4⟩ ⟨3⟩ (some "Spare"))))
  let rack := spare.next (.perform (.mutate (.link ⟨4⟩ ⟨1⟩ none)))
  rack.next .beginWrite

/-- Within the transaction the shelf is linked as well, and that is undone under its name; the link
to the hall is unmade by its target and comes back behind that to the rack. -/
theorem links_undone_crossed :
    let s := Session.crossed
    let within := fun m : Mutation => m.asked (some 0)
    s.Reachable .standard ∧ s.tree.Quiet ∧
      (∃ o o', s.step (within (.link ⟨4⟩ ⟨2⟩ (some "Shelf"))) = some o ∧ o.answer = .ok .done ∧
        o.session.step (within (.unlink ⟨4⟩ (.named "SHELF"))) = some o' ∧
        o'.session.tree.store.arena = s.tree.store.arena) ∧
      ∃ o o' name, s.step (within (.unlink ⟨4⟩ (.target ⟨3⟩))) = some o ∧
        o.answer = .ok (.name name) ∧ name.text = "Spare" ∧
        o.session.step (within (.link ⟨4⟩ ⟨3⟩ (some name.text))) = some o' ∧
        o'.answer = .ok .done := by
  intro s within
  have gated : Session.gated.Reachable .standard := Session.reachable_stored.next _
  have reached : s.Reachable .standard := ((gated.next _).next _).next _
  have quiet : s.tree.Quiet := by
    have observers : Session.crossed.tree.observers.toList = [⟨"watch", .fail "busy"⟩] := by cbv
    refine Tree.quiet_of_reactions fun o mem => ?_
    rw [← Array.mem_toList_iff, observers, List.mem_singleton] at mem
    rw [mem]
    trivial
  have linked : (Session.crossed.step ((Mutation.link ⟨4⟩ ⟨2⟩ (some "Shelf")).asked (some 0))).map
      StepOutcome.answer = some (.ok .done) := by cbv
  have unlinked : (Session.crossed.step ((Mutation.unlink ⟨4⟩ (.target ⟨3⟩)).asked (some 0))).map
      StepOutcome.answer = some (.ok (.name ⟨"Spare", by decide⟩)) := by cbv
  obtain ⟨o, stepped, granted⟩ := Option.map_eq_some_iff.mp linked
  obtain ⟨p, taken, named⟩ := Option.map_eq_some_iff.mp unlinked
  refine ⟨reached, quiet, ?_, ?_⟩
  · obtain ⟨n, m, name, -, -, -, spelled, undone⟩ :=
      (links_undone .standard s reached quiet (some 0) ⟨4⟩ ⟨2⟩).1 (some "Shelf") o .done stepped
        granted
    have same : Text.fold name.text = Text.fold "SHELF" := by
      rw [spelled, Option.getD_some]
      cbv
    obtain ⟨o', back, -, cache, counters, left⟩ := undone _ (.inr ⟨"SHELF", rfl, same⟩)
    exact ⟨o, o', stepped, granted, back, by rw [left]⟩
  · obtain ⟨n, m, -, -, -, -, o', back, done, -⟩ :=
      (links_undone .standard s reached quiet (some 0) ⟨4⟩ ⟨3⟩).2.1 p _ taken named
    exact ⟨p, o', _, taken, named, rfl, back, done⟩

end DeviceTree
