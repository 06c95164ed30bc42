/-
Folded trees.

A tree is folded by folding its store; its observers stay as they are.  As long as none of them
calls back, an operation and the operation with folded names do the same to a tree and to the folded
tree, and the observers hear of the same events (`Traced.Mirrors`).

* `notifyWithin_mirrors` -- notices;
* `change_mirrors` -- structural changes;
* `perform_mirrors` -- operations, apart from verification, which tells the spelling of a name that
  is wrong.
-/
import DeviceTree.Proofs.FoldedStore
import DeviceTree.Proofs.Quiet
import DeviceTree.Proofs.Runs

namespace DeviceTree

open Text

/-- The entry with all names and addresses in small letters. -/
def Entry.folded : Entry → Entry
  | heard node id label event => heard node id label event.folded
  | ran id label outcome => ran id label (foldedOutcome Answer.folded outcome)

/-- The tree with all names and addresses in small letters. -/
def Tree.folded (t : Tree Empty) : Tree Empty :=
  { t with store := t.store.folded }

/-- No observer that was ever registered calls back. -/
def Tree.Calm (t : Tree Empty) : Prop :=
  ∀ o ∈ t.observers, o.reaction.Quiet

namespace Traced

variable {α β γ δ : Type} {f : α → β} {g : γ → δ}

/-- The trace with everything in small letters and its value changed by `f`. -/
def folded (f : α → β) (r : Traced Empty α) : Traced Empty β :=
  ⟨f r.value, r.tree.folded, r.log.map Entry.folded⟩

/-- The trace `r'` is `r` in small letters, and no observer calls back afterwards. -/
structure Mirrors (f : α → β) (r : Traced Empty α) (r' : Traced Empty β) : Prop where
  same : r' = r.folded f
  calm : r.tree.Calm

variable {r : Traced Empty α} {r' : Traced Empty β} {t : Tree Empty}

theorem Mirrors.yield (calm : t.Calm) {a : α} {b : β} (same : b = f a) :
    Mirrors f (t.yield a) (t.folded.yield b) :=
  ⟨by rw [same]; rfl, calm⟩

theorem Mirrors.map {k : α → γ} {k' : β → δ} (h : Mirrors f r r')
    (same : ∀ a, k' (f a) = g (k a)) : Mirrors g (r.map k) (r'.map k') := by
  refine ⟨?_, h.calm⟩
  rw [h.same]
  exact congrArg (Traced.mk · r.tree.folded _) (same r.value)

theorem Mirrors.andThen {k : α → Tree Empty → Traced Empty γ} {k' : β → Tree Empty → Traced Empty δ}
    (h : Mirrors f r r') (next : ∀ a t, t.Calm → Mirrors g (k a t) (k' (f a) t.folded)) :
    Mirrors g (r.andThen k) (r'.andThen k') := by
  have later := next r.value r.tree h.calm
  refine ⟨?_, later.calm⟩
  have same : k' (f r.value) r.tree.folded = (k r.value r.tree).folded g := later.same
  rw [h.same]
  simp only [Traced.andThen, folded, same, List.map_append]

/-- Runs that are mirrored by the same run are the same up to case. -/
theorem Mirrors.agree {u : Traced Empty α} {u' : Traced Empty β} (h : Mirrors f r r')
    (h' : Mirrors f u u') (same : r' = u') : r.folded f = u.folded f := by
  rw [← h.same, ← h'.same, same]

end Traced

namespace Tree

open Traced

variable {t : Tree Empty} {perform perform' : Performer Empty} {event : Event}

/-! ### Notices -/

theorem Calm.quiet {id : SubscriptionId} {o : Observer Empty} (calm : t.Calm)
    (registered : t.observer? id = some o) : o.reaction.Quiet := by
  unfold observer? at registered
  split at registered
  · cases registered
  · exact calm o (Array.mem_of_getElem? registered)

theorem tell_mirrors (calm : t.Calm) (node : NodeId) (id : SubscriptionId) :
    Mirrors (fun l => l) (t.tell perform node event id)
      (t.folded.tell perform' node event.folded id) := by
  have registered : t.folded.observer? id = t.observer? id := rfl
  rw [tell, tell, registered]
  cases found : t.observer? id with
  | none => exact .yield calm rfl
  | some o =>
    have heard : Mirrors (fun u => u) (⟨(), t, [.heard node id o.label event]⟩ : Traced Empty Unit)
        ⟨(), t.folded, [.heard node id o.label event.folded]⟩ := ⟨rfl, calm⟩
    -- what the observer hears is folded, what it does about it is the same
    have quiet := calm.quiet found
    refine heard.andThen fun _ t calm => ?_
    rw [react_quiet quiet, react_quiet quiet]
    exact .yield calm rfl

theorem tellAll_mirrors (node : NodeId) (ids : List SubscriptionId) : ∀ {t : Tree Empty}, t.Calm →
    Mirrors (fun l => l) (tellAll perform node event ids t)
      (tellAll perform' node event.folded ids t.folded) := by
  induction ids with
  | nil => exact fun calm => .yield calm rfl
  | cons id rest ih =>
    intro t calm
    refine (tell_mirrors calm node id).andThen fun failures t calm => ?_
    exact (ih calm).map fun _ => rfl

theorem bubble_mirrors (hops : Nat) : ∀ (id : NodeId) {t : Tree Empty}, t.Calm →
    Mirrors (fun l => l) (bubble perform event hops id t)
      (bubble perform' event.folded hops id t.folded) := by
  induction hops with
  | zero => exact fun _ _ calm => .yield calm rfl
  | succ hops ih =>
    intro id t calm
    have found : t.folded.store.arena.get? id = (t.store.arena.get? id).map Node.folded :=
      t.store.arena.get?_folded id
    rw [bubble, bubble, found]
    cases t.store.arena.get? id with
    | none => exact .yield calm rfl
    | some n =>
      -- the observers at the node come first, then those of the node above it, which is looked up
      -- only then
      refine (tellAll_mirrors id n.observers calm).andThen fun failures t calm => ?_
      have above : t.folded.store.arena.lastParent id = t.store.arena.lastParent id :=
        t.store.arena.lastParent_folded id
      rw [above]
      cases t.store.arena.lastParent id with
      | none => exact .yield calm rfl
      | some parent => exact (ih parent calm).map fun _ => rfl

theorem notifyWith_mirrors (calm : t.Calm) :
    Mirrors (fun l => l) (notifyWith perform event t)
      (notifyWith perform' event.folded t.folded) := by
  have size : t.folded.store.arena.size = t.store.arena.size := t.store.arena.size_folded
  have told : Mirrors (fun l => l) (bubble perform event (t.store.arena.size + 1) event.source t)
      (bubble perform' event.folded (t.store.arena.size + 1) event.folded.source t.folded) :=
    bubble_mirrors _ event.source calm
  unfold notifyWith
  rw [size]
  show Mirrors _ _ (if t.store.subscribers = 0 then _ else _)
  split
  · exact .yield calm rfl
  · refine ⟨?_, told.calm⟩
    rw [told.same]
    rfl

/-- **Notices reach the observers of a folded tree as they do those of the tree.** -/
theorem notifyWithin_mirrors (calm : t.Calm) (depth depth' : Nat) (event : Event) :
    Mirrors (fun l => l) (notifyWithin depth event t)
      (notifyWithin depth' event.folded t.folded) := by
  cases depth <;> cases depth' <;> exact notifyWith_mirrors calm

theorem announce_mirrors (calm : t.Calm) (depth depth' : Nat) (event : Event) :
    Mirrors (foldedOutcome fun u => u) (announce (notifyWithin depth) event t)
      (announce (notifyWithin depth') event.folded t.folded) := by
  refine (notifyWithin_mirrors calm depth depth' event).map fun failures => ?_
  split <;> rfl

/-! ### Structural changes -/

theorem beginWrite_folded (s : Store) :
    s.folded.beginWrite = (foldedOutcome (fun u => u) s.beginWrite.1, s.beginWrite.2.folded) := by
  have lock : s.folded.lock = s.lock := rfl
  rw [Store.beginWrite, Store.beginWrite, lock, Lock.admitWriter]
  split
  · next error => split at error <;> cases error; rfl
  · rfl

theorem beginRead_folded (s : Store) :
    s.folded.beginRead = (foldedOutcome (fun u => u) s.beginRead.1, s.beginRead.2.folded) := by
  have lock : s.folded.lock = s.lock := rfl
  rw [Store.beginRead, Store.beginRead, lock, Lock.admitReader]
  split
  · next error => split at error <;> cases error; rfl
  · rfl

theorem exclusively_folded {α β : Type} {f : α → β} {p : Request α} {q : Request β}
    (mirrors : Request.Mirrors f p q) (s : Store) :
    s.folded.exclusively q =
      (foldedOutcome f (s.exclusively p).1, (s.exclusively p).2.folded) := by
  rw [Store.exclusively, Store.exclusively, beginWrite_folded]
  obtain ⟨begun, u⟩ := s.beginWrite
  cases begun with
  | error e => rfl
  | ok _ =>
    have mirrored := mirrors u
    simp only [foldedOutcome, Except.map, Except.mapError, mirrored]
    cases p u <;> rfl

theorem change_mirrors {α β : Type} {f : α → β} {p : Request (Change α)} {q : Request (Change β)}
    (mirrors : Request.Mirrors (Change.folded f) p q) (calm : t.Calm) (depth depth' : Nat) :
    Mirrors (foldedOutcome f) (t.change (notifyWithin depth) p)
      (t.folded.change (notifyWithin depth') q) := by
  have tried := exclusively_folded mirrors t.store
  unfold change attempt
  rw [show t.folded.store = t.store.folded from rfl, tried]
  obtain ⟨outcome, u⟩ := t.store.exclusively p
  -- the request has touched nothing but the store
  have calm' : Calm { t with store := u } := calm
  cases outcome with
  | error e => exact .yield calm' rfl
  | ok c =>
    obtain ⟨value, event⟩ := c
    cases event with
    | none => exact .yield calm' rfl
    | some event => exact (notifyWithin_mirrors calm' depth depth' event).map fun _ => rfl

end Tree

/-! ### Operations -/

/-- The operation with all names and addresses in small letters. -/
def Op.folded : Op Empty → Op Empty
  | .mutate mutation => .mutate mutation.folded
  | .grow layout parent stem count => .grow layout parent (fold stem) count
  | .resolve address => .resolve (fold address)
  | .ask query => .ask query.folded
  | .raise action source target identifier => .raise action source target (identifier.map fold)
  | op => op

/-- The operation registers no observer that calls back. -/
def Op.Quiet : Op Empty → Prop
  | .subscribe _ _ reaction => reaction.Quiet
  | _ => True

theorem fold_toString (n : Nat) : fold (toString n) = toString n := by
  have plain : ∀ c : Char, c.isDigit = true → c.toLower = c :=
    forall_char (by decide +kernel) fun _ same _ => same
  have toList : (toString n).toList = Nat.toDigits 10 n := String.toList_ofList
  apply String.toList_injective
  rw [toList_fold, toList]
  refine (List.map_congr_left fun c mem => ?_).trans (List.map_id _)
  exact plain c (Nat.isDigit_of_mem_toDigits (by decide) (by decide) mem)

namespace Tree

open Traced

variable {t : Tree Empty}

theorem growRest_mirrors (layout : Layout) (parent : Option NodeId) (stem : String)
    (depth depth' : Nat) (left : Nat) : ∀ (made : Nat) (last : Option NodeId) {t : Tree Empty},
      t.Calm → Mirrors (foldedOutcome fun last => last)
        (t.growRest (notifyWithin depth) layout parent stem left made last)
        (t.folded.growRest (notifyWithin depth') layout parent (fold stem) left made last) := by
  induction left with
  | zero => exact fun _ _ _ calm => .yield calm rfl
  | succ left ih =>
    intro made last t calm
    -- the number of an element has no case, so that folding its name folds the stem
    have name : fold (stem ++ toString made) = fold stem ++ toString made := by
      rw [fold_append, fold_toString]
    unfold growRest
    rw [← name]
    refine (change_mirrors (Store.create_folded _ _ _ _) calm depth depth').andThen
      fun created t calm => ?_
    cases created with
    | error e => exact .yield calm rfl
    | ok id => exact ih (made + 1) (some id) calm

theorem mapM_readName_fold (identifier : Option String) :
    (identifier.map fold).mapM readName =
      foldedOutcome (Option.map Identifier.folded) (identifier.mapM readName) := by
  cases identifier with
  | none => rfl
  | some raw =>
    show (some <$> readName (fold raw)) = foldedOutcome _ (some <$> readName raw)
    rw [readName_fold]
    cases readName raw <;> rfl

theorem subscribed_folded (t : Tree Empty) (node : NodeId) (observer : Observer Empty) :
    t.folded.subscribed node observer = (t.subscribed node observer).folded := by
  let enlist : Node → Node := fun n =>
    { n with observers := n.observers ++ [⟨t.observers.size + 1⟩] }
  have enlisted : (t.store.arena.modify node enlist).folded =
      t.store.arena.folded.modify node enlist :=
    t.store.arena.modify_folded enlist enlist (fun _ => rfl) node
  unfold subscribed folded Store.folded Store.onArena
  rw [enlisted]

theorem unsubscribed_folded (t : Tree Empty) (node : NodeId) (id : SubscriptionId) :
    t.folded.unsubscribed node id = (t.unsubscribed node id).folded := by
  let delist : Node → Node := fun n =>
    { n with observers := n.observers.filter fun other => other != id }
  have delisted : (t.store.arena.modify node delist).folded =
      t.store.arena.folded.modify node delist :=
    t.store.arena.modify_folded delist delist (fun _ => rfl) node
  unfold unsubscribed folded Store.folded Store.onArena
  rw [delisted]

theorem subscribe_mirrors (calm : t.Calm) (node : NodeId) (label : String)
    {reaction : Reaction Empty} (quiet : reaction.Quiet) (depth depth' : Nat) :
    Mirrors (foldedOutcome Answer.folded)
      (performWith (notifyWithin depth) (.subscribe node label reaction) t)
      (performWith (notifyWithin depth') (.subscribe node label reaction) t.folded) := by
  have fetched : t.folded.store.arena.fetch node = _ := t.store.arena.fetch_folded node
  have calm' : (t.subscribed node ⟨label, reaction⟩).Calm := by
    intro o mem
    rcases Array.mem_push.mp mem with mem | rfl
    · exact calm o mem
    · exact quiet
  rw [performWith, performWith, subscribe_eq, subscribe_eq, fetched, subscribed_folded]
  cases t.store.arena.fetch node with
  | error e => exact .yield calm rfl
  | ok n => exact .yield calm' rfl

theorem unsubscribe_mirrors (calm : t.Calm) (node : NodeId) (id : SubscriptionId)
    (depth depth' : Nat) :
    Mirrors (foldedOutcome Answer.folded)
      (performWith (notifyWithin depth) (.unsubscribe node id) t)
      (performWith (notifyWithin depth') (.unsubscribe node id) t.folded) := by
  have found : (t.folded.store.arena.get? node).any (fun n => n.observers.contains id) =
      (t.store.arena.get? node).any fun n => n.observers.contains id := by
    show (t.store.arena.folded.get? node).any _ = _
    rw [Arena.get?_folded, Option.any_map]
    rfl
  have calm' : (t.unsubscribed node id).Calm := calm
  rw [performWith, performWith, unsubscribe_eq, unsubscribe_eq, found, unsubscribed_folded]
  cases (t.store.arena.get? node).any fun n => n.observers.contains id with
  | true => exact .yield calm' rfl
  | false => exact .yield calm rfl

/-- **An operation with folded names does to the folded tree what the operation does to the
tree.** -/
theorem perform_mirrors (calm : t.Calm) {op : Op Empty} (quiet : op.Quiet) (check : op ≠ .verify) :
    Mirrors (foldedOutcome Answer.folded) (t.perform op) (t.folded.perform op.folded) := by
  unfold perform
  generalize t.weight + op.weight = depth
  generalize t.folded.weight + op.folded.weight = depth'
  cases op with
  | mutate mutation => exact change_mirrors mutation.apply_folded calm depth depth'
  | grow layout parent stem count =>
    refine (growRest_mirrors layout parent stem depth depth' count 0 _ calm).map fun outcome => ?_
    cases outcome <;> rfl
  | resolve address =>
    have resolved : t.folded.store.resolve (fold address) = _ := t.store.resolve_folded address
    have calm' : Calm { t with store := (t.store.resolve address).2 } := calm
    rw [Op.folded, performWith, performWith, resolved]
    exact .yield calm' rfl
  | ask query => exact .yield calm (t.store.ask_folded query)
  | verify => exact absurd rfl check
  | subscribe node label reaction => exact subscribe_mirrors calm node label quiet depth depth'
  | unsubscribe node id => exact unsubscribe_mirrors calm node id depth depth'
  | raise action source target identifier =>
    rw [Op.folded, performWith, performWith, mapM_readName_fold]
    cases identifier.mapM readName with
    | error e => exact .yield calm rfl
    | ok name =>
      refine (announce_mirrors calm depth depth' ⟨action, source, target, name⟩).map fun r => ?_
      cases r <;> rfl
  | edit edit => exact edit.elim

end Tree

end DeviceTree
