/-
Folded stores.

A store is folded by folding its arena and the name of its root; what the cache knows is known under
folded keys anyway.  A request and the request with folded names do the same to a store and to the
folded store, one step after the other (`Mirrors`), and fail for the same reason if they fail.

* `readName_fold` -- a folded text is a name exactly when the text is one;
* `apply_folded` -- mutations;
* `resolve_folded` -- resolutions;
* `ask_folded` -- questions.
-/
import DeviceTree.Proofs.Coherence
import DeviceTree.Proofs.Folding
import DeviceTree.Store.Ask

namespace DeviceTree

open Text

/-! ### Errors and events -/

/-- The choice with its name in small letters. -/
def LinkChoice.folded : LinkChoice → LinkChoice
  | target node => target node
  | named name => named (fold name)

/-- The fault of the text in small letters. -/
def IdentifierFault.folded : IdentifierFault → IdentifierFault
  | empty => empty
  | badChar raw bad => badChar (fold raw) bad

namespace Error

/-- The error with all names and addresses in small letters, as far as a request to a tree can
fail with it. -/
def folded : Error → Error
  | nameTaken holder name => nameTaken (fold holder) name.folded
  | alreadyReferenced holder target => alreadyReferenced (fold holder) target
  | noChild holder child => noChild (fold holder) child
  | noLink holder selector => noLink (fold holder) selector.folded
  | unresolved address => unresolved (fold address)
  | badIdentifier fault => badIdentifier fault.folded
  | noParent address trimmed => noParent (fold address) (fold trimmed)
  | e => e

theorem errorClass_folded (e : Error) : e.folded.errorClass = e.errorClass := by
  cases e <;> rfl

end Error

/-- The event with its name in small letters. -/
def Event.folded (e : Event) : Event :=
  { e with identifier := e.identifier.map Identifier.folded }

/-- The outcome with its value changed by `f` and its error in small letters. -/
def foldedOutcome {α β : Type} (f : α → β) (r : Except Error α) : Except Error β :=
  (r.map f).mapError Error.folded

theorem Arena.fetch_folded (a : Arena) (id : NodeId) :
    a.folded.fetch id = foldedOutcome Node.folded (a.fetch id) := by
  rw [fetch, fetch, get?_folded]
  cases a.get? id <;> rfl

/-! ### Names -/

/-- A character of no identifier is no capital letter. -/
theorem toLower_of_not_isNameChar : ∀ c : Char, isNameChar c = false → c.toLower = c :=
  forall_char (by decide +kernel) fun _ same _ => same

theorem identifierFault_fold (raw : String) :
    IdentifierFault.ofString (fold raw) = (IdentifierFault.ofString raw).folded := by
  have same : (fun c => !isNameChar c) ∘ Char.toLower = fun c => !isNameChar c := by
    funext c
    rw [Function.comp_apply, isNameChar_toLower]
  rw [IdentifierFault.ofString, IdentifierFault.ofString, toList_fold, List.find?_map, same]
  cases found : raw.toList.find? fun c => !isNameChar c with
  | none => rfl
  | some bad =>
    have strange := List.find?_some found
    rw [Bool.not_eq_true'] at strange
    rw [Option.map_some, toLower_of_not_isNameChar bad strange]
    rfl

theorem readName_fold (raw : String) :
    readName (fold raw) = foldedOutcome Identifier.folded (readName raw) := by
  by_cases valid : isIdentifier raw = true
  · have valid' := (isIdentifier_fold raw).trans valid
    rw [readName, readName, Identifier.ofString, Identifier.ofString, dif_pos valid, dif_pos valid']
    rfl
  · have invalid : ¬isIdentifier (fold raw) = true := by
      rw [isIdentifier_fold]
      exact valid
    rw [readName, readName, Identifier.ofString, Identifier.ofString, dif_neg valid,
      dif_neg invalid, identifierFault_fold]
    rfl

/-- The names of the parts of a data element are in small letters. -/
theorem folded_of_mem_parts {options : DataOptions}
    {part : Identifier × ElementKind × Option String} (h : part ∈ options.parts) :
    part.1.folded = part.1 := by
  have small : ∀ i : Identifier, i.text.toList.map Char.toLower = i.text.toList → i.folded = i := by
    intro i same
    have text : fold i.text = i.text := by
      apply String.toList_injective
      rw [toList_fold, same]
    cases i
    simpa [Identifier.folded] using text
  have reading : DataOptions.readService.folded = DataOptions.readService := small _ (by decide)
  have writing : DataOptions.writeService.folded = DataOptions.writeService := small _ (by decide)
  have telling : DataOptions.changeEvent.folded = DataOptions.changeEvent := small _ (by decide)
  unfold DataOptions.parts at h
  split at h
  · simp only [List.cons_append, List.nil_append, List.mem_cons, List.not_mem_nil, or_false] at h
    rcases h with rfl | rfl | rfl
    · exact reading
    · exact writing
    · exact telling
  · simp only [List.nil_append, List.mem_cons, List.not_mem_nil, or_false] at h
    rcases h with rfl | rfl
    · exact reading
    · exact telling

/-! ### Stores -/

/-- The change with its value changed by `f` and its event in small letters. -/
def Change.folded {α β : Type} (f : α → β) (c : Change α) : Change β :=
  ⟨f c.value, c.event.map Event.folded⟩

/-- The store with all names and addresses in small letters. -/
def Store.folded (s : Store) : Store :=
  { s with arena := s.arena.folded, rootIdentifier := s.rootIdentifier.folded }

namespace Request

/-- What a request yields and leaves, with everything in small letters. -/
def foldedResult {α β : Type} (f : α → β) :
    EStateM.Result Error Store α → EStateM.Result Error Store β
  | .ok a s => .ok (f a) s.folded
  | .error e s => .error e.folded s.folded

/-- The request `q` does to folded stores what `p` does to stores, and yields what `f` makes of
what `p` yields. -/
def Mirrors {α β : Type} (f : α → β) (p : Request α) (q : Request β) : Prop :=
  ∀ s : Store, q s.folded = foldedResult f (p s)

variable {α β γ δ : Type} {f : α → β} {g : γ → δ} {p : Request α} {q : Request β}

theorem Mirrors.bind {k : α → Request γ} {k' : β → Request δ} (first : Mirrors f p q)
    (next : ∀ a, Mirrors g (k a) (k' (f a))) : Mirrors g (p >>= k) (q >>= k') := by
  intro s
  show EStateM.bind q k' s.folded = foldedResult g (EStateM.bind p k s)
  unfold EStateM.bind
  rw [first s]
  cases p s with
  | ok a t => exact next a t
  | error e t => rfl

theorem Mirrors.map {h : α → γ} {h' : β → δ} (first : Mirrors f p q)
    (same : ∀ a, h' (f a) = g (h a)) : Mirrors g (h <$> p) (h' <$> q) := by
  intro s
  show EStateM.map h' q s.folded = foldedResult g (EStateM.map h p s)
  unfold EStateM.map
  rw [first s]
  cases p s with
  | ok a t => exact congrArg (EStateM.Result.ok · t.folded) (same a)
  | error e t => rfl

theorem mirrors_pure {a : α} {b : β} (same : b = f a) : Mirrors f (pure a) (pure b) :=
  fun s => congrArg (EStateM.Result.ok · s.folded) same

theorem mirrors_get : Mirrors Store.folded get get :=
  fun _ => rfl

theorem mirrors_modify {h h' : Store → Store} (same : ∀ s, h' s.folded = (h s).folded) :
    Mirrors (fun u => u) (modify h) (modify h') :=
  fun s => congrArg (EStateM.Result.ok ()) (same s)

theorem mirrors_lift {r : Except Error α} {r' : Except Error β} (same : r' = foldedOutcome f r) :
    Mirrors f (liftM r) (liftM r') := by
  intro s
  subst same
  cases r <;> rfl

end Request

namespace Store

open Request

variable {α β : Type}

/-! ### Checks -/

theorem fetch_folded (id : NodeId) : Mirrors Node.folded (fetch id) (fetch id) :=
  mirrors_get.bind fun s => mirrors_lift (s.arena.fetch_folded id)

theorem refuseIf_folded {c c' : Prop} [Decidable c] [Decidable c'] {e e' : Error} (same : c' ↔ c)
    (error : e' = e.folded) :
    refuseIf c' e' = foldedOutcome (fun u => u) (refuseIf c e) := by
  unfold refuseIf
  by_cases h : c
  · rw [if_pos h, if_pos (same.mpr h), error]
    rfl
  · rw [if_neg h, if_neg (same.not.mpr h)]
    rfl

theorem refuseAny_folded (f : α → β) {found : Option α} {found' : Option β} {e : α → Error}
    {e' : β → Error} (same : found' = found.map f) (error : ∀ a, e' (f a) = (e a).folded) :
    refuseAny found' e' = foldedOutcome (fun u => u) (refuseAny found e) := by
  subst same
  cases found with
  | none => rfl
  | some a => exact congrArg Except.error (error a)

theorem named?_folded_text (holder : Node) (name : Identifier) :
    holder.folded.named? name.folded.text = (holder.named? name.text).map Reference.folded := by
  rw [Node.named?_folded, Identifier.folded, Node.named?_fold]

theorem requireFreeName_folded (holder : Node) (name : Identifier) :
    requireFreeName holder.folded name.folded =
      foldedOutcome (fun u => u) (requireFreeName holder name) :=
  refuseAny_folded _ (named?_folded_text holder name) fun _ => rfl

theorem requireUnreferenced_folded (holder : Node) (target : NodeId) :
    requireUnreferenced holder.folded target =
      foldedOutcome (fun u => u) (requireUnreferenced holder target) :=
  refuseAny_folded _ (holder.toward?_folded target) fun _ => rfl

theorem requireParent_folded (parent : Option NodeId) (name : Identifier) :
    Mirrors (Option.map Node.folded) (requireParent parent name)
      (requireParent parent name.folded) := by
  cases parent with
  | none => exact mirrors_pure rfl
  | some id =>
    exact (fetch_folded id).bind fun n =>
      (mirrors_lift (requireFreeName_folded n name)).bind fun _ => mirrors_pure rfl

theorem requireChild_folded (holder : Node) (child : NodeId) :
    requireChild holder.folded child =
      foldedOutcome Identifier.folded (requireChild holder child) := by
  unfold requireChild
  rw [Node.toward?_folded, Option.filter_map, Reference.isChild_folded]
  cases (holder.toward? child).filter Reference.isChild <;> rfl

theorem linkName_folded (identifier : Option String) (target : Node) :
    linkName (identifier.map fold) target.folded =
      foldedOutcome Identifier.folded (linkName identifier target) := by
  cases identifier with
  | none => rfl
  | some raw => exact readName_fold raw

theorem requireLink_folded (holder : Node) (selector : LinkChoice) :
    requireLink holder.folded selector.folded =
      foldedOutcome Reference.folded (requireLink holder selector) := by
  have selected : select holder.folded selector.folded =
      (select holder selector).map Reference.folded := by
    cases selector with
    | target node => exact holder.toward?_folded node
    | named name =>
      show holder.folded.named? (fold name) = _
      rw [Node.named?_folded, Node.named?_fold]
      rfl
  unfold requireLink
  rw [selected, Option.filter_map, Reference.isLink_folded]
  cases (select holder selector).filter Reference.isLink <;> rfl

/-! ### Effects -/

/-- An effect that puts another arena in place and counts something. -/
theorem count_folded (s : Store) {b b' : Arena} (same : b.folded = b') (f : Counters → Counters) :
    { s.folded with arena := b' }.count f = ({ s with arena := b }.count f).folded := by
  subst same
  rfl

theorem insert_folded (s : Store) (n : Node) : s.folded.insert n.folded = (s.insert n).folded :=
  s.count_folded (s.arena.push_folded n) .created

theorem makeChild_folded (s : Store) (parent child : NodeId) (name : Identifier) :
    s.folded.makeChild parent child name.folded = (s.makeChild parent child name).folded :=
  s.count_folded (s.arena.attach_folded parent child name) .adopted

theorem unmakeChild_folded (s : Store) (parent child : NodeId) :
    s.folded.unmakeChild parent child = (s.unmakeChild parent child).folded :=
  s.count_folded (s.arena.detach_folded parent child) .released

theorem makeLink_folded (s : Store) (source target : NodeId) (name : Identifier) :
    s.folded.makeLink source target name.folded = (s.makeLink source target name).folded :=
  s.count_folded (s.arena.link_folded source target name) .linked

theorem unmakeLink_folded (s : Store) (source target : NodeId) :
    s.folded.unmakeLink source target = (s.unmakeLink source target).folded :=
  s.count_folded (s.arena.unlink_folded source target) .unlinked

theorem vacate_folded (s : Store) (id : NodeId) : s.folded.vacate id = (s.vacate id).folded := by
  have found : s.folded.arena.get? id = (s.arena.get? id).map Node.folded := s.arena.get?_folded id
  unfold vacate
  rw [found]
  cases s.arena.get? id with
  | none => rfl
  | some n =>
    exact count_folded { s with subscribers := s.subscribers - n.observers.length }
      (s.arena.vacate_folded id) .discarded

/-- An effect for each element of a list. -/
theorem foldl_folded {h : Store → α → Store} (xs : List α)
    (same : ∀ s, ∀ x ∈ xs, h s.folded x = (h s x).folded) :
    ∀ s : Store, xs.foldl h s.folded = (xs.foldl h s).folded := by
  induction xs with
  | nil => exact fun _ => rfl
  | cons x xs ih =>
    intro s
    rw [List.foldl_cons, List.foldl_cons, same s x List.mem_cons_self]
    exact ih (fun s x mem => same s x (List.mem_cons_of_mem _ mem)) _

/-! ### Creating elements -/

theorem place_folded (n : Node) : Mirrors (fun id => id) (place n) (place n.folded) := by
  refine mirrors_get.bind fun s => (mirrors_modify fun s => s.insert_folded n).bind fun _ => ?_
  exact mirrors_pure s.arena.nextId_folded

theorem newAddress_folded (above : Option Node) (name : Identifier) :
    newAddress (above.map Node.folded) name.folded = fold (newAddress above name) := by
  cases above with
  | none => rfl
  | some n => exact Address.join_fold n.address name.text

theorem settle_folded (parent : Option NodeId) (id : NodeId) (name : Identifier) :
    Mirrors (Change.folded fun id => id) (settle parent id name)
      (settle parent id name.folded) := by
  cases parent with
  | none => exact mirrors_pure rfl
  | some parent =>
    refine (mirrors_modify fun s => ?_).bind fun _ => mirrors_pure rfl
    exact congrArg invalidate (s.makeChild_folded parent id name)

theorem create_folded (parent : Option NodeId) (identifier : String) (kind : ElementKind)
    (attachment : Option String) :
    Mirrors (Change.folded fun id => id) (create parent identifier kind attachment)
      (create parent (fold identifier) kind attachment) := by
  refine (mirrors_lift (readName_fold identifier)).bind fun name => ?_
  refine (requireParent_folded parent name).bind fun above => ?_
  rw [newAddress_folded]
  exact (place_folded (.fresh name kind attachment (newAddress above name))).bind fun id =>
    settle_folded parent id name

theorem createPart_folded (data : NodeId) (s : Store)
    (part : Identifier × ElementKind × Option String) (small : part.1.folded = part.1) :
    createPart data s.folded part = (createPart data s part).folded := by
  obtain ⟨name, kind, attachment⟩ := part
  have small : name.folded = name := small
  have inserted := s.insert_folded (.fresh name kind attachment name.text)
  have made := (s.insert (.fresh name kind attachment name.text)).makeChild_folded data
    s.arena.nextId name
  -- the name of a part is in small letters from the start
  have fresh : (Node.fresh name kind attachment name.text).folded =
      .fresh name kind attachment name.text := by
    show Node.fresh name.folded kind attachment name.folded.text = _
    rw [small]
  rw [fresh] at inserted
  rw [small, ← inserted] at made
  rw [createPart, createPart, ← made]
  show Store.makeChild _ _ s.arena.folded.nextId _ = _
  rw [Arena.nextId_folded]

theorem createData_folded (parent : Option NodeId) (identifier : String) (options : DataOptions) :
    Mirrors (Change.folded fun id => id) (createData parent identifier options)
      (createData parent (fold identifier) options) := by
  refine (mirrors_lift (readName_fold identifier)).bind fun name => ?_
  refine (requireParent_folded parent name).bind fun above => ?_
  rw [newAddress_folded]
  refine (place_folded (.fresh name .data options.storage (newAddress above name))).bind fun id => ?_
  refine (mirrors_modify fun s => ?_).bind fun _ => settle_folded parent id name
  exact foldl_folded _ (fun s part mem => createPart_folded id s part (folded_of_mem_parts mem)) s

/-! ### Edges -/

theorem add_folded (parent child : NodeId) :
    Mirrors (Change.folded fun u => u) (add parent child) (add parent child) := by
  refine (fetch_folded parent).bind fun above => (fetch_folded child).bind fun below => ?_
  refine (mirrors_lift (requireUnreferenced_folded above child)).bind fun _ => ?_
  refine (mirrors_lift (requireFreeName_folded above below.identifier)).bind fun _ => ?_
  refine (mirrors_lift (refuseIf_folded .rfl rfl)).bind fun _ => ?_
  refine (mirrors_lift (refuseAny_folded (fun p => p) ?_ fun _ => rfl)).bind fun _ => ?_
  · exact Option.map_id'.symm
  refine mirrors_get.bind fun s => ?_
  refine (mirrors_lift (refuseIf_folded ?_ rfl)).bind fun _ => ?_
  · exact iff_of_eq (congrArg (· = true) (s.arena.leadsTo_folded child parent))
  refine (mirrors_modify fun s => ?_).bind fun _ => mirrors_pure rfl
  exact congrArg invalidate (s.makeChild_folded parent child below.identifier)

theorem remove_folded (parent child : NodeId) :
    Mirrors (Change.folded fun u => u) (remove parent child) (remove parent child) := by
  refine (fetch_folded parent).bind fun above => (fetch_folded child).bind fun _ => ?_
  refine (mirrors_lift (requireChild_folded above child)).bind fun name => ?_
  refine mirrors_get.bind fun s => ?_
  refine (mirrors_lift (refuseAny_folded (fun id => id) ?_ fun _ => rfl)).bind fun _ => ?_
  · rw [Option.map_id']
    show s.arena.folded.firstLinked (s.arena.folded.subtree child) = _
    rw [Arena.subtree_folded, Arena.firstLinked_folded]
  refine (mirrors_modify fun s => ?_).bind fun _ => mirrors_pure rfl
  exact congrArg invalidate (s.unmakeChild_folded parent child)

theorem link_folded (source target : NodeId) (identifier : Option String) :
    Mirrors (Change.folded fun u => u) (link source target identifier)
      (link source target (identifier.map fold)) := by
  refine (fetch_folded source).bind fun holder => (fetch_folded target).bind fun aim => ?_
  refine (mirrors_lift (linkName_folded identifier aim)).bind fun name => ?_
  refine (mirrors_lift (requireUnreferenced_folded holder target)).bind fun _ => ?_
  refine (mirrors_lift (requireFreeName_folded holder name)).bind fun _ => ?_
  refine (mirrors_lift (refuseIf_folded .rfl rfl)).bind fun _ => ?_
  refine mirrors_get.bind fun s => ?_
  refine (mirrors_lift (refuseIf_folded ?_ rfl)).bind fun _ => ?_
  · exact iff_of_eq (congrArg (· = true) (s.arena.leadsTo_folded target source))
  refine (mirrors_modify fun s => ?_).bind fun _ => mirrors_pure rfl
  exact congrArg invalidate (s.makeLink_folded source target name)

theorem unlink_folded (source : NodeId) (selector : LinkChoice) :
    Mirrors (Change.folded Identifier.folded) (unlink source selector)
      (unlink source selector.folded) := by
  refine (fetch_folded source).bind fun holder => ?_
  refine (mirrors_lift (requireLink_folded holder selector)).bind fun edge => ?_
  refine (mirrors_modify fun s => ?_).bind fun _ => mirrors_pure rfl
  exact congrArg invalidate (s.unmakeLink_folded source edge.target)

/-! ### Discarding elements -/

theorem outgoingLinks_folded (members : List NodeId) (n : Node) :
    outgoingLinks members n.folded = outgoingLinks members n := by
  show ((n.forward.map Reference.folded).filter _).map _ = _
  rw [List.filter_map, List.map_map]
  rfl

theorem releaseLinks_folded (members : List NodeId) (s : Store) (id : NodeId) :
    releaseLinks members s.folded id = (releaseLinks members s id).folded := by
  have found : s.folded.arena.get? id = (s.arena.get? id).map Node.folded := s.arena.get?_folded id
  unfold releaseLinks
  rw [found]
  cases s.arena.get? id with
  | none => rfl
  | some n =>
    simp only [Option.map_some, outgoingLinks_folded]
    exact foldl_folded _ (fun s target _ => s.unmakeLink_folded id target) s

theorem discard_folded (id : NodeId) :
    Mirrors (Change.folded fun count => count) (discard id) (discard id) := by
  refine (fetch_folded id).bind fun n => ?_
  refine (mirrors_lift (refuseIf_folded .rfl rfl)).bind fun _ => ?_
  refine (mirrors_lift (refuseAny_folded (fun p => p) ?_ fun _ => rfl)).bind fun _ => ?_
  · exact Option.map_id'.symm
  refine mirrors_get.bind fun s => ?_
  have members : s.folded.arena.subtree id = s.arena.subtree id := s.arena.subtree_folded id
  dsimp only
  rw [members]
  refine (mirrors_lift (refuseAny_folded (fun id => id) ?_ fun _ => rfl)).bind fun _ => ?_
  · rw [Option.map_id']
    exact s.arena.firstLinkedFromOutside_folded _
  -- the members let go of what they link to, and then they go themselves
  refine (mirrors_modify (foldl_folded _ fun s id _ => releaseLinks_folded _ s id)).bind fun _ => ?_
  refine (mirrors_modify (foldl_folded _ fun s id _ => s.vacate_folded id)).bind fun _ => ?_
  have forget : Mirrors (fun u => u) (modify invalidate) (modify invalidate) :=
    mirrors_modify fun _ => rfl
  exact forget.bind fun _ => mirrors_pure rfl

end Store

/-! ### Mutations -/

namespace Answer

/-- The answer with all names and addresses in small letters. -/
def folded : Answer → Answer
  | name identifier => name identifier.folded
  | text s => text (fold s)
  | references l => references (l.map Reference.folded)
  | maybeSnapshot snapshot => maybeSnapshot (snapshot.map Snapshot.folded)
  | info i => info { i with rootIdentifier := i.rootIdentifier.folded }
  | dump root list => dump root.folded (list.map Snapshot.folded)
  | answer => answer

end Answer

namespace Mutation

/-- The mutation with all names in small letters. -/
def folded : Mutation → Mutation
  | create parent identifier kind attachment => create parent (fold identifier) kind attachment
  | createData parent identifier options => createData parent (fold identifier) options
  | link source target identifier => link source target (identifier.map fold)
  | unlink source selector => unlink source selector.folded
  | mutation => mutation

/-- **A mutation with folded names does to the folded store what the mutation does to the
store.** -/
theorem apply_folded (m : Mutation) :
    Request.Mirrors (Change.folded Answer.folded) m.apply m.folded.apply := by
  cases m with
  | create parent identifier kind attachment =>
    exact (Store.create_folded parent identifier kind attachment).map fun _ => rfl
  | createData parent identifier options =>
    exact (Store.createData_folded parent identifier options).map fun _ => rfl
  | add parent child => exact (Store.add_folded parent child).map fun _ => rfl
  | remove parent child => exact (Store.remove_folded parent child).map fun _ => rfl
  | link source target identifier =>
    exact (Store.link_folded source target identifier).map fun _ => rfl
  | unlink source selector => exact (Store.unlink_folded source selector).map fun _ => rfl
  | discard node => exact (Store.discard_folded node).map fun _ => rfl

end Mutation

namespace Store

variable (s : Store)

/-! ### Resolutions -/

theorem rooted_folded (address : String) :
    s.folded.rooted (fold address) = fold (s.rooted address) :=
  Address.normalize_fold address s.rootIdentifier.text

theorem walk_folded (names : List String) : s.folded.walk names = s.walk names := by
  cases names with
  | nil => rfl
  | cons first rest =>
    rw [walk, walk]
    show (if s.rootIdentifier.folded.isNamed first then s.arena.folded.follow .root rest else none) = _
    rw [Identifier.isNamed_folded, Arena.follow_congr s.arena.childNamed_folded]

theorem resolve_folded (address : String) :
    s.folded.resolve (fold address) = ((s.resolve address).1, (s.resolve address).2.folded) := by
  have rooted := s.rooted_folded address
  -- keys are folded in any case, so that both stores look under the same key
  have key : Address.key (fold (s.rooted address)) = Address.key (s.rooted address) :=
    fold_fold _
  have cached : s.folded.cached? = s.cached? := by
    funext key
    show (s.cache.get? key).filter s.arena.folded.contains = _
    rw [Arena.contains_folded]
    rfl
  have walked : (s.folded.count (.lookedUp false)).walk (Address.segments (fold (s.rooted address))) =
      (s.count (.lookedUp false)).walk (Address.segments (s.rooted address)) := by
    rw [Address.segments_fold, walk_fold]
    exact (s.count _).walk_folded _
  unfold resolve
  dsimp only
  rw [rooted, key, cached, walked]
  cases s.cached? (Address.key (s.rooted address)) with
  | some id => rfl
  | none =>
    dsimp only
    cases (s.count (.lookedUp false)).walk (Address.segments (s.rooted address)) <;> rfl

end Store

/-! ### Questions -/

/-- The question with its name in small letters. -/
def Query.folded : Query → Query
  | child id name => child id (fold name)
  | query => query

namespace Store

variable (s : Store)

theorem about_folded (id : NodeId) (f f' : Node → Answer)
    (same : ∀ n, f' n.folded = (f n).folded) :
    s.folded.about id f' = foldedOutcome Answer.folded (s.about id f) := by
  rw [about, about]
  show (s.arena.folded.fetch id).map f' = _
  rw [Arena.fetch_folded]
  cases s.arena.fetch id with
  | error e => rfl
  | ok n => exact congrArg Except.ok (same n)

theorem ask_folded (query : Query) :
    s.folded.ask query.folded = foldedOutcome Answer.folded (s.ask query) := by
  cases query with
  | child id name =>
    show Except.ok (Answer.maybeNode (s.arena.folded.childNamed id (fold name))) = _
    rw [Arena.childNamed_folded, Arena.childNamed_fold]
    rfl
  | node id =>
    show Except.ok (Answer.maybeSnapshot ((s.arena.folded.get? id).map (Snapshot.mk id))) = _
    rw [Arena.get?_folded, Option.map_map]
    show _ = Except.ok (Answer.maybeSnapshot (((s.arena.get? id).map _).map _))
    rw [Option.map_map]
    rfl
  | address id => exact s.about_folded id (fun n => .text n.address) _ fun _ => rfl
  | identifier id => exact s.about_folded id (fun n => .name n.identifier) _ fun _ => rfl
  | kind id => exact s.about_folded id (fun n => .kind n.kind) _ fun _ => rfl
  | parent id => exact s.about_folded id (fun n => .maybeNode n.parent) _ fun _ => rfl
  | attachment id => exact s.about_folded id (fun n => .maybeText n.attachment) _ fun _ => rfl
  | forward id => exact s.about_folded id (fun n => .references n.forward) _ fun _ => rfl
  | inverse id => exact s.about_folded id (fun n => .references n.inverse) _ fun _ => rfl
  | children id =>
    exact s.about_folded id (fun n => .references n.children) (fun n => .references n.children)
      fun n => congrArg Answer.references n.children_folded
  | links id =>
    exact s.about_folded id (fun n => .references n.links) (fun n => .references n.links)
      fun n => congrArg Answer.references n.links_folded
  | descendants id =>
    exact s.about_folded id (fun _ => .nodes (s.arena.descendants id)) _ fun _ =>
      congrArg Answer.nodes (s.arena.descendants_folded id)
  | contains id =>
    show Except.ok (Answer.truth (s.arena.folded.contains id)) = _
    rw [Arena.contains_folded]
    rfl
  | observerCount id =>
    show Except.ok (Answer.count ((s.arena.folded.get? id).elim 0 fun n => n.observers.length)) = _
    rw [Arena.get?_folded]
    show _ = Except.ok (Answer.count ((s.arena.get? id).elim 0 fun n => n.observers.length))
    cases s.arena.get? id <;> rfl
  | info =>
    have size : s.folded.info = { s.info with rootIdentifier := s.rootIdentifier.folded } := by
      show TreeInfo.mk _ _ s.arena.folded.size _ _ _ = _
      rw [Arena.size_folded]
      rfl
    exact congrArg (fun i => Except.ok (Answer.info i)) size
  | dump =>
    show Except.ok (Answer.dump s.rootIdentifier.folded s.arena.folded.snapshots) = _
    rw [Arena.snapshots_folded]
    rfl
  | counters => rfl

end Store

end DeviceTree
