/-
What the cache remembers is what the walk finds.

An entry of the cache is right as long as the walk along its key still leads to its node.  Every
mutation that could lead a walk elsewhere empties the cache; those that do not, create elements that
are on their own.

* `resolve_fst` -- with right entries a resolution is a walk, whatever the cache holds;
* `cache_of_apply` -- a mutation starts a new epoch or changes no walk;
* `tidy_of_reachable` -- the entries of every reachable session are right.
-/
import DeviceTree.Proofs.Structure
import DeviceTree.Proofs.Walk

namespace DeviceTree

namespace AddressCache

variable {c : AddressCache} {key : String} {id : NodeId} {entry : String × NodeId}

theorem mem_of_get? (h : c.get? key = some id) : (key, id) ∈ c.entries := by
  unfold get? at h
  split at h
  · obtain ⟨before, after, split, -⟩ := List.lookup_eq_some_iff.mp h
    simp [split]
  · simp at h

theorem mem_insertEntry (h : entry ∈ (c.insertEntry key id).entries) :
    entry = (key, id) ∨ entry ∈ c.entries := by
  unfold insertEntry at h
  split at h
  · simp only [replaceEntry, List.mem_map] at h
    obtain ⟨old, mem, rfl⟩ := h
    split
    · exact .inl rfl
    · exact .inr mem
  · simp only [List.mem_append, List.mem_singleton] at h
    rcases h with kept | rfl
    · refine .inr ?_
      unfold makeRoom at kept
      split at kept
      · exact kept
      · exact List.mem_of_mem_eraseIdx kept
    · exact .inl rfl

end AddressCache

namespace Store

open Arena

variable {s t : Store} {key : String} {id : NodeId}

/-- Every entry of the cache leads to where the walk along its key does. -/
def Coherent (s : Store) : Prop :=
  ∀ key id, (key, id) ∈ s.cache.entries → s.walk (Address.segments key) = some id

theorem Coherent.of_empty (empty : s.cache.entries = []) : s.Coherent := by
  intro key id mem
  simp [empty] at mem

theorem Coherent.congr (h : s.Coherent) (entries : t.cache.entries = s.cache.entries)
    (walk : ∀ names, t.walk names = s.walk names) : t.Coherent := by
  intro key id mem
  rw [walk]
  exact h key id (entries ▸ mem)

/-! ### Resolutions -/

/-- **With right entries a resolution is a walk.** -/
theorem resolve_fst (h : s.Coherent) (address : String) :
    (s.resolve address).1 = s.walk (Address.segments (s.rooted address)) := by
  unfold resolve
  dsimp only
  split
  · next id known =>
    -- the entry is one for the key, which leads where the address does
    have mem := AddressCache.mem_of_get? (Option.filter_eq_some_iff.mp known).1
    rw [← walk_key, h _ id mem]
  · -- the count of resolutions is no part of what the walk reads
    have same : ∀ names, (s.count (.lookedUp false)).walk names = s.walk names := fun _ => rfl
    simp only [same]
    cases s.walk (Address.segments (s.rooted address)) with
    | none => rfl
    | some id => rfl

theorem Coherent.remember (h : s.Coherent) (walked : s.walk (Address.segments key) = some id) :
    (s.remember key id).Coherent := by
  have same : ∀ names, (s.remember key id).walk names = s.walk names := fun _ => rfl
  intro key' id' mem
  rw [same]
  unfold Store.remember AddressCache.put at mem
  split at mem
  · rcases AddressCache.mem_insertEntry mem with eq | old
    · obtain ⟨rfl, rfl⟩ := Prod.mk.inj eq
      exact walked
    · exact h key' id' old
  · exact h key' id' mem

theorem arena_resolve (s : Store) (address : String) : (s.resolve address).2.arena = s.arena := by
  unfold resolve
  dsimp only
  split
  · rfl
  · split <;> rfl

theorem Coherent.resolve (h : s.Coherent) (address : String) : (s.resolve address).2.Coherent := by
  unfold Store.resolve
  dsimp only
  split
  · exact h
  · split
    · next id walked =>
      refine Coherent.remember (s := s.count _) h ?_
      rw [walk_key]
      exact walked
    · exact h

/-! ### Mutations -/

/-- Effects that leave something alone, one for each element of a list. -/
theorem foldl_same {α β : Type} (g : Store → β) (f : Store → α → Store)
    (same : ∀ s x, g (f s x) = g s) (xs : List α) : ∀ s : Store, g (xs.foldl f s) = g s := by
  induction xs with
  | nil => exact fun _ => rfl
  | cons x xs ih => exact fun s => (ih (f s x)).trans (same s x)

theorem cache_settled (s : Store) (parent : Option NodeId) (id : NodeId) (name : Identifier) :
    (s.settled parent id name).cache = s.cache.invalidate ∨ s.settled parent id name = s := by
  cases parent with
  | none => exact .inr rfl
  | some parent => exact .inl rfl

theorem cache_discarded (s : Store) (members : List NodeId) :
    (s.discarded members).cache = s.cache.invalidate := by
  have vacated : ∀ (s : Store) id, (s.vacate id).cache = s.cache := by
    intro s id
    unfold vacate
    split <;> rfl
  have released : ∀ (s : Store) id, (releaseLinks members s id).cache = s.cache := by
    intro s id
    unfold releaseLinks
    split
    · rfl
    · exact foldl_same Store.cache (fun s target => s.unmakeLink id target) (fun _ _ => rfl) _ s
  show (members.foldl vacate _).cache.invalidate = _
  rw [foldl_same Store.cache vacate vacated,
    foldl_same Store.cache (releaseLinks members) released]

/-- A mutation drops the entries of the cache and starts a new epoch, unless it creates elements
that are on their own. -/
theorem cache_of_apply {root : Identifier} {m : Mutation} {c : Change Answer}
    (sound : s.arena.Sound root) (h : m.apply s = .ok c t) :
    t.cache = s.cache.invalidate ∨ t.cache = s.cache ∧ Grows s.arena t.arena := by
  cases m <;> obtain ⟨c', granted, -⟩ := Request.map_ok.mp h
  case create parent identifier kind attachment =>
    obtain ⟨name, above, -, -, -, rfl⟩ := create_ok.mp granted
    refine (cache_settled _ parent _ name).imp_right fun same => ?_
    rw [same]
    exact ⟨rfl, (furnished_push sound name kind attachment _).grows⟩
  case createData parent identifier options =>
    obtain ⟨name, above, -, -, -, rfl⟩ := createData_ok.mp granted
    obtain ⟨used, furnished⟩ := furnished_data sound name options (newAddress above name)
    have parts := foldl_same Store.cache (createPart s.arena.nextId) (fun _ _ => rfl) options.parts
      (s.insert (.fresh name .data options.storage (newAddress above name)))
    generalize options.parts.foldl _ _ = u at parts furnished ⊢
    rcases cache_settled u parent s.arena.nextId name with settled | same
    · rw [settled, parts]
      exact .inl rfl
    · rw [same, parts]
      exact .inr ⟨rfl, furnished.grows⟩
  case add =>
    obtain ⟨_, _, -, -, -, -, -, -, -, -, rfl⟩ := add_ok.mp granted
    exact .inl rfl
  case remove =>
    obtain ⟨_, _, _, -, -, -, -, -, -, rfl⟩ := remove_ok.mp granted
    exact .inl rfl
  case link =>
    obtain ⟨_, _, _, -, -, -, -, -, -, -, -, rfl⟩ := link_ok.mp granted
    exact .inl rfl
  case unlink =>
    obtain ⟨_, _, -, -, -, -, rfl⟩ := unlink_ok.mp granted
    exact .inl rfl
  case discard =>
    obtain ⟨_, -, -, -, -, -, rfl⟩ := discard_ok.mp granted
    exact .inl (cache_discarded s _)

theorem Coherent.of_apply {m : Mutation} {c : Change Answer} (h : s.Coherent)
    (sound : s.arena.Sound s.rootIdentifier) (granted : m.apply s = .ok c t) : t.Coherent := by
  rcases cache_of_apply sound granted with dropped | ⟨kept, grows⟩
  · exact .of_empty (by rw [dropped]; rfl)
  · refine h.congr (by rw [kept]) ?_
    exact walk_grows sound (rootIdentifier_of_apply granted) grows

/-- A walk reads no subscriptions. -/
theorem walk_observers (s : Store) (node : NodeId)
    (f : List SubscriptionId → List SubscriptionId) (subscribers : Nat) :
    ∀ names, Store.walk { s with
        arena := s.arena.modify node fun n => { n with observers := f n.observers }
        subscribers } names = s.walk names := by
  refine walk_congr rfl fun id name => ?_
  simp only [childNamed, get?_modify]
  by_cases here : node = id
  · cases s.arena.get? id <;> simp [here, Node.named?]
  · simp [here]

/-! ### Reachable sessions -/

/-- The store is upright and its cache is right. -/
structure Tidy (name : String) (s : Store) : Prop where
  upright : s.Upright name
  coherent : s.Coherent

theorem invariant_tidy (name : String) : Invariant (Tidy name) where
  apply {s} h m := by
    refine ⟨(invariant_upright name).apply h.upright m, ?_⟩
    rcases leftBy_apply m s with ⟨c, t, granted, left⟩ | left
    · rw [left]
      exact h.coherent.of_apply h.upright.sound granted
    · rw [left]
      exact h.coherent
  resolve h address :=
    ⟨(invariant_upright name).resolve h.upright address, h.coherent.resolve address⟩
  observers {s} h node f subscribers := by
    refine ⟨(invariant_upright name).observers h.upright node f subscribers, ?_⟩
    exact h.coherent.congr rfl (walk_observers s node f subscribers)
  lock h lock := ⟨(invariant_upright name).lock h.upright lock, h.coherent⟩
  count h f := ⟨(invariant_upright name).count h.upright f, h.coherent⟩

theorem tidy_of_reachable {options : Options} {s : Session Empty} (h : s.Reachable options) :
    s.tree.store.Tidy options.rootIdentifier :=
  (invariant_tidy options.rootIdentifier).reachable
    (fun root named => ⟨⟨Sound.ofRoot root, named⟩, .of_empty rfl⟩) h

end Store

end DeviceTree
