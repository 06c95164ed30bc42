/-
Epochs of the cache.

The epoch is what a resolution is dated by, so that one that was found before a change is not taken
in after it.  This is right because an epoch is not over before a walk can lead elsewhere:

* `invariant_since` -- epochs only go up, and within one of them all walks lead to the same places;
* `epoch_sound` -- whatever was found at some time in a run is refused later on, or still right.
-/
import DeviceTree.Proofs.Coherence

namespace DeviceTree

theorem AddressCache.epoch_makeRoom (c : AddressCache) : c.makeRoom.epoch = c.epoch := by
  unfold makeRoom
  split <;> rfl

theorem AddressCache.epoch_insertEntry (c : AddressCache) (key : String) (id : NodeId) :
    (c.insertEntry key id).epoch = c.epoch := by
  unfold insertEntry
  split
  · rfl
  · exact c.epoch_makeRoom

theorem AddressCache.epoch_put (c : AddressCache) (key : String) (id : NodeId) (epoch : Nat) :
    (c.put key id epoch).2.epoch = c.epoch := by
  unfold put
  split
  · exact c.epoch_insertEntry key id
  · rfl

namespace Store

variable {s₀ s : Store} {name : String}

/-- Where an address leads, whatever the cache knows. -/
def uncached (s : Store) (address : String) : Option NodeId :=
  s.walk (Address.segments (s.rooted address))

theorem epoch_resolve (s : Store) (address : String) :
    (s.resolve address).2.cache.epoch = s.cache.epoch := by
  unfold resolve
  dsimp only
  split
  · rfl
  · split
    · exact AddressCache.epoch_put s.cache _ _ _
    · rfl

theorem walk_resolve (s : Store) (address : String) (names : List String) :
    (s.resolve address).2.walk names = s.walk names := by
  unfold resolve
  dsimp only
  split
  · rfl
  · split <;> rfl

/-- A look-up changes nothing about where addresses lead. -/
theorem uncached_resolve (s : Store) (first address : String) :
    (s.resolve first).2.uncached address = s.uncached address := by
  have root : (s.resolve first).2.rootIdentifier = s.rootIdentifier := by
    unfold resolve
    dsimp only
    split
    · rfl
    · split <;> rfl
  rw [uncached, uncached, walk_resolve, rooted, rooted, root]

theorem walk_endWrite (s : Store) (names : List String) : s.endWrite.walk names = s.walk names :=
  walk_congr (s := s) (t := s.endWrite) rfl (fun _ _ => rfl) names

theorem uncached_endWrite (s : Store) (address : String) :
    s.endWrite.uncached address = s.uncached address :=
  s.walk_endWrite (Address.segments (s.rooted address))

/-- What has happened since `s₀` is known by the epoch: as long as it is the same, walks lead where
they led. -/
structure Since (name : String) (s₀ s : Store) : Prop where
  upright : s.Upright name
  epoch : s₀.cache.epoch ≤ s.cache.epoch
  walk : s.cache.epoch = s₀.cache.epoch → ∀ names, s.walk names = s₀.walk names

theorem Since.refl (upright : s.Upright name) : Since name s s :=
  ⟨upright, Nat.le_refl _, fun _ _ => rfl⟩

/-- Where the epoch and the walks stay the same, nothing has happened. -/
theorem Since.congr {t : Store} (h : Since name s₀ s) (upright : t.Upright name)
    (epoch : t.cache.epoch = s.cache.epoch) (walk : ∀ names, t.walk names = s.walk names) :
    Since name s₀ t where
  upright := upright
  epoch := epoch ▸ h.epoch
  walk same names := (walk names).trans (h.walk (epoch.symm.trans same) names)

theorem Since.of_apply {m : Mutation} {c : Change Answer} {t : Store} (h : Since name s₀ s)
    (upright : t.Upright name) (granted : m.apply s = .ok c t) : Since name s₀ t := by
  have sound := h.upright.sound
  rcases cache_of_apply sound granted with dropped | ⟨kept, grows⟩
  · -- the epoch is over, and nothing was said of the next
    have next : t.cache.epoch = s.cache.epoch + 1 := by rw [dropped]; rfl
    have before := h.epoch
    refine ⟨upright, by omega, fun same => ?_⟩
    omega
  · refine h.congr upright (by rw [kept]) ?_
    exact walk_grows sound (rootIdentifier_of_apply granted) grows

theorem invariant_since (name : String) (s₀ : Store) : Invariant (Since name s₀) where
  apply {s} h m := by
    have upright := (invariant_upright name).apply h.upright m
    rcases leftBy_apply m s with ⟨c, t, granted, left⟩ | left
    · rw [left] at upright ⊢
      exact h.of_apply upright granted
    · rw [left]
      exact h
  resolve {s} h address :=
    h.congr ((invariant_upright name).resolve h.upright address) (epoch_resolve s address)
      (walk_resolve s address)
  observers {s} h node f subscribers :=
    h.congr ((invariant_upright name).observers h.upright node f subscribers) rfl
      (walk_observers s node f subscribers)
  lock h lock := h.congr ((invariant_upright name).lock h.upright lock) rfl fun _ => rfl
  count h f := h.congr ((invariant_upright name).count h.upright f) rfl fun _ => rfl

end Store

/-! ### Reachable sessions -/

/-- **A resolution is refused, or right.**  Along a run the epoch never goes back, and as long as it
is the same every address leads, without the cache, to where it led.  Therefore a cache that is
handed what an address led to at some time, dated by the epoch of that time, either refuses it and
stays as it is, or holds it from then on; and then it is right, as are all other entries. -/
theorem epoch_sound (options : Options) (s s' : Session Empty) (h : s.Reachable options)
    (later : s.Later s') :
    s.tree.store.cache.epoch ≤ s'.tree.store.cache.epoch ∧
      (s'.tree.store.cache.epoch = s.tree.store.cache.epoch →
        ∀ address, s'.tree.store.uncached address = s.tree.store.uncached address) ∧
      ∀ address id, s.tree.store.uncached address = some id →
        let key := Address.key (s.tree.store.rooted address)
        let put := s'.tree.store.cache.put key id s.tree.store.cache.epoch
        (put.1 = false ∧ put.2 = s'.tree.store.cache) ∨
          (put.1 = true ∧ put.2.get? key = some id ∧
            s'.tree.store.arena.contains id = true ∧
            s'.tree.store.uncached address = some id ∧
            ∀ other node, (other, node) ∈ put.2.entries →
              s'.tree.store.walk (Address.segments other) = some node) := by
  have upright := Store.upright_of_reachable h
  have since := (Store.invariant_since options.rootIdentifier s.tree.store).later later
    (.refl upright)
  have tidy := Store.tidy_of_reachable (h.later later)
  have uncached : s'.tree.store.cache.epoch = s.tree.store.cache.epoch →
      ∀ address, s'.tree.store.uncached address = s.tree.store.uncached address := by
    intro same address
    have rooted : s'.tree.store.rooted address = s.tree.store.rooted address := by
      rw [Store.rooted, Store.rooted, since.upright.named, upright.named]
    rw [Store.uncached, Store.uncached, rooted, since.walk same]
  refine ⟨since.epoch, uncached, fun address id found => ?_⟩
  dsimp only
  generalize spelled : Address.key (s.tree.store.rooted address) = key
  by_cases taken : (s'.tree.store.cache.put key id s.tree.store.cache.epoch).1 = true
  · -- what is taken in has the date of today
    have same : s'.tree.store.cache.epoch = s.tree.store.cache.epoch := by
      by_contra passed
      have refused : (s'.tree.store.cache.put key id s.tree.store.cache.epoch).1 = false :=
        AddressCache.put_eq_false_iff.mpr (.inr passed)
      simp [refused] at taken
    have walked : s'.tree.store.walk (Address.segments key) = some id := by
      rw [← spelled, Store.walk_key, since.walk same]
      exact found
    obtain ⟨n, live⟩ := Store.live_of_walk tidy.upright.sound walked
    refine .inr ⟨taken, AddressCache.get?_put taken, ?_, ?_, ?_⟩
    · rw [Arena.contains, live, Option.isSome_some]
    · rw [uncached same, found]
    · have coherent := tidy.coherent.remember walked
      rw [Store.Coherent, Store.remember, same] at coherent
      exact coherent
  · refine .inl ⟨by simpa using taken, ?_⟩
    unfold AddressCache.put at taken ⊢
    split <;> simp_all

/-- A session in which a pump was created under the root. -/
def Session.pumping : Session Empty :=
  let new : Session Empty := ⟨.ofStore .standard, #[]⟩
  new.next (.perform (.mutate (.create (some .root) "Pump" .group none)))

/-- What the address of the pump led to is taken in, and still right, when a spare element is there
that is on its own. -/
theorem epoch_sound_spare :
    let s := Session.pumping
    let s' := s.next (.perform (.mutate (.create none "spare" .group none)))
    let key := Address.key (s.tree.store.rooted "/pump")
    let taken := s'.tree.store.cache.put key ⟨1⟩ s.tree.store.cache.epoch
    s.Reachable .standard ∧ s.Later s' ∧ s.tree.store.uncached "/pump" = some ⟨1⟩ ∧
      taken.1 = true ∧ taken.2.get? key = some ⟨1⟩ ∧
      s'.tree.store.uncached "/pump" = some ⟨1⟩ := by
  intro s s' key taken
  have reached : s.Reachable .standard := (Session.Reachable.fresh rfl).next _
  have later : s.Later s' := (Session.Later.refl s).next _
  have found : s.tree.store.uncached "/pump" = some ⟨1⟩ := by
    have named := (Store.upright_of_reachable reached).named
    have rooted : Address.normalize "/pump" "device" = "device/pump" := by decide +kernel
    rw [Store.uncached, Store.rooted, named, Options.standard, rooted]
    decide +kernel
  have enabled : s'.tree.store.cache.enabled = true := by decide +kernel
  have epoch : s'.tree.store.cache.epoch = s.tree.store.cache.epoch := by decide +kernel
  obtain ⟨-, -, sound⟩ := epoch_sound .standard s s' reached later
  rcases sound "/pump" ⟨1⟩ found with ⟨refused, -⟩ | ⟨granted, known, -, right, -⟩
  · rcases AddressCache.put_eq_false_iff.mp refused with disabled | passed
    · simp [enabled] at disabled
    · exact absurd epoch passed
  · exact ⟨reached, later, found, granted, known, right⟩

end DeviceTree
