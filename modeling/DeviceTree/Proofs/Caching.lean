/-
What a cache keeps over all that is asked of it.

A cache starts empty and is asked to take in resolutions, to look keys up and to drop everything.
Whatever the order, and whichever entry makes room for a new one: no key has two entries, there are
never more entries than there is room for, and an entry goes only if the cache is emptied, if its
key is resolved anew, or if a new key finds the cache full; then it is the only one that goes.

The room is made in a loop that may drop any number of entries, and the epoch is looked at a second
time when the new entry is in.  A cache that never held too much drops one entry at most, and the
second look finds what the first one found.

* `MakesRoom`, `Puts` -- the loop, and the taking in of a resolution around it;
* `Fits.after` -- what holds of a cache over a run of calls;
* `puts_iff` -- how a resolution is taken in comes to `AddressCache.put`;
* `latest_of_get?` -- what is found is what was taken in last;
* `cache_keeps` -- all of it, for every run of calls.
-/
import DeviceTree.Proofs.Epoch
import Mathlib

namespace DeviceTree

namespace AddressCache

variable {c d : AddressCache} {entries : List (String × NodeId)} {key other : String}
  {node old : NodeId} {epoch room n : Nat} {wanted : Bool}

/-! ### Calls -/

/-- What may be asked of a cache. -/
inductive Call where
  | put (key : String) (node : NodeId) (epoch : Nat)
  | get (key : String)
  | invalidate
deriving DecidableEq

/-- The cache after a call. -/
def call (c : AddressCache) : Call → AddressCache
  | .put key node epoch => (c.put key node epoch).2
  | .get _ => c
  | .invalidate => c.invalidate

/-- The cache after a run of calls. -/
def after (c : AddressCache) (calls : List Call) : AddressCache :=
  calls.foldl call c

/-- The last resolution of the key that was taken in, with no call to drop everything since, was
`node`. -/
inductive Latest (c : AddressCache) (key : String) (node : NodeId) : List Call → Prop where
  | put {calls : List Call} {epoch : Nat} : ((c.after calls).put key node epoch).1 = true →
      Latest c key node (calls ++ [.put key node epoch])
  | later {calls : List Call} {call : Call} : Latest c key node calls → call ≠ .invalidate →
      (∀ node' epoch, call = .put key node' epoch →
        ((c.after calls).put key node' epoch).1 = false) →
      Latest c key node (calls ++ [call])

/-! ### The loop that makes room -/

/-- The cache without the entry that is picked to make room. -/
def evictOne (c : AddressCache) : AddressCache :=
  { c with
    entries := evict c.entries (c.eviction c.evicted c.entries)
    evicted := c.evicted + 1 }

/-- The loop that makes room: entries are dropped as long as the cache is full, until none is left;
`n` of them until it ends with the cache `d`. -/
inductive MakesRoom : AddressCache → Nat → AddressCache → Prop where
  | room {c : AddressCache} : c.entries.length < c.capacity → MakesRoom c 0 c
  | bare {c : AddressCache} : c.capacity ≤ c.entries.length → c.entries = [] → MakesRoom c 0 c
  | drop {c d : AddressCache} {n : Nat} : c.capacity ≤ c.entries.length → c.entries ≠ [] →
      MakesRoom c.evictOne n d → MakesRoom c (n + 1) d

/-- The second look at the epoch: if it has passed in between, the entry is taken out again. -/
def confirm (c : AddressCache) (key : String) (epoch : Nat) : Bool × AddressCache :=
  if c.epoch = epoch then (true, c)
  else (false, { c with entries := c.entries.filter fun entry => entry.1 ≠ key })

/-- How a resolution is taken in, step by step. -/
inductive Puts (c : AddressCache) (key : String) (node : NodeId) (epoch : Nat) :
    Bool × AddressCache → Prop where
  | refused : c.enabled = false ∨ c.epoch ≠ epoch → Puts c key node epoch (false, c)
  | present : c.enabled = true → c.epoch = epoch → holds c.entries key = true →
      Puts c key node epoch
        (confirm { c with entries := replaceEntry c.entries key node } key epoch)
  | absent {d : AddressCache} {n : Nat} : c.enabled = true → c.epoch = epoch →
      holds c.entries key = false → MakesRoom c n d →
      Puts c key node epoch (confirm { d with entries := d.entries ++ [(key, node)] } key epoch)

/-! ### Entries -/

theorem holds_iff : holds entries key = true ↔ key ∈ entries.map Prod.fst := by
  simp only [holds, List.any_eq_true, beq_iff_eq, List.mem_map]

theorem holds_eq_false_iff : holds entries key = false ↔ key ∉ entries.map Prod.fst := by
  rw [← holds_iff, Bool.not_eq_true]

theorem get?_eq_none_iff (on : c.enabled = true) :
    c.get? key = none ↔ holds c.entries key = false := by
  rw [get?, if_pos on, List.lookup_eq_none_iff, holds, List.any_eq_false]
  constructor
  · intro h entry mem same
    exact absurd (beq_iff_eq.mp same).symm (by simpa using h entry mem)
  · intro h entry mem
    have differ := h entry mem
    rw [beq_iff_eq] at differ
    simpa using fun same => differ same.symm

theorem keys_replaceEntry (entries : List (String × NodeId)) (key : String) (node : NodeId) :
    (replaceEntry entries key node).map Prod.fst = entries.map Prod.fst := by
  rw [replaceEntry, List.map_map]
  refine List.map_congr_left fun entry _ => ?_
  by_cases same : entry.1 = key
  · simp [same]
  · simp [same]

theorem replaceEntry_of_not_holds (absent : holds entries key = false) (node : NodeId) :
    replaceEntry entries key node = entries := by
  refine (List.map_congr_left fun entry mem => ?_).trans (List.map_id entries)
  rw [holds, List.any_eq_false] at absent
  exact if_neg (absent entry mem)

/-- Where keys do not repeat, one entry is replaced and no other. -/
theorem replaceEntry_perm (keys : (entries.map Prod.fst).Nodup)
    (found : entries.lookup key = some old) (node : NodeId) :
    ∃ rest, entries.Perm ((key, old) :: rest) ∧
      (replaceEntry entries key node).Perm ((key, node) :: rest) := by
  obtain ⟨before, after, rfl, -⟩ := List.lookup_eq_some_iff.mp found
  rw [List.map_append, List.map_cons, List.nodup_append, List.nodup_cons] at keys
  obtain ⟨-, ⟨behind, -⟩, apart⟩ := keys
  have ahead : key ∉ before.map Prod.fst := fun mem =>
    apart key mem key (List.mem_cons_self ..) rfl
  refine ⟨before ++ after, List.perm_middle, ?_⟩
  -- no other entry has the key, so that those before and behind stay
  have replaced : replaceEntry (before ++ (key, old) :: after) key node =
      before ++ (key, node) :: after := by
    have first := replaceEntry_of_not_holds (holds_eq_false_iff.mpr ahead) node
    have last := replaceEntry_of_not_holds (holds_eq_false_iff.mpr behind) node
    rw [replaceEntry] at first last ⊢
    rw [List.map_append, List.map_cons, first, last]
    simp
  rw [replaced]
  exact List.perm_middle

theorem evict_perm (some_ : entries ≠ []) (place : Nat) :
    ∃ victim, entries.Perm (victim :: evict entries place) := by
  have inside : place % entries.length < entries.length :=
    Nat.mod_lt _ (List.length_pos_iff.mpr some_)
  exact ⟨_, (List.getElem_cons_eraseIdx_perm inside).symm⟩

theorem length_evict (some_ : entries ≠ []) (place : Nat) :
    (evict entries place).length + 1 = entries.length := by
  obtain ⟨victim, perm⟩ := evict_perm some_ place
  exact perm.length_eq.symm

/-! ### One call -/

/-- What holds of a cache that started with that capacity. -/
structure Fits (room : Nat) (wanted : Bool) (c : AddressCache) : Prop where
  capacity : c.capacity = room
  enabled : c.enabled = (wanted && decide (0 < room))
  size : c.entries.length ≤ room
  idle : c.enabled = false → c.entries = []
  keys : (c.entries.map Prod.fst).Nodup

theorem Fits.pos (fits : Fits room wanted c) (on : c.enabled = true) : 0 < c.capacity := by
  have both := fits.enabled.symm.trans on
  rw [Bool.and_eq_true, decide_eq_true_eq] at both
  exact fits.capacity ▸ both.2

theorem fits_fresh (capacity : Nat) (enabled : Bool) (eviction : Eviction) :
    Fits capacity enabled (fresh capacity enabled eviction) where
  capacity := rfl
  enabled := rfl
  size := Nat.zero_le _
  idle _ := rfl
  keys := List.nodup_nil

theorem Fits.makeRoom (fits : Fits room wanted c) : Fits room wanted c.makeRoom := by
  unfold AddressCache.makeRoom
  split
  · exact fits
  · have fewer : (evict c.entries (c.eviction c.evicted c.entries)).Sublist c.entries :=
      List.eraseIdx_sublist _ _
    exact
      { capacity := fits.capacity
        enabled := fits.enabled
        size := fewer.length_le.trans fits.size
        idle := fun off => List.eq_nil_of_sublist_nil (fits.idle off ▸ fewer)
        keys := fits.keys.sublist (fewer.map _) }

/-- The room that is made is enough for one entry more. -/
theorem Fits.length_makeRoom (fits : Fits room wanted c) (on : c.enabled = true) :
    c.makeRoom.entries.length < room := by
  have pos := fits.pos on
  have size := fits.size
  have same := fits.capacity
  unfold AddressCache.makeRoom
  split
  · next spare => exact same ▸ spare
  · next full =>
    have present : c.entries ≠ [] := List.ne_nil_of_length_pos (by omega)
    have one := length_evict present (c.eviction c.evicted c.entries)
    show (evict c.entries _).length < room
    omega

theorem Fits.insertEntry (fits : Fits room wanted c) (on : c.enabled = true) (key : String)
    (node : NodeId) : Fits room wanted (c.insertEntry key node) := by
  unfold AddressCache.insertEntry
  split
  · exact
      { capacity := fits.capacity
        enabled := fits.enabled
        size := (List.length_map _).trans_le fits.size
        idle := fun off => absurd (on.symm.trans off) (by decide)
        keys := (keys_replaceEntry c.entries key node).symm ▸ fits.keys }
  · next absent =>
    have gone := holds_makeRoom (Bool.not_eq_true _ ▸ absent)
    have roomy := fits.makeRoom
    have on' : c.makeRoom.enabled = true := roomy.enabled.trans (fits.enabled.symm.trans on)
    exact
      { capacity := roomy.capacity
        enabled := roomy.enabled
        size := by
          rw [List.length_append, List.length_singleton]
          exact fits.length_makeRoom on
        idle := fun off => absurd (on'.symm.trans off) (by decide)
        keys := by
          rw [List.map_append, List.map_singleton, List.nodup_append_comm]
          exact List.nodup_cons.mpr ⟨holds_eq_false_iff.mp gone, roomy.keys⟩ }

/-- **What comes of a resolution**: it is taken in, or nothing is changed. -/
theorem put_cases (c : AddressCache) (key : String) (node : NodeId) (epoch : Nat) :
    (c.enabled = true ∧ c.epoch = epoch ∧
        c.put key node epoch = (true, c.insertEntry key node)) ∨
      (c.enabled = false ∨ c.epoch ≠ epoch) ∧ c.put key node epoch = (false, c) := by
  unfold put
  cases on : c.enabled with
  | false => exact .inr ⟨.inl rfl, rfl⟩
  | true =>
    by_cases current : c.epoch = epoch
    · exact .inl ⟨rfl, current, by simp [current]⟩
    · exact .inr ⟨.inr current, by simp [current]⟩

theorem put_eq_true_iff : (c.put key node epoch).1 = true ↔ c.enabled = true ∧ c.epoch = epoch := by
  rw [← Bool.not_eq_false, put_eq_false_iff, not_or, Bool.not_eq_false, not_not]

theorem Fits.call (fits : Fits room wanted c) (call : Call) :
    Fits room wanted (c.call call) := by
  cases call with
  | put key node epoch =>
    rcases c.put_cases key node epoch with ⟨on, -, taken⟩ | ⟨-, kept⟩
    · rw [AddressCache.call, taken]
      exact fits.insertEntry on key node
    · rw [AddressCache.call, kept]
      exact fits
  | get key => exact fits
  | invalidate => exact { fits with size := Nat.zero_le _, idle := fun _ => rfl, keys := .nil }

theorem epoch_call (c : AddressCache) (call : Call) :
    (c.call call).epoch = c.epoch + [call].count .invalidate := by
  cases call with
  | put key node epoch => exact epoch_put c key node epoch
  | get key => rfl
  | invalidate => rfl

/-! ### A resolution that is taken in -/

/-- **The loop drops one entry of a full cache** and none of another. -/
theorem makesRoom_iff (pos : 0 < c.capacity) (size : c.entries.length ≤ c.capacity) :
    c.MakesRoom n d ↔ d = c.makeRoom ∧ n = if c.entries.length < c.capacity then 0 else 1 := by
  by_cases spare : c.entries.length < c.capacity
  · rw [makeRoom, if_pos spare, if_pos spare]
    constructor
    · intro made
      cases made with
      | room => exact ⟨rfl, rfl⟩
      | bare => exact ⟨rfl, rfl⟩
      | drop full => omega
    · rintro ⟨rfl, rfl⟩
      exact .room spare
  · have present : c.entries ≠ [] := List.ne_nil_of_length_pos (by omega)
    have one : c.evictOne.entries.length + 1 = c.entries.length := length_evict present _
    have enough : c.evictOne.entries.length < c.evictOne.capacity := by
      have same : c.evictOne.capacity = c.capacity := rfl
      omega
    rw [makeRoom, if_neg spare, if_neg spare]
    constructor
    · intro made
      cases made with
      | room spare' => exact absurd spare' spare
      | bare _ none => exact absurd none present
      | drop _ _ made' =>
        -- there is room after the first entry
        cases made' with
        | room => exact ⟨rfl, rfl⟩
        | bare => exact ⟨rfl, rfl⟩
        | drop full => omega
    · rintro ⟨rfl, rfl⟩
      exact .drop (by omega) present (.room enough)

/-- **To take a resolution in comes to an end, and to `AddressCache.put`.** -/
theorem Fits.puts_iff (fits : Fits room wanted c) {result : Bool × AddressCache} :
    c.Puts key node epoch result ↔ result = c.put key node epoch := by
  have size : c.entries.length ≤ c.capacity := fits.capacity.symm ▸ fits.size
  rcases c.put_cases key node epoch with ⟨on, current, taken⟩ | ⟨refused, kept⟩
  · rw [taken]
    cases held : holds c.entries key with
    | true =>
      have now : confirm { c with entries := replaceEntry c.entries key node } key epoch =
          (true, c.insertEntry key node) := by
        rw [AddressCache.insertEntry, if_pos held, confirm]
        exact if_pos current
      constructor
      · intro done
        cases done with
        | refused refused =>
          exact absurd (refused.resolve_left (by simp [on])) (not_not.mpr current)
        | present => exact now
        | absent _ _ absent => exact absurd (held.symm.trans absent) (by decide)
      · rintro rfl
        exact now ▸ .present on current held
    | false =>
      have now : confirm { c.makeRoom with entries := c.makeRoom.entries ++ [(key, node)] } key
          epoch = (true, c.insertEntry key node) := by
        rw [AddressCache.insertEntry, held, confirm]
        exact if_pos (c.epoch_makeRoom.trans current)
      constructor
      · intro done
        cases done with
        | refused refused =>
          exact absurd (refused.resolve_left (by simp [on])) (not_not.mpr current)
        | present _ _ held' => exact absurd (held'.symm.trans held) (by decide)
        | absent _ _ _ made =>
          obtain ⟨rfl, -⟩ := (makesRoom_iff (fits.pos on) size).mp made
          exact now
      · rintro rfl
        exact now ▸ .absent on current held ((makesRoom_iff (fits.pos on) size).mpr ⟨rfl, rfl⟩)
  · rw [kept]
    constructor
    · intro done
      cases done with
      | refused => rfl
      | present on current => exact absurd current (refused.resolve_left (by simp [on]))
      | absent on current => exact absurd current (refused.resolve_left (by simp [on]))
    · rintro rfl
      exact .refused refused

/-- What an entry that is taken in does to the others. -/
structure Filed (key : String) (node : NodeId) (c d : AddressCache) : Prop where
  /-- A key that has an entry gets another one. -/
  again : ∀ old, c.get? key = some old →
    ∃ rest, c.entries.Perm ((key, old) :: rest) ∧ d.entries.Perm ((key, node) :: rest)
  /-- Where there is room, nothing goes. -/
  spare : c.get? key = none → c.entries.length < c.capacity →
    d.entries.Perm ((key, node) :: c.entries)
  /-- If the cache is full, one entry makes room. -/
  full : c.get? key = none → c.capacity ≤ c.entries.length →
    ∃ victim rest, c.entries.Perm (victim :: rest) ∧ d.entries.Perm ((key, node) :: rest)

theorem Fits.filed (fits : Fits room wanted c) (on : c.enabled = true) (key : String)
    (node : NodeId) : Filed key node c (c.insertEntry key node) := by
  have absent : c.get? key = none → (c.insertEntry key node).entries.Perm
      ((key, node) :: c.makeRoom.entries) := by
    intro unknown
    rw [AddressCache.insertEntry, (get?_eq_none_iff on).mp unknown]
    exact List.perm_append_singleton _ _
  refine ⟨fun old found => ?_, fun unknown spare => ?_, fun unknown full => ?_⟩
  · have held : holds c.entries key = true := by
      rw [← Bool.not_eq_false, ← get?_eq_none_iff on, found]
      exact Option.some_ne_none old
    rw [get?, if_pos on] at found
    rw [AddressCache.insertEntry, if_pos held]
    exact replaceEntry_perm fits.keys found node
  · have filed := absent unknown
    rw [AddressCache.makeRoom, if_pos spare] at filed
    exact filed
  · have filed := absent unknown
    have present : c.entries ≠ [] := List.ne_nil_of_length_pos ((fits.pos on).trans_le full)
    obtain ⟨victim, perm⟩ := evict_perm present (c.eviction c.evicted c.entries)
    rw [AddressCache.makeRoom, if_neg (by omega)] at filed
    exact ⟨victim, _, perm, filed⟩

/-- What is found under another key was found before. -/
theorem Fits.get?_of_insertEntry (fits : Fits room wanted c) (on : c.enabled = true)
    (differ : other ≠ key) (found : (c.insertEntry key node).get? other = some old) :
    c.get? other = some old := by
  have mem := mem_of_get? found
  rcases mem_insertEntry mem with eq | kept
  · exact absurd (congrArg Prod.fst eq) differ
  · rw [get?, if_pos on]
    obtain ⟨before, after, split⟩ := List.append_of_mem kept
    refine List.lookup_eq_some_iff.mpr ⟨before, after, split, fun entry mem => ?_⟩
    have keys := fits.keys
    rw [split, List.map_append, List.map_cons, List.nodup_append] at keys
    have apart := keys.2.2 entry.1 (List.mem_map_of_mem mem) other (List.mem_cons_self ..)
    simpa using fun same => apart same.symm

/-! ### Runs -/

theorem after_concat (c : AddressCache) (calls : List Call) (call : Call) :
    c.after (calls ++ [call]) = (c.after calls).call call :=
  List.foldl_concat ..

theorem Fits.after (fits : Fits room wanted c) (calls : List Call) :
    Fits room wanted (c.after calls) := by
  induction calls using List.reverseRecOn with
  | nil => exact fits
  | append_singleton calls call ih => exact after_concat c calls call ▸ ih.call call

theorem epoch_after (c : AddressCache) (calls : List Call) :
    (c.after calls).epoch = c.epoch + calls.count .invalidate := by
  induction calls using List.reverseRecOn with
  | nil => rfl
  | append_singleton calls call ih =>
    rw [after_concat, epoch_call, ih, List.count_append, Nat.add_assoc]

/-- **What is found is what was taken in last.** -/
theorem Fits.latest_of_get? (fits : Fits room wanted c) (bare : c.entries = [])
    (calls : List Call) (found : (c.after calls).get? key = some node) :
    c.Latest key node calls := by
  induction calls using List.reverseRecOn with
  | nil =>
    have mem := mem_of_get? found
    rw [show c.after [] = c from rfl, bare] at mem
    exact absurd mem List.not_mem_nil
  | append_singleton calls call ih =>
    rw [after_concat] at found
    cases call with
    | get other => exact .later (ih found) nofun nofun
    | invalidate => exact absurd (mem_of_get? found) List.not_mem_nil
    | put other node' epoch =>
      rcases (c.after calls).put_cases other node' epoch with ⟨on, current, taken⟩ | ⟨-, kept⟩
      · rw [AddressCache.call] at found
        by_cases same : key = other
        · -- this is the call in question
          subst same
          have now : ((c.after calls).put key node' epoch).1 = true := congrArg Prod.fst taken
          obtain rfl : node = node' := Option.some.inj (found.symm.trans (get?_put now))
          exact .put now
        · rw [taken] at found
          refine .later (ih ((fits.after calls).get?_of_insertEntry on same found)) nofun ?_
          intro node epoch eq
          exact absurd (Call.put.inj eq).1.symm same
      · rw [AddressCache.call, kept] at found
        refine .later (ih found) nofun ?_
        rintro node epoch ⟨⟩
        exact congrArg Prod.fst kept

end AddressCache

open AddressCache

/-- **What a cache keeps.**  Let a cache start empty, with any capacity and switched on or off, and
let `calls` be asked of it, with whatever keys, nodes and epochs; the entries that make room may be
picked in any way.  There are never more entries than the capacity, and none if the cache is off or
has no room; no key has two of them; and the epoch is the number of times that everything was
dropped.

To take a resolution in always comes to an end.  It is taken if and only if the cache is in use and
the epoch is the present one; then the key leads to the node, and all other entries stay, but that
one of them goes if the key is new and the cache full.  If it is not taken, the cache is as it was.
Whatever a key leads to was the last resolution of that key that was taken in since the cache was
last emptied. -/
theorem cache_keeps (capacity : Nat) (enabled : Bool) (eviction : Eviction)
    (calls : List AddressCache.Call) :
    let c := (fresh capacity enabled eviction).after calls
    c.entries.length ≤ capacity ∧ (enabled = false ∨ capacity = 0 → c.entries = []) ∧
      (c.entries.map Prod.fst).Nodup ∧ c.epoch = calls.count .invalidate ∧
      (∀ key node epoch,
        (∀ result, c.Puts key node epoch result ↔ result = c.put key node epoch) ∧
        ((c.put key node epoch).1 = true ↔ (enabled = true ∧ 0 < capacity) ∧ c.epoch = epoch) ∧
        ((c.put key node epoch).1 = true →
          (c.put key node epoch).2.get? key = some node ∧
          Filed key node c (c.put key node epoch).2) ∧
        ((c.put key node epoch).1 = false → (c.put key node epoch).2 = c)) ∧
      ∀ key node, c.get? key = some node →
        (fresh capacity enabled eviction).Latest key node calls := by
  intro c
  have start := fits_fresh capacity enabled eviction
  have fits : Fits capacity enabled c := start.after calls
  have inUse : c.enabled = true ↔ enabled = true ∧ 0 < capacity := by
    rw [fits.enabled, Bool.and_eq_true, decide_eq_true_eq]
  refine ⟨fits.size, fun unused => fits.idle ?_, fits.keys, ?_, fun key node epoch => ?_,
    fun key node found => start.latest_of_get? rfl calls found⟩
  · rw [fits.enabled]
    rcases unused with rfl | rfl
    · rfl
    · exact Bool.and_false enabled
  · exact (epoch_after _ calls).trans (Nat.zero_add _)
  · refine ⟨fun result => fits.puts_iff, put_eq_true_iff.trans (and_congr_left' inUse),
      fun taken => ⟨get?_put taken, ?_⟩, fun refused => ?_⟩
    · rcases c.put_cases key node epoch with ⟨on, -, taken'⟩ | ⟨-, kept⟩
      · rw [taken']
        exact fits.filed on key node
      · rw [kept] at taken
        cases taken
    · rcases c.put_cases key node epoch with ⟨-, -, taken⟩ | ⟨-, kept⟩
      · rw [taken] at refused
        cases refused
      · rw [kept]

/-- In a cache of one entry a second key takes the place of the first; what was found before the
cache was emptied comes too late. -/
example :
    let c := (fresh 1 true .oldest).after [.put "a" ⟨1⟩ 0, .put "b" ⟨2⟩ 0]
    c.entries = [("b", ⟨2⟩)] ∧ (c.after [.invalidate, .put "a" ⟨1⟩ 0]).entries = [] := by
  decide

end DeviceTree
