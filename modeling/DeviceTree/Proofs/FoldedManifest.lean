/-
Folded manifests.

What a manifest says of case is said in its addresses, in the names of its links and in the name of
its root.  Carried out on a folded store, the manifest with all of these folded creates, links and
is refused like the manifest on the store itself:

* `declared_fold` -- parents and names of declared elements;
* `apply_folded` -- whole manifests.
-/
import DeviceTree.Manifest
import DeviceTree.Proofs.FoldedStore

namespace DeviceTree

open Text

/-- A mutation within a transaction, on a folded store. -/
theorem WriteTransaction.perform_folded (tx : WriteTransaction) (m : Mutation) (s : Store) :
    tx.perform m.folded s.folded =
      (foldedOutcome Answer.folded (tx.perform m s).1, (tx.perform m s).2.1,
        (tx.perform m s).2.2.folded) := by
  unfold perform
  cases tx.active with
  | false => rfl
  | true =>
    rw [if_pos rfl, if_pos rfl, m.apply_folded s]
    cases m.apply s <;> rfl

/-- The element with its address in small letters. -/
def DeclaredElement.folded (e : DeclaredElement) : DeclaredElement :=
  { e with address := fold e.address }

/-- The link with its addresses and its name in small letters. -/
def DeclaredLink.folded (l : DeclaredLink) : DeclaredLink :=
  ⟨fold l.source, fold l.target, l.identifier.map fold⟩

/-- The manifest with all names and addresses in small letters. -/
def Manifest.folded (m : Manifest) : Manifest :=
  ⟨m.root.map fold, m.elements.map DeclaredElement.folded, m.links.map DeclaredLink.folded⟩

namespace Manifest

namespace Batch

/-- The batch with its store in small letters. -/
def folded (b : Batch) : Batch :=
  { b with store := b.store.folded }

/-- What a step comes to, with everything in small letters and its value changed by `f`. -/
def foldedStep {α β : Type} (f : α → β) (r : Except Error α × Batch) : Except Error β × Batch :=
  (foldedOutcome f r.1, r.2.folded)

variable {α β γ δ : Type} {f : α → β} {g : γ → δ} (b : Batch)

theorem andThen_folded {r : Except Error α × Batch} {r' : Except Error β × Batch}
    {next : α → Batch → Except Error γ × Batch} {next' : β → Batch → Except Error δ × Batch}
    (first : r' = foldedStep f r) (rest : ∀ a b, next' (f a) b.folded = foldedStep g (next a b)) :
    andThen r' next' = foldedStep g (andThen r next) := by
  subst first
  obtain ⟨outcome, b⟩ := r
  cases outcome with
  | error e => rfl
  | ok a => exact rest a b

theorem locate_folded (address : String) :
    b.folded.locate (fold address) = foldedStep (fun id => id) (b.locate address) := by
  have resolved : b.folded.store.resolve (fold address) = _ := b.store.resolve_folded address
  unfold locate
  rw [resolved]
  obtain ⟨found, s⟩ := b.store.resolve address
  cases found <;> rfl

theorem perform_folded (m : Mutation) :
    b.folded.perform m.folded = foldedStep (fun u => u) (b.perform m) := by
  have performed : b.folded.tx.perform m.folded b.folded.store = _ := b.tx.perform_folded m b.store
  unfold perform
  rw [performed]
  obtain ⟨outcome, tx, s⟩ := b.tx.perform m b.store
  cases outcome <;> rfl

/-- The parent and the name of a declared element are spelled like its address. -/
theorem declared_fold (address : String) :
    declared (fold address) =
      foldedOutcome (fun parts => (fold parts.1, fold parts.2)) (declared address) := by
  have trimmed : dropEnd (· == Address.separator) (trim (fold address).toList) =
      (dropEnd (· == Address.separator) (trim address.toList)).map Char.toLower := by
    rw [toList_fold, Address.trim_map_toLower,
      Address.dropEnd_map_toLower Address.beq_separator_toLower]
  unfold declared
  dsimp only
  rw [trimmed, Address.splitLast_map_toLower]
  cases Address.splitLast (dropEnd (· == Address.separator) (trim address.toList)) with
  | none =>
    simp only [Option.map_none, Address.ofList_map_toLower]
    rfl
  | some parts =>
    simp only [Option.map_some, Address.ofList_map_toLower]
    rfl

theorem locateParent_folded (parent : String) :
    b.folded.locateParent (fold parent) = foldedStep (fun id => id) (b.locateParent parent) := by
  unfold locateParent
  rw [Address.isEmpty_fold]
  split
  · rfl
  · exact b.locate_folded parent

theorem creation_folded (parent : NodeId) (name : String) (spec : DeclaredElement) :
    creation parent (fold name) spec.folded = (creation parent name spec).folded := by
  obtain ⟨address, kind, writable⟩ := spec
  cases kind <;> rfl

theorem declareElement_folded (spec : DeclaredElement) :
    declareElement spec.folded b.folded = foldedStep (fun u => u) (declareElement spec b) := by
  have split : declared spec.folded.address = _ := declared_fold spec.address
  unfold declareElement
  rw [split]
  cases declared spec.address with
  | error e => rfl
  | ok parts =>
    obtain ⟨above, name⟩ := parts
    refine andThen_folded (b.locateParent_folded above) fun parent b => ?_
    rw [creation_folded]
    exact b.perform_folded _

theorem declareLink_folded (spec : DeclaredLink) :
    declareLink spec.folded b.folded = foldedStep (fun u => u) (declareLink spec b) := by
  refine andThen_folded (b.locate_folded spec.source) fun source b => ?_
  refine andThen_folded (b.locate_folded spec.target) fun target b => ?_
  exact b.perform_folded (.link source target spec.identifier)

theorem all_folded {h : α → α} {step : α → Batch → Except Error Unit × Batch}
    (same : ∀ x b, step (h x) b.folded = foldedStep (fun u => u) (step x b)) (xs : List α) :
    ∀ b : Batch, all step (xs.map h) b.folded = foldedStep (fun u => u) (all step xs b) := by
  induction xs with
  | nil => exact fun _ => rfl
  | cons x xs ih => exact fun b => andThen_folded (same x b) fun _ b => ih b

end Batch

/-- **A manifest with folded addresses does to a folded store what the manifest does to the
store.** -/
theorem apply_folded (m : Manifest) (b : Batch) :
    m.folded.apply b.folded = Batch.foldedStep (fun u => u) (m.apply b) := by
  have created : Batch.all Batch.declareElement (m.elements.map DeclaredElement.folded) b.folded =
      Batch.foldedStep (fun u => u) (Batch.all Batch.declareElement m.elements b) :=
    Batch.all_folded (fun e b => b.declareElement_folded e) m.elements b
  refine Batch.andThen_folded created fun _ b => ?_
  exact Batch.all_folded (fun l b => b.declareLink_folded l) m.links b

end Manifest

end DeviceTree
