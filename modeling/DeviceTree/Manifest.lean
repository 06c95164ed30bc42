/-
Manifests: descriptions of a whole tree.

A manifest lists elements, each by its full address, and links between addresses.  Elements are
created in order, so that a parent comes before its children, and links are made when all
elements are there.

* **`Manifest.apply`** -- carries out a manifest within a write transaction;
* **`Manifest.build`** -- makes a new tree of it.
-/
import DeviceTree.File
import DeviceTree.Store.Resolve
import DeviceTree.Toml
import DeviceTree.Transaction

namespace DeviceTree

/-- An element of a manifest. -/
structure DeclaredElement where
  /-- The full address; its last segment is the name. -/
  address : String
  kind : ElementKind
  /-- For a data element: whether its value can be set. -/
  writable : Bool
  deriving DecidableEq, Repr

/-- A link of a manifest. -/
structure DeclaredLink where
  source : String
  target : String
  /-- The name of the link, if it is not that of its target. -/
  identifier : Option String
  deriving DecidableEq, Repr

/-- A description of a whole tree. -/
structure Manifest where
  /-- The name of the root, if the manifest gives one. -/
  root : Option String
  elements : List DeclaredElement
  links : List DeclaredLink
  deriving DecidableEq, Repr

namespace Manifest

open Toml

/-- The kind of that name. -/
def kindNamed (v : Value) (name : String) : Except Fault ElementKind :=
  match ElementKind.ofName? name with
  | some kind => .ok kind
  | none => .error ⟨v.left, .unknownName name (ElementKind.all.map ElementKind.name)⟩

/-- The kind that a value names: a text, or a table with the name as its only key. -/
def kindOfValue (v : Value) : Except Fault ElementKind :=
  match v.content with
  | .text name => kindNamed v name
  | .table [(name, inner)] => do
    let kind ← kindNamed v name
    match inner.content with
    | .table [] | .array [] => return kind
    | _ => throw inner.misfit
  | _ => .error v.misfit

/-- An element of which some fields were read. -/
structure ElementDraft where
  address : Option String
  kind : ElementKind
  writable : Bool

/-- Reads a field of an element. -/
def readElement (d : ElementDraft) (key : String) (v : Value) : Except Fault ElementDraft :=
  match key with
  | "address" => return { d with address := ← v.text }
  | "kind" => return { d with kind := ← kindOfValue v }
  | "writable" => return { d with writable := ← v.boolean }
  | _ => return d

/-- The element that a value describes. -/
def elementOfValue (v : Value) : Except Fault DeclaredElement := do
  let d ← v.record ["address", "kind", "writable"] readElement ⟨none, .group, false⟩
  return ⟨← v.required d.address, d.kind, d.writable⟩

/-- A link of which some fields were read. -/
structure LinkDraft where
  source : Option String
  target : Option String
  identifier : Option String

/-- Reads a field of a link. -/
def readLink (d : LinkDraft) (key : String) (v : Value) : Except Fault LinkDraft :=
  match key with
  | "source" => return { d with source := ← v.text }
  | "target" => return { d with target := ← v.text }
  | "identifier" => return { d with identifier := ← v.text }
  | _ => return d

/-- The link that a value describes. -/
def linkOfValue (v : Value) : Except Fault DeclaredLink := do
  let d ← v.record ["source", "target", "identifier"] readLink ⟨none, none, none⟩
  return ⟨← v.required d.source, ← v.required d.target, d.identifier⟩

/-- Reads a field of the whole document. -/
def read (m : Manifest) (key : String) (v : Value) : Except Fault Manifest :=
  match key with
  | "root" => return { m with root := ← v.text }
  | "element" => return { m with elements := ← v.list elementOfValue }
  | "link" => return { m with links := ← v.list linkOfValue }
  | _ => return m

/-- The manifest that a value describes. -/
def ofValue (v : Value) : Except Fault Manifest :=
  v.record ["root", "element", "link"] read ⟨none, [], []⟩

/-- The manifest that a document describes. -/
def ofText (document : String) : Except Defect Manifest :=
  Toml.decode ofValue document

/-- The manifest in a file. -/
def ofFile (file : File) : Except Error Manifest := do
  let text ← file.text
  match ofText text with
  | .ok manifest => .ok manifest
  | .error defect => .error (.malformed file.name defect)

/-- A write transaction under way, with the store on which it works. -/
structure Batch where
  tx : WriteTransaction
  store : Store

namespace Batch

/-- Resolves an address that has to lead somewhere. -/
def locate (b : Batch) (address : String) : Except Error NodeId × Batch :=
  let (found, store) := b.store.resolve address
  (match found with
    | some id => .ok id
    | none => .error (.unresolved address),
    { b with store })

/-- Performs a mutation. -/
def perform (b : Batch) (mutation : Mutation) : Except Error Unit × Batch :=
  let (outcome, tx, store) := b.tx.perform mutation b.store
  (outcome.map fun _ => (), { tx, store })

/-- Goes on if the step before was granted. -/
def andThen {α β : Type} (step : Except Error α × Batch)
    (next : α → Batch → Except Error β × Batch) : Except Error β × Batch :=
  match step with
  | (.ok a, b) => next a b
  | (.error e, b) => (.error e, b)

/-- The address of the parent of a declared element, and its own name. -/
def declared (address : String) : Except Error (String × String) :=
  let trimmed := Text.dropEnd (· == Address.separator) (Text.trim address.toList)
  match Address.splitLast trimmed with
  | some (parent, name) => .ok (String.ofList parent, String.ofList name)
  | none => .error (.noParent address (String.ofList trimmed))

/-- The parent of a declared element: the root if its address is empty. -/
def locateParent (b : Batch) (parent : String) : Except Error NodeId × Batch :=
  if parent.isEmpty then (.ok .root, b) else b.locate parent

/-- The mutation that creates a declared element. -/
def creation (parent : NodeId) (name : String) (spec : DeclaredElement) : Mutation :=
  match spec.kind with
  | .data => .createData (some parent) name ⟨spec.writable, none, none⟩
  | kind => .create (some parent) name kind none

/-- Creates a declared element. -/
def declareElement (spec : DeclaredElement) (b : Batch) : Except Error Unit × Batch :=
  match declared spec.address with
  | .error e => (.error e, b)
  | .ok (parent, name) =>
    andThen (b.locateParent parent) fun parent b => b.perform (creation parent name spec)

/-- Makes a declared link. -/
def declareLink (spec : DeclaredLink) (b : Batch) : Except Error Unit × Batch :=
  andThen (b.locate spec.source) fun source b =>
    andThen (b.locate spec.target) fun target b =>
      b.perform (.link source target spec.identifier)

/-- Carries out steps one after the other, up to the first that is refused. -/
def all {α : Type} (step : α → Batch → Except Error Unit × Batch) :
    List α → Batch → Except Error Unit × Batch
  | [], b => (.ok (), b)
  | x :: rest, b => andThen (step x b) fun _ b => all step rest b

end Batch

/-- Carries out a manifest within a write transaction.  What was done before an error stays. -/
def apply (m : Manifest) (b : Batch) : Except Error Unit × Batch :=
  Batch.andThen (Batch.all Batch.declareElement m.elements b) fun _ b =>
    Batch.all Batch.declareLink m.links b

/-- The options of the tree that a manifest describes: its own root comes first. -/
def optionsFor (m : Manifest) (options : Options) : Options :=
  { options with rootIdentifier := m.root.getD options.rootIdentifier }

/-- Makes a new tree of a manifest, in one write transaction. -/
def build (m : Manifest) (options : Options) : Except Error Store := do
  let s ← Store.ofOptions (m.optionsFor options)
  let (begun, s) := s.beginWrite
  begun
  let (outcome, b) := m.apply ⟨.fresh, s⟩
  outcome
  return b.store.endWrite

end Manifest

end DeviceTree
