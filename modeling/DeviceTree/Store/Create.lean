/-
Creating elements.

* **`create`** -- one element, under a parent or detached;
* **`createData`** -- a data element with the services and the event that belong to it.
-/
import DeviceTree.Store

namespace DeviceTree

/-- What a data element is created with. -/
structure DataOptions where
  /-- Whether the element has a service that sets its value. -/
  writable : Bool
  /-- What the element's value is kept in. -/
  storage : Option String
  /-- What sends the element's change event. -/
  eventSender : Option String
  deriving DecidableEq, Repr

namespace DataOptions

/-- The name of the service that reads the value. -/
def readService : Identifier := ⟨"getdata", by decide⟩

/-- The name of the service that sets the value. -/
def writeService : Identifier := ⟨"setdata", by decide⟩

/-- The name of the event that tells of a new value. -/
def changeEvent : Identifier := ⟨"datachanged", by decide⟩

/-- The elements that belong to a data element, in the order in which they are created. -/
def parts (options : DataOptions) : List (Identifier × ElementKind × Option String) :=
  (readService, .service, none) ::
    ((if options.writable then [(writeService, .service, none)] else []) ++
      [(changeEvent, .event, options.eventSender)])

end DataOptions

namespace Store

/-- The address of a new element: below its parent, or its name alone. -/
def newAddress (parent : Option Node) (name : Identifier) : String :=
  match parent with
  | some parent => Address.join parent.address name.text
  | none => name.text

/-- The parent of a new element, which has to leave the name free. -/
def requireParent (parent : Option NodeId) (name : Identifier) : Request (Option Node) :=
  match parent with
  | none => return none
  | some id => do
    let node ← fetch id
    requireFreeName node name
    return some node

/-- Puts a new element under its parent, if it has one, and says so. -/
def settle (parent : Option NodeId) (id : NodeId) (name : Identifier) :
    Request (Change NodeId) :=
  match parent with
  | none => return ⟨id, none⟩
  | some parent => do
    modify fun s => (s.makeChild parent id name).invalidate
    return ⟨id, some (.edge .childAdded parent id name)⟩

/-- Creates an element under `parent`, or detached. -/
def create (parent : Option NodeId) (identifier : String) (kind : ElementKind)
    (attachment : Option String) : Request (Change NodeId) := do
  let name ← readName identifier
  let above ← requireParent parent name
  let id ← place (.fresh name kind attachment (newAddress above name))
  settle parent id name

/-- Creates one part of the data element `data`. -/
def createPart (data : NodeId) (s : Store)
    (part : Identifier × ElementKind × Option String) : Store :=
  let (name, kind, attachment) := part
  let id := s.arena.nextId
  (s.insert (.fresh name kind attachment name.text)).makeChild data id name

/-- Creates a data element under `parent`, or detached, together with its parts. -/
def createData (parent : Option NodeId) (identifier : String) (options : DataOptions) :
    Request (Change NodeId) := do
  let name ← readName identifier
  let above ← requireParent parent name
  let id ← place (.fresh name .data options.storage (newAddress above name))
  modify fun s => options.parts.foldl (createPart id) s
  settle parent id name

end Store

end DeviceTree
