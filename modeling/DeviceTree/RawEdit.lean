/-
Raw edits: changes to the record of a node that no request could make.

They exist so that verification has something to find.  Nothing is checked but the names of new
references, no observer is told and no resolution is forgotten.  An edit that comes upon a bad
name stops there, and what it did before stays.
-/
import DeviceTree.Store

namespace DeviceTree

/-- A way of changing the store behind the back of its rules.  The store that is left counts also
if the edit fails. -/
class DirectEdit (ε : Type) where
  /-- What the edit does. -/
  apply : ε → Store → Except Error Unit × Store

/-- No edit at all: the trees of `Empty` change by requests only. -/
instance : DirectEdit Empty where
  apply e _ := nomatch e

/-- A reference as it is written in an edit, with a name that may be no identifier. -/
structure RawReference where
  name : String
  source : NodeId
  target : NodeId
  kind : EdgeKind
  direction : Direction
  deriving DecidableEq, Repr

/-- The reference, if its name is an identifier. -/
def RawReference.read (r : RawReference) : Except Error Reference :=
  (readName r.name).map fun identifier => ⟨identifier, r.source, r.target, r.kind, r.direction⟩

/-- The references up to the first with a bad name, and the error if there is one. -/
def RawReference.readAll : List RawReference → List Reference × Except Error Unit
  | [] => ([], .ok ())
  | r :: rest =>
    match r.read with
    | .error e => ([], .error e)
    | .ok reference =>
      let (references, outcome) := readAll rest
      (reference :: references, outcome)

/-- What an edit sets in the record of a node; the fields take effect in this order. -/
structure NodeEdit where
  address : Option String
  parent : Option NodeId
  clearParent : Bool
  clearForward : Bool
  clearInverse : Bool
  pushForward : List RawReference
  pushInverse : List RawReference
  deriving DecidableEq, Repr

/-- The node after the edit, up to the first bad name. -/
def NodeEdit.apply (edit : NodeEdit) (node : Node) : Except Error Unit × Node :=
  let (forward, outcome) := RawReference.readAll edit.pushForward
  let (inverse, outcome) :=
    match outcome with
    | .error e => ([], .error e)
    | .ok () => RawReference.readAll edit.pushInverse
  (outcome, { node with
    address := edit.address.getD node.address
    parent := if edit.clearParent then none else edit.parent.or node.parent
    forward := (if edit.clearForward then [] else node.forward) ++ forward
    inverse := (if edit.clearInverse then [] else node.inverse) ++ inverse })

/-- A raw edit. -/
inductive RawEdit where
  /-- Takes a node out of the arena, if it is there. -/
  | vacate (node : NodeId)
  /-- Changes the record of a node. -/
  | amend (node : NodeId) (edit : NodeEdit)
  deriving DecidableEq, Repr

namespace RawEdit

/-- What the edit does to the store. -/
def run : RawEdit → Store → Except Error Unit × Store
  | vacate node, s => (.ok (), s.vacate node)
  | amend node edit, s =>
    match s.arena.fetch node with
    | .error e => (.error e, s)
    | .ok before =>
      let (outcome, after) := edit.apply before
      (outcome, s.onArena fun a => a.modify node fun _ => after)

instance : DirectEdit RawEdit := ⟨run⟩

end RawEdit

end DeviceTree
