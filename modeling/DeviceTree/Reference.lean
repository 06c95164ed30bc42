/-
References: the edges of the tree, seen from one of their ends.

Every edge is kept twice, as a forward reference at its source and as an inverse reference at
its target, equal but for the direction:

* **`Reference.flip_flip`** -- the other half of the other half is the reference itself;
* **`Reference.farEnd_halves`** -- the two halves of an edge look at each other's holder.
-/
import DeviceTree.Identifier

namespace DeviceTree

/-- The place of a node in the arena.  Places are handed out once and never again. -/
structure NodeId where
  index : Nat
  deriving DecidableEq, Repr, Inhabited

namespace NodeId

/-- The place of the root. -/
def root : NodeId := ⟨0⟩

/-- The place, as it stands in messages. -/
def text (id : NodeId) : String :=
  "#" ++ toString id.index

end NodeId

/-- Whether an edge owns its target. -/
inductive EdgeKind where
  /-- The source is the parent of the target. -/
  | child
  /-- The source has another name for the target. -/
  | link
  deriving DecidableEq, Repr

/-- The name of an edge kind in reports. -/
def EdgeKind.name : EdgeKind → String
  | child => "child"
  | link => "link"

/-- The end of an edge at which a reference is kept. -/
inductive Direction where
  /-- Kept at the source. -/
  | forward
  /-- Kept at the target. -/
  | inverse
  deriving DecidableEq, Repr

namespace Direction

/-- The name of a direction in reports. -/
def name : Direction → String
  | forward => "forward"
  | inverse => "inverse"

/-- The other end. -/
def flip : Direction → Direction
  | forward => inverse
  | inverse => forward

@[simp] theorem flip_flip (d : Direction) : d.flip.flip = d := by
  cases d <;> rfl

end Direction

/-- One half of an edge. -/
structure Reference where
  /-- The name of the edge among those of its source. -/
  identifier : Identifier
  source : NodeId
  target : NodeId
  kind : EdgeKind
  direction : Direction
  deriving DecidableEq, Repr

namespace Reference

/-- The other half of the edge. -/
def flip (r : Reference) : Reference :=
  { r with direction := r.direction.flip }

/-- The forward and the inverse half of an edge. -/
def halves (identifier : Identifier) (source target : NodeId) (kind : EdgeKind) :
    Reference × Reference :=
  let forward : Reference := ⟨identifier, source, target, kind, .forward⟩
  (forward, forward.flip)

/-- The node at the far end, as seen from the holder. -/
def farEnd (r : Reference) : NodeId :=
  match r.direction with
  | .forward => r.target
  | .inverse => r.source

/-- The reference owns its target. -/
def isChild (r : Reference) : Bool :=
  r.kind = .child

/-- The reference is another name for its target. -/
def isLink (r : Reference) : Bool :=
  r.kind = .link

/-- The two references are the same half of the same edge, their names compared without regard
to ASCII case. -/
def agrees (r s : Reference) : Bool :=
  r.identifier.sameName s.identifier && r.source = s.source && r.target = s.target &&
    r.kind = s.kind && r.direction = s.direction

@[simp] theorem flip_flip (r : Reference) : r.flip.flip = r := by
  simp [flip]

theorem farEnd_halves (identifier : Identifier) (source target : NodeId) (kind : EdgeKind) :
    (halves identifier source target kind).1.farEnd = target ∧
      (halves identifier source target kind).2.farEnd = source :=
  ⟨rfl, rfl⟩

end Reference

end DeviceTree
