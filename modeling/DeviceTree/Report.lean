/-
Reports: what the command line tells of a tree, as JSON values.
-/
import DeviceTree.Json
import DeviceTree.Verify

namespace DeviceTree

/-- The place of a node as a number. -/
def NodeId.toJson (id : NodeId) : Json :=
  .number id.index

/-- A value that may be missing. -/
def Json.maybe {α : Type} (f : α → Json) (value : Option α) : Json :=
  value.elim .null f

/-- A reference, with all it says. -/
def Reference.toJson (r : Reference) : Json :=
  .object [("identifier", .text r.identifier.text), ("source", r.source.toJson),
    ("target", r.target.toJson), ("kind", .text r.kind.name),
    ("direction", .text r.direction.name)]

/-- A node, with its place and its references. -/
def Snapshot.toJson (s : Snapshot) : Json :=
  .object [("id", s.id.toJson), ("identifier", .text s.node.identifier.text),
    ("kind", .text s.node.kind.name), ("address", .text s.node.address),
    ("parent", .maybe NodeId.toJson s.node.parent),
    ("forward", .array (s.node.forward.map Reference.toJson)),
    ("inverse", .array (s.node.inverse.map Reference.toJson))]

/-- A finding, in words. -/
def Finding.toJson (f : Finding) : Json :=
  .object [("node", f.node.toJson), ("message", .text f.problem.text)]

/-- The numbers of a verification. -/
def Census.toJson (c : Census) : Json :=
  .object [("nodes", .number c.nodes), ("child_edges", .number c.childEdges),
    ("link_edges", .number c.linkEdges), ("detached_roots", .number c.detachedRoots)]

/-- What a verification found. -/
def Verdict.toJson (r : Verdict) : Json :=
  .object [("success", .boolean r.success), ("findings", .array (r.findings.map Finding.toJson)),
    ("truncated", .boolean r.truncated), ("counts", r.counts.toJson)]

/-- What became of an address that was to be resolved. -/
structure Resolution where
  address : String
  found : Option Snapshot
  deriving DecidableEq, Repr

/-- The resolution, with the canonical address and the kind of the node. -/
def Resolution.toJson (r : Resolution) : Json :=
  .object [("address", .text r.address), ("node", .maybe (fun s => s.id.toJson) r.found),
    ("canonical", .maybe (fun s => .text s.node.address) r.found),
    ("kind", .maybe (fun s => .text s.node.kind.name) r.found)]

/-- The kind that a JSON value names: a text, or an object with the name as its only member. -/
def ElementKind.ofJson? : Json → Option ElementKind
  | .text name => ofName? name
  | .object [(name, .null)] => ofName? name
  | _ => none

end DeviceTree
