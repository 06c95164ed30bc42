/-
Verification: whether an arena is a tree as it should be.

Every node is checked on its own, then the root, then the whole for cycles.  The findings stand
in that order, and a verdict keeps only the first few of them; it is a success if there is none.

* **`success_verdict_iff`** -- a verdict is a success exactly when nothing at all was found.
-/
import DeviceTree.Address
import DeviceTree.Verify.Cycle

namespace DeviceTree

/-- The numbers of a verdict. -/
structure Census where
  nodes : Nat
  childEdges : Nat
  linkEdges : Nat
  /-- The nodes without a parent, apart from the root. -/
  detachedRoots : Nat
  deriving DecidableEq, Repr

/-- What a verification found. -/
structure Verdict where
  success : Bool
  findings : List Finding
  /-- There are more findings than the verdict holds. -/
  truncated : Bool
  counts : Census
  deriving DecidableEq, Repr

/-- How many findings a verdict holds at most. -/
def Verdict.findingLimit : Nat := 32

namespace Arena

/-- The problems with the forward references of the node at `id`, where `earlier` are the folded
names of those already checked. -/
def forwardProblems (a : Arena) (id : NodeId) : List String → List Reference → List Problem
  | _, [] => []
  | earlier, r :: rest =>
    let name := Text.fold r.identifier.text
    let foreign := r.direction != .forward || r.source != id
    (if foreign then [.foreignForward] else []) ++
      (if earlier.contains name then [.duplicateName r.identifier] else []) ++
      (match a.get? r.target with
        | none => [.missingTarget r.target]
        | some target => if target.inverse.any r.flip.agrees then [] else [.noInverse r.target]) ++
      forwardProblems a id (name :: earlier) rest

/-- The source of the first child edge that ends at the node. -/
def edgeParent (node : Node) : Option NodeId :=
  (node.inverse.find? Reference.isChild).map Reference.source

/-- The problems with the parent of a node. -/
def parentProblems (node : Node) : List Problem :=
  let parents := node.inverse.countP Reference.isChild
  (if 1 < parents then [.manyParents parents] else []) ++
    (if node.parent = edgeParent node then [] else [.parentDisagrees])

/-- The problems with the inverse references of a node. -/
def inverseProblems (a : Arena) (node : Node) : List Problem :=
  node.inverse.filterMap fun r =>
    if (a.get? r.source).any fun source => source.forward.any r.flip.agrees then none
    else some (.noForward r.source)

/-- The node that the parent field of a node names, if it is there. -/
def liveParent (a : Arena) (node : Node) : Option Node :=
  node.parent.bind a.get?

/-- The problem with the address of a node. -/
def addressProblems (a : Arena) (node : Node) : List Problem :=
  match a.liveParent node with
  | none => []
  | some parent =>
    let expected := Address.join parent.address node.identifier.text
    if node.address = expected then [] else [.wrongAddress node.address expected]

/-- The problems with a node, taken on its own. -/
def nodeProblems (a : Arena) (id : NodeId) (node : Node) : List Problem :=
  a.forwardProblems id [] node.forward ++ parentProblems node ++ a.inverseProblems node ++
    a.addressProblems node

/-- The problems with the root, which should be named `identifier`. -/
def rootProblems (a : Arena) (identifier : Identifier) : List Problem :=
  match a.get? .root with
  | none => [.rootMissing]
  | some root =>
    (if root.parent.isSome then [.rootHasParent] else []) ++
      (if root.address = identifier.text then [] else [.rootAddress root.address])

/-- Everything that is wrong with the arena. -/
def findings (a : Arena) (identifier : Identifier) : List Finding :=
  (a.snapshots.flatMap fun s => (a.nodeProblems s.id s.node).map (Finding.mk s.id)) ++
    (a.rootProblems identifier).map (Finding.mk .root) ++ a.cycleFindings

/-- The numbers of a verdict. -/
def census (a : Arena) : Census :=
  let nodes := a.snapshots
  { nodes := nodes.length
    childEdges := nodes.foldr (fun s n => s.node.forward.countP Reference.isChild + n) 0
    linkEdges := nodes.foldr (fun s n => s.node.forward.countP Reference.isLink + n) 0
    detachedRoots := nodes.countP fun s => s.id != .root && (a.liveParent s.node).isNone }

/-- Checks the arena, whose root should be named `identifier`. -/
def verdict (a : Arena) (identifier : Identifier) : Verdict :=
  let findings := a.findings identifier
  { success := findings.isEmpty
    findings := findings.take Verdict.findingLimit
    truncated := Verdict.findingLimit < findings.length
    counts := a.census }

theorem success_verdict_iff {a : Arena} {identifier : Identifier} :
    (a.verdict identifier).success = true ↔ a.findings identifier = [] := by
  simp [verdict]

end Arena

end DeviceTree
