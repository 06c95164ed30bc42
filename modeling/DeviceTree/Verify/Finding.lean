/-
Findings: what a verification has to say about one node.
-/
import DeviceTree.Arena

namespace DeviceTree

/-- What is wrong with a node. -/
inductive Problem where
  /-- The forward list holds a reference that is not a forward reference of the node. -/
  | foreignForward
  | duplicateName (name : Identifier)
  | noInverse (target : NodeId)
  | missingTarget (target : NodeId)
  | manyParents (count : Nat)
  | parentDisagrees
  | noForward (source : NodeId)
  | wrongAddress (address expected : String)
  | rootHasParent
  | rootAddress (address : String)
  | rootMissing
  | cycleThrough (target : NodeId)
  deriving DecidableEq, Repr

/-- The problem in words. -/
def Problem.text : Problem → String
  | foreignForward => "forward list holds a foreign reference"
  | duplicateName name => "duplicate forward identifier " ++ name.text
  | noInverse target => target.text ++ " has no matching inverse reference"
  | missingTarget target => "forward reference to missing node " ++ target.text
  | manyParents count => toString count ++ " parent edges"
  | parentDisagrees => "parent field disagrees with inverse child edge"
  | noForward source => "inverse reference from " ++ source.text ++ " has no forward half"
  | wrongAddress address expected => "address " ++ address ++ " should be " ++ expected
  | rootHasParent => "root has a parent"
  | rootAddress address => "root address is " ++ address
  | rootMissing => "root node is missing"
  | cycleThrough target => "cycle through " ++ target.text

/-- A problem and the node at which it was found. -/
structure Finding where
  node : NodeId
  problem : Problem
  deriving DecidableEq, Repr

end DeviceTree
