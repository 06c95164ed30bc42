/-
Errors: why a request is refused.

Each constructor is one cause, with what its message needs.  The causes fall into a few classes,
and a message is the heading of its class followed by the detail of the cause.
-/
import DeviceTree.Duration
import DeviceTree.Node
import DeviceTree.Toml.Defect

namespace DeviceTree

/-- How the link to be removed is chosen among those of its source. -/
inductive LinkChoice where
  | target (node : NodeId)
  | named (name : String)
  deriving DecidableEq, Repr

/-- The choice, as it stands in messages. -/
def LinkChoice.text : LinkChoice → String
  | target node => "to " ++ node.text
  | named name => "named " ++ name

/-- What one observer answered to an event, if it did not take it. -/
structure Failure where
  /-- The node at which the observer is registered. -/
  node : NodeId
  subscription : SubscriptionId
  message : String
  deriving DecidableEq, Repr

/-- The failure, as it stands in messages. -/
def Failure.text (f : Failure) : String :=
  "observer " ++ toString f.subscription.number ++ " on " ++ f.node.text ++ ": " ++ f.message

/-- Why a file cannot be read as a text. -/
inductive ReadFault where
  /-- There is nothing under that name. -/
  | notFound
  /-- The name leads through something that is no directory. -/
  | noDirectory
  | nameTooLong
  /-- There is a directory under that name. -/
  | directory
  /-- The bytes are not those of a text. -/
  | notText
  deriving DecidableEq, Repr

/-- The fault in words. -/
def ReadFault.text : ReadFault → String
  | notFound => "No such file or directory (os error 2)"
  | noDirectory => "Not a directory (os error 20)"
  | nameTooLong => "File name too long (os error 36)"
  | directory => "Is a directory (os error 21)"
  | notText => "stream did not contain valid UTF-8"

/-- Why a request is refused. -/
inductive Error where
  /-- The lock of the tree is held, and stayed so for the whole timeout. -/
  | locked (timeout : Duration)
  | nameTaken (holder : String) (name : Identifier)
  | alreadyReferenced (holder : String) (target : NodeId)
  | noSuchNode (node : NodeId)
  | noChild (holder : String) (child : NodeId)
  | noLink (holder : String) (selector : LinkChoice)
  | unresolved (address : String)
  | rootAttached
  | hasParent (child parent : NodeId)
  | childCycle (child parent : NodeId)
  | detachLinked (child linked : NodeId)
  | selfLink (source : NodeId)
  | linkCycle (source target : NodeId)
  | rootDiscarded
  | stillAttached (node parent : NodeId)
  | linkedFromOutside (node linked : NodeId)
  | transactionEnded
  | badIdentifier (fault : IdentifierFault)
  | badLogLevel
  | observersFailed (failures : List Failure)
  /-- The file cannot be read as a text. -/
  | unreadable (file : String) (fault : ReadFault)
  /-- The file does not have the expected form. -/
  | malformed (file : String) (defect : Toml.Defect)
  | badRoot (root : String)
  | zeroTimeout
  | zeroCapacity
  /-- An element is declared by a single segment. -/
  | noParent (address trimmed : String)
  deriving DecidableEq, Repr

/-- The classes of errors. -/
inductive ErrorClass where
  | locked
  | alreadyExists
  | notFound
  | badRequest
  | invalidArgument
  | notification
  | unreadableFile
  | malformedFile
  | invalidConfig
  deriving DecidableEq, Repr

/-- What the messages of a class start with. -/
def ErrorClass.heading : ErrorClass → String
  | locked => "tree lock not acquired within "
  | alreadyExists => "already exists: "
  | notFound => "not found: "
  | badRequest => "bad request: "
  | invalidArgument => "invalid argument: "
  | notification => ""
  | unreadableFile => "failed to read "
  | malformedFile => "failed to parse "
  | invalidConfig => "invalid configuration: "

namespace Error

/-- The class of a cause. -/
def errorClass : Error → ErrorClass
  | locked _ => .locked
  | nameTaken .. | alreadyReferenced .. => .alreadyExists
  | noSuchNode _ | noChild .. | noLink .. | unresolved _ => .notFound
  | rootAttached | hasParent .. | childCycle .. | detachLinked .. | selfLink _ | linkCycle ..
  | rootDiscarded | stillAttached .. | linkedFromOutside .. | transactionEnded => .badRequest
  | badIdentifier _ | badLogLevel => .invalidArgument
  | observersFailed _ => .notification
  | unreadable .. => .unreadableFile
  | malformed .. => .malformedFile
  | badRoot _ | zeroTimeout | zeroCapacity | noParent .. => .invalidConfig

/-- What a cause adds to the heading of its class. -/
def detail : Error → String
  | locked timeout => timeout.text
  | nameTaken holder name => holder ++ " already has a reference named " ++ name.text
  | alreadyReferenced holder target => holder ++ " already references " ++ target.text
  | noSuchNode node => "node " ++ node.text
  | noChild holder child => holder ++ " has no child " ++ child.text
  | noLink holder selector => holder ++ " has no link " ++ selector.text
  | unresolved address => "address " ++ address
  | rootAttached => "the root cannot be attached"
  | hasParent child parent =>
    child.text ++ " already has parent " ++ parent.text ++ "; detach it first"
  | childCycle child parent =>
    "attaching " ++ child.text ++ " under " ++ parent.text ++ " would create a cycle"
  | detachLinked child linked =>
    "cannot detach " ++ child.text ++ ": " ++ linked.text ++ " is the target of a link"
  | selfLink source => source.text ++ " cannot link to itself"
  | linkCycle source target =>
    "linking " ++ source.text ++ " to " ++ target.text ++ " would create a cycle"
  | rootDiscarded => "the root cannot be discarded"
  | stillAttached node parent =>
    node.text ++ " is attached under " ++ parent.text ++ "; detach it first"
  | linkedFromOutside node linked =>
    "cannot discard " ++ node.text ++ ": " ++ linked.text ++ " is still linked from outside"
  | transactionEnded => "write transaction already ended"
  | badIdentifier fault => fault.text
  | badLogLevel => "invalid log level"
  | observersFailed failures =>
    toString failures.length ++ " observer(s) failed: " ++
      "; ".intercalate (failures.map Failure.text)
  | unreadable file fault => file ++ ": " ++ fault.text
  | malformed file defect => file ++ ": " ++ defect.text
  | badRoot root => "tree.root '" ++ root ++ "' is not a valid identifier"
  | zeroTimeout => "tree.lock_timeout_ms must be positive"
  | zeroCapacity => "tree.cache_capacity must be positive when the cache is enabled"
  | noParent address trimmed =>
    "element address " ++ address ++ " has no parent; use /" ++ trimmed ++ " or root/" ++ trimmed

/-- The error in words. -/
def message (e : Error) : String :=
  e.errorClass.heading ++ e.detail

end Error

end DeviceTree
