/-
Addresses: identifiers joined by slashes, from the root down.

An address may be rooted (`device/a/b`) or rootless (`/a/b`); empty segments and blanks at both
ends do not count.  An address is brought into one form before it is resolved:

* **`segments`** -- the non-empty parts between slashes;
* **`normalize`** -- the rooted form, with single slashes;
* **`key`** -- the form under which resolutions are remembered.

The segments of a text are found in one pass from its end (`splitFrom`).
-/
import DeviceTree.Text.Blank
import DeviceTree.Text.Fold

namespace DeviceTree.Address

open Text

/-- The mark between two identifiers. -/
def separator : Char := '/'

/-- The address of the child `identifier` below the address `parent`. -/
def join (parent identifier : String) : String :=
  parent ++ "/" ++ identifier

/-- Puts a segment in front of the others, unless it is empty. -/
def consSegment (segment : List Char) (rest : List (List Char)) : List (List Char) :=
  if segment.isEmpty then rest else segment :: rest

/-- The characters before the first separator, and the non-empty segments after it. -/
def splitFrom : List Char → List Char × List (List Char)
  | [] => ([], [])
  | c :: rest =>
    let (segment, others) := splitFrom rest
    if c = separator then ([], consSegment segment others) else (c :: segment, others)

/-- The non-empty segments of a list of characters. -/
def charSegments (cs : List Char) : List (List Char) :=
  consSegment (splitFrom cs).1 (splitFrom cs).2

/-- The non-empty segments of an address. -/
def segments (address : String) : List String :=
  (charSegments address.toList).map String.ofList

/-- The segments of the rooted form: a leading slash stands for the root. -/
def rootedSegments (address root : String) : List String :=
  let trimmed := trim address.toList
  let below := (charSegments trimmed).map String.ofList
  if trimmed.head? = some separator && !root.isEmpty then root :: below else below

/-- The rooted form of an address, with single slashes and no blanks around it. -/
def normalize (address root : String) : String :=
  "/".intercalate (rootedSegments address root)

/-- The key under which the resolution of an address is remembered. -/
def key (address : String) : String :=
  fold address

/-- The part before the last separator and the part after it. -/
def splitLast (cs : List Char) : Option (List Char × List Char) :=
  let name := (cs.reverse.takeWhile (· != separator)).reverse
  match cs.reverse.dropWhile (· != separator) with
  | [] => none
  | _ :: parent => some (parent.reverse, name)

end DeviceTree.Address
