/-
Files that hold a text.
-/
import DeviceTree.Error

namespace DeviceTree

/-- What there is under the name of a file. -/
inductive Contents where
  | bytes (bytes : ByteArray)
  /-- Nothing that has bytes. -/
  | none (fault : ReadFault)

/-- There is something under the name, if only a directory. -/
def Contents.isThere : Contents → Bool
  | bytes _ | none .directory => true
  | none _ => false

/-- A file. -/
structure File where
  name : String
  contents : Contents

/-- The text that a file holds. -/
def File.text (file : File) : Except Error String :=
  match file.contents with
  | .bytes bytes =>
    match String.fromUTF8? bytes with
    | some text => .ok text
    | none => .error (.unreadable file.name .notText)
  | .none fault => .error (.unreadable file.name fault)

end DeviceTree
