/-
Records: how settings are taken from a document.

A record is a table with fields of known names, read entry by entry in the order in which they
came, or an array of the fields in their own order.  What is not there keeps its default, a field
of the wrong kind makes the document malformed, and what nobody asks for is ignored.
-/
import DeviceTree.Toml.Defect
import DeviceTree.Toml.Value

namespace DeviceTree.Toml.Value

/-- The fault of a value that is not of the right kind. -/
def misfit (v : Value) : Fault :=
  ⟨v.left, .unexpected⟩

/-- A text. -/
def text (v : Value) : Except Fault String :=
  match v.content with
  | .text s => .ok s
  | _ => .error v.misfit

/-- A truth value. -/
def boolean (v : Value) : Except Fault Bool :=
  match v.content with
  | .boolean b => .ok b
  | _ => .error v.misfit

/-- An integer that is not negative. -/
def natural (v : Value) : Except Fault Nat :=
  match v.content with
  | .integer n => if 0 ≤ n then .ok n.toNat else .error v.misfit
  | _ => .error v.misfit

/-- The items of an array, each read by `read`. -/
def list {α : Type} (read : Value → Except Fault α) (v : Value) : Except Fault (List α) :=
  match v.content with
  | .array items => items.mapM read
  | _ => .error v.misfit

/-- What the fields of a record make of `start`, each read by `read`.  In an array they have the
names in `order`.  A date or time counts as a record without fields. -/
def record {α : Type} (order : List String) (read : α → String → Value → Except Fault α)
    (start : α) (v : Value) : Except Fault α :=
  let readAll (fields : List (String × Value)) : Except Fault α :=
    fields.foldlM (fun a (name, v) => read a name v) start
  match v.content with
  | .table entries => readAll entries
  | .array items => readAll (order.zip items)
  | .moment => .ok start
  | _ => .error v.misfit

/-- A field that has to be there. -/
def required {α : Type} (v : Value) (field : Option α) : Except Fault α :=
  match field with
  | some a => .ok a
  | none => .error v.misfit

end DeviceTree.Toml.Value
