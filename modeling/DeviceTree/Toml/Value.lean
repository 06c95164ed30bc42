/-
Values of a TOML document, as far as a reader of settings needs to tell them apart.

A floating-point number and a date or time are known only as what they are: no setting has such a
value.  Each value knows where it starts, so that a setting of the wrong kind can be found.
-/

namespace DeviceTree.Toml

mutual

/-- A value, and the place at which it starts, as the number of characters that are left there. -/
inductive Value where
  | mk (left : Nat) (content : Content)

/-- What a value is. -/
inductive Content where
  | text (s : String)
  | integer (n : Int)
  | boolean (b : Bool)
  | float
  | moment
  | array (items : List Value)
  /-- A table keeps its keys in the order in which they came. -/
  | table (entries : List (String × Value))

end

/-- The kind of a value, in words. -/
def Content.kindName : Content → String
  | text _ => "string"
  | integer _ => "integer"
  | boolean _ => "boolean"
  | float => "float"
  | moment => "datetime"
  | array _ => "array"
  | table _ => "inline table"

namespace Value

/-- The place at which the value starts. -/
def left : Value → Nat
  | mk left _ => left

/-- What the value is. -/
def content : Value → Content
  | mk _ content => content

end Value

end DeviceTree.Toml
