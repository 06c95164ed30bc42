/-
JSON values, and how they are written over several lines.
-/
import DeviceTree.Text.Quoted

namespace DeviceTree

/-- A JSON value.  The members of an object keep their order. -/
inductive Json where
  | null
  | boolean (b : Bool)
  | number (n : Int)
  | text (s : String)
  | array (items : List Json)
  | object (members : List (String × Json))
  deriving Inhabited

namespace Json

/-- The mark that stands after a backslash for a control or for itself. -/
def shortEscape? (c : Char) : Option Char :=
  [('\x22', '\x22'), ('\x5c', '\x5c'), ('\x08', 'b'), ('\x0c', 'f'), ('\n', 'n'), ('\r', 'r'),
    ('\t', 't')].lookup c

/-- One character of a written text. -/
def escape (c : Char) : String :=
  match shortEscape? c with
  | some mark => String.ofList ['\x5c', mark]
  | none =>
    if c.toNat < 0x20 then
      let digits := Text.hexDigits c.toNat
      "\\u" ++ String.ofList (List.replicate (4 - digits.length) '0') ++ digits
    else c.toString

/-- A text between quotation marks. -/
def quote (s : String) : String :=
  "\"" ++ String.join (s.toList.map escape) ++ "\""

/-- A new line, so many steps further in. -/
def newline (depth : Nat) : String :=
  "\n" ++ String.join (List.replicate depth "  ")

/-- Items between brackets, each on a line of its own. -/
def bracket (opening closing : String) (depth : Nat) (items : List String) : String :=
  if items.isEmpty then opening ++ closing
  else
    opening ++ newline (depth + 1) ++ ("," ++ newline (depth + 1)).intercalate items ++
      newline depth ++ closing

mutual

/-- The value, written `depth` steps in. -/
def write (depth : Nat) : Json → String
  | null => "null"
  | boolean b => if b then "true" else "false"
  | number n => toString n
  | text s => quote s
  | array items => bracket "[" "]" depth (writeItems depth items)
  | object members => bracket "\x7b" "\x7d" depth (writeMembers depth members)

/-- The items of an array that is written `depth` steps in. -/
def writeItems (depth : Nat) : List Json → List String
  | [] => []
  | item :: rest => write (depth + 1) item :: writeItems depth rest

/-- The members of an object that is written `depth` steps in. -/
def writeMembers (depth : Nat) : List (String × Json) → List String
  | [] => []
  | (name, value) :: rest =>
    (quote name ++ ": " ++ write (depth + 1) value) :: writeMembers depth rest

end

/-- The value, written over several lines. -/
def pretty (j : Json) : String :=
  j.write 0

end Json

end DeviceTree
