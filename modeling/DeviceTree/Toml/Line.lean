/-
The lines of a document: an entry, the heading of a table, or nothing.

Arrays and inline tables may be nested, but not without end; neither may a dotted key be.
-/
import DeviceTree.Toml.Moment
import DeviceTree.Toml.Table

namespace DeviceTree.Toml

open Reader

/-- How deep arrays and inline tables may be nested, and how many parts a dotted key may have. -/
def maxNesting : Nat := 79

/-- Reads one part of a key. -/
def simpleKey : Reader Key := do
  let left ← place
  let bare := (span Key.isBare).filter fun cs => !cs.isEmpty
  let name ← basicLine <|> literalLine <|> do return String.ofList (← bare)
  return ⟨name, left⟩

/-- Reads a key: its parts, with dots between them and blanks around them. -/
def key : Reader (List Key) :=
  let part : Reader Key := do
    blanks
    let k ← simpleKey
    blanks
    return k
  (separated part (char '.')).filter fun parts => parts.length ≤ maxNesting

/-- Reads a list, in which commas stand between the items, or nothing. -/
def commaList {α : Type} (item : Reader α) : Reader (List α) := do
  return (← maybe (separated item (char ','))).getD []

/-- Reads the items of an array, after its opening bracket. -/
def arrayItems (value : Reader Value) : Reader (List Value) := do
  match ← peek with
  | some ']' => return []
  | _ =>
    let items ← commaList do
      gap
      let v ← value
      gap
      return v
    if !items.isEmpty then
      let _ ← maybe (char ',')
    gap
    return items

/-- Reads an entry: a key and its value.  After a key it can be nothing else. -/
def entry (value : Reader Value) (after : Reader Unit) : Reader (List Key × Value) := do
  let path ← key
  commit do
    char '='
    blanks
    let v ← value
    after
    return (path, v)

/-- Reads the entries of an inline table, after its opening brace. -/
def inlineEntries (value : Reader Value) : Reader (List (List Key × Value)) := do
  let entries ← commaList (entry value blanks)
  blanks
  return entries

/-- Reads a word that starts with `first`; after that it can be nothing else. -/
def word (first : Char) (rest : String) : Reader Unit := do
  ahead (char first)
  commit (literal rest)

/-- Reads a value that holds no others. -/
def scalar : Reader Content :=
  (do return .text (← string)) <|>
  (do word 't' "true"; return .boolean true) <|>
  (do word 'f' "false"; return .boolean false) <|>
  (do moment; return .moment) <|>
  (do float; return .float) <|>
  (do return .integer (← integer))

/-- Reads an array. -/
def array (value : Reader Value) : Reader Content := do
  char '['
  commit do
    let items ← arrayItems value
    char ']'
    return .array items

/-- Reads an inline table. -/
def inlineTable (value : Reader Value) : Reader Content := do
  char '\x7b'
  commit do
    let left ← place
    let table ← (inlineEntries value).convert Table.ofEntries
    char '\x7d'
    return (table.toValue left).content

/-- Reads a value, in which others are nested at most `levels` deep. -/
def value : (levels : Nat) → Reader Value
  | 0 => do
    let left ← place
    match ← peek with
    | some '[' | some '\x7b' => commit fail
    | _ => return .mk left (← scalar)
  | levels + 1 => do
    let left ← place
    let inner := value levels
    return .mk left (← array inner <|> inlineTable inner <|> scalar)

/-- A document up to some line: everything so far, and the path of the last heading. -/
structure Draft where
  root : Table
  heading : List Key

namespace Draft

/-- A document without lines. -/
def empty : Draft :=
  ⟨.empty, []⟩

/-- Adds an entry to the table of the last heading. -/
def addEntry (d : Draft) (path : List Key) (v : Value) : Except Problem Draft := do
  let add := Table.addEntry (some (Table.names d.heading)) path v
  return { d with root := ← d.root.update false add [] d.heading }

/-- Opens something under the last key of a path. -/
def openAt (d : Draft) (path : List Key)
    (f : List Key → Key → Table → Except Problem Table) : Except Problem Draft :=
  match path.getLast? with
  | none => .error .unexpected
  | some key => do
    let above := path.dropLast
    return ⟨← d.root.update false (f above key) [] above, path⟩

end Draft

/-- Reads the heading of one more table of an array. -/
def itemHeading (d : Draft) : Reader Draft := do
  let left ← place
  let heading : Reader (List Key) := do
    literal "[["
    commit do
      let path ← key
      literal "]]"
      restOfLine
      return path
  heading.convert fun path => d.openAt path (Table.openItem left)

/-- Reads the heading of a table. -/
def tableHeading (d : Draft) : Reader Draft := do
  let left ← place
  let heading : Reader (List Key) := do
    char '['
    commit do
      let path ← key
      char ']'
      restOfLine
      return path
  heading.convert fun path => d.openAt path (Table.openTable left)

/-- Reads what there is on a line, and adds it to the document. -/
def line (d : Draft) : Reader Draft := do
  match ← peek with
  | none => fail
  | some '\n' | some '\r' =>
    lineEnd
    return d
  | some '#' =>
    commit do
      comment
      lineOrDocumentEnd
      return d
  | some '[' => commit (itemHeading d <|> tableHeading d)
  | some _ =>
    commit ((entry (value maxNesting) restOfLine).convert fun (path, v) => d.addEntry path v)

end DeviceTree.Toml
