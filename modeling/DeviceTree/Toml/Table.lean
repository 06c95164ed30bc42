/-
Tables under construction.

A document writes its tables piece by piece: under headings, by dotted keys, and item by item for
arrays of tables.  A table remembers how it came to be, which decides what may still be added:

* a table that was only passed through (*implicit*) may get a heading of its own later;
* a table made by dotted keys (*dotted*) is added to by dotted keys only, and a table with a
  heading is not;
* nothing is written twice.
-/
import DeviceTree.Text.Quoted
import DeviceTree.Toml.Defect
import DeviceTree.Toml.Value

namespace DeviceTree.Toml

/-- A part of a key, and the place at which it starts. -/
structure Key where
  name : String
  left : Nat
  deriving DecidableEq, Repr

namespace Key

/-- The character may stand in a key without quotes. -/
def isBare (c : Char) : Bool :=
  c.isAlphanum || c == '-' || c == '_'

/-- The key in writing: bare if it can be, and else in quotes. -/
def written (k : Key) : String :=
  if !k.name.isEmpty && k.name.toList.all isBare then k.name else Text.quote k.name

end Key

mutual

/-- What a key of a table stands for. -/
inductive Item where
  | value (v : Value)
  | table (t : Table)
  /-- An array of tables: the last of them, and those before it, latest first. -/
  | tables (last : Table) (earlier : List Table)

/-- A table under construction.  One with a heading starts there. -/
inductive Table where
  | mk (implicit dotted : Bool) (heading : Option Nat) (entries : List (Key × Item))

end

namespace Table

/-- The table was only passed through so far. -/
def implicit : Table → Bool
  | mk implicit _ _ _ => implicit

/-- The table was made by dotted keys. -/
def dotted : Table → Bool
  | mk _ dotted _ _ => dotted

/-- The place of the heading. -/
def heading : Table → Option Nat
  | mk _ _ heading _ => heading

/-- The keys of the table, with what they stand for. -/
def entries : Table → List (Key × Item)
  | mk _ _ _ entries => entries

/-- A table with a heading at that place, without entries. -/
def headed (left : Nat) : Table :=
  mk false false (some left) []

/-- A table without a heading and without entries. -/
def empty : Table :=
  mk false false none []

/-- What a key stands for. -/
def find? (t : Table) (name : String) : Option Item :=
  (t.entries.find? fun e => e.1.name == name).map Prod.snd

/-- Replaces the entry of a key, or adds one at the end. -/
def putEntry (key : Key) (item : Item) : List (Key × Item) → List (Key × Item)
  | [] => [(key, item)]
  | (k, old) :: rest =>
    if k.name = key.name then (k, item) :: rest else (k, old) :: putEntry key item rest

/-- The table in which a key stands for the given item. -/
def put (t : Table) (key : Key) (item : Item) : Table :=
  mk t.implicit t.dotted t.heading (putEntry key item t.entries)

/-- The table without a key. -/
def erase (t : Table) (name : String) : Table :=
  mk t.implicit t.dotted t.heading (t.entries.filter fun e => e.1.name != name)

/-- The names of a path. -/
def names (path : List Key) : List String :=
  path.map Key.name

/-- Changes the table to which a path leads, after the keys `above`.  Tables on the way that are
not there are made, `dotted` or not; a dotted path does not lead into a table that has a
heading. -/
def update (dotted : Bool) (f : Table → Except Problem Table) (above : List Key) :
    List Key → Table → Except Problem Table
  | [], t => f t
  | key :: path, t =>
    let next := update dotted f (above ++ [key]) path
    match t.find? key.name with
    | none => do return t.put key (.table (← next (mk true dotted none [])))
    | some (.value v) => .error (.blocked (names (above ++ [key])) v.content.kindName)
    | some (.table sub) =>
      if dotted && !sub.implicit then .error (.duplicate key.name none)
      else do return t.put key (.table (← next sub))
    | some (.tables last earlier) => do return t.put key (.tables (← next last) earlier)

/-- Adds a value under a key that is not taken, where the key was `reached` by a dotted path or
stands alone.  `path` is that of the table, if it is to be told. -/
def addValue (path : Option (List String)) (reached : Bool) (key : Key) (v : Value) (t : Table) :
    Except Problem Table :=
  if t.dotted != reached then .error (.duplicate key.name none)
  else if (t.find? key.name).isSome then .error (.duplicate key.name path)
  else .ok (t.put key (.value v))

/-- Adds an entry, whose key may be dotted, to the table with that path. -/
def addEntry (path : Option (List String)) (key : List Key) (v : Value) (t : Table) :
    Except Problem Table :=
  match key.getLast? with
  | none => .error .unexpected
  | some last =>
    let above := key.dropLast
    t.update true (addValue path (!above.isEmpty) last v) [] above

/-- The table with the given entries. -/
def ofEntries (entries : List (List Key × Value)) : Except Problem Table :=
  entries.foldlM (fun t (key, v) => t.addEntry none key v) empty

/-- Gives a table in `t`, of which `above` is the path, its heading at that place. -/
def openTable (left : Nat) (above : List Key) (key : Key) (t : Table) : Except Problem Table :=
  let taken := Problem.duplicate key.written (some (names above))
  match t.find? key.name with
  | none => .ok (t.put key (.table (headed left)))
  | some (.table sub) =>
    if sub.implicit && !sub.dotted then
      .ok ((t.erase key.name).put key (.table (mk false false (some left) sub.entries)))
    else .error taken
  | some _ => .error taken

/-- Adds one more table, with its heading at that place, to an array of tables in `t`. -/
def openItem (left : Nat) (above : List Key) (key : Key) (t : Table) : Except Problem Table :=
  match t.find? key.name with
  | none => .ok (t.put key (.tables (headed left) []))
  | some (.tables last earlier) => .ok (t.put key (.tables (headed left) (last :: earlier)))
  | some _ => .error (.duplicate key.written (some (names above)))

end Table

mutual

/-- The value of an item, whose key starts at that place. -/
def Item.toValue (left : Nat) : Item → Value
  | .value v => v
  | .table t => t.toValue left
  | .tables last earlier => .mk left (.array (tableValues left earlier [last.toValue left]))

/-- The table as a value.  It starts at its heading, or else at its key. -/
def Table.toValue (left : Nat) : Table → Value
  | .mk _ _ heading entries => .mk (heading.getD left) (.table (entryValues entries))

/-- The entries of a table, with their values. -/
def entryValues : List (Key × Item) → List (String × Value)
  | [] => []
  | (key, item) :: rest => (key.name, item.toValue key.left) :: entryValues rest

/-- The values of tables, latest first, in front of those after them. -/
def tableValues (left : Nat) : List Table → List Value → List Value
  | [], later => later
  | t :: earlier, later => tableValues left earlier (t.toValue left :: later)

end

end DeviceTree.Toml
