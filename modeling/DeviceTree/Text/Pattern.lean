/-
Patterns: whether a text is a regular expression.

A pattern is read for its form alone; nothing is ever matched against it.  It has alternatives,
groups, repetitions by `*`, `+` and `?`, bracketed classes and escapes.  What stands between
braces is no part of a pattern.  A pattern is nested at most `Pattern.maxNesting` deep.
-/
import DeviceTree.Text.Pattern.Bracket
import DeviceTree.Text.Pattern.Group

namespace DeviceTree.Text.Pattern

/-- What was read of a group, or of the pattern outside of all groups. -/
structure Draft where
  /-- How the rest is read. -/
  modes : Modes
  /-- The names of groups, anywhere in the pattern. -/
  names : List (List Char)
  /-- The alternatives before this one. -/
  before : Parts
  /-- The parts of this alternative. -/
  row : Parts
  /-- How deep the last part is nested, if there is one that can be repeated. -/
  last : Option Nat

namespace Draft

/-- A group of which nothing was read. -/
def start (modes : Modes) (names : List (List Char)) : Draft :=
  ⟨modes, names, .none, .none, none⟩

/-- Adds a part that is nested so deep. -/
def add (d : Draft) (depth : Nat) : Draft :=
  { d with row := d.row.add depth, last := some depth }

/-- Adds other modes, which are a part that cannot be repeated. -/
def addModes (d : Draft) (modes : Modes) : Draft :=
  { d with modes, row := d.row.add 0, last := none }

/-- Starts the next alternative. -/
def split (d : Draft) : Draft :=
  { d with before := d.before.add d.row.nesting, row := .none, last := none }

/-- Repeats the last part. -/
def again (d : Draft) : Option Draft :=
  d.last.map fun depth =>
    { d with row := { d.row with depth := max d.row.depth (depth + 1) }, last := some (depth + 1) }

/-- How deep all the alternatives are nested. -/
def nesting (d : Draft) : Nat :=
  (d.before.add d.row.nesting).nesting

/-- Takes note of the name of a group, which is not yet taken. -/
def name (d : Draft) : Option (List Char) → Option Draft
  | none => some d
  | some name => if d.names.contains name then none else some { d with names := name :: d.names }

end Draft

/-- What follows a repetition, which is lazy if a question mark comes next. -/
def afterRepetition : List Char → List Char
  | '?' :: rest => rest
  | cs => cs

/-- Reads on up to the end of the group or of the text, which is left unread. -/
def read : (fuel : Nat) → Draft → List Char → Option (Draft × List Char)
  | 0, _, _ => none
  | fuel + 1, d, cs =>
    match d.modes.skip cs with
    | [] => some (d, [])
    | ')' :: rest => some (d, ')' :: rest)
    | '|' :: rest => read fuel d.split rest
    | '(' :: rest =>
      match openGroup d.modes rest with
      | none => none
      | some (.modes m rest) => read fuel (d.addModes m) rest
      | some (.group name m rest) => do
        let d ← d.name name
        match ← read fuel (.start m d.names) rest with
        | (inner, ')' :: rest) =>
          read fuel ({ d with names := inner.names }.add (inner.nesting + 1)) rest
        | _ => failure
    | '[' :: rest => do
      let (depth, rest) ← bracket d.modes rest
      read fuel (d.add depth) rest
    | '*' :: rest | '+' :: rest | '?' :: rest => do
      read fuel (← d.again) (afterRepetition rest)
    | '\x7b' :: _ => none
    | '.' :: rest => if d.modes.unicode then read fuel (d.add 0) rest else none
    | '^' :: rest | '$' :: rest => read fuel (d.add 0) rest
    | cs => do
      let (a, rest) ← atom d.modes cs
      if a.fitsOutside d.modes then read fuel (d.add 0) rest else failure

end Pattern

/-- The text is a regular expression. -/
def isPattern (cs : List Char) : Bool :=
  match Pattern.read (cs.length + 1) (.start .initial []) cs with
  | some (d, []) => d.nesting ≤ Pattern.maxNesting
  | _ => false

end DeviceTree.Text
