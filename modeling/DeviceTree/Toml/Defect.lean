/-
What is wrong with a document, and where.

While a document is read, a place is known by the number of characters from there to its end.
For people it is a line and a column, both counted from one:

* a place at the end comes one column after the last character, even if that ends a line;
* a column counts the characters before it on its line, but if a character beyond ASCII stands at
  the place itself it counts their bytes.
-/
import DeviceTree.Text.Cut

namespace DeviceTree.Toml

/-- What is wrong. -/
inductive Problem where
  /-- Something else belongs here. -/
  | unexpected
  /-- The key stands for something already, in the table with that path, if it is told. -/
  | duplicate (key : String) (table : Option (List String))
  /-- A path leads through a value of that kind, which is no table. -/
  | blocked (path : List String) (kind : String)
  /-- The name is none of those that are known. -/
  | unknownName (name : String) (known : List String)
  deriving DecidableEq, Repr

namespace Problem

/-- The text between backquotes. -/
def quoted (s : String) : String :=
  "\x60" ++ s ++ "\x60"

/-- The problem in words. -/
def text : Problem → String
  | unexpected => "unexpected text"
  | duplicate key none => "duplicate key " ++ quoted key
  | duplicate key (some []) => "duplicate key " ++ quoted key ++ " in document root"
  | duplicate key (some path) =>
    "duplicate key " ++ quoted key ++ " in table " ++ quoted (".".intercalate path)
  | blocked path kind =>
    "dotted key " ++ quoted (".".intercalate path) ++ " attempted to extend non-table type (" ++
      kind ++ ")"
  | unknownName name known =>
    "unknown variant " ++ quoted name ++ ", expected one of " ++
      ", ".intercalate (known.map quoted)

end Problem

/-- A problem at a place. -/
structure Fault where
  /-- How many characters of the document are left there. -/
  left : Nat
  problem : Problem
  deriving DecidableEq, Repr

/-- A problem, with the line and the column in which it is. -/
structure Defect where
  line : Nat
  column : Nat
  problem : Problem
  deriving DecidableEq, Repr

/-- The defect in words. -/
def Defect.text (d : Defect) : String :=
  "TOML parse error at line " ++ toString d.line ++ ", column " ++ toString d.column ++ "\n" ++
    d.problem.text

/-- The characters after the last line feed. -/
def lastLine (cs : List Char) : List Char :=
  (cs.reverse.takeWhile (· != '\n')).reverse

/-- The line and the column of the place after the characters `before`, at which `after` starts. -/
def position (before after : List Char) : Nat × Nat :=
  match after, before.getLast? with
  | [], none => (1, 1)
  | [], some _ =>
    let earlier := before.dropLast
    (earlier.count '\n' + 1, (lastLine earlier).length + 2)
  | c :: _, _ =>
    let line := lastLine before
    (before.count '\n' + 1, (if c.toNat < 0x80 then line.length else Text.byteCount line) + 1)

/-- The defect of a document with that fault. -/
def Fault.defect (document : List Char) (f : Fault) : Defect :=
  let (before, after) := document.splitAt (document.length - f.left)
  let (line, column) := position before after
  ⟨line, column, f.problem⟩

end DeviceTree.Toml
