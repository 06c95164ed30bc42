/-
TOML documents.

A document is read line by line, and each line adds to the table that the last heading opened.
What is wrong first is what is told.
-/
import DeviceTree.Toml.Record
import DeviceTree.Toml.Line

namespace DeviceTree.Toml

open Reader

/-- Reads at most so many lines, after the document `d`. -/
def linesWithin : (rounds : Nat) → Draft → Reader Draft
  | 0, d => pure d
  | rounds + 1, d => do
    blanks
    match ← maybe (line d) with
    | none => return d
    | some d => linesWithin rounds d

/-- Reads a whole document, after a byte order mark if there is one. -/
def lines : Reader Draft := do
  let _ ← maybe (char '\uFEFF')
  linesWithin ((← place) + 1) .empty

/-- The table that a document describes. -/
def parse (document : List Char) : Except Fault Value := do
  let draft ← readAll lines document
  return draft.root.toValue document.length

/-- What `read` makes of the table that a document describes. -/
def decode {α : Type} (read : Value → Except Fault α) (document : String) : Except Defect α :=
  let cs := document.toList
  match (parse cs).bind read with
  | .ok a => .ok a
  | .error fault => .error (fault.defect cs)

end DeviceTree.Toml
