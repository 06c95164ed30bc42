/-
Blanks, line ends and comments in a document.
-/
import DeviceTree.Toml.Reader

namespace DeviceTree.Toml

open Reader

/-- The character may stand in a comment: no control but the tab. -/
def isCommentChar (c : Char) : Bool :=
  c == '\t' || (' ' ≤ c && c != '\x7f')

/-- Reads spaces and tabs. -/
def blanks : Reader Unit := do
  let _ ← span fun c => c == ' ' || c == '\t'

/-- Reads one end of a line. -/
def lineEnd : Reader Unit :=
  char '\n' <|> (do char '\r'; char '\n')

/-- Reads one end of a line, or the end of the document. -/
def lineOrDocumentEnd : Reader Unit :=
  lineEnd <|> atEnd

/-- Reads a comment, up to the end of the line. -/
def comment : Reader Unit := do
  char '#'
  let _ ← span isCommentChar

/-- Reads at most so many blanks, line ends and commented lines. -/
def gapWithin : (rounds : Nat) → Reader Unit
  | 0 => pure ()
  | rounds + 1 => do
    blanks
    match ← peek with
    | some '#' =>
      comment
      lineEnd
      gapWithin rounds
    | some '\n' | some '\r' =>
      lineEnd
      gapWithin rounds
    | _ => pure ()

/-- Reads blanks, line ends and commented lines. -/
def gap : Reader Unit := do
  gapWithin ((← place) + 1)

/-- Reads blanks and a comment after the contents of a line, and its end. -/
def restOfLine : Reader Unit := do
  blanks
  let _ ← maybe comment
  lineOrDocumentEnd

end DeviceTree.Toml
