/-
Strings in a document: in double quotes with escapes or in single quotes without, on one line or,
with the quotes written three times, on many.
-/
import DeviceTree.Text.Numeral
import DeviceTree.Toml.Blank

namespace DeviceTree.Toml

open Reader Text

/-- Reads a code point of `count` hexadecimal digits. -/
def codePoint (count : Nat) : Reader Char :=
  (exactly isHexDigit count).convert fun digits =>
    let n := numberIn 16 digits
    if h : n.isValidChar then .ok (Char.ofNatAux n h) else .error .unexpected

/-- The character that stands after a backslash for a control, a quote or itself. -/
def shortEscape? (c : Char) : Option Char :=
  [('b', '\x08'), ('f', '\x0c'), ('n', '\n'), ('r', '\r'), ('t', '\t'), ('\x22', '\x22'),
    ('\x5c', '\x5c')].lookup c

/-- Reads the character that stands after a backslash.  If there is none that may, the place is
after it, but in front of it if it is beyond ASCII. -/
def afterBackslash : Reader Char := do
  let start ← place
  let c ← satisfy fun _ => true
  if c = 'u' then commit (codePoint 4)
  else if c = 'U' then commit (codePoint 8)
  else match shortEscape? c with
    | some meant => return meant
    | none =>
      fun rest => .stopped ⟨if c.toNat < 0x80 then rest.left else start, .unexpected⟩

/-- Reads an escaped character. -/
def escaped : Reader Char := do
  char '\x5c'
  afterBackslash

/-- The character may stand as it is in a string on one line, apart from marks. -/
def isPlainChar (c : Char) : Bool :=
  isCommentChar c

/-- Reads a string in double quotes on one line. -/
def basicLine : Reader String := do
  char '\x22'
  let plain := satisfy fun c => isPlainChar c && c != '\x22' && c != '\x5c'
  let cs ← many (plain <|> escaped)
  commit (char '\x22')
  return String.ofList cs

/-- Reads a string in single quotes on one line. -/
def literalLine : Reader String := do
  char '\x27'
  let cs ← span fun c => isPlainChar c && c != '\x27'
  commit (char '\x27')
  return String.ofList cs

/-- Reads a line end inside a string of many lines, where it counts as a line feed. -/
def lineFeed : Reader (List Char) := do
  lineEnd
  return ['\n']

/-- Reads a backslash at the end of a line, and all blanks and line ends after it. -/
def continuation : Reader (List Char) := do
  char '\x5c'
  blanks
  lineEnd
  let blank := do
    let _ ← satisfy fun c => c == ' ' || c == '\t'
  let _ ← many (blank <|> lineEnd)
  return []

/-- Reads one or two quotes that do not end the string of many lines. -/
def innerQuotes (mark : Char) : Reader (List Char) := do
  let quotes (n : Nat) : Reader (List Char) := do
    chars (List.replicate n mark)
    ahead (satisfy (· != mark))
    return List.replicate n mark
  quotes 2 <|> quotes 1

/-- Reads the end of a string of many lines; one or two quotes before it belong to the string. -/
def closing (mark : Char) : Reader (List Char) := do
  let quotes (n : Nat) : Reader (List Char) := do
    chars (List.replicate (n + 3) mark)
    return List.replicate n mark
  quotes 2 <|> quotes 1 <|> quotes 0

/-- Reads a string of many lines, made of `piece`s between triple marks. -/
def manyLines (mark : Char) (piece : Reader (List Char)) : Reader String := do
  chars [mark, mark, mark]
  let _ ← maybe lineEnd
  let pieces ← many piece
  let last ← commit (closing mark)
  return String.ofList (pieces.flatten ++ last)

/-- Reads one character that satisfies `p`, as a piece of a string. -/
def single (p : Char → Bool) : Reader (List Char) := do
  let c ← satisfy p
  return [c]

/-- Reads a string in triple double quotes. -/
def basicLines : Reader String :=
  manyLines '\x22'
    (single (fun c => isPlainChar c && c != '\x22' && c != '\x5c') <|> continuation <|>
      (do return [← escaped]) <|> lineFeed <|> innerQuotes '\x22')

/-- Reads a string in triple single quotes. -/
def literalLines : Reader String :=
  let piece := single (fun c => isPlainChar c && c != '\x27') <|> lineFeed
  manyLines '\x27' (piece <|> do return (← innerQuotes '\x27') ++ (← piece))

/-- Reads a string of any form. -/
def string : Reader String :=
  basicLines <|> literalLines <|> basicLine <|> literalLine

end DeviceTree.Toml
