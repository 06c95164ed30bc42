/-
Filters of the log.

A filter is a list of directives with commas between them.  A directive is a level, or it names a
target, a span in brackets, or both, and may end in a level after an equals sign.  Between the
brackets a span may have fields in braces, each with a pattern for its value.
-/
import DeviceTree.Text.Blank
import DeviceTree.Text.Cut
import DeviceTree.Text.Fold
import DeviceTree.Text.Pattern

namespace DeviceTree.Cli.LogFilter

open Text

/-- The text is a number from zero to five; a plus sign and zeros may stand in front. -/
def isLevelNumber (cs : List Char) : Bool :=
  let digits := if cs.head? = some '+' then cs.tail else cs
  !digits.isEmpty && digits.all isDigit && numberIn 10 digits ≤ 5

/-- The text is a level: a name in any case, or a number. -/
def isLevel (cs : List Char) : Bool :=
  ["trace", "debug", "info", "warn", "error", "off"].contains (fold (String.ofList cs)) ||
    isLevelNumber cs

/-- The text is a decimal exponent of a number, or nothing. -/
def isExponent : List Char → Bool
  | [] => true
  | e :: rest =>
    let digits := if rest.head? = some '+' || rest.head? = some '-' then rest.tail else rest
    (e == 'e' || e == 'E') && !digits.isEmpty && digits.all isDigit

/-- The text is a number without a sign. -/
def isNumber (cs : List Char) : Bool :=
  let whole := cs.takeWhile isDigit
  let rest := cs.dropWhile isDigit
  let point := rest.head? = some '.'
  let rest := if point then rest.tail else rest
  let places := if point then rest.takeWhile isDigit else []
  ["inf", "infinity", "nan"].contains (fold (String.ofList cs)) ||
    (!(whole ++ places).isEmpty && isExponent (rest.drop places.length))

/-- The text may stand for the value of a field: a number with a plus sign, or a pattern. -/
def isValue : List Char → Bool
  | '+' :: rest => isNumber rest
  | cs => isPattern cs

/-- The text is a field: a name and perhaps a value after an equals sign. -/
def isField (cs : List Char) : Bool :=
  !cs.isEmpty &&
    match cs.dropWhile (· != '=') with
    | [] => true
    | _ :: value => isValue (value.takeWhile (· != '='))

/-- The character may start a directive that does not start with a span. -/
def isNameStart (c : Char) : Bool :=
  isAlphanumeric c || c == '-' || c == ':' || c == '_'

/-- What was read of a directive so far.  Places are counted in bytes. -/
inductive Progress where
  | opening
  /-- A level or the name of a target, up to here. -/
  | name
  /-- The name of a span that starts at that place, up to here. -/
  | span (start : Nat)
  /-- A span with a field that starts at that place. -/
  | field (start : Nat)
  /-- A span with all its fields. -/
  | fields
  /-- A span and the bracket that ends it. -/
  | closed
  /-- A level that starts at that place. -/
  | level (start : Nat)
  deriving DecidableEq, Repr

/-- What is wrong with a filter. -/
inductive Fault where
  | malformed
  /-- A part of the directive starts or ends inside a character. -/
  | torn (directive : List Char)
  deriving DecidableEq, Repr

/-- The part of a directive between two places. -/
def part (whole : List Char) (start stop : Nat) : Except Fault (List Char) :=
  match between start stop whole with
  | some cs => .ok cs
  | none => .error (.torn whole)

/-- Reads the character at `place` of the directive `whole`. -/
def Progress.step (whole : List Char) (place : Nat) (c : Char) : Progress → Except Fault Progress
  | opening =>
    if c = '[' then return span (place + 1)
    else if isNameStart c then return name
    else throw .malformed
  | name => do
    if c = '=' || c = '[' then
      let _ ← part whole 0 place
      return if c = '=' then level (place + 1) else span (place + 1)
    else return name
  | span start => do
    if c = ']' || c = '\x7b' then
      let _ ← part whole start place
      return if c = ']' then closed else field (place + 1)
    else return span start
  | field start => do
    if c = '\x7d' then
      if isField (← part whole start place) then return fields else throw .malformed
    else return field start
  | fields => if c = ']' then return closed else throw .malformed
  | closed => if c = '=' then return level (place + 1) else throw .malformed
  | level start => return level start

/-- Reads the characters from `place` on. -/
def Progress.read (whole : List Char) : Nat → List Char → Progress → Except Fault Progress
  | _, [], p => .ok p
  | place, c :: cs, p =>
    match p.step whole place c with
    | .error fault => .error fault
    | .ok p => p.read whole (place + c.utf8Size) cs

/-- Ends the directive `whole` here. -/
def Progress.finish (whole : List Char) : Progress → Except Fault Unit
  | name | closed => return
  | level start => do
    let cs ← part whole start (byteCount whole)
    if cs.isEmpty || isLevel cs then return else throw .malformed
  | opening | span _ | field _ | fields => throw .malformed

/-- Reads a directive.  Blanks around it are passed over, and places are counted after those in
front; yet its parts are cut out of the text with the blanks. -/
def readDirective (whole : List Char) : Except Fault Unit := do
  let p ← Progress.read whole 0 (trim whole) .opening
  p.finish whole

/-- The parts between commas. -/
def directives : List Char → List (List Char)
  | [] => [[]]
  | c :: rest =>
    if c = ',' then [] :: directives rest
    else match directives rest with
      | [] => [[c]]
      | first :: others => (c :: first) :: others

/-- Reads a filter, directive by directive; those without characters do not count. -/
def read (filter : String) : Except Fault Unit :=
  ((directives filter.toList).filter fun cs => !cs.isEmpty).forM readDirective

end DeviceTree.Cli.LogFilter
