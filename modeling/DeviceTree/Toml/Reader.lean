/-
Readers: functions that read something from the front of a document.

A reader yields what it read and the rest of the document.  If it cannot, it refuses, and another
reader may try at the same place; or it stops for good, because what it read so far can be nothing
else.  `many` repeats a reader that reads at least one character each time, so that the length of
the document bounds the number of rounds.
-/
import DeviceTree.Toml.Defect

namespace DeviceTree.Toml

/-- A document from some place on. -/
structure Cursor where
  rest : List Char
  /-- How many characters that are. -/
  left : Nat

/-- What comes of reading. -/
inductive Outcome (α : Type) where
  | read (a : α) (c : Cursor)
  | refused (f : Fault)
  | stopped (f : Fault)

/-- Reads a value from the front of a document. -/
def Reader (α : Type) : Type :=
  Cursor → Outcome α

namespace Reader

variable {α β : Type}

instance : Monad Reader where
  pure a := fun c => .read a c
  bind p f := fun c =>
    match p c with
    | .read a c => f a c
    | .refused fault => .refused fault
    | .stopped fault => .stopped fault

/-- Reads what `p` reads, or else what `q` reads. -/
instance : OrElse (Reader α) where
  orElse p q := fun c =>
    match p c with
    | .refused _ => q () c
    | outcome => outcome

/-- Refuses to read. -/
def fail : Reader α := fun c =>
  .refused ⟨c.left, .unexpected⟩

/-- Stops where `p` refuses. -/
def commit (p : Reader α) : Reader α := fun c =>
  match p c with
  | .refused fault => .stopped fault
  | outcome => outcome

/-- Reads what `p` reads, if `f` can make something of it; refuses at its start if not. -/
def convert (p : Reader α) (f : α → Except Problem β) : Reader β := fun c =>
  match p c with
  | .read a rest =>
    match f a with
    | .ok b => .read b rest
    | .error problem => .refused ⟨c.left, problem⟩
  | .refused fault => .refused fault
  | .stopped fault => .stopped fault

/-- Reads what `p` reads, if it satisfies `f`. -/
def filter (p : Reader α) (f : α → Bool) : Reader α :=
  p.convert fun a => if f a then .ok a else .error .unexpected

/-- The place, as the number of characters that are left. -/
def place : Reader Nat := fun c =>
  .read c.left c

/-- The next character, which stays unread. -/
def peek : Reader (Option Char) := fun c =>
  .read c.rest.head? c

/-- Reads one character that satisfies `p`. -/
def satisfy (p : Char → Bool) : Reader Char := fun c =>
  match c.rest with
  | [] => fail c
  | x :: rest => if p x then .read x ⟨rest, c.left - 1⟩ else fail c

/-- Reads the character `x`. -/
def char (x : Char) : Reader Unit := do
  let _ ← satisfy (· == x)

/-- What follows the characters `xs`. -/
def dropChars : (xs : List Char) → List Char → Option (List Char)
  | [], cs => some cs
  | _ :: _, [] => none
  | x :: xs, c :: cs => if x = c then dropChars xs cs else none

/-- Reads the given characters. -/
def chars (xs : List Char) : Reader Unit := fun c =>
  match dropChars xs c.rest with
  | some rest => .read () ⟨rest, c.left - xs.length⟩
  | none => fail c

/-- Reads the given text. -/
def literal (s : String) : Reader Unit :=
  chars s.toList

/-- Reads all the characters up to the first that does not satisfy `p`. -/
def span (p : Char → Bool) : Reader (List Char) := fun c =>
  let read := c.rest.takeWhile p
  .read read ⟨c.rest.dropWhile p, c.left - read.length⟩

/-- Reads at most `n` characters, as long as they satisfy `p`. -/
def atMost (p : Char → Bool) (n : Nat) : Reader (List Char) := fun c =>
  let read := (c.rest.take n).takeWhile p
  .read read ⟨c.rest.drop read.length, c.left - read.length⟩

/-- Reads exactly `n` characters that satisfy `p`. -/
def exactly (p : Char → Bool) (n : Nat) : Reader (List Char) :=
  (atMost p n).filter fun cs => cs.length = n

/-- Reads what `p` reads, or nothing. -/
def maybe (p : Reader α) : Reader (Option α) :=
  (do return some (← p)) <|> pure none

/-- Reads at most `rounds` times what `p` reads. -/
def manyWithin (p : Reader α) : (rounds : Nat) → Reader (List α)
  | 0 => pure []
  | rounds + 1 => fun c =>
    match p c with
    | .refused _ => .read [] c
    | .stopped fault => .stopped fault
    | .read x rest =>
      match manyWithin p rounds rest with
      | .read xs rest => .read (x :: xs) rest
      | outcome => outcome

/-- Reads what `p` reads, as often as it can; `p` reads at least one character. -/
def many (p : Reader α) : Reader (List α) := fun c =>
  manyWithin p c.left c

/-- Reads what `p` reads, at least once, with `separator` in between. -/
def separated (p : Reader α) (separator : Reader β) : Reader (List α) := do
  let first ← p
  let others ← many do
    let _ ← separator
    p
  return first :: others

/-- Refuses unless `p` can read here; reads nothing. -/
def ahead (p : Reader α) : Reader Unit := fun c =>
  match p c with
  | .read _ _ => .read () c
  | .refused fault => .refused fault
  | .stopped fault => .stopped fault

/-- Reads the end of the document. -/
def atEnd : Reader Unit := fun c =>
  match c.rest with
  | [] => .read () c
  | _ :: _ => fail c

/-- What the reader makes of the whole document. -/
def readAll (p : Reader α) (document : List Char) : Except Fault α :=
  let whole : Reader α := do
    let a ← p
    atEnd
    return a
  match whole ⟨document, document.length⟩ with
  | .read a _ => .ok a
  | .refused fault | .stopped fault => .error fault

end Reader

end DeviceTree.Toml
