/-
Dates and times in a document.  Every field has to be in its range, and a month has to have the
day.
-/
import DeviceTree.Toml.Number

namespace DeviceTree.Toml

open Reader Text

/-- Reads a field of `width` digits that lies between two bounds. -/
def field (width low high : Nat) : Reader Nat :=
  (exactly isDigit width).convert fun digits =>
    let n := numberIn 10 digits
    if low ≤ n && n ≤ high then .ok n else .error .unexpected

/-- The number of days of a month. -/
def daysIn (year month : Nat) : Nat :=
  let leap := year % 4 = 0 ∧ (year % 100 ≠ 0 ∨ year % 400 = 0)
  if month = 2 then (if leap then 29 else 28)
  else if month = 4 ∨ month = 6 ∨ month = 9 ∨ month = 11 then 30
  else 31

/-- Reads a date.  After the first hyphen it can be nothing else. -/
def date : Reader Unit := do
  let year ← field 4 0 9999
  char '-'
  commit do
    let month ← field 2 1 12
    char '-'
    let _ ← field 2 1 (daysIn year month)

/-- Reads a time of day.  After the first colon it can be nothing else. -/
def timeOfDay : Reader Unit := do
  let _ ← field 2 0 23
  char ':'
  commit do
    let _ ← field 2 0 59
    char ':'
    let _ ← field 2 0 60
    let _ ← maybe do
      char '.'
      let _ ← satisfy isDigit
      span isDigit

/-- Reads how far a time is from that of Greenwich. -/
def offset : Reader Unit := do
  let zero : Reader Unit := do
    let _ ← satisfy fun c => c == 'Z' || c == 'z'
  let distance : Reader Unit := do
    let _ ← satisfy fun c => c == '+' || c == '-'
    commit do
      let _ ← field 2 0 23
      char ':'
      let _ ← field 2 0 59
  zero <|> distance

/-- Reads a date, a time, or both. -/
def moment : Reader Unit := do
  let clock : Reader Unit := do
    let _ ← satisfy fun c => c == 'T' || c == 't' || c == ' '
    timeOfDay
    let _ ← maybe offset
  let dated : Reader Unit := do
    date
    let _ ← maybe clock
  dated <|> timeOfDay

end DeviceTree.Toml
