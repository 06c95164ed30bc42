/-
Lengths of time, in whole nanoseconds.

A duration is written in the largest unit of which it holds at least one, with the exact rest as
a decimal fraction: `1.5ms`, `10s`, `999ns`.  Nothing is rounded and no fraction ends in a zero.
-/

namespace DeviceTree

/-- A length of time. -/
structure Duration where
  nanos : Nat
  deriving DecidableEq, Repr, Inhabited

namespace Duration

/-- So many whole seconds and nanoseconds. -/
def ofParts (seconds nanos : Nat) : Duration :=
  ⟨seconds * 1000000000 + nanos⟩

/-- So many milliseconds. -/
def ofMillis (millis : Nat) : Duration :=
  ⟨millis * 1000000⟩

/-- The decimal digits of `rest / 10 ^ places`, without zeros at the end. -/
def fractionDigits (rest places : Nat) : List Char :=
  let digits := (toString rest).toList
  let padded := List.replicate (places - digits.length) '0' ++ digits
  (padded.reverse.dropWhile (· == '0')).reverse

/-- The count of units of `10 ^ places` nanoseconds, with the rest as a fraction. -/
def inUnit (nanos places : Nat) (unit : String) : String :=
  let size := Nat.pow 10 places
  let whole := toString (nanos / size)
  match fractionDigits (nanos % size) places with
  | [] => whole ++ unit
  | digits => whole ++ "." ++ String.ofList digits ++ unit

/-- The duration in the largest unit that it fills. -/
def text (d : Duration) : String :=
  if d.nanos ≥ 1000000000 then inUnit d.nanos 9 "s"
  else if d.nanos ≥ 1000000 then inUnit d.nanos 6 "ms"
  else if d.nanos ≥ 1000 then inUnit d.nanos 3 "µs"
  else inUnit d.nanos 0 "ns"

end Duration

end DeviceTree
