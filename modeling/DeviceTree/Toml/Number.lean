/-
Numbers in a document.

Digits may be set apart by single underscores.  An integer has to fit into 64 bits with a sign;
of a floating-point number it matters only whether it is too large to be one.
-/
import DeviceTree.Toml.Text

namespace DeviceTree.Toml

open Reader Text

/-- Reads one more digit that satisfies `p`, perhaps after an underscore. -/
def nextDigit (p : Char → Bool) : Reader Char :=
  satisfy p <|> do
    char '_'
    commit (satisfy p)

/-- Reads digits that satisfy `p`, with single underscores between some of them. -/
def digits (p : Char → Bool) : Reader (List Char) := do
  let first ← satisfy p
  let rest ← many (nextDigit p)
  return first :: rest

/-- Reads a sign, if there is one; tells whether it is a minus. -/
def sign : Reader Bool := do
  match ← maybe (satisfy fun c => c == '+' || c == '-') with
  | some '-' => return true
  | _ => return false

/-- Reads decimal digits without a leading zero, apart from the zero itself. -/
def decimal : Reader (List Char) := do
  match ← maybe (char '0') with
  | some _ => return ['0']
  | none => digits isDigit

/-- The integer fits into 64 bits with a sign. -/
def fits (n : Int) : Bool :=
  -9223372036854775808 ≤ n && n ≤ 9223372036854775807

/-- Reads an integer that fits, and stops if it does not. -/
def fitting (p : Reader Int) : Reader Int := do
  let start ← place
  let n ← p
  if fits n then return n else fun _ => .stopped ⟨start, .unexpected⟩

/-- Reads an integer in base `base` with its mark, and stops if no digits follow the mark. -/
def marked (mark : String) (base : Nat) (p : Char → Bool) : Reader Int := do
  literal mark
  let ds ← commit (digits p)
  return numberIn base ds

/-- Reads a decimal integer. -/
def decimalInteger : Reader Int := do
  let negative ← sign
  let n := numberIn 10 (← decimal)
  return if negative then -n else n

/-- Reads an integer. -/
def integer : Reader Int :=
  fitting (marked "0x" 16 isHexDigit <|> marked "0o" 8 (fun c => '0' ≤ c && c ≤ '7') <|>
    marked "0b" 2 (fun c => c == '0' || c == '1') <|> decimalInteger)

/-- The least number that is rounded to infinity: half a step above the largest finite one. -/
def overflow : Nat :=
  Nat.pow 2 1024 - Nat.pow 2 970

/-- Whether `mantissa * 10 ^ exponent` is too large for a floating-point number.  Far from the
bound the number of digits decides. -/
def overflows (mantissa : Nat) (exponent : Int) : Bool :=
  let size := (Nat.toDigits 10 mantissa).length + exponent
  if mantissa = 0 || size < 300 then false
  else if 320 < size then true
  else if 0 ≤ exponent then overflow ≤ mantissa * Nat.pow 10 exponent.toNat
  else overflow * Nat.pow 10 (-exponent).toNat ≤ mantissa

/-- Reads the exponent of a floating-point number. -/
def exponent : Reader Int := do
  let _ ← satisfy fun c => c == 'e' || c == 'E'
  let negative ← sign
  let n := numberIn 10 (← commit (digits isDigit))
  return if negative then -n else n

/-- Reads the digits after the point. -/
def fraction : Reader (List Char) := do
  char '.'
  commit (digits isDigit)

/-- Reads a floating-point number that is written in digits, and stops if it is too large. -/
def finiteFloat : Reader Unit := do
  let start ← place
  let negative ← sign
  let whole ← decimal
  let places ← maybe fraction
  let power ← maybe exponent
  if places.isNone && power.isNone then fail
  let places := places.getD []
  let large := overflows (numberIn 10 (whole ++ places)) (power.getD 0 - places.length)
  if large && !negative then fun _ => .stopped ⟨start, .unexpected⟩

/-- Reads an infinity or a number that is none. -/
def specialFloat : Reader Unit := do
  let _ ← sign
  literal "inf" <|> literal "nan"

/-- Reads a floating-point number. -/
def float : Reader Unit :=
  finiteFloat <|> specialFloat

end DeviceTree.Toml
