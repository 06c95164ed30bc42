/-
Quoted texts, as they stand in messages about bad arguments.

A text is put between double quotes and a character between single ones.  Inside, the mark that
would end the quotation, the backslash and a few controls have a short escape, and every
unprintable character is written by its code point.
-/
import DeviceTree.Text.Numeral
import DeviceTree.Text.Unprintable

namespace DeviceTree.Text

/-- One character between quotation marks `mark`. -/
def escapeWithin (mark : Char) (c : Char) : String :=
  if c = '\x00' then "\\0"
  else if c = '\t' then "\\t"
  else if c = '\r' then "\\r"
  else if c = '\n' then "\\n"
  else if c = '\x5c' then "\\\\"
  else if c = mark then String.ofList ['\x5c', mark]
  else if isUnprintable c then "\\u\x7b" ++ hexDigits c.toNat ++ "\x7d"
  else c.toString

/-- The text in double quotes. -/
def quote (s : String) : String :=
  "\"" ++ String.join (s.toList.map (escapeWithin '\x22')) ++ "\""

/-- The character in single quotes. -/
def quoteChar (c : Char) : String :=
  "'" ++ escapeWithin '\x27' c ++ "'"

end DeviceTree.Text
