import ChartQuery.Text.Hex
import ChartQuery.Text.Utf8

/-!
# Percent coding

A byte is written as a percent sign with two hexadecimal digits.  Reading leaves alone whatever is
not of that form, and writing leaves alone what is safe in the name of a file.
-/

namespace ChartQuery.Percent

/-! ### Writing -/

/-- Whether a byte stands for itself: ASCII letters, ASCII digits, points, underscores and
hyphens do. -/
def isSafe (b : UInt8) : Bool :=
  let c := Char.ofNat b.toNat
  b.toNat < 0x80 && (c.isAlphanum || c == '.' || c == '_' || c == '-')

/-- A byte as it is written. -/
def escape (b : UInt8) : List Char :=
  if isSafe b then [Char.ofNat b.toNat]
  else ['%', Text.hexDigitUpper (b.toNat / 16), Text.hexDigitUpper (b.toNat % 16)]

/-- A text as it is written. -/
def encode (s : String) : String :=
  String.ofList ((Utf8.encode s.toList).flatMap escape)

/-! ### Reading -/

/-- The byte of two hexadecimal digits. -/
def byte? (h l : Char) : Option UInt8 := do
  return UInt8.ofNat (16 * (← Text.hexValue? h) + (← Text.hexValue? l))

/-- The bytes that are meant: those that are written in digits, and those of all other
characters. -/
def bytes : List Char → List UInt8
  | [] => []
  | '%' :: h :: l :: cs =>
    match byte? h l with
    | some b => b :: bytes cs
    | none => String.utf8EncodeChar '%' ++ bytes (h :: l :: cs)
  | c :: cs => String.utf8EncodeChar c ++ bytes cs

/-- The text that is meant. -/
def decode (s : String) : String :=
  String.ofList (Utf8.decode (bytes s.toList))

/-- The text that is meant by a part of a request, in which a plus sign stands for a space. -/
def decodeComponent (s : String) : String :=
  decode (String.ofList (s.toList.map fun c => if c = '+' then ' ' else c))

end ChartQuery.Percent
