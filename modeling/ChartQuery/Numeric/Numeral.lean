import ChartQuery.Numeric.Binary64

/-!
# Reading numbers

The texts that are read as integers and as double precision numbers.  Nothing may stand around the
number, not even blanks.
-/

namespace ChartQuery.Numeral

open Numeric

/-! ### Integers -/

/-- The number that digits stand for if there are any and all are ASCII digits. -/
def digitsValue? (cs : List Char) : Option Nat :=
  if !cs.isEmpty && cs.all Char.isDigit then some (ofDigits cs) else none

/-- A natural number below a bound; a plus sign may stand in front. -/
def natural? (bound : Nat) (s : String) : Option Nat :=
  let cs := match s.toList with
    | '+' :: cs => cs
    | cs => cs
  (digitsValue? cs).filter (· < bound)

/-- An integer of so many bits; a sign may stand in front. -/
def integer? (bits : Nat) (s : String) : Option Int :=
  let n? : Option Int := match s.toList with
    | '+' :: cs => (digitsValue? cs).map Int.ofNat
    | '-' :: cs => (digitsValue? cs).map fun n : Nat => -(n : Int)
    | cs => (digitsValue? cs).map Int.ofNat
  n?.filter fun n => -Int.pow 2 (bits - 1) ≤ n && n < Int.pow 2 (bits - 1)

/-! ### Double precision numbers -/

/-- The exponent after its letter: a sign may stand in front of the digits. -/
def exponent? : List Char → Option Int
  | '+' :: cs => (digitsValue? cs).map Int.ofNat
  | '-' :: cs => (digitsValue? cs).map fun n : Nat => -(n : Int)
  | cs => (digitsValue? cs).map Int.ofNat

/-- A decimal: digits with at most one point, of which there is at least one on either side of the
point, and possibly an exponent. -/
def decimal? (cs : List Char) : Option Decimal :=
  let whole := cs.takeWhile Char.isDigit
  let rest := cs.dropWhile Char.isDigit
  let (fraction, rest) := match rest with
    | '.' :: rest => (rest.takeWhile Char.isDigit, rest.dropWhile Char.isDigit)
    | rest => ([], rest)
  let exponent : Option Int := match rest with
    | [] => some 0
    | 'e' :: rest => exponent? rest
    | 'E' :: rest => exponent? rest
    | _ => none
  if (whole ++ fraction).isEmpty then none
  else exponent.map fun e => ⟨ofDigits (whole ++ fraction), e - fraction.length⟩

/-- A number without its sign: a decimal, or the words for infinity and for no number in any
mixture of ASCII cases. -/
def unsigned? (negative : Bool) (cs : List Char) : Option Binary64 :=
  match String.ofList (cs.map Char.toLower) with
  | "inf" | "infinity" => some (.infinite negative)
  | "nan" => some .nan
  | _ => (decimal? cs).map (Binary64.ofDecimal negative)

/-- A double precision number; a sign may stand in front. -/
def binary64? (s : String) : Option Binary64 :=
  match s.toList with
  | '+' :: cs => unsigned? false cs
  | '-' :: cs => unsigned? true cs
  | cs => unsigned? false cs

end ChartQuery.Numeral
