import ChartQuery.Numeric.Binary64

/-!
# Six significant digits

The text of a number with six significant digits: positional from `1e-4` to below `1e6`, else with
an exponent of at least two digits, and without zeros at the end of the fraction.
-/

namespace ChartQuery.Binary64

open Numeric

/-- The number of significant digits. -/
def generalDigits : Nat := 6

/-- The digits before and after a point; zeros at the end of the fraction, and a point that ends the
text, are left out. -/
def trimmed (whole fraction : List Char) : List Char :=
  let fraction := (fraction.reverse.dropWhile (· == '0')).reverse
  if fraction.isEmpty then whole else whole ++ '.' :: fraction

/-- The exponent with its sign and at least two digits. -/
def generalExponent (e : Int) : List Char :=
  'e' :: (if e < 0 then '-' else '+') :: padded 2 e.natAbs

/-- The text of a positive quotient with six significant digits.  The exponent of the rounded value
decides on the form; the positional form rounds the value itself at the place of the last digit. -/
def generalMagnitude (num den : Nat) : List Char :=
  let (n, e) := significant generalDigits num den
  if e < -4 ∨ (generalDigits : Int) ≤ e then
    let ds := digits n
    trimmed (ds.take 1) (ds.drop 1) ++ generalExponent e
  else
    let (whole, fraction) := fixedPlaces ((generalDigits : Int) - 1 - e).toNat num den
    trimmed whole fraction

/-- The text of a number with six significant digits. -/
def general : Binary64 → String
  | nan => "nan"
  | infinite negative => if negative then "-inf" else "inf"
  | finite negative m e =>
    if m = 0 then "0"
    else
      let (num, den) := ratio m e
      (if negative then "-" else "") ++ String.ofList (generalMagnitude num den)

end ChartQuery.Binary64
