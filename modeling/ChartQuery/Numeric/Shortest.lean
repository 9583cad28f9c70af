import ChartQuery.Numeric.Binary64

/-!
# Shortest digits

The decimal with the fewest digits that is read back as a given number, and of those the one
nearest to the number.  The reals that are read back as the number form an interval, which reaches
half way to its neighbours and holds its ends when the mantissa is even.
-/

namespace ChartQuery.Binary64

open Numeric

/-- Which of two equally near decimals is taken. -/
inductive Tie
  | up
  | even
  deriving DecidableEq, Repr

/-- The interval of a number in quarters of the unit of its mantissa: the lower end, the number and
the upper end.  The lower end is nearer where the exponent changes. -/
def quarters (m : Nat) (e : Int) : Nat × Nat × Nat :=
  (if m = Nat.pow 2 52 ∧ minExponent < e then 4 * m - 1 else 4 * m - 2, 4 * m, 4 * m + 2)

/-- Whether a is below b, or equal to it where that is allowed. -/
def within (closed : Bool) (a b : Nat) : Bool := if closed then a ≤ b else a < b

/-- The decimal on the grid of a power of ten that lies in the interval and is nearest, if there is
one. -/
def onGrid? (tie : Tie) (m : Nat) (e grid : Int) : Option Nat :=
  let (low, mid, high) := quarters m e
  let (a, b) := ratio 1 (e - 2)
  let (p, q) := powerOfTen grid
  let toGrid := fun n => n * a * q
  let unit := p * b
  let c := toGrid mid / unit
  let closed := m % 2 == 0
  match within closed (toGrid low) (c * unit), within closed ((c + 1) * unit) (toGrid high) with
  | false, false => none
  | true, false => some c
  | false, true => some (c + 1)
  | true, true =>
    let twice := 2 * toGrid mid
    let middle := (2 * c + 1) * unit
    if twice < middle then some c
    else if middle < twice then some (c + 1)
    else match tie with
      | .up => some (c + 1)
      | .even => some (if c % 2 = 0 then c else c + 1)

/-- Searches grids that grow finer, at most so many more. -/
def searchGrids (tie : Tie) (m : Nat) (e : Int) : Nat → Int → Decimal
  | 0, grid => ⟨0, grid⟩
  | n + 1, grid =>
    match onGrid? tie m e grid with
    | some c => ⟨c, grid⟩
    | none => searchGrids tie m e n (grid - 1)

/-- Takes the zeros at the end of a coefficient into the exponent. -/
def trimZeros : Nat → Decimal → Decimal
  | 0, d => d
  | n + 1, d =>
    if d.coefficient % 10 = 0 ∧ d.coefficient ≠ 0 then
      trimZeros n ⟨d.coefficient / 10, d.exponent + 1⟩
    else d

/-- The shortest decimal for a mantissa and an exponent; seventeen digits are always enough. -/
def shortest (tie : Tie) (m : Nat) (e : Int) : Decimal :=
  if m = 0 then ⟨0, 0⟩
  else
    let (num, den) := ratio m e
    trimZeros 20 (searchGrids tie m e 18 (decimalExponent num den))

/-- The text of a number: the shortest digits, never an exponent, no point in a whole number. -/
def display : Binary64 → String
  | nan => "NaN"
  | infinite negative => if negative then "-inf" else "inf"
  | finite negative m e =>
    (if negative then "-" else "") ++ String.ofList (shortest .up m e).positional

end ChartQuery.Binary64
