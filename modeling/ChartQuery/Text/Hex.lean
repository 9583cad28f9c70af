/-!
# Hexadecimal digits and numbers
-/

namespace ChartQuery.Text

/-- The digit of a number below sixteen, with a small letter from ten on. -/
def hexDigit (n : Nat) : Char := Nat.digitChar n

/-- The digit of a number below sixteen, with a capital letter from ten on. -/
def hexDigitUpper (n : Nat) : Char := (Nat.digitChar n).toUpper

/-- The number of a digit; letters count in either case. -/
def hexValue? (c : Char) : Option Nat :=
  if '0' ≤ c ∧ c ≤ '9' then some (c.toNat - '0'.toNat)
  else if 'a' ≤ c ∧ c ≤ 'f' then some (c.toNat - 'a'.toNat + 10)
  else if 'A' ≤ c ∧ c ≤ 'F' then some (c.toNat - 'A'.toNat + 10)
  else none

/-- The number that digits are; there must be at least one. -/
def ofHex? (cs : List Char) : Option Nat :=
  if cs.isEmpty then none else cs.foldlM (fun n c => (hexValue? c).map (16 * n + ·)) 0

/-- A digit with a small letter is read back. -/
theorem hexValue?_hexDigit : ∀ n < 16, hexValue? (hexDigit n) = some n := by decide

/-- A digit with a capital letter is read back. -/
theorem hexValue?_hexDigitUpper : ∀ n < 16, hexValue? (hexDigitUpper n) = some n := by decide

end ChartQuery.Text
