import ChartQuery.Numeric.Decimal
import ChartQuery.Text.Hex
import ChartQuery.Text.Split

/-!
# Addresses of version 4

An address is a number of 32 bits.  It is written as up to four numbers with points between them, in
decimal, octal or hexadecimal digits.  Each number but the last one is a byte, and the last one
stands for all bytes that are left.

These are rules of the library that URLs are read with, and no theorem rests on them.
-/

namespace ChartQuery.Ipv4

open Numeric

/-! ### Numbers -/

/-- The number that octal digits are. -/
def ofOctal? (cs : List Char) : Option Nat :=
  if cs.all fun c => '0' ≤ c && c ≤ '7' then
    some (cs.foldl (fun n c => 8 * n + (c.toNat - '0'.toNat)) 0)
  else none

/-- The number of a part of an address.  A zero and an x stand before hexadecimal digits, and a zero
before octal ones; if no digit follows, the number is zero. -/
def number? : List Char → Option Nat
  | [] => none
  | ['0', 'x'] => some 0
  | '0' :: 'x' :: cs => Text.ofHex? cs
  | ['0'] => some 0
  | '0' :: cs => ofOctal? cs
  | cs => if cs.all Char.isDigit then some (ofDigits cs) else none

/-! ### Addresses -/

/-- The parts of a name; a point at the end is passed over. -/
def parts (cs : List Char) : List (List Char) :=
  match Text.fields '.' cs with
  | [part] => [part]
  | parts => if parts.getLast? = some [] then parts.dropLast else parts

/-- Whether a name ends in a number, so that it must be an address. -/
def endsInNumber (cs : List Char) : Bool :=
  match (parts cs).getLast? with
  | some part => (!part.isEmpty && part.all Char.isDigit) || (number? part).isSome
  | none => false

/-- The address of numbers: `bytes` come before the last one. -/
def ofNumbers? (bytes : List Nat) (last : Nat) : Option Nat :=
  if bytes.length < 4 ∧ bytes.all (· < 256) ∧ last < Nat.pow 256 (4 - bytes.length) then
    some (bytes.foldl (fun n b => 256 * n + b) 0 * Nat.pow 256 (4 - bytes.length) + last)
  else none

/-- The address that a name is. -/
def address? (cs : List Char) : Option Nat := do
  let numbers ← (parts cs).mapM number?
  ofNumbers? numbers.dropLast (← numbers.getLast?)

/-- An address as four bytes in decimal digits. -/
def text (address : Nat) : List Char :=
  ['.'].intercalate ([24, 16, 8, 0].map fun n => Nat.toDigits 10 (address / Nat.pow 2 n % 256))

end ChartQuery.Ipv4
