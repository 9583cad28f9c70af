import ChartQuery.Domain
import ChartQuery.Text.Percent
import ChartQuery.Url.Ipv4

/-!
# Hosts of URLs

A host is a name, or an address of version 6 between brackets.  Such an address is eight pieces of
sixteen bits, of which a run of zeros may be left out, and the last two of which may be written as
four bytes.  On the web, a name is a domain name, or an address of version 4.

These are rules of the library that URLs are read with, and no theorem rests on them.
-/

namespace ChartQuery.Host

open Numeric

/-! ### Reading addresses -/

/-- A piece of one to four hexadecimal digits. -/
def piece? (cs : List Char) : Option Nat :=
  if 4 < cs.length then none else Text.ofHex? cs

/-- A byte in decimal digits without superfluous zeros. -/
def byte? (cs : List Char) : Option Nat :=
  if cs.isEmpty ∨ !cs.all Char.isDigit ∨ (2 ≤ cs.length ∧ cs.head? = some '0') then none
  else if ofDigits cs ≤ 255 then some (ofDigits cs) else none

/-- The two pieces of four bytes with points between them. -/
def bytePieces? (cs : List Char) : Option (List Nat) :=
  match Text.fields '.' cs with
  | [a, b, c, d] => do
    return [256 * (← byte? a) + (← byte? b), 256 * (← byte? c) + (← byte? d)]
  | _ => none

/-- The pieces of fields of an address; bytes may stand in the last field. -/
def pieces? : List (List Char) → Option (List Nat)
  | [] => some []
  | [cs] => if cs.contains '.' then bytePieces? cs else (piece? cs).map ([·])
  | cs :: rest => do
    let p ← piece? cs
    (pieces? rest).map (p :: ·)

/-- The pieces of a part of an address, which may be empty. -/
def part? (cs : List Char) : Option (List Nat) :=
  if cs.isEmpty then some [] else pieces? (Text.fields ':' cs)

/-- What stands before and after the first pair of colons. -/
def cutColons : List Char → Option (List Char × List Char)
  | ':' :: ':' :: cs => some ([], cs)
  | c :: cs => (cutColons cs).map fun (before, behind) => (c :: before, behind)
  | [] => none

/-- The eight pieces of an address.  A pair of colons stands for at least one zero. -/
def address? (cs : List Char) : Option (List Nat) :=
  match cutColons cs with
  | none => (part? cs).filter (·.length == 8)
  | some (before, behind) => do
    if before.contains '.' then none
    let ps ← part? before
    let qs ← part? behind
    if ps.length + qs.length < 8 then
      some (ps ++ List.replicate (8 - ps.length - qs.length) 0 ++ qs)
    else none

/-! ### Writing addresses -/

/-- The number of zeros that pieces begin with. -/
def zeros (ps : List Nat) : Nat := (ps.takeWhile (· == 0)).length

/-- The longest run of zeros: the number of pieces before it, and its length.  Of two that are
equally long it is the first. -/
def longestZeros : List Nat → Nat × Nat
  | [] => (0, 0)
  | p :: ps =>
    let (start, length) := longestZeros ps
    if 0 < zeros (p :: ps) ∧ length ≤ zeros (p :: ps) then (0, zeros (p :: ps))
    else (start + 1, length)

/-- Pieces with colons between them. -/
def joined (ps : List Nat) : List Char :=
  [':'].intercalate (ps.map (Nat.toDigits 16))

/-- The shortest text of an address: a pair of colons stands for the longest run of at least two
zeros. -/
def addressText (ps : List Nat) : List Char :=
  let (start, length) := longestZeros ps
  if length < 2 then joined ps
  else joined (ps.take start) ++ [':', ':'] ++ joined (ps.drop (start + length))

/-! ### Hosts -/

/-- Whether a character cannot be part of a name. -/
def isForbidden (c : Char) : Bool :=
  ['\x00', '\t', '\n', '\r', ' ', '#', '/', ':', '<', '>', '?', '@', '[', '\\', ']', '^',
    '|'].contains c

/-- A character of a name as it is written: control characters and what is not ASCII are percent
coded. -/
def escape (c : Char) : List Char :=
  if 32 ≤ c.toNat ∧ c.toNat < 127 then [c]
  else (String.utf8EncodeChar c).flatMap fun b =>
    ['%', Text.hexDigitUpper (b.toNat / 16), Text.hexDigitUpper (b.toNat % 16)]

/-- The text of an address between brackets, if it is one. -/
def bracketed? (cs : List Char) : Option (List Char) := do
  if cs.getLast? ≠ some ']' then none
  let ps ← address? cs.dropLast
  return '[' :: addressText ps ++ [']']

/-- The text of a host, if it is one. -/
def text? : List Char → Option (List Char)
  | '[' :: cs => bracketed? cs
  | cs => if cs.any isForbidden then none else some (cs.flatMap escape)

/-- The text of a host of the web.  It is percent coded, and must not be empty.  If it ends in a
number, it must be an address. -/
def webText? : List Char → Option (List Char)
  | '[' :: cs => bracketed? cs
  | cs => do
    let name ← Domain.name? (Utf8.decode (Percent.bytes cs))
    if name.isEmpty then none
    else if Ipv4.endsInNumber name then (Ipv4.address? name).map Ipv4.text
    else some name

end ChartQuery.Host
