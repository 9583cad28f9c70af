/-!
# UTF-8

Texts as bytes, and bytes as texts.  Reading never fails: bytes that belong to no character are
read as the replacement character.  It reads one byte at a time; between two bytes it remembers the
character that it is in the middle of.
-/

namespace ChartQuery.Utf8

/-- The bytes of a text. -/
def encode (cs : List Char) : List UInt8 := cs.flatMap String.utf8EncodeChar

/-- What is read in place of bytes that belong to no character. -/
def replacement : Char := '\uFFFD'

/-- A character whose last bytes are missing: the range that its next byte must be in, how many
bytes must follow that one, and the bits that have been read. -/
structure Pending where
  low : UInt8
  high : UInt8
  more : Nat
  bits : Nat

/-- What is read at the first byte of a character.  The range of the second byte leaves out longer
forms than necessary, surrogates, and numbers beyond the last character. -/
def first (b : UInt8) : List Char × Option Pending :=
  let n := b.toNat
  if n < 0x80 then ([Char.ofNat n], none)
  else if n < 0xC2 then ([replacement], none)
  else if n < 0xE0 then ([], some ⟨0x80, 0xBF, 0, n - 0xC0⟩)
  else if n = 0xE0 then ([], some ⟨0xA0, 0xBF, 1, 0⟩)
  else if n = 0xED then ([], some ⟨0x80, 0x9F, 1, 0xD⟩)
  else if n < 0xF0 then ([], some ⟨0x80, 0xBF, 1, n - 0xE0⟩)
  else if n = 0xF0 then ([], some ⟨0x90, 0xBF, 2, 0⟩)
  else if n < 0xF4 then ([], some ⟨0x80, 0xBF, 2, n - 0xF0⟩)
  else if n = 0xF4 then ([], some ⟨0x80, 0x8F, 2, 4⟩)
  else ([replacement], none)

/-- What is read at a byte that the character in hand can go on with. -/
def Pending.next (p : Pending) (b : UInt8) : List Char × Option Pending :=
  let bits := p.bits * 64 + b.toNat % 64
  match p.more with
  | 0 => ([Char.ofNat bits], none)
  | more + 1 => ([], some ⟨0x80, 0xBF, more, bits⟩)

/-- What is read at a byte.  If the character in hand cannot go on with it, the bytes read so far
are replaced together, and the byte begins another character. -/
def step : Option Pending → UInt8 → List Char × Option Pending
  | none, b => first b
  | some p, b =>
    if p.low ≤ b ∧ b ≤ p.high then p.next b
    else (replacement :: (first b).1, (first b).2)

/-- The text of bytes, in the middle of a character. -/
def decodeFrom : Option Pending → List UInt8 → List Char
  | none, [] => []
  | some _, [] => [replacement]
  | p, b :: bs => (step p b).1 ++ decodeFrom (step p b).2 bs

/-- The text of bytes. -/
def decode (bs : List UInt8) : List Char := decodeFrom none bs

end ChartQuery.Utf8
