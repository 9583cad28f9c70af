/-!
# UTF-16

Texts as units of sixteen bits, and as bytes with the high byte of each unit first.
-/

namespace ChartQuery.Utf16

/-- The units of a character: one, or a pair of surrogates. -/
def units (c : Char) : List UInt16 :=
  if c.toNat < 0x10000 then [UInt16.ofNat c.toNat]
  else
    let n := c.toNat - 0x10000
    [UInt16.ofNat (0xD800 + n / 0x400), UInt16.ofNat (0xDC00 + n % 0x400)]

/-- The bytes of a unit, the high one first. -/
def bytes (u : UInt16) : List UInt8 := [UInt8.ofNat (u.toNat / 256), UInt8.ofNat (u.toNat % 256)]

/-- The bytes of a text. -/
def encode (cs : List Char) : List UInt8 := cs.flatMap fun c => (units c).flatMap bytes

/-- The bytes that tell a reader that high bytes come first. -/
def byteOrderMark : List UInt8 := [0xFE, 0xFF]

end ChartQuery.Utf16
