import ChartQuery.Text.Percent
import ChartQuery.Text.Utf16
import Mathlib.Tactic.Common

/-!
# Encoded texts are read back

Texts are written as bytes in UTF-8 and in UTF-16, and in file names bytes are percent coded.  Each
of these is undone by its reader, whatever the text: the bytes of a character, together with
anything behind them, are read as the character and what is read of the rest.
-/

namespace ChartQuery

/-! ## UTF-8 -/

namespace Utf8

variable {b low high : UInt8} {more bits n : ℕ}

/-- A byte behind the first one of a character, with the last six bits of a number. -/
def tail (n : ℕ) : UInt8 := UInt8.ofNat (n % 64 + 128)

/-- The number of a byte behind the first one. -/
lemma toNat_tail (n : ℕ) : (tail n).toNat = n % 64 + 128 :=
  UInt8.toNat_ofNat_of_lt' (by rw [UInt8.size]; omega)

/-- The last byte of a character. -/
lemma decodeFrom_last (hlow : low.toNat ≤ n % 64 + 128) (hhigh : n % 64 + 128 ≤ high.toNat)
    (bs : List UInt8) : decodeFrom (some ⟨low, high, 0, bits⟩) (tail n :: bs) =
      Char.ofNat (bits * 64 + n % 64) :: decodeFrom none bs := by
  have hrange : low ≤ tail n ∧ tail n ≤ high := by
    rw [UInt8.le_iff_toNat_le, UInt8.le_iff_toNat_le, toNat_tail]
    exact ⟨hlow, hhigh⟩
  have hbits : (tail n).toNat % 64 = n % 64 := by
    rw [toNat_tail]
    omega
  rw [decodeFrom, step, if_pos hrange, Pending.next, hbits]
  rfl

/-- A byte of a character in front of its last one. -/
lemma decodeFrom_more (hlow : low.toNat ≤ n % 64 + 128) (hhigh : n % 64 + 128 ≤ high.toNat)
    (bs : List UInt8) : decodeFrom (some ⟨low, high, more + 1, bits⟩) (tail n :: bs) =
      decodeFrom (some ⟨0x80, 0xBF, more, bits * 64 + n % 64⟩) bs := by
  have hrange : low ≤ tail n ∧ tail n ≤ high := by
    rw [UInt8.le_iff_toNat_le, UInt8.le_iff_toNat_le, toNat_tail]
    exact ⟨hlow, hhigh⟩
  have hbits : (tail n).toNat % 64 = n % 64 := by
    rw [toNat_tail]
    omega
  rw [decodeFrom, step, if_pos hrange, Pending.next, hbits]
  rfl

/-- The first of two bytes. -/
lemma first_of_two (hlow : 0xC2 ≤ b.toNat) (hhigh : b.toNat < 0xE0) :
    first b = ([], some ⟨0x80, 0xBF, 0, b.toNat - 0xC0⟩) := by
  rw [first, if_neg (by omega), if_neg (by omega), if_pos hhigh]

/-- The first of three bytes.  The second one must not be so small that two bytes are enough, nor
such that the character is a surrogate. -/
lemma exists_first_of_three (hlow : 0xE0 ≤ b.toNat) (hhigh : b.toNat < 0xF0)
    (hlong : b.toNat = 0xE0 → 32 ≤ n % 64) (hscalar : b.toNat = 0xED → n % 64 < 32) :
    ∃ low high, first b = ([], some ⟨low, high, 1, b.toNat - 0xE0⟩) ∧
      low.toNat ≤ n % 64 + 128 ∧ n % 64 + 128 ≤ high.toNat := by
  have hlt : n % 64 < 64 := Nat.mod_lt n (by decide)
  rw [first, if_neg (by omega), if_neg (by omega), if_neg (by omega)]
  split
  · next h =>
    have := hlong h
    exact ⟨0xA0, 0xBF, by rw [h], show 160 ≤ _ by omega, show _ ≤ 191 by omega⟩
  split
  · next h =>
    have := hscalar h
    exact ⟨0x80, 0x9F, by rw [h], show 128 ≤ _ by omega, show _ ≤ 159 by omega⟩
  · exact ⟨0x80, 0xBF, rfl, show 128 ≤ _ by omega, show _ ≤ 191 by omega⟩

/-- The first of four bytes.  The second one must not be so small that three bytes are enough, nor
such that there is no character of that number. -/
lemma exists_first_of_four (hlow : 0xF0 ≤ b.toNat) (hhigh : b.toNat ≤ 0xF4)
    (hlong : b.toNat = 0xF0 → 16 ≤ n % 64) (hlast : b.toNat = 0xF4 → n % 64 < 16) :
    ∃ low high, first b = ([], some ⟨low, high, 2, b.toNat - 0xF0⟩) ∧
      low.toNat ≤ n % 64 + 128 ∧ n % 64 + 128 ≤ high.toNat := by
  have hlt : n % 64 < 64 := Nat.mod_lt n (by decide)
  rw [first, if_neg (by omega), if_neg (by omega), if_neg (by omega), if_neg (by omega),
    if_neg (by omega), if_neg (by omega)]
  split
  · next h =>
    have := hlong h
    exact ⟨0x90, 0xBF, by rw [h], show 144 ≤ _ by omega, show _ ≤ 191 by omega⟩
  split
  · exact ⟨0x80, 0xBF, rfl, show 128 ≤ _ by omega, show _ ≤ 191 by omega⟩
  · have h : b.toNat = 0xF4 := by omega
    have := hlast h
    rw [if_pos h]
    exact ⟨0x80, 0x8F, by rw [h], show 128 ≤ _ by omega, show _ ≤ 143 by omega⟩

/-- The bytes of a character are read as the character, whatever follows. -/
lemma decodeFrom_utf8EncodeChar (c : Char) (bs : List UInt8) :
    decodeFrom none (String.utf8EncodeChar c ++ bs) = c :: decodeFrom none bs := by
  have hscalar : c.toNat < 0xD800 ∨ 0xDFFF < c.toNat ∧ c.toNat < 0x110000 := c.valid
  have hchar : ∀ n, n = c.toNat → Char.ofNat n = c := fun n hn => hn ▸ Char.ofNat_toNat c
  have hbyte : ∀ n < 256, (UInt8.ofNat n).toNat = n := fun n hn => UInt8.toNat_ofNat_of_lt' hn
  have hfirst : ∀ b bs, decodeFrom none (b :: bs) = (first b).1 ++ decodeFrom (first b).2 bs :=
    fun b bs => rfl
  have htail : ∀ n, 128 ≤ n % 64 + 128 ∧ n % 64 + 128 ≤ 191 := fun n => by omega
  have hval : c.val.toNat = c.toNat := rfl
  generalize c.toNat = v at *
  unfold String.utf8EncodeChar
  simp only [hval]
  split
  · next h =>
    have hlead : (UInt8.ofNat v).toNat = v := hbyte v (by omega)
    rw [List.singleton_append, hfirst, first, if_pos (by omega), hlead, hchar v rfl]
    rfl
  split
  · next h₁ h₂ =>
    have hlead : (UInt8.ofNat (v / 64 % 0x20 + 0xC0)).toNat = v / 64 + 0xC0 := by
      rw [hbyte _ (by omega)]
      omega
    rw [List.cons_append, List.singleton_append, hfirst, first_of_two (by omega) (by omega), hlead]
    exact (decodeFrom_last (htail v).1 (htail v).2 bs).trans (by rw [hchar _ (by omega)])
  split
  · next h₁ h₂ h₃ =>
    have hlead : (UInt8.ofNat (v / 4096 % 0x10 + 0xE0)).toNat = v / 4096 + 0xE0 := by
      rw [hbyte _ (by omega)]
      omega
    obtain ⟨low, high, heq, hlow, hhigh⟩ := exists_first_of_three
      (b := UInt8.ofNat (v / 4096 % 0x10 + 0xE0)) (n := v / 64)
      (by omega) (by omega) (by omega) (by omega)
    rw [List.cons_append, List.cons_append, List.singleton_append, hfirst, heq, hlead]
    refine (decodeFrom_more hlow hhigh _).trans
      ((decodeFrom_last (htail v).1 (htail v).2 bs).trans ?_)
    rw [hchar _ (by omega)]
  · next h₁ h₂ h₃ =>
    have hlead : (UInt8.ofNat (v / 262144 % 0x08 + 0xF0)).toNat = v / 262144 + 0xF0 := by
      rw [hbyte _ (by omega)]
      omega
    obtain ⟨low, high, heq, hlow, hhigh⟩ := exists_first_of_four
      (b := UInt8.ofNat (v / 262144 % 0x08 + 0xF0)) (n := v / 4096)
      (by omega) (by omega) (by omega) (by omega)
    rw [List.cons_append, List.cons_append, List.cons_append, List.singleton_append, hfirst, heq,
      hlead]
    refine (decodeFrom_more hlow hhigh _).trans
      ((decodeFrom_more (htail _).1 (htail _).2 _).trans
        ((decodeFrom_last (htail v).1 (htail v).2 bs).trans ?_))
    rw [hchar _ (by omega)]

/-- **A text is read back from its bytes.** -/
theorem decode_encode (cs : List Char) : decode (encode cs) = cs := by
  induction cs with
  | nil => rfl
  | cons c cs ih =>
    rw [decode, encode, List.flatMap_cons, decodeFrom_utf8EncodeChar]
    exact congrArg (c :: ·) ih

/-- The only byte of an ASCII character is its number. -/
lemma utf8EncodeChar_of_lt {c : Char} (h : c.toNat < 0x80) :
    String.utf8EncodeChar c = [UInt8.ofNat c.toNat] :=
  if_pos (Nat.le_of_lt_succ h)

end Utf8

/-! ## UTF-16 -/

namespace Utf16

/-- The units that bytes are, the high byte of each first. -/
def ofBytes? : List UInt8 → Option (List UInt16)
  | [] => some []
  | [_] => none
  | high :: low :: bs =>
    (ofBytes? bs).map (UInt16.ofNat (256 * high.toNat + low.toNat) :: ·)

/-- The text of units.  A unit from `0xD800` to `0xDBFF` must stand before one from `0xDC00` to
`0xDFFF`, and the other way round; the two are one character. -/
def ofUnits? : List UInt16 → Option (List Char)
  | [] => some []
  | [u] =>
    if u.toNat < 0xD800 ∨ 0xE000 ≤ u.toNat then some [Char.ofNat u.toNat] else none
  | u :: v :: us =>
    if u.toNat < 0xD800 ∨ 0xE000 ≤ u.toNat then
      (ofUnits? (v :: us)).map (Char.ofNat u.toNat :: ·)
    else if u.toNat < 0xDC00 ∧ 0xDC00 ≤ v.toNat ∧ v.toNat < 0xE000 then
      (ofUnits? us).map
        (Char.ofNat (0x10000 + 0x400 * (u.toNat - 0xD800) + (v.toNat - 0xDC00)) :: ·)
    else none

/-- The text of bytes, the high byte of each unit first. -/
def decode? (bs : List UInt8) : Option (List Char) := (ofBytes? bs).bind ofUnits?

/-- The bytes of units are read as these units. -/
lemma ofBytes?_flatMap_bytes (us : List UInt16) : ofBytes? (us.flatMap bytes) = some us := by
  induction us with
  | nil => rfl
  | cons u us ih =>
    have hlt : u.toNat < 65536 := u.toNat_lt
    have hhigh : (UInt8.ofNat (u.toNat / 256)).toNat = u.toNat / 256 :=
      UInt8.toNat_ofNat_of_lt' (by rw [UInt8.size]; omega)
    have hlow : (UInt8.ofNat (u.toNat % 256)).toNat = u.toNat % 256 :=
      UInt8.toNat_ofNat_of_lt' (by rw [UInt8.size]; omega)
    have hunit : UInt16.ofNat (256 * (u.toNat / 256) + u.toNat % 256) = u := by
      rw [Nat.div_add_mod, UInt16.ofNat_toNat]
    rw [List.flatMap_cons, bytes, List.cons_append, List.singleton_append, ofBytes?, ih, hhigh,
      hlow, hunit]
    rfl

/-- A unit that is a character of its own. -/
lemma ofUnits?_cons {u : UInt16} (h : u.toNat < 0xD800 ∨ 0xE000 ≤ u.toNat) (us : List UInt16) :
    ofUnits? (u :: us) = (ofUnits? us).map (Char.ofNat u.toNat :: ·) := by
  cases us with
  | nil => exact if_pos h
  | cons v us => rw [ofUnits?, if_pos h]

/-- The units of a character are read as the character, whatever follows. -/
lemma ofUnits?_units (c : Char) (us : List UInt16) :
    ofUnits? (units c ++ us) = (ofUnits? us).map (c :: ·) := by
  have hscalar : c.toNat < 0xD800 ∨ 0xDFFF < c.toNat ∧ c.toNat < 0x110000 := c.valid
  have hunit : ∀ n < 65536, (UInt16.ofNat n).toNat = n := fun n hn =>
    UInt16.toNat_ofNat_of_lt' hn
  rw [units]
  split
  · next h =>
    have hone : (UInt16.ofNat c.toNat).toNat = c.toNat := hunit _ h
    rw [List.singleton_append, ofUnits?_cons (by omega), hone, Char.ofNat_toNat]
  · next h =>
    have hhigh := hunit (0xD800 + (c.toNat - 0x10000) / 0x400) (by omega)
    have hlow := hunit (0xDC00 + (c.toNat - 0x10000) % 0x400) (by omega)
    have hnumber : 0x10000 + 0x400 * ((c.toNat - 0x10000) / 0x400) +
        (c.toNat - 0x10000) % 0x400 = c.toNat := by omega
    rw [List.cons_append, List.singleton_append, ofUnits?, if_neg (by omega), if_pos (by omega),
      hhigh, hlow, Nat.add_sub_cancel_left, Nat.add_sub_cancel_left, hnumber, Char.ofNat_toNat]

/-- **A text is read back from its bytes.** -/
theorem decode?_encode (cs : List Char) : decode? (encode cs) = some cs := by
  have hunits : ofUnits? (cs.flatMap units) = some cs := by
    induction cs with
    | nil => rfl
    | cons c cs ih => rw [List.flatMap_cons, ofUnits?_units, ih]; rfl
  rw [decode?, encode, ← List.flatMap_assoc, ofBytes?_flatMap_bytes, Option.bind_some, hunits]

end Utf16

/-! ## Percent coding -/

namespace Percent

/-- A character other than a percent sign stands for its own bytes. -/
lemma bytes_cons {c : Char} (hc : c ≠ '%') (cs : List Char) :
    bytes (c :: cs) = String.utf8EncodeChar c ++ bytes cs := by
  rw [bytes]
  exact fun h l cs heq => absurd heq hc

/-- A byte that stands for itself is an ASCII character and no percent sign. -/
lemma isSafe_iff {b : UInt8} : isSafe b = true ↔ b.toNat < 0x80 ∧
    ((Char.ofNat b.toNat).isAlphanum = true ∨ Char.ofNat b.toNat ∈ ['.', '_', '-']) := by
  simp [isSafe, or_assoc]

/-- A byte that stands for itself is no other sign. -/
lemma ne_of_isSafe {b : UInt8} {c : Char} (h : isSafe b = true) (halnum : c.isAlphanum = false)
    (hsign : c ∉ ['.', '_', '-']) : Char.ofNat b.toNat ≠ c := by
  rintro rfl
  rcases (isSafe_iff.1 h).2 with hchar | hchar
  · exact Bool.false_ne_true (halnum.symm.trans hchar)
  · exact hsign hchar

/-- Two digits are read as the byte of that number. -/
lemma bytes_digits {b : UInt8} {h l : Char} (hh : Text.hexValue? h = some (b.toNat / 16))
    (hl : Text.hexValue? l = some (b.toNat % 16)) (cs : List Char) :
    bytes ('%' :: h :: l :: cs) = b :: bytes cs := by
  have hbyte : byte? h l = some b := by
    rw [byte?, hh, hl]
    exact congrArg some (by rw [Nat.div_add_mod, UInt8.ofNat_toNat])
  rw [bytes, hbyte]

/-- A byte is read as it was written, whatever follows. -/
lemma bytes_escape (b : UInt8) (cs : List Char) : bytes (escape b ++ cs) = b :: bytes cs := by
  have hlt : b.toNat < 256 := b.toNat_lt
  rw [escape]
  split
  · next h =>
    have hascii := (isSafe_iff.1 h).1
    have hnumber : (Char.ofNat b.toNat).toNat = b.toNat := by
      rw [Char.ofNat, dif_pos (.inl (by omega))]
      rfl
    rw [List.singleton_append, bytes_cons (ne_of_isSafe h (by decide) (by decide)),
      Utf8.utf8EncodeChar_of_lt (by omega), hnumber, UInt8.ofNat_toNat]
    rfl
  · exact bytes_digits (Text.hexValue?_hexDigitUpper _ (by omega))
      (Text.hexValue?_hexDigitUpper _ (by omega)) cs

/-- **A text is read back from its percent coded form.** -/
theorem decode_encode (s : String) : decode (encode s) = s := by
  have hbytes : ∀ bs : List UInt8, bytes (bs.flatMap escape) = bs := fun bs => by
    induction bs with
    | nil => rfl
    | cons b bs ih => rw [List.flatMap_cons, bytes_escape, ih]
  rw [decode, encode, String.toList_ofList, hbytes, Utf8.decode_encode, String.ofList_toList]

end Percent

end ChartQuery
