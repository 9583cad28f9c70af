import ChartQuery.Numeric.General
import ChartQuery.Proofs.SignificantDigits
import Mathlib.Data.List.DropRight

/-!
# Numbers as decimals

A decimal is written with a sign, digits before a point and after it, and possibly an exponent
(`DecimalText`).  Its text determines it (`DecimalText.text_injective`), so the text denotes one
number.

A number without a pattern is written as a decimal that denotes the number rounded to six
significant digits.  The text has an exponent where the rounded number is below `1e-4` or not below
`1e6`, and no zeros at the end of its fraction.
-/

namespace ChartQuery

open Numeric

variable {whole fraction : List Char} {num den n places : ℕ} {e : ℤ}

/-! ## Digits -/

namespace Numeric

/-- The digits of a number stand for it. -/
lemma ofDigits_digits (n : ℕ) : ofDigits (digits n) = n := Nat.ofDigitChars_ten_toDigits

/-- Digits have ten times the value for each digit behind them. -/
lemma ofDigits_append (as bs : List Char) :
    ofDigits (as ++ bs) = 10 ^ bs.length * ofDigits as + ofDigits bs :=
  (Nat.ofDigitChars_append 0).trans Nat.ofDigitChars_eq_ofDigitChars_zero

/-- Zeros stand for zero. -/
lemma ofDigits_replicate (k : ℕ) : ofDigits (List.replicate k '0') = 0 :=
  Nat.ofDigitChars_replicate_zero

/-- Zeros in front do not change a number. -/
lemma ofDigits_padded (width n : ℕ) : ofDigits (padded width n) = n := by
  rw [padded, ofDigits_append, ofDigits_replicate, ofDigits_digits, mul_zero, zero_add]

/-- The digits of a number are digits. -/
lemma isDigit_of_mem_digits {c : Char} (h : c ∈ digits n) : c.isDigit = true :=
  Nat.isDigit_of_mem_toDigits (by decide) (by decide) h

/-- Zeros in front are digits. -/
lemma isDigit_of_mem_padded {width : ℕ} {c : Char} (h : c ∈ padded width n) : c.isDigit = true := by
  rcases List.mem_append.1 h with h | h
  · obtain ⟨-, rfl⟩ := List.mem_replicate.1 h
    rfl
  · exact isDigit_of_mem_digits h

/-- Zeros are put in front of fewer digits only. -/
lemma length_padded (width n : ℕ) : (padded width n).length = max width (digits n).length := by
  rw [padded, List.length_append, List.length_replicate]
  omega

/-- A number below a power of ten has no more digits. -/
lemma length_padded_of_lt {width : ℕ} (hwidth : 0 < width) (h : n < 10 ^ width) :
    (padded width n).length = width := by
  rw [length_padded, digits, max_eq_left]
  exact (Nat.length_toDigits_le_iff (by decide) hwidth).2 h

/-- So many places after the point. -/
lemma places_spec (h : n < 10 ^ places) {ds : List Char}
    (hds : ds = if places = 0 then [] else padded places n) :
    ds.length = places ∧ ofDigits ds = n ∧ ∀ c ∈ ds, c.isDigit = true := by
  subst hds
  split_ifs with hzero
  · subst hzero
    obtain rfl : n = 0 := Nat.lt_one_iff.1 h
    exact ⟨rfl, rfl, List.forall_mem_nil _⟩
  · exact ⟨length_padded_of_lt (Nat.pos_of_ne_zero hzero) h, ofDigits_padded places n,
      fun _ => isDigit_of_mem_padded⟩

/-- The digits before and after the point are those of the rounded number. -/
lemma fixedPlaces_spec (h : fixedPlaces places num den = (whole, fraction)) :
    ofDigits (whole ++ fraction) = roundHalfEven (num * 10 ^ places) den ∧
      fraction.length = places ∧ whole ≠ [] ∧ (∀ c ∈ whole, c.isDigit = true) ∧
      ∀ c ∈ fraction, c.isDigit = true := by
  have hpow : Nat.pow 10 places = 10 ^ places := rfl
  rw [fixedPlaces, hpow, Prod.mk.injEq] at h
  generalize roundHalfEven (num * 10 ^ places) den = n at *
  obtain ⟨rfl, hfraction⟩ := h
  obtain ⟨hlength, hvalue, hdigits⟩ :=
    places_spec (Nat.mod_lt n (Nat.pow_pos (by decide))) hfraction.symm
  refine ⟨?_, hlength, Nat.toDigits_ne_nil, fun _ => isDigit_of_mem_digits, hdigits⟩
  rw [ofDigits_append, ofDigits_digits, hvalue, hlength, Nat.div_add_mod]

end Numeric

/-! ## Decimals as they are written -/

/-- An exponent as it is written: a sign and at least two digits. -/
structure ExponentText where
  negative : Bool
  digits : List Char
  two_le_length : 2 ≤ digits.length
  isDigit : ∀ c ∈ digits, c.isDigit = true

namespace ExponentText

/-- The text of an exponent. -/
def text (x : ExponentText) : List Char := 'e' :: (if x.negative then '-' else '+') :: x.digits

/-- The number that an exponent is. -/
def value (x : ExponentText) : ℤ :=
  if x.negative then -(ofDigits x.digits) else ofDigits x.digits

/-- The text of an exponent determines it. -/
lemma text_injective : Function.Injective text := by
  rintro ⟨sign, ds, hlength, hds⟩ ⟨sign', ds', hlength', hds'⟩ h
  simp only [text, List.cons.injEq, true_and] at h
  obtain ⟨hsign, rfl⟩ := h
  cases sign <;> cases sign' <;> simp_all

/-- The exponent that is written. -/
def ofInt (e : ℤ) : ExponentText where
  negative := e < 0
  digits := padded 2 e.natAbs
  two_le_length := length_padded .. ▸ le_max_left ..
  isDigit _ := isDigit_of_mem_padded

/-- An exponent is written with its sign and at least two digits. -/
lemma text_ofInt (e : ℤ) : (ofInt e).text = Binary64.generalExponent e := by
  simp [text, ofInt, Binary64.generalExponent]

/-- The exponent that is written is meant. -/
lemma value_ofInt (e : ℤ) : (ofInt e).value = e := by
  simp only [value, ofInt, ofDigits_padded, decide_eq_true_eq]
  split_ifs <;> omega

end ExponentText

/-- A decimal as it is written: a sign, digits before the point and after it, and possibly an
exponent. -/
structure DecimalText where
  negative : Bool
  whole : List Char
  fraction : List Char
  exponent? : Option ExponentText
  whole_ne_nil : whole ≠ []
  isDigit_whole : ∀ c ∈ whole, c.isDigit = true
  isDigit_fraction : ∀ c ∈ fraction, c.isDigit = true

namespace DecimalText

/-- The text after the digits before the point.  There is no point without digits after it. -/
def tail (fraction : List Char) (exponent? : Option ExponentText) : List Char :=
  (if fraction.isEmpty then [] else '.' :: fraction) ++ exponent?.elim [] ExponentText.text

/-- The text without the sign. -/
def unsigned (d : DecimalText) : List Char := d.whole ++ tail d.fraction d.exponent?

/-- The text of a decimal. -/
def text (d : DecimalText) : String :=
  (if d.negative then "-" else "") ++ String.ofList d.unsigned

/-- The number that a decimal without its sign denotes. -/
def magnitude (d : DecimalText) : ℚ :=
  ofDigits (d.whole ++ d.fraction) *
    10 ^ (d.exponent?.elim 0 ExponentText.value - d.fraction.length)

/-- The number that a decimal denotes. -/
def value (d : DecimalText) : ℚ := if d.negative then -d.magnitude else d.magnitude

/-- What stands behind digits is told from them by its first character. -/
lemma append_inj_of_isDigit {as bs as' bs' : List Char} (has : ∀ c ∈ as, c.isDigit = true)
    (has' : ∀ c ∈ as', c.isDigit = true) (hbs : ∀ c ∈ bs.head?, c.isDigit = false)
    (hbs' : ∀ c ∈ bs'.head?, c.isDigit = false) (h : as ++ bs = as' ++ bs') :
    as = as' ∧ bs = bs' := by
  have htake {ds rest : List Char} (hds : ∀ c ∈ ds, c.isDigit = true)
      (hrest : ∀ c ∈ rest.head?, c.isDigit = false) :
      (ds ++ rest).takeWhile Char.isDigit = ds := by
    rw [List.takeWhile_append_of_pos hds]
    cases rest with
    | nil => exact List.append_nil ds
    | cons c cs => rw [List.takeWhile_cons_of_neg (by simp [hrest c rfl]), List.append_nil]
  have hdigits : as = as' := by rw [← htake has hbs, h, htake has' hbs']
  exact ⟨hdigits, List.append_cancel_left (hdigits ▸ h)⟩

/-- An exponent begins with its letter. -/
lemma isDigit_of_mem_head?_exponent {x? : Option ExponentText} {c : Char}
    (h : c ∈ (x?.elim [] ExponentText.text).head?) : c.isDigit = false := by
  cases x? with
  | none => cases h
  | some x =>
    cases h
    rfl

/-- The text of an exponent determines it, and whether there is one. -/
lemma exponent_injective : Function.Injective fun x? : Option ExponentText =>
    x?.elim [] ExponentText.text := by
  intro x? y? h
  cases x? <;> cases y?
  · rfl
  · cases h
  · cases h
  · rw [ExponentText.text_injective h]

/-- The text after the digits before the point begins with no digit. -/
lemma isDigit_of_mem_head?_tail {x? : Option ExponentText} {c : Char}
    (h : c ∈ (tail fraction x?).head?) : c.isDigit = false := by
  cases fraction with
  | nil => exact isDigit_of_mem_head?_exponent h
  | cons d ds =>
    cases h
    rfl

/-- The text after the digits before the point determines the fraction and the exponent. -/
lemma tail_inj {fraction' : List Char} {x? y? : Option ExponentText}
    (hfraction : ∀ c ∈ fraction, c.isDigit = true)
    (hfraction' : ∀ c ∈ fraction', c.isDigit = true) (h : tail fraction x? = tail fraction' y?) :
    fraction = fraction' ∧ x? = y? := by
  cases fraction with
  | nil =>
    cases fraction' with
    | nil => exact ⟨rfl, exponent_injective h⟩
    | cons d ds => cases x? <;> cases h
  | cons c cs =>
    cases fraction' with
    | nil => cases y? <;> cases h
    | cons d ds =>
      obtain ⟨hdigits, hexponent⟩ := append_inj_of_isDigit hfraction hfraction'
        (fun _ => isDigit_of_mem_head?_exponent) (fun _ => isDigit_of_mem_head?_exponent)
        (List.cons.inj h).2
      exact ⟨hdigits, exponent_injective hexponent⟩

/-- Without its sign a decimal begins with a digit. -/
lemma head?_unsigned (d : DecimalText) : ∃ c ∈ d.unsigned.head?, c.isDigit = true := by
  obtain ⟨c, cs, hcs⟩ := List.exists_cons_of_ne_nil d.whole_ne_nil
  refine ⟨c, ?_, d.isDigit_whole c (hcs ▸ List.mem_cons_self)⟩
  rw [unsigned, hcs]
  rfl

/-- The first character tells the sign. -/
lemma negative_iff (d : DecimalText) : d.negative = true ↔ d.text.toList.head? = some '-' := by
  obtain ⟨c, hc, hdigit⟩ := d.head?_unsigned
  have hminus : c ≠ '-' := by
    rintro rfl
    cases hdigit
  cases hneg : d.negative with
  | false => simp [text, hneg, Option.mem_def.1 hc, hminus]
  | true => simp [text, hneg]

/-- **The text of a decimal determines it.** -/
theorem text_injective : Function.Injective text := by
  intro d d' h
  have hsign : d.negative = d'.negative := by
    rw [Bool.eq_iff_iff, negative_iff, negative_iff, h]
  have hunsigned : d.unsigned = d'.unsigned := by
    rw [text, text, hsign] at h
    exact String.ofList_injective (String.append_right_inj _ |>.1 h)
  obtain ⟨hwhole, htail⟩ := append_inj_of_isDigit d.isDigit_whole d'.isDigit_whole
    (fun _ => isDigit_of_mem_head?_tail) (fun _ => isDigit_of_mem_head?_tail) hunsigned
  obtain ⟨hfraction, hexponent⟩ := tail_inj d.isDigit_fraction d'.isDigit_fraction htail
  cases d
  cases d'
  simp_all

/-- What is cut off at the end of a fraction are zeros, and all of them. -/
lemma exists_trimmed_eq (whole fraction : List Char) : ∃ kept k,
    fraction = kept ++ List.replicate k '0' ∧ kept.getLast? ≠ some '0' ∧
      Binary64.trimmed whole fraction = whole ++ tail kept none := by
  refine ⟨fraction.rdropWhile (· == '0'), (fraction.rtakeWhile (· == '0')).length, ?_, ?_, ?_⟩
  · have hzeros : fraction.rtakeWhile (· == '0') =
        List.replicate (fraction.rtakeWhile (· == '0')).length '0' :=
      List.eq_replicate_of_mem fun c hc => by simpa using List.mem_rtakeWhile_imp hc
    rw [← hzeros, List.rdropWhile_append_rtakeWhile]
  · intro hlast
    obtain ⟨hne, hzero⟩ := List.mem_getLast?_eq_getLast hlast
    exact List.rdropWhile_last_not _ _ hne (beq_iff_eq.2 hzero.symm)
  · rw [tail, Option.elim_none, List.append_nil]
    unfold Binary64.trimmed List.rdropWhile
    dsimp only
    split_ifs with hnone
    · exact (List.append_nil whole).symm
    · rfl

/-- Zeros at the end of a fraction do not change its value. -/
lemma value_append_replicate (ds : List Char) (e : ℤ) (places k : ℕ) :
    (ofDigits (ds ++ List.replicate k '0') : ℚ) * 10 ^ (e - (places + k : ℕ)) =
      ofDigits ds * 10 ^ (e - places) := by
  have hplaces : e - places = k + (e - (places + k : ℕ)) := by
    push_cast
    ring
  rw [ofDigits_append, ofDigits_replicate, List.length_replicate, add_zero, hplaces,
    zpow_add₀ (by norm_num), zpow_natCast]
  push_cast
  ring

/-- Digits are written as a decimal of the same value without zeros at the end of the fraction. -/
lemma exists_trimmed (negative : Bool) (x? : Option ExponentText) (hne : whole ≠ [])
    (hwhole : ∀ c ∈ whole, c.isDigit = true) (hfraction : ∀ c ∈ fraction, c.isDigit = true) :
    ∃ d : DecimalText, d.negative = negative ∧ d.exponent? = x? ∧
      d.unsigned = Binary64.trimmed whole fraction ++ x?.elim [] ExponentText.text ∧
      d.magnitude = ofDigits (whole ++ fraction) *
        10 ^ (x?.elim 0 ExponentText.value - fraction.length) ∧
      d.fraction.getLast? ≠ some '0' := by
  obtain ⟨kept, k, rfl, hlast, htrimmed⟩ := exists_trimmed_eq whole fraction
  have hkept : ∀ c ∈ kept, c.isDigit = true := fun c hc =>
    hfraction c (List.mem_append_left _ hc)
  refine ⟨⟨negative, whole, kept, x?, hne, hwhole, hkept⟩, rfl, rfl, ?_, ?_, hlast⟩
  · simp [unsigned, htrimmed, tail]
  · rw [← List.append_assoc, List.length_append, List.length_replicate, value_append_replicate]
    rfl

end DecimalText

/-! ## Six significant digits -/

/-- `IsGeneral q d`: a decimal is how a number is written with six significant digits.  It denotes
the number rounded to them.  It has an exponent exactly if the decimal exponent of the rounded
number is below -4 or at least 6, and then that one.  Its fraction does not end with a zero. -/
structure IsGeneral (q : ℚ) (d : DecimalText) : Prop where
  isRounded : IsRounded 6 q d.value
  isSome_exponent_iff : d.exponent?.isSome = true ↔
    Int.log 10 |d.value| < -4 ∨ 6 ≤ Int.log 10 |d.value|
  exponent_eq : ∀ x ∈ d.exponent?, x.value = Int.log 10 |d.value|
  fraction_last : d.fraction.getLast? ≠ some '0'

namespace DecimalText

variable {q : ℚ}

/-- The sign does not count for the magnitude. -/
lemma abs_value (d : DecimalText) : |d.value| = d.magnitude := by
  have hnonneg : 0 ≤ d.magnitude := by
    unfold magnitude
    positivity
  unfold value
  split_ifs
  · rw [abs_neg, abs_of_nonneg hnonneg]
  · exact abs_of_nonneg hnonneg

/-- A decimal with the significant digits of a positive number and the right form. -/
lemma isGeneral_of_significant {d : DecimalText} (h : Significant 6 q n e)
    (hvalue : d.magnitude = n * 10 ^ (e - 5))
    (hform : d.exponent?.isSome = true ↔ e < -4 ∨ 6 ≤ e)
    (hexponent : ∀ x ∈ d.exponent?, x.value = e) (hlast : d.fraction.getLast? ≠ some '0') :
    IsGeneral (if d.negative then -q else q) d := by
  have hplace : e + 1 - (6 : ℕ) = e - 5 := by
    push_cast
    ring
  have hlog := h.log_eq (by decide)
  have hrounded := h.isRounded
  rw [hplace, ← hvalue] at hlog hrounded
  refine ⟨?_, ?_, ?_, hlast⟩
  · unfold value
    split_ifs
    · exact hrounded.neg
    · exact hrounded
  · rw [abs_value, hlog, hform]
  · rwa [abs_value, hlog]

/-- The form with an exponent has a digit before the point. -/
lemma exists_exponential (negative : Bool) (h : Significant 6 q n e) (hform : e < -4 ∨ 6 ≤ e) :
    ∃ d : DecimalText, d.negative = negative ∧
      d.unsigned = Binary64.trimmed ((digits n).take 1) ((digits n).drop 1) ++
        Binary64.generalExponent e ∧
      IsGeneral (if negative then -q else q) d := by
  have hlength : ((digits n).drop 1).length = 5 := by
    rw [List.length_drop, h.length_digits (by decide)]
  have hne : (digits n).take 1 ≠ [] := by simp [digits, Nat.toDigits_ne_nil]
  have hwhole : ∀ c ∈ (digits n).take 1, c.isDigit = true := fun c hc =>
    isDigit_of_mem_digits (List.mem_of_mem_take hc)
  have hfraction : ∀ c ∈ (digits n).drop 1, c.isDigit = true := fun c hc =>
    isDigit_of_mem_digits (List.mem_of_mem_drop hc)
  obtain ⟨d, rfl, hexponent, htext, hvalue, hlast⟩ :=
    exists_trimmed negative (some (.ofInt e)) hne hwhole hfraction
  rw [Option.elim_some, ExponentText.text_ofInt] at htext
  rw [Option.elim_some, ExponentText.value_ofInt, List.take_append_drop, ofDigits_digits,
    hlength] at hvalue
  refine ⟨d, rfl, htext, isGeneral_of_significant h hvalue ?_ ?_ hlast⟩
  · simpa [hexponent] using hform
  · rw [hexponent]
    rintro x ⟨⟩
    exact ExponentText.value_ofInt e

/-- The form without an exponent has the places after the point that are significant, and the number
is not changed by being rounded once more. -/
lemma exists_positional (negative : Bool) (hden : 0 < den) (h : Significant 6 (num / den) n e)
    (hform : ¬(e < -4 ∨ 6 ≤ e)) (hdigits : fixedPlaces (5 - e).toNat num den = (whole, fraction)) :
    ∃ d : DecimalText, d.negative = negative ∧ d.unsigned = Binary64.trimmed whole fraction ∧
      IsGeneral (if negative then -(num / den) else num / den) d := by
  obtain ⟨hdigits, hlength, hne, hwhole, hfraction⟩ := fixedPlaces_spec hdigits
  have hround : roundHalfEven (num * 10 ^ (5 - e).toNat) den = n := by
    obtain ⟨k, rfl⟩ : ∃ k : ℕ, e = 5 - k := ⟨(5 - e).toNat, by omega⟩
    have hscaled : ((num * 10 ^ (5 - (5 - (k : ℤ))).toNat : ℕ) : ℚ) / den =
        num / den / 10 ^ ((5 : ℤ) - k + 1 - (6 : ℕ)) := by
      have hplace : (5 : ℤ) - k + 1 - (6 : ℕ) = -k := by
        push_cast
        ring
      rw [hplace, zpow_neg, zpow_natCast, div_inv_eq_mul, sub_sub_cancel, Int.toNat_natCast]
      push_cast
      ring
    exact NearestEven.roundHalfEven_eq hden (hscaled ▸ h.nearest)
  obtain ⟨d, rfl, hexponent, htext, hvalue, hlast⟩ :=
    exists_trimmed negative none hne hwhole hfraction
  rw [Option.elim_none, List.append_nil] at htext
  have hplace : 0 - ((5 - e).toNat : ℤ) = e - 5 := by omega
  rw [Option.elim_none, hdigits, hround, hlength, hplace] at hvalue
  refine ⟨d, rfl, htext, isGeneral_of_significant h hvalue ?_ ?_ hlast⟩
  · simpa [hexponent] using hform
  · rw [hexponent]
    rintro x ⟨⟩

end DecimalText

namespace Binary64

/-- A positive quotient is written with six significant digits. -/
lemma exists_decimalText (negative : Bool) (hnum : 0 < num) (hden : 0 < den) :
    ∃ d : DecimalText, d.negative = negative ∧ d.unsigned = generalMagnitude num den ∧
      IsGeneral (if negative then -(num / den) else num / den) d := by
  have hdigits : 0 < generalDigits := by decide
  have hspec := significant_spec hdigits hnum hden
  unfold generalMagnitude
  dsimp only
  by_cases hform : (significant generalDigits num den).2 < -4 ∨
      (generalDigits : ℤ) ≤ (significant generalDigits num den).2
  · rw [if_pos hform]
    exact DecimalText.exists_exponential negative hspec hform
  · rw [if_neg hform]
    exact DecimalText.exists_positional negative hden hspec hform rfl

/-- **Numbers are written with six significant digits.**  The text of a finite number other than
zero is a decimal, and whatever decimal it is read as, it is how the exact number is written with
six significant digits. -/
theorem general_spec {x : Binary64} {q : ℚ} (hx : x.amount = .exact q) (hq : q ≠ 0) :
    (∃ d : DecimalText, x.general = d.text) ∧
      ∀ d : DecimalText, x.general = d.text → IsGeneral q d := by
  obtain ⟨d, htext, hgeneral⟩ : ∃ d : DecimalText, x.general = d.text ∧ IsGeneral q d := by
    cases x with
    | nan | infinite => cases hx
    | finite negative m e =>
      obtain ⟨hden, hratio⟩ := ratio_eq m e
      cases hx
      have hm : m ≠ 0 := by
        rintro rfl
        simp at hq
      have hnum : 0 < (ratio m e).1 := by
        refine Nat.pos_of_ne_zero fun hzero => ?_
        simp [← hratio, hzero] at hq
      obtain ⟨d, rfl, hunsigned, hgeneral⟩ := exists_decimalText negative hnum hden
      rw [hratio] at hgeneral
      refine ⟨d, ?_, hgeneral⟩
      rw [general, if_neg hm, DecimalText.text, hunsigned]
  refine ⟨⟨d, htext⟩, fun d' hd' => ?_⟩
  rwa [← DecimalText.text_injective (htext.symm.trans hd')]

/-- A half that is rounded up to the next power of ten is written with an exponent, although the
number itself is below `1e6`. -/
theorem general_spec_carry : (finite false 1999999 (-1)).general = "1e+06" ∧
    IsRounded 6 (1999999 / 2) 1000000 := by
  have hamount : (finite false 1999999 (-1)).amount = .exact (1999999 / 2) := by
    norm_num [amount]
  have htext : (finite false 1999999 (-1)).general = "1e+06" := by decide +kernel
  obtain ⟨d, hd, hvalue⟩ : ∃ d : DecimalText, "1e+06" = d.text ∧ d.value = 1000000 := by
    refine ⟨⟨false, ['1'], [], some (.ofInt 6), List.cons_ne_nil _ _, by simp, by simp⟩,
      by decide +kernel, ?_⟩
    have hone : ofDigits ['1'] = 1 := rfl
    norm_num [DecimalText.value, DecimalText.magnitude, ExponentText.value_ofInt, hone]
  have hgeneral := (general_spec hamount (by norm_num)).2 d (htext.trans hd)
  exact ⟨htext, hvalue ▸ hgeneral.isRounded⟩

-- the number nearest to `-9.9999995e-5` is rounded to a power of ten that needs no exponent
example : (finite true 7378697260548939 (-66)).general = "-0.0001" := by decide +kernel

end Binary64

end ChartQuery
