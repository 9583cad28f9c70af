import ChartQuery.Proofs.ExactIntegers
import ChartQuery.Proofs.NumberTexts
import ChartQuery.Proofs.SignificantDigits

/-!
# Spelled amounts of milliseconds

A text that spells a number spells an exact amount.  In a column of dates or times it counts
milliseconds, and on its way to an instant it is rounded twice: to the nearest number of double
precision, and that to an integer.  It is an instant exactly if the amount lies in the calendar,
half a millisecond around it included (`Value.exists_ofMillis_iff`).

The second rounding changes nothing near the ends of the calendar, because they lie between `2 ^ 52`
and `2 ^ 53`, where the numbers of double precision are the integers.  Amounts that are smaller are
rounded to numbers that are not greater than `2 ^ 52`, and greater ones to numbers that are not
smaller than `2 ^ 53` (`Binary64.roundAway_le_iff`).  So the nearest integer decides, a half being
rounded to the even one: the first millisecond of the calendar is even, and the last one is odd.
-/

namespace ChartQuery

open Numeric

/-! ## Nearest integers and bounds -/

namespace NearestEven

variable {q : ℚ} {n k : ℤ}

/-- The nearest integer is not above an odd one exactly below the half behind it. -/
lemma le_iff_of_odd (hk : Odd k) (h : NearestEven q n) : n ≤ k ↔ q < k + 1 / 2 := by
  have hnear := abs_le.1 h.distance_le
  constructor
  · intro hle
    rcases hle.lt_or_eq with hlt | rfl
    · have hcast : (n : ℚ) + 1 ≤ k := by exact_mod_cast hlt
      linarith
    · have hless := h.resolve_right fun heven => Int.not_even_iff_odd.2 hk heven.2
      linarith [(abs_lt.1 hless).2]
  · intro hq
    by_contra hgt
    have hcast : (k : ℚ) + 1 ≤ n := by exact_mod_cast not_le.1 hgt
    linarith

/-- The nearest integer is not above an even one exactly up to the half behind it. -/
lemma le_iff_of_even (hk : Even k) (h : NearestEven q n) : n ≤ k ↔ q ≤ k + 1 / 2 := by
  have hnear := abs_le.1 h.distance_le
  constructor
  · intro hle
    have hcast : (n : ℚ) ≤ k := by exact_mod_cast hle
    linarith
  · intro hq
    by_contra hgt
    rcases (Int.add_one_le_of_lt (not_le.1 hgt)).lt_or_eq with hlt | rfl
    · have hcast : (k : ℚ) + 1 + 1 ≤ n := by exact_mod_cast Int.add_one_le_of_lt hlt
      linarith
    · have hless := h.resolve_right fun heven => Int.not_even_iff_odd.2 hk.add_one heven.2
      push_cast at hless
      linarith [(abs_lt.1 hless).1]

end NearestEven

/-- Rounding does not lead beyond an integer. -/
lemma roundAway_le {q : ℚ} {n : ℤ} (h : q ≤ n) : roundAway q ≤ n := by
  rw [← roundAway_intCast n]
  unfold roundAway
  split_ifs with hq hn hn
  · exact Int.floor_le_floor (by linarith)
  · exact absurd (hq.trans h) hn
  · have hceil : ⌈q - 1 / 2⌉ ≤ 0 := Int.ceil_le.2 (by push_cast; linarith)
    exact hceil.trans (Int.floor_nonneg.2 (by linarith))
  · exact Int.ceil_le_ceil (by linarith)

/-- An integer below a number is not above what the number is rounded to. -/
lemma le_roundAway {q : ℚ} {n : ℤ} (h : n ≤ q) : n ≤ roundAway q := by
  have hneg := roundAway_le (q := -q) (n := -n) (by push_cast; linarith)
  rw [roundAway_neg] at hneg
  omega

/-! ## Rounding twice -/

namespace Binary64

variable {num den : ℕ} {n k : ℤ}

/-- The number nearest to a quotient is a multiple of its unit, the nearest one, or infinite. -/
lemma exists_amount_ofRatio (negative : Bool) (hnum : 0 < num) (hden : 0 < den) :
    ∃ (m : ℕ) (e : ℤ), e = max (Int.log 2 ((num : ℚ) / den) - 52) minExponent ∧
      NearestEven ((num : ℚ) / den / 2 ^ e) m ∧
        ((ofRatio negative num den).amount =
            .exact (if negative then -(m * 2 ^ e) else m * 2 ^ e) ∨
          (ofRatio negative num den).amount = .infinite negative ∧ maxExponent ≤ e) := by
  have hfit := fittingExponent_eq hnum hden
  rw [ofRatio, if_neg hnum.ne']
  dsimp only
  generalize fittingExponent num den = e at *
  obtain ⟨hunit, hratio⟩ := ratio_eq 1 e
  rw [Nat.cast_one, one_mul] at hratio
  have hpos : 0 < (ratio 1 e).1 := by
    rw [Nat.pos_iff_ne_zero]
    intro hzero
    have htwo : (2 : ℚ) ^ e ≠ 0 := zpow_ne_zero e two_ne_zero
    rw [hzero, Nat.cast_zero, zero_div] at hratio
    exact htwo hratio.symm
  have hquotient : ((num * (ratio 1 e).2 : ℕ) : ℚ) / (den * (ratio 1 e).1 : ℕ) =
      (num : ℚ) / den / 2 ^ e := by
    rw [← hratio, Nat.cast_mul, Nat.cast_mul, mul_div_mul_comm, div_div_eq_mul_div, mul_div_assoc]
  have hnear := nearestEven_roundHalfEven (num * (ratio 1 e).2) (Nat.mul_pos hden hpos)
  rw [hquotient] at hnear
  refine ⟨_, e, hfit, hnear, ?_⟩
  generalize roundHalfEven (num * (ratio 1 e).2) (den * (ratio 1 e).1) = m at *
  by_cases hcarry : m = Nat.pow 2 53
  · have hvalue : (m : ℚ) * 2 ^ e = (Nat.pow 2 52 : ℕ) * 2 ^ (e + 1) := by
      rw [hcarry, zpow_add_one₀ two_ne_zero]
      norm_num
      ring
    rw [if_pos hcarry]
    dsimp only
    by_cases hmax : maxExponent < e + 1
    · rw [if_pos hmax]
      exact .inr ⟨rfl, Int.lt_add_one_iff.1 hmax⟩
    · rw [if_neg hmax, amount, hvalue]
      exact .inl rfl
  · rw [if_neg hcarry]
    dsimp only
    by_cases hmax : maxExponent < e
    · rw [if_pos hmax]
      exact .inr ⟨rfl, hmax.le⟩
    · rw [if_neg hmax]
      exact .inl rfl

/-- A number below `2 ^ 52` is rounded to one that is not above it. -/
lemma mantissa_mul_le {m : ℕ} {q : ℚ} {e : ℤ} (he : e ≤ 0) (hm : NearestEven (q / 2 ^ e) m)
    (hq : q ≤ 2 ^ 52) : (m : ℚ) * 2 ^ e ≤ 2 ^ 52 := by
  obtain ⟨j, rfl⟩ : ∃ j : ℕ, e = -j := ⟨(-e).toNat, by omega⟩
  have hunit : (0 : ℚ) < 2 ^ j := by positivity
  rw [zpow_neg, zpow_natCast] at hm ⊢
  have hle : (m : ℤ) ≤ 2 ^ 52 * 2 ^ j := by
    refine hm.le_of_ge ?_
    rw [div_inv_eq_mul]
    push_cast
    exact mul_le_mul_of_nonneg_right hq hunit.le
  have hcast : (m : ℚ) ≤ 2 ^ 52 * 2 ^ j := by exact_mod_cast hle
  rwa [← div_eq_mul_inv, div_le_iff₀ hunit]

/-- A number from `2 ^ 53` is rounded to one that is not below it. -/
lemma le_mantissa_mul {m : ℕ} {q : ℚ} {e : ℤ} (he : 1 ≤ e) (hm : NearestEven (q / 2 ^ e) m)
    (hq : 2 ^ 52 ≤ q / 2 ^ e) : 2 ^ 53 ≤ (m : ℚ) * 2 ^ e := by
  have hle : 2 ^ 52 ≤ (m : ℤ) := hm.le_of_le (by push_cast; exact hq)
  have hcast : (2 : ℚ) ^ 52 ≤ m := by exact_mod_cast hle
  have hunit : (2 : ℚ) ^ (1 : ℤ) ≤ 2 ^ e := zpow_le_zpow_right₀ one_le_two he
  calc (2 : ℚ) ^ 53 = 2 ^ 52 * 2 ^ (1 : ℤ) := by norm_num
    _ ≤ (m : ℚ) * 2 ^ e := mul_le_mul hcast hunit (by positivity) (by positivity)

/-- The numbers of double precision from `2 ^ 52` to `2 ^ 53` are the integers, so a bound between
these is not passed by rounding twice unless it is passed by rounding once. -/
lemma roundAway_le_iff {m : ℕ} {q : ℚ} {e : ℤ} (hq : 0 < q)
    (he : e = max (Int.log 2 q - 52) minExponent) (hm : NearestEven (q / 2 ^ e) m)
    (hk : 2 ^ 52 ≤ k ∧ k < 2 ^ 53) (hn : NearestEven q n) :
    roundAway (m * 2 ^ e) ≤ k ↔ n ≤ k := by
  have hlow : (2 : ℚ) ^ Int.log 2 q ≤ q := by exact_mod_cast Int.zpow_log_le_self one_lt_two hq
  have hhigh : q < (2 : ℚ) ^ (Int.log 2 q + 1) := by
    exact_mod_cast Int.lt_zpow_succ_log_self one_lt_two q
  unfold minExponent at he
  rcases lt_trichotomy (Int.log 2 q) 52 with hsmall | hlog | hlarge
  · -- the number is small, and so are both that it is rounded to
    have hbound : q ≤ (2 ^ 52 : ℤ) := by
      push_cast
      calc q ≤ 2 ^ (Int.log 2 q + 1) := hhigh.le
        _ ≤ 2 ^ (52 : ℤ) := zpow_le_zpow_right₀ one_le_two (by omega)
        _ = 2 ^ 52 := by norm_num
    have hround : roundAway (m * 2 ^ e) ≤ 2 ^ 52 :=
      roundAway_le (by push_cast at hbound ⊢; exact mantissa_mul_le (by omega) hm hbound)
    exact iff_of_true (hround.trans hk.1) ((hn.le_of_ge hbound).trans hk.1)
  · -- the unit is one, and the nearest integer is the only one
    have hone : e = 0 := by omega
    rw [hone, zpow_zero, div_one] at hm
    have hround : roundAway m = m := by exact_mod_cast roundAway_intCast m
    rw [hone, zpow_zero, mul_one, hround, hm.unique hn]
  · -- the number is large, and so are both that it is rounded to
    have hunit : e = Int.log 2 q - 52 := by omega
    have hpos : (0 : ℚ) < 2 ^ e := by positivity
    have hscaled : 2 ^ 52 ≤ q / 2 ^ e := by
      rw [le_div_iff₀ hpos, hunit]
      calc (2 : ℚ) ^ 52 * 2 ^ (Int.log 2 q - 52) = 2 ^ Int.log 2 q := by
            rw [← zpow_natCast, ← zpow_add₀ two_ne_zero]
            congr 1
            push_cast
            omega
        _ ≤ q := hlow
    have hbound : (2 ^ 53 : ℤ) ≤ q := by
      push_cast
      calc (2 : ℚ) ^ 53 = 2 ^ (53 : ℤ) := by norm_num
        _ ≤ 2 ^ Int.log 2 q := zpow_le_zpow_right₀ one_le_two (by omega)
        _ ≤ q := hlow
    have hround : 2 ^ 53 ≤ roundAway (m * 2 ^ e) :=
      le_roundAway (by push_cast; exact le_mantissa_mul (by omega) hm hscaled)
    have hnear := hn.le_of_le hbound
    exact iff_of_false (by omega) (by omega)

end Binary64

/-! ## The calendar -/

/-- The exact amount with a sign. -/
def Amount.signed (negative : Bool) (q : ℚ) : Amount := .exact (if negative then -q else q)

/-- The amount that a magnitude with its sign is. -/
def Numeral.Magnitude.amount (negative : Bool) : Magnitude → Amount
  | decimal d => .signed negative (d.coefficient * 10 ^ d.exponent)
  | infinite => .infinite negative
  | undefined => .undefined

namespace Amount

variable {negative : Bool} {q : ℚ} {n : ℤ}

/-- An amount of milliseconds that lies in the calendar, half a millisecond around it included.
What is no number counts as zero milliseconds. -/
def InCalendar : Amount → Prop
  | undefined => True
  | infinite _ => False
  | exact q => Instant.firstMillis - 1 / 2 ≤ q ∧ q < Instant.lastMillis + 1 / 2

/-- The last millisecond of the calendar on either side of zero. -/
def reach (negative : Bool) : ℤ := if negative then -Instant.firstMillis else Instant.lastMillis

/-- The calendar ends between `2 ^ 52` and `2 ^ 53` milliseconds on both sides. -/
lemma reach_bounds (negative : Bool) : 2 ^ 52 ≤ reach negative ∧ reach negative < 2 ^ 53 := by
  cases negative <;> decide

/-- Nothing infinite becomes an instant. -/
lemma not_becomes_infinite (negative : Bool) : ¬ ∃ i, (infinite negative).Becomes i := by
  rintro ⟨i, hi⟩
  exact hi

/-- An exact number becomes an instant if it is not rounded to an integer beyond the calendar. -/
lemma exists_becomes_iff (hq : 0 ≤ q) :
    (∃ i, (signed negative q).Becomes i) ↔ roundAway q ≤ reach negative := by
  have hnonneg : 0 ≤ roundAway q := le_roundAway (by exact_mod_cast hq)
  refine Instant.exists_liesAt_iff.trans ?_
  cases negative with
  | false =>
    simp only [reach, Bool.false_eq_true, if_false, Instant.firstMillis, Instant.lastMillis]
    omega
  | true =>
    rw [if_pos rfl, roundAway_neg]
    simp only [reach, if_true, Instant.firstMillis, Instant.lastMillis]
    omega

/-- An exact number lies in the calendar if its nearest integer does. -/
lemma inCalendar_iff (hq : 0 ≤ q) (hn : NearestEven q n) :
    (signed negative q).InCalendar ↔ n ≤ reach negative := by
  cases negative with
  | false =>
    rw [reach, hn.le_iff_of_odd (by decide)]
    simp only [signed, InCalendar, Bool.false_eq_true, if_false, Instant.firstMillis,
      Instant.lastMillis]
    refine and_iff_right ?_
    push_cast
    linarith
  | true =>
    rw [reach, hn.le_iff_of_even (by decide)]
    simp only [signed, InCalendar, if_true, Instant.firstMillis, Instant.lastMillis]
    push_cast
    constructor
    · rintro ⟨hfirst, -⟩
      linarith
    · intro hfirst
      constructor <;> linarith

/-- A number up to `2 ^ 52` lies in the calendar on both sides. -/
lemma inCalendar_of_le (hq : 0 ≤ q) (hle : q ≤ 2 ^ 52) :
    (signed negative q).InCalendar := by
  cases negative with
  | false =>
    simp only [signed, InCalendar, Bool.false_eq_true, if_false, Instant.firstMillis,
      Instant.lastMillis]
    constructor <;> push_cast <;> linarith
  | true =>
    simp only [signed, InCalendar, if_true, Instant.firstMillis, Instant.lastMillis]
    constructor <;> push_cast <;> linarith

/-- A number from `2 ^ 53` is beyond the calendar on both sides. -/
lemma not_inCalendar (hq : 2 ^ 53 ≤ q) :
    ¬ (signed negative q).InCalendar := by
  rintro ⟨hfirst, hlast⟩
  simp only [Instant.firstMillis, Instant.lastMillis] at hfirst hlast
  push_cast at hfirst hlast
  cases negative with
  | false =>
    rw [if_neg Bool.false_ne_true] at hlast
    linarith
  | true =>
    rw [if_pos rfl] at hfirst
    linarith

end Amount

namespace Binary64

open Amount

variable {num den : ℕ} {negative : Bool}

/-- A zero is the beginning of 1970. -/
lemma exists_becomes_zero (negative : Bool) : ∃ i, (zero negative).amount.Becomes i := by
  have hround : roundAway 0 = 0 := by exact_mod_cast roundAway_intCast 0
  have hreach := reach_bounds negative
  simp only [zero, amount, Nat.cast_zero, zero_mul]
  exact (exists_becomes_iff le_rfl).2 (by omega)

/-- **The number nearest to a quotient** becomes an instant exactly if the quotient lies in the
calendar. -/
theorem exists_becomes_ofRatio (hden : 0 < den) :
    (∃ i, (ofRatio negative num den).amount.Becomes i) ↔
      (signed negative (num / den)).InCalendar := by
  have hnonneg : (0 : ℚ) ≤ num / den := by positivity
  rcases Nat.eq_zero_or_pos num with rfl | hnum
  · rw [ofRatio, if_pos rfl]
    refine iff_of_true (exists_becomes_zero negative) (inCalendar_of_le hnonneg ?_)
    rw [Nat.cast_zero, zero_div]
    norm_num
  · have hpos : (0 : ℚ) < num / den := by positivity
    obtain ⟨m, e, he, hm, hvalue⟩ := exists_amount_ofRatio negative hnum hden
    rcases hvalue with hexact | ⟨hinfinite, hmax⟩
    · have hn := nearestEven_roundHalfEven num hden
      rw [hexact, inCalendar_iff hnonneg hn]
      refine (exists_becomes_iff (by positivity)).trans ?_
      exact roundAway_le_iff hpos he hm (reach_bounds negative) hn
    · rw [hinfinite]
      refine iff_of_false (not_becomes_infinite negative) (not_inCalendar ?_)
      have hlow : (2 : ℚ) ^ Int.log 2 ((num : ℚ) / den) ≤ num / den := by
        exact_mod_cast Int.zpow_log_le_self one_lt_two hpos
      unfold maxExponent at hmax
      unfold minExponent at he
      calc (2 : ℚ) ^ 53 = 2 ^ (53 : ℤ) := by norm_num
        _ ≤ 2 ^ Int.log 2 ((num : ℚ) / den) := zpow_le_zpow_right₀ one_le_two (by omega)
        _ ≤ num / den := hlow

/-- **The number nearest to a decimal** becomes an instant exactly if the decimal lies in the
calendar. -/
theorem exists_becomes_ofDecimal (d : Decimal) :
    (∃ i, (ofDecimal negative d).amount.Becomes i) ↔
      (signed negative (d.coefficient * 10 ^ d.exponent)).InCalendar := by
  have hnonneg : (0 : ℚ) ≤ d.coefficient * 10 ^ d.exponent := by positivity
  unfold ofDecimal
  dsimp only
  rcases Nat.eq_zero_or_pos d.coefficient with hzero | hpos
  · rw [if_pos hzero]
    refine iff_of_true (exists_becomes_zero negative) (inCalendar_of_le hnonneg ?_)
    rw [hzero, Nat.cast_zero, zero_mul]
    norm_num
  obtain ⟨k, hlength, hlow, hhigh⟩ := exists_length_digits hpos
  have hplaces (j : ℕ) : (10 : ℚ) ^ j * 10 ^ d.exponent = 10 ^ (j + d.exponent) := by
    rw [zpow_add₀ (by norm_num), zpow_natCast]
  have hunit : (0 : ℚ) < 10 ^ d.exponent := by positivity
  rw [if_neg hpos.ne', hlength]
  split_ifs with hhuge htiny
  · -- the first digit is far to the left
    refine iff_of_false (not_becomes_infinite negative) (not_inCalendar ?_)
    have hcast : (10 : ℚ) ^ k ≤ d.coefficient := by exact_mod_cast hlow
    calc (2 : ℚ) ^ 53 ≤ 10 ^ (53 : ℤ) := by norm_num
      _ ≤ 10 ^ (k + d.exponent) := zpow_le_zpow_right₀ (by norm_num) (by push_cast at hhuge; omega)
      _ = 10 ^ k * 10 ^ d.exponent := (hplaces k).symm
      _ ≤ d.coefficient * 10 ^ d.exponent := by gcongr
  · -- the first digit is far to the right
    refine iff_of_true (exists_becomes_zero negative) (inCalendar_of_le hnonneg ?_)
    have hcast : (d.coefficient : ℚ) ≤ 10 ^ (k + 1) := by exact_mod_cast hhigh.le
    calc (d.coefficient : ℚ) * 10 ^ d.exponent ≤ 10 ^ (k + 1) * 10 ^ d.exponent := by gcongr
      _ = 10 ^ ((k + 1 : ℕ) + d.exponent) := hplaces (k + 1)
      _ ≤ 10 ^ (0 : ℤ) := zpow_le_zpow_right₀ (by norm_num) (by omega)
      _ ≤ 2 ^ 52 := by norm_num
  · obtain ⟨hden, hratio⟩ := powerOfTen_eq d.exponent
    rw [exists_becomes_ofRatio hden, Nat.cast_mul, mul_div_assoc, hratio]

end Binary64

/-- **A spelled number of milliseconds** is an instant exactly if it lies in the calendar. -/
theorem Value.exists_ofMillis_iff {negative : Bool} {m : Numeral.Magnitude} :
    (∃ i, ofMillis (m.toBinary64 negative).toInt64 = .ok i) ↔ (m.amount negative).InCalendar := by
  simp only [ofMillis_toInt64_eq_ok_iff]
  cases m with
  | decimal d => exact Binary64.exists_becomes_ofDecimal d
  | infinite => exact iff_of_false (Amount.not_becomes_infinite negative) id
  | undefined => exact iff_of_true ⟨_, rfl⟩ trivial

end ChartQuery
