import ChartQuery.Proofs.NearestEven

/-!
# Significant digits

The place value of the last of so many significant digits follows from the decimal logarithm of a
number.  To round the number to them is to round it to a multiple of that place value
(`IsRounded`).

Rounding up may end at the next power of ten, whose last significant digit has ten times the place
value.  The power of ten is then nearest among the multiples of the greater place value, too
(`Significant.nearest`).  So it makes no difference that a number is rounded a second time, at the
place that the exponent of the rounded one tells.
-/

namespace ChartQuery

open Numeric

variable {q r : ℚ} {num den places n : ℕ} {e : ℤ}

/-- The place value of the last of so many significant digits. -/
def lastPlace (places : ℕ) (q : ℚ) : ℚ := 10 ^ (Int.log 10 |q| + 1 - places)

/-- `IsRounded places q r`: rounding a number to so many significant digits gives the other, where a
half is rounded to the even neighbour. -/
def IsRounded (places : ℕ) (q r : ℚ) : Prop :=
  ∃ n : ℤ, NearestEven (q / lastPlace places q) n ∧ r = n * lastPlace places q

/-- Rounding does not depend on the sign. -/
lemma IsRounded.neg (h : IsRounded places q r) : IsRounded places (-q) (-r) := by
  obtain ⟨n, hn, rfl⟩ := h
  have hplace : lastPlace places (-q) = lastPlace places q := by
    rw [lastPlace, abs_neg, lastPlace]
  refine ⟨-n, ?_, ?_⟩
  · rw [hplace, neg_div]
    exact hn.neg
  · rw [hplace, Int.cast_neg, neg_mul]

/-! ## Decimal logarithms -/

namespace Numeric

/-- The number of digits tells between which powers of ten a positive number lies. -/
lemma exists_length_digits (h : 0 < n) :
    ∃ k, (digits n).length = k + 1 ∧ 10 ^ k ≤ n ∧ n < 10 ^ (k + 1) := by
  obtain ⟨k, hk⟩ := Nat.exists_eq_add_one.2 (Nat.length_toDigits_pos (b := 10) (n := n))
  have hbelow {j : ℕ} (hj : 0 < j) := Nat.length_toDigits_le_iff (n := n) (b := 10) (by decide) hj
  refine ⟨k, hk, ?_, (hbelow k.succ_pos).1 hk.le⟩
  rcases Nat.eq_zero_or_pos k with rfl | hpos
  · exact h
  · by_contra hless
    have hlength := (hbelow hpos).2 (not_le.1 hless)
    omega

/-- The quotient that a power of ten is taken for. -/
lemma powerOfTen_eq (e : ℤ) : 0 < (powerOfTen e).2 ∧
    ((powerOfTen e).1 : ℚ) / (powerOfTen e).2 = 10 ^ e := by
  unfold powerOfTen
  split
  · next h =>
    obtain ⟨k, rfl⟩ := Int.eq_ofNat_of_zero_le h
    simp
  · next h =>
    obtain ⟨k, rfl⟩ : ∃ k : ℕ, e = -k := ⟨(-e).toNat, by omega⟩
    refine ⟨Nat.pow_pos (by decide), ?_⟩
    simp

/-- The decimal exponent of a quotient is its logarithm. -/
lemma decimalExponent_eq (hnum : 0 < num) (hden : 0 < den) :
    decimalExponent num den = Int.log 10 ((num : ℚ) / den) := by
  have hpos : (0 : ℚ) < den := by exact_mod_cast hden
  have hbounds {k : ℤ} (hlow : (10 : ℚ) ^ k ≤ num / den) (hhigh : (num : ℚ) / den < 10 ^ (k + 1)) :
      k = Int.log 10 ((num : ℚ) / den) :=
    (log_eq_of_bounds (by decide) (by exact_mod_cast hlow) (by exact_mod_cast hhigh)).symm
  unfold decimalExponent
  split_ifs with hge
  · obtain ⟨k, hk, hlow, hhigh⟩ := exists_length_digits (Nat.div_pos hge hden)
    rw [Nat.le_div_iff_mul_le hden] at hlow
    rw [Nat.div_lt_iff_lt_mul hden] at hhigh
    rw [hk, Nat.cast_succ, add_sub_cancel_right]
    refine hbounds ?_ ?_
    · rw [le_div_iff₀ hpos]
      exact_mod_cast hlow
    · rw [div_lt_iff₀ hpos]
      exact_mod_cast hhigh
  · -- the digits of the reciprocal are counted, which is at least one
    obtain ⟨k, hk, hlow, hhigh⟩ := exists_length_digits (Nat.div_pos (not_le.1 hge).le hnum)
    rw [Nat.le_div_iff_mul_le hnum, mul_comm] at hlow
    rw [Nat.div_lt_iff_lt_mul hnum, mul_comm] at hhigh
    have hbelow (j : ℕ) : (10 : ℚ) ^ (-(j : ℤ)) ≤ num / den ↔ den ≤ num * 10 ^ j := by
      rw [zpow_neg, zpow_natCast, le_div_iff₀ hpos, inv_mul_le_iff₀ (by positivity), mul_comm]
      exact_mod_cast Iff.rfl
    have habove (j : ℕ) : (num : ℚ) / den ≤ 10 ^ (-(j : ℤ)) ↔ num * 10 ^ j ≤ den := by
      rw [zpow_neg, zpow_natCast, div_le_iff₀ hpos, le_inv_mul_iff₀ (by positivity), mul_comm]
      exact_mod_cast Iff.rfl
    simp only [hk, Nat.add_sub_cancel]
    split_ifs with hexact
    · refine hbounds ((hbelow k).2 hexact) (((habove k).2 hlow).trans_lt ?_)
      exact zpow_lt_zpow_right₀ (by norm_num) (lt_add_one _)
    · refine hbounds ?_ ?_
      · have hnext := (hbelow (k + 1)).2 hhigh.le
        rwa [Nat.cast_succ, neg_add] at hnext
      · rw [sub_add_cancel]
        exact not_le.1 ((hbelow k).not.2 hexact)

end Numeric

/-! ## Rounding to significant digits -/

/-- A number rounded to so many significant digits: the digits as a number, and the exponent of the
first of them. -/
structure Significant (places : ℕ) (q : ℚ) (n : ℕ) (e : ℤ) : Prop where
  low : 10 ^ (places - 1) ≤ n
  high : n < 10 ^ places
  isRounded : IsRounded places q (n * 10 ^ (e + 1 - places))
  nearest : NearestEven (q / 10 ^ (e + 1 - places)) n

/-- There are as many digits as are significant. -/
lemma Significant.length_digits (hplaces : 0 < places) (h : Significant places q n e) :
    (digits n).length = places := by
  obtain ⟨k, hk, hlow, hhigh⟩ := exists_length_digits (Nat.pow_pos (by decide) |>.trans_le h.low)
  have hfew : k < places := (Nat.pow_lt_pow_iff_right (by decide)).1 (hlow.trans_lt h.high)
  have hmany : places - 1 < k + 1 := (Nat.pow_lt_pow_iff_right (by decide)).1 (h.low.trans_lt hhigh)
  omega

/-- A power of ten in units of the last significant digit. -/
lemma pow_pred_mul_place (hplaces : 0 < places) (e : ℤ) :
    (10 : ℚ) ^ (places - 1) * 10 ^ (e + 1 - places) = 10 ^ e := by
  rw [← zpow_natCast, ← zpow_add₀ (by norm_num)]
  congr 1
  omega

/-- The next power of ten in the same units. -/
lemma pow_mul_place (places : ℕ) (e : ℤ) :
    (10 : ℚ) ^ places * 10 ^ (e + 1 - places) = 10 ^ (e + 1) := by
  rw [← zpow_natCast, ← zpow_add₀ (by norm_num)]
  congr 1
  omega

/-- The first significant digit is not zero, so its exponent is the logarithm. -/
lemma Significant.log_eq (hplaces : 0 < places) (h : Significant places q n e) :
    Int.log 10 ((n : ℚ) * 10 ^ (e + 1 - places)) = e := by
  have hlow : (10 : ℚ) ^ (places - 1) ≤ n := by exact_mod_cast h.low
  have hhigh : (n : ℚ) < 10 ^ places := by exact_mod_cast h.high
  refine log_eq_of_bounds (by decide) ?_ ?_
  · rw [Nat.cast_ofNat, ← pow_pred_mul_place hplaces]
    gcongr
  · rw [Nat.cast_ofNat, ← pow_mul_place places]
    gcongr

/-- In units of its last significant digit a number has as many digits as are significant. -/
lemma div_lastPlace_bounds (hplaces : 0 < places) (hq : 0 < q) :
    (10 : ℚ) ^ (places - 1) ≤ q / lastPlace places q ∧ q / lastPlace places q < 10 ^ places := by
  have hlow := Int.zpow_log_le_self (b := 10) (by decide) hq
  have hhigh := Int.lt_zpow_succ_log_self (b := 10) (by decide) q
  have hplace : 0 < lastPlace places q := by
    unfold lastPlace
    positivity
  rw [le_div_iff₀ hplace, div_lt_iff₀ hplace, lastPlace, abs_of_pos hq, pow_pred_mul_place hplaces,
    pow_mul_place]
  exact ⟨by exact_mod_cast hlow, by exact_mod_cast hhigh⟩

/-- The next power of ten has ten times the place value, and is nearest there as well. -/
lemma Significant.of_carry (hplaces : 0 < places)
    (hnearest : NearestEven (q / 10 ^ (e + 1 - places)) (10 ^ places : ℕ))
    (hrounded : IsRounded places q ((10 ^ places : ℕ) * 10 ^ (e + 1 - places))) :
    Significant places q (10 ^ (places - 1)) (e + 1) where
  low := le_rfl
  high := Nat.pow_lt_pow_right (by decide) (Nat.sub_one_lt hplaces.ne')
  isRounded := by
    rwa [Nat.cast_pow, Nat.cast_ofNat, pow_pred_mul_place hplaces, ← pow_mul_place places,
      ← Nat.cast_ofNat, ← Nat.cast_pow]
  nearest := by
    have hplace : q / 10 ^ (e + 1 + 1 - places) = q / 10 ^ (e + 1 - places) / 10 := by
      rw [div_div, ← zpow_add_one₀ (by norm_num)]
      congr 2
      ring
    have hpower : ((10 ^ places : ℕ) : ℤ) = 10 * (10 ^ (places - 1) : ℕ) := by
      exact_mod_cast (mul_pow_sub_one hplaces.ne' 10).symm
    rw [hplace]
    rw [hpower] at hnearest
    exact hnearest.div_ten

/-- **Positive quotients are rounded to significant digits.** -/
theorem Numeric.significant_spec (hplaces : 0 < places) (hnum : 0 < num) (hden : 0 < den) :
    Significant places (num / den) (significant places num den).1
      (significant places num den).2 := by
  have hq : (0 : ℚ) < num / den := by positivity
  obtain ⟨e, he⟩ : ∃ e, e = decimalExponent num den := ⟨_, rfl⟩
  have hplace : lastPlace places (num / den) = 10 ^ (e + 1 - places) := by
    rw [lastPlace, abs_of_pos hq, he, decimalExponent_eq hnum hden]
  obtain ⟨hlow, hhigh⟩ := div_lastPlace_bounds hplaces hq
  rw [hplace] at hlow hhigh
  obtain ⟨hpow, hpower⟩ := powerOfTen_eq (places - 1 - e)
  have hscaled : ((num * (powerOfTen (places - 1 - e)).1 : ℕ) : ℚ) /
      (den * (powerOfTen (places - 1 - e)).2 : ℕ) = num / den / 10 ^ (e + 1 - places) := by
    rw [Nat.cast_mul, Nat.cast_mul, mul_div_mul_comm, hpower, div_eq_mul_inv (_ / _), ← zpow_neg]
    congr 2
    ring
  have hnearest := nearestEven_roundHalfEven (num * (powerOfTen (places - 1 - e)).1)
    (Nat.mul_pos hden hpow)
  unfold significant
  dsimp only
  rw [hscaled] at hnearest
  rw [← he]
  generalize roundHalfEven _ _ = n at *
  have hrounded : IsRounded places (num / den) (n * 10 ^ (e + 1 - places)) :=
    ⟨n, hplace ▸ hnearest, by rw [hplace, Int.cast_natCast]⟩
  have hlow' : 10 ^ (places - 1) ≤ n := by
    exact_mod_cast hnearest.le_of_le (m := 10 ^ (places - 1)) (by exact_mod_cast hlow)
  have hhigh' : n ≤ 10 ^ places := by
    exact_mod_cast hnearest.le_of_ge (m := 10 ^ places) (by exact_mod_cast hhigh.le)
  split_ifs with hcarry
  · subst hcarry
    exact .of_carry hplaces hnearest hrounded
  · exact ⟨hlow', lt_of_le_of_ne hhigh' hcarry, hrounded, hnearest⟩

end ChartQuery
