import ChartQuery.Proofs.GroupedDigits
import ChartQuery.Proofs.NearestEven
import Mathlib.Data.List.TakeWhile

/-!
# Integers of double precision

An integer is shown by a number pattern in the same way whether it comes as an integer or as a
number of double precision, as long as its product with the factor of the pattern is at most
`2 ^ 53`.  The second way multiplies and rounds in double precision, writes so many places after the
point as the pattern allows, and takes the zeros at the end away again.

Nothing is lost on that way, because numbers of the format are not changed by rounding
(`Binary64.amount_ofRatio`), and all integers up to `2 ^ 53` are such numbers.
-/

namespace ChartQuery

open Numeric

/-! ## Numbers of the format -/

namespace Binary64

variable {num den m : ℕ} {e : ℤ}

/-- The exponent with which a quotient is kept comes from its logarithm, unless it is too small. -/
lemma fittingExponent_eq (hnum : 0 < num) (hden : 0 < den) :
    fittingExponent num den = max (Int.log 2 ((num : ℚ) / den) - 52) minExponent := by
  have hpos : (0 : ℚ) < den := by exact_mod_cast hden
  have htwo : (2 : ℚ) ≠ 0 := two_ne_zero
  have hnumlow : (2 : ℚ) ^ num.log2 ≤ num := by exact_mod_cast Nat.log2_self_le hnum.ne'
  have hnumhigh : (num : ℚ) < 2 ^ (num.log2 + 1) := by exact_mod_cast Nat.lt_log2_self
  have hdenlow : (2 : ℚ) ^ den.log2 ≤ den := by exact_mod_cast Nat.log2_self_le hden.ne'
  have hdenhigh : (den : ℚ) < 2 ^ (den.log2 + 1) := by exact_mod_cast Nat.lt_log2_self
  obtain ⟨k, hk⟩ : ∃ k : ℤ, k = (num.log2 : ℤ) - den.log2 := ⟨_, rfl⟩
  -- the numbers of binary digits tell the logarithm up to one
  have hlow : ((2 : ℕ) : ℚ) ^ (k - 1) ≤ num / den := by
    rw [le_div_iff₀ hpos, Nat.cast_ofNat]
    calc (2 : ℚ) ^ (k - 1) * den ≤ 2 ^ (k - 1) * 2 ^ (den.log2 + 1) := by gcongr
      _ = 2 ^ num.log2 := by
        rw [← zpow_natCast, ← zpow_natCast, ← zpow_add₀ htwo]
        congr 1
        push_cast
        omega
      _ ≤ num := hnumlow
  have hhigh : (num : ℚ) / den < ((2 : ℕ) : ℚ) ^ (k + 1) := by
    rw [div_lt_iff₀ hpos, Nat.cast_ofNat]
    calc (num : ℚ) < 2 ^ (num.log2 + 1) := hnumhigh
      _ = 2 ^ (k + 1) * 2 ^ den.log2 := by
        rw [← zpow_natCast, ← zpow_natCast, ← zpow_add₀ htwo]
        congr 1
        push_cast
        omega
      _ ≤ 2 ^ (k + 1) * den := by gcongr
  obtain ⟨hq, hratio⟩ := ratio_eq 1 k
  have hqpos : (0 : ℚ) < (ratio 1 k).2 := by exact_mod_cast hq
  have htest : den * (ratio 1 k).1 ≤ num * (ratio 1 k).2 ↔ ((2 : ℕ) : ℚ) ^ k ≤ num / den := by
    rw [Nat.cast_one, one_mul] at hratio
    rw [Nat.cast_ofNat, ← hratio, div_le_div_iff₀ hqpos hpos, mul_comm den]
    exact_mod_cast Iff.rfl
  unfold fittingExponent
  rw [← hk]
  dsimp only
  split_ifs with h
  · rw [log_eq_of_bounds one_lt_two (htest.1 h) hhigh]
  · have hbelow := not_le.1 (htest.not.1 h)
    rw [log_eq_of_bounds one_lt_two hlow (by rwa [sub_add_cancel])]
    congr 1
    omega

/-- A number of the format is a multiple of the unit that it is kept with. -/
lemma exists_mantissa (hnum : 0 < num) (hden : 0 < den) (hm : m < 2 ^ 53)
    (hlow : minExponent ≤ e) (hq : (num : ℚ) / den = m * 2 ^ e) :
    ∃ k < 2 ^ 53, fittingExponent num den ≤ e ∧
      (num : ℚ) / den = (k : ℕ) * 2 ^ fittingExponent num den := by
  have hr : (0 : ℚ) < num / den := by positivity
  have hfit := fittingExponent_eq hnum hden
  generalize fittingExponent num den = f at *
  have hfe : f ≤ e := by
    have hbelow : (num : ℚ) / den < ((2 : ℕ) : ℚ) ^ (53 + e) := by
      rw [hq, Nat.cast_ofNat, zpow_add₀ two_ne_zero]
      gcongr
      exact_mod_cast hm
    have hlog := (Int.lt_zpow_iff_log_lt one_lt_two hr).1 hbelow
    omega
  obtain ⟨j, rfl⟩ : ∃ j : ℕ, e = f + j := ⟨(e - f).toNat, by omega⟩
  have hgrid : (num : ℚ) / den = (m * 2 ^ j : ℕ) * 2 ^ f := by
    rw [hq, add_comm, zpow_add₀ two_ne_zero, zpow_natCast]
    push_cast
    ring
  refine ⟨m * 2 ^ j, ?_, hfe, hgrid⟩
  have hbelow : ((m * 2 ^ j : ℕ) : ℚ) * 2 ^ f < 2 ^ (53 : ℤ) * 2 ^ f := by
    rw [← hgrid, ← zpow_add₀ two_ne_zero]
    refine (Int.lt_zpow_succ_log_self one_lt_two ((num : ℚ) / den)).trans_le ?_
    rw [Nat.cast_ofNat]
    exact zpow_le_zpow_right₀ one_le_two (by omega)
  exact_mod_cast lt_of_mul_lt_mul_right hbelow (by positivity)

/-- A multiple of the unit is kept with its mantissa. -/
lemma ofRatio_eq (negative : Bool) {k : ℕ} (hnum : 0 < num) (hden : 0 < den) (hk : k < 2 ^ 53)
    (hmax : fittingExponent num den ≤ maxExponent)
    (hq : (num : ℚ) / den = k * 2 ^ fittingExponent num den) :
    ofRatio negative num den = finite negative k (fittingExponent num den) := by
  rw [ofRatio, if_neg hnum.ne']
  dsimp only
  generalize fittingExponent num den = f at *
  obtain ⟨hunit, hratio⟩ := ratio_eq 1 f
  generalize (ratio 1 f).1 = p at *
  generalize (ratio 1 f).2 = r at *
  have hpos : 0 < p := by
    rw [Nat.pos_iff_ne_zero]
    rintro rfl
    have htwo : (2 : ℚ) ^ f ≠ 0 := zpow_ne_zero f two_ne_zero
    simp [htwo.symm] at hratio
  have hround : roundHalfEven (num * r) (den * p) = k := by
    refine roundHalfEven_of_eq (Nat.mul_pos hden hpos) ?_
    rw [Nat.cast_one, one_mul] at hratio
    rw [Nat.cast_mul, Nat.cast_mul, mul_div_mul_comm, hq, ← hratio]
    have hr : (r : ℚ) ≠ 0 := Nat.cast_ne_zero.2 hunit.ne'
    have hp : (p : ℚ) ≠ 0 := Nat.cast_ne_zero.2 hpos.ne'
    field_simp
  have hcarry : k ≠ Nat.pow 2 53 := hk.ne
  rw [hround, if_neg hcarry, if_neg hmax.not_gt]

/-- **Numbers of the format are not changed by rounding.** -/
theorem amount_ofRatio (negative : Bool) (hden : 0 < den) (hm : m < 2 ^ 53)
    (hlow : minExponent ≤ e) (hhigh : e ≤ maxExponent) (hq : (num : ℚ) / den = m * 2 ^ e) :
    (ofRatio negative num den).amount =
      .exact (if negative then -(m * 2 ^ e) else m * 2 ^ e) := by
  rw [← hq]
  rcases Nat.eq_zero_or_pos num with rfl | hnum
  · simp [ofRatio, zero, amount]
  · obtain ⟨k, hk, hfe, hgrid⟩ := exists_mantissa hnum hden hm hlow hq
    rw [ofRatio_eq negative hnum hden hk (hfe.trans hhigh) hgrid, amount, hgrid]

/-- Integers up to `2 ^ 53` are numbers of the format. -/
lemma exists_representation {n : ℕ} (hn : n ≤ 2 ^ 53) :
    ∃ (m : ℕ) (e : ℤ), m < 2 ^ 53 ∧ minExponent ≤ e ∧ e ≤ maxExponent ∧ (n : ℚ) = m * 2 ^ e := by
  rcases hn.lt_or_eq with hlt | rfl
  · exact ⟨n, 0, hlt, by decide, by decide, by simp⟩
  · exact ⟨2 ^ 52, 1, by norm_num, by decide, by decide, by norm_num⟩

/-- A quotient that is an integer up to `2 ^ 53` is kept as it is. -/
lemma amount_ofRatio_of_eq (negative : Bool) {n : ℕ} (hden : 0 < den) (hn : n ≤ 2 ^ 53)
    (hq : (num : ℚ) / den = n) :
    (ofRatio negative num den).amount = .exact (if negative then -n else n) := by
  obtain ⟨m, e, hm, hlow, hhigh, hme⟩ := exists_representation hn
  rw [amount_ofRatio negative hden hm hlow hhigh (hq.trans hme), hme]

/-- An integer up to `2 ^ 53` is exact. -/
theorem amount_ofInt {v : ℤ} (hv : v.natAbs ≤ 2 ^ 53) : (ofInt v).amount = .exact v := by
  rw [ofInt, amount_ofRatio_of_eq _ Nat.one_pos hv (by simp), Nat.cast_natAbs]
  congr 1
  by_cases hneg : v < 0
  · simp [hneg, abs_of_neg hneg]
  · simp [hneg, abs_of_nonneg (not_lt.1 hneg)]

end Binary64

/-! ## Digits of integers -/

/-- The digits of an integer, with zeros after the point. -/
lemma Numeric.fixedPlaces_of_eq (places : ℕ) {num den n : ℕ} (hden : 0 < den)
    (h : (num : ℚ) / den = n) :
    fixedPlaces places num den = (digits n, List.replicate places '0') := by
  have hround : roundHalfEven (num * Nat.pow 10 places) den = n * Nat.pow 10 places := by
    refine roundHalfEven_of_eq hden ?_
    rw [Nat.cast_mul, mul_div_right_comm, h, Nat.cast_mul]
  have hpow : 0 < Nat.pow 10 places := Nat.pow_pos (by decide)
  have hzeros : (if places = 0 then [] else padded places 0) = List.replicate places '0' := by
    cases places with
    | zero => rfl
    | succ k => exact (List.replicate_succ' (n := k) (a := '0')).symm
  simp only [fixedPlaces, hround, Nat.mul_div_cancel n hpow, Nat.mul_mod_left, hzeros]

namespace NumberPattern

open Binary64

variable {p : NumberPattern} {x : Binary64} {v : ℤ}

/-- Zeros after the point are shown as far as they are required, whether they were there or not. -/
lemma fractionText_replicate (least n : ℕ) :
    fractionText least (List.replicate n '0') = fractionText least [] := by
  have hzeros : (List.replicate (n - least) '0').dropWhile (· == '0') = [] :=
    List.dropWhile_eq_nil_iff.2 fun c hc => by simp [(List.mem_replicate.1 hc).2]
  rw [fractionText_nil, fractionText]
  simp only [List.take_replicate, List.drop_replicate, List.reverse_replicate, hzeros,
    List.length_replicate, List.reverse_nil, List.append_nil, List.replicate_append_replicate]
  congr 1
  omega

/-- Zeros after the point do not change the text of a number. -/
lemma assemble_replicate (negative : Bool) (whole : List Char) (n : ℕ) :
    p.assemble negative whole (List.replicate n '0') = p.assemble negative whole [] := by
  simp only [assemble, fractionText_replicate]

/-- A number whose digits are all zero is zero. -/
lemma all_zeros_iff (n places : ℕ) :
    (digits n ++ List.replicate places '0').all (· == '0') = true ↔ n = 0 := by
  constructor
  · intro h
    by_contra hn
    obtain ⟨c, cs, hcs, hc⟩ := exists_digits_eq_cons (Nat.pos_of_ne_zero hn)
    simp [hcs, hc] at h
  · rintro rfl
    simp [digits]

/-- The product of an integer with the factor is exact in double precision. -/
lemma amount_scaledMagnitude (hv : v.natAbs * p.multiplier ≤ 2 ^ 53) (hx : x.amount = .exact v) :
    (x.scaledMagnitude p.multiplier).amount = .exact (v.natAbs * p.multiplier : ℕ) := by
  cases x with
  | nan | infinite => cases hx
  | finite negative m e =>
    obtain ⟨hden, hratio⟩ := ratio_eq m e
    have hproduct : (((ratio m e).1 * p.multiplier : ℕ) : ℚ) / (ratio m e).2 =
        (v.natAbs * p.multiplier : ℕ) := by
      rw [Nat.cast_mul, mul_div_right_comm, hratio, abs_of_amount hx, Nat.cast_mul,
        Nat.cast_natAbs, Int.cast_abs]
    exact amount_ofRatio_of_eq false hden hv hproduct

/-- A number that is not rounded to zero has a minus sign if its product with the factor is below
zero. -/
lemma isNegative_and_not_zero (hp : 0 < p.multiplier) (hx : x.amount = .exact v) :
    (x.isNegative && !decide (v.natAbs * p.multiplier = 0)) = decide (v * p.multiplier < 0) := by
  have hproduct : v * p.multiplier < 0 ↔ v < 0 := by
    rw [← not_le, ← not_le, mul_nonneg_iff_of_pos_right (Int.natCast_pos.2 hp)]
  have hzero : v.natAbs * p.multiplier = 0 ↔ v = 0 := by
    rw [Nat.mul_eq_zero, or_iff_left hp.ne', Int.natAbs_eq_zero]
  rw [Bool.eq_iff_iff, Bool.and_eq_true, isNegative_iff hx, Bool.not_eq_true',
    decide_eq_false_iff_not, decide_eq_true_iff, hproduct, hzero, Int.cast_lt_zero]
  exact ⟨And.left, fun hneg => ⟨hneg, hneg.ne⟩⟩

/-- A number of double precision that is an integer is shown as that integer. -/
lemma formatBinary64_of_amount (hp : 0 < p.multiplier) (hv : v.natAbs * p.multiplier ≤ 2 ^ 53)
    (hx : x.amount = .exact v) : p.formatBinary64 x = p.formatInt v := by
  have hscaled := amount_scaledMagnitude hv hx
  have hsign := isNegative_and_not_zero hp hx
  unfold formatBinary64 formatInt
  cases x with
  | nan | infinite => cases hx
  | finite negative m e =>
    cases hs : (finite negative m e).scaledMagnitude p.multiplier with
    | nan | infinite =>
      rw [hs] at hscaled
      cases hscaled
    | finite sign m' e' =>
      rw [hs] at hscaled
      obtain ⟨hden, hratio⟩ := ratio_eq m' e'
      rw [abs_of_amount hscaled, Nat.abs_cast] at hratio
      have hzeros := Bool.eq_iff_iff.2
        ((all_zeros_iff (v.natAbs * p.multiplier) p.layout.maxFraction).trans
          decide_eq_true_iff.symm)
      simp only [fixedPlaces_of_eq _ hden hratio, hzeros, hsign, assemble_replicate]

/-- **An integer is shown in the same way in double precision.**  An integer whose product with the
factor is at most `2 ^ 53` is a number of the format, and the pattern gives it the same text. -/
theorem formatBinary64_ofInt (hp : p = .default ∨ ∃ text, parse? text = some p)
    (hv : v.natAbs * p.multiplier ≤ 2 ^ 53) :
    (ofInt v).amount = .exact v ∧ p.formatBinary64 (ofInt v) = p.formatInt v := by
  have hfactor : 0 < p.multiplier := by
    rcases hp with rfl | ⟨text, htext⟩
    · exact Nat.one_pos
    · exact multiplier_pos htext
  have hexact := amount_ofInt ((Nat.le_mul_of_pos_right _ hfactor).trans hv)
  exact ⟨hexact, formatBinary64_of_amount hfactor hv hexact⟩

/-- A negative integer as a percentage; its product with the factor is just below the bound. -/
theorem formatBinary64_ofInt_percent : ∃ p, parse? "#,##0.0#%;(0)" = some p ∧
    p.multiplier = 100 ∧ (ofInt (-90071992547409)).amount = .exact (-90071992547409 : ℤ) ∧
      p.formatBinary64 (ofInt (-90071992547409)) = "(9,007,199,254,740,900.0)" := by
  have hparse : parse? "#,##0.0#%;(0)" =
      some ⟨[], ['%'], ['('], [')'], ⟨1, 1, 2, 3⟩, 100⟩ := by decide +kernel
  obtain ⟨hexact, htext⟩ := formatBinary64_ofInt (.inr ⟨_, hparse⟩)
    (show (-90071992547409 : ℤ).natAbs * 100 ≤ 2 ^ 53 by decide)
  refine ⟨_, hparse, rfl, hexact, htext.trans ?_⟩
  decide +kernel

end NumberPattern

end ChartQuery
