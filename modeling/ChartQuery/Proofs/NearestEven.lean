import ChartQuery.Proofs.Amounts
import Mathlib.Data.Int.Log

/-!
# The nearest number of a grid

Numbers of double precision and decimals with so many digits are numbers on a grid: multiples of a
power of two or of ten.  A number is rounded to the nearest one on the grid, and if two are equally
near to the one with the even multiple.

`NearestEven` says this for the grid of the integers, without saying how the nearest one is found;
it determines it (`NearestEven.unique`).  Which grid a number is rounded to follows from its
logarithm, the exponent of the greatest power of the base that is not above the number.
-/

namespace ChartQuery

/-! ## Nearest integers -/

/-- `NearestEven q n`: no integer is nearer to a rational number, and if another is equally near,
this one is even. -/
def NearestEven (q : ℚ) (n : ℤ) : Prop := |q - n| < 1 / 2 ∨ |q - n| = 1 / 2 ∧ Even n

variable {q r : ℚ} {m n k : ℤ} {num den : ℕ}

namespace NearestEven

/-- An integer is nearest to itself. -/
lemma intCast (n : ℤ) : NearestEven n n := .inl (by norm_num)

/-- The nearest integer does not depend on the sign. -/
lemma neg (h : NearestEven q n) : NearestEven (-q) (-n) := by
  have hdistance : |-q - ((-n : ℤ) : ℚ)| = |q - n| := by
    rw [← abs_neg]
    congr 1
    push_cast
    ring
  rw [NearestEven, hdistance, even_neg]
  exact h

/-- The nearest integer is at most half a unit away. -/
lemma distance_le (h : NearestEven q n) : |q - n| ≤ 1 / 2 := by
  rcases h with h | ⟨h, -⟩
  · exact h.le
  · exact h.le

/-- An integer that is not above a number is not above its nearest one. -/
lemma le_of_le (h : NearestEven q n) (hm : (m : ℚ) ≤ q) : m ≤ n := by
  have hdistance := (abs_le.1 h.distance_le).2
  have hcast : (m : ℚ) < (n + 1 : ℤ) := by
    push_cast
    linarith
  exact Int.lt_add_one_iff.1 (by exact_mod_cast hcast)

/-- An integer that is not below a number is not below its nearest one. -/
lemma le_of_ge (h : NearestEven q n) (hm : q ≤ m) : n ≤ m := by
  have hmirror := h.neg.le_of_le (m := -m) (by push_cast; linarith)
  omega

/-- If a multiple of ten is nearest to a number, it is also nearest among the multiples of ten. -/
lemma div_ten (h : NearestEven q (10 * n)) : NearestEven (q / 10) n := by
  have hdistance := h.distance_le
  refine .inl ?_
  rw [abs_lt]
  rw [abs_le] at hdistance
  push_cast at hdistance
  constructor <;> linarith

/-- There is only one nearest integer. -/
theorem unique (hm : NearestEven q m) (hn : NearestEven q n) : m = n := by
  have hapart : |(m : ℚ) - n| ≤ |q - m| + |q - n| := by
    have htriangle := abs_sub_le (m : ℚ) q n
    rwa [abs_sub_comm (m : ℚ) q] at htriangle
  by_cases hboth : |q - m| = 1 / 2 ∧ |q - n| = 1 / 2
  · -- two integers on either side are not both even
    have hone : |m - n| ≤ 1 := by
      rw [hboth.1, hboth.2] at hapart
      have hcast : ((|m - n| : ℤ) : ℚ) ≤ (1 : ℤ) := by
        push_cast
        linarith
      exact_mod_cast hcast
    obtain ⟨a, ha⟩ : Even m := (hm.resolve_left hboth.1.not_lt).2
    obtain ⟨b, hb⟩ : Even n := (hn.resolve_left hboth.2.not_lt).2
    rw [abs_le] at hone
    omega
  · have hless : |q - m| + |q - n| < 1 := by
      have hm' := hm.distance_le
      have hn' := hn.distance_le
      rcases not_and_or.1 hboth with hne | hne
      · linarith [lt_of_le_of_ne hm' hne]
      · linarith [lt_of_le_of_ne hn' hne]
    have hzero : |m - n| < 1 := by
      have hcast : ((|m - n| : ℤ) : ℚ) < (1 : ℤ) := by
        push_cast
        linarith
      exact_mod_cast hcast
    rw [abs_lt] at hzero
    omega

end NearestEven

open Numeric

/-- Quotients of natural numbers are rounded to the nearest one. -/
theorem nearestEven_roundHalfEven (num : ℕ) (hden : 0 < den) :
    NearestEven (num / den) (roundHalfEven num den) := by
  have hpos : (0 : ℚ) < den := by exact_mod_cast hden
  have hnum := Nat.div_add_mod' num den
  have hmod := Nat.mod_lt num hden
  unfold roundHalfEven
  dsimp only
  generalize num / den = w at *
  generalize num % den = rest at *
  -- the number is `w + t`
  obtain ⟨t, ht⟩ : ∃ t : ℚ, t * den = rest := ⟨rest / den, div_mul_cancel₀ _ hpos.ne'⟩
  have hsplit : (num : ℚ) / den = w + t := by
    rw [div_eq_iff hpos.ne', add_mul, ht, ← hnum]
    push_cast
    rfl
  have hbelow : 2 * rest < den ↔ t < 1 / 2 := by
    rw [← mul_lt_mul_iff_left₀ hpos, ht, ← Nat.cast_lt (α := ℚ)]
    push_cast
    constructor <;> intro h <;> linarith
  have habove : den < 2 * rest ↔ 1 / 2 < t := by
    rw [← mul_lt_mul_iff_left₀ hpos, ht, ← Nat.cast_lt (α := ℚ)]
    push_cast
    constructor <;> intro h <;> linarith
  have hnonneg : 0 ≤ t := by
    rw [← mul_le_mul_iff_left₀ hpos, ht, zero_mul]
    positivity
  have hless : t < 1 := by
    rw [← mul_lt_mul_iff_left₀ hpos, ht, one_mul]
    exact_mod_cast hmod
  have hdown : (w : ℚ) + t - ((w : ℕ) : ℤ) = t := by
    push_cast
    ring
  have hup : (w : ℚ) + t - ((w + 1 : ℕ) : ℤ) = -(1 - t) := by
    push_cast
    ring
  rw [hsplit, NearestEven]
  split_ifs with hlt hgt heven
  · rw [hdown, abs_of_nonneg hnonneg]
    exact .inl (hbelow.1 hlt)
  · rw [hup, abs_neg, abs_of_pos (by linarith)]
    exact .inl (by linarith [habove.1 hgt])
  · rw [hdown, abs_of_nonneg hnonneg]
    refine .inr ⟨le_antisymm (not_lt.1 (habove.not.1 hgt)) (not_lt.1 (hbelow.not.1 hlt)), ?_⟩
    exact_mod_cast Nat.even_iff.2 heven
  · have hhalf := le_antisymm (not_lt.1 (habove.not.1 hgt)) (not_lt.1 (hbelow.not.1 hlt))
    rw [hup, abs_neg, abs_of_pos (by linarith)]
    refine .inr ⟨by linarith, ?_⟩
    exact_mod_cast Nat.even_iff.2 (show (w + 1) % 2 = 0 by omega)

/-- What is nearest to a quotient of natural numbers is what it is rounded to. -/
lemma NearestEven.roundHalfEven_eq {n : ℕ} (hden : 0 < den) (h : NearestEven (num / den) n) :
    roundHalfEven num den = n := by
  exact_mod_cast (nearestEven_roundHalfEven num hden).unique h

/-- A quotient that is a natural number is rounded to it. -/
lemma roundHalfEven_of_eq {n : ℕ} (hden : 0 < den) (h : (num : ℚ) / den = n) :
    roundHalfEven num den = n :=
  NearestEven.roundHalfEven_eq hden (h ▸ .intCast n)

/-! ## Logarithms -/

/-- The logarithm is the only exponent whose power is not above the number while the next one is. -/
lemma log_eq_of_bounds {b : ℕ} (hb : 1 < b) (hlow : (b : ℚ) ^ k ≤ r)
    (hhigh : r < (b : ℚ) ^ (k + 1)) : Int.log b r = k := by
  have hr : 0 < r := lt_of_lt_of_le (zpow_pos (by positivity) k) hlow
  exact le_antisymm (Int.lt_add_one_iff.1 ((Int.lt_zpow_iff_log_lt hb hr).1 hhigh))
    ((Int.zpow_le_iff_le_log hb hr).1 hlow)

end ChartQuery
