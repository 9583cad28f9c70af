import ChartQuery.Numeric.Numeral
import ChartQuery.Proofs.Splitting
import ChartQuery.Text.Blank
import Mathlib.Data.List.Basic
import Mathlib.Tactic.Common

/-!
# Numbers that are read back

Numbers are written with decimal digits, and the digits of a number are read as the number.  There
are no blanks around them, so that trimming leaves them as they are.
-/

namespace ChartQuery

/-! ## Blanks -/

namespace Text

variable {s : String}

/-- Nothing is trimmed from a text with no blank at either end. -/
lemma trim_eq_self (hhead : ∀ c ∈ s.toList.head?, isBlank c = false)
    (hlast : ∀ c ∈ s.toList.getLast?, isBlank c = false) : trim s = s := by
  have hkept {cs : List Char} (h : ∀ c ∈ cs.head?, isBlank c = false) : trimStart cs = cs := by
    cases cs with
    | nil => rfl
    | cons c cs => exact List.dropWhile_cons_of_neg (by simp [h c rfl])
  have hreverse : ∀ c ∈ s.toList.reverse.head?, isBlank c = false := by
    rwa [List.head?_reverse]
  rw [trim, trimList, hkept hhead, hkept hreverse, List.reverse_reverse, String.ofList_toList]

end Text

/-! ## Digits -/

section Digits

variable {n : Nat} {z : Int} {c : Char}

/-- A number is written with its decimal digits. -/
lemma toList_toString (n : Nat) : (toString n).toList = Nat.toDigits 10 n := Nat.toList_repr

/-- A number has at least one digit. -/
lemma toList_toString_ne_nil (n : Nat) : (toString n).toList ≠ [] :=
  toList_toString n ▸ Nat.toDigits_ne_nil

/-- The digits of a number are digits. -/
lemma isDigit_of_mem_toString (h : c ∈ (toString n).toList) : c.isDigit = true := by
  rw [toList_toString] at h
  exact Nat.isDigit_of_mem_toDigits (by decide) (by decide) h

/-- The codes of digits. -/
lemma toNat_of_isDigit (h : c.isDigit = true) : 48 ≤ c.toNat ∧ c.toNat ≤ 57 := by
  simpa [Char.isDigit, UInt32.le_iff_toNat_le] using h

/-- A digit is no blank. -/
lemma Text.isBlank_of_isDigit (h : c.isDigit = true) : isBlank c = false := by
  have hrange := toNat_of_isDigit h
  simp only [isBlank, Bool.or_eq_false_iff, Bool.and_eq_false_iff, decide_eq_false_iff_not,
    beq_eq_false_iff_ne]
  omega

/-- The digits of a number stand for the number. -/
lemma Numeral.digitsValue?_toString (n : Nat) : digitsValue? (toString n).toList = some n := by
  have hall : (toString n).toList.all Char.isDigit = true :=
    List.all_eq_true.2 fun c hc => isDigit_of_mem_toString hc
  have hne : (toString n).toList.isEmpty = false :=
    List.isEmpty_eq_false_iff.2 (toList_toString_ne_nil n)
  have hvalue : Numeric.ofDigits (toString n).toList = n := by
    rw [toList_toString]
    exact Nat.ofDigitChars_ten_toDigits
  rw [digitsValue?, hall, hne, hvalue]
  rfl

/-- The digits of a number do not begin with a sign. -/
lemma exists_cons_toString (n : Nat) :
    ∃ d ds, (toString n).toList = d :: ds ∧ d.isDigit = true := by
  obtain ⟨d, ds, hds⟩ := List.exists_cons_of_ne_nil (toList_toString_ne_nil n)
  exact ⟨d, ds, hds, isDigit_of_mem_toString (n := n) (hds ▸ List.mem_cons_self)⟩

/-- A negative number has a minus sign before its digits. -/
lemma toList_toString_negSucc (n : Nat) :
    (toString (Int.negSucc n)).toList = '-' :: (toString (n + 1)).toList := by
  have htext : toString (Int.negSucc n) = "-" ++ toString (n + 1) := rfl
  rw [htext, String.toList_append]
  rfl

/-- An integer is written with digits and possibly a sign. -/
lemma mem_toString_int (h : c ∈ (toString z).toList) : c = '-' ∨ c.isDigit = true := by
  cases z with
  | ofNat n => exact .inr (isDigit_of_mem_toString (n := n) h)
  | negSucc n =>
    rw [toList_toString_negSucc] at h
    exact (List.mem_cons.1 h).imp_right isDigit_of_mem_toString

/-- A natural number is read from its digits. -/
lemma Numeral.natural?_toString {bound : Nat} (h : n < bound) :
    natural? bound (toString n) = some n := by
  obtain ⟨d, ds, hds, hd⟩ := exists_cons_toString n
  have hplus : d ≠ '+' := by
    rintro rfl
    cases hd
  have hvalue := digitsValue?_toString n
  rw [hds] at hvalue
  unfold natural?
  rw [hds]
  split
  · next heq => exact absurd (List.cons.inj heq).1 hplus
  · dsimp only
    rw [hvalue]
    exact Option.filter_some_pos (decide_eq_true h)

/-- An integer is read from its sign and its digits. -/
lemma Numeral.integer?_toString {bits : Nat} (hlow : -Int.pow 2 (bits - 1) ≤ z)
    (hhigh : z < Int.pow 2 (bits - 1)) : integer? bits (toString z) = some z := by
  have hrange : (decide (-Int.pow 2 (bits - 1) ≤ z) && decide (z < Int.pow 2 (bits - 1))) =
      true := Bool.and_eq_true_iff.2 ⟨decide_eq_true hlow, decide_eq_true hhigh⟩
  cases z with
  | ofNat n =>
    have htext : toString (Int.ofNat n) = toString n := rfl
    obtain ⟨d, ds, hds, hd⟩ := exists_cons_toString n
    have hvalue := digitsValue?_toString n
    rw [hds] at hvalue
    unfold integer?
    rw [htext, hds]
    dsimp only
    split
    · next heq =>
      cases (List.cons.inj heq).1
      cases hd
    · next heq =>
      cases (List.cons.inj heq).1
      cases hd
    · rw [hvalue]
      exact Option.filter_some_pos hrange
  | negSucc n =>
    have htext : (toString (Int.negSucc n)).toList = '-' :: (toString (n + 1)).toList :=
      toList_toString_negSucc n
    unfold integer?
    rw [htext]
    dsimp only
    split
    · next heq => exact absurd (List.cons.inj heq).1 (by decide)
    · next heq =>
      rw [← (List.cons.inj heq).2, digitsValue?_toString]
      exact Option.filter_some_pos hrange
    · next hminus => exact absurd rfl (hminus _)

/-- An integer has no blanks to trim. -/
lemma Text.trim_toString (z : Int) : trim (toString z) = toString z := by
  have hblank : ∀ c ∈ (toString z).toList, isBlank c = false := by
    intro c hc
    rcases mem_toString_int hc with rfl | hc
    · decide
    · exact isBlank_of_isDigit hc
  exact trim_eq_self (fun c hc => hblank c (List.mem_of_mem_head? hc)) fun c hc =>
    hblank c (List.mem_of_mem_getLast? hc)

/-- An integer has no comma. -/
lemma comma_notMem_toString (z : Int) : ',' ∉ (toString z).toList := by
  intro h
  rcases mem_toString_int h with h | h <;> cases h

end Digits

end ChartQuery
