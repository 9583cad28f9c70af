import ChartQuery.Pattern.Number
import ChartQuery.Proofs.Numerals

/-!
# Integers in groups of digits

The text of an integer has the digits of its product with the factor of the pattern, without zeros
in front but with zeros up to the least number of digits, and commas between the groups.  `Grouped`
says where commas stand without saying how they are put there: between two digits, and exactly
where the number of digits behind is a multiple of the size of the groups.

The integer and its product with the factor have the same sign, since the factor of a pattern that
is read is never zero.
-/

namespace ChartQuery.NumberPattern

open Numeric

variable {size : Nat} {ds cs : List Char} {c : Char}

/-! ### Where commas stand -/

/-- A text with the given digits in groups: without its commas it is the digits, and a comma stands
between two digits exactly where a multiple of the size of the groups is behind it.  Groups of size
zero have no commas. -/
structure Grouped (size : Nat) (ds text : List Char) : Prop where
  digits : text.filter (· ≠ ',') = ds
  comma : ∀ front rest, text = front ++ ',' :: rest →
    0 < size ∧ (∃ c ∈ front.getLast?, c.isDigit = true) ∧ (∃ d ∈ rest.head?, d.isDigit = true) ∧
      size ∣ rest.countP Char.isDigit
  between : ∀ front c d rest, text = front ++ c :: d :: rest → c.isDigit = true →
    d.isDigit = true → 0 < size → ¬size ∣ (d :: rest).countP Char.isDigit

/-- A digit is no comma. -/
lemma ne_comma_of_isDigit (h : c.isDigit = true) : c ≠ ',' := by
  rintro rfl
  cases h

namespace Grouped

variable {text : List Char}

/-- The commas do not count. -/
lemma countP_eq (h : Grouped size ds text) : text.countP Char.isDigit = ds.countP Char.isDigit := by
  rw [← h.digits, List.countP_filter]
  refine List.countP_congr fun c _ => ?_
  simpa using ne_comma_of_isDigit

/-- A character other than a comma is one of the digits. -/
lemma mem_digits (h : Grouped size ds text) (hmem : c ∈ text) (hne : c ≠ ',') : c ∈ ds := by
  rw [← h.digits]
  exact List.mem_filter.2 ⟨hmem, decide_eq_true hne⟩

/-- A text in groups begins with a digit. -/
lemma head?_isDigit (h : Grouped size ds text) (hall : ∀ c ∈ ds, c.isDigit = true)
    (hne : ds ≠ []) : ∃ c ∈ text.head?, c.isDigit = true := by
  cases htext : text with
  | nil =>
    have hnil := h.digits
    rw [htext] at hnil
    exact absurd hnil.symm hne
  | cons c rest =>
    have hcomma : c ≠ ',' := by
      rintro rfl
      obtain ⟨-, ⟨d, hd, -⟩, -⟩ := h.comma [] rest htext
      cases hd
    have hmem : c ∈ text := htext ▸ List.mem_cons_self
    exact ⟨c, rfl, hall c (h.mem_digits hmem hcomma)⟩

/-- Where a comma stands does not depend on what is put before the text. -/
lemma comma_append (h : Grouped size ds text) (before : List Char) {front rest : List Char}
    (heq : text = front ++ ',' :: rest) :
    0 < size ∧ (∃ c ∈ (before ++ front).getLast?, c.isDigit = true) ∧
      (∃ d ∈ rest.head?, d.isDigit = true) ∧ size ∣ rest.countP Char.isDigit := by
  obtain ⟨hsize, ⟨c, hc, hdigit⟩, hrest⟩ := h.comma front rest heq
  exact ⟨hsize, ⟨c, by simp [List.getLast?_append, Option.mem_def.1 hc], hdigit⟩, hrest⟩

/-- No digits have no commas. -/
lemma nil : Grouped size [] [] where
  digits := rfl
  comma front rest h := by simp at h
  between front c d rest h := by simp at h

/-- One more digit in a group. -/
lemma cons (hc : c.isDigit = true) (hinside : 0 < size → ds ≠ [] → ¬size ∣ ds.countP Char.isDigit)
    (h : Grouped size ds text) : Grouped size (c :: ds) (c :: text) where
  digits := by
    rw [List.filter_cons, if_pos (decide_eq_true (ne_comma_of_isDigit hc)), h.digits]
  comma front rest heq := by
    obtain ⟨-, heq'⟩ | ⟨front, rfl, heq'⟩ := List.cons_eq_append_iff.1 heq
    · exact absurd (List.cons.inj heq').1.symm (ne_comma_of_isDigit hc)
    · exact h.comma_append [c] heq'
  between front d e rest heq hd he hsize := by
    obtain ⟨-, heq'⟩ | ⟨front, -, heq'⟩ := List.cons_eq_append_iff.1 heq
    · have htext : text = e :: rest := (List.cons.inj heq').2.symm
      have hmem : e ∈ ds :=
        h.mem_digits (htext ▸ List.mem_cons_self) (ne_comma_of_isDigit he)
      rw [← htext, h.countP_eq]
      exact hinside hsize (List.ne_nil_of_mem hmem)
    · exact h.between front d e rest heq' hd he hsize

/-- One more digit before the groups. -/
lemma consComma (hc : c.isDigit = true) (hsize : 0 < size) (hdvd : size ∣ ds.countP Char.isDigit)
    (hall : ∀ c ∈ ds, c.isDigit = true) (hne : ds ≠ []) (h : Grouped size ds text) :
    Grouped size (c :: ds) (c :: ',' :: text) where
  digits := by
    rw [List.filter_cons, if_pos (decide_eq_true (ne_comma_of_isDigit hc)),
      List.filter_cons_of_neg (by simp), h.digits]
  comma front rest heq := by
    obtain ⟨-, heq₁⟩ | ⟨front, rfl, heq₁⟩ := List.cons_eq_append_iff.1 heq
    · exact absurd (List.cons.inj heq₁).1.symm (ne_comma_of_isDigit hc)
    obtain ⟨rfl, heq₂⟩ | ⟨front, rfl, heq₂⟩ := List.cons_eq_append_iff.1 heq₁
    · cases heq₂
      exact ⟨hsize, ⟨c, rfl, hc⟩, h.head?_isDigit hall hne, h.countP_eq.symm ▸ hdvd⟩
    · exact h.comma_append [c, ','] heq₂
  between front d e rest heq hd he _ := by
    obtain ⟨-, heq₁⟩ | ⟨front, -, heq₁⟩ := List.cons_eq_append_iff.1 heq
    · cases heq₁
      cases he
    obtain ⟨-, heq₂⟩ | ⟨front, -, heq₂⟩ := List.cons_eq_append_iff.1 heq₁
    · cases heq₂
      cases hd
    · exact h.between front d e rest heq₂ hd he hsize

end Grouped

/-- Digits are put in groups. -/
lemma grouped_groupDigits (hsize : 0 < size) (hall : ∀ c ∈ ds, c.isDigit = true) :
    Grouped size ds (groupDigits size ds) := by
  induction ds with
  | nil => exact .nil
  | cons c cs ih =>
    obtain ⟨hc, hcs⟩ := List.forall_mem_cons.1 hall
    have hcount : cs.countP Char.isDigit = cs.length := List.countP_eq_length.2 hcs
    rw [groupDigits]
    split_ifs with hcomma
    · have hdvd : size ∣ cs.countP Char.isDigit := hcount ▸ Nat.dvd_of_mod_eq_zero hcomma.2
      exact .consComma hc hsize hdvd hcs (by simpa using hcomma.1) (ih hcs)
    · have hinside : 0 < size → cs ≠ [] → ¬size ∣ cs.countP Char.isDigit := by
        intro _ hne hdvd
        rw [hcount] at hdvd
        exact hcomma ⟨by simpa using hne, Nat.mod_eq_zero_of_dvd hdvd⟩
      exact .cons hc hinside (ih hcs)

/-- Digits that are not grouped have no commas. -/
lemma grouped_zero (hall : ∀ c ∈ ds, c.isDigit = true) : Grouped 0 ds ds := by
  induction ds with
  | nil => exact .nil
  | cons c cs ih =>
    obtain ⟨hc, hcs⟩ := List.forall_mem_cons.1 hall
    exact .cons hc (fun h => absurd h (Nat.lt_irrefl 0)) (ih hcs)

/-- Digits are put in groups of any size, none for size zero. -/
lemma grouped_spec (size : Nat) (hall : ∀ c ∈ ds, c.isDigit = true) :
    Grouped size ds (grouped size ds) := by
  have hdigits : (!ds.all Char.isDigit) = false := by simpa using hall
  obtain rfl | hsize := Nat.eq_zero_or_pos size
  · rw [grouped, if_pos (.inl rfl)]
    exact grouped_zero hall
  · rw [grouped, hdigits, if_neg (by simp [Nat.ne_of_gt hsize])]
    exact grouped_groupDigits hsize hall

/-! ### Digits before the point -/

/-- The digits of a positive number do not begin with a zero. -/
lemma exists_digits_eq_cons {n : Nat} (h : 0 < n) : ∃ c cs, digits n = c :: cs ∧ c ≠ '0' := by
  have hdigit : ∀ d < 10, 0 < d → Nat.digitChar d ≠ '0' := by decide
  induction n using Nat.strongRecOn with
  | _ n ih =>
    rcases Nat.lt_or_ge n 10 with hn | hn
    · exact ⟨Nat.digitChar n, [], Nat.toDigits_of_lt_base hn, hdigit n hn h⟩
    · have hquotient : 0 < n / 10 := Nat.div_pos hn (by decide)
      obtain ⟨c, cs, hcs, hc⟩ := ih (n / 10) (Nat.div_lt_self h (by decide)) hquotient
      refine ⟨c, cs ++ [Nat.digitChar (n % 10)], ?_, hc⟩
      rw [digits, Nat.toDigits_of_base_le (by decide) hn, ← List.cons_append, ← hcs, digits]

/-- The digits of a number without zeros in front, which are none for zero. -/
def ownDigits (n : Nat) : List Char := if n = 0 then [] else digits n

/-- Without zeros in front a number has its own digits. -/
lemma dropWhile_digits (n : Nat) : (digits n).dropWhile (· == '0') = ownDigits n := by
  unfold ownDigits
  split_ifs with hn
  · subst hn
    rfl
  · obtain ⟨c, cs, hcs, hc⟩ := exists_digits_eq_cons (Nat.pos_of_ne_zero hn)
    rw [hcs, List.dropWhile_cons_of_neg (by simpa using hc)]

/-- The digits of a number are digits. -/
lemma isDigit_of_mem_ownDigits {n : Nat} (h : c ∈ ownDigits n) : c.isDigit = true := by
  unfold ownDigits at h
  split_ifs at h
  · cases h
  · exact Nat.isDigit_of_mem_toDigits (by decide) (by decide) h

/-- Digits take as much room as there are of them. -/
lemma width_eq_length (hall : ∀ c ∈ ds, c.isDigit = true) : width ds = ds.length := by
  have hsize {c : Char} (h : c.isDigit = true) : c.utf8Size = 1 := by
    have hcode : c.toNat ≤ 127 := Nat.le_trans (toNat_of_isDigit h).2 (by decide)
    exact Char.utf8Size_eq_one_iff.2 (UInt32.le_iff_toNat_le.2 hcode)
  have hfold (k : Nat) : ds.foldl (fun n c => n + c.utf8Size) k = k + ds.length := by
    induction ds generalizing k with
    | nil => rfl
    | cons c cs ih =>
      obtain ⟨hc, hcs⟩ := List.forall_mem_cons.1 hall
      rw [List.foldl_cons, ih hcs, hsize hc, List.length_cons]
      omega
  rw [width, hfold, Nat.zero_add]

/-- The digits of a number with zeros in front up to the least number of them. -/
def filledDigits (least n : Nat) : List Char :=
  List.replicate (least - (ownDigits n).length) '0' ++ ownDigits n

/-- The digits of a number are trimmed and filled up. -/
lemma wholeText_digits (least n : Nat) : wholeText least (digits n) = filledDigits least n := by
  rw [wholeText, dropWhile_digits, width_eq_length fun _ => isDigit_of_mem_ownDigits, filledDigits]

/-- The digits before the point of a number with nothing but required zeros after it.  A single
zero stands where there would be no digit at all. -/
def wholeDigits (l : Layout) (n : Nat) : List Char :=
  if filledDigits l.minWhole n = [] ∧ l.minFraction = 0 then ['0'] else filledDigits l.minWhole n

/-- What stands before the point are digits. -/
lemma isDigit_of_mem_wholeDigits {l : Layout} {n : Nat} (h : c ∈ wholeDigits l n) :
    c.isDigit = true := by
  unfold wholeDigits at h
  split_ifs at h
  · obtain rfl := List.mem_singleton.1 h
    rfl
  · rcases List.mem_append.1 h with h | h
    · obtain ⟨-, rfl⟩ := List.mem_replicate.1 h
      rfl
    · exact isDigit_of_mem_ownDigits h

/-- Where there are no digits after the point, the required zeros stand there. -/
lemma fractionText_nil (least : Nat) : fractionText least [] = List.replicate least '0' := by
  simp [fractionText]

/-! ### Texts of integers -/

/-- Surrounding text does not change the factor. -/
@[simp]
lemma Part.multiplier_push (p : Part) (place : Place) (c : Char) :
    (p.push place c).multiplier = p.multiplier := by
  unfold push
  split_ifs <;> rfl

/-- No sign asks for the factor zero. -/
lemma Part.multiplier_pushSign_pos {p : Part} (hp : 0 < p.multiplier) (place : Place) (c : Char) :
    0 < (p.pushSign place c).multiplier := by
  unfold pushSign
  split_ifs
  · exact Nat.zero_lt_succ _
  · exact Nat.zero_lt_succ _
  · rwa [multiplier_push]
  · rwa [multiplier_push]

/-- The factor stays positive while a part is read. -/
lemma multiplier_pos_of_readPart {place : Place} {quoted : Bool} {p q : Part}
    (h : readPart place quoted p cs = some q) (hp : 0 < p.multiplier) : 0 < q.multiplier := by
  fun_induction readPart place quoted p cs with
  | case1 | case5 => cases h
  | case2 =>
    cases h
    exact hp
  | case3 _ _ _ _ ih => exact ih h (by rwa [Part.multiplier_push])
  | case4 _ _ _ _ _ ih => exact ih h hp
  | case6 _ _ _ _ _ _ _ _ _ ih => exact ih h hp
  | case7 _ _ _ _ _ _ _ ih => exact ih h (by rwa [Part.multiplier_push])
  | case8 _ _ _ _ _ _ _ _ _ ih => exact ih h (Part.multiplier_pushSign_pos hp ..)

/-- A pattern that is read has a positive factor. -/
lemma multiplier_pos {text : String} {p : NumberPattern} (h : parse? text = some p) :
    0 < p.multiplier := by
  simp only [parse?, Option.bind_eq_bind, Option.bind_eq_some_iff] at h
  obtain ⟨pos, hpos, layout, -, h⟩ := h
  have hmultiplier : p.multiplier = pos.multiplier := by
    split at h
    · cases h
      rfl
    · obtain ⟨affixes, -, h⟩ := Option.bind_eq_some_iff.1 h
      cases h
      rfl
  exact hmultiplier ▸ multiplier_pos_of_readPart hpos Nat.zero_lt_one

/-- The text around digits with nothing but required zeros after the point. -/
lemma assemble_digits (p : NumberPattern) (negative : Bool) (n : Nat) :
    p.assemble negative (digits n) [] = String.ofList (
      (if negative then p.negLeading else p.posLeading) ++
      grouped p.layout.grouping (wholeDigits p.layout n) ++
      (if p.layout.minFraction = 0 then [] else
        '.' :: List.replicate p.layout.minFraction '0') ++
      (if negative then p.negTrailing else p.posTrailing)) := by
  have hwhole : (if (filledDigits p.layout.minWhole n).isEmpty &&
      (List.replicate p.layout.minFraction '0').isEmpty then ['0']
        else filledDigits p.layout.minWhole n) = wholeDigits p.layout n := by
    simp [wholeDigits]
  simp only [assemble, fractionText_nil, wholeText_digits, hwhole]
  cases negative <;> simp

/-- The text of an integer: the surroundings that its sign asks for, the digits of its product with
the factor in groups, and zeros after the point where the pattern requires them. -/
theorem formatInt_eq {text : String} {p : NumberPattern} (h : parse? text = some p) (v : Int) :
    ∃ whole, Grouped p.layout.grouping (wholeDigits p.layout (v.natAbs * p.multiplier)) whole ∧
      p.formatInt v = String.ofList (
        (if v < 0 then p.negLeading else p.posLeading) ++ whole ++
        (if p.layout.minFraction = 0 then [] else
          '.' :: List.replicate p.layout.minFraction '0') ++
        (if v < 0 then p.negTrailing else p.posTrailing)) := by
  have hfactor : (0 : Int) < p.multiplier := Int.natCast_pos.2 (multiplier_pos h)
  have hsign : v * p.multiplier < 0 ↔ v < 0 :=
    ⟨fun h => Int.neg_of_mul_neg_left h hfactor, fun h => Int.mul_neg_of_neg_of_pos h hfactor⟩
  refine ⟨_, grouped_spec _ fun c hc => isDigit_of_mem_wholeDigits hc, ?_⟩
  rw [formatInt, assemble_digits]
  simp only [hsign, decide_eq_true_eq]

/-- A negative amount with groups of three digits, two places after the point and parentheses in
place of the minus sign. -/
theorem formatInt_eq_negative : ∃ p, parse? "#,##0.00;(#,##0.00)" = some p ∧
    ∃ whole, Grouped 3 "1234567".toList whole ∧
      p.formatInt (-1234567) = String.ofList ('(' :: whole ++ ".00)".toList) := by
  have hparse : parse? "#,##0.00;(#,##0.00)" =
      some ⟨[], [], ['('], [')'], ⟨1, 2, 2, 3⟩, 1⟩ := by decide +kernel
  obtain ⟨whole, hwhole, htext⟩ := formatInt_eq hparse (-1234567)
  have hdigits : wholeDigits ⟨1, 2, 2, 3⟩ 1234567 = "1234567".toList := by decide +kernel
  refine ⟨_, hparse, whole, hdigits ▸ hwhole, ?_⟩
  rw [htext]
  simp [List.replicate]

example : (parse? "#,##0.00;(#,##0.00)").map (·.formatInt (-1234567)) = some "(1,234,567.00)" := by
  decide +kernel

end ChartQuery.NumberPattern
