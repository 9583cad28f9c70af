import ChartQuery.Proofs.Numerals
import Mathlib.Data.List.TakeWhile
import Mathlib.Tactic.Ring

/-!
# Texts that spell numbers

What an integer and what a number of double precision is written as, without saying how it is read:
an optional sign and digits; or digits with at most one point among them and possibly an exponent,
or one of the words for infinity and for no number.  Each reader reads exactly these texts
(`Numeral.integer?_eq_some_iff`, `Numeral.binary64?_eq_some_iff`).

The parts of such a text are told apart by the character that each of them begins with, which is
never a digit.  So the digits in front of a part are all taken, and no more than they.
-/

namespace ChartQuery.Numeral

open Numeric

variable {cs ds rest : List Char} {s : String} {n : Nat} {z : Int} {negative : Bool} {d : Decimal}
  {x : Binary64}

/-! ## Integers -/

/-- Decimal digits, at least one. -/
def Digits (cs : List Char) : Prop := cs ≠ [] ∧ ∀ c ∈ cs, c.isDigit = true

instance (cs : List Char) : Decidable (Digits cs) :=
  decidable_of_iff (cs ≠ [] ∧ cs.all Char.isDigit = true) (by rw [Digits, List.all_eq_true])

/-- Digits begin with a digit. -/
lemma Digits.exists_cons (h : Digits cs) : ∃ c rest, cs = c :: rest ∧ c.isDigit = true := by
  obtain ⟨c, rest, rfl⟩ := List.exists_cons_of_ne_nil h.1
  exact ⟨c, rest, rfl, h.2 c List.mem_cons_self⟩

/-- Digits stand for less than the power of ten with as many zeros. -/
lemma ofDigits_lt (h : ∀ c ∈ ds, c.isDigit = true) : ofDigits ds < 10 ^ ds.length := by
  have hfold (k : Nat) :
      ds.foldl (fun n c => 10 * n + (c.toNat - 48)) k < (k + 1) * 10 ^ ds.length := by
    induction ds generalizing k with
    | nil => simp
    | cons d ds ih =>
      obtain ⟨hd, hds⟩ := List.forall_mem_cons.1 h
      have hvalue : d.toNat - 48 ≤ 9 := by
        have hrange := toNat_of_isDigit hd
        omega
      calc (d :: ds).foldl (fun n c => 10 * n + (c.toNat - 48)) k
          < (10 * k + (d.toNat - 48) + 1) * 10 ^ ds.length := ih hds _
        _ ≤ (10 * (k + 1)) * 10 ^ ds.length := Nat.mul_le_mul_right _ (by omega)
        _ = (k + 1) * 10 ^ (ds.length + 1) := by ring
  simpa [ofDigits] using hfold 0

/-- `NaturalText cs n`: the characters are digits for the number, possibly with a plus sign. -/
inductive NaturalText : List Char → Nat → Prop
  | plain {ds : List Char} (h : Digits ds) : NaturalText ds (ofDigits ds)
  | plus {ds : List Char} (h : Digits ds) : NaturalText ('+' :: ds) (ofDigits ds)

/-- `IntegerText cs z`: the characters are digits for the number, possibly with a sign. -/
inductive IntegerText : List Char → Int → Prop
  | natural {cs : List Char} {n : Nat} (h : NaturalText cs n) : IntegerText cs n
  | minus {ds : List Char} (h : Digits ds) : IntegerText ('-' :: ds) (-(ofDigits ds : Int))

/-- An integer is made of digits and a sign. -/
lemma IntegerText.of_mem {c : Char} (h : IntegerText cs z) (hc : c ∈ cs) :
    c.isDigit = true ∨ c = '+' ∨ c = '-' := by
  cases h with
  | natural h =>
    cases h with
    | plain h => exact .inl (h.2 c hc)
    | plus h =>
      rcases List.mem_cons.1 hc with rfl | hc
      · exact .inr (.inl rfl)
      · exact .inl (h.2 c hc)
  | minus h =>
    rcases List.mem_cons.1 hc with rfl | hc
    · exact .inr (.inr rfl)
    · exact .inl (h.2 c hc)

/-- Digits are read as the number that they stand for, and nothing else is. -/
lemma digitsValue?_eq_some_iff : digitsValue? cs = some n ↔ Digits cs ∧ ofDigits cs = n := by
  have htest : (!cs.isEmpty && cs.all Char.isDigit) = true ↔ Digits cs := by
    simp [Digits]
  unfold digitsValue?
  split
  · next h => rw [Option.some.injEq, and_iff_right (htest.1 h)]
  · next h => exact iff_of_false nofun fun hdigits => h (htest.2 hdigits.1)

/-- A text of digits has no sign in front. -/
lemma not_digits_cons {c : Char} (hc : c.isDigit = false) : ¬ Digits (c :: rest) := fun h =>
  absurd (h.2 c List.mem_cons_self) (by simp [hc])

/-- A plus sign in front of a natural number does not count. -/
lemma naturalText_plus_iff : NaturalText ('+' :: rest) n ↔ Digits rest ∧ ofDigits rest = n := by
  constructor
  · intro h
    cases h with
    | plain h => exact absurd h (not_digits_cons rfl)
    | plus h => exact ⟨h, rfl⟩
  · rintro ⟨h, rfl⟩
    exact .plus h

/-- Without a plus sign a natural number is its digits. -/
lemma naturalText_iff (hplus : ∀ rest, cs ≠ '+' :: rest) :
    NaturalText cs n ↔ Digits cs ∧ ofDigits cs = n := by
  constructor
  · intro h
    cases h with
    | plain h => exact ⟨h, rfl⟩
    | plus h => exact absurd rfl (hplus _)
  · rintro ⟨h, rfl⟩
    exact .plain h

/-- A text is read as a natural number below a bound exactly if it spells one. -/
theorem natural?_eq_some_iff {bound : Nat} :
    natural? bound s = some n ↔ NaturalText s.toList n ∧ n < bound := by
  unfold natural?
  dsimp only
  rw [Option.filter_eq_some_iff, decide_eq_true_iff]
  refine and_congr_left fun _ => ?_
  split
  · next heq => rw [heq, digitsValue?_eq_some_iff, naturalText_plus_iff]
  · next hplus => rw [digitsValue?_eq_some_iff, naturalText_iff hplus]

/-- A text is read as a number with a sign exactly if it spells an integer. -/
lemma exponent?_eq_some_iff : exponent? cs = some z ↔ IntegerText cs z := by
  unfold exponent?
  split
  · next rest =>
    rw [Option.map_eq_some_iff]
    simp only [digitsValue?_eq_some_iff]
    constructor
    · rintro ⟨n, ⟨h, rfl⟩, rfl⟩
      exact .natural (.plus h)
    · intro h
      cases h with
      | natural h => exact ⟨_, naturalText_plus_iff.1 h, rfl⟩
  · rw [Option.map_eq_some_iff]
    simp only [digitsValue?_eq_some_iff]
    constructor
    · rintro ⟨n, ⟨h, rfl⟩, rfl⟩
      exact .minus h
    · intro h
      cases h with
      | natural h =>
        exact absurd ((naturalText_iff (by simp)).1 h).1 (not_digits_cons rfl)
      | minus h => exact ⟨_, ⟨h, rfl⟩, rfl⟩
  · next hplus hminus =>
    rw [Option.map_eq_some_iff]
    simp only [digitsValue?_eq_some_iff]
    constructor
    · rintro ⟨n, ⟨h, rfl⟩, rfl⟩
      exact .natural (.plain h)
    · intro h
      cases h with
      | natural h => exact ⟨_, (naturalText_iff hplus).1 h, rfl⟩
      | minus h => exact absurd rfl (hminus _)

/-- **Integers are read as they are spelled**, if they fit into so many bits. -/
theorem integer?_eq_some_iff {bits : Nat} : integer? bits s = some z ↔
    IntegerText s.toList z ∧ -2 ^ (bits - 1) ≤ z ∧ z < 2 ^ (bits - 1) := by
  have hread : integer? bits s = (exponent? s.toList).filter fun n =>
      -Int.pow 2 (bits - 1) ≤ n && n < Int.pow 2 (bits - 1) := rfl
  rw [hread, Option.filter_eq_some_iff, exponent?_eq_some_iff, Bool.and_eq_true,
    decide_eq_true_iff, decide_eq_true_iff]
  rfl

/-! ## Decimals -/

/-- `FractionText cs ds`: the digits behind a point, or no point and no digits. -/
inductive FractionText : List Char → List Char → Prop
  | whole : FractionText [] []
  | point {ds : List Char} (h : ∀ c ∈ ds, c.isDigit = true) : FractionText ('.' :: ds) ds

/-- `ExponentText cs z`: the letter of an exponent with an integer behind it, or nothing. -/
inductive ExponentText : List Char → Int → Prop
  | one : ExponentText [] 0
  | letter {x : Char} {cs : List Char} {z : Int} (hx : x = 'e' ∨ x = 'E') (h : IntegerText cs z) :
    ExponentText (x :: cs) z

/-- `DecimalText cs d`: the characters are digits with at most one point among them, of which there
is at least one, and possibly an exponent, and they spell the decimal. -/
inductive DecimalText : List Char → Decimal → Prop
  | mk {whole fraction ds exponent : List Char} {z : Int} (hwhole : ∀ c ∈ whole, c.isDigit = true)
      (hfraction : FractionText fraction ds) (hsome : whole ++ ds ≠ [])
      (hexponent : ExponentText exponent z) :
    DecimalText (whole ++ (fraction ++ exponent)) ⟨ofDigits (whole ++ ds), z - ds.length⟩

/-- Digits are taken up to what is no digit. -/
lemma takeWhile_isDigit_append (hds : ∀ c ∈ ds, c.isDigit = true)
    (hrest : ∀ c ∈ rest.head?, c.isDigit = false) :
    (ds ++ rest).takeWhile Char.isDigit = ds ∧ (ds ++ rest).dropWhile Char.isDigit = rest := by
  have hnone : rest.takeWhile Char.isDigit = [] ∧ rest.dropWhile Char.isDigit = rest := by
    cases rest with
    | nil => exact ⟨rfl, rfl⟩
    | cons c cs =>
      have hc : c.isDigit = false := hrest c rfl
      exact ⟨List.takeWhile_cons_of_neg (by simp [hc]), List.dropWhile_cons_of_neg (by simp [hc])⟩
  rw [List.takeWhile_append_of_pos hds, List.dropWhile_append_of_pos hds, hnone.1, hnone.2,
    List.append_nil]
  exact ⟨rfl, rfl⟩

/-- An exponent does not begin with a digit or a point. -/
lemma ExponentText.head? (h : ExponentText cs z) :
    ∀ c ∈ cs.head?, c.isDigit = false ∧ c ≠ '.' := by
  cases h with
  | one => simp
  | letter hx h => rcases hx with rfl | rfl <;> simp

/-- A fraction with an exponent does not begin with a digit. -/
lemma FractionText.head? (hfraction : FractionText cs ds) (hexponent : ExponentText rest z) :
    ∀ c ∈ (cs ++ rest).head?, c.isDigit = false := by
  cases hfraction with
  | whole => exact fun c hc => (hexponent.head? c hc).1
  | point h => simp

/-- What stands behind the whole digits of a decimal: the digits behind its point, and the rest. -/
def fractionPart : List Char → List Char × List Char
  | '.' :: rest => (rest.takeWhile Char.isDigit, rest.dropWhile Char.isDigit)
  | rest => ([], rest)

/-- What stands behind all digits of a decimal, as its exponent. -/
def exponentPart? : List Char → Option Int
  | [] => some 0
  | 'e' :: rest => exponent? rest
  | 'E' :: rest => exponent? rest
  | _ => none

/-- A decimal is read part by part. -/
lemma decimal?_eq (cs : List Char) : decimal? cs =
    let whole := cs.takeWhile Char.isDigit
    let parts := fractionPart (cs.dropWhile Char.isDigit)
    if (whole ++ parts.1).isEmpty then none
    else (exponentPart? parts.2).map fun z => ⟨ofDigits (whole ++ parts.1), z - parts.1.length⟩ :=
  rfl

/-- The digits behind a point are found in front of what is no digit and no point. -/
lemma FractionText.fractionPart_append (h : FractionText cs ds)
    (hrest : ∀ c ∈ rest.head?, c.isDigit = false ∧ c ≠ '.') :
    fractionPart (cs ++ rest) = (ds, rest) := by
  cases h with
  | whole =>
    unfold fractionPart
    split
    · next heq => exact absurd rfl (hrest '.' (by rw [← List.nil_append rest, heq]; rfl)).2
    · rfl
  | point h =>
    obtain ⟨htake, hdrop⟩ := takeWhile_isDigit_append h fun c hc => (hrest c hc).1
    rw [List.cons_append, fractionPart, htake, hdrop]

/-- What is taken for the digits behind a point stands behind one. -/
lemma fractionText_of_fractionPart (h : fractionPart cs = (ds, rest)) :
    ∃ fraction, cs = fraction ++ rest ∧ FractionText fraction ds := by
  unfold fractionPart at h
  split at h
  · next tail =>
    cases h
    refine ⟨'.' :: tail.takeWhile Char.isDigit, ?_, .point fun c => List.mem_takeWhile_imp⟩
    rw [List.cons_append, List.takeWhile_append_dropWhile]
  · cases h
    exact ⟨[], rfl, .whole⟩

/-- What is read as an exponent is one. -/
lemma exponentPart?_eq_some_iff : exponentPart? cs = some z ↔ ExponentText cs z := by
  constructor
  · intro h
    unfold exponentPart? at h
    split at h
    · cases h
      exact .one
    · exact .letter (.inl rfl) (exponent?_eq_some_iff.1 h)
    · exact .letter (.inr rfl) (exponent?_eq_some_iff.1 h)
    · cases h
  · intro h
    cases h with
    | one => rfl
    | letter hx h => rcases hx with rfl | rfl <;> exact exponent?_eq_some_iff.2 h

/-- **Decimals are read as they are spelled.** -/
theorem decimal?_eq_some_iff : decimal? cs = some d ↔ DecimalText cs d := by
  rw [decimal?_eq]
  constructor
  · intro h
    have hsplit := List.takeWhile_append_dropWhile (p := Char.isDigit) (l := cs)
    have hwhole : ∀ c ∈ cs.takeWhile Char.isDigit, c.isDigit = true := fun c =>
      List.mem_takeWhile_imp
    dsimp only at h
    generalize cs.takeWhile Char.isDigit = whole at *
    obtain ⟨ds, rest, hparts⟩ : ∃ ds rest, fractionPart (cs.dropWhile Char.isDigit) = (ds, rest) :=
      ⟨_, _, rfl⟩
    obtain ⟨fraction, hcs, hfraction⟩ := fractionText_of_fractionPart hparts
    rw [hparts] at h
    split at h
    · cases h
    · next hsome =>
      obtain ⟨z, hz, rfl⟩ := Option.map_eq_some_iff.1 h
      rw [hcs] at hsplit
      exact hsplit ▸ .mk hwhole hfraction (fun hnil => hsome (List.isEmpty_iff.2 hnil))
        (exponentPart?_eq_some_iff.1 hz)
  · rintro ⟨hwhole, hfraction, hsome, hexponent⟩
    obtain ⟨htake, hdrop⟩ := takeWhile_isDigit_append hwhole (hfraction.head? hexponent)
    simp only [htake, hdrop, hfraction.fractionPart_append hexponent.head?,
      exponentPart?_eq_some_iff.2 hexponent, List.isEmpty_iff, if_neg hsome]
    rfl

/-! ## Numbers -/

/-- What a number is without its sign. -/
inductive Magnitude
  | decimal (d : Decimal)
  | infinite
  | undefined

/-- The number of double precision that a magnitude becomes. -/
def Magnitude.toBinary64 (negative : Bool) : Magnitude → Binary64
  | decimal d => .ofDecimal negative d
  | infinite => .infinite negative
  | undefined => .nan

/-- `MagnitudeText cs m`: a decimal, or a word in any mixture of cases. -/
inductive MagnitudeText : List Char → Magnitude → Prop
  | decimal {cs : List Char} {d : Decimal} (h : DecimalText cs d) : MagnitudeText cs (.decimal d)
  | infinite {cs : List Char} (h : cs.map Char.toLower = "inf".toList ∨
      cs.map Char.toLower = "infinity".toList) : MagnitudeText cs .infinite
  | undefined {cs : List Char} (h : cs.map Char.toLower = "nan".toList) :
    MagnitudeText cs .undefined

/-- `NumberText cs negative m`: a magnitude, possibly with a sign in front. -/
inductive NumberText : List Char → Bool → Magnitude → Prop
  | plain {cs : List Char} {m : Magnitude} (h : MagnitudeText cs m) : NumberText cs false m
  | plus {cs : List Char} {m : Magnitude} (h : MagnitudeText cs m) : NumberText ('+' :: cs) false m
  | minus {cs : List Char} {m : Magnitude} (h : MagnitudeText cs m) : NumberText ('-' :: cs) true m

/-- A decimal begins with a digit or a point. -/
lemma DecimalText.exists_cons (h : DecimalText cs d) :
    ∃ c rest, cs = c :: rest ∧ (c.isDigit = true ∨ c = '.') := by
  obtain ⟨hwhole, hfraction, hsome, -⟩ := h
  rename_i whole fraction ds exponent z
  cases whole with
  | nil =>
    cases hfraction with
    | whole => exact absurd rfl hsome
    | point h => exact ⟨'.', _, rfl, .inr rfl⟩
  | cons c whole => exact ⟨c, _, rfl, .inl (hwhole c List.mem_cons_self)⟩

/-- A digit or a point is its own lower case. -/
lemma toLower_of_isDigit {c : Char} (h : c.isDigit = true ∨ c = '.') : c.toLower = c := by
  rcases h with hc | rfl
  · refine dif_neg fun hupper => ?_
    simp only [Char.isDigit, Bool.and_eq_true, decide_eq_true_eq] at hc
    exact absurd (UInt32.le_trans hupper.1 hc.2) (by decide)
  · rfl

/-- **Magnitudes are read as they are spelled.** -/
theorem unsigned?_eq_some_iff : unsigned? negative cs = some x ↔
    ∃ m, MagnitudeText cs m ∧ m.toBinary64 negative = x := by
  have hword {word : String} (h : String.ofList (cs.map Char.toLower) = word) :
      cs.map Char.toLower = word.toList := by
    rw [← h, String.toList_ofList]
  constructor
  · intro h
    unfold unsigned? at h
    split at h
    · next heq =>
      cases h
      exact ⟨_, .infinite (.inl (hword heq)), rfl⟩
    · next heq =>
      cases h
      exact ⟨_, .infinite (.inr (hword heq)), rfl⟩
    · next heq =>
      cases h
      exact ⟨_, .undefined (hword heq), rfl⟩
    · obtain ⟨d, hd, rfl⟩ := Option.map_eq_some_iff.1 h
      exact ⟨_, .decimal (decimal?_eq_some_iff.1 hd), rfl⟩
  · rintro ⟨m, hm, rfl⟩
    cases hm with
    | infinite h =>
      rcases h with h | h
      all_goals
        unfold unsigned?
        rw [h]
        rfl
    | undefined h =>
      unfold unsigned?
      rw [h]
      rfl
    | decimal h =>
      have hread := decimal?_eq_some_iff.2 h
      obtain ⟨c, rest, rfl, hc⟩ := h.exists_cons
      -- the words begin with a letter
      have hother {word : String} (heq : String.ofList ((c :: rest).map Char.toLower) = word) :
          ∀ a ∈ word.toList.head?, a.isDigit = true ∨ a = '.' := by
        rw [← heq, String.toList_ofList]
        rintro a ⟨⟩
        rwa [toLower_of_isDigit hc]
      unfold unsigned?
      split
      · next heq => exact absurd (hother heq 'i' rfl) (by decide)
      · next heq => exact absurd (hother heq 'i' rfl) (by decide)
      · next heq => exact absurd (hother heq 'n' rfl) (by decide)
      · rw [hread]
        rfl

/-- A magnitude has no sign in front. -/
lemma not_magnitudeText_cons {c : Char} {m : Magnitude} (hc : c = '+' ∨ c = '-') :
    ¬ MagnitudeText (c :: rest) m := by
  intro h
  cases h with
  | decimal h =>
    obtain ⟨a, as, heq, ha⟩ := h.exists_cons
    cases heq
    rcases hc with rfl | rfl <;> simp at ha
  | infinite h => rcases hc with rfl | rfl <;> simp at h
  | undefined h => rcases hc with rfl | rfl <;> simp at h

/-- **Numbers are read as they are spelled.** -/
theorem binary64?_eq_some_iff : binary64? s = some x ↔
    ∃ negative m, NumberText s.toList negative m ∧ m.toBinary64 negative = x := by
  unfold binary64?
  generalize s.toList = cs
  split
  · rw [unsigned?_eq_some_iff]
    constructor
    · rintro ⟨m, hm, rfl⟩
      exact ⟨false, m, .plus hm, rfl⟩
    · rintro ⟨negative, m, hm, rfl⟩
      cases hm with
      | plain h => exact absurd h (not_magnitudeText_cons (.inl rfl))
      | plus h => exact ⟨m, h, rfl⟩
  · rw [unsigned?_eq_some_iff]
    constructor
    · rintro ⟨m, hm, rfl⟩
      exact ⟨true, m, .minus hm, rfl⟩
    · rintro ⟨negative, m, hm, rfl⟩
      cases hm with
      | plain h => exact absurd h (not_magnitudeText_cons (.inr rfl))
      | minus h => exact ⟨m, h, rfl⟩
  · next hplus hminus =>
    rw [unsigned?_eq_some_iff]
    constructor
    · rintro ⟨m, hm, rfl⟩
      exact ⟨false, m, .plain hm, rfl⟩
    · rintro ⟨negative, m, hm, rfl⟩
      cases hm with
      | plain h => exact ⟨m, h, rfl⟩
      | plus h => exact absurd rfl (hplus _)
      | minus h => exact absurd rfl (hminus _)

/-- An integer is a number. -/
lemma IntegerText.exists_numberText (h : IntegerText cs z) :
    ∃ negative m, NumberText cs negative m := by
  have hdecimal {ds : List Char} (hds : Digits ds) : ∃ d, DecimalText ds d := by
    have hmk := DecimalText.mk hds.2 .whole (by simpa using hds.1) .one
    rw [List.append_nil, List.append_nil] at hmk
    exact ⟨_, hmk⟩
  cases h with
  | natural h =>
    cases h with
    | plain h =>
      obtain ⟨d, hd⟩ := hdecimal h
      exact ⟨_, _, .plain (.decimal hd)⟩
    | plus h =>
      obtain ⟨d, hd⟩ := hdecimal h
      exact ⟨_, _, .plus (.decimal hd)⟩
  | minus h =>
    obtain ⟨d, hd⟩ := hdecimal h
    exact ⟨_, _, .minus (.decimal hd)⟩

/-! ## Blanks -/

/-- There are no blanks in an integer. -/
lemma IntegerText.isBlank_of_mem {c : Char} (h : IntegerText cs z) (hc : c ∈ cs) :
    Text.isBlank c = false := by
  rcases h.of_mem hc with hdigit | rfl | rfl
  · exact Text.isBlank_of_isDigit hdigit
  · rfl
  · rfl

/-- There are no blanks in a decimal. -/
lemma DecimalText.isBlank_of_mem {c : Char} (h : DecimalText cs d) (hc : c ∈ cs) :
    Text.isBlank c = false := by
  obtain ⟨hwhole, hfraction, -, hexponent⟩ := h
  rcases List.mem_append.1 hc with hc | hc
  · exact Text.isBlank_of_isDigit (hwhole c hc)
  rcases List.mem_append.1 hc with hc | hc
  · cases hfraction with
    | whole => cases hc
    | point hds =>
      rcases List.mem_cons.1 hc with rfl | hc
      · rfl
      · exact Text.isBlank_of_isDigit (hds c hc)
  · cases hexponent with
    | one => cases hc
    | letter hx h =>
      rcases List.mem_cons.1 hc with rfl | hc
      · rcases hx with rfl | rfl <;> rfl
      · exact h.isBlank_of_mem hc

/-- A blank is its own lower case. -/
lemma toLower_of_isBlank {c : Char} (h : Text.isBlank c = true) : c.toLower = c := by
  refine dif_neg fun hupper => ?_
  have hcode : 65 ≤ c.toNat ∧ c.toNat ≤ 90 := by
    simpa [UInt32.le_iff_toNat_le] using hupper
  simp only [Text.isBlank, Bool.or_eq_true, Bool.and_eq_true, decide_eq_true_eq, beq_iff_eq] at h
  omega

/-- There are no blanks in a text whose lower case has none. -/
lemma isBlank_of_mem_of_map_toLower {word : List Char} {c : Char}
    (h : cs.map Char.toLower = word) (hword : word.any Text.isBlank = false) (hc : c ∈ cs) :
    Text.isBlank c = false := by
  have hmem : c.toLower ∈ word := h ▸ List.mem_map_of_mem hc
  have hlower := List.any_eq_false.1 hword c.toLower hmem
  by_contra hne
  rw [toLower_of_isBlank (Bool.eq_true_of_not_eq_false hne)] at hlower
  exact hlower (Bool.eq_true_of_not_eq_false hne)

/-- There are no blanks in a magnitude. -/
lemma MagnitudeText.isBlank_of_mem {c : Char} {m : Magnitude} (h : MagnitudeText cs m)
    (hc : c ∈ cs) : Text.isBlank c = false := by
  cases h with
  | decimal h => exact h.isBlank_of_mem hc
  | infinite h =>
    rcases h with h | h
    · exact isBlank_of_mem_of_map_toLower h (by decide) hc
    · exact isBlank_of_mem_of_map_toLower h (by decide) hc
  | undefined h => exact isBlank_of_mem_of_map_toLower h (by decide) hc

/-- There are no blanks in a number. -/
lemma NumberText.isBlank_of_mem {c : Char} {m : Magnitude} (h : NumberText cs negative m)
    (hc : c ∈ cs) : Text.isBlank c = false := by
  cases h with
  | plain h => exact h.isBlank_of_mem hc
  | plus h | minus h =>
    rcases List.mem_cons.1 hc with rfl | hc
    · rfl
    · exact h.isBlank_of_mem hc

/-- Nothing is trimmed from a number. -/
lemma NumberText.trim_eq_self {m : Magnitude} (h : NumberText s.toList negative m) :
    Text.trim s = s :=
  Text.trim_eq_self (fun _ hc => h.isBlank_of_mem (List.mem_of_mem_head? hc)) fun _ hc =>
    h.isBlank_of_mem (List.mem_of_mem_getLast? hc)

end ChartQuery.Numeral
