import ChartQuery.Proofs.DayNumbers
import Mathlib.Algebra.Order.Field.Power
import Mathlib.Data.Rat.Floor
import Mathlib.Tactic.FieldSimp
import Mathlib.Tactic.Linarith
import Mathlib.Tactic.NormNum

/-!
# Numbers that count milliseconds

A number in a column of dates or times counts milliseconds from the beginning of 1970.  It may be
whole, with a sign or without, of double precision, or a text that spells one.  All of them are
amounts: exact numbers, the two infinities, and what is no number at all.

On the way to an instant an amount is rounded half away from zero and clamped to 64 bits.  The
rounding is done on the quotient of two natural numbers, to which the sign is put afterwards
(`Binary64.toInt64_eq`).  Clamping cannot be seen, because the calendar ends long before 64 bits do
(`Value.ofMillis_clampInt64_eq_ok_iff`); so infinite amounts are refused as well.  What is no number
is neither infinite nor refused: it counts as zero milliseconds.
-/

namespace ChartQuery

/-! ## Rounding -/

/-- A rational number rounded to the nearest integer, a half away from zero. -/
def roundAway (q : ℚ) : ℤ := if 0 ≤ q then ⌊q + 1 / 2⌋ else ⌈q - 1 / 2⌉

/-- An integer is its own nearest one. -/
lemma roundAway_intCast (n : ℤ) : roundAway n = n := by
  have hup : ⌊(n : ℚ) + 1 / 2⌋ = n := by
    rw [Int.floor_eq_iff]
    constructor <;> linarith
  have hdown : ⌈(n : ℚ) - 1 / 2⌉ = n := by
    rw [Int.ceil_eq_iff]
    constructor <;> linarith
  unfold roundAway
  rw [hup, hdown, ite_self]

/-- Rounding does not depend on the sign. -/
lemma roundAway_neg (q : ℚ) : roundAway (-q) = -roundAway q := by
  have hmirror (r : ℚ) : ⌈-r - 1 / 2⌉ = -⌊r + 1 / 2⌋ := by
    rw [← Int.ceil_neg]
    congr 1
    ring
  rcases lt_trichotomy q 0 with hneg | rfl | hpos
  · have hceil := hmirror (-q)
    rw [neg_neg] at hceil
    rw [roundAway, roundAway, if_pos (by linarith), if_neg (by linarith), hceil, neg_neg]
  · have hzero : roundAway 0 = 0 := by exact_mod_cast roundAway_intCast 0
    rw [neg_zero, hzero, neg_zero]
  · rw [roundAway, roundAway, if_neg (by linarith), if_pos hpos.le, hmirror]

/-- The quotient of natural numbers that is rounded in whole numbers. -/
lemma roundHalfUp_eq {num den : ℕ} (hden : 0 < den) :
    (Numeric.roundHalfUp num den : ℤ) = roundAway (num / den) := by
  have hpos : (0 : ℚ) < den := by exact_mod_cast hden
  have hquotient : (num : ℚ) / den + 1 / 2 = ((2 * num + den : ℕ) : ℚ) / (2 * den : ℕ) := by
    push_cast
    field_simp
  rw [roundAway, if_pos (by positivity), hquotient, Rat.floor_natCast_div_natCast]
  rfl

/-! ## Amounts -/

/-- An amount: an exact number, an infinity, or what is no number. -/
inductive Amount
  | undefined
  | infinite (negative : Bool)
  | exact (q : ℚ)

namespace Binary64

/-- The amount that a double precision number is. -/
def amount : Binary64 → Amount
  | nan => .undefined
  | infinite negative => .infinite negative
  | finite negative m e => .exact (if negative then -(m * 2 ^ e) else m * 2 ^ e)

/-- A mantissa times a power of two is the quotient that it is taken for. -/
lemma ratio_eq (m : ℕ) (e : ℤ) :
    0 < (ratio m e).2 ∧ ((ratio m e).1 : ℚ) / (ratio m e).2 = m * 2 ^ e := by
  unfold ratio
  split
  · next h =>
    obtain ⟨k, rfl⟩ := Int.eq_ofNat_of_zero_le h
    simp
  · next h =>
    obtain ⟨k, rfl⟩ : ∃ k : ℕ, e = -k := ⟨(-e).toNat, by omega⟩
    refine ⟨Nat.pow_pos (by decide), ?_⟩
    simp [div_eq_mul_inv]

/-- The magnitude of a finite number. -/
lemma abs_of_amount {negative : Bool} {m : ℕ} {e : ℤ} {q : ℚ}
    (h : (finite negative m e).amount = .exact q) : (m : ℚ) * 2 ^ e = |q| := by
  have hnonneg : (0 : ℚ) ≤ m * 2 ^ e := by positivity
  cases negative with
  | false =>
    cases h
    exact (abs_of_nonneg hnonneg).symm
  | true =>
    cases h
    exact ((abs_neg _).trans (abs_of_nonneg hnonneg)).symm

/-- The numbers below zero are the negative ones. -/
lemma isNegative_iff {x : Binary64} {q : ℚ} (h : x.amount = .exact q) :
    x.isNegative = true ↔ q < 0 := by
  cases x with
  | nan | infinite => cases h
  | finite negative m e =>
    cases h
    have hunit : (0 : ℚ) < 2 ^ e := by positivity
    cases negative with
    | false => simpa [isNegative] using mul_nonneg (Nat.cast_nonneg m) hunit.le
    | true => simp [isNegative, hunit, Nat.pos_iff_ne_zero]

/-- **The integer of a number** is its exact value rounded half away from zero and clamped to 64
bits; infinities lie beyond all integers of 64 bits, and what is no number is zero. -/
lemma toInt64_eq (x : Binary64) : x.toInt64 =
    match x.amount with
    | .undefined => 0
    | .infinite negative => clampInt64 (if negative then -Int.pow 2 64 else Int.pow 2 64)
    | .exact q => clampInt64 (roundAway q) := by
  cases x with
  | nan | infinite => rfl
  | finite negative m e =>
    obtain ⟨hden, hratio⟩ := ratio_eq m e
    have hround : (Numeric.roundHalfUp (ratio m e).1 (ratio m e).2 : ℤ) =
        roundAway (m * 2 ^ e) := by
      rw [roundHalfUp_eq hden, hratio]
    simp only [toInt64, amount, hround]
    cases negative with
    | false => rfl
    | true =>
      rw [if_pos rfl, if_pos rfl, roundAway_neg]

end Binary64

/-- The amount that a value of a column of dates or times is.  A text is read as a number unless the
data of the column are texts. -/
def Value.amount? (fromText : Bool) : Value → Option Amount
  | int n => some (.exact n)
  | uint n => some (.exact n)
  | float x => some x.amount
  | string s =>
    if fromText then none else (Numeral.binary64? (Text.trim s)).map Binary64.amount
  | null | bool _ | timeOfDay .. => none

/-! ## Instants by their milliseconds -/

/-- `LiesAt i ms`: the instant lies exactly so many milliseconds after the beginning of 1970, and in
no leap second. -/
structure Instant.LiesAt (i : Instant) (ms : ℤ) : Prop where
  nanos : 86400000000000 * (i.date.number - Date.epoch.number) +
    Calendar.nanosPerSecond * i.clock.seconds + i.clock.nano = Calendar.nanosPerMilli * ms
  noLeap : i.clock.nano < Calendar.nanosPerSecond

namespace Clock

variable {ms : ℕ} {c : Clock}

/-- A time of day that is found from milliseconds lies after so many of them. -/
lemma ofMillisOfDay?_spec (h : ofMillisOfDay? ms = some c) :
    Calendar.nanosPerSecond * c.seconds + c.nano = Calendar.nanosPerMilli * ms ∧
      c.nano < Calendar.nanosPerSecond := by
  unfold ofMillisOfDay? ofMillis? ofNanos? at h
  split at h
  · cases h
    simp only [seconds, Calendar.nanosPerSecond, Calendar.nanosPerMilli]
    omega
  · cases h

end Clock

namespace Instant

variable {ms : ℤ} {i : Instant}

/-- An instant in no leap second that lies after whole milliseconds has that many. -/
lemma LiesAt.epochMillis_eq (h : i.LiesAt ms) :
    i.epochMillis = ms ∧ i.clock.truncated = i.clock := by
  obtain ⟨hnanos, hleap⟩ := h
  have htruncated := i.clock.truncated_nano.1 hleap
  simp only [Calendar.nanosPerSecond, Calendar.nanosPerMilli] at hnanos hleap htruncated
  have hwhole : i.clock.nano % 1000000 = 0 := by omega
  constructor
  · simp only [epochMillis, Clock.millisOfDay, Clock.millis, millisPerDay, Calendar.nanosPerMilli]
    omega
  · rw [hwhole, Nat.sub_zero] at htruncated
    rw [Clock.mk.injEq]
    exact ⟨rfl, rfl, rfl, htruncated⟩

/-- The instant that is found from milliseconds lies after exactly so many of them. -/
theorem ofEpochMillis?_eq_some_iff : ofEpochMillis? ms = some i ↔ i.LiesAt ms := by
  constructor
  · intro h
    obtain ⟨d, hd, h⟩ := Option.bind_eq_some_iff.1 h
    obtain ⟨c, hc, h⟩ := Option.bind_eq_some_iff.1 h
    cases h
    have hnumber := Date.ofNumber?_eq_some_iff.1 hd
    obtain ⟨hnanos, hleap⟩ := Clock.ofMillisOfDay?_spec hc
    refine ⟨?_, hleap⟩
    rw [hnumber]
    simp only [millisPerDay, Calendar.nanosPerSecond, Calendar.nanosPerMilli] at *
    omega
  · intro h
    obtain ⟨hmillis, htruncated⟩ := h.epochMillis_eq
    have hfound := ofEpochMillis?_epochMillis h.noLeap
    rwa [hmillis, htruncated] at hfound

/-- There is an instant exactly for the milliseconds of the calendar. -/
lemma exists_liesAt_iff : (∃ i, LiesAt i ms) ↔ firstMillis ≤ ms ∧ ms ≤ lastMillis := by
  simp only [← ofEpochMillis?_eq_some_iff, exists_ofEpochMillis?_iff]

end Instant

/-! ## Instants of amounts -/

/-- `Becomes a i`: the instant is the one that an amount of milliseconds is converted to.  An exact
number is rounded, an infinite one has no instant, and what is no number has the beginning of
1970. -/
def Amount.Becomes (i : Instant) : Amount → Prop
  | undefined => i = .ofDate .epoch
  | infinite _ => False
  | exact q => i.LiesAt (roundAway q)

namespace Value

variable {v : Value} {fromText : Bool} {a : Amount} {ms : ℤ} {i : Instant}

/-- A number of milliseconds is the instant that lies after so many. -/
lemma ofMillis_eq_ok_iff : ofMillis ms = .ok i ↔ i.LiesAt ms := by
  rw [← Instant.ofEpochMillis?_eq_some_iff]
  unfold ofMillis
  cases Instant.ofEpochMillis? ms with
  | none => exact iff_of_false nofun nofun
  | some j => rw [Except.ok.injEq, Option.some.injEq]

/-- A number of milliseconds that is clamped to 64 bits is an instant only if it was not changed. -/
lemma ofMillis_clampInt64_eq_ok_iff :
    ofMillis (Binary64.clampInt64 ms) = .ok i ↔ i.LiesAt ms := by
  rw [ofMillis_eq_ok_iff]
  have hbounds {ms : ℤ} (h : i.LiesAt ms) := Instant.exists_liesAt_iff.1 ⟨i, h⟩
  have hsame {ms : ℤ} (h : Instant.firstMillis ≤ ms ∧ ms ≤ Instant.lastMillis ∨
      Instant.firstMillis ≤ Binary64.clampInt64 ms ∧
        Binary64.clampInt64 ms ≤ Instant.lastMillis) : Binary64.clampInt64 ms = ms := by
    have hpow : Int.pow 2 63 = 9223372036854775808 := rfl
    simp only [Binary64.clampInt64, hpow, Instant.firstMillis, Instant.lastMillis] at *
    omega
  constructor
  · intro h
    rwa [hsame (.inr (hbounds h))] at h
  · intro h
    rwa [hsame (.inl (hbounds h))]

/-- The instant of an amount is that of the integer that the amount becomes. -/
lemma ofMillis_toInt64_eq_ok_iff (x : Binary64) :
    ofMillis x.toInt64 = .ok i ↔ x.amount.Becomes i := by
  rw [x.toInt64_eq]
  cases x.amount with
  | undefined =>
    have hzero : ofMillis 0 = .ok (.ofDate .epoch) := by decide +kernel
    dsimp only
    rw [hzero, Except.ok.injEq]
    exact eq_comm
  | infinite negative =>
    dsimp only
    rw [ofMillis_clampInt64_eq_ok_iff]
    refine iff_of_false (fun hlies => ?_) id
    obtain ⟨hfirst, hlast⟩ := Instant.exists_liesAt_iff.1 ⟨i, hlies⟩
    cases negative with
    | false => exact absurd hlast (by decide)
    | true => exact absurd hfirst (by decide)
  | exact q => exact ofMillis_clampInt64_eq_ok_iff

/-- A number is converted to the instant that its amount becomes. -/
lemma toInstant_eq_ok_iff_of_amount (h : v.amount? fromText = some a) :
    v.toInstant fromText = .ok i ↔ a.Becomes i := by
  cases v with
  | null | bool | timeOfDay => cases h
  | int n =>
    cases h
    rw [Amount.Becomes, roundAway_intCast]
    exact ofMillis_eq_ok_iff
  | uint n =>
    cases h
    have hround : roundAway n = n := by exact_mod_cast roundAway_intCast n
    rw [Amount.Becomes, hround]
    exact ofMillis_clampInt64_eq_ok_iff
  | float x =>
    cases h
    exact ofMillis_toInt64_eq_ok_iff x
  | string s =>
    unfold amount? at h
    cases fromText with
    | true => cases h
    | false =>
      obtain ⟨x, hx, rfl⟩ := Option.map_eq_some_iff.1 h
      simp only [toInstant, Bool.false_eq_true, if_false, hx]
      exact ofMillis_toInt64_eq_ok_iff x

/-- **Numbers are the instants that they denote.**  A number of milliseconds is converted exactly if
it is finite and, rounded half away from zero, within the calendar, and then the instant lies so
many milliseconds after the beginning of 1970.  Only what is no number denotes no instant and is
converted nevertheless: to the beginning of 1970. -/
theorem toInstant_of_amount (h : v.amount? fromText = some a) :
    (a ≠ .undefined →
      ((∃ i, v.toInstant fromText = .ok i) ↔ ∃ q, a = .exact q ∧
        Instant.firstMillis ≤ roundAway q ∧ roundAway q ≤ Instant.lastMillis) ∧
      ∀ i q, v.toInstant fromText = .ok i → a = .exact q → i.LiesAt (roundAway q)) ∧
    (a = .undefined → v.toInstant fromText = .ok (.ofDate .epoch)) := by
  refine ⟨fun hdefined => ⟨?_, ?_⟩, ?_⟩
  · simp only [toInstant_eq_ok_iff_of_amount h]
    cases a with
    | undefined => exact absurd rfl hdefined
    | infinite negative => exact iff_of_false (fun ⟨_, hi⟩ => hi) fun ⟨_, hq, _⟩ => nomatch hq
    | exact q =>
      refine Instant.exists_liesAt_iff.trans ⟨fun hbounds => ⟨q, rfl, hbounds⟩, ?_⟩
      rintro ⟨_, ⟨⟩, hbounds⟩
      exact hbounds
  · rintro i q hi rfl
    exact (toInstant_eq_ok_iff_of_amount h).1 hi
  · rintro rfl
    exact (toInstant_eq_ok_iff_of_amount h).2 rfl

/-- A millisecond and a half before 1970 are two milliseconds before it, an infinite amount is
refused, and a text that spells no number is the beginning of 1970. -/
theorem toInstant_of_amount_before1970 :
    (∃ i, (float (.finite true 3 (-1))).toInstant true = .ok i ∧ i.LiesAt (-2)) ∧
      (¬ ∃ i, (string " -inf").toInstant false = .ok i) ∧
      (string "NaN").toInstant false = .ok (.ofDate .epoch) := by
  have hhalf : (float (.finite true 3 (-1))).amount? true = some (.exact (-3 / 2)) := by
    norm_num [amount?, Binary64.amount]
  have hround : roundAway (-3 / 2) = -2 := by decide +kernel
  obtain ⟨hiff, hlies⟩ := (toInstant_of_amount hhalf).1 nofun
  obtain ⟨i, hi⟩ := hiff.2 ⟨_, rfl, by rw [hround]; decide, by rw [hround]; decide⟩
  refine ⟨⟨i, hi, hround ▸ hlies i _ hi rfl⟩, ?_, ?_⟩
  · have hinfinite : (string " -inf").amount? false = some (.infinite true) := by
      have hread : Numeral.binary64? (Text.trim " -inf") = some (.infinite true) := by
        decide +kernel
      simp only [amount?, hread]
      rfl
    rw [((toInstant_of_amount hinfinite).1 nofun).1]
    rintro ⟨q, hq, -⟩
    cases hq
  · have hundefined : (string "NaN").amount? false = some .undefined := by
      have hread : Numeral.binary64? (Text.trim "NaN") = some .nan := by decide +kernel
      simp only [amount?, hread]
      rfl
    exact (toInstant_of_amount hundefined).2 rfl

/-- **What is no number becomes an instant**, although it denotes none. -/
theorem toInstant_undefined :
    (float .nan).toInstant false = .ok (.ofDate .epoch) ∧
      ¬ ∃ q, (float .nan).amount? false = some (.exact q) := by
  refine ⟨by decide +kernel, ?_⟩
  rintro ⟨q, hq⟩
  cases hq

end Value

end ChartQuery
