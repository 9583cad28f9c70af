import ChartQuery.Proofs.Reconversion
import ChartQuery.Proofs.TemporalTexts
import ChartQuery.Source.PostgresType

/-!
# Dates and times as a database writes them

A date is written `YYYY-MM-DD`, a time of day `HH:MM:SS`, possibly with a fraction of a second, and
an instant as both with a blank between them.  Such a text comes to a conversion on one of two ways:
as it is, or as the milliseconds that it stands for.  Both ways lead to the same cell.

What a database writes is a date, a time of day or an instant as they are spelled in general, with
all digits and no blanks.  It is read as such only because everything else that is tried before
fails: it is no number, no literal and not the date for no date.  The milliseconds lose what is less
than a millisecond, but no value and no pattern shows that.
-/

namespace ChartQuery

/-! ## What is written -/

namespace Calendar

open Numeric Text
open Numeral (Digits)

variable {n : Nat} {ds cs rest : List Char} {d : Date} {c : Clock} {s : String} {i : Instant}

/-- So many decimal digits. -/
def AreDigits (n : Nat) (ds : List Char) : Prop := ds.length = n ∧ ∀ c ∈ ds, c.isDigit = true

instance (n : Nat) (ds : List Char) : Decidable (AreDigits n ds) :=
  decidable_of_iff (ds.length = n ∧ ds.all Char.isDigit = true)
    (by rw [AreDigits, List.all_eq_true])

/-- `WritesDate cs d`: the characters are the date with four digits for the year and two each for
the month and the day. -/
inductive WritesDate : List Char → Date → Prop
  | mk {year month day : List Char} {d : Date} (hyear : AreDigits 4 year)
      (hmonth : AreDigits 2 month) (hday : AreDigits 2 day)
      (hd : d.year = ofDigits year ∧ d.month = ofDigits month ∧ d.day = ofDigits day) :
    WritesDate (year ++ '-' :: (month ++ '-' :: day)) d

/-- `WritesFraction cs nano`: the characters are a fraction of a second with at most nine digits, or
nothing. -/
inductive WritesFraction : List Char → Nat → Prop
  | whole : WritesFraction [] 0
  | digits {n : Nat} {ds : List Char} (hds : AreDigits n ds) (hleast : 1 ≤ n) (hmost : n ≤ 9) :
    WritesFraction ('.' :: ds) (ofDigits ds * Nat.pow 10 (9 - n))

/-- `WritesClock cs c`: the characters are the time of day with two digits each for the hour, the
minute and the second, and possibly a fraction.  Second 60 is not written. -/
inductive WritesClock : List Char → Clock → Prop
  | mk {hour minute second fraction : List Char} {c : Clock} (hhour : AreDigits 2 hour)
      (hminute : AreDigits 2 minute) (hsecond : AreDigits 2 second)
      (hfraction : WritesFraction fraction c.nano)
      (hc : c.hour = ofDigits hour ∧ c.minute = ofDigits minute ∧ c.second = ofDigits second) :
    WritesClock (hour ++ ':' :: (minute ++ ':' :: (second ++ fraction))) c

/-! ## Digits -/

/-- Digits that are there begin with a digit. -/
lemma AreDigits.exists_cons (h : AreDigits (n + 1) ds) :
    ∃ d ds', ds = d :: ds' ∧ d.isDigit = true ∧ AreDigits n ds' := by
  obtain ⟨hlength, hall⟩ := h
  obtain ⟨d, ds', rfl⟩ := List.exists_cons_of_length_eq_add_one hlength
  obtain ⟨hd, hds'⟩ := List.forall_mem_cons.1 hall
  exact ⟨d, ds', rfl, hd, Nat.succ.inj hlength, hds'⟩

/-- So many digits, if not none, are digits. -/
lemma AreDigits.digits (h : AreDigits (n + 1) ds) : Digits ds := by
  obtain ⟨d, ds', rfl, -, -⟩ := h.exists_cons
  exact ⟨List.cons_ne_nil d ds', h.2⟩

/-- Two digits are a part of a date or a time of day. -/
lemma AreDigits.partText (h : AreDigits 2 ds) : PartText ds (ofDigits ds) :=
  @PartText.mk [] ds nofun h.digits h.1.le

/-- Digits, but four at most, are a year. -/
lemma AreDigits.yearText (h : AreDigits (n + 1) ds) (hmost : n + 1 ≤ 4) :
    YearText ds (ofDigits ds) :=
  @YearText.plain [] ds nofun h.digits (h.1.le.trans hmost)

/-! ## Dates and times of day are spelled -/

/-- A written date is one. -/
lemma WritesDate.dateText (h : WritesDate cs d) : DateText cs d := by
  obtain ⟨hyear, hmonth, hday, hy, hm, hd⟩ := h
  refine .mk ?_ ?_ ?_
  · rw [hy]
    exact hyear.yearText le_rfl
  · rw [hm]
    exact hmonth.partText
  · rw [hd]
    exact hday.partText

/-- A written date ends with the two digits of the day. -/
lemma WritesDate.endsInPair (h : WritesDate cs d) : EndsInPair cs := by
  obtain ⟨hyear, hmonth, hday, -⟩ := h
  obtain ⟨a, b, rfl⟩ := List.length_eq_two.1 hday.1
  have hpair : EndsInPair [a, b] := ⟨[], a, b, rfl, hday.2 a (by simp), hday.2 b (by simp)⟩
  rwa [endsInPair_append_cons_iff rfl (by simp), endsInPair_append_cons_iff rfl (by simp)]

/-- A written fraction is one. -/
lemma WritesFraction.nanosText {nano : Nat} (h : WritesFraction cs nano) : NanosText cs nano := by
  cases h with
  | whole => exact .whole
  | @digits n ds hds hleast hmost =>
    obtain ⟨m, rfl⟩ := Nat.exists_eq_add_of_le' hleast
    have hfraction := NanosText.fraction hds.digits
    rwa [List.take_of_length_le (hds.1 ▸ hmost), hds.1] at hfraction

/-- A written time of day is one. -/
lemma WritesClock.clockText (h : WritesClock cs c) : ClockText cs c := by
  obtain ⟨hhour, hminute, hsecond, hfraction, hh, hm, hs⟩ := h
  refine .mk ?_ ?_ ?_ hfraction.nanosText
  · rw [hh]
    exact hhour.partText
  · rw [hm]
    exact hminute.partText
  · rw [hs]
    exact hsecond.partText

/-- A written time of day lies in no leap second. -/
lemma WritesClock.nano_lt (h : WritesClock cs c) : c.nano < nanosPerSecond := by
  obtain ⟨-, -, -, hfraction, -⟩ := h
  exact hfraction.nanosText.lt

/-- A written time of day is no date. -/
lemma WritesClock.readDate (h : WritesClock cs c) : readDate cs = none := by
  obtain ⟨hhour, hminute, hsecond, hfraction, hc⟩ := h
  have hread (rest : List Char) := (hhour.yearText (by decide)).readYear_append
    (head?_isDigit (x := ':') rfl rest)
  unfold Calendar.readDate
  simp only [hread, readChar, Option.bind_eq_bind, Option.bind_some]
  rfl

/-! ## The ends of what is written -/

/-- Characters that begin with digits and go on with a hyphen or a colon. -/
def StartsWithPart (cs : List Char) : Prop :=
  ∃ n ds x rest, AreDigits (n + 1) ds ∧ (x = '-' ∨ x = ':') ∧ cs = ds ++ x :: rest

/-- Characters of which the last is a digit. -/
def EndsWithDigit (cs : List Char) : Prop := ∃ d, cs.getLast? = some d ∧ d.isDigit = true

/-- What stands in front does not matter for the end. -/
lemma EndsWithDigit.append (h : EndsWithDigit cs) (front : List Char) :
    EndsWithDigit (front ++ cs) := by
  obtain ⟨d, hlast, hd⟩ := h
  exact ⟨d, by simp [hlast], hd⟩

/-- A character in front does not matter for the end. -/
lemma EndsWithDigit.cons (h : EndsWithDigit cs) (x : Char) : EndsWithDigit (x :: cs) :=
  h.append [x]

/-- Digits end with a digit. -/
lemma AreDigits.endsWithDigit (h : AreDigits (n + 1) ds) : EndsWithDigit ds := by
  obtain ⟨d, ds', rfl, -, -⟩ := h.exists_cons
  exact ⟨_, List.getLast?_eq_some_getLast (List.cons_ne_nil d ds'), h.2 _ (List.getLast_mem _)⟩

/-- A written date, with whatever follows it, begins with the year and a hyphen. -/
lemma WritesDate.startsWithPart (h : WritesDate cs d) (rest : List Char) :
    StartsWithPart (cs ++ rest) := by
  obtain ⟨hyear, hmonth, hday, hd⟩ := h
  exact ⟨3, _, '-', _, hyear, .inl rfl, List.append_assoc ..⟩

/-- A written date ends with a digit. -/
lemma WritesDate.endsWithDigit (h : WritesDate cs d) : EndsWithDigit cs := by
  obtain ⟨hyear, hmonth, hday, hd⟩ := h
  exact (((hday.endsWithDigit.cons '-').append _).cons '-').append _

/-- A written time of day begins with the hour and a colon. -/
lemma WritesClock.startsWithPart (h : WritesClock cs c) : StartsWithPart cs := by
  obtain ⟨hhour, hminute, hsecond, hfraction, hc⟩ := h
  exact ⟨1, _, ':', _, hhour, .inr rfl, rfl⟩

/-- A written time of day ends with a digit. -/
lemma WritesClock.endsWithDigit (h : WritesClock cs c) : EndsWithDigit cs := by
  obtain ⟨hhour, hminute, hsecond, hfraction, hc⟩ := h
  rename_i hour minute second fraction
  have hlast : EndsWithDigit (second ++ fraction) := by
    generalize c.nano = nano at hfraction
    cases hfraction with
    | whole => simpa using hsecond.endsWithDigit
    | @digits n ds hds hleast hmost =>
      obtain ⟨m, rfl⟩ := Nat.exists_eq_add_of_le' hleast
      exact (hds.endsWithDigit.cons '.').append _
  exact (((hlast.cons ':').append _).cons ':').append _

end Calendar

open Calendar

/-! ## Nothing else is read -/

section Refused

variable {s : String}

/-- The first character is a digit. -/
lemma Calendar.StartsWithPart.exists_cons {cs : List Char} (h : StartsWithPart cs) :
    ∃ d rest, cs = d :: rest ∧ d.isDigit = true := by
  obtain ⟨n, ds, x, rest, hds, -, rfl⟩ := h
  obtain ⟨d, ds', rfl, hd, -⟩ := hds.exists_cons
  exact ⟨d, ds' ++ x :: rest, rfl, hd⟩

/-- There is nothing to trim between digits. -/
lemma Text.trim_eq_self_of_digits (hstart : StartsWithPart s.toList)
    (hend : EndsWithDigit s.toList) : trim s = s := by
  obtain ⟨d, rest, hs, hd⟩ := hstart.exists_cons
  obtain ⟨e, hlast, he⟩ := hend
  refine trim_eq_self (fun c hc => ?_) fun c hc => ?_
  · rw [hs] at hc
    cases hc
    exact isBlank_of_isDigit hd
  · rw [hlast] at hc
    cases hc
    exact isBlank_of_isDigit he

/-- A text that begins with digits is no literal. -/
lemma Value.dateLiteral?_eq_none (h : StartsWithPart s.toList) : dateLiteral? s = none := by
  obtain ⟨d, rest, hs, hd⟩ := h.exists_cons
  have harguments : dateArguments? s = none := by
    unfold dateArguments?
    rw [hs]
    split
    · next heq =>
      cases heq
      cases hd
    · rfl
  unfold dateLiteral?
  rw [harguments]
  rfl

/-- Digits that go on with a hyphen or a colon are no decimal. -/
lemma Numeral.decimal?_eq_none {cs : List Char} (h : StartsWithPart cs) : decimal? cs = none := by
  obtain ⟨n, ds, x, rest, hds, hx, rfl⟩ := h
  have hxd : x.isDigit = false := by rcases hx with rfl | rfl <;> rfl
  obtain ⟨htake, hdrop⟩ := takeWhile_isDigit_append hds.2 (head?_isDigit hxd rest)
  unfold decimal?
  rw [htake, hdrop]
  rcases hx with rfl | rfl <;> simp

/-- A number that begins with a digit is a decimal: the words for infinity and for no number begin
with a letter. -/
lemma Numeral.unsigned?_of_isDigit {negative : Bool} {d : Char} {cs : List Char}
    (hd : d.isDigit = true) :
    unsigned? negative (d :: cs) = (decimal? (d :: cs)).map (Binary64.ofDecimal negative) := by
  have hword {word : String} (heq : String.ofList ((d :: cs).map Char.toLower) = word) :
      ∀ c ∈ word.toList.head?, c.isDigit = true := by
    rw [← heq, String.toList_ofList]
    rintro c ⟨⟩
    rwa [toLower_of_isDigit (.inl hd)]
  unfold unsigned?
  split
  · next heq => exact absurd (hword heq 'i' rfl) (by decide)
  · next heq => exact absurd (hword heq 'i' rfl) (by decide)
  · next heq => exact absurd (hword heq 'n' rfl) (by decide)
  · rfl

/-- Digits that go on with a hyphen or a colon are no number. -/
lemma Numeral.binary64?_eq_none (h : StartsWithPart s.toList) : binary64? s = none := by
  obtain ⟨d, rest, hs, hd⟩ := h.exists_cons
  have hunsigned : unsigned? false (d :: rest) = none := by
    rw [unsigned?_of_isDigit hd, ← hs, decimal?_eq_none h]
    rfl
  unfold binary64?
  rw [hs]
  split
  · next heq =>
    cases heq
    cases hd
  · next heq =>
    cases heq
    cases hd
  · exact hunsigned

end Refused

/-! ## Whole texts -/

namespace Calendar

variable {cs : List Char} {s : String} {d : Date} {c : Clock} {i : Instant}

/-- A written date is not the date for no date, whatever follows it. -/
lemma WritesDate.isZeroDate (h : WritesDate cs d) {rest : List Char} (hs : s.toList = cs ++ rest) :
    Value.isZeroDate s = false := by
  obtain ⟨hyear, hmonth, hday, hy, hm, hd⟩ := h
  obtain ⟨y₁, _, rfl, -, hyear⟩ := hyear.exists_cons
  obtain ⟨y₂, _, rfl, -, hyear⟩ := hyear.exists_cons
  obtain ⟨y₃, _, rfl, -, hyear⟩ := hyear.exists_cons
  obtain ⟨y₄, _, rfl, -, hyear⟩ := hyear.exists_cons
  obtain ⟨m₁, _, rfl, -, hmonth⟩ := hmonth.exists_cons
  obtain ⟨m₂, _, rfl, -, hmonth⟩ := hmonth.exists_cons
  obtain rfl := List.length_eq_zero_iff.1 hyear.1
  obtain rfl := List.length_eq_zero_iff.1 hmonth.1
  have hmonth : ¬ (m₁ = '0' ∧ m₂ = '0') := by
    rintro ⟨rfl, rfl⟩
    exact absurd (hm ▸ d.one_le_month) (by decide)
  simp only [List.cons_append, List.nil_append] at hs
  have hne : (s == "0000") = false := by
    rw [beq_eq_false_iff_ne]
    rintro rfl
    simp at hs
  have hfront : "0000-00-00".toList.isPrefixOf s.toList = false := by
    rw [hs, ← Bool.not_eq_true]
    intro h
    simp [List.isPrefixOf] at h
    exact hmonth ⟨h.2.2.2.2.1.symm, h.2.2.2.2.2.1.symm⟩
  rw [Value.isZeroDate, hfront, hne]
  rfl

/-- A written time of day is not the date for no date. -/
lemma WritesClock.isZeroDate (h : WritesClock s.toList c) : Value.isZeroDate s = false := by
  generalize hs : s.toList = cs at h
  obtain ⟨hhour, hminute, hsecond, hfraction, hc⟩ := h
  obtain ⟨h₁, _, rfl, -, hhour⟩ := hhour.exists_cons
  obtain ⟨h₂, _, rfl, -, hhour⟩ := hhour.exists_cons
  obtain rfl := List.length_eq_zero_iff.1 hhour.1
  simp only [List.cons_append, List.nil_append] at hs
  have hne : (s == "0000") = false := by
    rw [beq_eq_false_iff_ne]
    rintro rfl
    simp at hs
  have hfront : "0000-00-00".toList.isPrefixOf s.toList = false := by
    rw [hs]
    simp [List.isPrefixOf]
  rw [Value.isZeroDate, hfront, hne]
  rfl

/-- A written date is read as its beginning. -/
lemma WritesDate.readInstant? (h : WritesDate s.toList d) :
    date? s = some d ∧ Value.readInstant? s = some (.ofDate d) := by
  have hdate : date? s = some d := date?_eq_some_iff.2 h.dateText
  have hread : readDate s.toList = some (d, []) := bind_complete_eq_some_iff.1 hdate
  have hstart : StartsWithPart s.toList := by simpa using h.startsWithPart []
  have hzero : Value.isZeroDate s = false := h.isZeroDate (List.append_nil _).symm
  have hinstant : instant? s = none := by
    rw [instant?, readInstant, hread]
    rfl
  have hinstantT : instantT? s = none := by
    rw [instantT?, readInstant, hread]
    rfl
  refine ⟨hdate, ?_⟩
  rw [Value.readInstant?, hzero, Value.dateLiteral?_eq_none hstart, hinstant, hinstantT, hdate]
  rfl

/-- A written date with a written time of day after a blank is read as the instant. -/
lemma WritesDate.readInstant?_append {ds : List Char} (hd : WritesDate ds d) (hc : WritesClock cs c)
    (hs : s.toList = ds ++ ' ' :: cs) :
    instant? s = some ⟨d, c⟩ ∧ Value.readInstant? s = some ⟨d, c⟩ := by
  have hstart : StartsWithPart s.toList := hs ▸ hd.startsWithPart _
  have hzero : Value.isZeroDate s = false := hd.isZeroDate hs
  have hinstant : instant? s = some ⟨d, c⟩ := by
    rw [instant?_eq_some_iff, hs]
    have hblank : Text.AreBlanks [' '] := by simp [Text.AreBlanks, Text.isBlank]
    exact .mk hd.dateText (hc.clockText.append hblank) (.inl hd.endsInPair)
  refine ⟨hinstant, ?_⟩
  rw [Value.readInstant?, hzero, Value.dateLiteral?_eq_none hstart, hinstant]
  rfl

/-- A written time of day is read as the time of day on the first day of 1970. -/
lemma WritesClock.readInstant? (h : WritesClock s.toList c) :
    clock? s = some c ∧ Value.readInstant? s = some (.ofClock c) := by
  have hdate : date? s = none := by
    rw [date?, h.readDate]
    rfl
  have hinstant : instant? s = none := by
    rw [instant?, readInstant, h.readDate]
    rfl
  have hinstantT : instantT? s = none := by
    rw [instantT?, readInstant, h.readDate]
    rfl
  have hclock : clock? s = some c := clock?_eq_some_iff.2 h.clockText
  refine ⟨hclock, ?_⟩
  rw [Value.readInstant?, h.isZeroDate, Value.dateLiteral?_eq_none h.startsWithPart, hinstant,
    hinstantT, hdate, hclock]
  rfl

end Calendar

/-! ## Two ways to a cell -/

/-- The form of an instant does not show what is less than a millisecond. -/
lemma Value.ofInstant_truncated (type : ColumnType) (i : Instant) :
    ofInstant type ⟨i.date, i.clock.truncated⟩ = ofInstant type i := by
  simp only [ofInstant, Clock.shownMillis_truncated]
  rfl

/-- No pattern shows what is less than a millisecond. -/
lemma DatePattern.format_truncated (p : DatePattern) (i : Instant) :
    p.format ⟨i.date, i.clock.truncated⟩ = p.format i :=
  format_congr fun f n _ => f.text_truncated n i.date i.clock

/-- An instant outside of leap seconds is found from its milliseconds as far as it is shown. -/
lemma Value.toInstant_epochMillis {i : Instant} (h : i.clock.nano < nanosPerSecond)
    (fromText : Bool) :
    (Value.int i.epochMillis).toInstant fromText = .ok ⟨i.date, i.clock.truncated⟩ := by
  have hfound : ofMillis i.epochMillis = .ok ⟨i.date, i.clock.truncated⟩ := by
    unfold ofMillis
    rw [Instant.ofEpochMillis?_epochMillis h]
  exact hfound

namespace PostgresType

open Calendar

variable {t : PostgresType} {s : String} {i : Instant}

/-- `Writes t s i`: the text is the instant `i` as a database writes it in a column of the type `t`:
a date as its beginning, and a time of day as one of the first day of 1970. -/
inductive Writes : PostgresType → String → Instant → Prop
  | date {s : String} {d : Date} (hd : WritesDate s.toList d) : Writes date s (.ofDate d)
  | timestamp {s : String} {ds cs : List Char} {d : Date} {c : Clock} (hd : WritesDate ds d)
      (hc : WritesClock cs c) (hs : s.toList = ds ++ ' ' :: cs) : Writes timestamp s ⟨d, c⟩
  | time {s : String} {c : Clock} (hc : WritesClock s.toList c) : Writes time s (.ofClock c)

/-- A written text is read as its milliseconds. -/
lemma Writes.read (h : Writes t s i) : t.read s = .int i.epochMillis := by
  cases h with
  | @date s d hd => rw [PostgresType.read, value?, hd.readInstant?.1]; rfl
  | timestamp hd hc hs => rw [PostgresType.read, value?, (hd.readInstant?_append hc hs).1]; rfl
  | @time s c hc =>
    have hmillis : (Instant.ofClock c).epochMillis = c.millisOfDay := by
      simp [Instant.epochMillis, Instant.ofClock]
    rw [PostgresType.read, value?, hc.readInstant?.1, hmillis]
    rfl

/-- A written text is no number, and it is read as the instant that it is. -/
lemma Writes.toInstant (h : Writes t s i) (fromText : Bool) :
    (Value.string s).toInstant fromText = .ok i := by
  have hparts : StartsWithPart s.toList ∧ EndsWithDigit s.toList ∧
      Value.readInstant? s = some i := by
    cases h with
    | date hd =>
      exact ⟨by simpa using hd.startsWithPart [], hd.endsWithDigit, hd.readInstant?.2⟩
    | timestamp hd hc hs =>
      exact ⟨hs ▸ hd.startsWithPart _, hs ▸ (hc.endsWithDigit.cons ' ').append _,
        (hd.readInstant?_append hc hs).2⟩
    | time hc => exact ⟨hc.startsWithPart, hc.endsWithDigit, hc.readInstant?.2⟩
  obtain ⟨hstart, hend, hread⟩ := hparts
  unfold Value.toInstant
  dsimp only
  rw [Text.trim_eq_self_of_digits hstart hend, Numeral.binary64?_eq_none hstart, hread]
  cases fromText <;> rfl

/-- A written text is not in a leap second. -/
lemma Writes.nano_lt (h : Writes t s i) : i.clock.nano < nanosPerSecond := by
  cases h with
  | date hd => exact (by decide : (0 : Nat) < nanosPerSecond)
  | timestamp hd hc hs => exact hc.nano_lt
  | time hc => exact hc.nano_lt

/-- **Both ways lead to the same cell.**  A date, an instant or a time of day that a database writes
is read as its milliseconds.  In a column of dates or times, the milliseconds and the text as it is
are converted to the same cell: the instant in the form for the type of the column, with the text
that the pattern of the column makes of it.  The type of the data does not matter, since the text is
no number. -/
theorem apply_read_eq_apply_string {c : Column} {k : Conversion} (h : Writes t s i)
    (hk : Conversion.ofColumn c = .ok k)
    (htype : c.type = .date ∨ c.type = .timeOfDay ∨ c.type = .dateTime) :
    t.read s = .int i.epochMillis ∧
    ∃ p, DatePattern.parse? c.datePattern = some p ∧
      k.apply ⟨some (t.read s), none⟩ = .ok ⟨some (.ofInstant c.type i), some (p.format i)⟩ ∧
      k.apply ⟨some (.string s), none⟩ = .ok ⟨some (.ofInstant c.type i), some (p.format i)⟩ := by
  have hread : t.read s = .int i.epochMillis := h.read
  refine ⟨hread, ?_⟩
  cases Conversion.convertedBy_ofColumn hk with
  | boolean hother | number hother | string hother =>
    rw [hother] at htype
    simp at htype
  | @temporal _ p hp =>
    refine ⟨p, hp, ?_, ?_⟩
    · have hne : Value.int i.epochMillis ≠ .null := by simp
      rw [hread, Conversion.apply_of_ne_null rfl hne, Conversion.convert,
        Value.toInstant_epochMillis h.nano_lt, ok_bind, Value.ofInstant_truncated,
        p.format_truncated]
    · have hne : Value.string s ≠ .null := by simp
      rw [Conversion.apply_of_ne_null rfl hne, Conversion.convert, h.toInstant, ok_bind]

/-- The last microsecond before 1970 belongs to the last millisecond before it. -/
theorem apply_read_before1970 :
    let s := "1969-12-31 23:59:59.999999"
    let c : Column := ⟨"t", "", .dateTime, "yyyy-MM-dd HH:mm:ss.SSS", some .dateTime⟩
    let shown : Cell :=
      ⟨some (.string "Date(1969,11,31,23,59,59,999)"), some "1969-12-31 23:59:59.999"⟩
    timestamp.read s = .int (-1) ∧ ∃ k, Conversion.ofColumn c = .ok k ∧
      k.apply ⟨some (timestamp.read s), none⟩ = .ok shown ∧
      k.apply ⟨some (.string s), none⟩ = .ok shown := by
  intro s c shown
  let i : Instant := ⟨⟨1969, 12, 31, by decide⟩, ⟨23, 59, 59, 999999000, by decide⟩⟩
  have hdate : WritesDate ['1', '9', '6', '9', '-', '1', '2', '-', '3', '1'] i.date :=
    @WritesDate.mk ['1', '9', '6', '9'] ['1', '2'] ['3', '1'] _ (by decide) (by decide)
      (by decide) (by decide)
  have hfraction : WritesFraction ['.', '9', '9', '9', '9', '9', '9'] i.clock.nano :=
    @WritesFraction.digits 6 ['9', '9', '9', '9', '9', '9'] (by decide) (by decide) (by decide)
  have hclock : WritesClock ("23:59:59.999999").toList i.clock :=
    @WritesClock.mk ['2', '3'] ['5', '9'] ['5', '9'] _ i.clock (by decide) (by decide) (by decide)
      hfraction (by decide)
  have hwrites : Writes timestamp s i := .timestamp hdate hclock (by decide)
  obtain ⟨k, hk, -⟩ := exists_eq_ok (Conversion.ofColumn c) (fun _ => true) (by decide +kernel)
  obtain ⟨hread, p, hp, hmillis, htext⟩ := apply_read_eq_apply_string hwrites hk (by decide)
  have hmillis' : i.epochMillis = -1 := by decide +kernel
  have hvalue : Value.ofInstant c.type i = .string "Date(1969,11,31,23,59,59,999)" := by
    decide +kernel
  have hformat : ∀ p ∈ DatePattern.parse? c.datePattern,
      p.format i = "1969-12-31 23:59:59.999" := by decide +kernel
  rw [hvalue, hformat p hp] at hmillis htext
  exact ⟨hmillis' ▸ hread, k, hk, hmillis, htext⟩

end PostgresType

end ChartQuery
