import ChartQuery.Proofs.Literals
import Mathlib.Algebra.Order.Group.Int

/-!
# Days and milliseconds that are counted

Days are counted through all years of the calendar, and instants in milliseconds through all days.
The lemmas here say that nothing is lost by counting: the date of a day is found again from its
number, every number between the first and the last day of the calendar is that of a date, and so
are instants found again from their milliseconds.

A year is a stretch of days and a month is a stretch of the days of its year.  So it is enough that
the stretches follow one another without gaps (`daysBeforeYear_add_one`, and the definition of
`daysBeforeMonth`), and that a day is looked for in the right one (`yearOfDay_spec`,
`monthOfDay_eq`).
-/

namespace ChartQuery

/-! ## Years -/

namespace Calendar

/-- The number of days of a year. -/
def daysInYear (year : Int) : Nat := if isLeap year then 366 else 365

/-- The length of a year by its remainders. -/
lemma daysInYear_cases (year : Int) :
    (year % 4 = 0 ∧ (year % 100 ≠ 0 ∨ year % 400 = 0) ∧ daysInYear year = 366) ∨
      ((year % 4 ≠ 0 ∨ year % 100 = 0 ∧ year % 400 ≠ 0) ∧ daysInYear year = 365) := by
  have hleap : isLeap year = true ↔ year % 4 = 0 ∧ (year % 100 ≠ 0 ∨ year % 400 = 0) := by
    simp [isLeap]
  unfold daysInYear
  split
  · next h => exact .inl ⟨(hleap.1 h).1, (hleap.1 h).2, rfl⟩
  · next h =>
    rw [hleap] at h
    exact .inr ⟨by omega, rfl⟩

/-- A year begins after the last day of the year before it. -/
lemma daysBeforeYear_add_one (year : Int) :
    daysBeforeYear (year + 1) = daysBeforeYear year + daysInYear year := by
  simp only [daysBeforeYear]
  rcases daysInYear_cases year with ⟨h4, h100, h⟩ | ⟨h4, h⟩
  all_goals
    rw [h]
    omega

/-- A later year begins later. -/
lemma daysBeforeYear_mono {year later : Int} (h : year ≤ later) :
    daysBeforeYear year ≤ daysBeforeYear later := by
  simp only [daysBeforeYear]
  omega

/-- A day belongs to one year only. -/
lemma year_unique {year other : Int} {n m : Nat} (hn : n < daysInYear year)
    (hm : m < daysInYear other) (hday : daysBeforeYear year + n = daysBeforeYear other + m) :
    year = other := by
  rcases lt_trichotomy year other with hlt | heq | hgt
  · have hnext := daysBeforeYear_mono (Int.add_one_le_of_lt hlt)
    rw [daysBeforeYear_add_one] at hnext
    omega
  · exact heq
  · have hnext := daysBeforeYear_mono (Int.add_one_le_of_lt hgt)
    rw [daysBeforeYear_add_one] at hnext
    omega

/-- The days before a year, which follows so many stretches of four hundred, a hundred, four years
and one year. -/
lemma daysBeforeYear_parts (cycle : Int) {century four one : Nat} (hcentury : century ≤ 3)
    (hfour : four ≤ 24) (hone : one ≤ 3) :
    daysBeforeYear (400 * cycle + 100 * century + 4 * four + one + 1) =
      146097 * cycle + 36524 * century + 1461 * four + 365 * one := by
  simp only [daysBeforeYear]
  omega

/-- The stretches before a day.  Only the last year of four is longer than 365 days, and it is so at
the end of a hundred years only if these are the last of four hundred. -/
lemma yearOfDay_parts (day : Int) : ∃ (cycle : Int) (century four one rest : Nat),
    (century ≤ 3 ∧ four ≤ 24 ∧ one ≤ 3 ∧ rest ≤ 365) ∧
    (rest = 365 → one = 3 ∧ (four = 24 → century = 3)) ∧
    day = 146097 * cycle + 36524 * century + 1461 * four + 365 * one + rest + 1 ∧
    yearOfDay day = (400 * cycle + 100 * century + 4 * four + one + 1, rest) := by
  have hcycle : day - 1 = 146097 * ((day - 1) / 146097) + ((day - 1) % 146097).toNat := by omega
  have hrest : ((day - 1) % 146097).toNat < 146097 := by omega
  unfold yearOfDay
  dsimp only
  generalize (day - 1) / 146097 = cycle at *
  generalize ((day - 1) % 146097).toNat = d at *
  -- the last of the four stretches of a hundred years has one day more
  have hcentury : min (d / 36524) 3 ≤ 3 := Nat.min_le_right _ _
  have hlast : d - 36524 * min (d / 36524) 3 ≤ 36524 ∧
      (d - 36524 * min (d / 36524) 3 = 36524 → min (d / 36524) 3 = 3) := by omega
  have hd : d = 36524 * min (d / 36524) 3 + (d - 36524 * min (d / 36524) 3) := by omega
  generalize min (d / 36524) 3 = century at *
  generalize d - 36524 * century = e at *
  have hone : min (e % 1461 / 365) 3 ≤ 3 := Nat.min_le_right _ _
  refine ⟨cycle, century, e / 1461, min (e % 1461 / 365) 3, _, ⟨hcentury, ?_, hone, ?_⟩, ?_, ?_,
    rfl⟩
  all_goals omega

/-- **The year of a day**: the days before it and the days of it before that day. -/
lemma yearOfDay_spec (day : Int) :
    daysBeforeYear (yearOfDay day).1 + (yearOfDay day).2 + 1 = day ∧
      (yearOfDay day).2 < daysInYear (yearOfDay day).1 := by
  obtain ⟨cycle, century, four, one, rest, ⟨hcentury, hfour, hone, hrest⟩, hlast, hday, heq⟩ :=
    yearOfDay_parts day
  rw [heq]
  dsimp only
  rw [daysBeforeYear_parts cycle hcentury hfour hone]
  refine ⟨by omega, ?_⟩
  rcases daysInYear_cases (400 * cycle + 100 * century + 4 * four + one + 1) with
    ⟨-, -, hlength⟩ | ⟨hyear, hlength⟩
  all_goals
    rw [hlength]
    omega

/-! ## Months -/

/-- A later month begins later. -/
lemma daysBeforeMonth_mono (year : Int) {month later : Nat} (h : month ≤ later) :
    daysBeforeMonth year month ≤ daysBeforeMonth year later := by
  induction h with
  | refl => exact Nat.le_refl _
  | step _ ih => exact Nat.le_trans ih (Nat.le_add_right _ _)

/-- Twelve months are a year. -/
lemma daysBeforeMonth_thirteen (year : Int) : daysBeforeMonth year 13 = daysInYear year := by
  simp only [daysBeforeMonth, daysInMonth, daysInYear]
  split <;> rfl

/-- Only the months from one to twelve have days. -/
lemma month_bounds {year : Int} {month n : Nat} (h : n < daysInMonth year month) :
    1 ≤ month ∧ month ≤ 12 := by
  unfold daysInMonth at h
  split at h
  all_goals omega

/-- A day of a month is a day of its year. -/
lemma day_lt_daysInYear {year : Int} {month n : Nat} (h : n < daysInMonth year month) :
    daysBeforeMonth year month + n < daysInYear year := by
  have hnext : daysBeforeMonth year (month + 1) ≤ daysBeforeMonth year 13 :=
    daysBeforeMonth_mono year (Nat.succ_le_succ (month_bounds h).2)
  rw [daysBeforeMonth_thirteen, daysBeforeMonth] at hnext
  omega

/-- A day belongs to one month of a year only. -/
lemma month_unique {year : Int} {month other n m : Nat} (hn : n < daysInMonth year month)
    (hm : m < daysInMonth year other)
    (hday : daysBeforeMonth year month + n = daysBeforeMonth year other + m) : month = other := by
  rcases lt_trichotomy month other with hlt | heq | hgt
  · have hnext := daysBeforeMonth_mono year (Nat.succ_le_of_lt hlt)
    rw [daysBeforeMonth] at hnext
    omega
  · exact heq
  · have hnext := daysBeforeMonth_mono year (Nat.succ_le_of_lt hgt)
    rw [daysBeforeMonth] at hnext
    omega

/-- Every day before the beginning of a month lies in an earlier month. -/
lemma exists_month {year : Int} {month d : Nat} (h : d < daysBeforeMonth year month) :
    ∃ earlier n, n < daysInMonth year earlier ∧ daysBeforeMonth year earlier + n = d := by
  induction month with
  | zero => exact absurd h (Nat.not_lt_zero d)
  | succ month ih =>
    rw [daysBeforeMonth] at h
    by_cases hd : d < daysBeforeMonth year month
    · exact ih hd
    · exact ⟨month, d - daysBeforeMonth year month, by omega, by omega⟩

/-- **The month of a day** is found if the search begins early enough and goes on long enough. -/
lemma monthOfDay_eq {year : Int} {steps month later n : Nat} (hmonth : month ≤ later)
    (hlater : later ≤ month + steps) (hn : n < daysInMonth year later) :
    monthOfDay year steps month (daysBeforeMonth year later - daysBeforeMonth year month + n) =
      (later, n) := by
  induction steps generalizing month with
  | zero =>
    obtain rfl : later = month := Nat.le_antisymm hlater hmonth
    rw [monthOfDay, Nat.sub_self, Nat.zero_add]
  | succ steps ih =>
    rw [monthOfDay]
    rcases Nat.eq_or_lt_of_le hmonth with rfl | hlt
    · rw [Nat.sub_self, Nat.zero_add, if_pos hn]
    · have hnext : daysBeforeMonth year (month + 1) ≤ daysBeforeMonth year later :=
        daysBeforeMonth_mono year hlt
      rw [daysBeforeMonth] at hnext
      rw [if_neg (by omega), ← ih hlt (by omega), daysBeforeMonth]
      congr 1
      omega

end Calendar

open Calendar

/-! ## Dates -/

namespace Date

variable {n : Int} {d e : Date}

/-- A year, a month and a day are a date if the year belongs to the calendar and the day to the
month. -/
lemma isDate_iff {year : Int} {month day : Nat} : Calendar.isDate year month day = true ↔
    (minYear ≤ year ∧ year ≤ maxYear) ∧ 1 ≤ day ∧ day ≤ daysInMonth year month := by
  simp only [Calendar.isDate, Bool.and_eq_true, decide_eq_true_eq, and_assoc]

/-- A date is the day of its month that it says. -/
lemma ofYmd?_eq_some_iff {year : Int} {month day : Nat} :
    ofYmd? year month day = some d ↔ d.year = year ∧ d.month = month ∧ d.day = day := by
  unfold ofYmd?
  constructor
  · intro h
    split at h
    · cases h
      exact ⟨rfl, rfl, rfl⟩
    · cases h
  · rintro ⟨rfl, rfl, rfl⟩
    exact dif_pos d.isDate

/-- The place of a date in its month. -/
lemma day_sub_one_lt (d : Date) : d.day - 1 < daysInMonth d.year d.month := by
  obtain ⟨-, hday, hlast⟩ := isDate_iff.1 d.isDate
  omega

/-- The number of a date in days before it. -/
lemma number_eq (d : Date) :
    d.number =
      daysBeforeYear d.year + (daysBeforeMonth d.year d.month + (d.day - 1) : Nat) + 1 := by
  obtain ⟨-, hday, -⟩ := isDate_iff.1 d.isDate
  rw [number, ordinal]
  omega

/-- A number is taken for a day of a month of some year. -/
lemma exists_day (n : Int) : ∃ year month k, k < daysInMonth year month ∧
    n = daysBeforeYear year + (daysBeforeMonth year month + k : Nat) + 1 ∧
      ofNumber? n = ofYmd? year month (k + 1) := by
  obtain ⟨hnumber, hlt⟩ := yearOfDay_spec n
  rw [← daysBeforeMonth_thirteen] at hlt
  obtain ⟨month, k, hk, hday⟩ := exists_month hlt
  have hfound : monthOfDay (yearOfDay n).1 11 1 (yearOfDay n).2 = (month, k) := by
    obtain ⟨hone, htwelve⟩ := month_bounds hk
    rw [← hday]
    exact monthOfDay_eq hone (by omega) hk
  refine ⟨(yearOfDay n).1, month, k, hk, ?_, ?_⟩
  · rw [hday]
    exact hnumber.symm
  · simp only [ofNumber?, hfound]

/-- **A date is found from its number**, and what is found from a number has that number. -/
theorem ofNumber?_eq_some_iff : ofNumber? n = some d ↔ d.number = n := by
  obtain ⟨year, month, k, hk, hn, hfound⟩ := exists_day n
  rw [hfound, ofYmd?_eq_some_iff, number_eq, hn]
  have hday := (isDate_iff.1 d.isDate).2.1
  constructor
  · rintro ⟨rfl, rfl, hplace⟩
    rw [hplace, Nat.add_sub_cancel]
  · intro hnumber
    have hplace : daysBeforeYear d.year + (daysBeforeMonth d.year d.month + (d.day - 1) : Nat) =
        daysBeforeYear year + (daysBeforeMonth year month + k : Nat) := by omega
    obtain rfl := year_unique (day_lt_daysInYear d.day_sub_one_lt) (day_lt_daysInYear hk) hplace
    have hmonth := month_unique d.day_sub_one_lt hk (by omega)
    rw [← hmonth] at hplace
    exact ⟨rfl, hmonth, by omega⟩

/-- The number of the first day of the calendar. -/
def firstNumber : Int := daysBeforeYear minYear + 1

/-- The number of the last day of the calendar. -/
def lastNumber : Int := daysBeforeYear (maxYear + 1)

/-- The numbers of dates have no gaps. -/
theorem exists_number_iff : (∃ d : Date, d.number = n) ↔ firstNumber ≤ n ∧ n ≤ lastNumber := by
  constructor
  · rintro ⟨d, rfl⟩
    obtain ⟨⟨hlow, hhigh⟩, -⟩ := isDate_iff.1 d.isDate
    have hfirst := daysBeforeYear_mono hlow
    have hlast := daysBeforeYear_mono (Int.add_le_add_right hhigh 1)
    have hinside := day_lt_daysInYear d.day_sub_one_lt
    rw [daysBeforeYear_add_one] at hlast
    rw [firstNumber, lastNumber, number_eq]
    omega
  · rintro ⟨hfirst, hlast⟩
    obtain ⟨year, month, k, hk, hn, hfound⟩ := exists_day n
    have hinside := day_lt_daysInYear hk
    have hlow : minYear ≤ year := by
      by_contra hbefore
      have hnext := daysBeforeYear_mono (Int.add_one_le_of_lt (not_le.1 hbefore))
      rw [daysBeforeYear_add_one] at hnext
      rw [firstNumber] at hfirst
      omega
    have hhigh : year ≤ maxYear := by
      by_contra hafter
      have hnext := daysBeforeYear_mono (Int.add_one_le_of_lt (not_le.1 hafter))
      rw [lastNumber] at hlast
      omega
    have hdate := isDate_iff.2 ⟨⟨hlow, hhigh⟩, Nat.succ_pos k, hk⟩
    exact ⟨⟨year, month, k + 1, hdate⟩, ofNumber?_eq_some_iff.1 (hfound.trans (dif_pos hdate))⟩

end Date

/-! ## Times of day -/

namespace Clock

variable {ms : Nat} {c : Clock}

/-- The milliseconds of a second are all shown, unless it is a leap second. -/
lemma millis_eq_shownMillis (h : c.nano < nanosPerSecond) : c.millis = c.shownMillis := by
  simp only [shownMillis, millis, nanosPerMilli]
  simp only [nanosPerSecond] at h
  omega

/-- The milliseconds of a day are fewer than 86400000, unless the day ends with a leap second. -/
lemma millisOfDay_lt (h : c.nano < nanosPerSecond) : c.millisOfDay < Instant.millisPerDay := by
  obtain ⟨hhour, hminute, hsecond, hmilli⟩ := c.parts_lt
  rw [millisOfDay, seconds, millis_eq_shownMillis h, Instant.millisPerDay]
  omega

/-- A time of day is found from its milliseconds, without what is less than a millisecond. -/
lemma ofMillisOfDay?_millisOfDay (h : c.nano < nanosPerSecond) :
    ofMillisOfDay? c.millisOfDay = some c.truncated := by
  obtain ⟨hhour, hminute, hsecond, hmilli⟩ := c.parts_lt
  have hhours : c.millisOfDay / 3600000 = c.hour := by
    rw [millisOfDay, seconds, millis_eq_shownMillis h]
    omega
  have hminutes : c.millisOfDay / 60000 % 60 = c.minute := by
    rw [millisOfDay, seconds, millis_eq_shownMillis h]
    omega
  have hseconds : c.millisOfDay / 1000 % 60 = c.second := by
    rw [millisOfDay, seconds, millis_eq_shownMillis h]
    omega
  have hmillis : c.millisOfDay % 1000 = c.shownMillis := by
    rw [millisOfDay, millis_eq_shownMillis h]
    omega
  rw [ofMillisOfDay?, hhours, hminutes, hseconds, hmillis, ofMillis?_shown]

/-- Every number of milliseconds of a day is that of a time of day. -/
lemma exists_millisOfDay (h : ms < Instant.millisPerDay) :
    ∃ c : Clock, c.nano < nanosPerSecond ∧ c.millisOfDay = ms := by
  have hnano : ms % 1000 * nanosPerMilli < nanosPerSecond := by
    simp only [nanosPerMilli, nanosPerSecond]
    omega
  rw [Instant.millisPerDay] at h
  refine ⟨⟨ms / 3600000, ms / 60000 % 60, ms / 1000 % 60, ms % 1000 * nanosPerMilli, ?_⟩, hnano, ?_⟩
  · have hparts : ms / 3600000 < 24 ∧ ms / 60000 % 60 < 60 ∧ ms / 1000 % 60 < 60 := by omega
    simp [Calendar.isClock, hparts, hnano]
  · simp only [millisOfDay, seconds, millis, nanosPerMilli]
    omega

end Clock

/-! ## Instants -/

namespace Instant

variable {ms : Int} {i : Instant}

/-- The milliseconds of the first instant of the calendar. -/
def firstMillis : Int := -8334601228800000

/-- The milliseconds of the last whole millisecond of the calendar. -/
def lastMillis : Int := 8210266876799999

/-- The days of the calendar in milliseconds. -/
lemma firstMillis_eq : firstMillis = millisPerDay * (Date.firstNumber - Date.epoch.number) := by
  decide

/-- The milliseconds end with the last day. -/
lemma lastMillis_eq :
    lastMillis + 1 = millisPerDay * (Date.lastNumber + 1 - Date.epoch.number) := by
  decide

/-- **An instant is found from its milliseconds**, without what is less than a millisecond, unless
it lies in a leap second. -/
theorem ofEpochMillis?_epochMillis (h : i.clock.nano < nanosPerSecond) :
    ofEpochMillis? i.epochMillis = some ⟨i.date, i.clock.truncated⟩ := by
  have hlt := Clock.millisOfDay_lt h
  have hday : Date.epoch.number + i.epochMillis / millisPerDay = i.date.number := by
    rw [epochMillis, millisPerDay] at *
    omega
  have hclock : (i.epochMillis % millisPerDay).toNat = i.clock.millisOfDay := by
    rw [epochMillis, millisPerDay] at *
    omega
  rw [ofEpochMillis?, hday, hclock, Date.ofNumber?_eq_some_iff.2 rfl,
    Clock.ofMillisOfDay?_millisOfDay h]
  rfl

/-- **The milliseconds of the calendar** have no gaps. -/
theorem exists_ofEpochMillis?_iff :
    (∃ i, ofEpochMillis? ms = some i) ↔ firstMillis ≤ ms ∧ ms ≤ lastMillis := by
  have hfirst := firstMillis_eq
  have hlast := lastMillis_eq
  constructor
  · rintro ⟨i, hi⟩
    obtain ⟨d, hd, -⟩ := Option.bind_eq_some_iff.1 hi
    obtain ⟨hlow, hhigh⟩ := Date.exists_number_iff.1 ⟨d, Date.ofNumber?_eq_some_iff.1 hd⟩
    rw [millisPerDay] at *
    omega
  · rintro ⟨hlow, hhigh⟩
    obtain ⟨d, hd⟩ : ∃ d : Date, d.number = Date.epoch.number + ms / millisPerDay := by
      rw [Date.exists_number_iff]
      rw [millisPerDay] at *
      omega
    obtain ⟨c, hc, hmillis⟩ : ∃ c : Clock, c.nano < nanosPerSecond ∧
        c.millisOfDay = (ms % millisPerDay).toNat := by
      refine Clock.exists_millisOfDay ?_
      rw [millisPerDay]
      omega
    have hms : epochMillis ⟨d, c⟩ = ms := by
      rw [epochMillis, hd, hmillis, millisPerDay]
      omega
    exact ⟨_, hms ▸ ofEpochMillis?_epochMillis hc⟩

/-- An instant is not before the first one, and not after the last one unless it lies in a leap
second. -/
lemma epochMillis_bounds (i : Instant) : firstMillis ≤ i.epochMillis ∧
    (i.clock.nano < nanosPerSecond → i.epochMillis ≤ lastMillis) := by
  obtain ⟨hlow, hhigh⟩ := Date.exists_number_iff.1 ⟨i.date, rfl⟩
  have hfirst := firstMillis_eq
  have hlast := lastMillis_eq
  rw [epochMillis]
  constructor
  · rw [millisPerDay] at *
    omega
  · intro h
    have hlt := Clock.millisOfDay_lt h
    rw [millisPerDay] at *
    omega

/-- The last day of the calendar. -/
def lastDate : Date := ⟨262142, 12, 31, by decide⟩

/-- An instant in a leap second at the end of the last day. -/
structure IsPastEnd (i : Instant) : Prop where
  date : i.date = lastDate
  clock : i.clock.hour = 23 ∧ i.clock.minute = 59 ∧ i.clock.second = 59
  leap : nanosPerSecond ≤ i.clock.nano

/-- Only a leap second at the end of the last day lies behind the milliseconds of the calendar. -/
lemma lastMillis_lt_iff : lastMillis < i.epochMillis ↔ i.IsPastEnd := by
  obtain ⟨hhour, hminute, hsecond, -⟩ := i.clock.parts_lt
  have hnumber : lastDate.number = Date.lastNumber := by decide
  have hlast := lastMillis_eq
  have hclock := i.clock.isClock
  simp only [Calendar.isClock, Bool.and_eq_true, Bool.or_eq_true, decide_eq_true_eq,
    beq_iff_eq] at hclock
  constructor
  · intro h
    have hleap : nanosPerSecond ≤ i.clock.nano := by
      by_contra hless
      exact absurd (i.epochMillis_bounds.2 (not_le.1 hless)) (not_le.2 h)
    obtain ⟨-, hhigh⟩ := Date.exists_number_iff.1 ⟨i.date, rfl⟩
    simp only [epochMillis, Clock.millisOfDay, Clock.seconds, Clock.millis, millisPerDay,
      nanosPerMilli, nanosPerSecond] at *
    have hday : i.date.number = Date.lastNumber := by omega
    refine ⟨?_, by omega, hleap⟩
    have hfound := Date.ofNumber?_eq_some_iff.2 hday
    rw [Date.ofNumber?_eq_some_iff.2 hnumber] at hfound
    exact (Option.some.inj hfound).symm
  · rintro ⟨hdate, hlate, hleap⟩
    simp only [epochMillis, hdate, hnumber, Clock.millisOfDay, Clock.seconds, Clock.millis,
      millisPerDay, nanosPerMilli, nanosPerSecond] at *
    omega

end Instant

end ChartQuery
