import ChartQuery.Proofs.DayNumbers
import ChartQuery.Proofs.NumberTexts
import Mathlib.Data.List.DropRight

/-!
# Texts that spell dates and times

What dates, times of day and instants are written as, without saying how they are read.
The numbers in them have a few digits, with blanks in front; they are held apart by hyphens and
colons.

The readers take as many digits as they may, so a number ends where no digit follows or where it has
as many digits as are allowed.  Between numbers with a hyphen or a colon behind them this says
nothing.  It matters for the day of a date with a time of day behind it: there may be no blank
between the two, and then the day has two digits (`Calendar.Ends`).
-/

namespace ChartQuery

/-! ## Blanks -/

namespace Text

variable {blanks cs : List Char}

/-- Some blanks, or none. -/
def AreBlanks (cs : List Char) : Prop := ∀ c ∈ cs, isBlank c = true

/-- Blanks in front are left out. -/
lemma AreBlanks.trimStart_append (h : AreBlanks blanks) (cs : List Char) :
    trimStart (blanks ++ cs) = trimStart cs := List.dropWhile_append_of_pos h

/-- There are blanks in front of what is left without them. -/
lemma exists_append_trimStart (cs : List Char) :
    ∃ blanks, AreBlanks blanks ∧ cs = blanks ++ trimStart cs :=
  ⟨cs.takeWhile isBlank, fun _ => List.mem_takeWhile_imp, List.takeWhile_append_dropWhile.symm⟩

/-- Nothing is left out in front of what is no blank. -/
lemma trimStart_cons {c : Char} (hc : isBlank c = false) : trimStart (c :: cs) = c :: cs :=
  List.dropWhile_cons_of_neg (by simp [hc])

/-- What is left begins with no blank. -/
lemma trimStart_trimStart (cs : List Char) : trimStart (trimStart cs) = trimStart cs :=
  List.dropWhile_idempotent ..

end Text

/-- The parts of a time of day are those that it is made of. -/
lemma Clock.ofNanos?_eq_some_iff {hour minute second nano : Nat} {c : Clock} :
    ofNanos? hour minute second nano = some c ↔
      c.hour = hour ∧ c.minute = minute ∧ c.second = second ∧ c.nano = nano := by
  unfold ofNanos?
  constructor
  · intro h
    split at h
    · cases h
      exact ⟨rfl, rfl, rfl, rfl⟩
    · cases h
  · rintro ⟨rfl, rfl, rfl, rfl⟩
    exact dif_pos c.isClock

namespace Calendar

open Numeric Text
open Numeral (Digits)

variable {cs ds front rest : List Char} {n most : Nat} {y z : Int} {d : Date} {c : Clock}
  {i : Instant}

/-! ## Numbers -/

/-- `PartText cs n`: one or two digits for the number, with blanks in front. -/
inductive PartText : List Char → Nat → Prop
  | mk {blanks ds : List Char} (hblanks : AreBlanks blanks) (hds : Digits ds)
      (hmost : ds.length ≤ 2) : PartText (blanks ++ ds) (ofDigits ds)

/-- `YearText cs y`: at most four digits, or any number of them after a sign, with blanks in
front. -/
inductive YearText : List Char → Int → Prop
  | plain {blanks ds : List Char} (hblanks : AreBlanks blanks) (hds : Digits ds)
      (hmost : ds.length ≤ 4) : YearText (blanks ++ ds) (ofDigits ds)
  | plus {blanks ds : List Char} (hblanks : AreBlanks blanks) (hds : Digits ds) :
    YearText (blanks ++ '+' :: ds) (ofDigits ds)
  | minus {blanks ds : List Char} (hblanks : AreBlanks blanks) (hds : Digits ds) :
    YearText (blanks ++ '-' :: ds) (-(ofDigits ds : Int))

/-- The last two characters are digits. -/
def EndsInPair (cs : List Char) : Prop :=
  ∃ front a b, cs = front ++ [a, b] ∧ a.isDigit = true ∧ b.isDigit = true

/-- `Ends front rest`: the number of one or two digits at the end of the characters `front` does not
go on in the characters `rest`. -/
def Ends (front rest : List Char) : Prop :=
  EndsInPair front ∨ ∀ c ∈ rest.head?, c.isDigit = false

/-- What is no digit stops the digits in front of it. -/
lemma head?_isDigit {x : Char} (hx : x.isDigit = false) (rest : List Char) :
    ∀ c ∈ (x :: rest).head?, c.isDigit = false := by
  rintro c ⟨⟩
  exact hx

/-- Digits are read as far as they go and as many as are asked for. -/
lemma readDigits_eq_some_iff : readDigits most cs = some (n, rest) ↔
    ∃ ds, Digits ds ∧ ds.length ≤ most ∧
      (ds.length = most ∨ ∀ c ∈ rest.head?, c.isDigit = false) ∧ cs = ds ++ rest ∧
        ofDigits ds = n := by
  unfold readDigits
  dsimp only
  constructor
  · intro h
    split at h
    · cases h
    · next hne =>
      cases h
      have hstop := List.head?_dropWhile_not Char.isDigit cs
      have hall : ∀ c ∈ cs.takeWhile Char.isDigit, c.isDigit = true := fun c =>
        List.mem_takeWhile_imp
      have hsplit := List.takeWhile_append_dropWhile (p := Char.isDigit) (l := cs)
      generalize cs.takeWhile Char.isDigit = ds at *
      generalize cs.dropWhile Char.isDigit = us at *
      subst hsplit
      have hcut : ds ++ us = ds.take most ++ (ds.drop most ++ us) := by
        rw [← List.append_assoc, List.take_append_drop]
      rw [hcut, List.drop_left]
      refine ⟨ds.take most, ⟨fun hnil => hne (List.isEmpty_iff.2 hnil), fun c hc =>
        hall c (List.mem_of_mem_take hc)⟩, List.length_take_le _ _, ?_, rfl, rfl⟩
      rcases Nat.lt_or_ge ds.length most with hless | hge
      · refine .inr fun c hc => ?_
        rw [List.drop_eq_nil_of_le hless.le, List.nil_append] at hc
        rw [hc] at hstop
        exact hstop
      · exact .inl (List.length_take_of_le hge)
  · rintro ⟨ds, hds, hmost, hstop, rfl, rfl⟩
    have htake : ((ds ++ rest).takeWhile Char.isDigit).take most = ds := by
      rcases hstop with rfl | hstop
      · rw [List.takeWhile_append_of_pos hds.2, List.take_left]
      · rw [(Numeral.takeWhile_isDigit_append hds.2 hstop).1, List.take_of_length_le hmost]
    rw [htake, List.drop_left, if_neg (by simpa using hds.1)]

/-- Digits are no blanks. -/
lemma trimStart_append_of_digits (h : Digits ds) (rest : List Char) :
    trimStart (ds ++ rest) = ds ++ rest := by
  obtain ⟨c, ds, rfl, hc⟩ := h.exists_cons
  exact trimStart_cons (isBlank_of_isDigit hc)

/-- Two digits are a pair, and one digit with blanks in front is none. -/
lemma endsInPair_iff {blanks : List Char} (hblanks : AreBlanks blanks) (hds : Digits ds)
    (hmost : ds.length ≤ 2) : EndsInPair (blanks ++ ds) ↔ ds.length = 2 := by
  constructor
  · rintro ⟨front, a, b, heq, ha, -⟩
    obtain ⟨x, ds, rfl, -⟩ := hds.exists_cons
    cases ds with
    | cons y ds => simpa using hmost
    | nil =>
      rw [List.append_cons front] at heq
      obtain ⟨rfl, -⟩ := List.append_inj' heq rfl
      have hblank := isBlank_of_isDigit ha
      rw [hblanks a (by simp)] at hblank
      cases hblank
  · intro hlength
    obtain ⟨a, b, rfl⟩ := List.length_eq_two.1 hlength
    exact ⟨blanks, a, b, rfl, hds.2 a (by simp), hds.2 b (by simp)⟩

/-- A pair of digits at the end lies behind a character that is no digit. -/
lemma endsInPair_append_cons_iff {x : Char} (hx : x.isDigit = false) (hcs : cs ≠ []) :
    EndsInPair (front ++ x :: cs) ↔ EndsInPair cs := by
  constructor
  · rintro ⟨init, a, b, heq, ha, hb⟩
    obtain ⟨us, e, rfl⟩ := List.eq_nil_or_concat' cs |>.resolve_left hcs
    rw [List.append_cons init, ← List.cons_append, ← List.append_assoc] at heq
    obtain ⟨hbefore, hlast⟩ := List.append_inj' heq rfl
    rcases List.eq_nil_or_concat' us with rfl | ⟨us, f, rfl⟩
    · obtain ⟨-, hx'⟩ := List.append_inj' hbefore rfl
      rw [List.singleton_inj.1 hx', ha] at hx
      cases hx
    · rw [← List.cons_append, ← List.append_assoc] at hbefore
      obtain ⟨-, hf⟩ := List.append_inj' hbefore rfl
      refine ⟨us, f, e, by simp, ?_, ?_⟩
      · rwa [List.singleton_inj.1 hf]
      · rwa [List.singleton_inj.1 hlast]
  · rintro ⟨init, a, b, rfl, ha, hb⟩
    exact ⟨front ++ x :: init, a, b, by simp, ha, hb⟩

/-- Numbers of one or two digits are read as far as they go. -/
lemma readTwo_eq_some_iff : readTwo cs = some (n, rest) ↔
    ∃ front, cs = front ++ rest ∧ PartText front n ∧ Ends front rest := by
  rw [readTwo, readDigits_eq_some_iff]
  constructor
  · rintro ⟨ds, hds, hmost, hstop, hcs, rfl⟩
    obtain ⟨blanks, hblanks, hsplit⟩ := exists_append_trimStart cs
    refine ⟨blanks ++ ds, ?_, .mk hblanks hds hmost, ?_⟩
    · rw [List.append_assoc, ← hcs]
      exact hsplit
    · exact hstop.imp_left (endsInPair_iff hblanks hds hmost).2
  · rintro ⟨_, rfl, ⟨hblanks, hds, hmost⟩, hends⟩
    refine ⟨_, hds, hmost, hends.imp_left (endsInPair_iff hblanks hds hmost).1, ?_, rfl⟩
    rw [List.append_assoc, hblanks.trimStart_append, trimStart_append_of_digits hds]

/-- A number in front of what is no digit is read. -/
lemma PartText.readTwo_append (h : PartText front n) (hrest : ∀ c ∈ rest.head?, c.isDigit = false) :
    readTwo (front ++ rest) = some (n, rest) := readTwo_eq_some_iff.2 ⟨front, rfl, h, .inr hrest⟩

/-- There is at least one digit. -/
lemma PartText.ne_nil (h : PartText cs n) : cs ≠ [] := by
  obtain ⟨-, hds, -⟩ := h
  exact List.append_ne_nil_of_right_ne_nil _ hds.1

/-- What is read as a year is one. -/
lemma yearText_of_readYear (h : readYear cs = some (y, rest)) :
    ∃ front, cs = front ++ rest ∧ YearText front y := by
  obtain ⟨blanks, hblanks, hsplit⟩ := exists_append_trimStart cs
  unfold readYear at h
  split at h
  · next tail htail =>
    obtain ⟨⟨n, us⟩, hread, heq⟩ := Option.map_eq_some_iff.1 h
    cases heq
    obtain ⟨ds, hds, -, -, rfl, rfl⟩ := readDigits_eq_some_iff.1 hread
    exact ⟨blanks ++ '-' :: ds, by rw [hsplit, htail]; simp, .minus hblanks hds⟩
  · next tail htail =>
    obtain ⟨⟨n, us⟩, hread, heq⟩ := Option.map_eq_some_iff.1 h
    cases heq
    obtain ⟨ds, hds, -, -, rfl, rfl⟩ := readDigits_eq_some_iff.1 hread
    exact ⟨blanks ++ '+' :: ds, by rw [hsplit, htail]; simp, .plus hblanks hds⟩
  · obtain ⟨⟨n, us⟩, hread, heq⟩ := Option.map_eq_some_iff.1 h
    cases heq
    obtain ⟨ds, hds, hmost, -, htail, rfl⟩ := readDigits_eq_some_iff.1 hread
    exact ⟨blanks ++ ds, by rw [hsplit, htail]; simp, .plain hblanks hds hmost⟩

/-- A year in front of what is no digit is read. -/
lemma YearText.readYear_append (h : YearText front y)
    (hrest : ∀ c ∈ rest.head?, c.isDigit = false) : readYear (front ++ rest) = some (y, rest) := by
  have hread {ds : List Char} {most : Nat} (hds : Digits ds) (hmost : ds.length ≤ most) :
      readDigits most (ds ++ rest) = some (ofDigits ds, rest) :=
    readDigits_eq_some_iff.2 ⟨ds, hds, hmost, .inr hrest, rfl, rfl⟩
  unfold readYear
  cases h with
  | plain hblanks hds hmost =>
    rw [List.append_assoc, hblanks.trimStart_append, trimStart_append_of_digits hds]
    obtain ⟨c, tail, rfl, hc⟩ := hds.exists_cons
    split
    · next heq =>
      cases heq
      cases hc
    · next heq =>
      cases heq
      cases hc
    · rw [hread hds hmost]
      rfl
  | plus hblanks hds =>
    rw [List.append_assoc, hblanks.trimStart_append, List.cons_append, trimStart_cons (by decide)]
    change (readDigits _ (_ ++ rest)).map _ = _
    rw [hread hds (by simp)]
    rfl
  | minus hblanks hds =>
    rw [List.append_assoc, hblanks.trimStart_append, List.cons_append, trimStart_cons (by decide)]
    change (readDigits _ (_ ++ rest)).map _ = _
    rw [hread hds (by simp)]
    rfl

/-- A given character is read where it stands. -/
lemma readChar_eq_some_iff {x : Char} : readChar x cs = some rest ↔ cs = x :: rest := by
  cases cs with
  | nil => exact iff_of_false nofun nofun
  | cons e cs =>
    rw [readChar, Option.ite_none_right_eq_some, Option.some.injEq, List.cons.injEq]

/-! ## Dates -/

/-- `DateText cs d`: year, month and day with hyphens between them. -/
inductive DateText : List Char → Date → Prop
  | mk {year month day : List Char} {d : Date} (hyear : YearText year d.year)
      (hmonth : PartText month d.month) (hday : PartText day d.day) :
    DateText (year ++ '-' :: (month ++ '-' :: day)) d

/-- Dates are read as far as they go. -/
theorem readDate_eq_some_iff : readDate cs = some (d, rest) ↔
    ∃ front, cs = front ++ rest ∧ DateText front d ∧ Ends front rest := by
  have hends {year month day : List Char} (hday : day ≠ []) :
      Ends (year ++ '-' :: (month ++ '-' :: day)) rest ↔ Ends day rest := by
    refine or_congr_left ?_
    rw [endsInPair_append_cons_iff rfl (by simp), endsInPair_append_cons_iff rfl hday]
  constructor
  · intro h
    obtain ⟨⟨y, us⟩, hyear, h⟩ := Option.bind_eq_some_iff.1 h
    obtain ⟨vs, hchar, h⟩ := Option.bind_eq_some_iff.1 h
    obtain ⟨⟨m, ws⟩, hmonth, h⟩ := Option.bind_eq_some_iff.1 h
    obtain ⟨xs, hchar', h⟩ := Option.bind_eq_some_iff.1 h
    obtain ⟨⟨n, rs⟩, hday, h⟩ := Option.bind_eq_some_iff.1 h
    obtain ⟨d, hd, h⟩ := Option.bind_eq_some_iff.1 h
    cases h
    obtain ⟨year, rfl, hy⟩ := yearText_of_readYear hyear
    obtain rfl := readChar_eq_some_iff.1 hchar
    obtain ⟨month, rfl, hm, -⟩ := readTwo_eq_some_iff.1 hmonth
    obtain rfl := readChar_eq_some_iff.1 hchar'
    obtain ⟨day, rfl, hn, hstop⟩ := readTwo_eq_some_iff.1 hday
    obtain ⟨rfl, rfl, rfl⟩ := Date.ofYmd?_eq_some_iff.1 hd
    exact ⟨_, by simp, .mk hy hm hn, (hends hn.ne_nil).2 hstop⟩
  · rintro ⟨_, rfl, ⟨hyear, hmonth, hday⟩, hstop⟩
    rename_i year month day
    have hread := readTwo_eq_some_iff.2 ⟨day, rfl, hday, (hends hday.ne_nil).1 hstop⟩
    have hdate : Date.ofYmd? d.year d.month d.day = some d :=
      Date.ofYmd?_eq_some_iff.2 ⟨rfl, rfl, rfl⟩
    simp only [List.append_assoc, List.cons_append, readDate,
      hyear.readYear_append (head?_isDigit (x := '-') rfl _),
      hmonth.readTwo_append (head?_isDigit (x := '-') rfl _), hread, hdate, readChar, if_true,
      Option.bind_eq_bind, Option.bind_some]
    rfl

/-! ## Times of day -/

/-- `NanosText cs n`: a point and digits for a fraction of a second, or nothing.  Digits after the
ninth do not count. -/
inductive NanosText : List Char → Nat → Prop
  | whole : NanosText [] 0
  | fraction {ds : List Char} (hds : Digits ds) :
    NanosText ('.' :: ds) (ofDigits (ds.take 9) * 10 ^ (9 - ds.length))

/-- `ClockText cs c`: hour, minute and second with colons between them, and possibly a fraction.
Second 60 is the leap second after the last second of a minute. -/
inductive ClockText : List Char → Clock → Prop
  | mk {hour minute second fraction : List Char} {c : Clock} (hhour : PartText hour c.hour)
      (hminute : PartText minute c.minute) (hsecond : PartText second c.second)
      (hfraction : NanosText fraction c.nano) :
    ClockText (hour ++ ':' :: (minute ++ ':' :: (second ++ fraction))) c
  | leap {hour minute second fraction : List Char} {c : Clock} {n : Nat}
      (hhour : PartText hour c.hour) (hminute : PartText minute c.minute)
      (hsecond : PartText second 60) (hfraction : NanosText fraction n)
      (hc : c.second = 59 ∧ c.nano = nanosPerSecond + n) :
    ClockText (hour ++ ':' :: (minute ++ ':' :: (second ++ fraction))) c

/-- What neither a digit nor a point goes on in. -/
def StopsClock (rest : List Char) : Prop := ∀ c ∈ rest.head?, c.isDigit = false ∧ c ≠ '.'

/-- A time of day stops at the end. -/
lemma stopsClock_nil : StopsClock [] := nofun

/-- A fraction begins with a point. -/
lemma NanosText.head? (h : NanosText cs n) (hrest : StopsClock rest) :
    ∀ c ∈ (cs ++ rest).head?, c.isDigit = false := by
  cases h with
  | whole => exact fun c hc => (hrest c hc).1
  | fraction hds => simp

/-- What is read as a fraction is one. -/
lemma nanosText_of_readFraction (h : readFraction cs = some (n, rest)) :
    ∃ front, cs = front ++ rest ∧ NanosText front n := by
  unfold readFraction at h
  split at h
  · next tail =>
    dsimp only at h
    split at h
    · cases h
    · next hne =>
      cases h
      have hdigits : Digits (tail.takeWhile Char.isDigit) :=
        ⟨fun hnil => hne (List.isEmpty_iff.2 hnil), fun c => List.mem_takeWhile_imp⟩
      have hplaces : 9 - ((tail.takeWhile Char.isDigit).take 9).length =
          9 - (tail.takeWhile Char.isDigit).length := by
        rw [List.length_take]
        omega
      refine ⟨'.' :: tail.takeWhile Char.isDigit, ?_, ?_⟩
      · rw [List.cons_append, List.takeWhile_append_dropWhile]
      · rw [hplaces]
        exact .fraction hdigits
  · cases h
    exact ⟨[], rfl, .whole⟩

/-- A fraction is read in front of what stops it. -/
lemma NanosText.readFraction_append (h : NanosText front n) (hrest : StopsClock rest) :
    readFraction (front ++ rest) = some (n, rest) := by
  unfold readFraction
  cases h with
  | whole =>
    split
    · next heq => exact absurd rfl (hrest '.' (by rw [← List.nil_append rest, heq]; rfl)).2
    · rfl
  | @fraction ds hds =>
    obtain ⟨htake, hdrop⟩ :=
      Numeral.takeWhile_isDigit_append hds.2 fun c hc => (hrest c hc).1
    have hplaces : 9 - (ds.take 9).length = 9 - ds.length := by
      rw [List.length_take]
      omega
    simp only [List.cons_append, htake, hdrop, hplaces, List.isEmpty_iff, if_neg hds.1]
    rfl

/-- A fraction is less than a second. -/
lemma NanosText.lt (h : NanosText cs n) : n < nanosPerSecond := by
  cases h with
  | whole => decide
  | @fraction ds hds =>
    have hkept : ∀ c ∈ ds.take 9, c.isDigit = true := fun c hc => hds.2 c (List.mem_of_mem_take hc)
    have hsum : (ds.take 9).length + (9 - ds.length) = 9 := by
      rw [List.length_take]
      omega
    calc ofDigits (ds.take 9) * 10 ^ (9 - ds.length)
        < 10 ^ (ds.take 9).length * 10 ^ (9 - ds.length) :=
          Nat.mul_lt_mul_of_pos_right (Numeral.ofDigits_lt hkept) (Nat.pow_pos (by decide))
      _ = nanosPerSecond := by
        rw [← Nat.pow_add, hsum]
        rfl

/-- What is read as a time of day is one. -/
lemma clockText_of_readClock (h : readClock cs = some (c, rest)) :
    ∃ front, cs = front ++ rest ∧ ClockText front c := by
  obtain ⟨⟨a, us⟩, hhour, h⟩ := Option.bind_eq_some_iff.1 h
  obtain ⟨vs, hchar, h⟩ := Option.bind_eq_some_iff.1 h
  obtain ⟨⟨b, ws⟩, hminute, h⟩ := Option.bind_eq_some_iff.1 h
  obtain ⟨xs, hchar', h⟩ := Option.bind_eq_some_iff.1 h
  obtain ⟨⟨e, ys⟩, hsecond, h⟩ := Option.bind_eq_some_iff.1 h
  obtain ⟨⟨nano, rs⟩, hfraction, hclock⟩ := Option.bind_eq_some_iff.1 h
  dsimp only at hclock
  obtain ⟨hour, rfl, hh, -⟩ := readTwo_eq_some_iff.1 hhour
  obtain rfl := readChar_eq_some_iff.1 hchar
  obtain ⟨minute, rfl, hm, -⟩ := readTwo_eq_some_iff.1 hminute
  obtain rfl := readChar_eq_some_iff.1 hchar'
  obtain ⟨second, rfl, hs, -⟩ := readTwo_eq_some_iff.1 hsecond
  obtain ⟨fraction, rfl, hn⟩ := nanosText_of_readFraction hfraction
  split at hclock
  · next hsixty =>
    obtain ⟨c, hc, heq⟩ := Option.bind_eq_some_iff.1 hclock
    cases heq
    obtain ⟨rfl, rfl, hlast⟩ := Clock.ofNanos?_eq_some_iff.1 hc
    exact ⟨_, by simp, .leap hh hm (hsixty ▸ hs) hn hlast⟩
  · obtain ⟨c, hc, heq⟩ := Option.bind_eq_some_iff.1 hclock
    cases heq
    obtain ⟨rfl, rfl, rfl, rfl⟩ := Clock.ofNanos?_eq_some_iff.1 hc
    exact ⟨_, by simp, .mk hh hm hs hn⟩

/-- A time of day is read in front of what stops it. -/
lemma ClockText.readClock_append (h : ClockText front c) (hrest : StopsClock rest) :
    readClock (front ++ rest) = some (c, rest) := by
  have hread {hour minute second fraction : List Char} {a b e n : Nat} (hhour : PartText hour a)
      (hminute : PartText minute b) (hsecond : PartText second e)
      (hfraction : NanosText fraction n) :
      readClock (hour ++ ':' :: (minute ++ ':' :: (second ++ fraction)) ++ rest) =
        (if e = 60 then Clock.ofNanos? a b 59 (nanosPerSecond + n)
          else Clock.ofNanos? a b e n).map fun c => (c, rest) := by
    simp only [List.append_assoc, List.cons_append, readClock,
      hhour.readTwo_append (head?_isDigit (x := ':') rfl _),
      hminute.readTwo_append (head?_isDigit (x := ':') rfl _),
      hsecond.readTwo_append (hfraction.head? hrest), hfraction.readFraction_append hrest,
      readChar, if_true, Option.bind_eq_bind, Option.bind_some]
    split
    · cases Clock.ofNanos? a b 59 (nanosPerSecond + n) <;> rfl
    · cases Clock.ofNanos? a b e n <;> rfl
  cases h with
  | mk hhour hminute hsecond hfraction =>
    have hsixty : c.second ≠ 60 := by
      have hlt := c.parts_lt.2.2.1
      omega
    have hc : Clock.ofNanos? c.hour c.minute c.second c.nano = some c :=
      Clock.ofNanos?_eq_some_iff.2 ⟨rfl, rfl, rfl, rfl⟩
    rw [hread hhour hminute hsecond hfraction, if_neg hsixty, hc]
    rfl
  | leap hhour hminute hsecond hfraction hlast =>
    rename_i n
    have hc : Clock.ofNanos? c.hour c.minute 59 (nanosPerSecond + n) = some c :=
      Clock.ofNanos?_eq_some_iff.2 ⟨rfl, rfl, hlast⟩
    rw [hread hhour hminute hsecond hfraction, if_pos rfl, hc]
    rfl

/-- Blanks may stand in front of a time of day. -/
lemma ClockText.append {blanks : List Char} (hblanks : AreBlanks blanks) (h : ClockText cs c) :
    ClockText (blanks ++ cs) c := by
  have hpart {cs : List Char} {n : Nat} (h : PartText cs n) : PartText (blanks ++ cs) n := by
    obtain ⟨hfront, hds, hmost⟩ := h
    rw [← List.append_assoc]
    exact .mk (List.forall_mem_append.2 ⟨hblanks, hfront⟩) hds hmost
  cases h with
  | mk hhour hminute hsecond hfraction =>
    rw [← List.append_assoc]
    exact .mk (hpart hhour) hminute hsecond hfraction
  | leap hhour hminute hsecond hfraction hc =>
    rw [← List.append_assoc]
    exact .leap (hpart hhour) hminute hsecond hfraction hc

/-- Blanks in front of a time of day do not matter. -/
lemma readClock_trimStart (cs : List Char) : readClock (trimStart cs) = readClock cs := by
  unfold readClock readTwo
  rw [trimStart_trimStart]

/-! ## Whole texts -/

variable {s : String}

/-- Nothing is left over of a text that is read. -/
lemma bind_complete_eq_some_iff {α : Type} {read : Option (α × List Char)} {a : α} :
    (read >>= complete) = some a ↔ read = some (a, []) := by
  cases read with
  | none => exact iff_of_false nofun nofun
  | some x =>
    obtain ⟨b, rest⟩ := x
    cases rest with
    | nil => simp [complete]
    | cons c cs => simp [complete]

/-- **Dates are read as they are spelled.** -/
theorem date?_eq_some_iff : date? s = some d ↔ DateText s.toList d := by
  rw [date?, bind_complete_eq_some_iff, readDate_eq_some_iff]
  constructor
  · rintro ⟨front, hs, h, -⟩
    rw [hs, List.append_nil]
    exact h
  · intro h
    exact ⟨_, (List.append_nil _).symm, h, .inr (by simp)⟩

/-- **Times of day are read as they are spelled.** -/
theorem clock?_eq_some_iff : clock? s = some c ↔ ClockText s.toList c := by
  rw [clock?, bind_complete_eq_some_iff]
  constructor
  · intro h
    obtain ⟨front, hs, h⟩ := clockText_of_readClock h
    rw [hs, List.append_nil]
    exact h
  · intro h
    have hread := h.readClock_append stopsClock_nil
    rwa [List.append_nil] at hread

/-- `InstantText cs i`: a date and a time of day, with blanks between them or a day of two
digits. -/
inductive InstantText : List Char → Instant → Prop
  | mk {day clock : List Char} {d : Date} {c : Clock} (hd : DateText day d)
      (hc : ClockText clock c) (hends : Ends day clock) : InstantText (day ++ clock) ⟨d, c⟩

/-- What is read as a date and a time of day is one. -/
lemma instantText_of_readInstant (h : readInstant (some ∘ trimStart) cs = some (i, rest)) :
    ∃ front, cs = front ++ rest ∧ InstantText front i := by
  obtain ⟨⟨d, us⟩, hdate, h⟩ := Option.bind_eq_some_iff.1 h
  obtain ⟨vs, hvs, h⟩ := Option.bind_eq_some_iff.1 h
  obtain ⟨⟨c, rs⟩, hclock, h⟩ := Option.bind_eq_some_iff.1 h
  cases h
  cases hvs
  have hclock : readClock us = some (c, rest) := (readClock_trimStart us).symm.trans hclock
  obtain ⟨day, rfl, hd, hends⟩ := readDate_eq_some_iff.1 hdate
  obtain ⟨clock, rfl, hc⟩ := clockText_of_readClock hclock
  refine ⟨day ++ clock, (List.append_assoc ..).symm, .mk hd hc (hends.imp_right fun hstop => ?_)⟩
  cases clock with
  | nil => simp
  | cons x clock => exact hstop

/-- A date and a time of day are read in front of what stops them. -/
lemma InstantText.readInstant_append (h : InstantText front i) (hrest : StopsClock rest) :
    readInstant (some ∘ trimStart) (front ++ rest) = some (i, rest) := by
  obtain ⟨hd, hc, hends⟩ := h
  rename_i day clock d c
  have hends' : Ends day (clock ++ rest) := by
    refine hends.imp_right fun hstop => ?_
    cases clock with
    | nil => exact fun x hx => (hrest x hx).1
    | cons x clock => exact hstop
  have hdate := readDate_eq_some_iff.2 ⟨day, rfl, hd, hends'⟩
  have hclock := hc.readClock_append hrest
  rw [List.append_assoc]
  simp only [readInstant, hdate, Function.comp_apply, readClock_trimStart, hclock,
    Option.bind_eq_bind, Option.bind_some]
  rfl

/-- **Instants are read as they are spelled.** -/
theorem instant?_eq_some_iff : instant? s = some i ↔ InstantText s.toList i := by
  rw [instant?, bind_complete_eq_some_iff]
  constructor
  · intro h
    obtain ⟨front, hs, h⟩ := instantText_of_readInstant h
    rw [hs, List.append_nil]
    exact h
  · intro h
    have hread := h.readInstant_append stopsClock_nil
    rwa [List.append_nil] at hread

/-- **A letter T may stand between a date and a time of day.** -/
theorem instantT?_eq_some_iff : instantT? s = some i ↔ ∃ day clock,
    s.toList = day ++ 'T' :: clock ∧ DateText day i.date ∧ ClockText clock i.clock := by
  rw [instantT?, bind_complete_eq_some_iff]
  constructor
  · intro h
    obtain ⟨⟨d, us⟩, hdate, h⟩ := Option.bind_eq_some_iff.1 h
    obtain ⟨vs, hvs, h⟩ := Option.bind_eq_some_iff.1 h
    obtain ⟨⟨c, rs⟩, hclock, h⟩ := Option.bind_eq_some_iff.1 h
    cases h
    obtain ⟨day, hs, hd, -⟩ := readDate_eq_some_iff.1 hdate
    obtain rfl := readChar_eq_some_iff.1 hvs
    obtain ⟨clock, hvs, hc⟩ := clockText_of_readClock hclock
    rw [List.append_nil] at hvs
    exact ⟨day, clock, hvs ▸ hs, hd, hc⟩
  · rintro ⟨day, clock, hs, hd, hc⟩
    have hdate : readDate s.toList = some (i.date, 'T' :: clock) :=
      readDate_eq_some_iff.2 ⟨day, hs, hd, .inr (by simp)⟩
    have hclock := hc.readClock_append stopsClock_nil
    rw [List.append_nil] at hclock
    simp only [readInstant, hdate, readChar, if_true, hclock, Option.bind_eq_bind,
      Option.bind_some]
    rfl

end Calendar

end ChartQuery
