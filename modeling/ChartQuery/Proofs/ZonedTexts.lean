import ChartQuery.Proofs.TemporalTexts

/-!
# Texts that spell instants with an offset

An instant may be written with the offset of the clock that shows it.  The text is the date and the
time of day that the clock shows, with the offset behind them: the letter Z, or a sign with hours
and minutes.  The instant that is meant lies so many minutes before the shown one
(`Instant.ShownAs`), and it need not belong to the same day.
-/

namespace ChartQuery

namespace Calendar

open Numeric Text
open Numeral (Digits)

variable {cs ds rest : List Char} {n : Nat} {z : Int}

/-! ## Offsets -/

/-- `OffsetDigits cs n`: two digits for the hours and two for the minutes, with colons and blanks
between them, or the hours alone. -/
inductive OffsetDigits : List Char → Nat → Prop
  | hours {hour fill : List Char} (hhour : Digits hour) (htwo : hour.length = 2)
      (hfill : ∀ c ∈ fill, c = ':' ∨ isBlank c = true) :
    OffsetDigits (hour ++ fill) (60 * ofDigits hour)
  | minutes {hour fill minute : List Char} (hhour : Digits hour) (htwo : hour.length = 2)
      (hfill : ∀ c ∈ fill, c = ':' ∨ isBlank c = true) (hminute : Digits minute)
      (htwo' : minute.length = 2) (hless : ofDigits minute < 60) :
    OffsetDigits (hour ++ (fill ++ minute)) (60 * ofDigits hour + ofDigits minute)

/-- `OffsetText cs z`: the letter Z, or a sign with hours and minutes, with blanks in front.  The
minus sign may be the typographic one. -/
inductive OffsetText : List Char → Int → Prop
  | zero {blanks : List Char} {x : Char} (hblanks : AreBlanks blanks) (hx : x = 'Z' ∨ x = 'z') :
    OffsetText (blanks ++ [x]) 0
  | ahead {blanks cs : List Char} {n : Nat} (hblanks : AreBlanks blanks) (h : OffsetDigits cs n) :
    OffsetText (blanks ++ '+' :: cs) n
  | behind {blanks cs : List Char} {x : Char} {n : Nat} (hblanks : AreBlanks blanks)
      (hx : x = '-' ∨ x = '\u2212') (h : OffsetDigits cs n) :
    OffsetText (blanks ++ x :: cs) (-(n : Int))

/-- Two digits are read where they stand. -/
lemma twoDigits?_eq_some_iff : twoDigits? cs = some (n, rest) ↔
    ∃ ds, Digits ds ∧ ds.length = 2 ∧ cs = ds ++ rest ∧ ofDigits ds = n := by
  constructor
  · intro h
    unfold twoDigits? at h
    split at h
    · next a b tail =>
      split at h
      · next hdigits =>
        cases h
        rw [Bool.and_eq_true] at hdigits
        exact ⟨[a, b], ⟨nofun, by simpa using hdigits⟩, rfl, rfl, rfl⟩
      · cases h
    · cases h
  · rintro ⟨ds, hds, htwo, rfl, rfl⟩
    obtain ⟨a, b, rfl⟩ := List.length_eq_two.1 htwo
    have hdigits : (a.isDigit && b.isDigit) = true := by
      rw [hds.2 a (by simp), hds.2 b (by simp)]
      rfl
    exact if_pos hdigits

/-- Two digits are read in front of anything. -/
lemma twoDigits?_append (hds : Digits ds) (htwo : ds.length = 2) (rest : List Char) :
    twoDigits? (ds ++ rest) = some (ofDigits ds, rest) :=
  twoDigits?_eq_some_iff.2 ⟨ds, hds, htwo, rfl, rfl⟩

/-- Hours and minutes are read as they are spelled. -/
lemma readOffsetDigits_eq_some_iff :
    readOffsetDigits cs = some (z, []) ↔ ∃ n : Nat, OffsetDigits cs n ∧ (n : Int) = z := by
  constructor
  · intro h
    obtain ⟨⟨a, us⟩, hhour, h⟩ := Option.bind_eq_some_iff.1 h
    obtain ⟨hour, hdigits, htwo, rfl, rfl⟩ := twoDigits?_eq_some_iff.1 hhour
    have hsplit := List.takeWhile_append_dropWhile (p := fun c => c == ':' || isBlank c) (l := us)
    have hfill : ∀ c ∈ us.takeWhile (fun c => c == ':' || isBlank c), c = ':' ∨ isBlank c = true :=
      fun c hc => by simpa using List.mem_takeWhile_imp hc
    dsimp only at h
    generalize us.takeWhile (fun c => c == ':' || isBlank c) = fill at *
    split at h
    · next hnil =>
      cases h
      rw [hnil, List.append_nil] at hsplit
      exact ⟨_, .hours hdigits htwo (hsplit ▸ hfill), by push_cast; rfl⟩
    · obtain ⟨⟨b, vs⟩, hminute, h⟩ := Option.bind_eq_some_iff.1 h
      obtain ⟨minute, hdigits', htwo', hrest, rfl⟩ := twoDigits?_eq_some_iff.1 hminute
      dsimp only at h
      split at h
      · next hless =>
        cases h
        rw [hrest, List.append_nil] at hsplit
        rw [← hsplit]
        exact ⟨_, .minutes hdigits htwo hfill hdigits' htwo' hless, by push_cast; rfl⟩
      · cases h
  · rintro ⟨n, h, rfl⟩
    cases h with
    | hours hhour htwo hfill =>
      rename_i hour fill
      have hdrop : fill.dropWhile (fun c => c == ':' || isBlank c) = [] :=
        List.dropWhile_eq_nil_iff.2 fun c hc => by simpa using hfill c hc
      unfold readOffsetDigits
      simp only [twoDigits?_append hhour htwo, hdrop, Option.bind_eq_bind, Option.bind_some]
      push_cast
      rfl
    | minutes hhour htwo hfill hminute htwo' hless =>
      rename_i hour fill minute
      obtain ⟨a, as, rfl, ha⟩ := hminute.exists_cons
      have hstop : (a == ':' || isBlank a) = false := by
        rw [isBlank_of_isDigit ha, Bool.or_false, beq_eq_false_iff_ne]
        rintro rfl
        cases ha
      have hdrop : (fill ++ a :: as).dropWhile (fun c => c == ':' || isBlank c) = a :: as := by
        rw [List.dropWhile_append_of_pos fun c hc => by simpa using hfill c hc,
          List.dropWhile_cons_of_neg (by simp [hstop])]
      have hread := twoDigits?_append hminute htwo' []
      rw [List.append_nil] at hread
      unfold readOffsetDigits
      simp only [twoDigits?_append hhour htwo, hdrop, hread, if_pos hless, Option.bind_eq_bind,
        Option.bind_some]
      push_cast
      rfl

/-- **Offsets are read as they are spelled.** -/
theorem readOffset_eq_some_iff : readOffset cs = some (z, []) ↔ OffsetText cs z := by
  constructor
  · intro h
    obtain ⟨blanks, hblanks, hsplit⟩ := exists_append_trimStart cs
    unfold readOffset at h
    rw [hsplit]
    split at h
    · next tail htail =>
      cases h
      rw [htail]
      exact .zero hblanks (.inl rfl)
    · next tail htail =>
      cases h
      rw [htail]
      exact .zero hblanks (.inr rfl)
    · next tail htail =>
      obtain ⟨n, hn, rfl⟩ := readOffsetDigits_eq_some_iff.1 h
      rw [htail]
      exact .ahead hblanks hn
    · next tail htail =>
      obtain ⟨⟨m, us⟩, hread, heq⟩ := Option.map_eq_some_iff.1 h
      cases heq
      obtain ⟨n, hn, rfl⟩ := readOffsetDigits_eq_some_iff.1 hread
      rw [htail]
      exact .behind hblanks (.inl rfl) hn
    · next tail htail =>
      obtain ⟨⟨m, us⟩, hread, heq⟩ := Option.map_eq_some_iff.1 h
      cases heq
      obtain ⟨n, hn, rfl⟩ := readOffsetDigits_eq_some_iff.1 hread
      rw [htail]
      exact .behind hblanks (.inr rfl) hn
    · cases h
  · intro h
    unfold readOffset
    cases h with
    | zero hblanks hx =>
      rw [hblanks.trimStart_append]
      rcases hx with rfl | rfl
      all_goals
        rw [trimStart_cons (by decide)]
        rfl
    | ahead hblanks h =>
      rw [hblanks.trimStart_append, trimStart_cons (by decide)]
      exact readOffsetDigits_eq_some_iff.2 ⟨_, h, rfl⟩
    | behind hblanks hx h =>
      have hread := readOffsetDigits_eq_some_iff.2 ⟨_, h, rfl⟩
      rw [hblanks.trimStart_append]
      rcases hx with rfl | rfl
      all_goals
        rw [trimStart_cons (by decide)]
        change (readOffsetDigits _).map _ = _
        rw [hread]
        rfl

/-- An offset stops a time of day. -/
lemma OffsetText.stopsClock (h : OffsetText cs z) : StopsClock cs := by
  have hstop {blanks rest : List Char} {x : Char} (hblanks : AreBlanks blanks)
      (hx : x.isDigit = false ∧ x ≠ '.') : StopsClock (blanks ++ x :: rest) := by
    cases blanks with
    | nil =>
      rintro c ⟨⟩
      exact hx
    | cons b blanks =>
      rintro c ⟨⟩
      have hb : isBlank b = true := hblanks b List.mem_cons_self
      constructor
      · by_contra hdigit
        rw [isBlank_of_isDigit (Bool.eq_true_of_not_eq_false hdigit)] at hb
        cases hb
      · rintro rfl
        cases hb
  cases h with
  | zero hblanks hx =>
    refine hstop hblanks ?_
    rcases hx with rfl | rfl <;> decide
  | ahead hblanks h => exact hstop hblanks ⟨rfl, by decide⟩
  | behind hblanks hx h =>
    refine hstop hblanks ?_
    rcases hx with rfl | rfl <;> decide

end Calendar

/-! ## Zones -/

namespace Instant

variable {i shown : Instant} {offset : Int}

/-- The number of whole minutes up to an instant, in all days of the calendar. -/
def minutes (i : Instant) : Int := 1440 * i.date.number + 60 * i.clock.hour + i.clock.minute

/-- `i.ShownAs shown offset`: a clock that is ahead by so many minutes shows `shown` at `i`. -/
structure ShownAs (i shown : Instant) (offset : Int) : Prop where
  minutes : shown.minutes = i.minutes + offset
  second : shown.clock.second = i.clock.second
  nano : shown.clock.nano = i.clock.nano

/-- The instant at which a clock shows another is found if the calendar has it. -/
theorem subOffset?_eq_some_iff (hless : offset.natAbs < 1440) :
    shown.subOffset? offset = some i ↔ i.ShownAs shown offset := by
  obtain ⟨hhour, hminute, -, -⟩ := shown.clock.parts_lt
  obtain ⟨hhour', hminute', -, -⟩ := i.clock.parts_lt
  obtain ⟨m, hm⟩ : ∃ m : Int, m = 60 * shown.clock.hour + shown.clock.minute - offset := ⟨_, rfl⟩
  have hsteps : shown.subOffset? offset =
      (if m < 0 then shown.date.pred? else
        if 1440 ≤ m then shown.date.succ? else some shown.date).bind fun d =>
      (Clock.ofNanos? ((m % 1440).toNat / 60) ((m % 1440).toNat % 60) shown.clock.second
        shown.clock.nano).bind fun c => some ⟨d, c⟩ := by
    unfold subOffset?
    dsimp only
    rw [← hm]
    split_ifs <;> rfl
  have hdate (d : Date) : (if m < 0 then shown.date.pred? else
      if 1440 ≤ m then shown.date.succ? else some shown.date) = some d ↔
        d.number = shown.date.number + m / 1440 := by
    split_ifs with hneg hlong
    · have hday : m / 1440 = -1 := by omega
      rw [Date.pred?, Date.ofNumber?_eq_some_iff, hday]
      rfl
    · have hday : m / 1440 = 1 := by omega
      rw [Date.succ?, Date.ofNumber?_eq_some_iff, hday]
    · have hday : m / 1440 = 0 := by omega
      have hself : Date.ofNumber? shown.date.number = some shown.date :=
        Date.ofNumber?_eq_some_iff.2 rfl
      rw [hday, Int.add_zero, ← hself, Date.ofNumber?_eq_some_iff]
  rw [hsteps]
  constructor
  · intro h
    obtain ⟨d, hd, h⟩ := Option.bind_eq_some_iff.1 h
    obtain ⟨c, hc, h⟩ := Option.bind_eq_some_iff.1 h
    cases h
    have hnumber := (hdate d).1 hd
    obtain ⟨hour, hmin, hsecond, hnano⟩ := Clock.ofNanos?_eq_some_iff.1 hc
    refine ⟨?_, hsecond.symm, hnano.symm⟩
    simp only [minutes]
    omega
  · rintro ⟨hminutes, hsecond, hnano⟩
    simp only [minutes] at hminutes
    have hd := (hdate i.date).2 (by omega)
    have hc : Clock.ofNanos? ((m % 1440).toNat / 60) ((m % 1440).toNat % 60) shown.clock.second
        shown.clock.nano = some i.clock :=
      Clock.ofNanos?_eq_some_iff.2 ⟨by omega, by omega, hsecond.symm, hnano.symm⟩
    rw [hd, Option.bind_some, hc, Option.bind_some]

end Instant

namespace Calendar

variable {cs : List Char} {s : String} {i : Instant}

/-- `ZonedText cs i`: a date, a time of day and an offset of less than a day, which are shown
together at the instant. -/
inductive ZonedText : List Char → Instant → Prop
  | mk {front cs : List Char} {shown i : Instant} {offset : Int} (hshown : InstantText front shown)
      (hoffset : OffsetText cs offset) (hless : offset.natAbs < 1440)
      (hi : i.ShownAs shown offset) : ZonedText (front ++ cs) i

/-- **Instants with an offset are read as they are spelled.** -/
theorem zonedInstant?_eq_some_iff : zonedInstant? s = some i ↔ ZonedText s.toList i := by
  unfold zonedInstant?
  constructor
  · intro h
    obtain ⟨⟨shown, us⟩, hread, h⟩ := Option.bind_eq_some_iff.1 h
    obtain ⟨offset, hoffset, h⟩ := Option.bind_eq_some_iff.1 h
    obtain ⟨front, hs, hshown⟩ := instantText_of_readInstant hread
    have hos := readOffset_eq_some_iff.1 (bind_complete_eq_some_iff.1 hoffset)
    split at h
    · next hless =>
      rw [hs]
      exact .mk hshown hos hless ((Instant.subOffset?_eq_some_iff hless).1 h)
    · cases h
  · intro h
    generalize s.toList = cs at h
    obtain ⟨hshown, hoffset, hless, hi⟩ := h
    have hread := hshown.readInstant_append hoffset.stopsClock
    have hoffset' := bind_complete_eq_some_iff.2 (readOffset_eq_some_iff.2 hoffset)
    rw [hread]
    simp only [Option.bind_eq_bind, Option.bind_some] at hoffset' ⊢
    rw [hoffset', Option.bind_some, if_pos hless]
    exact (Instant.subOffset?_eq_some_iff hless).2 hi

end Calendar

end ChartQuery
