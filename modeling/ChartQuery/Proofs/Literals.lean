import ChartQuery.Proofs.Numerals
import ChartQuery.Proofs.Typing

/-!
# Literals that are read back

Dates and instants reach a client as texts `Date(...)`, times of day as quadruples.  A conversion
reads both as well, so what was converted once can be converted again.

A literal is read by cutting it at its commas and reading the numbers between them.  So it is enough
that texts without commas are found again after they were joined, and that the digits of a number
are read as that number.  What is read is the instant without the parts that the literal does not
carry: `Instant.carried`.
-/

namespace ChartQuery

/-! ## Literals -/

namespace Clock

/-- The time of day without what is less than a millisecond as it is shown.  A leap second becomes
the end of the second before it. -/
def truncated (c : Clock) : Clock :=
  { c with
    nano := c.shownMillis * Calendar.nanosPerMilli
    isClock := by
      obtain ⟨hhour, hminute, hsecond, hmilli⟩ := c.parts_lt
      have hnano : c.shownMillis * Calendar.nanosPerMilli < Calendar.nanosPerSecond := by
        simp only [Calendar.nanosPerMilli, Calendar.nanosPerSecond]
        omega
      simp [Calendar.isClock, hhour, hminute, hsecond, hnano] }

/-- The milliseconds are shown as before. -/
@[simp] lemma shownMillis_truncated (c : Clock) : c.truncated.shownMillis = c.shownMillis := by
  have hmilli := c.parts_lt.2.2.2
  have hmillis : c.truncated.millis = c.shownMillis :=
    Nat.mul_div_cancel _ (by decide : 0 < Calendar.nanosPerMilli)
  rw [shownMillis, hmillis]
  omega

/-- The parts of a time of day that are shown make the time of day without the rest. -/
lemma ofMillis?_shown (c : Clock) :
    ofMillis? c.hour c.minute c.second c.shownMillis = some c.truncated :=
  dif_pos c.truncated.isClock

/-- The hour, the minute and the second stay, the nanoseconds become whole milliseconds, and what is
longer than a second ends with the second. -/
lemma truncated_nano (c : Clock) :
    (c.nano < Calendar.nanosPerSecond →
      c.truncated.nano = c.nano - c.nano % Calendar.nanosPerMilli) ∧
    (Calendar.nanosPerSecond ≤ c.nano →
      c.second = 59 ∧ c.truncated.nano = 999 * Calendar.nanosPerMilli) := by
  have hclock := c.isClock
  simp only [Calendar.isClock, Bool.and_eq_true, Bool.or_eq_true, decide_eq_true_eq,
    beq_iff_eq] at hclock
  simp only [truncated, shownMillis, millis, Calendar.nanosPerMilli, Calendar.nanosPerSecond] at *
  omega

end Clock

namespace Date

/-- The parts of a date make the date. -/
lemma ofYmd?_self (d : Date) : ofYmd? d.year (d.month - 1 + 1) d.day = some d := by
  rw [Nat.sub_add_cancel d.one_le_month]
  exact dif_pos d.isDate

/-- The parts of a date are small. -/
lemma parts_le (d : Date) :
    Calendar.minYear ≤ d.year ∧ d.year ≤ Calendar.maxYear ∧ d.month ≤ 12 ∧ d.day ≤ 31 := by
  have h := d.isDate
  simp only [Calendar.isDate, Bool.and_eq_true, decide_eq_true_eq] at h
  obtain ⟨⟨⟨hlow, hhigh⟩, hday⟩, hlast⟩ := h
  refine ⟨hlow, hhigh, ?_, ?_⟩
  all_goals
    unfold Calendar.daysInMonth at hlast
    split at hlast
    all_goals first | omega | (split at hlast <;> omega)

end Date

namespace Value

variable {type : ColumnType}

/-- The arguments of a literal. -/
lemma dateArguments?_literal (inner : String) :
    dateArguments? ("Date(" ++ inner ++ ")") = some inner := by
  have htext : ("Date(" ++ inner ++ ")").toList =
      'D' :: 'a' :: 't' :: 'e' :: '(' :: (inner.toList ++ [')']) := by
    rw [String.toList_append, String.toList_append]
    rfl
  unfold dateArguments?
  rw [htext]
  simp

/-- A literal is no number. -/
lemma binary64?_literal (rest : String) : Numeral.binary64? ("Date(" ++ rest) = none := by
  have htext : ("Date(" ++ rest).toList = 'D' :: 'a' :: 't' :: 'e' :: '(' :: rest.toList := by
    rw [String.toList_append]
    rfl
  have hword {word : String} (h : String.ofList (('D' :: 'a' :: 't' :: 'e' :: '(' ::
      rest.toList).map Char.toLower) = word) : word.toList.head? = some 'd' := by
    rw [← h, String.toList_ofList]
    rfl
  unfold Numeral.binary64?
  rw [htext]
  split
  · next heq => exact absurd (List.cons.inj heq).1 (by decide)
  · next heq => exact absurd (List.cons.inj heq).1 (by decide)
  · unfold Numeral.unsigned?
    split
    · next h => exact absurd (hword h) (by decide)
    · next h => exact absurd (hword h) (by decide)
    · next h => exact absurd (hword h) (by decide)
    · rfl

/-- A literal is not the date for no date. -/
lemma isZeroDate_literal (rest : String) : isZeroDate ("Date(" ++ rest) = false := by
  have htext : ("Date(" ++ rest).toList = 'D' :: 'a' :: 't' :: 'e' :: '(' :: rest.toList := by
    rw [String.toList_append]
    rfl
  have hne : ("Date(" ++ rest == "0000") = false := by
    rw [beq_eq_false_iff_ne]
    intro h
    have hlists := congrArg String.toList h
    rw [htext] at hlists
    cases (List.cons.inj hlists).1
  rw [isZeroDate, hne, htext]
  rfl

/-- Numbers of 32 bits are read from their texts. -/
lemma parts?_toString {ns : List Nat} (h : ∀ n ∈ ns, n < Nat.pow 2 32) :
    parts? (ns.map toString) = some ns := by
  induction ns with
  | nil => rfl
  | cons n ns ih =>
    have hrest : parts? (ns.map toString) = some ns :=
      ih fun m hm => h m (List.mem_cons_of_mem _ hm)
    have htrim : Text.trim (toString n) = toString n := Text.trim_toString n
    have hfirst : Numeral.natural? (Nat.pow 2 32) (Text.trim (toString n)) = some n := by
      rw [htrim]
      exact Numeral.natural?_toString (h n List.mem_cons_self)
    unfold parts? at hrest ⊢
    rw [List.map_cons, List.mapM_cons, hfirst, hrest]
    rfl

/-- A literal with a year and further numbers. -/
def literal (year : Int) (ns : List Nat) : String :=
  "Date(" ++ ",".intercalate ((year :: ns.map Int.ofNat).map toString) ++ ")"

/-- A literal as the value that it is. -/
lemma dateText_cons (year : Int) (ns : List Nat) :
    dateText (year :: ns.map Int.ofNat) = string (literal year ns) := rfl

/-- The year and the further numbers are found in a literal. -/
lemma exists_literal {year : Int} {n : Nat} {ns : List Nat}
    (hyear : Calendar.minYear ≤ year ∧ year ≤ Calendar.maxYear)
    (hns : ∀ m ∈ n :: ns, m < Nat.pow 2 32) :
    ∃ inner rest, dateArguments? (literal year (n :: ns)) = some inner ∧
      Text.cut? ',' inner = some (toString year, rest) ∧
      Numeral.integer? 32 (Text.trim (toString year)) = some year ∧
      parts? (Text.split ',' rest) = some (n :: ns) := by
  have htexts : ((n :: ns).map Int.ofNat).map toString = (n :: ns).map toString := by
    rw [List.map_map]
    rfl
  have hsplit : Text.split ',' (",".intercalate ((n :: ns).map toString)) =
      (n :: ns).map toString := by
    refine Text.split_intercalate fun t ht => ?_
    rw [← List.map_cons (f := toString), List.mem_map] at ht
    obtain ⟨m, -, rfl⟩ := ht
    exact comma_notMem_toString m
  refine ⟨_, ",".intercalate ((n :: ns).map toString), dateArguments?_literal _, ?_, ?_, ?_⟩
  · rw [List.map_cons, htexts, List.map_cons, String.intercalate_cons_cons]
    exact Text.cut?_append (comma_notMem_toString year) _
  · rw [Text.trim_toString]
    simp only [Calendar.minYear, Calendar.maxYear] at hyear
    refine Numeral.integer?_toString ?_ ?_
    · exact le_trans (by decide) hyear.1
    · exact lt_of_le_of_lt hyear.2 (by decide)
  · rw [hsplit]
    exact parts?_toString hns

/-- The literal of a date is read as the beginning of the date. -/
lemma dateLiteral?_date (d : Date) :
    dateLiteral? (literal d.year [d.month - 1, d.day]) = some (.ofDate d) := by
  obtain ⟨hlow, hhigh, hmonth, hday⟩ := d.parts_le
  have hns : ∀ m ∈ [d.month - 1, d.day], m < Nat.pow 2 32 := by
    have hbound : 32 < Nat.pow 2 32 := by decide
    intro m hm
    simp only [List.mem_cons, List.not_mem_nil, or_false] at hm
    rcases hm with rfl | rfl <;> omega
  obtain ⟨inner, rest, harguments, hcut, hyear, hparts⟩ := exists_literal ⟨hlow, hhigh⟩ hns
  unfold dateLiteral?
  simp only [harguments, hcut, hyear, hparts, d.ofYmd?_self, Option.bind_eq_bind, Option.bind_some]
  rfl

/-- The literal of an instant is read as the instant without what is less than a millisecond. -/
lemma dateLiteral?_dateTime (d : Date) (c : Clock) :
    dateLiteral? (literal d.year
      [d.month - 1, d.day, c.hour, c.minute, c.second, c.shownMillis]) =
        some ⟨d, c.truncated⟩ := by
  obtain ⟨hlow, hhigh, hmonth, hday⟩ := d.parts_le
  obtain ⟨hhour, hminute, hsecond, hmilli⟩ := c.parts_lt
  have hns : ∀ m ∈ [d.month - 1, d.day, c.hour, c.minute, c.second, c.shownMillis],
      m < Nat.pow 2 32 := by
    have hbound : 1000 < Nat.pow 2 32 := by decide
    intro m hm
    simp only [List.mem_cons, List.not_mem_nil, or_false] at hm
    rcases hm with rfl | rfl | rfl | rfl | rfl | rfl <;> omega
  obtain ⟨inner, rest, harguments, hcut, hyear, hparts⟩ := exists_literal ⟨hlow, hhigh⟩ hns
  unfold dateLiteral?
  simp only [harguments, hcut, hyear, hparts, d.ofYmd?_self, c.ofMillis?_shown,
    Option.bind_eq_bind, Option.bind_some]
  rfl

/-- A literal that is an instant is read as that instant, also where the data of a column are not
texts. -/
lemma toInstant_literal {fromText : Bool} {year : Int} {ns : List Nat} {i : Instant}
    (h : dateLiteral? (literal year ns) = some i) :
    toInstant fromText (string (literal year ns)) = .ok i := by
  have htext : literal year ns = "Date(" ++ (",".intercalate
      ((year :: ns.map Int.ofNat).map toString) ++ ")") := String.append_assoc
  have htrim : Text.trim (literal year ns) = literal year ns := by
    refine Text.trim_eq_self (fun c hc => ?_) fun c hc => ?_
    · rw [htext, String.toList_append] at hc
      cases hc
      decide
    · rw [literal, String.toList_append, List.getLast?_append] at hc
      cases hc
      decide
  have hnumber : Numeral.binary64? (literal year ns) = none := htext ▸ binary64?_literal _
  have hzero : isZeroDate (literal year ns) = false := htext ▸ isZeroDate_literal _
  have hread : readInstant? (literal year ns) = some i := by
    rw [readInstant?, hzero, h]
    rfl
  unfold toInstant
  dsimp only
  rw [htrim, hnumber, hread]
  cases fromText <;> rfl

end Value

/-! ## Instants -/

/-- The instant that the form of an instant for a type carries: a date has no time of day, a time of
day has no date, and nothing has less than a millisecond. -/
def Instant.carried (type : ColumnType) (i : Instant) : Instant :=
  match type with
  | .date => .ofDate i.date
  | .timeOfDay => .ofClock i.clock.truncated
  | _ => ⟨i.date, i.clock.truncated⟩

namespace Value

variable (type : ColumnType) (i : Instant)

/-- The form of an instant is a literal, unless it is that of a time of day. -/
lemma ofInstant_cases :
    (type = .timeOfDay ∧ ofInstant type i =
      timeOfDay i.clock.hour i.clock.minute i.clock.second i.clock.shownMillis) ∨
    (type = .date ∧ ofInstant type i =
      string (literal i.date.year [i.date.month - 1, i.date.day])) ∨
    (i.carried type = ⟨i.date, i.clock.truncated⟩ ∧ ofInstant type i =
      string (literal i.date.year [i.date.month - 1, i.date.day, i.clock.hour, i.clock.minute,
        i.clock.second, i.clock.shownMillis])) := by
  have hmonth : (i.date.month : Int) - 1 = Int.ofNat (i.date.month - 1) := i.date.month_sub_one
  rw [← dateText_cons, ← dateText_cons]
  cases type with
  | timeOfDay => exact .inl ⟨rfl, rfl⟩
  | date =>
    rw [ofInstant, hmonth]
    exact .inr (.inl ⟨rfl, rfl⟩)
  | string | boolean | number | dateTime =>
    simp only [ofInstant]
    rw [hmonth]
    exact .inr (.inr ⟨rfl, rfl⟩)

/-- **An instant is read back** from the form for a type, as far as that form carries it. -/
theorem toInstant_ofInstant (fromText : Bool) :
    (ofInstant type i).toInstant fromText = .ok (i.carried type) := by
  rcases ofInstant_cases type i with ⟨rfl, hform⟩ | ⟨rfl, hform⟩ | ⟨hcarried, hform⟩
  · rw [hform, toInstant, Clock.ofMillis?_shown]
    rfl
  · rw [hform]
    exact toInstant_literal (dateLiteral?_date i.date)
  · rw [hform, hcarried]
    exact toInstant_literal (dateLiteral?_dateTime i.date i.clock)

/-- **Literals carry instants.**  The literal of an instant is read as the instant in whole
milliseconds, and that of its date as the beginning of the date.  The quadruple of its time of day
is read as that time on the first day of 1970, also in whole milliseconds.  A leap second is read as
the last millisecond of the second before it. -/
theorem dateLiteral?_ofInstant :
    (∃ s, ofInstant .dateTime i = string s ∧
      dateLiteral? s = some ⟨i.date, i.clock.truncated⟩) ∧
    (∃ s, ofInstant .date i = string s ∧ dateLiteral? s = some (.ofDate i.date)) ∧
    (∀ fromText, (ofInstant .timeOfDay i).toInstant fromText =
      .ok (.ofClock i.clock.truncated)) ∧
    (i.clock.truncated.hour = i.clock.hour ∧ i.clock.truncated.minute = i.clock.minute ∧
      i.clock.truncated.second = i.clock.second) ∧
    (i.clock.nano < Calendar.nanosPerSecond →
      i.clock.truncated.nano = i.clock.nano - i.clock.nano % Calendar.nanosPerMilli) ∧
    (Calendar.nanosPerSecond ≤ i.clock.nano →
      i.clock.second = 59 ∧ i.clock.truncated.nano = 999 * Calendar.nanosPerMilli) := by
  have hmonth : (i.date.month : Int) - 1 = Int.ofNat (i.date.month - 1) := i.date.month_sub_one
  obtain ⟨hwhole, hleap⟩ := i.clock.truncated_nano
  refine ⟨⟨_, ?_, dateLiteral?_dateTime i.date i.clock⟩, ⟨_, ?_, dateLiteral?_date i.date⟩,
    toInstant_ofInstant .timeOfDay i, ⟨rfl, rfl, rfl⟩, hwhole, hleap⟩
  · rw [← dateText_cons]
    simp only [ofInstant, hmonth]
    rfl
  · rw [← dateText_cons]
    simp only [ofInstant, hmonth]
    rfl

/-- An instant has the form of the instant that the form carries. -/
theorem ofInstant_carried : ofInstant type (i.carried type) = ofInstant type i := by
  cases type with
  | date => rfl
  | timeOfDay | string | boolean | number | dateTime =>
    simp only [ofInstant, Instant.carried, Instant.ofClock, Clock.shownMillis_truncated]
    rfl

end Value

end ChartQuery
