import ChartQuery.Proofs.ConversionTexts
import ChartQuery.Proofs.Reconversion
import ChartQuery.Proofs.SpelledAmounts
import ChartQuery.Proofs.ZonedTexts
import ChartQuery.Source.PostgresType

/-!
# Texts that stand for no value

A database answers with texts.  One that stands for a value of its type becomes that value, and any
other is kept as it is.  When the cells are converted a kept text is read once more, by rules that
are made for texts of other sources, and the error of one cell is that of the whole table.

So not every answer is converted.  Which texts are is told by how they are spelled
(`PostgresType.Converts`).  In columns of dates and times some kept texts are instants of another
form, and some are numbers of milliseconds; among the numbers are the words for infinity, which lie
beyond the calendar.
-/

namespace ChartQuery

open Calendar Numeral

/-! ## Steps -/

/-- A step with a result that is only put into another form succeeds if the step does. -/
lemma exists_bind_ok_iff {ε α β : Type} {x : Except ε α} {g : α → β} :
    (∃ b, (x >>= fun a => Except.ok (g a)) = .ok b) ↔ ∃ a, x = .ok a := by
  simp only [bind_eq_ok, Except.ok.injEq]
  constructor
  · rintro ⟨_, a, ha, -⟩
    exact ⟨a, ha⟩
  · rintro ⟨a, ha⟩
    exact ⟨_, a, ha, rfl⟩

/-- A failure of a step with a result that is only put into another form. -/
lemma bind_ok_eq_error {ε α β : Type} {x : Except ε α} {g : α → β} {e : ε} :
    (x >>= fun a => Except.ok (g a)) = .error e ↔ x = .error e := by
  simp [bind_eq_error]

namespace Value

variable {s : String} {v : Value} {fromText : Bool} {ms : Int} {f : Failure}

/-! ## What is read -/

/-- A text is a truth value if it is a word for one. -/
lemma exists_toBool_iff : (∃ b, (string s).toBool = .ok b) ↔ s ∈ trueWords ∨ s ∈ falseWords := by
  simp only [toBool, List.contains_iff_mem]
  split_ifs with htrue hfalse
  · exact iff_of_true ⟨true, rfl⟩ (.inl htrue)
  · exact iff_of_true ⟨false, rfl⟩ (.inr hfalse)
  · exact iff_of_false nofun fun h => h.elim htrue hfalse

/-- A text spells a number, possibly with blanks around it. -/
def SpellsNumber (s : String) : Prop :=
  ∃ t, Text.Trimmed s t ∧ ∃ negative m, NumberText t.toList negative m

/-- A text is a number if it spells one. -/
lemma exists_toNumber_iff (pattern? : Option NumberPattern) :
    (∃ n, (string s).toNumber pattern? = .ok n) ↔ SpellsNumber s := by
  simp only [toNumber, SpellsNumber, Text.trimmed_iff, exists_eq_left']
  cases hint : integer? 64 (Text.trim s) with
  | some n => exact iff_of_true ⟨_, rfl⟩ (integer?_eq_some_iff.1 hint).1.exists_numberText
  | none =>
    cases hnumber : binary64? (Text.trim s) with
    | some x =>
      obtain ⟨negative, m, hm, -⟩ := binary64?_eq_some_iff.1 hnumber
      exact iff_of_true ⟨_, rfl⟩ ⟨negative, m, hm⟩
    | none =>
      refine iff_of_false nofun ?_
      rintro ⟨negative, m, hm⟩
      have hread := binary64?_eq_some_iff.2 ⟨negative, m, hm, rfl⟩
      rw [hnumber] at hread
      cases hread

/-- Whether a value is a number does not depend on the pattern. -/
lemma exists_toNumber_congr (pattern? : Option NumberPattern) :
    (∃ n, v.toNumber pattern? = .ok n) ↔ ∃ n, v.toNumber none = .ok n := by
  cases v with
  | bool | int | uint | float => exact iff_of_true ⟨_, rfl⟩ ⟨_, rfl⟩
  | null | timeOfDay => exact iff_of_false nofun nofun
  | string s => rw [exists_toNumber_iff, exists_toNumber_iff]

/-- A text spells an instant, possibly with blanks around it: a number of milliseconds of the
calendar, unless the data are texts, or an instant in one of the forms that a conversion knows. -/
def SpellsInstant (fromText : Bool) (s : String) : Prop :=
  ∃ t, Text.Trimmed s t ∧
    ((fromText = false ∧ ∃ negative m, NumberText t.toList negative m ∧
      (m.amount negative).InCalendar) ∨
    ((fromText = true ∨ ∀ negative m, ¬ NumberText t.toList negative m) ∧ TemporalText t))

/-- A text that is not taken for a number is an instant in one of the known forms. -/
lemma exists_toInstant_of_none
    (h : (if fromText then none else binary64? (Text.trim s)) = none) :
    (∃ i, (string s).toInstant fromText = .ok i) ↔ TemporalText (Text.trim s) := by
  rw [← isSome_readInstant?_iff]
  unfold toInstant
  dsimp only
  rw [h]
  cases readInstant? (Text.trim s) with
  | some i => exact iff_of_true ⟨i, rfl⟩ rfl
  | none =>
    refine iff_of_false ?_ Bool.false_ne_true
    rintro ⟨i, hi⟩
    cases hi

/-- **A text is an instant if it spells one.** -/
theorem exists_toInstant_iff :
    (∃ i, (string s).toInstant fromText = .ok i) ↔ SpellsInstant fromText s := by
  simp only [SpellsInstant, Text.trimmed_iff, exists_eq_left']
  cases fromText with
  | true =>
    have hinstant : (∃ i, (string s).toInstant true = .ok i) ↔ TemporalText (Text.trim s) :=
      exists_toInstant_of_none rfl
    simpa using hinstant
  | false =>
    simp only [Bool.false_eq_true, false_or, true_and]
    cases hnumber : binary64? (Text.trim s) with
    | none =>
      have hnone (negative : Bool) (m : Magnitude) :
          ¬ NumberText (Text.trim s).toList negative m := by
        intro hm
        have hread := binary64?_eq_some_iff.2 ⟨negative, m, hm, rfl⟩
        rw [hnumber] at hread
        cases hread
      rw [exists_toInstant_of_none (by rw [if_neg Bool.false_ne_true, hnumber])]
      simp [hnone]
    | some x =>
      obtain ⟨negative, m, hm, rfl⟩ := binary64?_eq_some_iff.1 hnumber
      have hmillis : (string s).toInstant false = ofMillis (m.toBinary64 negative).toInt64 := by
        unfold toInstant
        dsimp only
        rw [if_neg Bool.false_ne_true, hnumber]
      rw [hmillis, exists_ofMillis_iff]
      constructor
      · intro h
        exact .inl ⟨negative, m, hm, h⟩
      · rintro (⟨negative', m', hm', h⟩ | ⟨hnone, -⟩)
        · have hsame := binary64?_eq_some_iff.2 ⟨negative', m', hm', rfl⟩
          rw [hnumber, Option.some_inj] at hsame
          rwa [← exists_ofMillis_iff, hsame, exists_ofMillis_iff]
        · exact absurd hm (hnone negative m)

/-- A number of milliseconds is an instant if it is one of the calendar. -/
lemma exists_ofMillis_int_iff :
    (∃ i, ofMillis ms = .ok i) ↔ Instant.firstMillis ≤ ms ∧ ms ≤ Instant.lastMillis := by
  simp only [ofMillis_eq_ok_iff, Instant.exists_liesAt_iff]

/-! ## Errors -/

/-- What is no truth value is an error about patterns. -/
lemma reason_of_toBool (h : v.toBool = .error f) : f.reason = .illegalFormattingPatterns := by
  cases v with
  | bool | int | uint | float => cases h
  | null | timeOfDay =>
    cases h
    rfl
  | string s =>
    unfold toBool at h
    dsimp only at h
    split at h
    · cases h
    · split at h
      · cases h
      · cases h
        rfl

/-- What is no number is an error about patterns. -/
lemma reason_of_toNumber {pattern? : Option NumberPattern} (h : v.toNumber pattern? = .error f) :
    f.reason = .illegalFormattingPatterns := by
  cases v with
  | bool | int | uint | float => cases h
  | null | timeOfDay =>
    cases h
    rfl
  | string s =>
    unfold toNumber at h
    dsimp only at h
    split at h
    · cases h
    · split at h
      · cases h
      · cases h
        rfl

/-- A number of milliseconds beyond the calendar is an error about patterns. -/
lemma reason_of_ofMillis (h : ofMillis ms = .error f) :
    f.reason = .illegalFormattingPatterns := by
  unfold ofMillis at h
  split at h
  · cases h
  · cases h
    rfl

/-- What is no instant is an error about patterns. -/
lemma reason_of_toInstant (h : v.toInstant fromText = .error f) :
    f.reason = .illegalFormattingPatterns := by
  cases v with
  | int | uint | float => exact reason_of_ofMillis h
  | null | bool =>
    cases h
    rfl
  | timeOfDay =>
    unfold toInstant at h
    dsimp only at h
    split at h
    · cases h
    · cases h
      rfl
  | string s =>
    unfold toInstant at h
    dsimp only at h
    split at h
    · exact reason_of_ofMillis h
    · split at h
      · cases h
      · cases h
        rfl

end Value

/-! ## What is converted -/

namespace Conversion

variable {c : Column} {k : Conversion} {a : Cell} {v : Value}

/-- A column without a particular pattern has a conversion. -/
lemma exists_ofColumn_of_isGeneral (h : c.isGeneral = true) : ∃ k, ofColumn c = .ok k := by
  have hdefault (type : ColumnType) : ∃ p, DatePattern.parse? (defaultPattern type) = some p :=
    Option.isSome_iff_exists.1 (by cases type <;> decide +kernel)
  unfold ofColumn
  rw [h]
  cases htype : c.type with
  | boolean | number | string => exact ⟨_, rfl⟩
  | date | timeOfDay | dateTime =>
    obtain ⟨p, hp⟩ := hdefault c.type
    rw [htype] at hp
    dsimp only
    rw [if_pos rfl, hp]
    exact ⟨_, rfl⟩

/-- A cell that cannot be converted is an error about patterns. -/
lemma reason_of_apply {f : Failure} (h : k.apply a = .error f) :
    f.reason = .illegalFormattingPatterns := by
  unfold apply at h
  split at h
  · cases h
  · cases h
  · cases k with
    | boolean => exact Value.reason_of_toBool (bind_ok_eq_error.1 h)
    | number => exact Value.reason_of_toNumber (bind_ok_eq_error.1 h)
    | string => cases h
    | temporal => exact Value.reason_of_toInstant (bind_ok_eq_error.1 h)

/-- What it takes to convert a value to the type of its column. -/
lemma exists_apply_iff (hk : ofColumn c = .ok k) (hv : v ≠ .null) :
    (∃ b, k.apply ⟨some v, none⟩ = .ok b) ↔
      match c.type with
      | .boolean => ∃ b, v.toBool = .ok b
      | .number => ∃ n, v.toNumber none = .ok n
      | .string => True
      | .date | .timeOfDay | .dateTime =>
        ∃ i, v.toInstant (c.native? == some .string) = .ok i := by
  rw [apply_of_ne_null rfl hv]
  cases convertedBy_ofColumn hk with
  | boolean htype =>
    rw [htype]
    exact exists_bind_ok_iff
  | number htype pattern? =>
    rw [htype]
    exact exists_bind_ok_iff.trans (Value.exists_toNumber_congr pattern?)
  | string htype =>
    rw [htype]
    exact iff_of_true ⟨_, rfl⟩ trivial
  | temporal htype =>
    rcases htype with htype | htype | htype
    all_goals
      rw [htype]
      exact exists_bind_ok_iff

end Conversion

/-- A table of one cell is converted as its cell is. -/
lemma Table.applyFormats_single {c : Column} {k : Conversion} (hk : Conversion.ofColumn c = .ok k)
    (a : Cell) : (applyFormats ⟨false, false⟩ ⟨[c], [[a]]⟩).toExcept =
      (k.apply a).map fun b => ⟨[c], [[b]]⟩ := by
  have hshape : checkShape ⟨[c], [[a]]⟩ = .ok () := by simp [checkShape]
  have hcell : convertAt k ⟨false, false⟩ (c.type == .string) 0 [a] =
      (k.apply a).map fun b => [b] := by
    simp only [convertAt, List.getElem?_cons_zero]
    cases k.apply a <;> rfl
  rw [applyFormats, hshape]
  dsimp only
  rw [convertColumns, convertColumn, hk]
  dsimp only
  rw [Progress.each, hcell]
  cases k.apply a <;> rfl

namespace PostgresType

open Value (SpellsNumber SpellsInstant)

variable {t : PostgresType} {s : String} {fromText : Bool}

/-- The texts that are converted in a column of the type that a database type is shown as.  Only
what is shown as a string is always converted. -/
def Converts (fromText : Bool) (s : String) : PostgresType → Prop
  | boolean => s ∈ ["t", "f", "1", "true", "True", "TRUE", "0", "false", "False", "FALSE", ""]
  | integer | real => SpellsNumber s
  | date => (∃ d, DateText s.toList d) ∨ SpellsInstant fromText s
  | time => (∃ c, ClockText s.toList c) ∨ SpellsInstant fromText s
  | timestamp =>
    (∃ i, InstantText s.toList i ∧ ¬ i.IsPastEnd) ∨
      (¬ ∃ i, InstantText s.toList i) ∧ SpellsInstant fromText s
  | zonedTimestamp =>
    (∃ i, ZonedText s.toList i ∧ ¬ i.IsPastEnd) ∨
      (¬ ∃ i, ZonedText s.toList i) ∧ SpellsInstant fromText s
  | other => True

/-- No text is read as null. -/
lemma read_ne_null : t.read s ≠ .null := by
  have hmap {α : Type} {x : Option α} {g : α → Value} (hg : ∀ a, g a ≠ .null) :
      (x.map g).getD (.string s) ≠ .null := by
    cases x with
    | none => exact nofun
    | some a => exact hg a
  unfold read value?
  split
  · exact nofun
  · exact nofun
  · exact nofun
  all_goals first | exact hmap fun _ => nofun | exact nofun

/-- A text that is read as a number of milliseconds is an instant if these belong to the calendar,
and one that is kept if it spells an instant. -/
lemma exists_toInstant_getD_iff {α : Type} {x : Option α} {f : α → Int} :
    (∃ i, ((x.map fun a => Value.int (f a)).getD (.string s)).toInstant fromText = .ok i) ↔
      (∃ a, x = some a ∧ Instant.firstMillis ≤ f a ∧ f a ≤ Instant.lastMillis) ∨
        (¬ ∃ a, x = some a) ∧ SpellsInstant fromText s := by
  cases x with
  | none => simp [Value.exists_toInstant_iff]
  | some a =>
    simp [Value.toInstant, Value.exists_ofMillis_int_iff]

/-- A text that is read as a number spells one, and one that is kept is a number if it spells one
between blanks. -/
lemma exists_toNumber_getD_iff {α : Type} {x : Option α} {g : α → Value}
    (hg : ∀ a, ∃ n, (g a).toNumber none = .ok n)
    (hx : ∀ a, x = some a → ∃ negative m, NumberText s.toList negative m) :
    (∃ n, ((x.map g).getD (.string s)).toNumber none = .ok n) ↔ SpellsNumber s := by
  cases x with
  | none => exact Value.exists_toNumber_iff none
  | some a =>
    obtain ⟨negative, m, hm⟩ := hx a rfl
    exact iff_of_true (hg a) ⟨s, Text.trimmed_iff.2 hm.trim_eq_self, negative, m, hm⟩

/-- A text that is read or kept in a column of truth values is one if it is one of the words. -/
lemma exists_toBool_read_iff :
    (∃ b, (boolean.read s).toBool = .ok b) ↔ Converts fromText s boolean := by
  simp only [Converts]
  by_cases htrue : s = "t"
  · subst htrue
    exact iff_of_true ⟨true, rfl⟩ (by decide)
  by_cases hfalse : s = "f"
  · subst hfalse
    exact iff_of_true ⟨false, rfl⟩ (by decide)
  have hkept : boolean.read s = .string s := by
    unfold read value?
    split <;> first | rfl | contradiction
  rw [hkept, Value.exists_toBool_iff]
  simp [Value.trueWords, Value.falseWords, htrue, hfalse, or_assoc]

/-- An instant is found from its milliseconds unless the calendar ends before it. -/
lemma epochMillis_mem_iff (i : Instant) :
    (Instant.firstMillis ≤ i.epochMillis ∧ i.epochMillis ≤ Instant.lastMillis) ↔
      ¬ i.IsPastEnd := by
  rw [← Instant.lastMillis_lt_iff, not_lt, and_iff_right i.epochMillis_bounds.1]

/-- The beginning of a day and a time of day of the first day of 1970 lie in the calendar. -/
lemma not_isPastEnd (d : Date) (c : Clock) :
    ¬ (Instant.ofDate d).IsPastEnd ∧ ¬ (Instant.ofClock c).IsPastEnd := by
  constructor
  · intro h
    exact absurd h.leap (by decide : ¬ nanosPerSecond ≤ 0)
  · intro h
    exact absurd h.date (by decide : Date.epoch ≠ Instant.lastDate)

/-- A cell of a text is converted if the text is spelled so. -/
lemma exists_apply_read_iff {c : Column} {k : Conversion} (htype : c.type = t.columnType)
    (hk : Conversion.ofColumn c = .ok k) :
    (∃ b, k.apply ⟨some (t.read s), none⟩ = .ok b) ↔
      t.Converts (c.native? == some .string) s := by
  have honly {p q : Prop} : p ∨ ¬ p ∧ q ↔ p ∨ q := by
    by_cases hp : p <;> simp [hp]
  rw [Conversion.exists_apply_iff hk read_ne_null, htype]
  cases t with
  | boolean => exact exists_toBool_read_iff
  | integer =>
    refine exists_toNumber_getD_iff (fun _ => ⟨_, rfl⟩) fun n hn => ?_
    exact (integer?_eq_some_iff.1 hn).1.exists_numberText
  | real =>
    refine exists_toNumber_getD_iff (fun _ => ⟨_, rfl⟩) fun x hx => ?_
    obtain ⟨negative, m, hm, -⟩ := binary64?_eq_some_iff.1 hx
    exact ⟨negative, m, hm⟩
  | date =>
    refine exists_toInstant_getD_iff.trans ?_
    simp only [epochMillis_mem_iff, (not_isPastEnd _ .midnight).1, date?_eq_some_iff, Converts,
      not_false_eq_true, and_true, honly]
  | time =>
    have hmillis (c : Clock) : (c.millisOfDay : Int) = (Instant.ofClock c).epochMillis := by
      simp [Instant.epochMillis, Instant.ofClock]
    refine exists_toInstant_getD_iff.trans ?_
    simp only [hmillis, epochMillis_mem_iff, (not_isPastEnd .epoch _).2, clock?_eq_some_iff,
      Converts, not_false_eq_true, and_true, honly]
  | timestamp =>
    refine exists_toInstant_getD_iff.trans ?_
    simp only [epochMillis_mem_iff, instant?_eq_some_iff, Converts]
  | zonedTimestamp =>
    refine exists_toInstant_getD_iff.trans ?_
    simp only [epochMillis_mem_iff, zonedInstant?_eq_some_iff, Converts]
  | other => exact iff_of_true trivial trivial

/-- **Which texts of a database are converted.**  In a column of the type that a database type is
shown as, without a particular pattern, a text is converted exactly if it is spelled so.  Any other
text is refused with an error about patterns, and the whole table with it. -/
theorem applyFormats_read {c : Column} (s : String) (htype : c.type = t.columnType)
    (hgeneral : c.isGeneral = true) :
    let shown := (Table.applyFormats ⟨false, false⟩ ⟨[c], [[⟨some (t.read s), none⟩]]⟩).toExcept
    ((∃ b, shown = .ok ⟨[c], [[b]]⟩) ↔ t.Converts (c.native? == some .string) s) ∧
      ∀ f, shown = .error f → f.reason = .illegalFormattingPatterns := by
  obtain ⟨k, hk⟩ := Conversion.exists_ofColumn_of_isGeneral hgeneral
  rw [Table.applyFormats_single hk, ← exists_apply_read_iff htype hk]
  cases hb : k.apply ⟨some (t.read s), none⟩ with
  | ok b =>
    refine ⟨iff_of_true ⟨b, rfl⟩ ⟨b, rfl⟩, ?_⟩
    rintro _ ⟨⟩
  | error f =>
    refine ⟨iff_of_false nofun nofun, ?_⟩
    rintro _ ⟨⟩
    exact Conversion.reason_of_apply hb

/-- In a column of dates an instant is kept and converted, and so is a number of milliseconds
between blanks, but the word for infinity is kept and refused. -/
theorem applyFormats_read_dates :
    let c : Column := ⟨"d", "", .date, "General", none⟩
    let Shown := fun s => ∃ b,
      (Table.applyFormats ⟨false, false⟩ ⟨[c], [[⟨some (date.read s), none⟩]]⟩).toExcept =
        .ok ⟨[c], [[b]]⟩
    (date.read "2020-01-15 10:00:00" = .string "2020-01-15 10:00:00" ∧
        Shown "2020-01-15 10:00:00") ∧
      (date.read " 8.64e7\n" = .string " 8.64e7\n" ∧ Shown " 8.64e7\n") ∧
      date.read "infinity" = .string "infinity" ∧ ¬ Shown "infinity" := by
  intro c Shown
  have hgeneral : c.isGeneral = true := by decide
  have hconverts (s : String) : Shown s ↔ Converts false s date :=
    (applyFormats_read s rfl hgeneral).1
  have hinstant {s : String} {i : Instant} (h : (Value.string s).toInstant false = .ok i) :
      Converts false s date := .inr (Value.exists_toInstant_iff.1 ⟨i, h⟩)
  simp only [hconverts]
  refine ⟨⟨by decide +kernel, ?_⟩, ⟨by decide +kernel, ?_⟩, by decide +kernel, ?_⟩
  · let i : Instant := ⟨⟨2020, 1, 15, by decide⟩, ⟨10, 0, 0, 0, by decide⟩⟩
    exact hinstant (i := i) (by decide +kernel)
  · exact hinstant (i := .ofDate ⟨1970, 1, 2, by decide⟩) (by decide +kernel)
  · rintro (⟨d, hd⟩ | hspells)
    · have hnone : date? "infinity" = none := by decide +kernel
      rw [date?_eq_some_iff.2 hd] at hnone
      cases hnone
    · obtain ⟨i, hi⟩ := Value.exists_toInstant_iff.2 hspells
      have hrefused : (Value.string "infinity").toInstant false =
          .error (.timestampRange 9223372036854775807) := by
        decide +kernel
      rw [hrefused] at hi
      cases hi

/-- **A kept text can be refused.**  The word for infinity is kept as a text.  It is then read as a
number of milliseconds, which lies beyond the calendar. -/
theorem applyFormats_infinity :
    let c : Column := ⟨"d", "", .date, "General", none⟩
    date.read "infinity" = .string "infinity" ∧
      (Table.applyFormats ⟨false, false⟩
        ⟨[c], [[⟨some (date.read "infinity"), none⟩]]⟩).toExcept =
          .error (.timestampRange 9223372036854775807) := by
  decide +kernel

end PostgresType

end ChartQuery
