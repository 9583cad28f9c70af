import ChartQuery.Proofs.Literals
import ChartQuery.Proofs.TemporalTexts

/-!
# Texts that a conversion reads as instants

A text without blanks around it that is converted to a date or a time may be a literal `Date(...)`
with three or seven numbers, an instant with blanks or a letter T between date and time of day, a
date or a time of day alone, or four digits for a year.  What begins with the date of zeros counts
as a date, too.  These texts are described here without saying how they are read
(`Value.isSome_readInstant?_iff`).

The numbers of a literal have 32 bits, which need not be said: the parts of a date and of a time of
day are much smaller.
-/

namespace ChartQuery

open Calendar Numeral

/-! ## Trimmed texts -/

namespace Text

variable {c : Char} {cs : List Char} {s t : String}

/-- `Trimmed s t`: the text `t` is what is left of `s` without the blanks around it. -/
structure Trimmed (s t : String) : Prop where
  around : ∃ front back, AreBlanks front ∧ AreBlanks back ∧ s.toList = front ++ t.toList ++ back
  start : ∀ c ∈ t.toList.head?, isBlank c = false
  stop : ∀ c ∈ t.toList.getLast?, isBlank c = false

/-- What is left begins with no blank. -/
lemma isBlank_of_mem_head? (hc : c ∈ (trimStart cs).head?) : isBlank c = false := by
  have hhead := List.head?_dropWhile_not isBlank cs
  rw [← trimStart, hc] at hhead
  exact hhead

/-- Nothing is left out in front of what begins with no blank. -/
lemma trimStart_eq_self (h : ∀ c ∈ cs.head?, isBlank c = false) : trimStart cs = cs := by
  cases cs with
  | nil => rfl
  | cons c cs => exact trimStart_cons (h c rfl)

/-- Blanks are blanks in any order. -/
lemma AreBlanks.reverse {blanks : List Char} (h : AreBlanks blanks) : AreBlanks blanks.reverse :=
  fun c hc => h c (List.mem_reverse.1 hc)

/-- **Trimming** leaves out the blanks around a text, and nothing else. -/
theorem trimmed_iff : Trimmed s t ↔ trim s = t := by
  constructor
  · rintro ⟨⟨front, back, hfront, hback, hs⟩, hstart, hstop⟩
    refine String.toList_injective ?_
    rw [trim, String.toList_ofList, trimList, hs, List.append_assoc, hfront.trimStart_append]
    generalize t.toList = core at hstart hstop
    cases core with
    | nil =>
      have hnone := hback.trimStart_append []
      rw [List.append_nil] at hnone
      rw [List.nil_append, hnone]
      rfl
    | cons c core =>
      have hkept : ∀ d ∈ (c :: core).reverse.head?, isBlank d = false := by
        rwa [List.head?_reverse]
      rw [List.cons_append, trimStart_cons (hstart c rfl), ← List.cons_append, List.reverse_append,
        hback.reverse.trimStart_append, trimStart_eq_self hkept, List.reverse_reverse]
  · rintro rfl
    obtain ⟨front, hfront, hs⟩ := exists_append_trimStart s.toList
    have hhead {c : Char} (hc : c ∈ (trimStart s.toList).head?) := isBlank_of_mem_head? hc
    have htrim : (trim s).toList = (trimStart (trimStart s.toList).reverse).reverse :=
      String.toList_ofList
    generalize trimStart s.toList = ds at hs hhead htrim
    obtain ⟨back, hback, hds⟩ := exists_append_trimStart ds.reverse
    have hlast {c : Char} (hc : c ∈ (trimStart ds.reverse).head?) := isBlank_of_mem_head? hc
    generalize trimStart ds.reverse = es at hds hlast htrim
    have hsplit : ds = es.reverse ++ back.reverse := by
      rw [← List.reverse_append, ← hds, List.reverse_reverse]
    refine ⟨⟨front, back.reverse, hfront, hback.reverse, ?_⟩, fun c hc => ?_, fun c hc => ?_⟩
    · rw [htrim, List.append_assoc, ← hsplit]
      exact hs
    · refine hhead ?_
      rw [hsplit, List.head?_append, ← htrim, hc]
      rfl
    · rw [htrim, List.getLast?_reverse] at hc
      exact hlast hc

/-- There are only blanks around a trimmed text. -/
lemma Trimmed.mem_iff (h : Trimmed s t) (hc : isBlank c = false) : c ∈ t.toList ↔ c ∈ s.toList := by
  obtain ⟨front, back, hfront, hback, hs⟩ := h.around
  have hnone {blanks : List Char} (hblanks : AreBlanks blanks) : c ∉ blanks := by
    intro hmem
    rw [hblanks c hmem] at hc
    cases hc
  rw [hs, List.mem_append, List.mem_append, or_iff_left (hnone hback), or_iff_right (hnone hfront)]

end Text

namespace Value

variable {s inner : String} {i : Instant}

/-! ## Literals -/

/-- `SpellsInteger s z`: the text spells the integer, possibly with blanks around it. -/
def SpellsInteger (s : String) (z : Int) : Prop :=
  ∃ t, Text.Trimmed s t ∧ IntegerText t.toList z

/-- `SpellsNatural s n`: the text spells the natural number, possibly with blanks around it. -/
def SpellsNatural (s : String) (n : Nat) : Prop :=
  ∃ t, Text.Trimmed s t ∧ NaturalText t.toList n

/-- An integer is spelled by the trimmed text. -/
lemma spellsInteger_iff {z : Int} : SpellsInteger s z ↔ IntegerText (Text.trim s).toList z := by
  simp [SpellsInteger, Text.trimmed_iff]

/-- A natural number is spelled by the trimmed text. -/
lemma spellsNatural_iff {n : Nat} : SpellsNatural s n ↔ NaturalText (Text.trim s).toList n := by
  simp [SpellsNatural, Text.trimmed_iff]

/-- A natural number is an integer. -/
lemma SpellsNatural.spellsInteger {n : Nat} (h : SpellsNatural s n) : SpellsInteger s n := by
  obtain ⟨t, ht, hn⟩ := h
  exact ⟨t, ht, .natural hn⟩

/-- `LiteralText s i`: a literal with the year, the month from zero and the day of a date, or with
these and the hour, the minute, the second and the milliseconds of a time of day; there may be
blanks around each number. -/
inductive LiteralText : String → Instant → Prop
  | date {year month day : String} {m : Nat} {d : Date}
      (hyear : SpellsInteger year d.year) (hmonth : SpellsNatural month m) (hm : d.month = m + 1)
      (hday : SpellsNatural day d.day) :
    LiteralText ("Date(" ++ ",".intercalate [year, month, day] ++ ")") (.ofDate d)
  | dateTime {year month day hour minute second milli : String} {m ms : Nat} {d : Date} {c : Clock}
      (hyear : SpellsInteger year d.year) (hmonth : SpellsNatural month m) (hm : d.month = m + 1)
      (hday : SpellsNatural day d.day) (hhour : SpellsNatural hour c.hour)
      (hminute : SpellsNatural minute c.minute) (hsecond : SpellsNatural second c.second)
      (hmilli : SpellsNatural milli ms) (hnano : c.nano = ms * nanosPerMilli) :
    LiteralText
      ("Date(" ++ ",".intercalate [year, month, day, hour, minute, second, milli] ++ ")") ⟨d, c⟩

/-- The arguments of a literal are all that stands between its parentheses. -/
lemma dateArguments?_eq_some_iff :
    dateArguments? s = some inner ↔ s = "Date(" ++ inner ++ ")" := by
  constructor
  · intro h
    unfold dateArguments? at h
    split at h
    · next rest hrest =>
      split at h
      · next hlast =>
        cases h
        refine String.toList_injective ?_
        rw [hrest, ← List.dropLast_append_getLast? ')' hlast]
        simp
      · cases h
    · cases h
  · rintro rfl
    exact dateArguments?_literal inner

/-- Numbers are read from their texts one by one. -/
lemma parts?_eq_some_iff {texts : List String} {ns : List Nat} : parts? texts = some ns ↔
    List.Forall₂ (fun t n => SpellsNatural t n ∧ n < Nat.pow 2 32) texts ns := by
  induction texts generalizing ns with
  | nil =>
    rw [List.forall₂_nil_left_iff]
    exact Option.some_inj.trans eq_comm
  | cons t texts ih =>
    have hcons : parts? (t :: texts) = (natural? (Nat.pow 2 32) (Text.trim t)).bind fun n =>
        (parts? texts).bind fun ns => some (n :: ns) := by
      unfold parts?
      rw [List.mapM_cons]
      rfl
    simp only [hcons, Option.bind_eq_some_iff, Option.some_inj, List.forall₂_cons_left_iff, ih,
      natural?_eq_some_iff, ← spellsNatural_iff]
    constructor
    · rintro ⟨n, hn, ms, hms, rfl⟩
      exact ⟨n, ms, hn, hms, rfl⟩
    · rintro ⟨n, ms, hn, hms, rfl⟩
      exact ⟨n, hn, ms, hms, rfl⟩

/-- A number between blanks has no comma. -/
lemma comma_notMem {t : String} {z : Int} (h : SpellsInteger t z) :
    ',' ∉ t.toList := by
  intro hmem
  obtain ⟨u, hu, hz⟩ := h
  rcases hz.of_mem ((hu.mem_iff (by decide)).2 hmem) with h | h | h <;> cases h

/-- A literal is cut at its commas. -/
lemma cut?_intercalate {t u : String} {ts : List String} {z : Int} {ns : List Nat}
    (ht : SpellsInteger t z)
    (hts : List.Forall₂ (fun t n => SpellsNatural t n ∧ n < Nat.pow 2 32)
      (u :: ts) ns) :
    Text.cut? ',' (",".intercalate (t :: u :: ts)) = some (t, ",".intercalate (u :: ts)) ∧
      parts? (Text.split ',' (",".intercalate (u :: ts))) = some ns := by
  constructor
  · rw [String.intercalate_cons_cons]
    exact Text.cut?_append (comma_notMem ht) _
  · have hfields := hts.imp fun t n h => And.intro (comma_notMem h.1.spellsInteger) h
    have hsplit : Text.split ',' (",".intercalate (u :: ts)) = u :: ts :=
      Text.split_intercalate ((List.forall₂_and_left _ _).1 hfields).1
    rw [hsplit, parts?_eq_some_iff]
    exact hts

/-- The parts of a date and of a time of day are numbers of 32 bits. -/
lemma parts_lt (d : Date) (c : Clock) :
    (-2 ^ (32 - 1) ≤ d.year ∧ d.year < 2 ^ (32 - 1)) ∧ d.month < Nat.pow 2 32 ∧
      d.day < Nat.pow 2 32 ∧ c.hour < Nat.pow 2 32 ∧ c.minute < Nat.pow 2 32 ∧
        c.second < Nat.pow 2 32 ∧ c.nano < Nat.pow 2 32 := by
  obtain ⟨hlow, hhigh, hmonth, hday⟩ := d.parts_le
  obtain ⟨hhour, hminute, hsecond, hmilli⟩ := c.parts_lt
  have hnat : Nat.pow 2 32 = 4294967296 := rfl
  have hclock := c.isClock
  simp only [Calendar.isClock, Bool.and_eq_true, Bool.or_eq_true, decide_eq_true_eq,
    beq_iff_eq] at hclock
  simp only [minYear, maxYear] at hlow hhigh
  simp only [nanosPerSecond] at hclock
  rw [hnat]
  omega

/-- **Literals are read as they are spelled.** -/
theorem dateLiteral?_eq_some_iff : dateLiteral? s = some i ↔ LiteralText s i := by
  constructor
  · intro h
    obtain ⟨inner, harguments, h₁⟩ := Option.bind_eq_some_iff.1 h
    obtain ⟨⟨year, rest⟩, hcut, h₂⟩ := Option.bind_eq_some_iff.1 h₁
    obtain ⟨y, hyear, h₃⟩ := Option.bind_eq_some_iff.1 h₂
    obtain ⟨ns, hparts, hread⟩ := Option.bind_eq_some_iff.1 h₃
    clear h h₁ h₂ h₃
    obtain rfl := dateArguments?_eq_some_iff.1 harguments
    obtain rfl := Text.eq_of_cut?_eq_some hcut
    have hyear := spellsInteger_iff.2 (integer?_eq_some_iff.1 hyear).1
    have hfields := parts?_eq_some_iff.1 hparts
    have hrest := Text.intercalate_split ',' rest
    have hcomma : String.singleton ',' = "," := rfl
    generalize Text.split ',' rest = texts at hfields hrest
    subst hrest
    split at hread
    · next m n =>
      obtain ⟨d, hd, hdate⟩ := Option.bind_eq_some_iff.1 hread
      cases hdate
      obtain ⟨rfl, hm, rfl⟩ := Date.ofYmd?_eq_some_iff.1 hd
      obtain ⟨month, t₁, ⟨hmonth, -⟩, h₁, rfl⟩ := List.forall₂_cons_right_iff.1 hfields
      obtain ⟨day, t₂, ⟨hday, -⟩, h₂, rfl⟩ := List.forall₂_cons_right_iff.1 h₁
      obtain rfl := List.forall₂_nil_right_iff.1 h₂
      rw [hcomma, ← String.intercalate_cons_cons]
      exact .date hyear hmonth hm hday
    · next m n h min sec ms =>
      obtain ⟨d, hd, hrest⟩ := Option.bind_eq_some_iff.1 hread
      obtain ⟨c, hc, hinstant⟩ := Option.bind_eq_some_iff.1 hrest
      cases hinstant
      obtain ⟨rfl, hm, rfl⟩ := Date.ofYmd?_eq_some_iff.1 hd
      obtain ⟨rfl, rfl, rfl, hnano⟩ := Clock.ofNanos?_eq_some_iff.1 hc
      obtain ⟨month, t₁, ⟨hmonth, -⟩, h₁, rfl⟩ := List.forall₂_cons_right_iff.1 hfields
      obtain ⟨day, t₂, ⟨hday, -⟩, h₂, rfl⟩ := List.forall₂_cons_right_iff.1 h₁
      obtain ⟨hour, t₃, ⟨hhour, -⟩, h₃, rfl⟩ := List.forall₂_cons_right_iff.1 h₂
      obtain ⟨minute, t₄, ⟨hminute, -⟩, h₄, rfl⟩ := List.forall₂_cons_right_iff.1 h₃
      obtain ⟨second, t₅, ⟨hsecond, -⟩, h₅, rfl⟩ := List.forall₂_cons_right_iff.1 h₄
      obtain ⟨milli, t₆, ⟨hmilli, -⟩, h₆, rfl⟩ := List.forall₂_cons_right_iff.1 h₅
      obtain rfl := List.forall₂_nil_right_iff.1 h₆
      rw [hcomma, ← String.intercalate_cons_cons]
      exact .dateTime hyear hmonth hm hday hhour hminute hsecond hmilli hnano
    · cases hread
  · intro h
    cases h with
    | date hyear hmonth hm hday =>
      rename_i year month day m d
      obtain ⟨hybounds, hmlt, hdlt, -⟩ := parts_lt d .midnight
      obtain ⟨hcut, hparts⟩ := cut?_intercalate hyear
        (.cons ⟨hmonth, by omega⟩ (.cons ⟨hday, hdlt⟩ .nil))
      have hnumber := integer?_eq_some_iff.2 ⟨spellsInteger_iff.1 hyear, hybounds⟩
      have hdate : Date.ofYmd? d.year (m + 1) d.day = some d :=
        Date.ofYmd?_eq_some_iff.2 ⟨rfl, hm, rfl⟩
      unfold dateLiteral?
      simp only [dateArguments?_literal, hcut, hnumber, hparts, hdate, Option.bind_eq_bind,
        Option.bind_some]
      rfl
    | dateTime hyear hmonth hm hday hhour hminute hsecond hmilli hnano =>
      rename_i year month day hour minute second milli m ms d c
      obtain ⟨hybounds, hmlt, hdlt, hhlt, hminlt, hslt, hnlt⟩ := parts_lt d c
      have hmslt : ms < Nat.pow 2 32 := by
        rw [hnano, nanosPerMilli] at hnlt
        omega
      obtain ⟨hcut, hparts⟩ := cut?_intercalate hyear
        (.cons ⟨hmonth, by omega⟩ (.cons ⟨hday, hdlt⟩ (.cons ⟨hhour, hhlt⟩
          (.cons ⟨hminute, hminlt⟩ (.cons ⟨hsecond, hslt⟩ (.cons ⟨hmilli, hmslt⟩ .nil))))))
      have hnumber := integer?_eq_some_iff.2 ⟨spellsInteger_iff.1 hyear, hybounds⟩
      have hdate : Date.ofYmd? d.year (m + 1) d.day = some d :=
        Date.ofYmd?_eq_some_iff.2 ⟨rfl, hm, rfl⟩
      have hclock : Clock.ofMillis? c.hour c.minute c.second ms = some c :=
        Clock.ofNanos?_eq_some_iff.2 ⟨rfl, rfl, rfl, hnano⟩
      unfold dateLiteral?
      simp only [dateArguments?_literal, hcut, hnumber, hparts, hdate, hclock,
        Option.bind_eq_bind, Option.bind_some]
      rfl

/-! ## Instants -/

/-- A text that a conversion reads as an instant. -/
inductive TemporalText (s : String) : Prop
  | zeros (h : "0000-00-00".toList <+: s.toList)
  | literal (i : Instant) (h : LiteralText s i)
  | instant (i : Instant) (h : InstantText s.toList i)
  | withLetter (day clock : List Char) (d : Date) (c : Clock) (hs : s.toList = day ++ 'T' :: clock)
      (hd : DateText day d) (hc : ClockText clock c)
  | date (d : Date) (h : DateText s.toList d)
  | clock (c : Clock) (h : ClockText s.toList c)
  | year (hdigits : Digits s.toList) (hfour : s.toList.length = 4)

/-- Four digits are a year. -/
lemma isSome_yearAlone?_iff :
    (yearAlone? s).isSome = true ↔ Digits s.toList ∧ s.toList.length = 4 := by
  have htest : (s.toList.length = 4 ∧ s.toList.all Char.isDigit = true) ↔
      Digits s.toList ∧ s.toList.length = 4 := by
    rw [Digits, List.all_eq_true]
    constructor
    · rintro ⟨hfour, hall⟩
      refine ⟨⟨?_, hall⟩, hfour⟩
      intro hnil
      rw [hnil] at hfour
      cases hfour
    · rintro ⟨⟨-, hall⟩, hfour⟩
      exact ⟨hfour, hall⟩
  unfold yearAlone?
  dsimp only
  rw [← htest]
  split
  · next h =>
    have hlt := ofDigits_lt (htest.1 h).1.2
    rw [h.1] at hlt
    have hdate : isDate (Numeric.ofDigits s.toList) 1 1 = true := by
      refine Date.isDate_iff.2 ⟨?_, le_rfl, by simp [daysInMonth]⟩
      simp only [minYear, maxYear]
      omega
    rw [Date.ofYmd?, dif_pos hdate]
    exact iff_of_true rfl h
  · next h => exact iff_of_false Bool.false_ne_true h

/-- **Texts are read as instants if they are spelled so.** -/
theorem isSome_readInstant?_iff : (readInstant? s).isSome = true ↔ TemporalText s := by
  have hzero : isZeroDate s = true ↔ "0000-00-00".toList <+: s.toList ∨ s = "0000" := by
    rw [isZeroDate, Bool.or_eq_true, List.isPrefixOf_iff_prefix, beq_iff_eq]
  have hsome {α : Type} {x : Option α} {P : α → Prop} (h : ∀ a, x = some a ↔ P a) :
      x.isSome = true ↔ ∃ a, P a := by
    simp only [Option.isSome_iff_exists, h]
  unfold readInstant?
  split
  · next h =>
    refine iff_of_true rfl ?_
    rcases hzero.1 h with hfront | rfl
    · exact .zeros hfront
    · exact .year (by decide) rfl
  · next h =>
    simp only [Option.orElse_eq_orElse, Option.orElse_eq_or, Option.isSome_or, Option.isSome_map,
      Bool.or_eq_true, hsome fun i => dateLiteral?_eq_some_iff (s := s) (i := i),
      hsome fun i => instant?_eq_some_iff (s := s) (i := i),
      hsome fun i => instantT?_eq_some_iff (s := s) (i := i),
      hsome fun d => date?_eq_some_iff (s := s) (d := d),
      hsome fun c => clock?_eq_some_iff (s := s) (c := c), isSome_yearAlone?_iff]
    constructor
    · rintro (⟨i, hi⟩ | ⟨i, hi⟩ | ⟨i, day, clock, hs, hd, hc⟩ | ⟨d, hd⟩ | ⟨c, hc⟩ | ⟨hds, hfour⟩)
      · exact .literal i hi
      · exact .instant i hi
      · exact .withLetter day clock _ _ hs hd hc
      · exact .date d hd
      · exact .clock c hc
      · exact .year hds hfour
    · intro htext
      cases htext with
      | zeros hfront => exact absurd (hzero.2 (.inl hfront)) h
      | literal i hi => exact .inl ⟨i, hi⟩
      | instant i hi => exact .inr (.inl ⟨i, hi⟩)
      | withLetter day clock d c hs hd hc =>
        exact .inr (.inr (.inl ⟨⟨d, c⟩, day, clock, hs, hd, hc⟩))
      | date d hd => exact .inr (.inr (.inr (.inl ⟨d, hd⟩)))
      | clock c hc => exact .inr (.inr (.inr (.inr (.inl ⟨c, hc⟩))))
      | year hds hfour => exact .inr (.inr (.inr (.inr (.inr ⟨hds, hfour⟩))))

end Value

end ChartQuery
