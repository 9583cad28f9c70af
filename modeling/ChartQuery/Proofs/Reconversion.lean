import ChartQuery.Proofs.Literals

/-!
# Tables that are converted again

The cells of a table that has been converted hold values in the form for the types of their columns,
and these can be converted as well.  A truth value, a number and a string stay what they are, with
the text that they have.  A date has lost its time of day, and a time of day its date, so a second
conversion makes its text from less: from midnight, or from the first day of 1970.

The text stays the same unless the pattern shows fields that are lost.  Such columns are rare: their
data have to be dates or times of day already, with a pattern that has fields of the other kind
only.  From the second conversion on nothing changes any more.
-/

namespace ChartQuery

/-! ## What a pattern shows -/

namespace DateField

variable {f : DateField} (n : Nat) (d d' : Date) (c c' : Clock)

/-- A field of the date is the same at any time of day. -/
lemma text_of_isOfDate (hf : f.isOfDate = true) : f.text n ⟨d, c⟩ = f.text n ⟨d, c'⟩ := by
  cases f <;> first | rfl | cases hf

/-- Any other field is the same on any date. -/
lemma text_of_not_isOfDate (hf : f.isOfDate = false) : f.text n ⟨d, c⟩ = f.text n ⟨d', c⟩ := by
  cases f <;> first | rfl | cases hf

/-- No field shows less than a millisecond. -/
lemma text_truncated (f : DateField) : f.text n ⟨d, c.truncated⟩ = f.text n ⟨d, c⟩ := by
  have hmilli : c.truncated.shownMillis = c.shownMillis := c.shownMillis_truncated
  cases f with
  | fraction => rw [text, text, hmilli]
  | millisOfDay =>
    rw [text, text, hmilli]
    rfl
  | _ => rfl

end DateField

namespace DatePattern

variable {p : DatePattern} {i j : Instant}

/-- Instants that agree in the fields of a pattern have the same text. -/
lemma format_congr (h : ∀ f n, .field f n ∈ p.items → f.text n i = f.text n j) :
    p.format i = p.format j := by
  have hitems : p.items.map (Item.text i) = p.items.map (Item.text j) := by
    refine List.map_congr_left fun item hitem => ?_
    cases item with
    | literal c => rfl
    | field f n => exact h f n hitem
  rw [format, format, List.flatMap_def, List.flatMap_def, hitems]

/-- Every field of a pattern stands for a letter of it. -/
lemma exists_letter {quoted : Bool} {cs : List Char} {items : List Item} {f : DateField} {n : Nat}
    (h : readItems quoted cs = some items) (hf : .field f n ∈ items) :
    ∃ c ∈ cs, DateField.ofLetter? c = some f := by
  have hliteral {c : Char} {items : List Item} (hf : .field f n ∈ Item.literal c :: items) :
      .field f n ∈ items := (List.mem_cons.1 hf).resolve_left nofun
  fun_induction readItems quoted cs generalizing items with
  | case1 | case6 => cases h
  | case2 =>
    cases h
    cases hf
  | case3 quoted cs ih =>
    obtain ⟨rest, hrest, rfl⟩ := Option.map_eq_some_iff.1 h
    obtain ⟨c, hc, hletter⟩ := ih hrest (hliteral hf)
    exact ⟨c, List.mem_cons_of_mem _ (List.mem_cons_of_mem _ hc), hletter⟩
  | case4 quoted cs hsingle ih =>
    obtain ⟨c, hc, hletter⟩ := ih h hf
    exact ⟨c, List.mem_cons_of_mem _ hc, hletter⟩
  | case5 quoted c cs hsingle hquote hplain ih =>
    obtain ⟨rest, hrest, rfl⟩ := Option.map_eq_some_iff.1 h
    obtain ⟨d, hd, hletter⟩ := ih hrest (hliteral hf)
    exact ⟨d, List.mem_cons_of_mem _ hd, hletter⟩
  | case7 quoted c cs hsingle hquote hplain g hg more =>
    rename_i ih
    obtain ⟨rest, hrest, rfl⟩ := Option.map_eq_some_iff.1 h
    rcases List.mem_cons.1 hf with hfirst | hf
    · cases hfirst
      exact ⟨c, List.mem_cons_self, hg⟩
    · obtain ⟨d, hd, hletter⟩ := ih hrest hf
      exact ⟨d, List.mem_cons_of_mem _ ((List.dropWhile_suffix _).mem hd), hletter⟩

/-- A pattern without letters for fields of the time of day shows the date only. -/
lemma format_of_not_hasTimeFields {s : String} (hp : parse? s = some p)
    (h : PatternKinds.hasTimeFields s = false) (d : Date) (c c' : Clock) :
    p.format ⟨d, c⟩ = p.format ⟨d, c'⟩ := by
  obtain ⟨items, hitems, rfl⟩ := Option.map_eq_some_iff.1 hp
  refine format_congr fun f n hf => f.text_of_isOfDate n d c c' ?_
  obtain ⟨letter, hmem, hletter⟩ := exists_letter hitems hf
  have hdate := List.any_eq_false.1 h letter hmem
  rw [hletter] at hdate
  simpa using hdate

/-- A pattern without letters for fields of the date shows the time of day only. -/
lemma format_of_not_hasDateFields {s : String} (hp : parse? s = some p)
    (h : PatternKinds.hasDateFields s = false) (d d' : Date) (c : Clock) :
    p.format ⟨d, c⟩ = p.format ⟨d', c⟩ := by
  obtain ⟨items, hitems, rfl⟩ := Option.map_eq_some_iff.1 hp
  refine format_congr fun f n hf => f.text_of_not_isOfDate n d d' c ?_
  obtain ⟨letter, hmem, hletter⟩ := exists_letter hitems hf
  have htime := List.any_eq_false.1 h letter hmem
  rw [hletter] at htime
  simpa using htime

end DatePattern

/-! ## Columns that show what is lost -/

namespace Column

variable {c : Column} {p : DatePattern}

/-- Whether the pattern of a column has letters for fields that are lost in its values. -/
def Overshows (c : Column) : Prop :=
  c.type = .date ∧ PatternKinds.hasTimeFields c.datePattern = true ∨
    c.type = .timeOfDay ∧ PatternKinds.hasDateFields c.datePattern = true

instance : Decidable c.Overshows :=
  inferInstanceAs (Decidable (_ ∧ _ ∨ _ ∧ _))

/-- An instant is shown as what is carried of it, unless the column shows what is lost. -/
lemma format_carried (hp : DatePattern.parse? c.datePattern = some p) (hshows : ¬ c.Overshows)
    (i : Instant) : p.format (i.carried c.type) = p.format i := by
  obtain ⟨hdate, htime⟩ := not_or.1 hshows
  have htruncated (d : Date) : p.format ⟨d, i.clock.truncated⟩ = p.format ⟨d, i.clock⟩ :=
    DatePattern.format_congr fun f n _ => f.text_truncated n d i.clock
  unfold Instant.carried
  split
  · next htype =>
    have hnone : PatternKinds.hasTimeFields c.datePattern = false :=
      Bool.eq_false_iff.2 fun h => hdate ⟨htype, h⟩
    exact DatePattern.format_of_not_hasTimeFields hp hnone i.date _ _
  · next htype =>
    have hnone : PatternKinds.hasDateFields c.datePattern = false :=
      Bool.eq_false_iff.2 fun h => htime ⟨htype, h⟩
    rw [Instant.ofClock, htruncated]
    exact DatePattern.format_of_not_hasDateFields hp hnone _ _ _
  · exact htruncated i.date

end Column

/-- A pattern with fields of the time of day shows only dates as dates, and one with fields of the
date shows only times of day as times of day. -/
lemma PatternKinds.displayType_cases (k : PatternKinds) (native : ColumnType) :
    (k.time = true → k.displayType native = .date → native = .date) ∧
      (k.date = true → k.displayType native = .timeOfDay → native = .timeOfDay) := by
  obtain ⟨boolean, number, date, time⟩ := k
  revert boolean number date time
  cases native <;> decide

namespace Column

variable {c c' : Column} {k : Conversion}

/-- What a pattern was found to be a pattern for. -/
lemma classify_eq_ok {s : String} {kinds : PatternKinds}
    (h : PatternKinds.classify s = .ok kinds) : kinds = PatternKinds.ofText s := by
  unfold PatternKinds.classify at h
  dsimp only at h
  split at h
  · cases h
  · exact (Except.ok.inj h).symm

/-- A column that shows what is lost has a pattern, and its data have its type already. -/
lemma native?_of_overshows (hc : c.resolve = .ok c') (hk : Conversion.ofColumn c' = .ok k)
    (hshows : c'.Overshows) : c'.native? = some c'.type := by
  have hparsed : (DatePattern.parse? c'.datePattern).isSome = true := by
    cases Conversion.convertedBy_ofColumn hk with
    | temporal _ hp =>
      rw [hp]
      rfl
    | boolean htype | number htype | string htype =>
      rcases hshows with ⟨hdate, -⟩ | ⟨htime, -⟩
      · cases htype.symm.trans hdate
      · cases htype.symm.trans htime
  unfold resolve at hc
  by_cases hgeneral : c.isGeneral = true
  · rw [if_pos hgeneral] at hc
    cases hc
    have hpattern : datePattern { c with pattern := general, native? := none } =
        Conversion.defaultPattern c.type := if_pos (by simp [isGeneral])
    rcases hshows with ⟨htype, hfields⟩ | ⟨htype, hfields⟩
    · rw [hpattern, htype] at hfields
      exact absurd hfields (by decide)
    · rw [hpattern, htype] at hfields
      exact absurd hfields (by decide)
  · rw [if_neg hgeneral] at hc
    obtain ⟨kinds, hkinds, hc'⟩ := bind_eq_ok.1 hc
    cases hc'
    have hpattern : datePattern
        { c with native? := some c.type, type := kinds.displayType c.type } = c.pattern :=
      if_neg hgeneral
    rw [hpattern] at hparsed
    obtain rfl := classify_eq_ok hkinds
    obtain ⟨hdate, htime⟩ := PatternKinds.displayType_cases (.ofText c.pattern) c.type
    rcases hshows with ⟨htype, hfields⟩ | ⟨htype, hfields⟩
    · rw [hpattern] at hfields
      have hnative := hdate (by rw [PatternKinds.ofText, hparsed, hfields]; rfl) htype
      exact congrArg some (hnative.trans htype.symm)
    · rw [hpattern] at hfields
      have hnative := htime (by rw [PatternKinds.ofText, hparsed, hfields]; rfl) htype
      exact congrArg some (hnative.trans htype.symm)

end Column

/-! ## Cells that are converted again -/

/-- The form of an instant is not null. -/
lemma Value.isNull_ofInstant (type : ColumnType) (i : Instant) :
    (ofInstant type i).isNull = false := by
  unfold ofInstant
  split <;> rfl

namespace Column

variable {c : Column} {a : Cell}

/-- `Settles c a b`: the cell `b` is what a column makes of the cell `a` that it shows already.  The
value stays.  The text stays too, unless the column shows fields that are lost: then it becomes the
text of what the value carries. -/
structure Settles (c : Column) (a b : Cell) : Prop where
  value : b.value? = a.value?
  text : ¬ c.Overshows ∨ a.isNull = true → b.text? = a.text?
  carried : c.Overshows → a.isNull = false → ∃ p i, DatePattern.parse? c.datePattern = some p ∧
    a.value? = some (.ofInstant c.type i) ∧ b.text? = some (p.format (i.carried c.type))

/-- A cell that stays the same has settled. -/
lemma settles_self (h : ¬ c.Overshows ∨ a.isNull = true) : c.Settles a a := by
  refine ⟨rfl, fun _ => rfl, fun hshows hvalue => ?_⟩
  cases hvalue.symm.trans (h.resolve_left (not_not_intro hshows))

end Column

/-- A number is read from itself, with the same text. -/
lemma Value.toNumber_again {pattern? : Option NumberPattern} {v n : Value} {text : String}
    (h : v.toNumber pattern? = .ok (n, text)) : n.toNumber pattern? = .ok (n, text) := by
  rcases toNumber_cases h with ⟨m, rfl, rfl⟩ | ⟨m, rfl, rfl⟩ | ⟨x, rfl, rfl⟩
  · rfl
  · rfl
  · rfl

/-- A value of a type is not null. -/
lemma Value.Fits.ne_null {type : ColumnType} {v : Value} (h : v.Fits type) : v ≠ .null := by
  rintro rfl
  cases h

namespace Conversion

variable {c : Column} {k : Conversion} {a b : Cell}

/-- The conversion of an instant that is shown already. -/
lemma apply_ofInstant {type : ColumnType} {p : DatePattern} {fromText : Bool} {i : Instant}
    (htype : type = .date ∨ type = .timeOfDay ∨ type = .dateTime)
    (hvalue : a.value? = some (.ofInstant type i)) :
    (temporal type p fromText).apply a =
      .ok ⟨some (.ofInstant type i), some (p.format (i.carried type))⟩ := by
  rw [apply_of_ne_null hvalue (Value.fits_ofInstant i htype).ne_null, convert,
    Value.toInstant_ofInstant, ok_bind, Value.ofInstant_carried]

/-- **A converted cell is converted again** and settles.  After that it stays the same. -/
lemma settles_apply (hk : ofColumn c = .ok k) (h : k.apply a = .ok b) :
    ∃ b', k.apply b = .ok b' ∧ c.Settles b b' ∧ k.apply b' = .ok b' := by
  have hsame (hshows : ¬ c.Overshows ∨ b.isNull = true) (hb : k.apply b = .ok b) :
      ∃ b', k.apply b = .ok b' ∧ c.Settles b b' ∧ k.apply b' = .ok b' :=
    ⟨b, hb, Column.settles_self hshows, hb⟩
  have hplain (hdate : c.type ≠ .date) (htime : c.type ≠ .timeOfDay) : ¬ c.Overshows := by
    rintro (⟨htype, -⟩ | ⟨htype, -⟩)
    · exact hdate htype
    · exact htime htype
  rcases apply_cases h with ⟨hnull, rfl⟩ | ⟨v, -, -, h⟩
  · exact hsame (.inr hnull) (apply_of_isNull hnull)
  · cases convertedBy_ofColumn hk with
    | boolean htype truthy falsy =>
      obtain ⟨t, -, hb⟩ := bind_eq_ok.1 h
      cases hb
      exact hsame (.inl (hplain (by simp [htype]) (by simp [htype]))) rfl
    | number htype pattern? =>
      obtain ⟨⟨n, text⟩, hn, hb⟩ := bind_eq_ok.1 h
      cases hb
      refine hsame (.inl (hplain (by simp [htype]) (by simp [htype]))) ?_
      rw [apply_of_ne_null rfl (Value.fits_toNumber hn).ne_null, convert, Value.toNumber_again hn,
        ok_bind]
    | string htype =>
      cases h
      exact hsame (.inl (hplain (by simp [htype]) (by simp [htype]))) rfl
    | @temporal htype pattern hpattern =>
      obtain ⟨i, -, hb⟩ := bind_eq_ok.1 h
      cases hb
      refine ⟨_, apply_ofInstant htype rfl, ⟨rfl, fun hshows => ?_, fun _ _ => ?_⟩,
        apply_ofInstant htype rfl⟩
      · have hnull : Cell.isNull ⟨some (.ofInstant c.type i), some (pattern.format i)⟩ = false :=
          Value.isNull_ofInstant c.type i
        rw [hnull] at hshows
        exact congrArg some (Column.format_carried hpattern (hshows.resolve_right nofun) i)
      · exact ⟨pattern, i, hpattern, rfl, rfl⟩

end Conversion

/-! ## Tables that are converted again -/

namespace Table

variable {o : FormatOptions} {t t' : Table} {cs : List Column} {rows : List Row} {i : Nat}

/-- A cell that is shown in full is shown once more, and settles. -/
lemma Shown.settles {c : Column} {a b : Cell} (h : Shown ⟨false, false⟩ c a b) :
    ∃ b', Shown ⟨false, false⟩ c b b' ∧ c.Settles b b' ∧ Shown ⟨false, false⟩ c b' b' := by
  obtain ⟨k, d, hk, hd, rfl⟩ := h
  obtain ⟨b', hb', hsettles, hstays⟩ := Conversion.settles_apply hk hd
  exact ⟨b', ⟨k, b', hk, hb', rfl⟩, hsettles, ⟨k, b', hk, hstays, rfl⟩⟩

/-- A table whose cells were converted has conversions for all of its columns. -/
lemma exists_ofColumn_of_convertColumns {rows' : List Row}
    (h : (convertColumns o i cs rows).toExcept = .ok rows') :
    ∀ c ∈ cs, ∃ k, Conversion.ofColumn c = .ok k := by
  induction cs generalizing i rows with
  | nil => exact nofun
  | cons c cs ih =>
    obtain ⟨rows₁, hfirst, hlater⟩ := Progress.toExcept_andThen_eq_ok.1 h
    refine List.forall_mem_cons.2 ⟨?_, ih hlater⟩
    unfold convertColumn at hfirst
    cases hk : Conversion.ofColumn c with
    | error f =>
      rw [hk] at hfirst
      cases hfirst
    | ok k => exact ⟨k, rfl⟩

/-- Columns can be converted one after another if each of them can. -/
lemma exists_convertColumns (hcolumns : ∀ c ∈ cs, ∃ k, Conversion.ofColumn c = .ok k)
    (hcells : ∀ r ∈ rows, ∀ m c a, cs[m]? = some c → r[i + m]? = some a → ∃ b, Shown o c a b) :
    ∃ rows', (convertColumns o i cs rows).toExcept = .ok rows' := by
  induction cs generalizing i rows with
  | nil => exact ⟨rows, rfl⟩
  | cons c cs ih =>
    obtain ⟨⟨k, hk⟩, hcolumns⟩ := List.forall_mem_cons.1 hcolumns
    have hrow : ∀ r ∈ rows, ∃ r₁, convertAt k o (c.type == .string) i r = .ok r₁ := by
      intro r hr
      unfold convertAt
      cases hcell : r[i]? with
      | none => exact ⟨r, rfl⟩
      | some a =>
        obtain ⟨b, k', d, hk', hd, -⟩ := hcells r hr 0 c a rfl hcell
        cases hk.symm.trans hk'
        exact ⟨_, bind_eq_ok.2 ⟨d, hd, rfl⟩⟩
    obtain ⟨rows₁, hfirst⟩ := Progress.exists_toExcept_each hrow
    have hrows : List.Forall₂ (ShownFrom o i [c]) rows rows₁ :=
      (Progress.toExcept_each_eq_ok.1 hfirst).imp fun _ _ hrow => shownFrom_convertAt hk hrow
    -- the cells of the other columns are as they were
    have hlater : ∀ r₁ ∈ rows₁, ∀ m c' a, cs[m]? = some c' → r₁[i + 1 + m]? = some a →
        ∃ b, Shown o c' a b := by
      intro r₁ hr₁ m c' a hc' ha
      obtain ⟨r, hr, hshown⟩ := exists_of_forall₂ hrows hr₁
      rw [hshown.outside _ (.inr (by rw [List.length_singleton]; omega)), Nat.add_right_comm,
        Nat.add_assoc] at ha
      exact hcells r hr (m + 1) c' a hc' ha
    obtain ⟨rows', hrows'⟩ := ih hcolumns hlater
    refine ⟨rows', Progress.toExcept_andThen_eq_ok.2 ⟨rows₁, ?_, hrows'⟩⟩
    rw [convertColumn, hk]
    exact hfirst

/-- A table is converted if it is rectangular and each of its columns and cells can be converted. -/
lemma exists_applyFormats (hcolumns : ∀ c ∈ t.columns, ∃ k, Conversion.ofColumn c = .ok k)
    (hcells : t.Everywhere fun c a => ∃ b, Shown o c a b) :
    ∃ t', (applyFormats o t).toExcept = .ok t' := by
  have hshape : t.checkShape = .ok () := by
    rcases checkShape_cases t with ⟨-, hok⟩ | ⟨hragged, -⟩
    · exact hok
    · exact absurd hcells.rectangular hragged
  have hplaces : ∀ r ∈ t.rows, ∀ m c a, t.columns[m]? = some c → r[0 + m]? = some a →
      ∃ b, Shown o c a b := by
    intro r hr m c a hc ha
    rw [Nat.zero_add] at ha
    exact (forall₂_iff_getElem?.1 (hcells r hr)).2 m c a hc ha
  obtain ⟨rows', hrows'⟩ := exists_convertColumns hcolumns hplaces
  refine ⟨{ t with rows := rows' }, ?_⟩
  rw [applyFormats, hshape]
  exact Progress.toExcept_map_eq_ok.2 ⟨rows', hrows', rfl⟩

/-- A table whose cells are shown as they are is converted to itself. -/
lemma applyFormats_eq_self (hcolumns : ∀ c ∈ t.columns, ∃ k, Conversion.ofColumn c = .ok k)
    (hcells : t.Everywhere fun c a => Shown o c a a) : (applyFormats o t).toExcept = .ok t := by
  obtain ⟨t', ht'⟩ := exists_applyFormats (o := o) hcolumns fun r hr =>
    (hcells r hr).imp fun _ a ha => ⟨a, ha⟩
  have hsame : Cellwise (fun _ a b => b = a) t t' :=
    (cellwise_applyFormats ht').imp hcells fun _ _ _ ha hb => hb.unique ha
  rw [ht', hsame.eq hcells.rectangular]

/-- All columns of a converted table have conversions. -/
lemma exists_ofColumn_of_applyFormats (h : (applyFormats o t).toExcept = .ok t') :
    ∀ c ∈ t'.columns, ∃ k, Conversion.ofColumn c = .ok k := by
  rw [(cellwise_applyFormats h).columns]
  unfold applyFormats at h
  split at h
  · cases h
  · obtain ⟨rows, hrows, -⟩ := Progress.toExcept_map_eq_ok.1 h
    exact exists_ofColumn_of_convertColumns hrows

/-- **Conversion settles.**  A table whose labels are assigned and whose cells are converted can be
converted again.  All columns and all values stay, and so do the texts, except in columns that show
fields that are lost; such columns have data of their own type.  If there is no such column, the
table stays as it is.  In any case it does so from the second conversion on. -/
theorem applyFormats_again {q : Query} {raw labelled once : Table}
    (hlabelled : (assignLabels q raw).toExcept = .ok labelled)
    (honce : (applyFormats ⟨false, false⟩ labelled).toExcept = .ok once) :
    ∃ twice, (applyFormats ⟨false, false⟩ once).toExcept = .ok twice ∧
      Cellwise Column.Settles once twice ∧
      (∀ c ∈ once.columns, c.Overshows → c.native? = some c.type) ∧
      ((∀ c ∈ once.columns, ¬ c.Overshows) → twice = once) ∧
      (applyFormats ⟨false, false⟩ twice).toExcept = .ok twice := by
  have hcolumns := exists_ofColumn_of_applyFormats honce
  have hcells := everywhere_applyFormats (fun c a b => Shown.settles) honce
  obtain ⟨twice, htwice⟩ := exists_applyFormats hcolumns fun r hr =>
    (hcells r hr).imp fun c b ⟨b', hb', _⟩ => ⟨b', hb'⟩
  have hshown := cellwise_applyFormats htwice
  have hsettled : Cellwise Column.Settles once twice :=
    hshown.imp hcells fun c a b ⟨b', hb', hsettles, _⟩ hb => hb.unique hb' ▸ hsettles
  refine ⟨twice, htwice, hsettled, fun c hc hshows => ?_, fun hplain => ?_, ?_⟩
  · obtain ⟨⟨cs, -, hresolved⟩, -⟩ := assignLabels_eq_ok hlabelled
    rw [← (cellwise_applyFormats honce).columns] at hresolved
    obtain ⟨c₀, -, hc₀⟩ := exists_of_forall₂ hresolved hc
    obtain ⟨k, hk⟩ := hcolumns c hc
    exact Column.native?_of_overshows hc₀ hk hshows
  · have hsame : Cellwise (fun _ a b => b = a) once twice := by
      have hall := everywhere_of_columns hcells.rectangular hplain
      refine hsettled.imp hall fun c a b hc hsettles => ?_
      obtain ⟨value?, text?⟩ := b
      obtain rfl : value? = a.value? := hsettles.value
      obtain rfl : text? = a.text? := hsettles.text (.inl hc)
      rfl
    exact hsame.eq hcells.rectangular
  · refine applyFormats_eq_self (exists_ofColumn_of_applyFormats htwice) ?_
    exact hshown.everywhere hcells fun c a b ⟨b', hb', _, hstays⟩ hb => hb.unique hb' ▸ hstays

/-- Dates with a pattern for dates and numbers with one for numbers stay as they are. -/
theorem applyFormats_again_plain :
    let raw : Table :=
      { columns := [⟨"d", "", .date, "", none⟩, ⟨"n", "", .number, "", none⟩]
        rows := [[⟨some (.string "2020-01-31 12:34:56"), none⟩, ⟨some (.string "1234.5"), none⟩],
          [⟨some .null, none⟩, ⟨none, none⟩]] }
    let text := "select d, n format d 'dd.MM.yyyy', n '#,##0.00'"
    ∃ q labelled once, (Session.serving raw).profile.parse text = .ok q ∧
      (assignLabels q raw).toExcept = .ok labelled ∧
      (applyFormats ⟨false, false⟩ labelled).toExcept = .ok once ∧
      (applyFormats ⟨false, false⟩ once).toExcept = .ok once := by
  intro raw text
  obtain ⟨q, hparse, htest⟩ := exists_eq_ok ((Session.serving raw).profile.parse text)
    (fun q => (Session.converted q ⟨false, false⟩ raw).toOption.any fun once : Table =>
      decide (∀ c ∈ once.columns, ¬ c.Overshows)) (by decide +kernel)
  obtain ⟨once, hconverted, hplain⟩ := exists_eq_ok _ _ htest
  obtain ⟨labelled, hlabelled, honce⟩ := bind_eq_ok.1 hconverted
  obtain ⟨twice, htwice, -, -, hsame, -⟩ := applyFormats_again hlabelled honce
  obtain rfl := hsame (of_decide_eq_true hplain)
  exact ⟨q, labelled, twice, hparse, hlabelled, honce, htwice⟩

/-- **A second conversion can change a text.**  A date that is shown with a time of day is shown
with midnight when it is converted once more. -/
theorem applyFormats_again_changes :
    let raw : Table :=
      { columns := [⟨"d", "", .date, "", none⟩]
        rows := [[⟨some (.string "2020-01-01 12:34:56"), none⟩]] }
    ∃ q labelled once twice,
      (Session.serving raw).profile.parse "select d format d 'H:mm:ss'" = .ok q ∧
      (assignLabels q raw).toExcept = .ok labelled ∧
      (applyFormats ⟨false, false⟩ labelled).toExcept = .ok once ∧
      (applyFormats ⟨false, false⟩ once).toExcept = .ok twice ∧
      once.rows = [[⟨some (.string "Date(2020,0,1)"), some "12:34:56"⟩]] ∧
      twice.rows = [[⟨some (.string "Date(2020,0,1)"), some "0:00:00"⟩]] ∧ twice ≠ once := by
  intro raw
  obtain ⟨q, hparse, htest⟩ := exists_eq_ok
    ((Session.serving raw).profile.parse "select d format d 'H:mm:ss'")
    (fun q => (Session.converted q ⟨false, false⟩ raw).toOption.any fun once : Table =>
      decide (once.rows = [[⟨some (.string "Date(2020,0,1)"), some "12:34:56"⟩]]) &&
        (applyFormats ⟨false, false⟩ once).toExcept.toOption.any fun twice : Table =>
          decide (twice.rows = [[⟨some (.string "Date(2020,0,1)"), some "0:00:00"⟩]]))
    (by decide +kernel)
  obtain ⟨once, hconverted, htest⟩ := exists_eq_ok _ _ htest
  obtain ⟨labelled, hlabelled, honce⟩ := bind_eq_ok.1 hconverted
  obtain ⟨hfirst, htest⟩ := Bool.and_eq_true_iff.1 htest
  obtain ⟨twice, htwice, hsecond⟩ := exists_eq_ok _ _ htest
  refine ⟨q, labelled, once, twice, hparse, hlabelled, honce, htwice, of_decide_eq_true hfirst,
    of_decide_eq_true hsecond, fun hsame => ?_⟩
  rw [hsame, of_decide_eq_true hfirst] at hsecond
  revert hsecond
  decide

end Table

end ChartQuery
