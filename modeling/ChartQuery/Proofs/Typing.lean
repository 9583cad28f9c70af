import ChartQuery.Proofs.Placement
import ChartQuery.Session

/-!
# What the cells of a result hold

A source may serve any value in any column and rows of any length.  What a client gets is in order
nevertheless: every row has one cell for each column, and the values in a column are those of its
type.

Each cell is converted on its own, so it is enough to look at one conversion (`suits_apply`).  A
pivot only moves cells, and every copy of a column keeps the type of the column, so what holds of
each cell and its column holds in the pivoted table as well.
-/

namespace ChartQuery

/-! ## Values of a type -/

/-- The month of a date is one of a calendar. -/
lemma Date.one_le_month (d : Date) : 1 ≤ d.month := by
  obtain ⟨year, month, day, h⟩ := d
  cases month with
  | zero =>
    simp only [Calendar.isDate, Calendar.daysInMonth, Bool.and_eq_true, decide_eq_true_eq] at h
    omega
  | succ m => exact Nat.succ_pos m

/-- The month of a date, counted from zero. -/
lemma Date.month_sub_one (d : Date) : (d.month : Int) - 1 = ((d.month - 1 : Nat) : Int) := by
  have hmonth := d.one_le_month
  omega

/-- The parts of a time of day, with the milliseconds as they are shown. -/
lemma Clock.parts_lt (c : Clock) :
    c.hour < 24 ∧ c.minute < 60 ∧ c.second < 60 ∧ c.shownMillis < 1000 := by
  have h := c.isClock
  simp only [Calendar.isClock, Bool.and_eq_true, decide_eq_true_eq] at h
  obtain ⟨⟨⟨hhour, hminute⟩, hsecond⟩, -⟩ := h
  have hmilli : c.shownMillis ≤ 999 := Nat.min_le_right _ _
  exact ⟨hhour, hminute, hsecond, by omega⟩

namespace Value

/-- `Fits type v`: the value is one of those that a column of the type is to hold.  Dates and
instants are texts in which months count from zero; times of day are quadruples. -/
inductive Fits : ColumnType → Value → Prop
  | boolean (b : Bool) : Fits .boolean (.bool b)
  | int (n : Int) : Fits .number (.int n)
  | uint (n : Nat) : Fits .number (.uint n)
  | float (x : Binary64) : Fits .number (.float x)
  | string (s : String) : Fits .string (.string s)
  | date {year : Int} {month day : Nat} (hdate : Calendar.isDate year (month + 1) day = true) :
    Fits .date (.string
      ("Date(" ++ toString year ++ "," ++ toString month ++ "," ++ toString day ++ ")"))
  | dateTime {year : Int} {month day hour minute second milli : Nat}
      (hdate : Calendar.isDate year (month + 1) day = true)
      (hclock : hour < 24 ∧ minute < 60 ∧ second < 60 ∧ milli < 1000) :
    Fits .dateTime (.string
      ("Date(" ++ toString year ++ "," ++ toString month ++ "," ++ toString day ++ "," ++
        toString hour ++ "," ++ toString minute ++ "," ++ toString second ++ "," ++
        toString milli ++ ")"))
  | timeOfDay {hour minute second milli : Nat}
      (hclock : hour < 24 ∧ minute < 60 ∧ second < 60 ∧ milli < 1000) :
    Fits .timeOfDay (.timeOfDay hour minute second milli)

/-- All that a value can be read as if it is read as a number. -/
lemma toNumber_cases {pattern? : Option NumberPattern} {v n : Value} {text : String}
    (h : v.toNumber pattern? = .ok (n, text)) :
    (∃ m, n = int m ∧ text = intText pattern? m) ∨
    (∃ m, n = uint m ∧
      text = if isSigned m then intText pattern? m else floatText pattern? (.ofInt m)) ∨
    ∃ x, n = float x ∧ text = floatText pattern? x := by
  unfold toNumber at h
  cases v with
  | null | timeOfDay => cases h
  | bool b =>
    cases h
    exact .inl ⟨_, rfl, rfl⟩
  | int m =>
    cases h
    exact .inl ⟨m, rfl, rfl⟩
  | uint m =>
    cases h
    exact .inr (.inl ⟨m, rfl, rfl⟩)
  | float x =>
    cases h
    exact .inr (.inr ⟨x, rfl, rfl⟩)
  | string s =>
    dsimp only at h
    split at h
    · cases h
      exact .inl ⟨_, rfl, rfl⟩
    · split at h
      · cases h
        exact .inr (.inr ⟨_, rfl, rfl⟩)
      · cases h

/-- A number read from a value is a number. -/
lemma fits_toNumber {pattern? : Option NumberPattern} {v n : Value} {text : String}
    (h : v.toNumber pattern? = .ok (n, text)) : n.Fits .number := by
  rcases toNumber_cases h with ⟨m, rfl, -⟩ | ⟨m, rfl, -⟩ | ⟨x, rfl, -⟩
  · exact .int m
  · exact .uint m
  · exact .float x

/-- An instant in the form for a type of dates or times is a value of that type. -/
lemma fits_ofInstant {type : ColumnType} (i : Instant)
    (htype : type = .date ∨ type = .timeOfDay ∨ type = .dateTime) :
    (ofInstant type i).Fits type := by
  have hcast := i.date.month_sub_one
  have hdate : Calendar.isDate i.date.year (i.date.month - 1 + 1) i.date.day = true := by
    rw [Nat.sub_add_cancel i.date.one_le_month]
    exact i.date.isDate
  rcases htype with rfl | rfl | rfl
  · rw [ofInstant, hcast]
    simp only [dateText, List.map_cons, List.map_nil, String.intercalate_cons_cons,
      String.intercalate_singleton, ← String.append_assoc]
    exact .date hdate
  · exact .timeOfDay i.clock.parts_lt
  · simp only [ofInstant, hcast, dateText, List.map_cons, List.map_nil,
      String.intercalate_cons_cons, String.intercalate_singleton, ← String.append_assoc]
    exact .dateTime hdate i.clock.parts_lt

end Value

/-! ## Cells of a column -/

/-- A cell is null if it has no value or the value null. -/
lemma Cell.isNull_iff {a : Cell} : a.isNull = true ↔ a.value? = none ∨ a.value? = some .null := by
  obtain ⟨value?, text?⟩ := a
  cases value? with
  | none => exact iff_of_true rfl (.inl rfl)
  | some v => simp [Cell.isNull, Value.isNull]

namespace Column

/-- The pattern that the dates and times in a column are written in. -/
def datePattern (c : Column) : String :=
  if c.isGeneral then Conversion.defaultPattern c.type else c.pattern

/-- `ConvertedBy c k`: the conversion `k` is one that a column like `c` may have. -/
inductive ConvertedBy (c : Column) : Conversion → Prop
  | boolean (htype : c.type = .boolean) (truthy falsy : String) :
    ConvertedBy c (.boolean truthy falsy)
  | number (htype : c.type = .number) (pattern? : Option NumberPattern) :
    ConvertedBy c (.number pattern?)
  | string (htype : c.type = .string) : ConvertedBy c .string
  | temporal (htype : c.type = .date ∨ c.type = .timeOfDay ∨ c.type = .dateTime)
      {pattern : DatePattern} (hpattern : DatePattern.parse? c.datePattern = some pattern) :
    ConvertedBy c (.temporal c.type pattern (c.native? == some .string))

/-- `Admits c a`: unless it is null, the value of the cell is one of the type of the column. -/
def Admits (c : Column) (a : Cell) : Prop :=
  ∀ v, a.value? = some v → v ≠ .null → v.Fits c.type

/-- `Describes c a`: a value other than null has a text beside it, unless it is a string. -/
def Describes (c : Column) (a : Cell) : Prop :=
  ∀ v, a.value? = some v → v ≠ .null → c.type ≠ .string → a.text?.isSome = true

/-- A cell without a value other than null suits every column. -/
lemma suits_of_isNull {c : Column} {a : Cell} (hnull : a.isNull = true) :
    c.Admits a ∧ c.Describes a := by
  have hnone {v : Value} (hv : a.value? = some v) (hne : v ≠ .null) : False := by
    rcases Cell.isNull_iff.1 hnull with hvalue | hvalue
    · cases hv.symm.trans hvalue
    · exact hne (Option.some.inj (hv.symm.trans hvalue))
  exact ⟨fun _ hv hne => (hnone hv hne).elim, fun _ hv hne => (hnone hv hne).elim⟩

end Column

namespace Conversion

variable {c : Column} {k : Conversion} {a b : Cell}

/-- All conversions that a column can have. -/
lemma convertedBy_ofColumn (h : ofColumn c = .ok k) : c.ConvertedBy k := by
  unfold ofColumn at h
  split at h
  · next htype =>
    split at h
    · cases h
      exact .boolean htype _ _
    · split at h
      · cases h
        exact .boolean htype _ _
      · cases h
  · next htype =>
    split at h
    · cases h
      exact .number htype _
    · split at h
      · cases h
        exact .number htype _
      · cases h
  · next htype =>
    cases h
    exact .string htype
  all_goals
    next htype =>
    dsimp only at h
    split at h
    · next hpattern =>
      cases h
      exact .temporal (by simp [htype]) hpattern
    · cases h

/-- A cell without a value other than null stays as it is. -/
lemma apply_of_isNull (hnull : a.isNull = true) : k.apply a = .ok a := by
  unfold apply
  rcases Cell.isNull_iff.1 hnull with hvalue | hvalue
  · rw [hvalue]
  · rw [hvalue]

/-- A value other than null is converted. -/
lemma apply_of_ne_null {v : Value} (hvalue : a.value? = some v) (hne : v ≠ .null) :
    k.apply a = k.convert a.text? v := by
  unfold apply
  split
  · next hnone => cases hvalue.symm.trans hnone
  · next hnull =>
    rw [hnull] at hvalue
    exact absurd (Option.some.inj hvalue).symm hne
  · next w hw =>
    cases hvalue.symm.trans hw
    rfl

/-- All that a conversion can do. -/
lemma apply_cases (h : k.apply a = .ok b) :
    (a.isNull = true ∧ b = a) ∨
      ∃ v, a.value? = some v ∧ v ≠ .null ∧ k.convert a.text? v = .ok b := by
  by_cases hnull : a.isNull = true
  · rw [apply_of_isNull hnull] at h
    exact .inl ⟨hnull, (Except.ok.inj h).symm⟩
  · obtain ⟨hnone, hne⟩ := not_or.1 (mt Cell.isNull_iff.2 hnull)
    obtain ⟨v, hvalue⟩ := Option.ne_none_iff_exists'.1 hnone
    have hv : v ≠ .null := fun heq => hne (heq ▸ hvalue)
    exact .inr ⟨v, hvalue, hv, (apply_of_ne_null hvalue hv).symm.trans h⟩

/-- **A converted cell** holds a value of the type of its column, with a text unless it is a
string. -/
lemma suits_apply (hk : ofColumn c = .ok k) (h : k.apply a = .ok b) :
    c.Admits b ∧ c.Describes b := by
  rcases apply_cases h with ⟨hnull, rfl⟩ | ⟨v, hvalue, hne, h⟩
  · exact Column.suits_of_isNull hnull
  · cases convertedBy_ofColumn hk with
    | boolean htype truthy falsy =>
      obtain ⟨t, -, hb⟩ := bind_eq_ok.1 h
      cases hb
      constructor
      · rintro w ⟨⟩ -
        rw [htype]
        exact .boolean t
      · exact fun _ _ _ _ => rfl
    | number htype pattern? =>
      obtain ⟨⟨n, text⟩, hn, hb⟩ := bind_eq_ok.1 h
      cases hb
      constructor
      · rintro w ⟨⟩ -
        rw [htype]
        exact Value.fits_toNumber hn
      · exact fun _ _ _ _ => rfl
    | string htype =>
      cases h
      constructor
      · rintro w ⟨⟩ -
        rw [htype]
        exact .string _
      · exact fun _ _ _ hne => absurd htype hne
    | temporal htype hpattern =>
      obtain ⟨i, -, hb⟩ := bind_eq_ok.1 h
      cases hb
      constructor
      · rintro w ⟨⟩ -
        exact Value.fits_ofInstant i htype
      · exact fun _ _ _ _ => rfl

end Conversion

/-- What is left of a cell has its value unless values are left out. -/
lemma FormatOptions.value?_restrict (o : FormatOptions) (isString : Bool) (a : Cell) :
    (o.restrict isString a).value? = if o.noValues then none else a.value? := by
  obtain ⟨noValues, noFormat⟩ := o
  cases noValues <;> cases noFormat <;> rfl

/-! ## Tables -/

section Lists

variable {α β : Type} {R : α → β → Prop} {as : List α} {bs : List β}

/-- Lists are related element by element exactly if they are equally long and related at each
place. -/
lemma forall₂_iff_getElem? : List.Forall₂ R as bs ↔
    as.length = bs.length ∧ ∀ (i : Nat) (a : α) (b : β), as[i]? = some a → bs[i]? = some b →
      R a b := by
  rw [List.forall₂_iff_get]
  refine and_congr_right fun hlength => ⟨fun h i a b ha hb => ?_, fun h i hi hi' => ?_⟩
  · obtain ⟨hi, rfl⟩ := List.getElem?_eq_some_iff.1 ha
    obtain ⟨hi', rfl⟩ := List.getElem?_eq_some_iff.1 hb
    exact h i hi hi'
  · exact h i _ _ (List.getElem?_eq_getElem hi) (List.getElem?_eq_getElem hi')

/-- Every element on the right is related to one on the left. -/
lemma exists_of_forall₂ (h : List.Forall₂ R as bs) {b : β} (hb : b ∈ bs) : ∃ a ∈ as, R a b := by
  induction h with
  | nil => cases hb
  | cons hab _ ih =>
    rcases List.mem_cons.1 hb with rfl | hb
    · exact ⟨_, List.mem_cons_self, hab⟩
    · obtain ⟨a, ha, hab⟩ := ih hb
      exact ⟨a, List.mem_cons_of_mem _ ha, hab⟩

end Lists

namespace Table

variable {o : FormatOptions} {q : Query} {t t' p : Table} {keys groups : List String}
  {P : Column → Cell → Prop}

/-- `Everywhere P t`: every row of the table has one cell for each column, and each cell is as its
column has it. -/
def Everywhere (P : Column → Cell → Prop) (t : Table) : Prop :=
  ∀ r ∈ t.rows, List.Forall₂ P t.columns r

/-- A table with a cell for each column is rectangular. -/
lemma Everywhere.rectangular (h : t.Everywhere P) : t.Rectangular := fun r hr =>
  (h r hr).length_eq.symm

/-- The cell of a row at the place of a column. -/
lemma Everywhere.of_cellAt (h : t.Everywhere P) {r : Row} (hr : r ∈ t.rows) {j : Nat} {c : Column}
    (hc : t.columns[j]? = some c) : P c (cellAt r j) := by
  obtain ⟨hlength, hplaces⟩ := forall₂_iff_getElem?.1 (h r hr)
  have hj : j < r.length := hlength ▸ (List.getElem?_eq_some_iff.1 hc).1
  refine hplaces j c _ hc ?_
  rw [cellAt, List.getD_eq_getElem?_getD, List.getElem?_eq_getElem hj, Option.getD_some]

/-- What is true of all columns is true wherever there is a cell. -/
lemma everywhere_of_columns {P : Column → Prop} (hrect : t.Rectangular) (h : ∀ c ∈ t.columns, P c) :
    t.Everywhere fun c _ => P c := fun r hr =>
  forall₂_iff_getElem?.2 ⟨(hrect r hr).symm, fun _ c _ hc _ => h c (List.mem_of_getElem? hc)⟩

/-- `Cellwise R t t'`: two tables have the same columns and rows of the same lengths, and the cells
at the same places are related in the way of their column. -/
structure Cellwise (R : Column → Cell → Cell → Prop) (t t' : Table) : Prop where
  columns : t'.columns = t.columns
  rows : List.Forall₂ (fun r r' : Row => r'.length = r.length ∧
    ∀ (j : Nat) (c : Column) (a b : Cell), t.columns[j]? = some c → r[j]? = some a →
      r'[j]? = some b → R c a b) t.rows t'.rows

section Cellwise

variable {R S : Column → Cell → Cell → Prop} {P Q : Column → Cell → Prop}

/-- What is true of all cells on the left can be used for the cells on the right. -/
lemma Cellwise.imp (h : Cellwise R t t') (ht : t.Everywhere P)
    (hS : ∀ c a b, P c a → R c a b → S c a b) : Cellwise S t t' := by
  refine ⟨h.columns, ?_⟩
  refine ((List.forall₂_and_left _ _).2 ⟨ht, h.rows⟩).imp fun r r' hrow => ?_
  obtain ⟨hr, hlength, hcells⟩ := hrow
  refine ⟨hlength, fun j c a b hc ha hb => ?_⟩
  exact hS c a b ((forall₂_iff_getElem?.1 hr).2 j c a hc ha) (hcells j c a b hc ha hb)

/-- What is true of all cells on the left makes something true of all cells on the right. -/
lemma Cellwise.everywhere (h : Cellwise R t t') (ht : t.Everywhere P)
    (hQ : ∀ c a b, P c a → R c a b → Q c b) : t'.Everywhere Q := by
  intro r' hr'
  obtain ⟨r, hr, hlength, hcells⟩ := exists_of_forall₂ h.rows hr'
  obtain ⟨hwidth, hplaces⟩ := forall₂_iff_getElem?.1 (ht r hr)
  rw [h.columns]
  refine forall₂_iff_getElem?.2 ⟨hwidth.trans hlength.symm, fun j c b hc hb => ?_⟩
  have hj : j < r.length := hlength ▸ (List.getElem?_eq_some_iff.1 hb).1
  have ha : r[j]? = some r[j] := List.getElem?_eq_getElem hj
  exact hQ c _ b (hplaces j c _ hc ha) (hcells j c _ b hc ha hb)

/-- Tables with the same cells are the same. -/
lemma Cellwise.eq (h : Cellwise (fun _ a b => b = a) t t') (hrect : t.Rectangular) : t' = t := by
  obtain ⟨columns, rows⟩ := t
  obtain ⟨columns', rows'⟩ := t'
  obtain rfl : columns' = columns := h.columns
  have hrows : List.Forall₂ Eq rows rows' := by
    refine ((List.forall₂_and_left _ _).2 ⟨hrect, h.rows⟩).imp fun r r' hrow => ?_
    obtain ⟨hwidth, hlength, hcells⟩ := hrow
    refine List.ext_getElem hlength.symm fun j hj hj' => ?_
    have hc : j < columns'.length := hwidth ▸ hj
    exact (hcells j _ _ _ (List.getElem?_eq_getElem hc) (List.getElem?_eq_getElem hj)
      (List.getElem?_eq_getElem hj')).symm
  rw [List.forall₂_eq_eq_eq] at hrows
  rw [hrows]

/-- What is converted is shown, cell by cell. -/
lemma cellwise_applyFormats (h : (applyFormats o t).toExcept = .ok t') :
    Cellwise (Shown o) t t' := by
  obtain ⟨-, hcolumns, hrows⟩ := shownFrom_applyFormats h
  refine ⟨hcolumns, hrows.imp fun r r' hrow => ⟨hrow.length_eq, fun j c a b hc ha hb => ?_⟩⟩
  obtain ⟨b', hb', hshown⟩ := hrow.within j c a hc (by rwa [Nat.zero_add])
  rw [Nat.zero_add, hb] at hb'
  cases hb'
  exact hshown

end Cellwise

/-- What is true of all that a column shows is true of the table that is shown. -/
lemma everywhere_applyFormats (hP : ∀ c a b, Shown o c a b → P c b)
    (h : (applyFormats o t).toExcept = .ok t') : t'.Everywhere P := by
  obtain ⟨hrect, -, -⟩ := shownFrom_applyFormats h
  have hall : t.Everywhere fun _ _ => True := everywhere_of_columns hrect fun _ _ => trivial
  exact (cellwise_applyFormats h).everywhere hall fun c a b _ hb => hP c a b hb

/-- **A pivot keeps what is true of every cell and its column**, if it is true of null and does not
depend on the names of the column. -/
lemma everywhere_crossTable (hnull : ∀ c, P c .null)
    (hnames : ∀ (c : Column) (id label : String) (a : Cell),
      P c a → P { c with id := id, label := label } a)
    (hp : IsCrossTable q t keys groups p) (h : t.Everywhere P) : p.Everywhere P := by
  intro r hr
  rw [hp.rows] at hr
  obtain ⟨g, -, rfl⟩ := List.mem_map.1 hr
  rw [hp.columns]
  -- each column beside its place in the table
  have hplaces : List.Forall₂ (fun c (d : Column × Nat) => d.1 = c ∧ t.columns[d.2]? = some c)
      (t.columns.drop q.leading) ((t.columns.drop q.leading).zipIdx q.leading) := by
    refine forall₂_iff_getElem?.2 ⟨List.length_zipIdx.symm, fun i c d hc hd => ?_⟩
    rw [List.getElem?_zipIdx, hc, Option.map_some] at hd
    cases hd
    exact ⟨rfl, by rw [← List.getElem?_drop, hc]⟩
  have hcell {c : Column} {j : Nat} (hc : t.columns[j]? = some c) (r? : Option Row)
      (hr? : ∀ r ∈ r?, r ∈ t.rows) : P c (r?.elim .null (cellAt · j)) := by
    cases r? with
    | none => exact hnull c
    | some r => exact h.of_cellAt (hr? r rfl) hc
  refine List.rel_flatMap hplaces fun c d hd => ?_
  obtain ⟨c', j⟩ := d
  obtain ⟨rfl, hc⟩ := hd
  dsimp only
  split
  · refine .cons (hcell hc _ fun r hr => ?_) .nil
    exact List.mem_of_mem_filter (List.mem_of_mem_head? hr)
  · rw [List.forall₂_map_left_iff, List.forall₂_map_right_iff, List.forall₂_same]
    refine fun k _ => hnames _ _ _ _ (hcell hc _ fun r hr => ?_)
    exact List.mem_of_mem_filter (List.mem_of_mem_getLast? hr)

end Table

/-! ## Results -/

namespace Session

open Table

variable {s : Session} {text : String} {q : Query} {raw t : Table}

/-- An answer with labels, and with its cells converted under the given options. -/
def converted (q : Query) (o : FormatOptions) (raw : Table) : Except Failure Table :=
  (assignLabels q raw).toExcept >>= fun labelled => (applyFormats o labelled).toExcept

/-- A query without a pivot is finished when the cells are converted. -/
lemma finish_of_not_hasPivot (h : q.hasPivot = false) :
    finish q raw = converted q ⟨q.noValues, q.noFormat⟩ raw := by
  unfold finish converted
  rw [h]
  rfl

/-- A query with a pivot goes on with the converted cells and all their texts. -/
lemma finish_of_hasPivot (h : q.hasPivot = true) :
    finish q raw = converted q ⟨q.noValues, false⟩ raw >>= fun shown =>
      (pivot q shown).toExcept >>= fun p => .ok (if q.noFormat then p.stripTexts else p) := by
  unfold finish converted
  rw [h]
  cases (assignLabels q raw).toExcept with
  | error f => rfl
  | ok labelled => rfl

/-- What the source answers to the statement of a query. -/
def answer (s : Session) (q : Query) : Except Failure Table :=
  s.profile.compile q >>= fun statement =>
    (s.source.fetch statement).mapError SourceError.toFailure

/-- What becomes of a query that has been read. -/
lemma run_of_parse (hparse : s.profile.parse text = .ok q) :
    s.run text =
      if s.source.isConnected then s.answer q >>= finish q else .error .notConnected := by
  unfold run prepare answer
  rw [hparse]
  by_cases hconnected : s.source.isConnected = true
  · rw [if_pos hconnected, if_pos hconnected, ok_bind]
    cases s.profile.compile q with
    | error f => rfl
    | ok statement => rfl
  · rw [if_neg hconnected, if_neg hconnected]
    rfl

/-- A query that gets its table has been read and answered. -/
lemma exists_of_run (h : s.run text = .ok t) : ∃ q raw,
    s.profile.parse text = .ok q ∧ s.answer q = .ok raw ∧ finish q raw = .ok t := by
  cases hparse : s.profile.parse text with
  | error f =>
    unfold run prepare at h
    rw [hparse] at h
    split at h <;> cases h
  | ok q =>
    rw [run_of_parse hparse] at h
    split at h
    · obtain ⟨raw, hraw, hfinish⟩ := bind_eq_ok.1 h
      exact ⟨q, raw, rfl, hraw, hfinish⟩
    · cases h

/-- A response of a query that succeeded has its table. -/
lemma respond_isOk (h : (s.respond text).isOk = true) :
    ∃ t, s.run text = .ok t ∧ (s.respond text).table? = some t := by
  unfold respond at h ⊢
  cases hrun : s.run text with
  | error f =>
    rw [hrun] at h
    cases h
  | ok t => exact ⟨t, rfl, rfl⟩

/-- Leaving out texts changes no value. -/
lemma everywhere_stripTexts (h : t.Everywhere Column.Admits) :
    t.stripTexts.Everywhere Column.Admits := by
  intro r hr
  obtain ⟨r', hr', rfl⟩ := List.mem_map.1 hr
  exact List.forall₂_map_right_iff.2 (h r' hr')

/-- What is shown of a cell has a value of the type of its column, and a text if texts are shown. -/
lemma suits_of_shown {o : FormatOptions} {c : Column} {a b : Cell} (h : Shown o c a b) :
    c.Admits b ∧ (o.noFormat = false → c.Describes b) := by
  obtain ⟨k, d, hk, hd, rfl⟩ := h
  obtain ⟨hadmits, hdescribes⟩ := Conversion.suits_apply hk hd
  rw [Column.Admits, o.value?_restrict, Column.Describes, o.value?_restrict]
  cases hvalues : o.noValues with
  | true => exact ⟨fun _ hv => (by cases hv), fun _ _ hv => (by cases hv)⟩
  | false =>
    refine ⟨hadmits, fun hformat v hv hne hstring => ?_⟩
    rw [FormatOptions.restrict, hvalues, hformat]
    exact hdescribes v hv hne hstring

/-- What is made of an answer holds values of the types of its columns, with texts if texts are
shown. -/
lemma everywhere_finish (h : finish q raw = .ok t) :
    t.Everywhere Column.Admits ∧ (q.noFormat = false → t.Everywhere Column.Describes) := by
  have hconverted {o : FormatOptions} {shown : Table} (hshown : converted q o raw = .ok shown) :
      shown.Everywhere Column.Admits ∧
        (o.noFormat = false → shown.Everywhere Column.Describes) := by
    obtain ⟨labelled, -, hshown⟩ := bind_eq_ok.1 hshown
    exact ⟨everywhere_applyFormats (fun _ _ _ hb => (suits_of_shown hb).1) hshown,
      fun hformat => everywhere_applyFormats (fun _ _ _ hb => (suits_of_shown hb).2 hformat) hshown⟩
  cases hpivot : q.hasPivot with
  | false =>
    rw [finish_of_not_hasPivot hpivot] at h
    exact hconverted h
  | true =>
    rw [finish_of_hasPivot hpivot] at h
    obtain ⟨shown, hshown, h⟩ := bind_eq_ok.1 h
    obtain ⟨p, hp, h⟩ := bind_eq_ok.1 h
    obtain ⟨hadmits, hdescribes⟩ := hconverted hshown
    have hcross := isCrossTable_of_pivot hp
    have hadmitted : p.Everywhere Column.Admits :=
      everywhere_crossTable (fun _ _ hv hne => absurd (Option.some.inj hv).symm hne)
        (fun _ _ _ _ hc => hc) hcross hadmits
    have hdescribed : p.Everywhere Column.Describes :=
      everywhere_crossTable (fun _ _ hv hne => absurd (Option.some.inj hv).symm hne)
        (fun _ _ _ _ hc => hc) hcross (hdescribes rfl)
    cases hformat : q.noFormat with
    | false =>
      rw [hformat] at h
      cases h
      exact ⟨hadmitted, fun _ => hdescribed⟩
    | true =>
      rw [hformat] at h
      cases h
      exact ⟨everywhere_stripTexts hadmitted, fun hfalse => (by cases hfalse)⟩

/-- **Every result is rectangular and well typed.**  Whatever the source serves, a response that is
ok has a table with one cell for each column in every row.  A value other than null is one of the
type of its column, and unless texts are left out it has a text beside it if it is not a string. -/
theorem respond_typed (h : (s.respond text).isOk = true) :
    ∃ t, (s.respond text).table? = some t ∧ t.Rectangular ∧ t.Everywhere Column.Admits ∧
      ∀ q, s.profile.parse text = .ok q → q.noFormat = false → t.Everywhere Column.Describes := by
  obtain ⟨t, hrun, htable⟩ := respond_isOk h
  obtain ⟨q, raw, hparse, -, hfinish⟩ := exists_of_run hrun
  obtain ⟨hadmits, hdescribes⟩ := everywhere_finish hfinish
  refine ⟨t, htable, hadmits.rectangular, hadmits, fun q' hq' hformat => ?_⟩
  have hsame : q = q' := Except.ok.inj (hparse.symm.trans hq')
  exact hdescribes (hsame ▸ hformat)

/-- A leap second, a date with a time of day, and a text for a truth value are put into order. -/
theorem respond_typed_leapSecond :
    let raw : Table :=
      { columns := [⟨"b", "", .boolean, "", none⟩, ⟨"max(t)", "", .timeOfDay, "", none⟩,
          ⟨"max(d)", "", .date, "", none⟩]
        rows := [[⟨some (.string "1"), none⟩, ⟨some (.string "23:59:60.5"), none⟩,
          ⟨some (.string "2016-12-31 23:59:60"), none⟩]] }
    let response := (serving raw).respond "select max(t), max(d) pivot b"
    response.isOk = true ∧ ∃ t, response.table? = some t ∧ t.Rectangular ∧
      t.Everywhere Column.Admits ∧ t.Everywhere Column.Describes := by
  intro raw response
  have hok : response.isOk = true := by decide +kernel
  obtain ⟨q, hq, hformat⟩ := exists_eq_ok
    ((serving raw).profile.parse "select max(t), max(d) pivot b")
    (fun q => decide (q.noFormat = false)) (by decide +kernel)
  obtain ⟨t, htable, hrect, hadmits, hdescribes⟩ := respond_typed hok
  exact ⟨hok, t, htable, hrect, hadmits, hdescribes q hq (of_decide_eq_true hformat)⟩

end Session

end ChartQuery
