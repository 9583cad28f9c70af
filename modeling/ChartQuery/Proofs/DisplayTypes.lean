import ChartQuery.Proofs.KeptTexts
import ChartQuery.Proofs.Labelling
import ChartQuery.Proofs.Reconversion

/-!
# Display types and the patterns that support them

The type that a column is shown as is taken from a table, by what its pattern is a pattern for and
by the type of its data.  The conversion of the column reads the pattern a second time, now as a
pattern of that type.  So each entry of the table has to be a type that the pattern supports
(`PatternKinds.supports`).

There is one entry that is not (`PatternKinds.supports_displayType`): truth values with a
pattern for dates are shown as truth values.  A conversion for truth values needs a colon between
the words, while a pattern counts as one for truth values if it has exactly one.  So the conversion
fails there exactly for patterns without a colon, and patterns with several colons are cut at the
first one.
-/

namespace ChartQuery

/-- A text is cut exactly if it has the separator. -/
lemma Text.cut?_eq_none_iff {sep : Char} {s : String} : cut? sep s = none ↔ sep ∉ s.toList := by
  have hdrop : s.toList.dropWhile (· != sep) = [] ↔ sep ∉ s.toList := by
    rw [List.dropWhile_eq_nil_iff]
    constructor
    · intro h hmem
      have hne := h sep hmem
      simp at hne
    · intro h c hc
      rw [bne_iff_ne]
      rintro rfl
      exact h hc
  rw [← hdrop]
  unfold cut?
  split
  · next hnil => exact iff_of_true rfl hnil
  · next hcons => exact iff_of_false nofun (hcons ▸ nofun)

/-! ## The table of display types -/

namespace PatternKinds

/-- Whether what is a pattern for `k` is a pattern for a type.  Strings need none. -/
def supports (k : PatternKinds) : ColumnType → Bool
  | .string => true
  | .boolean => k.boolean
  | .number => k.number
  | .date | .timeOfDay | .dateTime => k.date || k.time

/-- **The table of display types.**  Every pattern supports the types that columns are shown as
under it, except that truth values under what is a pattern for dates only stay truth values. -/
lemma supports_displayType {k : PatternKinds} (hk : k.mask ≠ 0) {native : ColumnType}
    (hstays : ¬ (native = .boolean ∧ k.mask = 4)) : k.supports (k.displayType native) = true := by
  obtain ⟨boolean, number, date, time⟩ := k
  revert boolean number date time
  cases native <;> decide

/-- Under a pattern for dates only truth values stay truth values. -/
lemma displayType_of_mask {k : PatternKinds} (hk : k.mask = 4) :
    k.displayType .boolean = .boolean := by
  rw [displayType, hk]
  rfl

/-- A pattern for dates and nothing else. -/
def IsDateOnly (s : String) : Prop := (classify s).map mask = .ok 4

instance (s : String) : Decidable (IsDateOnly s) := inferInstanceAs (Decidable (_ = _))

/-- What a text that is classified is a pattern for. -/
lemma isDateOnly_iff {s : String} {k : PatternKinds} (h : classify s = .ok k) :
    IsDateOnly s ↔ k.mask = 4 := by
  rw [IsDateOnly, h]
  exact ⟨Except.ok.inj, congrArg Except.ok⟩

/-- What is a pattern at all is one for something. -/
lemma mask_ne_zero {s : String} {k : PatternKinds} (h : classify s = .ok k) : k.mask ≠ 0 := by
  unfold classify at h
  dsimp only at h
  split at h
  · cases h
  · next hmask =>
    cases h
    exact hmask

end PatternKinds

/-! ## Conversions of labelled columns -/

namespace Column

variable {c c' : Column} {f : Failure}

/-- The pattern that stands for none is not one for dates. -/
lemma not_isDateOnly_general : ¬ PatternKinds.IsDateOnly general := by decide +kernel

/-- A column has a conversion if its pattern supports its type. -/
lemma exists_ofColumn_of_supports (hgeneral : c.isGeneral = false)
    (h : (PatternKinds.ofText c.pattern).supports c.type = true) :
    ∃ k, Conversion.ofColumn c = .ok k := by
  unfold Conversion.ofColumn
  rw [hgeneral]
  cases htype : c.type with
  | boolean =>
    rw [htype] at h
    have hcount : c.pattern.toList.count ':' = 1 := beq_iff_eq.1 h
    have hcolon : Text.cut? ':' c.pattern ≠ none := by
      rw [ne_eq, Text.cut?_eq_none_iff, not_not]
      exact List.count_pos_iff.1 (hcount ▸ Nat.one_pos)
    obtain ⟨⟨truthy, falsy⟩, hcut⟩ := Option.ne_none_iff_exists'.1 hcolon
    simp [hcut]
  | number =>
    rw [htype] at h
    obtain ⟨p, hp⟩ := Option.isSome_iff_exists.1 h
    simp [hp]
  | string => exact ⟨_, rfl⟩
  | date | timeOfDay | dateTime =>
    rw [htype] at h
    have hparsed : (DatePattern.parse? c.pattern).isSome = true := by
      rcases Bool.or_eq_true_iff.1 h with h | h
      · exact (Bool.and_eq_true_iff.1 h).1
      · exact (Bool.and_eq_true_iff.1 h).1
    obtain ⟨p, hp⟩ := Option.isSome_iff_exists.1 hparsed
    simp [hp]

/-- A conversion for truth values needs a colon in the pattern and nothing else. -/
lemma ofColumn_eq_error_iff_of_boolean (hgeneral : c.isGeneral = false)
    (htype : c.type = .boolean) :
    Conversion.ofColumn c = .error f ↔
      ':' ∉ c.pattern.toList ∧ f = .wrongPattern .boolean c.pattern := by
  rw [← Text.cut?_eq_none_iff]
  unfold Conversion.ofColumn
  rw [htype, hgeneral]
  cases Text.cut? ':' c.pattern with
  | none => simp [eq_comm]
  | some words => simp

/-- **Columns without a conversion.**  A column whose type is decided on has no conversion exactly
if its data are truth values and its pattern is one for dates only, without a colon. -/
lemma ofColumn_eq_error_iff_of_resolve (h : c.resolve = .ok c') :
    Conversion.ofColumn c' = .error f ↔
      (c.type = .boolean ∧ PatternKinds.IsDateOnly c'.pattern ∧ ':' ∉ c'.pattern.toList) ∧
        f = .wrongPattern .boolean c'.pattern := by
  have hnone {c : Column} (hok : ∃ k, Conversion.ofColumn c = .ok k) :
      Conversion.ofColumn c ≠ .error f := by
    obtain ⟨k, hk⟩ := hok
    rw [hk]
    exact nofun
  obtain ⟨-, -, hno, hparticular⟩ := resolve_eq_ok_iff.1 h
  by_cases hgeneral : c.isGeneral = true
  · obtain ⟨hpattern, -⟩ := hno (isGeneral_iff.1 hgeneral)
    have hgeneral' : c'.isGeneral = true := isGeneral_iff.2 (.inr hpattern)
    refine iff_of_false (hnone (Conversion.exists_ofColumn_of_isGeneral hgeneral')) ?_
    rintro ⟨⟨-, hdate, -⟩, -⟩
    exact not_isDateOnly_general (hpattern ▸ hdate)
  · obtain ⟨hempty, hne⟩ := not_or.1 (isGeneral_iff.not.1 hgeneral)
    obtain ⟨hpattern, -, k, hk, htype⟩ := hparticular hempty hne
    have hgeneral' : c'.isGeneral = false := by
      rw [isGeneral, hpattern]
      exact Bool.eq_false_iff.2 hgeneral
    rw [← hpattern] at hk
    rw [PatternKinds.isDateOnly_iff hk]
    by_cases hstays : c.type = .boolean ∧ k.mask = 4
    · rw [hstays.1, PatternKinds.displayType_of_mask hstays.2] at htype
      rw [ofColumn_eq_error_iff_of_boolean hgeneral' htype, and_iff_right hstays.1,
        and_iff_right hstays.2]
    · have hsupports := PatternKinds.supports_displayType (PatternKinds.mask_ne_zero hk) hstays
      rw [← htype, classify_eq_ok hk] at hsupports
      refine iff_of_false (hnone (exists_ofColumn_of_supports hgeneral' hsupports)) ?_
      rintro ⟨⟨hboolean, hmask, -⟩, -⟩
      exact hstays ⟨hboolean, hmask⟩

end Column

namespace Table

variable {q : Query} {t t' : Table} {cs cs' : List Column}

/-- Selections do not change the types of data. -/
lemma map_type_selectColumns (ss : List Selection) (cs : List Column) :
    (selectColumns ss cs).map Column.type = cs.map Column.type := by
  induction ss generalizing cs with
  | nil => rfl
  | cons s ss ih =>
    cases cs with
    | nil => rfl
    | cons c cs =>
      rw [selectColumns, List.map_cons, List.map_cons, ih]
      rfl

/-- Labels and formats do not change the types of data. -/
lemma map_type_annotateColumns (h : annotateColumns q cs = .ok cs') :
    cs'.map Column.type = cs.map Column.type := by
  unfold annotateColumns at h
  by_cases hstar : q.star = true
  · rw [if_pos hstar] at h
    cases h
    induction q.selections generalizing cs with
    | nil => rfl
    | cons s ss ih =>
      rw [List.foldl_cons, ih, annotateNamed, List.map_map]
      refine List.map_congr_left fun c _ => ?_
      rw [Function.comp_apply]
      split <;> rfl
  · rw [if_neg hstar] at h
    dsimp only at h
    split at h
    · cases h
    · cases h
      rw [List.map_append, map_type_selectColumns, ← List.map_append, List.take_append_drop]

/-- Each column of a labelled table comes from a column with the type of its data. -/
lemma exists_resolve_of_assignLabels (h : (assignLabels q t).toExcept = .ok t') {i : ℕ}
    {c c' : Column} (hc : t.columns[i]? = some c) (hc' : t'.columns[i]? = some c') :
    ∃ a : Column, a.type = c.type ∧ a.resolve = .ok c' := by
  obtain ⟨⟨cs, hcs, hresolved⟩, -⟩ := assignLabels_eq_ok h
  have htypes : (cs.map Column.type)[i]? = some c.type := by
    rw [map_type_annotateColumns hcs, List.getElem?_map, hc, Option.map_some]
  rw [List.getElem?_map] at htypes
  obtain ⟨a, ha, htype⟩ := Option.map_eq_some_iff.1 htypes
  exact ⟨a, htype, (forall₂_iff_getElem?.1 hresolved).2 i a c' ha hc'⟩

/-- The table that a text labels a table to. -/
lemma exists_labelled (text : String) (t t' : Table)
    (h : ((Query.parse text false).toOption.any fun q =>
      (assignLabels q t).toExcept.toOption.any fun r => decide (r = t')) = true) :
    ∃ q, Query.parse text false = .ok q ∧ (assignLabels q t).toExcept = .ok t' := by
  obtain ⟨q, hparse, htest⟩ := exists_eq_ok _ _ h
  obtain ⟨r, hr, hsame⟩ := exists_eq_ok _ _ htest
  exact ⟨q, hparse, by rw [hr, of_decide_eq_true hsame]⟩

/-- **Which labelled columns cannot be converted.**  The conversion for a column of a labelled table
is refused exactly if the data are truth values and the pattern is one for dates only, without a
colon; the error names the pattern.  All other columns have a conversion, whatever the types of
their data and their patterns. -/
theorem ofColumn_eq_error_iff_of_labelled (h : (assignLabels q t).toExcept = .ok t') {i : ℕ}
    {c c' : Column} (hc : t.columns[i]? = some c) (hc' : t'.columns[i]? = some c') (f : Failure) :
    Conversion.ofColumn c' = .error f ↔
      (c.type = .boolean ∧ (PatternKinds.classify c'.pattern).map PatternKinds.mask = .ok 4 ∧
        ':' ∉ c'.pattern.toList) ∧ f = .wrongPattern .boolean c'.pattern := by
  obtain ⟨a, htype, ha⟩ := exists_resolve_of_assignLabels h hc hc'
  rw [← htype]
  exact Column.ofColumn_eq_error_iff_of_resolve ha

/-- Truth values cannot be shown with a pattern for dates, and numbers can. -/
theorem ofColumn_eq_error_iff_of_labelled_dates :
    let text := "select b, n format b 'dd-MM', n 'dd-MM'"
    let b : Column := ⟨"b", "", .boolean, "", none⟩
    let n : Column := ⟨"n", "", .number, "", none⟩
    let b' : Column := ⟨"b", "", .boolean, "dd-MM", some .boolean⟩
    let n' : Column := ⟨"n", "", .date, "dd-MM", some .number⟩
    ∃ q, Query.parse text false = .ok q ∧
      (assignLabels q ⟨[b, n], []⟩).toExcept = .ok ⟨[b', n'], []⟩ ∧
      Conversion.ofColumn b' = .error (.wrongPattern .boolean "dd-MM") ∧
      ∀ f, Conversion.ofColumn n' ≠ .error f := by
  intro text b n b' n'
  obtain ⟨q, hparse, hlabelled⟩ :=
    exists_labelled text ⟨[b, n], []⟩ ⟨[b', n'], []⟩ (by decide +kernel)
  have hiff {i : ℕ} {c c' : Column} (hc : [b, n][i]? = some c) (hc' : [b', n'][i]? = some c')
      (f : Failure) := ofColumn_eq_error_iff_of_labelled hlabelled hc hc' f
  refine ⟨q, hparse, hlabelled, (hiff (i := 0) rfl rfl _).2 ⟨⟨rfl, ?_, ?_⟩, rfl⟩, fun f hf => ?_⟩
  · decide +kernel
  · decide +kernel
  · exact nomatch ((hiff (i := 1) rfl rfl f).1 hf).1.1

/-- **A pattern for dates can be taken for two words.**  It has two colons, so it is not one for
truth values, and still a column of truth values is converted with what is before and after the
first of them. -/
theorem ofColumn_two_colons :
    let b : Column := ⟨"b", "", .boolean, "", none⟩
    let b' : Column := ⟨"b", "", .boolean, "d::M", some .boolean⟩
    (∃ q, Query.parse "select b format b 'd::M'" false = .ok q ∧
      (assignLabels q ⟨[b], []⟩).toExcept = .ok ⟨[b'], []⟩) ∧
    (PatternKinds.classify "d::M").map PatternKinds.mask = .ok 4 ∧
    ∀ f, Conversion.ofColumn b' ≠ .error f := by
  intro b b'
  have hlabelled := exists_labelled "select b format b 'd::M'" ⟨[b], []⟩ ⟨[b'], []⟩
    (by decide +kernel)
  refine ⟨hlabelled, by decide +kernel, fun f hf => ?_⟩
  obtain ⟨hcolon, -⟩ := (Column.ofColumn_eq_error_iff_of_boolean (by decide) rfl).1 hf
  exact absurd (by decide) hcolon

end Table

end ChartQuery
