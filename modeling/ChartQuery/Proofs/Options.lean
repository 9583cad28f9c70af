import ChartQuery.Proofs.Templates
import ChartQuery.Proofs.Typing
import ChartQuery.Response.Csv

/-!
# What options leave of a result

A query may ask for values or for texts to be left out.  That is done cell by cell and changes
nothing else: neither whether the query succeeds, nor the columns, nor the order of the rows.

All of this is shown for two runs side by side.  Each stage of the work does the same in both runs
as long as related cells have the same text, since a pivot looks at texts only.  So the results of
two runs are related cell by cell, in the way in which single cells are.

Statements do not tell the options, except for those in the query language itself.  There the source
may heed them, and what it answers is for the source to say.
-/

namespace ChartQuery

open Sql (Outcome)

/-! ## Two runs of work -/

/-- Related lists become equal if related elements become equal. -/
lemma map_congr_of_forall₂ {α β γ : Type} {R : α → β → Prop} {f : α → γ} {g : β → γ}
    (hfg : ∀ a b, R a b → f a = g b) {as : List α} {bs : List β} (h : List.Forall₂ R as bs) :
    as.map f = bs.map g := by
  have himages : List.Forall₂ Eq (as.map f) (bs.map g) := List.rel_map hfg h
  rwa [List.forall₂_eq_eq_eq] at himages

namespace Progress

variable {α β : Type}

/-- The result of work on a part of something larger. -/
lemma toExcept_map (f : α → β) (p : Progress α) :
    (p.map f).toExcept = p.toExcept >>= fun a => .ok (f a) := by
  obtain ⟨value, failure?⟩ := p
  cases failure? <;> rfl

/-- The result of work and more work. -/
lemma toExcept_andThen (p : Progress α) (next : α → Progress α) :
    (p.andThen next).toExcept = p.toExcept >>= fun a => (next a).toExcept := by
  obtain ⟨value, failure?⟩ := p
  cases failure? <;> rfl

/-- Work on two lists ends alike if it does so on each pair of elements. -/
lemma outcome_each {R : α → β → Prop} {f : α → Except Failure α} {g : β → Except Failure β}
    {as : List α} {bs : List β} (h : List.Forall₂ (fun a b => Outcome R (f a) (g b)) as bs) :
    Outcome (List.Forall₂ R) (each f as).toExcept (each g bs).toExcept := by
  induction h with
  | nil => exact .ok .nil
  | @cons a b as bs hab _ ih =>
    unfold each
    generalize f a = x at hab
    generalize g b = y at hab
    cases hab with
    | error e => exact .error e
    | ok hab =>
      dsimp only
      rw [toExcept_map, toExcept_map]
      exact ih.bind fun as' bs' hrest => .ok (.cons hab hrest)

end Progress

namespace Table

variable {R : Cell → Cell → Prop} {o o' : FormatOptions} {q : Query} {t t' : Table}
  {r r' : Row}

/-- `Related R t t'`: two tables have the same columns, as many rows, and related cells at the same
places of rows that are equally long. -/
structure Related (R : Cell → Cell → Prop) (t t' : Table) : Prop where
  columns : t.columns = t'.columns
  rows : List.Forall₂ (List.Forall₂ R) t.rows t'.rows

/-! ## Conversion under two options -/

/-- `Twin R width i r r'`: two rows of the same width that had the same cells are converted up to
the place `i`, where their cells are related; from there on their cells are the same. -/
structure Twin (R : Cell → Cell → Prop) (width i : Nat) (r r' : Row) : Prop where
  length_left : r.length = width
  length_right : r'.length = width
  before : ∀ j < i, ∀ a b, r[j]? = some a → r'[j]? = some b → R a b
  after : ∀ j, i ≤ j → r[j]? = r'[j]?

/-- Rows that are converted up to their end are related cell by cell. -/
lemma Twin.forall₂ {width : Nat} (h : Twin R width width r r') : List.Forall₂ R r r' := by
  refine forall₂_iff_getElem?.2 ⟨h.length_left.trans h.length_right.symm, fun j a b ha hb => ?_⟩
  have hj : j < width := h.length_left ▸ (List.getElem?_eq_some_iff.1 ha).1
  exact h.before j hj a b ha hb

/-- A cell that is converted under two options. -/
lemma outcome_convertAt {c : Column} {k : Conversion} {width i : Nat}
    (hR : ∀ a b b', Shown o c a b → Shown o' c a b' → R b b') (hk : Conversion.ofColumn c = .ok k)
    (h : Twin R width i r r') :
    Outcome (Twin R width (i + 1)) (convertAt k o (c.type == .string) i r)
      (convertAt k o' (c.type == .string) i r') := by
  have hhere := h.after i le_rfl
  unfold convertAt
  rw [← hhere]
  cases hcell : r[i]? with
  | none =>
    refine .ok ⟨h.length_left, h.length_right, fun j hj a b ha hb => ?_,
      fun j hj => h.after j (by omega)⟩
    have hlt : j < i := by
      have hlength := List.getElem?_eq_none_iff.1 hcell
      have hplace := (List.getElem?_eq_some_iff.1 ha).1
      omega
    exact h.before j hlt a b ha hb
  | some a =>
    dsimp only
    cases hd : k.apply a with
    | error f => exact .error f
    | ok d =>
      have hi : i < r.length := (List.getElem?_eq_some_iff.1 hcell).1
      have hi' : i < r'.length := (List.getElem?_eq_some_iff.1 (hhere.symm.trans hcell)).1
      refine .ok ⟨List.length_set.trans h.length_left, List.length_set.trans h.length_right,
        fun j hj b b' hb hb' => ?_, fun j hj => ?_⟩
      · by_cases hji : j = i
        · subst hji
          rw [List.getElem?_set_self hi] at hb
          rw [List.getElem?_set_self hi'] at hb'
          cases hb
          cases hb'
          exact hR a _ _ ⟨k, d, hk, hd, rfl⟩ ⟨k, d, hk, hd, rfl⟩
        · rw [List.getElem?_set_ne (Ne.symm hji)] at hb hb'
          exact h.before j (by omega) b b' hb hb'
      · have hne : i ≠ j := by omega
        rw [List.getElem?_set_ne hne, List.getElem?_set_ne hne]
        exact h.after j (by omega)

/-- Columns that are converted under two options. -/
lemma outcome_convertColumns {cs : List Column} {width i : Nat} {rows rows' : List Row}
    (hR : ∀ c a b b', Shown o c a b → Shown o' c a b' → R b b')
    (h : List.Forall₂ (Twin R width i) rows rows') :
    Outcome (List.Forall₂ (Twin R width (i + cs.length))) (convertColumns o i cs rows).toExcept
      (convertColumns o' i cs rows').toExcept := by
  induction cs generalizing i rows rows' with
  | nil => exact .ok h
  | cons c cs ih =>
    have hcolumn : Outcome (List.Forall₂ (Twin R width (i + 1)))
        (convertColumn o i c rows).toExcept (convertColumn o' i c rows').toExcept := by
      unfold convertColumn
      cases hk : Conversion.ofColumn c with
      | error f => exact .error f
      | ok k =>
        exact Progress.outcome_each (h.imp fun _ _ hrow => outcome_convertAt (hR c) hk hrow)
    rw [convertColumns, convertColumns, Progress.toExcept_andThen, Progress.toExcept_andThen,
      List.length_cons, ← Nat.add_assoc, Nat.add_right_comm]
    exact hcolumn.bind fun _ _ hrows => ih hrows

/-- **A table under two options** is converted in both cases, to related tables, or it fails in both
cases with the same failure. -/
theorem outcome_applyFormats (hR : ∀ c a b b', Shown o c a b → Shown o' c a b' → R b b')
    (t : Table) :
    Outcome (Related R) (applyFormats o t).toExcept (applyFormats o' t).toExcept := by
  unfold applyFormats
  rcases checkShape_cases t with ⟨hrect, hok⟩ | ⟨-, f, herror, -⟩
  · have hsame : List.Forall₂ (Twin R t.columns.length 0) t.rows t.rows :=
      List.forall₂_same.2 fun r hr =>
        ⟨hrect r hr, hrect r hr, fun _ hj => absurd hj (Nat.not_lt_zero _), fun _ _ => rfl⟩
    have hcolumns : Outcome (List.Forall₂ (Twin R t.columns.length (0 + t.columns.length)))
        (convertColumns o 0 t.columns t.rows).toExcept
        (convertColumns o' 0 t.columns t.rows).toExcept := outcome_convertColumns hR hsame
    rw [Nat.zero_add] at hcolumns
    rw [hok]
    dsimp only
    rw [Progress.toExcept_map, Progress.toExcept_map]
    exact hcolumns.bind fun _ _ hrows => .ok ⟨rfl, hrows.imp fun _ _ hrow => hrow.forall₂⟩
  · rw [herror]
    exact .error f

/-! ## Pivots of related tables -/

section Pivot

variable {n m : Nat} {width offset : Nat}

/-- The key of a row is made of texts. -/
lemma pivotKey_congr (htext : ∀ a b, R a b → a.text = b.text) (h : List.Forall₂ R r r') :
    pivotKey n r = pivotKey n r' := by
  rw [pivotKey, pivotKey, map_congr_of_forall₂ htext (List.forall₂_take n h)]

/-- The group of a row is made of texts. -/
lemma groupKey_congr (htext : ∀ a b, R a b → a.text = b.text) (h : List.Forall₂ R r r') :
    groupKey n m r = groupKey n m r' := by
  have hcells := List.forall₂_take m (List.forall₂_drop n h)
  have htexts := map_congr_of_forall₂ (f := fun c => "\t" ++ c.text) (g := fun c => "\t" ++ c.text)
    (fun a b hab => congrArg ("\t" ++ ·) (htext a b hab)) hcells
  rw [groupKey, groupKey, htexts]

/-- New rows of related cells. -/
lemma forall₂_freshCells (hnull : R .null .null) (marks : List Bool) (h : List.Forall₂ R r r') :
    List.Forall₂ R (freshCells width marks r) (freshCells width marks r') := by
  induction marks generalizing r r' with
  | nil => exact .nil
  | cons isGroup marks ih =>
    cases h with
    | nil => exact .nil
    | cons hcell hrest =>
      rw [freshCells, freshCells]
      refine List.rel_append ?_ (ih hrest)
      split
      · exact .cons hcell .nil
      · exact List.forall₂_iff_get.2 ⟨rfl, fun i _ _ => by simpa using hnull⟩

/-- Related cells are put to the same place. -/
lemma forall₂_set {a b : Cell} (hab : R a b) (h : List.Forall₂ R r r') (i : Nat) :
    List.Forall₂ R (r.set i a) (r'.set i b) := by
  induction h generalizing i with
  | nil => exact .nil
  | cons hcell hrest ih =>
    cases i with
    | zero => exact .cons hab hrest
    | succ i => exact .cons hcell (ih i)

/-- Related cells are put to the places of their keys. -/
lemma forall₂_placeCells (marks : List Bool) {out out' : Row} (h : List.Forall₂ R r r')
    (hout : List.Forall₂ R out out') :
    List.Forall₂ R (placeCells width offset marks r out)
      (placeCells width offset marks r' out') := by
  induction marks generalizing r r' out out' with
  | nil => exact hout
  | cons isGroup marks ih =>
    cases h with
    | nil => exact hout
    | cons hcell hrest =>
      rw [placeCells, placeCells]
      split
      · exact List.rel_append (List.forall₂_take 1 hout)
          (ih hrest (List.forall₂_drop 1 hout))
      · exact List.rel_append (forall₂_set hcell (List.forall₂_take width hout) offset)
          (ih hrest (List.forall₂_drop width hout))

/-- `SameGroup R x x'`: two rows of groups have the same group and related cells. -/
def SameGroup (R : Cell → Cell → Prop) (x x' : String × Row) : Prop :=
  x.1 = x'.1 ∧ List.Forall₂ R x.2 x'.2

/-- Rows of one group are changed alike. -/
lemma forall₂_updateGroup (key : String) {fresh fresh' : Row} {change change' : Row → Row}
    (hfresh : List.Forall₂ R fresh fresh')
    (hchange : ∀ r r', List.Forall₂ R r r' → List.Forall₂ R (change r) (change' r'))
    {gs gs' : List (String × Row)} (h : List.Forall₂ (SameGroup R) gs gs') :
    List.Forall₂ (SameGroup R) (updateGroup key fresh change gs)
      (updateGroup key fresh' change' gs') := by
  induction h with
  | nil => exact .cons ⟨rfl, hchange _ _ hfresh⟩ .nil
  | @cons x x' gs gs' hx hrest ih =>
    obtain ⟨k, r⟩ := x
    obtain ⟨k', r'⟩ := x'
    obtain ⟨rfl, hr⟩ := hx
    rw [updateGroup, updateGroup]
    split
    · exact .cons ⟨rfl, hchange _ _ hr⟩ hrest
    · exact .cons ⟨rfl, hr⟩ ih

/-- One more row is folded in alike. -/
lemma forall₂_foldRow (hnull : R .null .null) (htext : ∀ a b, R a b → a.text = b.text)
    (keys : List String) (marks : List Bool) {gs gs' : List (String × Row)}
    (hgs : List.Forall₂ (SameGroup R) gs gs') (h : List.Forall₂ R r r') :
    List.Forall₂ (SameGroup R) (foldRow n m keys marks gs r) (foldRow n m keys marks gs' r') := by
  have hcells := List.forall₂_drop (n + m) h
  unfold foldRow
  rw [groupKey_congr htext h, pivotKey_congr htext h]
  exact forall₂_updateGroup _ (forall₂_freshCells hnull marks hcells)
    (fun _ _ hout => forall₂_placeCells marks hcells hout) hgs

/-- **Related tables are pivoted to related tables.** -/
lemma related_pivoted (hnull : R .null .null) (htext : ∀ a b, R a b → a.text = b.text)
    (h : Related R t t') : Related R (pivoted q t) (pivoted q t') := by
  have hkeys (n : Nat) : t.rows.map (pivotKey n) = t'.rows.map (pivotKey n) :=
    map_congr_of_forall₂ (fun _ _ hrow => pivotKey_congr htext hrow) h.rows
  have hgroups (n m : Nat) (keys : List String) (marks : List Bool) :
      List.Forall₂ (SameGroup R) (t.rows.foldl (foldRow n m keys marks) [])
        (t'.rows.foldl (foldRow n m keys marks) []) := by
    refine List.rel_foldl (P := List.Forall₂ (SameGroup R)) (R := List.Forall₂ R) ?_ .nil h.rows
    exact fun _ _ hgs _ _ hrow => forall₂_foldRow hnull htext keys marks hgs hrow
  unfold pivoted
  dsimp only
  rw [← hkeys, ← h.columns]
  exact ⟨rfl, List.rel_map (fun _ _ hx => hx.2) (hgroups _ _ _ _)⟩

/-- Tables with the same columns and rows of the same lengths pass the check of their shape
alike. -/
lemma checkShape_congr (h : Related R t t') : t.checkShape = t'.checkShape := by
  have hlengths : t.rows.map List.length = t'.rows.map List.length :=
    map_congr_of_forall₂ (fun _ _ hrow => hrow.length_eq) h.rows
  have hcheck (t : Table) : t.checkShape =
      ((t.rows.map List.length).findIdx? (· != t.columns.length)).elim (.ok ()) fun i =>
        .error (.rowWidth i ((t.rows.map List.length).getD i 0) t.columns.length) := by
    unfold checkShape
    rw [List.findIdx?_map]
    change _ = (t.rows.findIdx? fun r => r.length != t.columns.length).elim _ _
    cases t.rows.findIdx? fun r => r.length != t.columns.length with
    | none => rfl
    | some i =>
      simp only [Option.elim_some, List.getD_eq_getElem?_getD, List.getElem?_map]
      cases t.rows[i]? <;> rfl
  rw [hcheck, hcheck, hlengths, h.columns]

/-- **A pivot of related tables** succeeds in both cases, with related results, or it fails in both
cases with the same failure. -/
lemma outcome_pivot (hnull : R .null .null) (htext : ∀ a b, R a b → a.text = b.text)
    (h : Related R t t') :
    Outcome (Related R) (pivot q t).toExcept (pivot q t').toExcept := by
  unfold pivot
  dsimp only
  rw [← checkShape_congr h, ← h.columns]
  split
  · exact .error _
  · cases t.checkShape with
    | error f => exact .error f
    | ok _ => exact .ok (related_pivoted hnull htext h)

end Pivot

/-! ## What is left of a cell -/

/-- `Remains o full a`: the cell `a` is what is left of the cell `full` under options.  Its value is
there or is left out, and its text, unless it is left out, is the text that `full` is shown as. -/
structure Remains (o : FormatOptions) (full a : Cell) : Prop where
  value : a.value? = full.value? ∨ o.noValues = true ∧ a.value? = none
  text : o.noFormat = false → a.text = full.text
  erased : o.noFormat = true → a.text? = none

/-- What is shown of a cell under two options comes from one converted cell. -/
lemma Shown.exists_converted {c : Column} {a b b' : Cell} (h : Shown o c a b)
    (h' : Shown o' c a b') : ∃ d, c.Describes d ∧ b = o.restrict (c.type == .string) d ∧
      b' = o'.restrict (c.type == .string) d := by
  obtain ⟨k, d, hk, hd, hb⟩ := h
  exact ⟨d, (Conversion.suits_apply hk hd).2, hb, h'.unique ⟨k, d, hk, hd, rfl⟩⟩

/-- A converted cell without its value has the same text. -/
lemma text_withoutValue {c : Column} {d : Cell} (h : c.Describes d) :
    (FormatOptions.withoutValue (c.type == .string) d).text = d.text := by
  obtain ⟨value?, text?⟩ := d
  cases text? with
  | some text => simp [FormatOptions.withoutValue, Cell.text]
  | none =>
    cases value? with
    | none => simp [FormatOptions.withoutValue, Cell.text]
    | some v =>
      by_cases hnull : v = .null
      · subst hnull
        cases hstring : c.type == .string <;> rfl
      · by_cases hstring : c.type = .string
        · have hkept : (some v).filter (fun w => !w.isNull) = some v := by
            simp [Option.filter, Value.isNull, hnull]
          simp [FormatOptions.withoutValue, Cell.text, hstring, hkept]
        · have htext := h v rfl hnull hstring
          cases htext

/-- Leaving out values keeps the texts of all cells. -/
lemma remains_of_shown {c : Column} {a b b' : Cell} (h : Shown ⟨false, false⟩ c a b)
    (h' : Shown ⟨true, false⟩ c a b') : Remains ⟨true, false⟩ b b' := by
  obtain ⟨d, hdescribes, rfl, rfl⟩ := h.exists_converted h'
  exact ⟨.inr ⟨rfl, rfl⟩, fun _ => text_withoutValue hdescribes, nofun⟩

/-- Leaving out texts takes the texts from what is shown otherwise. -/
lemma stripped_of_shown {c : Column} {a b b' : Cell} {noValues : Bool}
    (h : Shown ⟨noValues, false⟩ c a b) (h' : Shown ⟨noValues, true⟩ c a b') :
    b' = { b with text? := none } := by
  obtain ⟨d, -, rfl, rfl⟩ := h.exists_converted h'
  cases noValues <;> rfl

/-- A table whose cells have lost their texts. -/
lemma Related.eq_stripTexts (h : Related (fun a b => b = { a with text? := none }) t t') :
    t' = t.stripTexts := by
  have hrow (r r' : Row) (hr : List.Forall₂ (fun a b => b = { a with text? := none }) r r') :
      r.map (fun a : Cell => { a with text? := none }) = r' := by
    have hcells := map_congr_of_forall₂ (g := id) (fun _ _ hab => hab.symm) hr
    rwa [List.map_id] at hcells
  have hrows := map_congr_of_forall₂ (g := id) hrow h.rows
  rw [List.map_id] at hrows
  rw [stripTexts, hrows, h.columns]

/-- What is left of a table after its texts have been left out. -/
lemma Related.stripTexts {noValues : Bool} (h : Related (Remains ⟨noValues, false⟩) t t') :
    Related (Remains ⟨noValues, true⟩) t t'.stripTexts := by
  refine ⟨h.columns, List.forall₂_map_right_iff.2 (h.rows.imp fun r r' hr => ?_)⟩
  exact List.forall₂_map_right_iff.2 (hr.imp fun a b hab => ⟨hab.value, nofun, fun _ => rfl⟩)

/-- What is left of a table has the texts of the table, unless they are left out. -/
lemma Related.texts_eq (h : Related (Remains o) t t') (ho : o.noFormat = false) :
    t'.texts = t.texts :=
  (map_congr_of_forall₂ (fun _ _ hr =>
    map_congr_of_forall₂ (fun _ _ hab => (hab.text ho).symm) hr) h.rows).symm

end Table

/-! ## Queries that differ in their options -/

section Outcome

variable {α β : Type} {R : α → β → Prop} {x : Except Failure α} {y : Except Failure β}

/-- The results of two runs that end alike are related. -/
lemma related_of_outcome (h : Outcome R x y) {a : α} {b : β} (hx : x = .ok a) (hy : y = .ok b) :
    R a b := by
  subst hx hy
  cases h with
  | ok hab => exact hab

/-- The two ways in which two runs can end alike. -/
lemma outcome_cases (h : Outcome R x y) :
    (∃ f, x = .error f ∧ y = .error f) ∨ ∃ a b, x = .ok a ∧ y = .ok b := by
  cases h with
  | error f => exact .inl ⟨f, rfl, rfl⟩
  | ok _ => exact .inr ⟨_, _, rfl, rfl⟩

end Outcome

/-- The query with other options. -/
def Query.withOptions (q : Query) (o : FormatOptions) : Query :=
  { q with noFormat := o.noFormat, noValues := o.noValues }

namespace Session

open Table

variable {q : Query} {raw : Table}

/-- A query with options and without a pivot is finished when the cells are converted. -/
lemma finish_withOptions (hpivot : q.hasPivot = false) (o : FormatOptions) :
    finish (q.withOptions o) raw = converted q o raw :=
  finish_of_not_hasPivot (q := q.withOptions o) hpivot

/-- A query with options and with a pivot goes on with all texts. -/
lemma finish_withOptions_pivot (hpivot : q.hasPivot = true) (o : FormatOptions) :
    finish (q.withOptions o) raw = converted q ⟨o.noValues, false⟩ raw >>= fun shown =>
      (pivot q shown).toExcept >>= fun p => .ok (if o.noFormat then p.stripTexts else p) :=
  finish_of_hasPivot (q := q.withOptions o) hpivot

/-- Leaving out texts is the last thing that is done. -/
lemma outcome_finish_noFormat (q : Query) (noValues : Bool) (raw : Table) :
    Outcome (fun t t' => t' = t.stripTexts) (finish (q.withOptions ⟨noValues, false⟩) raw)
      (finish (q.withOptions ⟨noValues, true⟩) raw) := by
  cases hpivot : q.hasPivot with
  | false =>
    rw [finish_withOptions hpivot, finish_withOptions hpivot, converted, converted]
    cases (assignLabels q raw).toExcept with
    | error f => exact .error f
    | ok labelled =>
      exact (outcome_applyFormats (fun _ _ _ _ h h' => stripped_of_shown h h') labelled).mono
        fun _ _ h => h.eq_stripTexts
  | true =>
    rw [finish_withOptions_pivot hpivot, finish_withOptions_pivot hpivot]
    cases converted q ⟨noValues, false⟩ raw with
    | error f => exact .error f
    | ok shown =>
      rw [ok_bind, ok_bind]
      cases (pivot q shown).toExcept with
      | error f => exact .error f
      | ok p => exact .ok rfl

/-- Leaving out values changes no text. -/
lemma outcome_finish_noValues (q : Query) (raw : Table) :
    Outcome (Related (Remains ⟨true, false⟩)) (finish (q.withOptions ⟨false, false⟩) raw)
      (finish (q.withOptions ⟨true, false⟩) raw) := by
  have hconverted : Outcome (Related (Remains ⟨true, false⟩)) (converted q ⟨false, false⟩ raw)
      (converted q ⟨true, false⟩ raw) := by
    unfold converted
    cases (assignLabels q raw).toExcept with
    | error f => exact .error f
    | ok labelled => exact outcome_applyFormats (fun _ _ _ _ h h' => remains_of_shown h h') labelled
  cases hpivot : q.hasPivot with
  | false =>
    rw [finish_withOptions hpivot, finish_withOptions hpivot]
    exact hconverted
  | true =>
    rw [finish_withOptions_pivot hpivot, finish_withOptions_pivot hpivot]
    refine hconverted.bind fun shown shown' hshown => ?_
    have hnull : Remains ⟨true, false⟩ .null .null := ⟨.inl rfl, fun _ => rfl, nofun⟩
    have hpivoted : Outcome (Related (Remains ⟨true, false⟩)) (pivot q shown).toExcept
        (pivot q shown').toExcept :=
      outcome_pivot hnull (fun _ _ hab => (hab.text rfl).symm) hshown
    exact hpivoted.bind fun _ _ hp => .ok hp

/-- **What options leave.**  A query with options fails as the query without them does, or its
result is what is left of the result of the query without them. -/
lemma outcome_finish (q : Query) (o : FormatOptions) (raw : Table) :
    Outcome (Related (Remains o)) (finish (q.withOptions ⟨false, false⟩) raw)
      (finish (q.withOptions o) raw) := by
  obtain ⟨noValues, noFormat⟩ := o
  have hvalues : Outcome (Related (Remains ⟨noValues, false⟩))
      (finish (q.withOptions ⟨false, false⟩) raw)
      (finish (q.withOptions ⟨noValues, false⟩) raw) := by
    cases noValues with
    | true => exact outcome_finish_noValues q raw
    | false =>
      cases finish (q.withOptions ⟨false, false⟩) raw with
      | error f => exact .error f
      | ok t =>
        refine .ok ⟨rfl, List.forall₂_same.2 fun r _ => List.forall₂_same.2 fun a _ => ?_⟩
        exact ⟨.inl rfl, fun _ => rfl, nofun⟩
  cases noFormat with
  | false => exact hvalues
  | true =>
    have hformat := outcome_finish_noFormat q noValues raw
    generalize finish (q.withOptions ⟨false, false⟩) raw = x at hvalues ⊢
    generalize finish (q.withOptions ⟨noValues, false⟩) raw = y at hvalues hformat
    generalize finish (q.withOptions ⟨noValues, true⟩) raw = z at hformat ⊢
    cases hvalues with
    | error f =>
      cases hformat
      exact .error f
    | ok hvalues =>
      cases hformat with
      | ok hformat => exact .ok (hformat ▸ hvalues.stripTexts)

/-- `Projections o₁ o₂ full t₁ t₂`: two results under different options show the rows of the result
`full` in its order, in the same columns.  If values are left out in both or in none, the one
without texts is the other with its texts erased; if texts are shown in both, all texts are the
same. -/
structure Projections (o₁ o₂ : FormatOptions) (full t₁ t₂ : Table) : Prop where
  left : Related (Remains o₁) full t₁
  right : Related (Remains o₂) full t₂
  columns : t₁.columns = t₂.columns
  height : t₁.rows.length = t₂.rows.length
  erased : o₁.noValues = o₂.noValues → o₁.noFormat = false → o₂.noFormat = true →
    t₂ = t₁.stripTexts
  texts : o₁.noFormat = false → o₂.noFormat = false → t₁.texts = t₂.texts
  csv : o₁.noFormat = false → o₂.noFormat = false →
    Response.Csv.ofResponse (.ok t₁) = Response.Csv.ofResponse (.ok t₂)

/-- Two results of one answer under different options. -/
lemma projections_finish {o₁ o₂ : FormatOptions} {full t₁ t₂ : Table}
    (hfull : finish (q.withOptions ⟨false, false⟩) raw = .ok full)
    (h₁ : finish (q.withOptions o₁) raw = .ok t₁) (h₂ : finish (q.withOptions o₂) raw = .ok t₂) :
    Projections o₁ o₂ full t₁ t₂ := by
  have hleft := related_of_outcome (outcome_finish q o₁ raw) hfull h₁
  have hright := related_of_outcome (outcome_finish q o₂ raw) hfull h₂
  have hcolumns : t₁.columns = t₂.columns := hleft.columns.symm.trans hright.columns
  have htexts (ho₁ : o₁.noFormat = false) (ho₂ : o₂.noFormat = false) : t₁.texts = t₂.texts :=
    (hleft.texts_eq ho₁).trans (hright.texts_eq ho₂).symm
  refine
    { left := hleft
      right := hright
      columns := hcolumns
      height := hleft.rows.length_eq.symm.trans hright.rows.length_eq
      erased := fun hvalues ho₁ ho₂ => ?_
      texts := htexts
      csv := fun ho₁ ho₂ => ?_ }
  · obtain ⟨noValues, noFormat⟩ := o₁
    obtain ⟨noValues', noFormat'⟩ := o₂
    cases hvalues
    cases ho₁
    cases ho₂
    exact related_of_outcome (outcome_finish_noFormat q noValues raw) h₁ h₂
  · change Response.Csv.print (t₁.titles :: t₁.texts) = Response.Csv.print (t₂.titles :: t₂.texts)
    rw [htexts ho₁ ho₂, titles, hcolumns, titles]

/-- The answer to a query does not depend on its options unless they are a part of the statement. -/
lemma answer_withOptions {s : Session} (hdialect : s.profile.dialect ≠ .gql)
    (o₁ o₂ : FormatOptions) :
    s.answer (q.withOptions o₁) = s.answer (q.withOptions o₂) := by
  unfold answer Profile.compile
  cases hd : s.profile.dialect with
  | gql => exact absurd hd hdialect
  | mySql | postgreSql => rfl

/-- **Options only project the result.**  Let two queries differ in their options only.  In the
query language the statement tells the options, and the source has to give the same answer; in all
other dialects it is the same statement.  Then both queries fail, with the same failure, or both
succeed and show the rows of one result, that of the query without options. -/
theorem run_withOptions {s : Session} {text₁ text₂ : String} {o₁ o₂ : FormatOptions}
    (h₁ : s.profile.parse text₁ = .ok (q.withOptions o₁))
    (h₂ : s.profile.parse text₂ = .ok (q.withOptions o₂))
    (hgql : s.profile.dialect = .gql →
      s.source.fetch (q.withOptions o₁).toText = s.source.fetch (q.withOptions o₂).toText) :
    (∃ f, s.run text₁ = .error f ∧ s.run text₂ = .error f) ∨
      ∃ raw full t₁ t₂, s.answer (q.withOptions o₁) = .ok raw ∧
        finish (q.withOptions ⟨false, false⟩) raw = .ok full ∧
        s.run text₁ = .ok t₁ ∧ s.run text₂ = .ok t₂ ∧ Projections o₁ o₂ full t₁ t₂ := by
  have hanswer : s.answer (q.withOptions o₁) = s.answer (q.withOptions o₂) := by
    by_cases hdialect : s.profile.dialect = .gql
    · unfold answer Profile.compile
      rw [hdialect]
      exact congrArg (Except.mapError SourceError.toFailure) (hgql hdialect)
    · exact answer_withOptions hdialect o₁ o₂
  rw [run_of_parse h₁, run_of_parse h₂, ← hanswer]
  split
  · cases hraw : s.answer (q.withOptions o₁) with
    | error f => exact .inl ⟨f, rfl, rfl⟩
    | ok raw =>
      rw [ok_bind, ok_bind]
      rcases outcome_cases (outcome_finish q o₁ raw) with ⟨f, hfull, hf⟩ | ⟨full, t₁, hfull, ht₁⟩
      · rcases outcome_cases (outcome_finish q o₂ raw) with ⟨f', hfull', hf'⟩ | ⟨_, _, hfull', -⟩
        · have hsame : f = f' := Except.error.inj (hfull.symm.trans hfull')
          exact .inl ⟨f, hf, hsame ▸ hf'⟩
        · cases hfull.symm.trans hfull'
      · rcases outcome_cases (outcome_finish q o₂ raw) with ⟨_, hfull', -⟩ | ⟨_, t₂, -, ht₂⟩
        · cases hfull.symm.trans hfull'
        · exact .inr ⟨raw, full, t₁, t₂, rfl, hfull, ht₁, ht₂, projections_finish hfull ht₁ ht₂⟩
  · exact .inl ⟨_, rfl, rfl⟩

/-- Values are left out in one query and texts in the other, and both are pivoted by a string that
is shown as its value. -/
theorem run_withOptions_pivot :
    let s := serving (greatest [(.string "p", .string "x"), (.null, .string "y")])
    let text₁ := "select max(a) pivot b options no_values"
    let text₂ := "select max(a) pivot b options no_format"
    ∃ (q : Query) (full t₁ t₂ : Table), s.profile.parse text₁ = .ok (q.withOptions ⟨true, false⟩) ∧
      s.profile.parse text₂ = .ok (q.withOptions ⟨false, true⟩) ∧
      s.run text₁ = .ok t₁ ∧ s.run text₂ = .ok t₂ ∧
      Projections ⟨true, false⟩ ⟨false, true⟩ full t₁ t₂ := by
  intro s text₁ text₂
  obtain ⟨q, hq, htest⟩ := exists_eq_ok (s.profile.parse text₁)
    (fun q : Query => decide (q = q.withOptions ⟨true, false⟩ ∧
      s.profile.parse text₂ = .ok (q.withOptions ⟨false, true⟩))) (by decide +kernel)
  obtain ⟨hsame, h₂⟩ := of_decide_eq_true htest
  have h₁ : s.profile.parse text₁ = .ok (q.withOptions ⟨true, false⟩) := hsame ▸ hq
  rcases run_withOptions h₁ h₂ (fun hdialect => by cases hdialect) with
    ⟨f, hf, -⟩ | ⟨-, full, t₁, t₂, -, -, ht₁, ht₂, hprojections⟩
  · obtain ⟨t, ht, -⟩ := exists_eq_ok (s.run text₁) (fun _ => true) (by decide +kernel)
    cases hf.symm.trans ht
  · exact ⟨q, full, t₁, t₂, h₁, h₂, ht₁, ht₂, hprojections⟩

/-- **In the query language options can do more.**  There the statement tells the options, so a
source may answer one query and refuse the other. -/
theorem run_withOptions_refused :
    let t : Table := ⟨[⟨"a", "", .string, "", none⟩], [[⟨some (.string "x"), none⟩]]⟩
    let s : Session := ⟨⟨.gql, "emp", [], false⟩, ⟨true, fun statement =>
      if statement = "SELECT a" then .ok t else .error ⟨none, "no such statement", []⟩⟩⟩
    ∃ (q : Query) (t' : Table) (f : Failure),
      s.profile.parse "select a" = .ok (q.withOptions ⟨false, false⟩) ∧
      s.profile.parse "select a options no_format" = .ok (q.withOptions ⟨false, true⟩) ∧
      s.run "select a" = .ok t' ∧ s.run "select a options no_format" = .error f := by
  intro t s
  obtain ⟨q, hq, htest⟩ := exists_eq_ok (s.profile.parse "select a")
    (fun q : Query => decide (q = q.withOptions ⟨false, false⟩ ∧
      s.profile.parse "select a options no_format" = .ok (q.withOptions ⟨false, true⟩)))
    (by decide +kernel)
  obtain ⟨hsame, hformat⟩ := of_decide_eq_true htest
  obtain ⟨t', ht', -⟩ := exists_eq_ok (s.run "select a") (fun _ => true) (by decide +kernel)
  have hrefused : s.run "select a options no_format" =
      .error (.reported .invalidRequest "no such statement") := by decide +kernel
  exact ⟨q, t', _, hsame ▸ hq, hformat, ht', hrefused⟩

end Session

end ChartQuery
