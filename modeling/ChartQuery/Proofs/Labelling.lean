import ChartQuery.Proofs.QueryRecognition
import ChartQuery.Proofs.RoundTrip
import ChartQuery.Proofs.Typing

/-!
# Labels and patterns reach their columns

Labels and formats are attached to the selected expressions when a query is read, entry by entry and
each to the first place of its expression.  They are put on the columns of a result much later, by
their places, which a pivot moves.

The lemmas here bring both halves together.  What is attached at a place in the end is a function of
the entries, of the expressions and of the place (`Query.getElem?_selections`).  A column gets what
is attached at its place behind the pivot, and its type is decided on by its pattern.
-/

namespace ChartQuery

/-! ## Types of columns -/

namespace Column

variable {c c' : Column}

/-- `Resolved c c'`: the column `c'` is the column `c` with the type that its pattern decides on.
The pattern that is no particular one keeps the type; any other decides, with the type of the data,
on the type that is shown, and the type of the data is kept beside it. -/
structure Resolved (c c' : Column) : Prop where
  id : c'.id = c.id
  label : c'.label = c.label
  general : c.pattern = "" ∨ c.pattern = general →
    c'.pattern = Column.general ∧ c'.type = c.type ∧ c'.native? = none
  particular : c.pattern ≠ "" → c.pattern ≠ Column.general → c'.pattern = c.pattern ∧
    c'.native? = some c.type ∧
    ∃ k, PatternKinds.classify c.pattern = .ok k ∧ c'.type = k.displayType c.type

/-- A pattern is no particular one if it is empty or stands for none. -/
lemma isGeneral_iff : c.isGeneral = true ↔ c.pattern = "" ∨ c.pattern = general := by
  simp [isGeneral, String.isEmpty_iff]

/-- The type of a column is decided on in one way. -/
lemma resolve_eq_ok_iff : c.resolve = .ok c' ↔ Resolved c c' := by
  unfold resolve
  by_cases hgeneral : c.isGeneral = true
  · have hpattern := isGeneral_iff.1 hgeneral
    rw [if_pos hgeneral]
    constructor
    · intro h
      cases h
      refine ⟨rfl, rfl, fun _ => ⟨rfl, rfl, rfl⟩, fun hempty hne => ?_⟩
      exact absurd hpattern (not_or.2 ⟨hempty, hne⟩)
    · rintro ⟨hid, hlabel, h, -⟩
      obtain ⟨hpattern, htype, hnative⟩ := h hpattern
      rw [← hid, ← hlabel, ← hpattern, ← htype, ← hnative]
  · obtain ⟨hempty, hne⟩ := not_or.1 (isGeneral_iff.not.1 hgeneral)
    rw [if_neg hgeneral]
    constructor
    · intro h
      obtain ⟨k, hk, h⟩ := bind_eq_ok.1 h
      cases h
      refine ⟨rfl, rfl, fun h => absurd h (not_or.2 ⟨hempty, hne⟩), fun _ _ => ?_⟩
      exact ⟨rfl, rfl, k, hk, rfl⟩
    · rintro ⟨hid, hlabel, -, h⟩
      obtain ⟨hpattern, hnative, k, hk, htype⟩ := h hempty hne
      refine bind_eq_ok.2 ⟨k, hk, ?_⟩
      rw [← hid, ← hlabel, ← hpattern, ← htype, ← hnative]

end Column

/-! ## Labelled tables -/

namespace Table

variable {q : Query} {t t' : Table} {ss : List Selection} {cs cs' : List Column}

/-- The selection at a place is put on the column there. -/
lemma getElem?_selectColumns (ss : List Selection) (cs : List Column) (i : Nat) :
    (selectColumns ss cs)[i]? = cs[i]?.map fun c =>
      match ss[i]? with
      | some s => c.select s
      | none => c := by
  induction ss generalizing cs i with
  | nil => simp [selectColumns]
  | cons s ss ih =>
    cases cs with
    | nil => rfl
    | cons c cs =>
      cases i with
      | zero => rfl
      | succ i => exact ih cs i

/-- Without an asterisk there has to be a column for each selection, and all columns but these stay
as they are. -/
lemma annotateColumns_eq_ok_iff (hstar : q.star = false) :
    annotateColumns q cs = .ok cs' ↔ q.injectedColumns + q.selections.length ≤ cs.length ∧
      cs' = cs.take q.injectedColumns ++
        selectColumns q.selections (cs.drop q.injectedColumns) := by
  unfold annotateColumns
  rw [hstar, if_neg Bool.false_ne_true]
  dsimp only
  split
  · next hlt =>
    refine iff_of_false nofun fun h => ?_
    exact absurd h.1 (Nat.not_le_of_lt hlt)
  · next hge =>
    rw [and_iff_right (Nat.le_of_not_lt hge), Except.ok.injEq]
    exact eq_comm

/-- The column at a place with the selection for it, where the selections belong to the columns
after the first `n`. -/
def selectAt (n : Nat) (ss : List Selection) (j : Nat) (a : Column) : Column :=
  match if j < n then none else ss[j - n]? with
  | some s => a.select s
  | none => a

/-- A column with a selection for its place. -/
lemma selectAt_add {n i : Nat} {s : Selection} (hs : ss[i]? = some s) (a : Column) :
    selectAt n ss (n + i) a = a.select s := by
  rw [selectAt, if_neg (Nat.not_lt.2 (Nat.le_add_right n i)), Nat.add_sub_cancel_left, hs]

/-- A column without a selection for its place. -/
lemma selectAt_of_outside {n j : Nat} (hj : j < n ∨ n + ss.length ≤ j) (a : Column) :
    selectAt n ss j a = a := by
  unfold selectAt
  by_cases hlt : j < n
  · rw [if_pos hlt]
  · have hbeyond : ss.length ≤ j - n := by omega
    rw [if_neg hlt, List.getElem?_eq_none hbeyond]

/-- The columns once selections are put on those after the first ones. -/
lemma getElem?_take_append_selectColumns {n : Nat} (hn : n ≤ cs.length) (j : Nat) :
    (cs.take n ++ selectColumns ss (cs.drop n))[j]? = cs[j]?.map (selectAt n ss j) := by
  have hlength : (cs.take n).length = n := List.length_take_of_le hn
  unfold selectAt
  by_cases hj : j < n
  · rw [List.getElem?_append_left (hlength.symm ▸ hj), List.getElem?_take_of_lt hj, if_pos hj]
    exact Option.map_id'.symm
  · have hge : n ≤ j := Nat.le_of_not_lt hj
    rw [List.getElem?_append_right (hlength.symm ▸ hge), hlength, getElem?_selectColumns,
      List.getElem?_drop, if_neg hj, Nat.add_sub_cancel' hge]

/-- Labels are assigned if they can be put on the columns and the types of all columns can be
decided on. -/
lemma toExcept_assignLabels_eq_ok_iff : (assignLabels q t).toExcept = .ok t' ↔
    (∃ cs, annotateColumns q t.columns = .ok cs ∧
      List.Forall₂ (fun c c' => c.resolve = .ok c') cs t'.columns) ∧ t'.rows = t.rows := by
  refine ⟨assignLabels_eq_ok, ?_⟩
  rintro ⟨⟨cs, hcs, hresolved⟩, hrows⟩
  rw [assignLabels, hcs]
  refine Progress.toExcept_map_eq_ok.2 ⟨t'.columns, Progress.toExcept_each_eq_ok.2 hresolved, ?_⟩
  rw [← hrows]

/-- `Labelled c es n t t'`: the table `t'` is the table `t` with the labels and formats of the
clauses `c` on the columns of the expressions `es`, which come after `n` other columns.  Rows and
other columns stay as they are, except for the types of columns with patterns of their own. -/
structure Labelled (c : Query.Clauses) (es : List Expr) (n : Nat) (t t' : Table) : Prop where
  rows : t'.rows = t.rows
  length_columns : t'.columns.length = t.columns.length
  enough : n + es.length ≤ t.columns.length
  selected : ∀ i e a b, es[i]? = some e → t.columns[n + i]? = some a → t'.columns[n + i]? = some b →
    Column.Resolved { a with
      id := e.columnId
      label := (Query.textFor c.labels es i).getD a.label
      pattern := (Query.textFor c.formats es i).getD a.pattern } b
  others : ∀ j a b, j < n ∨ n + es.length ≤ j → t.columns[j]? = some a →
    t'.columns[j]? = some b → a.Resolved b

/-- Labels are assigned to a query with a select list exactly if there is a column for each
selection, and each column, with the selection for its place put on it, has got the type that it
shows. -/
lemma assignLabels_eq_ok_iff_resolved (hstar : q.star = false) :
    (assignLabels q t).toExcept = .ok t' ↔
      (q.injectedColumns + q.selections.length ≤ t.columns.length ∧
        t.columns.length = t'.columns.length ∧
        ∀ j a b, t.columns[j]? = some a → t'.columns[j]? = some b →
          (selectAt q.injectedColumns q.selections j a).Resolved b) ∧ t'.rows = t.rows := by
  rw [toExcept_assignLabels_eq_ok_iff]
  refine and_congr_left fun _ => ?_
  simp only [annotateColumns_eq_ok_iff hstar, Column.resolve_eq_ok_iff, and_assoc,
    exists_and_left, exists_eq_left]
  refine and_congr_right fun henough => ?_
  have hn : q.injectedColumns ≤ t.columns.length := Nat.le_of_add_right_le henough
  have hlength : (t.columns.take q.injectedColumns ++
      selectColumns q.selections (t.columns.drop q.injectedColumns)).length =
        t.columns.length := by
    rw [List.length_append, length_selectColumns, ← List.length_append, List.take_append_drop]
  rw [forall₂_iff_getElem?, hlength]
  refine and_congr_right fun _ => forall_congr' fun j => ?_
  rw [getElem?_take_append_selectColumns hn]
  cases t.columns[j]? with
  | none => simp
  | some a =>
    constructor
    · rintro h _ b ⟨⟩ hb
      exact h _ b rfl hb
    · rintro h _ b ⟨⟩ hb
      exact h a b rfl hb

/-- A query with a select list labels a table with what its clauses have for the columns. -/
lemma assignLabels_eq_ok_iff_of_selections (hstar : q.star = false) {c : Query.Clauses}
    {es : List Expr} (hexpr : q.selections.map Selection.expr = es)
    (hselections : ∀ i : Nat, q.selections[i]? =
      es[i]?.map fun e => ⟨e, Query.textFor c.labels es i, Query.textFor c.formats es i⟩) :
    (assignLabels q t).toExcept = .ok t' ↔ Labelled c es q.injectedColumns t t' := by
  have hlength : q.selections.length = es.length := by
    rw [← hexpr, List.length_map]
  have hplace {i : Nat} {e : Expr} (he : es[i]? = some e) : q.selections[i]? =
      some ⟨e, Query.textFor c.labels es i, Query.textFor c.formats es i⟩ := by
    rw [hselections, he, Option.map_some]
  rw [assignLabels_eq_ok_iff_resolved hstar]
  constructor
  · rintro ⟨⟨henough, hcolumns, hresolved⟩, hrows⟩
    refine ⟨hrows, hcolumns.symm, hlength ▸ henough, fun i e a b he ha hb => ?_,
      fun j a b hj ha hb => ?_⟩
    · have hselected := hresolved _ a b ha hb
      rwa [selectAt_add (hplace he)] at hselected
    · have hother := hresolved j a b ha hb
      rwa [selectAt_of_outside (hlength.symm ▸ hj)] at hother
  · rintro ⟨hrows, hcolumns, henough, hselected, hothers⟩
    refine ⟨⟨hlength.symm ▸ henough, hcolumns.symm, fun j a b ha hb => ?_⟩, hrows⟩
    by_cases hj : j < q.injectedColumns ∨ q.injectedColumns + es.length ≤ j
    · rw [selectAt_of_outside (hlength.symm ▸ hj)]
      exact hothers j a b hj ha hb
    · obtain ⟨i, rfl⟩ := Nat.exists_eq_add_of_le (Nat.le_of_not_lt (not_or.1 hj).1)
      have hi : i < es.length := by omega
      have he : es[i]? = some es[i] := List.getElem?_eq_getElem hi
      rw [selectAt_add (hplace he)]
      exact hselected i _ a b he ha hb

/-- **Labels and formats reach exactly the columns that they name.**  A query with a select list is
a statement of the grammar.  Labels are assigned to a result if the columns of a pivot and those of
the selected expressions are there and all patterns are readable.  Then the column at the place of
an expression is named after it, with the last text of each clause for it if this is its first
place, and otherwise with the label and the pattern that it had.  Nothing else changes but types. -/
theorem assignLabels_eq_ok_iff_labelled {text : String} {extended : Bool}
    (h : Query.parse text extended = .ok q) (hstar : q.star = false) :
    ∃ c es, Grammar.Statement (Token.tokenize text) c ∧ Grammar.Bound c ∧
      c.selected? = some es ∧ q.selections.map Selection.expr = es ∧
      ∀ t t', (assignLabels q t).toExcept = .ok t' ↔ Labelled c es q.injectedColumns t t' := by
  obtain ⟨c, hc, rfl, -⟩ := Query.parse_eq_ok_iff.1 h
  obtain ⟨hstatement, hbound⟩ := Grammar.clauses_eq_ok_iff.1 hc
  obtain ⟨es, hes⟩ : ∃ es, c.selected? = some es :=
    Option.isSome_iff_exists.1 (Option.isNone_eq_false_iff.1 hstar)
  have hexpr : c.selections.map Selection.expr = es := by
    rw [Query.map_expr_selections hbound, hes]
  exact ⟨c, es, hstatement, hbound, hes, hexpr, fun t t' =>
    assignLabels_eq_ok_iff_of_selections hstar hexpr (Query.getElem?_selections hbound hes)⟩

/-- The last label counts, at the first place, behind the column of the pivot; the source has a
label for the second place, and a column too many. -/
theorem assignLabels_eq_ok_iff_labelled_pivot :
    let text := "select a, a, max(b) pivot p label a 'x', a 'y' format max(b) '#,##0.00'"
    let t : Table :=
      { columns := [⟨"p", "P", .string, "", none⟩, ⟨"c1", "A", .date, "", none⟩,
          ⟨"c2", "A", .date, "yyyy", none⟩, ⟨"c3", "", .string, "", none⟩,
          ⟨"rest", "", .number, "", none⟩]
        rows := [] }
    let t' : Table :=
      { columns := [⟨"p", "P", .string, "General", none⟩, ⟨"a", "y", .date, "General", none⟩,
          ⟨"a", "A", .date, "yyyy", some .date⟩, ⟨"max(b)", "", .number, "#,##0.00", some .string⟩,
          ⟨"rest", "", .number, "General", none⟩]
        rows := [] }
    ∃ q c es, Query.parse text false = .ok q ∧ q.star = false ∧
      Grammar.Statement (Token.tokenize text) c ∧ c.selected? = some es ∧
      (assignLabels q t).toExcept = .ok t' ∧ Labelled c es 1 t t' := by
  intro text t t'
  obtain ⟨q, hparse, htest⟩ := exists_eq_ok (Query.parse text false)
    (fun q => decide (q.star = false ∧ q.injectedColumns = 1) &&
      (assignLabels q t).toExcept.toOption.any fun r => decide (r = t')) (by decide +kernel)
  obtain ⟨hquery, htest⟩ := Bool.and_eq_true_iff.1 htest
  obtain ⟨hstar, hinjected⟩ := of_decide_eq_true hquery
  obtain ⟨r, hr, hsame⟩ := exists_eq_ok _ _ htest
  have hok : (assignLabels q t).toExcept = .ok t' := by
    rw [hr, of_decide_eq_true hsame]
  obtain ⟨c, es, hstatement, -, hes, -, hiff⟩ := assignLabels_eq_ok_iff_labelled hparse hstar
  have hlabelled := (hiff t t').1 hok
  rw [hinjected] at hlabelled
  exact ⟨q, c, es, hparse, hstar, hstatement, hes, hok, hlabelled⟩

end Table

end ChartQuery
