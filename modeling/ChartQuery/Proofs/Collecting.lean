import ChartQuery.Proofs.Attaching
import ChartQuery.Proofs.Grammar

/-!
# Collecting labels and formats again

A query that was made up from clauses is written as clauses again.  They are the clauses that there
were exactly if the labels and formats of these were in order (`written_toQuery_iff`).

The other way round, a query whose labels and formats are where attaching puts them is made up by
the clauses that it is written as (`toQuery_written`).
-/

namespace ChartQuery.Query

open Grammar (Bound)

/-! ## From clauses to a query and back -/

/-- The expressions that the entries of the attaching clauses are looked for among: those that are
selected, or, if all columns are, those of the entries themselves, labels first. -/
def Clauses.columns (c : Clauses) : List Expr :=
  match c.selected? with
  | some es => es
  | none => (c.labels ++ c.formats).map Prod.fst

/-- Whether labels and formats are in the order of the first places of their expressions.  The
labels of a query of all columns may be in any order. -/
structure Orderly (c : Clauses) : Prop where
  labels : ∀ es, c.selected? = some es → InOrder es c.labels
  formats : InOrder c.columns c.formats

instance (c : Clauses) : Decidable (Orderly c) :=
  decidable_of_iff ((∀ es ∈ c.selected?, InOrder es c.labels) ∧ InOrder c.columns c.formats)
    ⟨fun h => ⟨h.1, h.2⟩, fun h => ⟨h.labels, h.formats⟩⟩

/-- The selections after labels were attached and before formats are. -/
def Clauses.labelled (c : Clauses) : List Selection :=
  c.labels.foldl (attach .label c.selected?.isNone)
    ((c.selected?.getD []).map Selection.ofExpr)

/-- The selections are those with labels, with the formats attached to them. -/
lemma selections_eq (c : Clauses) :
    c.selections = c.formats.foldl (attach .format c.selected?.isNone) c.labelled := rfl

/-- Nothing is attached at the beginning. -/
lemma attached_map_ofExpr (which : Attachment) (es : List Expr) :
    attached which (es.map Selection.ofExpr) = [] := by
  rw [attached_eq_nil_iff]
  intro s hs
  obtain ⟨e, -, rfl⟩ := List.mem_map.1 hs
  exact text?_ofExpr which e

/-- The texts of new selections are collected one after another. -/
lemma attached_map_attach (which : Attachment) (X : List (Expr × String)) :
    attached which (X.map fun x => Selection.attach which x.2 (.ofExpr x.1)) = X := by
  induction X with
  | nil => rfl
  | cons x X ih =>
    rw [List.map_cons, attached_cons_of_some _ (text?_attach which x.2 _), ih, attach_expr,
      expr_ofExpr]

/-- Formats are never fresh entries. -/
lemma not_fresh_format (star : Bool) : ¬ Fresh .format star := fun h => nomatch h.1

/-- Labels of an explicit select list are never fresh entries. -/
lemma not_fresh_label : ¬ Fresh .label false := fun h => nomatch h.2

/-- No formats are attached before the clause of formats. -/
lemma attached_format_labelled (c : Clauses) : attached .format c.labelled = [] := by
  rw [Clauses.labelled, attached_foldl_of_ne (by decide), attached_map_ofExpr]

/-- The clause of formats leaves the labels as they are. -/
lemma attached_label_selections (c : Clauses) :
    attached .label c.selections = attached .label c.labelled := by
  rw [selections_eq, attached_foldl_of_ne (by decide)]

/-- Labels of a query of all columns become selections. -/
lemma labelled_of_none {c : Clauses} (h : c.selected? = none) :
    c.labelled = c.labels.map fun x => Selection.attach .label x.2 (.ofExpr x.1) := by
  rw [Clauses.labelled, foldl_attach_fresh ⟨rfl, by rw [h]; rfl⟩, h]
  rfl

/-- The selections before formats are attached are of the selected expressions, or of those of the
labels. -/
lemma map_expr_labelled {c : Clauses} (hbound : Bound c) :
    c.labelled.map Selection.expr = c.selected?.getD (c.labels.map Prod.fst) := by
  cases hsel : c.selected? with
  | none =>
    rw [labelled_of_none hsel, List.map_map]
    refine List.map_congr_left fun x _ => ?_
    exact attach_expr .label x.2 (.ofExpr x.1)
  | some es =>
    have hsub : c.labels.map Prod.fst ⊆ es := by
      intro e he
      obtain ⟨x, hx, rfl⟩ := List.mem_map.1 he
      exact hbound es hsel x (List.mem_append_left _ hx)
    rw [Clauses.labelled, hsel]
    exact (map_expr_foldl not_fresh_label _ _).trans
      (by rw [Option.getD_some, map_expr_ofExpr, foldl_extend_of_subset hsub, Option.getD_some])

/-- The selections are of the selected expressions, or of those of labels and formats. -/
lemma map_expr_selections {c : Clauses} (hbound : Bound c) :
    c.selections.map Selection.expr = match c.selected? with
      | some es => es
      | none => (c.formats.map Prod.fst).foldl extend (c.labels.map Prod.fst) := by
  rw [selections_eq, map_expr_foldl (not_fresh_format _), map_expr_labelled hbound]
  cases hsel : c.selected? with
  | none => rfl
  | some es =>
    refine foldl_extend_of_subset fun e he => ?_
    obtain ⟨x, hx, rfl⟩ := List.mem_map.1 he
    exact hbound es hsel x (List.mem_append_right _ hx)

/-- Every selection is of one of the expressions that entries are looked for among. -/
lemma mem_columns {c : Clauses} (hbound : Bound c) {e : Expr} :
    e ∈ c.selections.map Selection.expr ↔ e ∈ c.columns := by
  rw [map_expr_selections hbound, Clauses.columns]
  cases c.selected? with
  | none => rw [mem_foldl_extend, List.map_append, List.mem_append]
  | some es => rfl

/-- Entries are in order among the selections exactly if they are among the columns. -/
lemma inOrder_selections_iff {c : Clauses} (hbound : Bound c) (X : List (Expr × String)) :
    InOrder (c.selections.map Selection.expr) X ↔ InOrder c.columns X := by
  rw [map_expr_selections hbound, Clauses.columns]
  cases c.selected? with
  | none =>
    rw [List.map_append]
    exact ⟨fun h => h.imp fun hlt => (idxOf_lt_idxOf_extend _ _).1 hlt,
      fun h => h.imp fun hlt => (idxOf_lt_idxOf_extend _ _).2 hlt⟩
  | some es => rfl

/-- The formats come back exactly if they were in order. -/
lemma attached_format_iff {c : Clauses} (hbound : Bound c) :
    attached .format c.selections = c.formats ↔ InOrder c.columns c.formats := by
  rw [← inOrder_selections_iff hbound, selections_eq]
  exact attached_foldl_eq_iff (attached_format_labelled c) (not_fresh_format _) c.formats

/-- The labels come back exactly if they were in order, or all columns are selected. -/
lemma attached_label_iff {c : Clauses} (hbound : Bound c) :
    attached .label c.selections = c.labels ↔
      ∀ es, c.selected? = some es → InOrder es c.labels := by
  rw [attached_label_selections]
  cases hsel : c.selected? with
  | none =>
    refine ⟨fun _ es hes => (nomatch hes), fun _ => ?_⟩
    rw [labelled_of_none hsel, attached_map_attach]
  | some es =>
    have hexpr := map_expr_labelled hbound
    rw [hsel, Option.getD_some] at hexpr
    have hiff := attached_foldl_eq_iff (attached_map_ofExpr .label es) not_fresh_label c.labels
    have hlabelled :
        c.labels.foldl (attach .label false) (es.map Selection.ofExpr) = c.labelled := by
      rw [Clauses.labelled, hsel]
      rfl
    rw [hlabelled, hexpr] at hiff
    rw [hiff]
    exact ⟨fun h _ heq => Option.some.inj heq ▸ h, fun h => h es rfl⟩

/-- What a query made up from clauses is written as: the same, but labels and formats are collected
again. -/
lemma written_toQuery {c : Clauses} (hbound : Bound c) :
    c.toQuery.written = { c with
      labels := attached .label c.selections
      formats := attached .format c.selections
      flags := c.toQuery.flags } := by
  have hselected : c.toQuery.written.selected? = c.selected? := by
    unfold written Clauses.toQuery
    dsimp only
    rw [map_expr_selections hbound]
    cases c.selected? <;> rfl
  rw [← hselected]
  rfl

/-- **Clauses come back exactly if labels and formats were in order.** -/
theorem written_toQuery_iff {c : Clauses} (hbound : Bound c) (hflags : c.toQuery.flags = c.flags) :
    c.toQuery.written = c ↔ Orderly c := by
  rw [written_toQuery hbound, hflags]
  constructor
  · intro h
    exact ⟨(attached_label_iff hbound).1 (congrArg Clauses.labels h),
      (attached_format_iff hbound).1 (congrArg Clauses.formats h)⟩
  · intro h
    rw [(attached_label_iff hbound).2 h.labels, (attached_format_iff hbound).2 h.formats]

/-! ## Where attaching puts texts -/

/-- A selection without a label is followed by such selections only. -/
def LabelsFirst (S : List Selection) : Prop :=
  S.Pairwise fun s t => s.label? = none → t.label? = none

/-- Whether labels and formats are where attaching puts them: at first selections only, or, for the
labels of a query of all columns, at all selections up to some place, with formats at all of the
others. -/
structure WellAttached (q : Query) : Prop where
  formats : FirstOnly .format q.selections
  labels : q.star = false → FirstOnly .label q.selections
  labelsFirst : q.star = true → LabelsFirst q.selections
  someText : q.star = true → ∀ s ∈ q.selections, s.label? = none → s.format? ≠ none

/-- A relation of selections to later ones without labels, that does not depend on formats, is kept
when formats are attached. -/
lemma pairwise_foldl_format {R : Selection → Selection → Prop} {star : Bool}
    (hleft : ∀ s t text, R s t → R (Selection.attach .format text s) t)
    (hright : ∀ s t text, R s t → R s (Selection.attach .format text t))
    (hnone : ∀ s t : Selection, t.label? = none → R s t) {S : List Selection}
    (X : List (Expr × String)) (hS : S.Pairwise R) :
    (X.foldl (attach .format star) S).Pairwise R := by
  induction X generalizing S with
  | nil => exact hS
  | cons x X ih =>
    refine ih ?_
    rcases attach_cases .format star S x with ⟨-, P, s, T, rfl, -, -, heq⟩ | ⟨-, heq⟩
    · rw [heq]
      simp only [List.pairwise_append, List.pairwise_cons, List.mem_cons, forall_eq_or_imp]
        at hS ⊢
      obtain ⟨hP, ⟨hs, hT⟩, hPT⟩ := hS
      exact ⟨hP, ⟨fun t ht => hleft s t _ (hs t ht), hT⟩,
        fun p hp => ⟨hright p s _ (hPT p hp).1, (hPT p hp).2⟩⟩
    · rw [heq, List.pairwise_append]
      refine ⟨hS, List.pairwise_singleton _ _, fun s _ t ht => ?_⟩
      obtain rfl := List.mem_singleton.1 ht
      exact hnone s _ rfl

/-- **Attaching puts labels and formats where they belong.** -/
theorem wellAttached_toQuery (c : Clauses) : WellAttached c.toQuery where
  formats := by
    have hnone := firstOnly_of_attached_eq_nil (attached_format_labelled c)
    exact hnone.foldl (not_fresh_format _) c.formats
  labels hstar := by
    have hfresh : ¬ Fresh .label c.selected?.isNone := fun h => by
      have := h.2
      rw [show c.selected?.isNone = false from hstar] at this
      cases this
    have hnone := firstOnly_of_attached_eq_nil
      (attached_map_ofExpr .label (c.selected?.getD []))
    refine pairwise_foldl_format ?_ ?_ ?_ c.formats (hnone.foldl hfresh c.labels)
    · exact fun _ _ _ h => h
    · exact fun _ _ _ h => h
    · exact fun _ _ h _ => h
  labelsFirst hstar := by
    have hlabelled := labelled_of_none (Option.isNone_iff_eq_none.1 hstar)
    have hbase : c.labelled.Pairwise fun s t => s.label? = none → t.label? = none := by
      rw [hlabelled, List.pairwise_map]
      exact List.pairwise_of_forall fun _ _ h => nomatch h
    refine pairwise_foldl_format ?_ ?_ ?_ c.formats hbase
    · exact fun _ _ _ h => h
    · exact fun _ _ _ h => h
    · exact fun _ _ h _ => h
  someText hstar := by
    have hlabelled := labelled_of_none (Option.isNone_iff_eq_none.1 hstar)
    refine forall_foldl_attach (fun s hs hlabel => ?_) (fun x _ s _ _ _ h => nomatch h)
      fun x _ _ h => nomatch h
    have hs' : s ∈ c.labelled := hs
    rw [hlabelled] at hs'
    obtain ⟨x, -, rfl⟩ := List.mem_map.1 hs'
    cases hlabel

/-! ## From a query to clauses and back -/

/-- Where texts are at first selections only, they are determined by the expressions and what is
collected. -/
lemma map_text?_eq {which : Attachment} : ∀ {S S' : List Selection},
    S.map Selection.expr = S'.map Selection.expr → FirstOnly which S → FirstOnly which S' →
    attached which S = attached which S' →
      S.map (Selection.text? which) = S'.map (Selection.text? which)
  | [], [], _, _, _, _ => rfl
  | s :: S, s' :: S', hexpr, hS, hS', h => by
    obtain ⟨hs, hrest⟩ := List.cons.inj hexpr
    -- a text of the first expression cannot be collected from a later selection
    have hnot := hS.not_mem_attached
    have hnot' := hS'.not_mem_attached
    have hboth : Selection.text? which s = Selection.text? which s' ∧
        attached which S = attached which S' := by
      cases hs₁ : Selection.text? which s with
      | none =>
        rw [attached_cons_of_none S hs₁] at h
        cases hs₂ : Selection.text? which s' with
        | none => exact ⟨rfl, by rwa [attached_cons_of_none S' hs₂] at h⟩
        | some text =>
          rw [attached_cons_of_some S' hs₂] at h
          exact absurd (by rw [h, hs]; exact List.mem_cons_self) hnot
      | some text =>
        rw [attached_cons_of_some S hs₁] at h
        cases hs₂ : Selection.text? which s' with
        | none =>
          rw [attached_cons_of_none S' hs₂] at h
          exact absurd (by rw [← h, hs]; exact List.mem_cons_self) hnot'
        | some text' =>
          rw [attached_cons_of_some S' hs₂] at h
          obtain ⟨hhead, htail⟩ := List.cons.inj h
          exact ⟨congrArg some (Prod.ext_iff.1 hhead).2, htail⟩
    obtain ⟨htext, htail⟩ := hboth
    rw [List.map_cons, List.map_cons, htext, map_text?_eq hrest hS.of_cons hS'.of_cons htail]

/-- Nothing is collected from the selections after the labels. -/
lemma LabelsFirst.attached_eq_nil {s : Selection} {S : List Selection}
    (h : LabelsFirst (s :: S)) (hs : s.label? = none) : attached .label S = [] :=
  attached_eq_nil_iff.2 fun t ht => (List.pairwise_cons.1 h).1 t ht hs

/-- Where labels come first, they are determined by their number and what is collected. -/
lemma map_label?_eq : ∀ {S S' : List Selection}, S.length = S'.length → LabelsFirst S →
    LabelsFirst S' → attached .label S = attached .label S' →
      S.map (Selection.text? .label) = S'.map (Selection.text? .label)
  | [], [], _, _, _, _ => rfl
  | s :: S, s' :: S', hlength, hS, hS', h => by
    have hboth : Selection.text? .label s = Selection.text? .label s' ∧
        attached .label S = attached .label S' := by
      cases hs₁ : Selection.text? .label s with
      | none =>
        rw [attached_cons_of_none S hs₁, hS.attached_eq_nil hs₁] at h
        have hs₂ : Selection.text? .label s' = none :=
          attached_eq_nil_iff.1 h.symm s' List.mem_cons_self
        exact ⟨hs₂.symm, by rw [hS.attached_eq_nil hs₁, hS'.attached_eq_nil hs₂]⟩
      | some text =>
        rw [attached_cons_of_some S hs₁] at h
        cases hs₂ : Selection.text? .label s' with
        | none =>
          rw [attached_cons_of_none S' hs₂, hS'.attached_eq_nil hs₂] at h
          cases h
        | some text' =>
          rw [attached_cons_of_some S' hs₂] at h
          obtain ⟨hhead, htail⟩ := List.cons.inj h
          exact ⟨congrArg some (Prod.ext_iff.1 hhead).2, htail⟩
    obtain ⟨htext, htail⟩ := hboth
    rw [List.map_cons, List.map_cons, htext,
      map_label?_eq (Nat.succ.inj hlength) hS.of_cons hS'.of_cons htail]

/-- In a query of all columns the expressions of the selections are those of the labels and then,
each once, those of the formats. -/
lemma map_expr_eq : ∀ {S : List Selection}, LabelsFirst S → FirstOnly .format S →
    (∀ s ∈ S, s.label? = none → s.format? ≠ none) →
      S.map Selection.expr =
        ((attached .format S).map Prod.fst).foldl extend ((attached .label S).map Prod.fst)
  | [], _, _, _ => rfl
  | s :: S, hlabels, hformats, hsome => by
    have hrec := map_expr_eq hlabels.of_cons hformats.of_cons
      fun t ht => hsome t (List.mem_cons_of_mem s ht)
    have hnot := hformats.not_mem_attached
    cases hlabel : s.label? with
    | some text =>
      -- the expression is one of the labels, so the format of it extends nothing
      have hformat : ((attached .format (s :: S)).map Prod.fst).foldl extend
            (s.expr :: (attached .label S).map Prod.fst) =
          ((attached .format S).map Prod.fst).foldl extend
            (s.expr :: (attached .label S).map Prod.fst) := by
        cases hf : Selection.text? .format s with
        | none => rw [attached_cons_of_none S hf]
        | some text =>
          rw [attached_cons_of_some S hf, List.map_cons, List.foldl_cons, extend,
            if_pos List.mem_cons_self]
      have hlabel' : Selection.text? .label s = some text := hlabel
      rw [attached_cons_of_some S hlabel', List.map_cons, List.map_cons, hformat,
        foldl_extend_cons hnot, ← hrec]
    | none =>
      obtain ⟨text, hf⟩ := Option.ne_none_iff_exists'.1 (hsome s List.mem_cons_self hlabel)
      rw [hlabels.attached_eq_nil hlabel] at hrec
      have hlabel' : Selection.text? .label s = none := hlabel
      have hformat : Selection.text? .format s = some text := hf
      rw [attached_cons_of_none S hlabel', hlabels.attached_eq_nil hlabel,
        attached_cons_of_some S hformat, List.map_cons, List.map_nil, List.map_cons,
        List.foldl_cons, hrec]
      exact (foldl_extend_cons hnot).symm

/-- Selections are determined by their expressions, labels and formats. -/
lemma selections_ext : ∀ {S S' : List Selection},
    S.map Selection.expr = S'.map Selection.expr →
    (∀ which, S.map (Selection.text? which) = S'.map (Selection.text? which)) → S = S'
  | [], [], _, _ => rfl
  | ⟨e, l, f⟩ :: S, ⟨e', l', f'⟩ :: S', hexpr, htext => by
    obtain ⟨rfl, hrest⟩ := List.cons.inj hexpr
    obtain ⟨rfl, -⟩ : l = l' ∧ _ := List.cons.inj (htext .label)
    obtain ⟨rfl, -⟩ : f = f' ∧ _ := List.cons.inj (htext .format)
    rw [selections_ext hrest fun which => (List.cons.inj (htext which)).2]

/-- Labels and formats where attaching puts them are determined by what is collected. -/
theorem WellAttached.selections_eq {q r : Query} (hq : WellAttached q) (hr : WellAttached r)
    (hstar : q.star = r.star) (h : q.written = r.written) : q.selections = r.selections := by
  have hlabels : attached .label q.selections = attached .label r.selections :=
    congrArg Clauses.labels h
  have hformats : attached .format q.selections = attached .format r.selections :=
    congrArg Clauses.formats h
  have hexpr : q.selections.map Selection.expr = r.selections.map Selection.expr := by
    cases hs : q.star with
    | true =>
      have hs' : r.star = true := hstar ▸ hs
      rw [map_expr_eq (hq.labelsFirst hs) hq.formats (hq.someText hs),
        map_expr_eq (hr.labelsFirst hs') hr.formats (hr.someText hs'), hlabels, hformats]
    | false =>
      have hs' : r.star = false := hstar ▸ hs
      have hselected : q.written.selected? = r.written.selected? := congrArg Clauses.selected? h
      simpa [written, hs, hs'] using hselected
  refine selections_ext hexpr fun which => ?_
  cases which with
  | format => exact map_text?_eq hexpr hq.formats hr.formats hformats
  | label =>
    cases hs : q.star with
    | true =>
      have hlength : q.selections.length = r.selections.length := by
        simpa using congrArg List.length hexpr
      exact map_label?_eq hlength (hq.labelsFirst hs) (hr.labelsFirst (hstar ▸ hs)) hlabels
    | false => exact map_text?_eq hexpr (hq.labels hs) (hr.labels (hstar ▸ hs)) hlabels

/-- The expressions are written out unless all columns are selected. -/
lemma selected?_written_eq_some_iff {q : Query} {es : List Expr} :
    q.written.selected? = some es ↔ q.star = false ∧ q.selections.map Selection.expr = es := by
  simp [written]

/-- Entries for a query of all columns are looked for among each other. -/
lemma columns_written_of_star {q : Query} (h : q.star = true) :
    q.written.columns = (q.written.labels ++ q.written.formats).map Prod.fst := by
  simp [Clauses.columns, written, h]

/-- Entries for a select list are looked for among its expressions. -/
lemma columns_written_of_not_star {q : Query} (h : q.star = false) :
    q.written.columns = q.selections.map Selection.expr := by
  simp [Clauses.columns, written, h]

/-- The entries that a query is written with are of its selections. -/
lemma exists_selection_of_mem_entries {q : Query} {x : Expr × String}
    (hx : x ∈ q.written.labels ++ q.written.formats) : ∃ s ∈ q.selections, s.expr = x.1 := by
  rcases List.mem_append.1 hx with hx | hx
  · obtain ⟨s, hs, hexpr, -⟩ := mem_attached.1 hx
    exact ⟨s, hs, hexpr⟩
  · obtain ⟨s, hs, hexpr, -⟩ := mem_attached.1 hx
    exact ⟨s, hs, hexpr⟩

/-- The clauses that a query is written as have labels and formats for its selections only. -/
lemma bound_written (q : Query) : Bound q.written := by
  intro es hes x hx
  obtain ⟨-, rfl⟩ := selected?_written_eq_some_iff.1 hes
  exact List.mem_map.2 (exists_selection_of_mem_entries hx)

/-- The expressions that entries are looked for among are of selections. -/
lemma exists_selection_of_mem_columns {q : Query} {e : Expr} (he : e ∈ q.written.columns) :
    ∃ s ∈ q.selections, s.expr = e := by
  cases hs : q.star with
  | true =>
    rw [columns_written_of_star hs] at he
    obtain ⟨x, hx, rfl⟩ := List.mem_map.1 he
    exact exists_selection_of_mem_entries hx
  | false =>
    rw [columns_written_of_not_star hs] at he
    exact List.mem_map.1 he

/-- The clauses that a query is written as hold its options. -/
lemma flags_toQuery_written (q : Query) : q.written.toQuery.flags = q.flags ∧
    q.written.toQuery.noFormat = q.noFormat ∧ q.written.toQuery.noValues = q.noValues := by
  unfold flags
  cases hf : q.noFormat <;> cases hv : q.noValues <;>
    simp [Clauses.toQuery, written, flags, hf, hv]

/-- Labels and formats that are where attaching puts them are collected in order. -/
lemma WellAttached.orderly {q : Query} (hq : WellAttached q) : Orderly q.written where
  labels es hes := by
    obtain ⟨hs, rfl⟩ := selected?_written_eq_some_iff.1 hes
    exact (hq.labels hs).inOrder
  formats := by
    have horder : InOrder (q.selections.map Selection.expr) q.written.formats :=
      hq.formats.inOrder
    cases hs : q.star with
    | true =>
      rw [map_expr_eq (hq.labelsFirst hs) hq.formats (hq.someText hs)] at horder
      rw [columns_written_of_star hs, List.map_append]
      exact horder.imp fun hlt => (idxOf_lt_idxOf_extend _ _).1 hlt
    | false => rwa [columns_written_of_not_star hs]

/-- **A query is made up by the clauses that it is written as**, if its labels and formats are where
attaching puts them. -/
theorem WellAttached.toQuery_written {q : Query} (hq : WellAttached q) :
    q.written.toQuery = { q with extended := false } := by
  obtain ⟨hflags, hformat, hvalues⟩ := flags_toQuery_written q
  have hback : q.written.toQuery.written = q.written :=
    (written_toQuery_iff (bound_written q) hflags).2 hq.orderly
  have hstar : q.written.toQuery.star = q.star := by
    simp only [Clauses.toQuery, written]
    cases q.star <;> rfl
  have hselections : q.written.toQuery.selections = q.selections :=
    (wellAttached_toQuery q.written).selections_eq hq hstar hback
  have hrest : q.written.toQuery = { q with
      star := q.written.toQuery.star
      selections := q.written.toQuery.selections
      noFormat := q.written.toQuery.noFormat
      noValues := q.written.toQuery.noValues
      extended := false } := rfl
  rw [hrest, hstar, hselections, hformat, hvalues]

end ChartQuery.Query
