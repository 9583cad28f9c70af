import ChartQuery.Proofs.Collecting
import ChartQuery.Proofs.PrintedQuery

/-!
# Printing a query and reading it again

A query that was read from a text is printed as a text that is read again.  What is read is the
query without its unary plus signs, with one reservation: if two different selected expressions
become the same by that, the labels and formats of the second are attached to the first.
-/

namespace ChartQuery.Query

open Grammar
open Token (Quotable)

/-! ## The unsigned form of a query -/

/-- The unsigned form of a selection. -/
def unsignedSelection (s : Selection) : Selection := { s with expr := s.expr.unsigned }

/-- The query with every unary plus replaced by its operand. -/
def unsigned (q : Query) : Query :=
  { q with
    selections := q.selections.map unsignedSelection
    filter? := q.filter?.map Expr.unsigned
    orderBy := q.orderBy.map unsignedKey }

/-- Whether there is a unary plus in a query. -/
def hasPlus (q : Query) : Bool :=
  q.selections.any (·.expr.hasPlus) || q.filter?.any Expr.hasPlus ||
    q.orderBy.any (·.expr.hasPlus)

/-- A query without unary plus is its own unsigned form. -/
lemma unsigned_eq_self {q : Query} (h : q.hasPlus = false) : q.unsigned = q := by
  simp only [hasPlus, Bool.or_eq_false_iff, List.any_eq_false, Bool.not_eq_true] at h
  obtain ⟨⟨hselections, hfilter⟩, horder⟩ := h
  have hs : q.selections.map unsignedSelection = q.selections := by
    refine (List.map_congr_left fun s hs => ?_).trans (List.map_id _)
    simp [unsignedSelection, Expr.unsigned_eq_self (hselections s hs)]
  have hk : q.orderBy.map unsignedKey = q.orderBy := by
    refine (List.map_congr_left fun k hk => ?_).trans (List.map_id _)
    simp [unsignedKey, Expr.unsigned_eq_self (horder k hk)]
  have hf : q.filter?.map Expr.unsigned = q.filter? := by
    cases hq : q.filter? with
    | none => rfl
    | some e =>
      rw [hq] at hfilter
      exact congrArg some (Expr.unsigned_eq_self hfilter)
  rw [unsigned, hs, hk, hf]

/-- The unsigned form of a query is written as the unsigned form of its clauses. -/
lemma written_unsigned (q : Query) : q.unsigned.written = q.written.unsigned := by
  have htext (which : Attachment) (s : Selection) :
      Selection.text? which (unsignedSelection s) = Selection.text? which s := by
    cases which <;> rfl
  have hattached (which : Attachment) : attached which (q.selections.map unsignedSelection) =
      (attached which q.selections).map unsignedEntry := by
    rw [attached, attached, List.filterMap_map, List.map_filterMap]
    congr 1
    funext s
    rw [Function.comp_apply, htext]
    cases Selection.text? which s <;> rfl
  have hselected : q.unsigned.written.selected? = q.written.unsigned.selected? := by
    simp only [written, unsigned, Clauses.unsigned, List.map_map]
    cases q.star with
    | true => rfl
    | false =>
      simp only [Bool.false_eq_true, if_false, Option.map_some, List.map_map]
      rfl
  have hlabels : q.unsigned.written.labels = q.written.unsigned.labels := hattached .label
  have hformats : q.unsigned.written.formats = q.written.unsigned.formats := hattached .format
  calc q.unsigned.written
      = { q.written.unsigned with
          selected? := q.unsigned.written.selected?
          labels := q.unsigned.written.labels
          formats := q.unsigned.written.formats } := rfl
    _ = q.written.unsigned := by rw [hselected, hlabels, hformats]

/-- Texts stay where attaching puts them if no two expressions become the same. -/
lemma WellAttached.unsigned {q : Query} (hq : WellAttached q)
    (h : ∀ s ∈ q.selections, ∀ t ∈ q.selections,
      s.expr.unsigned = t.expr.unsigned → s.expr = t.expr) : WellAttached q.unsigned := by
  have hfirst {which : Attachment} (hS : FirstOnly which q.selections) :
      FirstOnly which (q.selections.map unsignedSelection) := by
    rw [FirstOnly, List.pairwise_map]
    refine hS.imp_of_mem fun {s t} hs ht hst heq => ?_
    have hnone := hst (h s hs t ht heq)
    cases which <;> exact hnone
  refine ⟨hfirst hq.formats, fun hs => hfirst (hq.labels hs), fun hs => ?_, fun hs t ht => ?_⟩
  · exact List.pairwise_map.2 (hq.labelsFirst hs)
  · obtain ⟨s, hs', rfl⟩ := List.mem_map.1 ht
    exact hq.someText hs s hs'

/-! ## Queries that were read -/

/-- A text is read as a query exactly if it is read as clauses that make it up, and the numbers of
arguments are right or not checked. -/
lemma parse_eq_ok_iff {text : String} {extended : Bool} {q : Query} :
    parse text extended = .ok q ↔
      ∃ c, clauses (Token.tokenize text) = .ok c ∧ q = { c.toQuery with extended } ∧
        (extended = false → q.checkArity = .ok ()) := by
  unfold parse
  constructor
  · intro h
    obtain ⟨q₀, hq₀, h⟩ := bind_eq_ok.1 h
    obtain ⟨c, hc, hreturn⟩ := bind_eq_ok.1 hq₀
    cases hreturn
    refine ⟨c, hc, ?_⟩
    dsimp only at h
    split at h
    · next hext =>
      cases h
      exact ⟨rfl, fun hnot => by rw [hext] at hnot; cases hnot⟩
    · obtain ⟨⟨⟩, harity, hreturn⟩ := bind_eq_ok.1 h
      cases hreturn
      exact ⟨rfl, fun _ => harity⟩
  · rintro ⟨c, hc, rfl, harity⟩
    have hread : parseUnchecked text = .ok c.toQuery := by
      rw [parseUnchecked, hc, ok_bind]
      rfl
    rw [hread, ok_bind]
    cases extended with
    | true => rfl
    | false =>
      have harity := harity rfl
      dsimp only
      rw [if_neg Bool.false_ne_true, harity, ok_bind]
      rfl

/-- A list is checked element by element. -/
lemma forM_eq_ok_iff {α : Type} {f : α → Except Failure Unit} {as : List α} :
    as.forM f = .ok () ↔ ∀ a ∈ as, f a = .ok () := by
  induction as with
  | nil => simp [Pure.pure, Except.pure]
  | cons a as ih =>
    rw [List.forall_mem_cons, ← ih]
    constructor
    · intro h
      obtain ⟨⟨⟩, ha, has⟩ := bind_eq_ok.1 h
      exact ⟨ha, has⟩
    · rintro ⟨ha, has⟩
      exact (congrArg (· >>= fun _ => as.forM f) ha).trans has

/-- The numbers of arguments are right in all selections, the filter and all sort keys. -/
lemma checkArity_eq_ok_iff {q : Query} :
    q.checkArity = .ok () ↔ (∀ s ∈ q.selections, s.expr.checkArity = .ok ()) ∧
      (∀ e, q.filter? = some e → e.checkArity = .ok ()) ∧
      ∀ k ∈ q.orderBy, k.expr.checkArity = .ok () := by
  have hfilter : q.filter?.forM Expr.checkArity = .ok () ↔
      ∀ e, q.filter? = some e → e.checkArity = .ok () := by
    cases q.filter? with
    | none => simp [Pure.pure, Except.pure]
    | some e => exact ⟨fun h e' he => Option.some.inj he ▸ h, fun h => h e rfl⟩
  rw [← hfilter, ← forM_eq_ok_iff, ← forM_eq_ok_iff]
  constructor
  · intro h
    obtain ⟨⟨⟩, hs, h⟩ := bind_eq_ok.1 h
    obtain ⟨⟨⟩, hf, hk⟩ := bind_eq_ok.1 h
    exact ⟨hs, hf, hk⟩
  · rintro ⟨hs, hf, hk⟩
    rw [checkArity, hs, ok_bind, hf, ok_bind, hk]

/-- The number of arguments of an unsigned form is right if it was right before; a unary plus is
never right. -/
lemma checkArity_unsigned {e : Expr} (hwritable : e.Writable) (h : e.checkArity = .ok ()) :
    e.unsigned.checkArity = .ok () := by
  obtain ⟨kind, text, args, emptyCall⟩ := e
  by_cases hkind : kind = .op .pos
  · obtain ⟨operand, heq⟩ := hwritable.eq_positive hkind
    have harity : Expr.arity? "+" = some 2 := rfl
    rw [heq] at h
    simp [Expr.checkArity, Expr.unary, harity] at h
  · have hlength : (Expr.unsignedAll args).length = args.length := by
      rw [Expr.unsignedAll_eq_map, List.length_map]
    have hempty : (Expr.unsignedAll args).isEmpty = args.isEmpty := by
      rw [Expr.unsignedAll_eq_map, List.isEmpty_map]
    rw [Expr.unsigned, Expr.unsignedNode_of_ne hkind]
    simpa only [Expr.checkArity, hlength, hempty] using h

/-- A selection of a writable expression, with texts that can be written. -/
structure WritableSelection (s : Selection) : Prop where
  expr : s.expr.Writable
  text : ∀ which text, Selection.text? which s = some text → Quotable text

/-- A writable expression can be selected. -/
lemma WritableSelection.ofExpr {e : Expr} (h : e.Writable) :
    WritableSelection (Selection.ofExpr e) where
  expr := h
  text which text htext := by
    rw [text?_ofExpr] at htext
    cases htext

/-- A text that can be written is attached to a selection. -/
lemma WritableSelection.attach {s : Selection} (h : WritableSelection s) (which : Attachment)
    {text : String} (hquotable : Quotable text) :
    WritableSelection (Selection.attach which text s) where
  expr := by
    rw [attach_expr]
    exact h.expr
  text other text' htext := by
    by_cases hne : which = other
    · subst hne
      rw [text?_attach, Option.some.injEq] at htext
      exact htext ▸ hquotable
    · rw [text?_attach_of_ne _ _ _ _ hne] at htext
      exact h.text other text' htext

/-- Writable entries keep the selections writable. -/
lemma writableSelection_foldl {which : Attachment} {star : Bool} {S : List Selection}
    {X : List (Expr × String)} (hS : ∀ s ∈ S, WritableSelection s)
    (hX : ∀ x ∈ X, x.1.Writable ∧ Quotable x.2) :
    ∀ s ∈ X.foldl (Query.attach which star) S, WritableSelection s :=
  forall_foldl_attach hS (fun x hx _ hs _ => hs.attach which (hX x hx).2)
    fun x hx => (WritableSelection.ofExpr (hX x hx).1).attach which (hX x hx).2

/-- The selections of writable clauses are writable. -/
lemma writable_selections {c : Clauses} (h : WritableClauses c) :
    ∀ s ∈ c.selections, WritableSelection s := by
  refine writableSelection_foldl (writableSelection_foldl (fun s hs => ?_) h.labels) h.formats
  obtain ⟨e, he, rfl⟩ := List.mem_map.1 hs
  cases hsel : c.selected? with
  | none =>
    rw [hsel] at he
    cases he
  | some es =>
    rw [hsel] at he
    exact .ofExpr ((h.selected es hsel).2 e he)

/-- A query that is made up from writable clauses is written as writable clauses. -/
lemma writableClauses_written {c : Clauses} (h : WritableClauses c) (hbound : Bound c) :
    WritableClauses c.toQuery.written := by
  have hattached (which : Attachment) :
      ∀ x ∈ attached which c.selections, x.1.Writable ∧ Quotable x.2 := by
    intro x hx
    obtain ⟨s, hs, hexpr, htext⟩ := mem_attached.1 hx
    have hwritable := writable_selections h s hs
    exact ⟨hexpr ▸ hwritable.expr, hwritable.text which _ htext⟩
  rw [written_toQuery hbound]
  exact ⟨h.selected, h.filter, h.groupBy, h.pivot, h.orderBy, h.limit, h.offset,
    hattached .label, hattached .format⟩

/-- The clauses with unsigned forms have labels and formats for selected expressions only. -/
lemma bound_unsigned {c : Clauses} (h : Bound c) : Bound c.unsigned := by
  intro es hes x hx
  obtain ⟨fs, hfs, rfl⟩ := Option.map_eq_some_iff.1 hes
  have hx : x ∈ (c.labels ++ c.formats).map unsignedEntry := by
    rwa [List.map_append]
  obtain ⟨y, hy, rfl⟩ := List.mem_map.1 hx
  exact List.mem_map.2 ⟨y.1, h fs hfs y hy, rfl⟩

/-- The expressions that entries are looked for among, after all unary plus signs are gone. -/
lemma columns_unsigned (c : Clauses) : c.unsigned.columns = c.columns.map Expr.unsigned := by
  unfold Clauses.columns
  cases hsel : c.selected? with
  | none =>
    have hmap (X : List (Expr × String)) :
        (X.map unsignedEntry).map Prod.fst = (X.map Prod.fst).map Expr.unsigned := by
      rw [List.map_map, List.map_map]
      rfl
    simp only [Clauses.unsigned, hsel, Option.map_none, List.map_append, hmap]
  | some es => simp only [Clauses.unsigned, hsel, Option.map_some]

/-- What is known of a query that was read from a text. -/
structure FromText (extended : Bool) (q : Query) : Prop where
  extended_eq : q.extended = extended
  wellAttached : WellAttached q
  selections : ∀ s ∈ q.selections, s.expr.Writable
  written : WritableClauses q.written
  arity : extended = false → q.checkArity = .ok ()

/-- Every query that is read from a text is from a text. -/
lemma fromText_of_parse {text : String} {extended : Bool} {q : Query}
    (h : parse text extended = .ok q) : FromText extended q := by
  obtain ⟨c, hc, rfl, harity⟩ := parse_eq_ok_iff.1 h
  obtain ⟨hstatement, hbound⟩ := clauses_eq_ok_iff.1 hc
  have hwritable := hstatement.writable fun t ht => Token.genuine_of_mem_scanAll ht
  obtain ⟨hformats, hlabels, hfirst, hsome⟩ := wellAttached_toQuery c
  exact ⟨rfl, ⟨hformats, hlabels, hfirst, hsome⟩,
    fun s hs => (writable_selections hwritable s hs).expr,
    writableClauses_written hwritable hbound, harity⟩

/-- The query that the printed text of a query is read as. -/
def reparsed (q : Query) : Query :=
  { q.written.unsigned.toQuery with extended := q.extended }

/-- The numbers of arguments stay right. -/
lemma FromText.checkArity_reparsed {extended : Bool} {q : Query} (h : FromText extended q)
    (hextended : extended = false) : q.reparsed.checkArity = .ok () := by
  obtain ⟨hs, hf, hk⟩ := checkArity_eq_ok_iff.1 (h.arity hextended)
  refine checkArity_eq_ok_iff.2 ⟨?_, ?_, ?_⟩
  · intro s hmem
    have hcolumn : s.expr ∈ q.written.unsigned.columns :=
      (mem_columns (bound_unsigned (bound_written q))).1 (List.mem_map.2 ⟨s, hmem, rfl⟩)
    rw [columns_unsigned] at hcolumn
    obtain ⟨e, he, hexpr⟩ := List.mem_map.1 hcolumn
    obtain ⟨t, ht, rfl⟩ := exists_selection_of_mem_columns he
    rw [← hexpr]
    exact checkArity_unsigned (h.selections t ht) (hs t ht)
  · intro e he
    obtain ⟨e', he', rfl⟩ := Option.map_eq_some_iff.1 he
    exact checkArity_unsigned (h.written.filter e' he') (hf e' he')
  · intro k hmem
    obtain ⟨k', hk', rfl⟩ := List.mem_map.1 hmem
    exact checkArity_unsigned (h.written.orderBy k' hk') (hk k' hk')

/-- The printed text of a query that was read from a text is read as the clauses that the query is
written as, without the unary plus signs. -/
lemma FromText.clauses_toText {extended : Bool} {q : Query} (h : FromText extended q) :
    clauses (Token.tokenize q.toText) = .ok q.written.unsigned := by
  rw [← toText_written]
  exact clauses_eq_ok_iff.2 ⟨h.written.statement, bound_unsigned (bound_written q)⟩

/-- The printed text of a query that was read from a text is read again. -/
lemma FromText.parse_toText {extended : Bool} {q : Query} (h : FromText extended q) :
    parse q.toText extended = .ok q.reparsed := by
  refine parse_eq_ok_iff.2 ⟨_, h.clauses_toText, ?_, h.checkArity_reparsed⟩
  rw [reparsed, h.extended_eq]

/-! ## Trees -/

/-- A query in which no two different selected expressions become the same is read again without
its unary plus signs. -/
lemma FromText.reparsed_eq {extended : Bool} {q : Query} (h : FromText extended q)
    (hdistinct : ∀ s ∈ q.selections, ∀ t ∈ q.selections,
      s.expr.unsigned = t.expr.unsigned → s.expr = t.expr) : q.reparsed = q.unsigned := by
  have hback := (h.wellAttached.unsigned hdistinct).toQuery_written
  rw [written_unsigned] at hback
  rw [reparsed, hback]
  rfl

/-- **Parsing undoes printing.**  The printed text of a query that was read from a text is read as
the query without its unary plus signs, if no two different selected expressions become the same by
that; so a query without unary plus is read as it was. -/
theorem parse_toText_eq_unsigned {text : String} {extended : Bool} {q : Query}
    (h : parse text extended = .ok q) :
    ((∀ s ∈ q.selections, ∀ t ∈ q.selections,
        s.expr.unsigned = t.expr.unsigned → s.expr = t.expr) →
      parse q.toText extended = .ok q.unsigned) ∧
    (q.hasPlus = false → parse q.toText extended = .ok q) := by
  have hfrom := fromText_of_parse h
  constructor
  · intro hdistinct
    rw [hfrom.parse_toText, hfrom.reparsed_eq hdistinct]
  · intro hplus
    have hself := unsigned_eq_self hplus
    have hdistinct : ∀ s ∈ q.selections, ∀ t ∈ q.selections,
        s.expr.unsigned = t.expr.unsigned → s.expr = t.expr := by
      have hexpr : ∀ s ∈ q.selections, s.expr.unsigned = s.expr := by
        intro s hs
        have hnot : s.expr.hasPlus = false := by
          simp only [hasPlus, Bool.or_eq_false_iff, List.any_eq_false, Bool.not_eq_true] at hplus
          exact hplus.1.1 s hs
        exact Expr.unsigned_eq_self hnot
      intro s hs t ht heq
      rwa [hexpr s hs, hexpr t ht] at heq
    rw [hfrom.parse_toText, hfrom.reparsed_eq hdistinct, hself]

/-- The labels of two expressions, one of them with a unary plus, find their expressions again. -/
theorem parse_toText_eq_unsigned_labels :
    ∃ q, parse "select upper(+a), lower(b) where +c = 1 label lower(b) 'x', upper(+a) 'y'" false =
        .ok q ∧
      parse q.toText false = .ok q.unsigned := by
  obtain ⟨q, hq, hdistinct⟩ := exists_eq_ok
    (parse "select upper(+a), lower(b) where +c = 1 label lower(b) 'x', upper(+a) 'y'" false)
    (fun q => decide (∀ s ∈ q.selections, ∀ t ∈ q.selections,
      s.expr.unsigned = t.expr.unsigned → s.expr = t.expr)) (by decide +kernel)
  exact ⟨q, hq, (parse_toText_eq_unsigned hq).1 (of_decide_eq_true hdistinct)⟩

/-! ## Texts -/

/-- The expressions of a query that a printed text is read as are their own unsigned forms. -/
lemma unsigned_of_mem_reparsed {q : Query} {s : Selection} (hs : s ∈ q.reparsed.selections) :
    s.expr.unsigned = s.expr := by
  have hcolumn : s.expr ∈ q.written.unsigned.columns :=
    (mem_columns (bound_unsigned (bound_written q))).1 (List.mem_map.2 ⟨s, hs, rfl⟩)
  rw [columns_unsigned] at hcolumn
  obtain ⟨e, -, hexpr⟩ := List.mem_map.1 hcolumn
  rw [← hexpr, Expr.unsigned_unsigned]

/-- A query that a printed text is read as is its own unsigned form. -/
lemma unsigned_reparsed (q : Query) : q.reparsed.unsigned = q.reparsed := by
  have hs : q.reparsed.selections.map unsignedSelection = q.reparsed.selections := by
    refine (List.map_congr_left fun s hs => ?_).trans (List.map_id _)
    simp [unsignedSelection, unsigned_of_mem_reparsed hs]
  have hc : q.written.unsigned.unsigned = q.written.unsigned := unsigned_unsigned q.written
  have hf : q.reparsed.filter?.map Expr.unsigned = q.reparsed.filter? :=
    congrArg Clauses.filter? hc
  have hk : q.reparsed.orderBy.map unsignedKey = q.reparsed.orderBy :=
    congrArg Clauses.orderBy hc
  rw [unsigned, hs, hf, hk]

/-- After one round nothing changes any more. -/
lemma FromText.reparsed_reparsed {extended : Bool} {q : Query} (h : FromText extended q.reparsed) :
    q.reparsed.reparsed = q.reparsed := by
  have hdistinct : ∀ s ∈ q.reparsed.selections, ∀ t ∈ q.reparsed.selections,
      s.expr.unsigned = t.expr.unsigned → s.expr = t.expr := by
    intro s hs t ht heq
    rwa [unsigned_of_mem_reparsed hs, unsigned_of_mem_reparsed ht] at heq
  rw [h.reparsed_eq hdistinct, unsigned_reparsed]

/-- The clauses that a query is written as after one round come back exactly if they were in
order. -/
lemma written_reparsed_iff (q : Query) :
    q.reparsed.written = q.written.unsigned ↔ Orderly q.written.unsigned :=
  written_toQuery_iff (bound_unsigned (bound_written q)) (flags_toQuery_written q).1

/-- **When printing is idempotent.**  The printed text of a query that was read from a text is read
again.  What is read then has the same printed text exactly if the labels and formats of the query
are in the order of the first places of their expressions after all unary plus signs are gone; and
from then on reading and printing change nothing. -/
theorem toText_eq_iff_orderly {text : String} {extended : Bool} {q : Query}
    (h : parse text extended = .ok q) :
    ∃ r, parse q.toText extended = .ok r ∧
      (r.toText = q.toText ↔ Orderly q.written.unsigned) ∧
      parse r.toText extended = .ok r := by
  have hfrom := fromText_of_parse h
  have hread := hfrom.parse_toText
  have hfrom' := fromText_of_parse hread
  have hsame : q.reparsed.written.unsigned = q.reparsed.written := by
    rw [← written_unsigned, unsigned_reparsed]
  refine ⟨q.reparsed, hread, ?_, ?_⟩
  · rw [← written_reparsed_iff]
    constructor
    · intro htext
      have hclauses := hfrom.clauses_toText
      rw [← htext, hfrom'.clauses_toText, hsame] at hclauses
      exact Except.ok.inj hclauses
    · intro hwritten
      rw [← toText_written q.reparsed, hwritten, toText_unsigned, toText_written]
  · rw [hfrom'.parse_toText, hfrom'.reparsed_reparsed]

/-- Labels in the order of the selected expressions are printed as they were. -/
theorem toText_eq_iff_orderly_labels :
    ∃ q r, parse "select upper(+a), lower(b) label upper(+a) 'x', lower(b) 'y'" false = .ok q ∧
      parse q.toText false = .ok r ∧ r.toText = q.toText := by
  obtain ⟨q, hq, horderly⟩ := exists_eq_ok
    (parse "select upper(+a), lower(b) label upper(+a) 'x', lower(b) 'y'" false)
    (fun q => decide (Orderly q.written.unsigned)) (by decide +kernel)
  obtain ⟨r, hr, hiff, -⟩ := toText_eq_iff_orderly hq
  exact ⟨q, r, hq, hr, hiff.2 (of_decide_eq_true horderly)⟩

/-- **Printing is not idempotent.**  Without the unary plus two labels are for the same expression,
and the first of them is lost in the second round. -/
theorem toText_reparsed_ne :
    ∃ q r, parse "select upper(+a), upper(a) label upper(+a) 'x', upper(a) 'y'" false = .ok q ∧
      parse q.toText false = .ok r ∧
      q.toText = "SELECT upper(a), upper(a) LABEL upper(a) 'x', upper(a) 'y'" ∧
      r.toText = "SELECT upper(a), upper(a) LABEL upper(a) 'y'" := by
  obtain ⟨q, hq, htext⟩ := exists_eq_ok
    (parse "select upper(+a), upper(a) label upper(+a) 'x', upper(a) 'y'" false)
    (fun q => decide
      (q.toText = "SELECT upper(a), upper(a) LABEL upper(a) 'x', upper(a) 'y'"))
    (by decide +kernel)
  obtain ⟨r, hr, htext'⟩ := exists_eq_ok
    (parse "SELECT upper(a), upper(a) LABEL upper(a) 'x', upper(a) 'y'" false)
    (fun r => decide (r.toText = "SELECT upper(a), upper(a) LABEL upper(a) 'y'"))
    (by decide +kernel)
  have htext := of_decide_eq_true htext
  exact ⟨q, r, hq, htext ▸ hr, htext, of_decide_eq_true htext'⟩

end ChartQuery.Query
