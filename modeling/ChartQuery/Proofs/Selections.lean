import ChartQuery.Proofs.Collecting
import ChartQuery.Proofs.FirstAppearances

/-!
# The query that clauses make up

Labels and formats are attached to the selected expressions entry by entry, each to the first place
of its expression.  What is attached at a place in the end does not need the order of this work to
be told: it is a function of the entries, of the expressions and of the place (`Query.textFor`).
One entry changes what is attached at one place (`Query.text?_attach_at`), and the rest follows by
induction on the entries.

`Query.Clauses.MakeUp` describes all of the query that clauses make up in this way, and there is one
such query only.
-/

namespace ChartQuery.Query

variable {which other : Attachment} {star : Bool} {S : List Selection} {es fs : List Expr}
  {X : List (Expr × String)} {x : Expr × String} {c : Clauses} {q r : Query}

/-! ## The expressions of entries -/

/-- A list is extended by what is new, at the first appearance of it. -/
lemma foldl_extend_eq (es fs : List Expr) :
    fs.foldl extend es = es ++ (fs.filter (· ∉ es)).eraseDups := by
  induction fs using List.reverseRecOn with
  | nil => simp
  | append_singleton fs f ih =>
    have hmem : f ∈ fs.foldl extend es ↔ f ∈ es ∨ f ∈ fs := mem_foldl_extend
    rw [List.foldl_append, List.foldl_cons, List.foldl_nil, List.filter_append, extend]
    by_cases hes : f ∈ es
    · have hnone : [f].filter (· ∉ es) = [] := by simp [hes]
      rw [if_pos (hmem.2 (.inl hes)), hnone, List.append_nil, ih]
    · have hsome : [f].filter (· ∉ es) = [f] := by simp [hes]
      have hfilter : f ∈ fs.filter (· ∉ es) ↔ f ∈ fs := by simp [hes]
      rw [hsome, eraseDups_concat]
      by_cases hfs : f ∈ fs
      · rw [if_pos (hmem.2 (.inr hfs)), if_pos (hfilter.2 hfs), ih]
      · rw [if_neg (hmem.not.2 (not_or.2 ⟨hes, hfs⟩)), if_neg (hfilter.not.2 hfs), ih,
          List.append_assoc]

/-- What is in a list keeps its first place when the list is extended. -/
lemma idxOf_foldl_extend {e : Expr} (h : e ∈ es) : (fs.foldl extend es).idxOf e = es.idxOf e := by
  rw [foldl_extend_eq, List.idxOf_append_of_mem h]

/-! ## What is attached at a place -/

/-- The text that entries have for a place among expressions: that of the last entry for the
expression there, if the place is the first one of the expression. -/
def textFor (X : List (Expr × String)) (es : List Expr) (i : Nat) : Option String :=
  match es[i]? with
  | some e => if es.idxOf e = i then X.reverse.lookup e else none
  | none => none

/-- Nothing is attached by no entries. -/
lemma textFor_nil (es : List Expr) (i : Nat) : textFor [] es i = none := by
  unfold textFor
  split
  · exact ite_self none
  · rfl

/-- A place is the first one of an element if the element is there, at the first of its places. -/
lemma idxOf_eq_iff {e f : Expr} {i : Nat} (hf : f ∈ es) (he : es[i]? = some e) :
    es.idxOf f = i ↔ e = f ∧ es.idxOf e = i := by
  constructor
  · rintro rfl
    rw [List.getElem?_idxOf hf] at he
    obtain rfl := Option.some.inj he
    exact ⟨rfl, rfl⟩
  · rintro ⟨rfl, hfirst⟩
    exact hfirst

/-- One more entry in front has a text for the first place of its expression only, and another one
after it has precedence. -/
lemma textFor_cons (hx : x.1 ∈ es) (i : Nat) :
    textFor (x :: X) es i = (textFor X es i).or (if es.idxOf x.1 = i then some x.2 else none) := by
  unfold textFor
  cases he : es[i]? with
  | none =>
    have hne : es.idxOf x.1 ≠ i := by
      rintro rfl
      rw [List.getElem?_idxOf hx] at he
      cases he
    rw [if_neg hne]
    rfl
  | some e =>
    dsimp only
    by_cases hfirst : es.idxOf e = i
    · have hlast : [x].lookup e = if es.idxOf x.1 = i then some x.2 else none := by
        have hiff : es.idxOf x.1 = i ↔ e = x.1 := by
          rw [idxOf_eq_iff hx he, and_iff_left hfirst]
        by_cases hex : e = x.1
        · rw [if_pos (hiff.2 hex), hex, List.lookup_cons_self]
        · rw [if_neg (hiff.not.2 hex)]
          simp [hex]
      rw [if_pos hfirst, if_pos hfirst, List.reverse_cons, List.lookup_append, hlast]
    · have hne : es.idxOf x.1 ≠ i := fun hi => hfirst ((idxOf_eq_iff hx he).1 hi).2
      rw [if_neg hfirst, if_neg hfirst, if_neg hne]
      rfl

/-- An entry attaches its text at the first place of its expression, which may be a new one. -/
lemma text?_attach_at (hfresh : ¬ Fresh which star) (i : Nat) :
    (attach which star S x)[i]?.bind (Selection.text? which) =
      if (extend (S.map Selection.expr) x.1).idxOf x.1 = i then some x.2
      else S[i]?.bind (Selection.text? which) := by
  rcases attach_cases which star S x with ⟨-, P, s, T, rfl, hs, hP, heq⟩ | ⟨hnew | hnew, heq⟩
  · have hmem : x.1 ∈ (P ++ s :: T).map Selection.expr := by simp [hs]
    have hplace : ((P ++ s :: T).map Selection.expr).idxOf x.1 = P.length := by
      rw [List.map_append, List.idxOf_append_of_notMem hP, List.map_cons, hs,
        List.idxOf_cons_self, List.length_map, Nat.add_zero]
    have hset : P ++ Selection.attach which x.2 s :: T =
        (P ++ s :: T).set P.length (Selection.attach which x.2 s) := by simp
    rw [heq, extend, if_pos hmem, hplace, hset, List.getElem?_set]
    by_cases hi : P.length = i
    · subst hi
      simp
    · rw [if_neg hi, if_neg hi]
  · exact absurd hnew hfresh
  · have hplace : (S.map Selection.expr ++ [x.1]).idxOf x.1 = S.length := by
      rw [List.idxOf_append_of_notMem hnew, List.idxOf_cons_self, List.length_map, Nat.add_zero]
    rw [heq, extend, if_neg hnew, hplace]
    by_cases hi : S.length = i
    · subst hi
      simp
    · rw [if_neg hi]
      by_cases hlt : i < S.length
      · rw [List.getElem?_append_left hlt]
      · have hbeyond : S.length < i := by omega
        have hlength : (S ++ [Selection.attach which x.2 (.ofExpr x.1)]).length ≤ i := by
          simpa using Nat.succ_le_of_lt hbeyond
        rw [List.getElem?_eq_none hlength, List.getElem?_eq_none hbeyond.le]

/-- An entry of one sort leaves the texts of the other as they are. -/
lemma text?_attach_at_of_ne (hne : which ≠ other) (i : Nat) :
    (attach which star S x)[i]?.bind (Selection.text? other) =
      S[i]?.bind (Selection.text? other) := by
  rcases attach_cases which star S x with ⟨-, P, s, T, rfl, -, -, heq⟩ | ⟨-, heq⟩
  · have hset : P ++ Selection.attach which x.2 s :: T =
        (P ++ s :: T).set P.length (Selection.attach which x.2 s) := by simp
    rw [heq, hset, List.getElem?_set]
    by_cases hi : P.length = i
    · subst hi
      simp [text?_attach_of_ne _ _ _ _ hne]
    · rw [if_neg hi]
  · rw [heq, List.getElem?_append]
    split
    · rfl
    · next hge =>
      rw [List.getElem?_eq_none (Nat.le_of_not_lt hge), Option.bind_none, List.getElem?_singleton]
      split
      · rw [Option.bind_some, text?_attach_of_ne _ _ _ _ hne, text?_ofExpr]
      · rfl

/-- What is attached at a place after all entries of a clause: the text that they have for the
place, or else what was attached there before. -/
lemma text?_foldl_attach (hfresh : ¬ Fresh which star) (i : Nat) :
    (X.foldl (attach which star) S)[i]?.bind (Selection.text? which) =
      (textFor X ((X.foldl (attach which star) S).map Selection.expr) i).or
        (S[i]?.bind (Selection.text? which)) := by
  induction X generalizing S with
  | nil => rw [textFor_nil, Option.none_or, List.foldl_nil]
  | cons x X ih =>
    have hexpr : ((x :: X).foldl (attach which star) S).map Selection.expr =
        (X.map Prod.fst).foldl extend (extend (S.map Selection.expr) x.1) :=
      map_expr_foldl hfresh S (x :: X)
    have hmem : x.1 ∈ extend (S.map Selection.expr) x.1 := by
      unfold extend
      split
      · next h => exact h
      · exact List.mem_append_right _ List.mem_cons_self
    rw [hexpr, textFor_cons (mem_foldl_extend.2 (.inl hmem)), idxOf_foldl_extend hmem, ← hexpr,
      List.foldl_cons, ih, text?_attach_at hfresh, Option.or_assoc]
    split <;> rfl

/-- The entries of one sort leave the texts of the other as they are. -/
lemma text?_foldl_attach_of_ne (hne : which ≠ other) (i : Nat) :
    (X.foldl (attach which star) S)[i]?.bind (Selection.text? other) =
      S[i]?.bind (Selection.text? other) := by
  induction X generalizing S with
  | nil => rfl
  | cons x X ih => rw [List.foldl_cons, ih, text?_attach_at_of_ne hne]

/-- Nothing is attached to selections that begin. -/
lemma text?_map_ofExpr (which : Attachment) (es : List Expr) (i : Nat) :
    (es.map Selection.ofExpr)[i]?.bind (Selection.text? which) = none := by
  rw [List.getElem?_map]
  cases es[i]? with
  | none => rfl
  | some e => exact text?_ofExpr which e

/-! ## What the clauses of a query attach -/

/-- The label at a place: the text that the entries have for the place among the selected
expressions; if all columns are selected, each label has a place of its own. -/
def Clauses.labelAt (c : Clauses) (i : Nat) : Option String :=
  match c.selected? with
  | some es => textFor c.labels es i
  | none => c.labels[i]?.map Prod.snd

/-- The labels of the selections in the end. -/
lemma label_selections (hbound : Grammar.Bound c) (i : Nat) :
    c.selections[i]?.bind (Selection.text? .label) = c.labelAt i := by
  rw [selections_eq, text?_foldl_attach_of_ne (by decide), Clauses.labelAt]
  cases hsel : c.selected? with
  | some es =>
    have hexpr : c.labelled.map Selection.expr = es := by
      rw [map_expr_labelled hbound, hsel, Option.getD_some]
    have hlabelled : c.labelled =
        c.labels.foldl (attach .label false) (es.map Selection.ofExpr) := by
      rw [Clauses.labelled, hsel]
      rfl
    rw [hlabelled, text?_foldl_attach not_fresh_label, ← hlabelled, hexpr, text?_map_ofExpr,
      Option.or_none]
  | none =>
    rw [labelled_of_none hsel, List.getElem?_map]
    cases c.labels[i]? <;> rfl

/-- The formats of the selections in the end. -/
lemma format_selections (c : Clauses) (i : Nat) :
    c.selections[i]?.bind (Selection.text? .format) =
      textFor c.formats (c.selections.map Selection.expr) i := by
  have hnone : c.labelled[i]?.bind (Selection.text? .format) = none := by
    rw [Clauses.labelled, text?_foldl_attach_of_ne (by decide), text?_map_ofExpr]
  rw [selections_eq, text?_foldl_attach (not_fresh_format _), hnone, Option.or_none]

/-- **The selections in the end.**  Each is the expression at its place with the texts that the
entries of both clauses have for the place. -/
theorem getElem?_selections (hbound : Grammar.Bound c) (hes : c.selected? = some es)
    (i : Nat) : c.selections[i]? =
      es[i]?.map fun e => ⟨e, textFor c.labels es i, textFor c.formats es i⟩ := by
  have hexpr : c.selections.map Selection.expr = es := by
    rw [map_expr_selections hbound, hes]
  have hlabel : c.selections[i]?.bind (Selection.text? .label) = textFor c.labels es i := by
    rw [label_selections hbound, Clauses.labelAt, hes]
  have hformat : c.selections[i]?.bind (Selection.text? .format) = textFor c.formats es i := by
    rw [format_selections, hexpr]
  have hplace : es[i]? = c.selections[i]?.map Selection.expr := by
    rw [← hexpr, List.getElem?_map]
  rw [hplace]
  cases hs : c.selections[i]? with
  | none => rfl
  | some s =>
    rw [hs, Option.bind_some] at hlabel hformat
    exact congrArg some (congrArg₂ (Selection.mk s.expr) hlabel hformat)

/-! ## Queries -/

/-- `c.MakeUp q`: the query `q` is made up from the clauses `c`.

With a select list, its selections are of the listed expressions.  Without one they are what labels
and formats are attached to: an entry for each label, and behind these one for each further
expression with a format, in the order in which these appear first.  A format stands at the first
place of its expression; so does a label of a select list, and of several the last one counts. -/
structure Clauses.MakeUp (c : Clauses) (q : Query) : Prop where
  star : q.star = true ↔ c.selected? = none
  selected : ∀ es, c.selected? = some es → q.selections.map Selection.expr = es
  attached : c.selected? = none → ∃ further,
    FirstAppearances further ((c.formats.map Prod.fst).filter (· ∉ c.labels.map Prod.fst)) ∧
      q.selections.map Selection.expr = c.labels.map Prod.fst ++ further
  label : ∀ (i : Nat) s, q.selections[i]? = some s → s.label? = c.labelAt i
  format : ∀ (i : Nat) s, q.selections[i]? = some s →
    s.format? = textFor c.formats (q.selections.map Selection.expr) i
  filter : q.filter? = c.filter?
  groupBy : q.groupBy = c.groupBy
  pivot : q.pivot = c.pivot
  orderBy : q.orderBy = c.orderBy
  limit : q.limit = c.limit
  offset : q.offset = c.offset
  noFormat : q.noFormat = true ↔ Flag.noFormat ∈ c.flags
  noValues : q.noValues = true ↔ Flag.noValues ∈ c.flags
  extended : q.extended = false

/-- Clauses whose labels and formats are bound make up a query. -/
lemma makeUp_toQuery (hbound : Grammar.Bound c) : c.MakeUp c.toQuery where
  star := Option.isNone_iff_eq_none
  selected es hes := by
    change c.selections.map Selection.expr = es
    rw [map_expr_selections hbound, hes]
  attached hnone := by
    refine ⟨_, firstAppearances_eraseDups _, ?_⟩
    change c.selections.map Selection.expr = _
    rw [map_expr_selections hbound, hnone]
    exact foldl_extend_eq _ _
  label i s hs := by
    have hs : c.selections[i]? = some s := hs
    have hlabel := label_selections hbound i
    rwa [hs, Option.bind_some] at hlabel
  format i s hs := by
    have hs : c.selections[i]? = some s := hs
    have hformat := format_selections c i
    rwa [hs, Option.bind_some] at hformat
  filter := rfl
  groupBy := rfl
  pivot := rfl
  orderBy := rfl
  limit := rfl
  offset := rfl
  noFormat := List.contains_iff_mem
  noValues := List.contains_iff_mem
  extended := rfl

/-- Clauses make up queries of the same expressions only. -/
lemma Clauses.MakeUp.map_expr_eq (hq : c.MakeUp q) (hr : c.MakeUp r) :
    q.selections.map Selection.expr = r.selections.map Selection.expr := by
  cases hsel : c.selected? with
  | some es => rw [hq.selected es hsel, hr.selected es hsel]
  | none =>
    obtain ⟨further, hfirst, hexpr⟩ := hq.attached hsel
    obtain ⟨further', hfirst', hexpr'⟩ := hr.attached hsel
    rw [hexpr, hexpr', hfirst.unique hfirst']

/-- **Clauses make up one query only.** -/
theorem Clauses.MakeUp.unique (hq : c.MakeUp q) (hr : c.MakeUp r) : q = r := by
  have hexpr := hq.map_expr_eq hr
  have hselections : q.selections = r.selections := by
    refine List.ext_getElem? fun i => ?_
    have hplace := congrArg (·[i]?) hexpr
    simp only [List.getElem?_map] at hplace
    cases hs : q.selections[i]? with
    | none =>
      rw [hs] at hplace
      exact (Option.map_eq_none_iff.1 hplace.symm).symm
    | some s =>
      rw [hs] at hplace
      obtain ⟨s', hs', hsame⟩ := Option.map_eq_some_iff.1 hplace.symm
      have hlabel : s.label? = s'.label? := (hq.label i s hs).trans (hr.label i s' hs').symm
      have hformat : s.format? = s'.format? := by
        rw [hq.format i s hs, hr.format i s' hs', hexpr]
      rw [hs']
      cases s
      cases s'
      cases hsame
      cases hlabel
      cases hformat
      rfl
  have hstar : q.star = r.star := Bool.eq_iff_iff.2 (hq.star.trans hr.star.symm)
  have hnoFormat : q.noFormat = r.noFormat := Bool.eq_iff_iff.2 (hq.noFormat.trans hr.noFormat.symm)
  have hnoValues : q.noValues = r.noValues := Bool.eq_iff_iff.2 (hq.noValues.trans hr.noValues.symm)
  have hfilter := hq.filter.trans hr.filter.symm
  have hgroupBy := hq.groupBy.trans hr.groupBy.symm
  have hpivot := hq.pivot.trans hr.pivot.symm
  have horderBy := hq.orderBy.trans hr.orderBy.symm
  have hlimit := hq.limit.trans hr.limit.symm
  have hoffset := hq.offset.trans hr.offset.symm
  have hextended := hq.extended.trans hr.extended.symm
  cases q
  cases r
  simp only [Query.mk.injEq]
  exact ⟨hstar, hselections, hfilter, hgroupBy, hpivot, horderBy, hlimit, hoffset, hnoFormat,
    hnoValues, hextended⟩

end ChartQuery.Query
