import ChartQuery.Proofs.RoundTrip
import ChartQuery.Sql.Compile

/-!
# Printing keeps the meaning of a query

Neither the terms that expressions become nor the columns that they read depend on unary plus
signs.  So the statement for a query and the statement for what its printed text is read as are the
same, even where the two queries differ as trees.
-/

namespace ChartQuery.Sql

/-! ## Expressions -/

mutual

/-- An expression and its unsigned form read the same columns. -/
theorem columnNames_unsigned : ∀ e : Expr, columnNames e.unsigned = columnNames e
  | ⟨kind, text, args, emptyCall⟩ => by
    have hargs := columnNamesOfAll_unsigned args
    have hempty : (Expr.unsignedAll args).isEmpty = args.isEmpty := by
      rw [Expr.unsignedAll_eq_map, List.isEmpty_map]
    rw [Expr.unsigned]
    rcases Expr.unsignedNode_cases kind text (Expr.unsignedAll args) emptyCall with
      ⟨rfl, e, he⟩ | hkeep
    · rw [he] at hargs ⊢
      simpa [columnNames, columnNamesOfAll, Expr.unsignedNode] using hargs
    · rw [hkeep _ rfl]
      cases kind <;> simp only [columnNames, hargs, hempty]

/-- The same for the expressions of a list. -/
theorem columnNamesOfAll_unsigned : ∀ es : List Expr,
    columnNamesOfAll (Expr.unsignedAll es) = columnNamesOfAll es
  | [] => rfl
  | e :: es => by
    rw [Expr.unsignedAll, columnNamesOfAll, columnNamesOfAll, columnNames_unsigned e,
      columnNamesOfAll_unsigned es]

end

/-- A list becomes terms one by one. -/
lemma terms_map_congr {d : Dialect} {f : Expr → Expr} {es : List Expr}
    (h : ∀ e ∈ es, term d (f e) = term d e) : terms d (es.map f) = terms d es := by
  induction es with
  | nil => rfl
  | cons e es ih =>
    rw [List.map_cons, terms, terms, h e List.mem_cons_self,
      ih fun e' he' => h e' (List.mem_cons_of_mem e he')]

/-- A unary plus becomes the term of its operand. -/
lemma term_pos (d : Dialect) (symbol : String) (e : Expr) :
    term d (.unary .pos symbol e) = term d e := by
  simp only [Expr.unary, term, terms]
  cases term d e <;> rfl

/-- **The unary plus is not sent.**  A writable expression and its unsigned form become the same
term, or fail alike. -/
theorem term_unsigned (d : Dialect) {e : Expr} (h : e.Writable) :
    term d e.unsigned = term d e := by
  induction h with
  | number _ | string _ | truth _ | literal _ _ _ | column _ => simp
  | aggregate _ _ _ => simp
  | call _ _ _ ih =>
    rw [Expr.unsigned_call]
    simp only [Expr.call, term, terms_map_congr ih, List.isEmpty_map]
  | positive _ ih => rw [Expr.unsigned_pos, term_pos, ih]
  | negative _ ih | not _ ih | isNull _ ih | isNotNull _ ih =>
    rw [Expr.unsigned_unary _ _ _ (by decide)]
    simp only [Expr.unary, term, terms, ih]
  | joined _ _ _ _ ihl ihr | word _ _ _ ihl ihr =>
    rw [Expr.unsigned_binary]
    simp only [Expr.binary, term, terms, ihl, ihr]

/-! ## Queries -/

open Query (reparsed FromText parse unsignedKey)

/-- A step for each element of a list depends on the elements only through what the step makes of
them. -/
lemma mapM_map_congr {α β : Type} {f : α → Except Failure β} {g : α → α} {as : List α}
    (h : ∀ a ∈ as, f (g a) = f a) : (as.map g).mapM f = as.mapM f := by
  induction as with
  | nil => rfl
  | cons a as ih =>
    rw [List.map_cons, List.mapM_cons, List.mapM_cons, h a List.mem_cons_self,
      ih fun b hb => h b (List.mem_cons_of_mem a hb)]

/-- The selected expressions of what the printed text of a query is read as. -/
lemma map_expr_reparsed {q : Query} (hstar : q.star = false) :
    q.reparsed.selections.map (·.expr) = (q.selections.map (·.expr)).map Expr.unsigned := by
  have hexpr := Query.map_expr_selections (Query.bound_unsigned (Query.bound_written q))
  have hselected : q.written.unsigned.selected? =
      some ((q.selections.map (·.expr)).map Expr.unsigned) := by
    simp [Query.written, Query.Clauses.unsigned, hstar]
  rw [hselected] at hexpr
  exact hexpr

/-- A query and what its printed text is read as select all columns alike. -/
lemma star_reparsed (q : Query) : q.reparsed.star = q.star := by
  simp only [reparsed, Query.Clauses.toQuery, Query.written, Query.Clauses.unsigned]
  cases q.star <;> rfl

/-- The same columns are read. -/
lemma readColumns_reparsed (q : Query) : readColumns q.reparsed = readColumns q := by
  have hselected : (if q.reparsed.star then [] else
        q.reparsed.selections.flatMap fun s => columnNames s.expr) =
      if q.star then [] else q.selections.flatMap fun s => columnNames s.expr := by
    rw [star_reparsed]
    cases hstar : q.star with
    | true => rfl
    | false =>
      have hflat (S : List Selection) : (S.flatMap fun s => columnNames s.expr) =
          (S.map (·.expr)).flatMap columnNames := (List.flatMap_map _ _ _).symm
      rw [if_neg Bool.false_ne_true, if_neg Bool.false_ne_true, hflat, hflat,
        map_expr_reparsed hstar, List.flatMap_map]
      simp only [columnNames_unsigned]
  have hfilter : q.reparsed.filter?.toList.flatMap columnNames =
      q.filter?.toList.flatMap columnNames := by
    change (q.filter?.map Expr.unsigned).toList.flatMap columnNames = _
    cases q.filter? with
    | none => rfl
    | some e => simp [columnNames_unsigned]
  have horder : (q.reparsed.orderBy.flatMap fun k => columnNames k.expr) =
      q.orderBy.flatMap fun k => columnNames k.expr := by
    change ((q.orderBy.map unsignedKey).flatMap fun k => columnNames k.expr) = _
    rw [List.flatMap_map]
    simp only [unsignedKey, columnNames_unsigned]
  unfold readColumns
  rw [hselected, hfilter, horder]
  rfl

/-- The same items are read. -/
lemma items_reparsed {extended : Bool} {q : Query} (h : FromText extended q) (d : Dialect) :
    items d q.reparsed = items d q := by
  unfold items
  rw [star_reparsed]
  cases hstar : q.star with
  | true => rfl
  | false =>
    have hterms : terms d (q.reparsed.selections.map (·.expr)) =
        terms d (q.selections.map (·.expr)) := by
      rw [map_expr_reparsed hstar]
      refine terms_map_congr fun e he => ?_
      obtain ⟨s, hs, rfl⟩ := List.mem_map.1 he
      exact term_unsigned d (h.selections s hs)
    rw [hterms]
    rfl

/-- The same statement is made, or the same error. -/
lemma select_reparsed {extended : Bool} {q : Query} (h : FromText extended q) (d : Dialect)
    (access : Access) : select d access q.reparsed = select d access q := by
  have hfilter : q.reparsed.filter?.mapM (term d) = q.filter?.mapM (term d) := by
    change (q.filter?.map Expr.unsigned).mapM (term d) = _
    cases hf : q.filter? with
    | none => rfl
    | some e =>
      have hterm := term_unsigned d (h.written.filter e hf)
      simp only [Option.map_some, Option.mapM_some, hterm]
  have horder (f : SortKey → Except Failure Ordering)
      (hf : ∀ k ∈ q.orderBy, f (unsignedKey k) = f k) :
      q.reparsed.orderBy.mapM f = q.orderBy.mapM f := mapM_map_congr hf
  unfold select
  rw [items_reparsed h, hfilter, readTables, readColumns_reparsed, horder]
  · rfl
  · intro k hk
    have hterm := term_unsigned d (h.written.orderBy k hk)
    simp only [unsignedKey, hterm]

/-- **Printing keeps the meaning.**  The printed text of a query that was read from a text is read
again, and in every dialect of SQL, whatever tables may be read, the statement for what is read is
the statement for the query, or both fail with the same error. -/
theorem compile_reparsed {text : String} {extended : Bool} {q : Query}
    (h : parse text extended = .ok q) :
    ∃ r, parse q.toText extended = .ok r ∧
      ∀ d, d ≠ .gql → ∀ access, compile d access r = compile d access q := by
  have hfrom := Query.fromText_of_parse h
  refine ⟨q.reparsed, hfrom.parse_toText, fun d hd access => ?_⟩
  have hselect := select_reparsed hfrom d access
  cases d with
  | gql => exact absurd rfl hd
  | mySql | postgreSql => simp only [compile, hselect]

/-- A unary plus in the filter is lost in the printed text and not missed in the statement. -/
theorem compile_reparsed_filter :
    ∃ q r, parse "select a where +b = 1" false = .ok q ∧ parse q.toText false = .ok r ∧ r ≠ q ∧
      ∀ d, d ≠ .gql → ∀ access, compile d access r = compile d access q := by
  obtain ⟨q, hq, hplus⟩ := exists_eq_ok (parse "select a where +b = 1" false)
    (fun q => decide (q.reparsed ≠ q)) (by decide +kernel)
  obtain ⟨r, hr, hcompile⟩ := compile_reparsed hq
  have heq := Except.ok.inj (hr.symm.trans (Query.fromText_of_parse hq).parse_toText)
  exact ⟨q, r, hq, hr, heq ▸ of_decide_eq_true hplus, hcompile⟩

end ChartQuery.Sql
