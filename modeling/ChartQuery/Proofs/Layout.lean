import ChartQuery.Proofs.Statement
import ChartQuery.Query.Parser

/-!
# The layout of a pivoted result

A result that is to be pivoted begins with the columns of the pivot, then come those of the groups,
and then the selected expressions.  Labels are put on its columns by their places, and the pivot
reads its keys from the first of them, so the statement has to list its items in this order.  It
does whenever the query lists the expressions that it selects.  A query of all columns asks for them
with an asterisk and has nothing before it.
-/

namespace ChartQuery.Sql

/-! ## Columns -/

/-- The text of a column in a statement. -/
def columnText (d : Dialect) (name : String) : String := (columnTerm name).print d

/-- The text of a column begins with a quote. -/
lemma toList_columnText (d : Dialect) (name : String) :
    ∃ cs, (columnText d name).toList = d.quoteChar :: cs := by
  have hquoted (s : String) : ∃ cs, (d.quoteName s).toList = d.quoteChar :: cs :=
    ⟨(Text.doubled d.quoteChar s).toList ++ [d.quoteChar], by simp [Dialect.quoteName]⟩
  unfold columnText columnTerm
  cases qualified? name with
  | none => exact hquoted name
  | some p =>
    obtain ⟨cs, hcs⟩ := hquoted p.1
    refine ⟨cs ++ ("." ++ d.quoteName p.2).toList, ?_⟩
    change (d.quoteName p.1 ++ "." ++ d.quoteName p.2).toList = _
    rw [String.append_assoc, String.toList_append, hcs, List.cons_append]

/-! ## Items -/

/-- Whether the items of a statement are laid out as a pivoted result has to be: the columns of the
pivot, those of the groups, and then the selected expressions of a query that lists them. -/
structure LaidOut (d : Dialect) (q : Query) (texts : List String) : Prop where
  leads : texts.take q.injectedColumns =
    q.pivot.map (columnText d) ++ q.groupBy.map (columnText d)
  selected : q.star = false →
    List.Forall₂ (fun s text => ∃ t, term d s.expr = .ok t ∧ text = t.print d)
      q.selections (texts.drop q.injectedColumns)

/-- The items of a statement are those of its query. -/
lemma items_select {d : Dialect} {access : Access} {q : Query} {s : Select}
    (h : select d access q = .ok s) : items d q = .ok s.items? := by
  unfold select at h
  obtain ⟨items?, hitems, h⟩ := bind_eq_ok.1 h
  obtain ⟨_, _, h⟩ := bind_eq_ok.1 h
  obtain ⟨_, _, h⟩ := bind_eq_ok.1 h
  obtain ⟨_, _, h⟩ := bind_eq_ok.1 h
  cases h
  exact hitems

/-- The terms of a list are those of its expressions, one by one. -/
lemma forall₂_terms {d : Dialect} {es : List Expr} {ts : List Term} (h : terms d es = .ok ts) :
    List.Forall₂ (fun e t => term d e = .ok t) es ts := by
  induction es generalizing ts with
  | nil =>
    cases h
    exact .nil
  | cons e es ih =>
    rw [terms] at h
    obtain ⟨t, ht, h⟩ := bind_eq_ok.1 h
    obtain ⟨ts, hts, h⟩ := bind_eq_ok.1 h
    cases h
    exact .cons ht (ih hts)

/-- The columns that stand before the selected expressions because of a pivot. -/
lemma injectedColumns_eq {q : Query} (h : q.hasPivot = true) :
    q.injectedColumns = (groupTerms q).length := by
  rw [Query.injectedColumns, if_pos h, groupTerms, List.length_map, List.length_append]

/-- The items of a pivoted query that lists what it selects. -/
lemma laidOut_items {d : Dialect} {q : Query} (hpivot : q.hasPivot = true)
    (hstar : q.star = false) {items? : Option (List Term)} (h : items d q = .ok items?) :
    ∃ ts, items? = some ts ∧ LaidOut d q (ts.map (·.print d)) := by
  unfold items at h
  rw [hstar, hpivot] at h
  obtain ⟨selected, hselected, h⟩ := bind_eq_ok.1 h
  cases h
  have hlead : q.injectedColumns = ((groupTerms q).map (·.print d)).length := by
    rw [List.length_map, injectedColumns_eq hpivot]
  refine ⟨groupTerms q ++ selected, rfl, ?_, fun _ => ?_⟩
  · rw [List.map_append, hlead, List.take_left, groupTerms, List.map_map, List.map_append]
    rfl
  · rw [List.map_append, hlead, List.drop_left]
    have hterms := forall₂_terms hselected
    rw [List.forall₂_map_left_iff] at hterms
    rw [List.forall₂_map_right_iff]
    exact hterms.imp fun s t ht => ⟨t, ht, rfl⟩

/-- What is laid out as a pivoted result begins with a quote. -/
lemma LaidOut.toList_commaSeparated {d : Dialect} {q : Query} {texts : List String}
    (h : LaidOut d q texts) (hpivot : q.hasPivot = true) :
    ∃ cs, (Select.commaSeparated texts).toList = d.quoteChar :: cs := by
  have hleads := h.leads
  cases hnames : q.pivot with
  | nil => simp [Query.hasPivot, hnames] at hpivot
  | cons name names =>
    cases texts with
    | nil => simp [hnames] at hleads
    | cons text texts =>
      have hinjected : q.injectedColumns = names.length + q.groupBy.length + 1 := by
        rw [Query.injectedColumns, if_pos hpivot, hnames, List.length_cons]
        omega
      rw [hinjected, hnames, List.take_succ_cons, List.map_cons, List.cons_append] at hleads
      obtain ⟨cs, hcs⟩ := toList_columnText d name
      have htext : text = columnText d name := (List.cons.inj hleads).1
      rw [Select.commaSeparated, intercalate_cons_eq, String.toList_append, htext, hcs]
      exact ⟨_, rfl⟩

/-- A text that begins with an asterisk has no items that are laid out as a pivoted result. -/
lemma LaidOut.ne_asterisk {d : Dialect} {q : Query} {texts : List String} (h : LaidOut d q texts)
    (hpivot : q.hasPivot = true) (rest rest' : String) :
    "SELECT *" ++ rest ≠ "SELECT " ++ (Select.commaSeparated texts ++ rest') := by
  intro hsql
  obtain ⟨cs, hcs⟩ := h.toList_commaSeparated hpivot
  have hstart : "SELECT *".toList = "SELECT ".toList ++ ['*'] := by decide +kernel
  have hchars := congrArg String.toList hsql
  simp only [String.toList_append, hcs, hstart, List.append_assoc, List.append_right_inj,
    List.cons_append, List.cons.injEq] at hchars
  have hquote : '*' = d.quoteChar := hchars.1
  cases d <;> cases hquote

/-! ## Statements -/

/-- **The layout of a pivoted result.**  The items of the statement for a query with a pivot begin
with the columns of the pivot and those of the groups, in order, and go on with the selected
expressions, exactly if the query lists what it selects.  For a query of all columns the statement
begins with an asterisk. -/
theorem laidOut_iff_listed {d : Dialect} (hd : d ≠ .gql) {access : Access} {q : Query}
    (hpivot : q.hasPivot = true) {sql : String} (h : compile d access q = .ok sql) :
    ((∃ (texts : List String) (rest : String),
        sql = "SELECT " ++ Select.commaSeparated texts ++ " FROM " ++ rest ∧ LaidOut d q texts) ↔
      q.star = false) ∧
    (q.star = true → ∃ rest, sql = "SELECT * FROM " ++ rest) := by
  obtain ⟨s, hs, rfl⟩ := compile_eq_ok hd h
  have hitems := items_select hs
  have hstarted (start : String) (hstart : s.startClause d = start) : ∃ rest,
      s.print d = start ++ " FROM " ++ rest := by
    refine ⟨Select.commaSeparated (s.tables.map (Select.printTable d)) ++ s.afterTables d, ?_⟩
    rw [s.print_eq, hstart]
    simp only [String.append_assoc]
  have hall (hstar : q.star = true) : ∃ rest, s.print d = "SELECT *" ++ " FROM " ++ rest := by
    refine hstarted "SELECT *" ?_
    unfold items at hitems
    rw [if_pos hstar] at hitems
    rw [Select.startClause, ← Except.ok.inj hitems]
  refine ⟨⟨?_, ?_⟩, fun hstar => ?_⟩
  · rintro ⟨texts, rest, hsql, hlaid⟩
    rw [← Bool.not_eq_true]
    intro hstar
    obtain ⟨rest', hrest'⟩ := hall hstar
    refine hlaid.ne_asterisk hpivot (" FROM " ++ rest') (" FROM " ++ rest) ?_
    rw [← String.append_assoc, ← hrest', hsql, String.append_assoc, String.append_assoc]
  · intro hstar
    obtain ⟨ts, hts, hlaid⟩ := laidOut_items hpivot hstar hitems
    have hstart : s.startClause d = "SELECT " ++ Select.commaSeparated (ts.map (·.print d)) := by
      rw [Select.startClause, hts]
    obtain ⟨rest, hrest⟩ := hstarted _ hstart
    exact ⟨_, rest, hrest, hlaid⟩
  · obtain ⟨rest, hrest⟩ := hall hstar
    have hfrom : "SELECT *" ++ " FROM " = "SELECT * FROM " := by decide +kernel
    exact ⟨rest, by rw [hrest, hfrom]⟩

/-- A column that the groups have and that is also selected is listed twice. -/
theorem laidOut_iff_listed_twice :
    ∃ (q : Query) (sql : String), Query.parse "select a, max(b) group by a pivot `t.c`" true = .ok q ∧
      q.hasPivot = true ∧ compile .mySql ⟨"emp", ["t"]⟩ q = .ok sql ∧
      sql = "SELECT `t`.`c`, `a`, `a`, max(`b`) FROM `emp`, `t` GROUP BY `t`.`c`, `a`" ∧
      ∃ (texts : List String) (rest : String),
        sql = "SELECT " ++ Select.commaSeparated texts ++ " FROM " ++ rest ∧
          LaidOut .mySql q texts := by
  obtain ⟨q, hq, htest⟩ := exists_eq_ok
    (Query.parse "select a, max(b) group by a pivot `t.c`" true)
    (fun q => decide (q.hasPivot = true ∧ q.star = false ∧ compile .mySql ⟨"emp", ["t"]⟩ q =
      .ok "SELECT `t`.`c`, `a`, `a`, max(`b`) FROM `emp`, `t` GROUP BY `t`.`c`, `a`"))
    (by decide +kernel)
  obtain ⟨hpivot, hstar, hcompile⟩ := of_decide_eq_true htest
  have hlaid := (laidOut_iff_listed (by decide) hpivot hcompile).1.2 hstar
  exact ⟨q, _, hq, hpivot, hcompile, rfl, hlaid⟩

/-- **The columns of a pivot are missing after an asterisk.**  They are grouped by, but they are not
among the items. -/
theorem not_laidOut_asterisk :
    ∃ q, Query.parse "select * pivot dept" false = .ok q ∧ q.hasPivot = true ∧
      compile .mySql ⟨"emp", []⟩ q = .ok "SELECT * FROM `emp` GROUP BY `dept`" ∧
      ¬ ∃ (texts : List String) (rest : String),
        "SELECT * FROM `emp` GROUP BY `dept`" =
            "SELECT " ++ Select.commaSeparated texts ++ " FROM " ++ rest ∧
          LaidOut .mySql q texts := by
  obtain ⟨q, hq, htest⟩ := exists_eq_ok (Query.parse "select * pivot dept" false)
    (fun q => decide (q.hasPivot = true ∧
      compile .mySql ⟨"emp", []⟩ q = .ok "SELECT * FROM `emp` GROUP BY `dept`"))
    (by decide +kernel)
  obtain ⟨hpivot, hcompile⟩ := of_decide_eq_true htest
  refine ⟨q, hq, hpivot, hcompile, ?_⟩
  rintro ⟨texts, rest, hsql, hlaid⟩
  have hstart : "SELECT * FROM `emp` GROUP BY `dept`" = "SELECT *" ++ " FROM `emp` GROUP BY `dept`" :=
    by decide +kernel
  refine hlaid.ne_asterisk hpivot " FROM `emp` GROUP BY `dept`" (" FROM " ++ rest) ?_
  rw [← hstart, hsql, String.append_assoc, String.append_assoc]

end ChartQuery.Sql
