import ChartQuery.Proofs.Statement

/-!
# The tables of a statement

Access to tables is controlled where the FROM list of a statement is made.  The main result says
exactly what is listed there, in terms of what the query refers to, and that no column of the
statement is looked up in a table that is not listed.
-/

namespace ChartQuery.Sql

/-! ## Qualifiers -/

namespace Term

mutual

/-- The tables that the columns of a term are looked up in by name. -/
def qualifiers : Term → List String
  | verbatim _ | string _ | column none _ | temporal _ _ => []
  | column (some table) _ => [table]
  | before _ e | after e _ | extract _ e | integral e | group e => qualifiers e
  | between l _ r | position l r => qualifiers l ++ qualifiers r
  | apply _ _ args => qualifiersOfAll args

/-- The tables that the columns of the terms of a list are looked up in by name. -/
def qualifiersOfAll : List Term → List String
  | [] => []
  | e :: es => qualifiers e ++ qualifiersOfAll es

end

/-- The qualifiers of a list are those of its terms. -/
lemma mem_qualifiersOfAll {es : List Term} {table : String} :
    table ∈ qualifiersOfAll es ↔ ∃ e ∈ es, table ∈ e.qualifiers := by
  induction es with
  | nil => simp [qualifiersOfAll]
  | cons e es ih => rw [qualifiersOfAll, List.mem_append, ih, List.exists_mem_cons_iff]

end Term

/-- Whether the qualifiers of a term are among the given tables. -/
def Within (tables : List String) (t : Term) : Prop := ∀ table ∈ t.qualifiers, table ∈ tables

/-- Templates bring no qualifiers of their own. -/
lemma congruence_within (tables : List String) :
    Congruence (fun _ => True) (Same (Within tables)) (Same (Within tables)) where
  weaken h := h
  texts _ _ := trivial
  verbatim _ := ⟨rfl, fun _ h => nomatch h⟩
  string _ := ⟨rfl, fun _ h => nomatch h⟩
  before := fun _ ⟨ha, h⟩ => ⟨by rw [ha], h⟩
  after := fun _ ⟨ha, h⟩ => ⟨by rw [ha], h⟩
  between := fun _ ⟨ha, h⟩ ⟨hb, h'⟩ => ⟨by rw [ha, hb], fun table hmem =>
    (List.mem_append.1 hmem).elim (h table) (h' table)⟩
  apply := fun {_ _ as as'} _ _ has => by
    obtain rfl : as = as' := List.forall₂_eq_eq_eq ▸ has.imp fun _ _ h => h.1
    refine ⟨rfl, fun table hmem => ?_⟩
    obtain ⟨a, ha, htable⟩ := Term.mem_qualifiersOfAll.1 hmem
    exact forall₂_same_iff.1 has a ha table htable
  position := fun ⟨ha, h⟩ ⟨hb, h'⟩ => ⟨by rw [ha, hb], fun table hmem =>
    (List.mem_append.1 hmem).elim (h table) (h' table)⟩
  extract := fun _ ⟨ha, h⟩ => ⟨by rw [ha], h⟩
  integral := fun ⟨ha, h⟩ => ⟨by rw [ha], h⟩
  group := fun ⟨ha, h⟩ => ⟨by rw [ha], h⟩

/-- The column of a name is looked up in the table that the name refers to. -/
lemma within_columnTerm {tables : List String} {name : String} (h : tableOf name ∈ tables) :
    Within tables (columnTerm name) := by
  unfold Within columnTerm
  unfold tableOf at h
  cases hname : qualified? name with
  | none => exact fun _ hmem => nomatch hmem
  | some p =>
    rw [hname] at h
    exact fun table hmem => List.mem_singleton.1 hmem ▸ h

/-- All symbols of operators are allowed where all texts are. -/
lemma fitsOperator_true (op : Operator) (symbol : String) :
    FitsOperator (fun _ => True) op symbol := by
  cases op <;> trivial

mutual

/-- The qualifiers of the term of an expression are tables that its columns refer to. -/
theorem within_term (d : Dialect) (tables : List String) : ∀ e : Expr,
    (∀ name ∈ columnNames e, tableOf name ∈ tables) →
    Outcome (Same (Within tables)) (term d e) (term d e)
  | ⟨kind, text, args, emptyCall⟩, h => by
    have hcongr := congruence_within tables
    have hargs := within_terms d tables args
    cases kind with
    | number | string | boolean => exact .ok ⟨rfl, fun _ h => nomatch h⟩
    | temporal k =>
      rw [term]
      unfold temporalTerm
      split
      · exact .ok ⟨rfl, fun _ h => nomatch h⟩
      · exact .error _
    | name =>
      rw [term]
      rw [columnNames] at h
      split at h
      · next hbare =>
        rw [if_pos hbare]
        exact .ok ⟨rfl, within_columnTerm (h text (List.mem_singleton_self _))⟩
      · next hcall =>
        rw [if_neg hcall]
        exact (hargs h).bind fun as as' has => hcongr.applyFunction has fun _ =>
          hcongr.apply trivial trivial has
    | op op =>
      rw [term]
      rw [columnNames] at h
      exact (hargs h).bind fun as as' has => hcongr.applyOperator has (fitsOperator_true _ _)
        fun _ => hcongr.apply trivial trivial has

/-- The same for the expressions of a list. -/
theorem within_terms (d : Dialect) (tables : List String) : ∀ es : List Expr,
    (∀ name ∈ columnNamesOfAll es, tableOf name ∈ tables) →
    Outcome (List.Forall₂ (Same (Within tables))) (terms d es) (terms d es)
  | [], _ => .ok .nil
  | e :: es, h => by
    rw [columnNamesOfAll, List.forall_mem_append] at h
    rw [terms]
    exact (within_term d tables e h.1).bind fun t t' ht =>
      (within_terms d tables es h.2).bind fun ts ts' hts => .ok (.cons ht hts)

end

/-- The qualifiers of a statement are tables that its query refers to. -/
lemma refers_of_mem_qualifiers {d : Dialect} {access : Access} {q : Query} {s : Select}
    (h : select d access q = .ok s) {t : Term} (ht : t ∈ s.terms) {table : String}
    (hmem : table ∈ t.qualifiers) : Refers q table := by
  have hname {name : String} (hname : q.Mentions name) : tableOf name ∈ readTables q :=
    mem_readTables.2 ⟨name, hname, refersTo_iff.2 rfl⟩
  have hwithin : ∀ t ∈ s.terms, Within (readTables q) t := by
    refine forall_terms_select h (fun name hgroup => ?_) fun e he t ht => ?_
    · rcases List.mem_append.1 hgroup with hpivot | hgroup
      · exact within_columnTerm (hname (.inl hpivot))
      · exact within_columnTerm (hname (.inr (.inl hgroup)))
    · refine (within_term d _ e fun name hcolumn => ?_).of_ok ht
      exact hname (.inr (.inr ⟨e, he, mem_columnNames.1 hcolumn⟩))
  exact mem_readTables.1 (hwithin t ht table hmem)

/-! ## The FROM list -/

/-- The tables of a statement as they are written: the default table part by part, and the others as
single names. -/
lemma map_printTable_listedTables (d : Dialect) (access : Access) (q : Query) :
    (listedTables access q).map (Select.printTable d) =
      (if listsDefault access q then [d.quoteTable access.defaultTable] else []) ++
        (otherTables access q).map d.quoteName := by
  have hothers : (otherTables access q).map (fun t => Select.printTable d [t]) =
      (otherTables access q).map d.quoteName := by
    refine List.map_congr_left fun t _ => ?_
    simp [Select.printTable]
  rw [listedTables, List.map_append, List.map_map]
  cases listsDefault access q with
  | true => exact congrArg (_ :: ·) hothers
  | false => exact hothers

/-- **Table access control is exact.**  In the FROM list of a statement the default table stands
first, quoted part by part, exactly if the query refers to it or to nothing, and then the other
tables that the query refers to, in ascending order and each once.  All of those are allowed, and
every column that is looked up in a table by name is looked up in a listed table. -/
theorem fromList_of_compile {d : Dialect} (hd : d ≠ .gql) {access : Access} {q : Query}
    {sql : String} (h : compile d access q = .ok sql) :
    ∃ (s : Select) (first others : List String), select d access q = .ok s ∧
      sql = s.startClause d ++ " FROM " ++
        Select.commaSeparated (first ++ others.map d.quoteName) ++ s.afterTables d ∧
      (NeedsDefault access q → first = [d.quoteTable access.defaultTable]) ∧
      (¬ NeedsDefault access q → first = []) ∧
      others.Pairwise (· < ·) ∧
      (∀ t, t ∈ others ↔ Refers q t ∧ t ≠ "" ∧ t ≠ access.defaultTable) ∧
      (∀ t ∈ others, t ∈ access.allowed) ∧
      ∀ e ∈ s.terms, ∀ t ∈ e.qualifiers, t ≠ "" →
        (t = access.defaultTable ∧ NeedsDefault access q) ∨ t ∈ others := by
  obtain ⟨s, hs, rfl⟩ := compile_eq_ok hd h
  obtain ⟨haccess, htables⟩ := tables_select hs
  refine ⟨s, if listsDefault access q then [d.quoteTable access.defaultTable] else [],
    otherTables access q, hs, ?_, fun hneeds => ?_, fun hneeds => ?_,
    pairwise_otherTables access q, fun t => mem_otherTables,
    fun t ht => haccess.others t (mem_otherTables.1 ht), fun e he t ht hne => ?_⟩
  · rw [s.print_eq, htables, map_printTable_listedTables]
  · rw [if_pos (listsDefault_iff.2 hneeds)]
  · rw [if_neg (mt listsDefault_iff.1 hneeds)]
  · have hrefers := refers_of_mem_qualifiers hs he ht
    by_cases hdefault : t = access.defaultTable
    · exact .inl ⟨hdefault, .inr (.inr (hdefault ▸ hrefers))⟩
    · exact .inr (mem_otherTables.2 ⟨hrefers, hne, hdefault⟩)

/-- The default table is listed for a name without a point, and another table after it. -/
theorem fromList_of_compile_dept :
    ∃ (q : Query) (s : Select) (first others : List String),
      compile .mySql ⟨"employees", ["dept"]⟩ q =
        .ok "SELECT `dept`.`name`, `salary` FROM `employees`, `dept`" ∧
      select .mySql ⟨"employees", ["dept"]⟩ q = .ok s ∧
      "SELECT `dept`.`name`, `salary` FROM `employees`, `dept`" =
        s.startClause .mySql ++ " FROM " ++
          Select.commaSeparated (first ++ others.map Dialect.mySql.quoteName) ++
          s.afterTables .mySql ∧
      (NeedsDefault ⟨"employees", ["dept"]⟩ q → first = ["`employees`"]) ∧
      ∀ t, t ∈ others ↔ Refers q t ∧ t ≠ "" ∧ t ≠ "employees" := by
  let q : Query := { Query.all with
    star := false
    selections := [.ofExpr (.leaf .name "dept.name"), .ofExpr (.leaf .name "salary")] }
  have hcompile : compile .mySql ⟨"employees", ["dept"]⟩ q =
      .ok "SELECT `dept`.`name`, `salary` FROM `employees`, `dept`" := by decide +kernel
  have hne : Dialect.mySql ≠ .gql := by decide
  obtain ⟨s, first, others, hs, hsql, hfirst, -, -, hothers, -⟩ :=
    fromList_of_compile hne hcompile
  have hquoted : Dialect.mySql.quoteTable "employees" = "`employees`" := by decide +kernel
  exact ⟨q, s, first, others, hcompile, hs, hsql, hquoted ▸ hfirst, hothers⟩

end ChartQuery.Sql
