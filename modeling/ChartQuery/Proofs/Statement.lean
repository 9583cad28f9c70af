import ChartQuery.Proofs.Reading
import ChartQuery.Proofs.References
import ChartQuery.Proofs.Templates
import Mathlib.Data.Option.Basic

/-!
# How a statement is made

The steps in which the statement for a query is made, each with all that it can do: first the terms
of the compiled expressions, then the tables.  A query needs the default table if it refers to it,
by its name or without a name, or to no table at all; all other tables that it refers to have to be
allowed.
-/

namespace ChartQuery.Sql

/-! ## Tables -/

/-- Whether the default table has to be among the tables of the statement. -/
def NeedsDefault (access : Access) (q : Query) : Prop :=
  (∀ t, ¬ Refers q t) ∨ Refers q "" ∨ Refers q access.defaultTable

/-- `RefersElsewhere access q t`: the query refers to the table by its name, and it is not the
default table. -/
def RefersElsewhere (access : Access) (q : Query) (t : String) : Prop :=
  Refers q t ∧ t ≠ "" ∧ t ≠ access.defaultTable

/-- Whether all tables that a query needs are there and may be read. -/
structure Accessible (access : Access) (q : Query) : Prop where
  default : NeedsDefault access q → access.defaultTable ≠ ""
  others : ∀ t, RefersElsewhere access q t → t ∈ access.allowed

/-- The tables other than the default table that a query refers to, in their order. -/
def otherTables (access : Access) (q : Query) : List String :=
  (readTables q).filter fun t => !t.isEmpty && t != access.defaultTable

/-- The other tables are those that the query refers to elsewhere. -/
lemma mem_otherTables {access : Access} {q : Query} {t : String} :
    t ∈ otherTables access q ↔ RefersElsewhere access q t := by
  simp [otherTables, RefersElsewhere, mem_readTables]

/-- The other tables are in strictly ascending order. -/
lemma pairwise_otherTables (access : Access) (q : Query) :
    (otherTables access q).Pairwise (· < ·) :=
  (pairwise_sortedNames _).filter _

/-- Whether the statement lists the default table. -/
def listsDefault (access : Access) (q : Query) : Bool :=
  (readTables q).isEmpty || (readTables q).contains "" ||
    (readTables q).contains access.defaultTable

/-- The default table is listed exactly where it is needed. -/
lemma listsDefault_iff {access : Access} {q : Query} :
    listsDefault access q = true ↔ NeedsDefault access q := by
  simp only [listsDefault, Bool.or_eq_true, List.isEmpty_iff, List.contains_iff_mem,
    mem_readTables, List.eq_nil_iff_forall_not_mem, NeedsDefault, or_assoc]

/-- The parts of the names of the tables that the statement lists, the default table first. -/
def listedTables (access : Access) (q : Query) : List (List String) :=
  (if listsDefault access q then [Text.split '.' access.defaultTable] else []) ++
    (otherTables access q).map ([·])

/-- The tables of a query, step by step. -/
lemma tables_eq (d : Dialect) (access : Access) (q : Query) :
    tables d access (readTables q) =
      if listsDefault access q && access.defaultTable.isEmpty then .error .noDefaultTable
      else match (otherTables access q).find? fun t => !access.allowed.contains t with
        | some t => .error (.inaccessibleTable (d.quoteName t))
        | none => .ok (listedTables access q) := by
  unfold tables
  change (if listsDefault access q && access.defaultTable.isEmpty then _ else _) = _
  split
  · rfl
  · change (match (otherTables access q).find? fun t => !access.allowed.contains t with
      | some t => _
      | none => _) = _
    cases (otherTables access q).find? fun t => !access.allowed.contains t <;> rfl

/-- All that can come out for the tables of a query: they are listed, or the default table is
missing or one of the others is not allowed. -/
lemma tables_cases (d : Dialect) (access : Access) (q : Query) :
    (Accessible access q ∧ tables d access (readTables q) = .ok (listedTables access q)) ∨
    (¬ Accessible access q ∧ ∃ f, tables d access (readTables q) = .error f ∧
      f.reason = .accessDenied) := by
  rw [tables_eq]
  by_cases hmissing : listsDefault access q = true ∧ access.defaultTable = ""
  · refine .inr ⟨fun h => h.default (listsDefault_iff.1 hmissing.1) hmissing.2, ?_⟩
    rw [if_pos (by simp [hmissing])]
    exact ⟨_, rfl, rfl⟩
  · rw [if_neg (by simpa using hmissing)]
    cases hfind : (otherTables access q).find? fun t => !access.allowed.contains t with
    | some t =>
      have hmem := mem_otherTables.1 (List.mem_of_find?_eq_some hfind)
      have hnot : t ∉ access.allowed := by simpa using List.find?_some hfind
      exact .inr ⟨fun h => hnot (h.others t hmem), _, rfl, rfl⟩
    | none =>
      have hall := List.find?_eq_none.1 hfind
      refine .inl ⟨⟨fun hneeds hempty => hmissing ⟨listsDefault_iff.2 hneeds, hempty⟩,
        fun t ht => ?_⟩, rfl⟩
      simpa using hall t (mem_otherTables.2 ht)

/-! ## Statements of two queries -/

/-- Two statements have the same form: their terms are related one by one, and all else in them is
the same. -/
structure Select.Alike (R : Term → Term → Prop) (s s' : Select) : Prop where
  items : Option.Rel (List.Forall₂ R) s.items? s'.items?
  tables : s.tables = s'.tables
  filter : Option.Rel R s.filter? s'.filter?
  groupBy : List.Forall₂ R s.groupBy s'.groupBy
  orderBy : List.Forall₂ (fun o o' => R o.term o'.term ∧ o.descending = o'.descending)
    s.orderBy s'.orderBy
  limit : s.limit = s'.limit
  offset : s.offset = s'.offset

/-- Two queries have the same form: their expressions become related terms or fail alike, one by
one, the columns that they group by are related, and they refer to the same tables. -/
structure MadeAlike (d : Dialect) (R : Term → Term → Prop) (q q' : Query) : Prop where
  star : q.star = q'.star
  selections : q.star = false → List.Forall₂
    (fun s s' => Outcome R (term d s.expr) (term d s'.expr)) q.selections q'.selections
  filter : Option.Rel (fun e e' => Outcome R (term d e) (term d e')) q.filter? q'.filter?
  pivot : List.Forall₂ (fun n n' => R (columnTerm n) (columnTerm n')) q.pivot q'.pivot
  groupBy : List.Forall₂ (fun n n' => R (columnTerm n) (columnTerm n')) q.groupBy q'.groupBy
  orderBy : List.Forall₂ (fun k k' => Outcome R (term d k.expr) (term d k'.expr) ∧
    k.descending = k'.descending) q.orderBy q'.orderBy
  limit : q.limit = q'.limit
  offset : q.offset = q'.offset
  tables : readTables q = readTables q'

/-- A step that is made alike for what two options hold is made alike for the options. -/
lemma outcome_mapM_option {α β γ δ : Type} {R : γ → δ → Prop} {f : α → Except Failure γ}
    {g : β → Except Failure δ} {a? : Option α} {b? : Option β}
    (h : Option.Rel (fun a b => Outcome R (f a) (g b)) a? b?) :
    Outcome (Option.Rel R) (a?.mapM f) (b?.mapM g) := by
  cases h with
  | none => exact .ok .none
  | some h => exact h.bind fun c d hcd => .ok (.some hcd)

/-- Steps that are made alike for the elements of two lists are made alike for the lists. -/
lemma outcome_mapM {α β γ δ : Type} {R : γ → δ → Prop} {f : α → Except Failure γ}
    {g : β → Except Failure δ} {as : List α} {bs : List β}
    (h : List.Forall₂ (fun a b => Outcome R (f a) (g b)) as bs) :
    Outcome (List.Forall₂ R) (as.mapM f) (bs.mapM g) := by
  induction h with
  | nil => exact .ok .nil
  | cons hab _ ih =>
    rw [List.mapM_cons, List.mapM_cons]
    exact hab.bind fun c d hcd => ih.bind fun cs ds hcds => .ok (.cons hcd hcds)

section Related

variable {d : Dialect} {R : Term → Term → Prop} {q q' : Query}

/-- The columns that two queries of the same form group by are related. -/
lemma MadeAlike.groupTerms (h : MadeAlike d R q q') :
    List.Forall₂ R (groupTerms q) (groupTerms q') := by
  rw [Sql.groupTerms, Sql.groupTerms, List.forall₂_map_left_iff, List.forall₂_map_right_iff]
  exact List.rel_append h.pivot h.groupBy

/-- The items of two queries of the same form are made alike. -/
lemma MadeAlike.items (h : MadeAlike d R q q') :
    Outcome (Option.Rel (List.Forall₂ R)) (items d q) (items d q') := by
  have hpivot : q.hasPivot = q'.hasPivot := by
    rw [Query.hasPivot, Query.hasPivot, Bool.not_inj_iff]
    rw [Bool.eq_iff_iff, List.isEmpty_iff_length_eq_zero, List.isEmpty_iff_length_eq_zero,
      h.pivot.length_eq]
  unfold Sql.items
  rw [← h.star, ← hpivot]
  cases hstar : q.star with
  | true => exact .ok .none
  | false =>
    have hselected : Outcome (List.Forall₂ R) (terms d (q.selections.map (·.expr)))
        (terms d (q'.selections.map (·.expr))) := by
      apply outcome_terms
      rw [List.forall₂_map_left_iff, List.forall₂_map_right_iff]
      exact h.selections hstar
    refine hselected.bind fun ts ts' hts => .ok (.some (List.rel_append ?_ hts))
    cases q.hasPivot with
    | true => exact h.groupTerms
    | false => exact .nil

/-- **Queries of the same form become statements of the same form**, or fail alike. -/
theorem MadeAlike.select (h : MadeAlike d R q q') (access : Access) :
    Outcome (Select.Alike R) (select d access q) (select d access q') := by
  unfold Sql.select
  refine h.items.bind fun items items' hitems => ?_
  refine (outcome_mapM_option h.filter).bind fun filter filter' hfilter => ?_
  have horder := h.orderBy.imp fun k k' hk => hk.1.bind
    (S := fun o o' => R o.term o'.term ∧ o.descending = o'.descending)
    (f := fun t => .ok (⟨t, k.descending⟩ : Ordering))
    (g := fun t => .ok (⟨t, k'.descending⟩ : Ordering)) fun t t' ht => .ok ⟨ht, hk.2⟩
  refine (outcome_mapM horder).bind fun order order' horder' => ?_
  rw [h.tables]
  cases Sql.tables d access (readTables q') with
  | error f => exact .error f
  | ok listed =>
    exact .ok ⟨hitems, rfl, hfilter, h.groupTerms, horder', h.limit, h.offset⟩

end Related

/-! ## The text of a statement -/

/-- Texts with separators: the first one, and then each of the others with a separator before it. -/
lemma intercalate_cons_eq (sep s : String) (ss : List String) :
    sep.intercalate (s :: ss) = s ++ String.join (ss.map (sep ++ ·)) := by
  induction ss generalizing s with
  | nil => simp
  | cons t ss ih =>
    rw [String.intercalate_cons_cons, ih, List.map_cons, String.join_cons]
    simp only [String.append_assoc]

namespace Select

/-- The clause that a statement begins with. -/
def startClause (d : Dialect) (s : Select) : String :=
  match s.items? with
  | none => "SELECT *"
  | some items => "SELECT " ++ commaSeparated (items.map (·.print d))

/-- The clauses after the FROM clause. -/
def laterClauses (d : Dialect) (s : Select) : List String :=
  printClause "WHERE " (s.filter?.toList.map (·.print d)) ++
    printClause "GROUP BY " (s.groupBy.map (·.print d)) ++
    printClause "ORDER BY " (s.orderBy.map (printOrdering d)) ++
    printRange d s.limit s.offset

/-- What stands after the tables of a statement. -/
def afterTables (d : Dialect) (s : Select) : String :=
  String.join ((s.laterClauses d).map (" " ++ ·))

/-- The tables of a statement stand in its FROM clause, which is the second one. -/
lemma print_eq (d : Dialect) (s : Select) : s.print d =
    s.startClause d ++ " FROM " ++ commaSeparated (s.tables.map (printTable d)) ++
      s.afterTables d := by
  have hclauses : s.print d = " ".intercalate (s.startClause d ::
      ("FROM " ++ commaSeparated (s.tables.map (printTable d))) :: s.laterClauses d) := rfl
  have hfrom (t : String) : " " ++ ("FROM " ++ t) = " FROM " ++ t := by
    rw [← String.append_assoc]
    rfl
  rw [hclauses, intercalate_cons_eq, List.map_cons, String.join_cons, hfrom, afterTables]
  simp only [String.append_assoc]

end Select

/-! ## The statement of one query -/

/-- The terms of a statement, wherever they stand. -/
def Select.terms (s : Select) : List Term :=
  s.items?.getD [] ++ s.filter?.toList ++ s.groupBy ++ s.orderBy.map (·.term)

/-- If a statement is of its own form with a property of terms, all of its terms have it. -/
lemma Select.Alike.forall_terms {P : Term → Prop} {s : Select} (h : s.Alike (Same P) s) :
    ∀ t ∈ s.terms, P t := by
  obtain ⟨items?, tables, filter?, groupBy, orderBy, limit, offset⟩ := s
  have hitems : ∀ t ∈ items?.getD [], P t := by
    cases items? with
    | none => exact fun t ht => absurd ht List.not_mem_nil
    | some ts =>
      cases h.items with
      | some hts => exact forall₂_same_iff.1 hts
  have hfilter : ∀ t ∈ filter?.toList, P t := by
    cases filter? with
    | none => exact fun t ht => absurd ht List.not_mem_nil
    | some t =>
      cases h.filter with
      | some ht => exact fun t' ht' => List.mem_singleton.1 ht' ▸ ht.2
  have horder : ∀ o ∈ orderBy, P o.term := fun o ho =>
    ((List.forall₂_same.1 h.orderBy) o ho).1.2
  simp only [Select.terms, List.forall_mem_append, List.forall_mem_map]
  exact ⟨⟨⟨hitems, hfilter⟩, forall₂_same_iff.1 h.groupBy⟩, horder⟩

/-- What comes out for a query has a property if the columns that it groups by have it, and
whatever its compiled expressions become. -/
theorem forall_terms_select {d : Dialect} {access : Access} {q : Query} {s : Select}
    {P : Term → Prop} (h : select d access q = .ok s)
    (hcolumns : ∀ name ∈ q.pivot ++ q.groupBy, P (columnTerm name))
    (hterms : ∀ e ∈ q.compiled, ∀ t, term d e = .ok t → P t) : ∀ t ∈ s.terms, P t := by
  have hexpr (e : Expr) (he : e ∈ q.compiled) : Outcome (Same P) (term d e) (term d e) := by
    have hterm := hterms e he
    cases ht : term d e with
    | error f => exact .error f
    | ok t => exact .ok ⟨rfl, hterm t ht⟩
  have hcompiled := hexpr
  simp only [Query.compiled, List.forall_mem_append, List.forall_mem_map] at hcompiled hcolumns
  obtain ⟨⟨hselected, hfilter⟩, horder⟩ := hcompiled
  have hsame : MadeAlike d (Same P) q q :=
    { star := rfl
      selections := fun hstar => by
        rw [hstar] at hselected
        exact List.forall₂_same.2 fun s hs =>
          hselected s.expr (List.mem_map_of_mem hs)
      filter := by
        generalize q.filter? = filter? at hfilter
        cases filter? with
        | none => exact .none
        | some e => exact .some (hfilter e (List.mem_singleton_self e))
      pivot := List.forall₂_same.2 fun name hname => ⟨rfl, hcolumns.1 name hname⟩
      groupBy := List.forall₂_same.2 fun name hname => ⟨rfl, hcolumns.2 name hname⟩
      orderBy := List.forall₂_same.2 fun k hk => ⟨horder k hk, rfl⟩
      limit := rfl
      offset := rfl
      tables := rfl }
  have hselect := hsame.select access
  rw [h] at hselect
  cases hselect with
  | ok hs => exact hs.forall_terms

/-- The tables of a statement are those listed for its query. -/
lemma tables_select {d : Dialect} {access : Access} {q : Query} {s : Select}
    (h : select d access q = .ok s) : Accessible access q ∧ s.tables = listedTables access q := by
  unfold select at h
  obtain ⟨_, _, h⟩ := bind_eq_ok.1 h
  obtain ⟨_, _, h⟩ := bind_eq_ok.1 h
  obtain ⟨_, _, h⟩ := bind_eq_ok.1 h
  obtain ⟨listed, hlisted, h⟩ := bind_eq_ok.1 h
  cases h
  rcases tables_cases d access q with ⟨haccess, hok⟩ | ⟨-, f, herror, -⟩
  · rw [hok] at hlisted
    exact ⟨haccess, (Except.ok.inj hlisted).symm⟩
  · rw [herror] at hlisted
    cases hlisted

/-- What is compiled is the text of a statement. -/
lemma compile_eq_ok {d : Dialect} (hd : d ≠ .gql) {access : Access} {q : Query} {sql : String}
    (h : compile d access q = .ok sql) : ∃ s, select d access q = .ok s ∧ sql = s.print d := by
  cases d with
  | gql => exact absurd rfl hd
  | mySql | postgreSql =>
    obtain ⟨s, hs, h⟩ := bind_eq_ok.1 h
    cases h
    exact ⟨s, hs, rfl⟩

end ChartQuery.Sql
