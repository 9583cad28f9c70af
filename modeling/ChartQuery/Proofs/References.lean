import ChartQuery.Proofs.Splitting
import ChartQuery.Sql.Compile
import Mathlib.Data.String.Basic
import Mathlib.Tactic.Common

/-!
# What a query refers to

A statement is made from some of the expressions of a query.  On the way down from them, through
the arguments of calls and the operands of operators, stand the names of columns.  Together with the
names that the query groups and pivots by they decide which tables are read: a name with exactly one
point refers to the table before the point, and any other name to the default table.

These are relations and say nothing about the order of a walk; the lists that the compiler collects
hold exactly what they relate.
-/

namespace ChartQuery

/-! ## Parts of expressions -/

namespace Expr

/-- Whether the arguments of a node become terms of their own: those of calls and operators do. -/
def Kind.isInner : Kind → Bool
  | .name | .op _ => true
  | _ => false

/-- `Reaches e f`: the expression `f` is `e`, or stands below it as an argument or an operand. -/
inductive Reaches : Expr → Expr → Prop
  | here {e} : Reaches e e
  | inner {e arg f} : e.kind.isInner = true → arg ∈ e.args → Reaches arg f → Reaches e f

/-- What is reached from an expression is the expression, or is reached from below it. -/
lemma reaches_iff {e f : Expr} :
    Reaches e f ↔ f = e ∨ e.kind.isInner = true ∧ ∃ arg ∈ e.args, Reaches arg f := by
  constructor
  · rintro (_ | ⟨hkind, hmem, h⟩)
    · exact .inl rfl
    · exact .inr ⟨hkind, _, hmem, h⟩
  · rintro (rfl | ⟨hkind, arg, hmem, h⟩)
    · exact .here
    · exact .inner hkind hmem h

/-- What holds of everything that is reached from an expression holds of the expression, and of
everything that is reached from below it. -/
lemma forall_reaches_iff {p : Expr → Prop} {e : Expr} :
    (∀ f, Reaches e f → p f) ↔
      p e ∧ (e.kind.isInner = true → ∀ arg ∈ e.args, ∀ f, Reaches arg f → p f) := by
  constructor
  · exact fun h => ⟨h e .here, fun hkind arg harg f hf => h f (.inner hkind harg hf)⟩
  · rintro ⟨hself, hargs⟩ f hf
    rcases reaches_iff.1 hf with rfl | ⟨hkind, arg, harg, hf⟩
    · exact hself
    · exact hargs hkind arg harg f hf

end Expr

/-! ## Parts of queries -/

namespace Query

/-- The expressions that the statement for a query is made from. -/
def compiled (q : Query) : List Expr :=
  (if q.star then [] else q.selections.map (·.expr)) ++ q.filter?.toList ++
    q.orderBy.map (·.expr)

/-- `Mentions q name`: the name is that of a column which the query pivots or groups by, or which is
reached from one of its compiled expressions. -/
def Mentions (q : Query) (name : String) : Prop :=
  name ∈ q.pivot ∨ name ∈ q.groupBy ∨
    ∃ e ∈ q.compiled, ∃ f, e.Reaches f ∧ f.isBareName = true ∧ f.text = name

end Query

namespace Sql

open ChartQuery.Expr (Reaches)

/-! ## Names and tables -/

/-- `RefersTo name table`: the name has exactly one point and the table stands before it, or the
name has not and the table is the empty text, which stands for the default table. -/
def RefersTo (name table : String) : Prop :=
  (∃ column : String, '.' ∉ table.toList ∧ '.' ∉ column.toList ∧
    name = table ++ "." ++ column) ∨
  (name.toList.count '.' ≠ 1 ∧ table = "")

/-- `Refers q table`: a name that the query mentions refers to the table. -/
def Refers (q : Query) (table : String) : Prop :=
  ∃ name, q.Mentions name ∧ RefersTo name table

/-- A name with one point is taken apart at the point. -/
lemma qualified?_append {table column : String} (ht : '.' ∉ table.toList)
    (hc : '.' ∉ column.toList) : qualified? (table ++ "." ++ column) = some (table, column) := by
  have hsplit : Text.split '.' (table ++ "." ++ column) = [table, column] :=
    (Text.split_append ht column).trans (by rw [Text.split_eq_singleton hc])
  rw [qualified?, hsplit]

/-- A name without a point, or with more than one, is not taken apart. -/
lemma qualified?_eq_none {name : String} (h : name.toList.count '.' ≠ 1) :
    qualified? name = none := by
  have hlength : (Text.split '.' name).length ≠ 2 := by
    rw [Text.length_split]
    omega
  unfold qualified?
  split
  · next hsplit => exact absurd (by rw [hsplit]; rfl) hlength
  · rfl

/-- A name with exactly one point has a part before it and a part after it. -/
lemma exists_eq_append_of_count {name : String} (h : name.toList.count '.' = 1) :
    ∃ table column : String, '.' ∉ table.toList ∧ '.' ∉ column.toList ∧
      name = table ++ "." ++ column := by
  have hmem : '.' ∈ name.toList := List.count_pos_iff.1 (by omega)
  obtain ⟨before, after, hsplit⟩ := List.append_of_mem hmem
  rw [hsplit, List.count_append, List.count_cons_self] at h
  have hbefore : '.' ∉ before := List.count_eq_zero.1 (by omega)
  have hafter : '.' ∉ after := List.count_eq_zero.1 (by omega)
  refine ⟨String.ofList before, String.ofList after, by simpa using hbefore,
    by simpa using hafter, ?_⟩
  apply String.toList_injective
  simp [hsplit]

/-- A name refers to one table, the one that the compiler looks it up in. -/
lemma refersTo_iff {name table : String} : RefersTo name table ↔ tableOf name = table := by
  constructor
  · rintro (⟨column, ht, hc, rfl⟩ | ⟨hcount, rfl⟩)
    · rw [tableOf, qualified?_append ht hc]
    · rw [tableOf, qualified?_eq_none hcount]
  · rintro rfl
    by_cases hcount : name.toList.count '.' = 1
    · obtain ⟨table, column, ht, hc, rfl⟩ := exists_eq_append_of_count hcount
      refine .inl ⟨column, ?_⟩
      rw [tableOf, qualified?_append ht hc]
      exact ⟨ht, hc, rfl⟩
    · exact .inr ⟨hcount, by rw [tableOf, qualified?_eq_none hcount]⟩

/-! ## What the compiler collects -/

/-- A bare name is a node of its own. -/
lemma isBareName_mk {kind : Expr.Kind} {text : String} {args : List Expr} {emptyCall : Bool} :
    (⟨kind, text, args, emptyCall⟩ : Expr).isBareName = true ↔
      kind = .name ∧ args = [] ∧ emptyCall = false := by
  simp [Expr.isBareName, and_assoc]

mutual

/-- The names collected from an expression are those of the columns reached from it. -/
theorem mem_columnNames : ∀ {e : Expr} {name : String}, name ∈ columnNames e ↔
    ∃ f, e.Reaches f ∧ f.isBareName = true ∧ f.text = name
  | ⟨kind, text, args, emptyCall⟩, name => by
    have hargs := @mem_columnNamesOfAll args name
    by_cases hbare : kind = .name ∧ args = [] ∧ emptyCall = false
    · obtain ⟨rfl, rfl, rfl⟩ := hbare
      constructor
      · intro h
        exact ⟨_, .here, rfl, (List.mem_singleton.1 h).symm⟩
      · rintro ⟨f, h, -, rfl⟩
        rcases Expr.reaches_iff.1 h with rfl | ⟨-, arg, hmem, -⟩
        · exact List.mem_singleton_self _
        · cases hmem
    · have hbelow : (∃ f, Reaches ⟨kind, text, args, emptyCall⟩ f ∧ f.isBareName = true ∧
          f.text = name) ↔ kind.isInner = true ∧ ∃ arg ∈ args, ∃ f, arg.Reaches f ∧
            f.isBareName = true ∧ f.text = name := by
        constructor
        · rintro ⟨f, h, hname, htext⟩
          rcases Expr.reaches_iff.1 h with rfl | ⟨hkind, arg, hmem, harg⟩
          · exact absurd (isBareName_mk.1 hname) hbare
          · exact ⟨hkind, arg, hmem, f, harg, hname, htext⟩
        · rintro ⟨hkind, arg, hmem, f, harg, hname, htext⟩
          exact ⟨f, .inner hkind hmem harg, hname, htext⟩
      rw [hbelow, ← hargs]
      cases kind with
      | name =>
        have hcall : (args.isEmpty && !emptyCall) = false := by
          rw [Bool.eq_false_iff]
          intro hleaf
          exact hbare (by simpa using hleaf)
        simp [columnNames, hcall, Expr.Kind.isInner]
      | op _ => simp [columnNames, Expr.Kind.isInner]
      | number | string | boolean | temporal => simp [columnNames, Expr.Kind.isInner]

/-- The same for the expressions of a list. -/
theorem mem_columnNamesOfAll : ∀ {es : List Expr} {name : String}, name ∈ columnNamesOfAll es ↔
    ∃ e ∈ es, ∃ f, e.Reaches f ∧ f.isBareName = true ∧ f.text = name
  | [], _ => by simp [columnNamesOfAll]
  | e :: es, name => by
    rw [columnNamesOfAll, List.mem_append, mem_columnNames, mem_columnNamesOfAll,
      List.exists_mem_cons_iff]

end

/-- The names collected from a query are those that it mentions. -/
lemma mem_readColumns {q : Query} {name : String} : name ∈ readColumns q ↔ q.Mentions name := by
  have hselected :
      name ∈ (if q.star then [] else q.selections.flatMap fun s => columnNames s.expr) ↔
        ∃ e ∈ (if q.star then [] else q.selections.map (·.expr)), name ∈ columnNames e := by
    cases q.star <;> simp
  have hcompiled : (∃ e ∈ q.compiled, name ∈ columnNames e) ↔
      (∃ e ∈ (if q.star then [] else q.selections.map (·.expr)), name ∈ columnNames e) ∨
        (∃ e ∈ q.filter?.toList, name ∈ columnNames e) ∨
          ∃ k ∈ q.orderBy, name ∈ columnNames k.expr := by
    simp only [Query.compiled, List.mem_append, or_and_right, exists_or, List.mem_map,
      exists_exists_and_eq_and, or_assoc]
  unfold Query.Mentions readColumns
  simp only [← mem_columnNames]
  rw [hcompiled]
  simp only [List.mem_append, hselected, List.mem_flatMap]
  grind

/-! ## Names in order -/

/-- Inserting a name adds it and nothing else. -/
lemma mem_insertName {s t : String} {names : List String} :
    t ∈ Text.insertName s names ↔ t = s ∨ t ∈ names := by
  induction names with
  | nil => simp [Text.insertName]
  | cons u names ih =>
    unfold Text.insertName
    split
    · rw [List.mem_cons]
    split
    · next h => simp [h]
    · rw [List.mem_cons, ih, List.mem_cons]
      exact or_left_comm

/-- Inserting a name keeps names in strictly ascending order. -/
lemma pairwise_insertName {s : String} {names : List String} (h : names.Pairwise (· < ·)) :
    (Text.insertName s names).Pairwise (· < ·) := by
  induction names with
  | nil => exact List.pairwise_singleton _ _
  | cons u names ih =>
    obtain ⟨hu, hnames⟩ := List.pairwise_cons.1 h
    unfold Text.insertName
    split
    · next hlt =>
      exact List.pairwise_cons.2
        ⟨List.forall_mem_cons.2 ⟨hlt, fun t ht => String.lt_trans hlt (hu t ht)⟩, h⟩
    split
    · exact h
    · next hlt hne =>
      have hgt : u < s := Std.lt_of_le_of_ne hlt (Ne.symm hne)
      refine List.pairwise_cons.2 ⟨fun t ht => ?_, ih hnames⟩
      rcases mem_insertName.1 ht with rfl | ht
      · exact hgt
      · exact hu t ht

/-- Putting names in order keeps exactly the names that there are. -/
lemma mem_sortedNames {t : String} {names : List String} :
    t ∈ Text.sortedNames names ↔ t ∈ names := by
  induction names with
  | nil => rfl
  | cons s names ih =>
    rw [Text.sortedNames, List.foldr_cons, mem_insertName, List.mem_cons, ← ih]
    rfl

/-- Names that were put in order are strictly ascending. -/
lemma pairwise_sortedNames (names : List String) :
    (Text.sortedNames names).Pairwise (· < ·) := by
  induction names with
  | nil => exact .nil
  | cons s names ih => exact pairwise_insertName ih

/-- The tables collected from a query are those that it refers to. -/
lemma mem_readTables {q : Query} {table : String} : table ∈ readTables q ↔ Refers q table := by
  rw [readTables, mem_sortedNames, List.mem_map]
  simp only [mem_readColumns, ← refersTo_iff]
  rfl

end Sql

end ChartQuery
