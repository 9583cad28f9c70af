import ChartQuery.Proofs.Variation

/-!
# What the structure of a statement does not depend on

The contents of strings and the names of columns get into a statement as the contents of quoted
spans.  Two queries that differ in nothing else are compiled to statements that a database takes
apart in the same way: into the same words and signs, with quoted spans in the same places.
-/

namespace ChartQuery.Sql

open ChartQuery.Expr (Alike)

/-! ## Texts of the same shape -/

/-- A piece without the contents that it quotes. -/
def Piece.hollow : Piece → Piece
  | .quoted q _ => .quoted q []
  | p => p

/-- Two texts have the same tokens but for what they quote, and none of their spans is left open. -/
structure SameTokens (d : Dialect) (s s' : String) : Prop where
  closed : Closed d s
  closed' : Closed d s'
  tokens : (tokens d s).map Piece.hollow = (tokens d s').map Piece.hollow

/-- Two texts have the same pieces but for what they quote, and none of their spans is left open. -/
structure SamePieces (d : Dialect) (s s' : String) : Prop where
  closed : Closed d s
  closed' : Closed d s'
  pieces : (pieces d s).map Piece.hollow = (pieces d s').map Piece.hollow

/-- Words are put together in the same way whatever stands between quotes. -/
lemma joinWords_map_hollow (ps : List Piece) :
    joinWords (ps.map Piece.hollow) = (joinWords ps).map Piece.hollow := by
  induction ps with
  | nil => rfl
  | cons p ps ih =>
    cases p with
    | sign | quoted | unclosed => exact congrArg (_ :: ·) ih
    | word v =>
      have hword : (Piece.word v).hollow = .word v := rfl
      rw [List.map_cons, hword, joinWords, joinWords, ih]
      rcases joinWords ps with _ | ⟨_ | _ | _ | _, us⟩ <;> rfl

/-- Texts with the same pieces have the same tokens. -/
lemma SamePieces.sameTokens {d : Dialect} {s s' : String} (h : SamePieces d s s') :
    SameTokens d s s' where
  closed := h.closed
  closed' := h.closed'
  tokens := by
    rw [Sql.tokens, Sql.tokens, ← joinWords_map_hollow, h.pieces, joinWords_map_hollow]

/-- A closed text has its own pieces. -/
lemma Closed.samePieces {d : Dialect} {s : String} (h : Closed d s) : SamePieces d s s :=
  ⟨h, h, rfl⟩

/-- String literals have the same pieces, whatever their contents. -/
lemma samePieces_quoteSqlString (d : Dialect) (s s' : String) :
    SamePieces d (quoteSqlString s) (quoteSqlString s') where
  closed := closed_of_quoted (pieces_quoteSqlString s)
  closed' := closed_of_quoted (pieces_quoteSqlString s')
  pieces := by
    rw [pieces_quoteSqlString, pieces_quoteSqlString]
    rfl

/-- Quoted names have the same pieces, whatever the names. -/
lemma samePieces_quoteName (d : Dialect) (s s' : String) :
    SamePieces d (d.quoteName s) (d.quoteName s') where
  closed := closed_of_quoted (pieces_quoteName s)
  closed' := closed_of_quoted (pieces_quoteName s')
  pieces := by
    rw [pieces_quoteName, pieces_quoteName]
    rfl

/-- **Having the same pieces is kept when texts are put together.** -/
lemma textCongruence_samePieces (d : Dialect) : TextCongruence d (SamePieces d) where
  empty := Closed.samePieces nofun
  literal s := samePieces_quoteSqlString d s s
  name s := samePieces_quoteName d s s
  before {p _ _} hp hs := by
    have hquotes := hp.isQuote_eq_false d
    refine ⟨hs.closed.before hquotes, hs.closed'.before hquotes, ?_⟩
    rw [pieces_unquoted_append hquotes, pieces_unquoted_append hquotes, List.map_append,
      List.map_append, hs.pieces]
  append hs ht hstart hstart' := by
    refine ⟨hs.closed.append ht.closed hstart, hs.closed'.append ht.closed' hstart', ?_⟩
    rw [pieces_append hs.closed hstart, pieces_append hs.closed' hstart', List.map_append,
      List.map_append, hs.pieces, ht.pieces]
  parens hs := by
    refine ⟨hs.closed.parens, hs.closed'.parens, ?_⟩
    rw [pieces_parens hs.closed, pieces_parens hs.closed', List.map_cons, List.map_cons,
      List.map_append, List.map_append, hs.pieces]

/-! ## Names of the same table -/

/-- Two names have exactly one point each, with the same table before it, or neither of them has
exactly one point. -/
def SameTable (name name' : String) : Prop :=
  (∃ table column column' : String, '.' ∉ table.toList ∧ '.' ∉ column.toList ∧
    '.' ∉ column'.toList ∧ name = table ++ "." ++ column ∧ name' = table ++ "." ++ column') ∨
  (name.toList.count '.' ≠ 1 ∧ name'.toList.count '.' ≠ 1)

/-- Such names refer to the same table. -/
lemma SameTable.tableOf_eq {name name' : String} (h : SameTable name name') :
    tableOf name = tableOf name' := by
  rcases h with ⟨table, column, column', ht, hc, hc', rfl, rfl⟩ | ⟨hcount, hcount'⟩
  · rw [tableOf, tableOf, qualified?_append ht hc, qualified?_append ht hc']
  · rw [tableOf, tableOf, qualified?_eq_none hcount, qualified?_eq_none hcount']

/-- The columns of such names have the same pieces. -/
lemma SameTable.columnTerm {name name' : String} (h : SameTable name name') (d : Dialect) :
    Printed d (SamePieces d) (columnTerm name) (columnTerm name') := by
  rcases h with ⟨table, column, column', ht, hc, hc', rfl, rfl⟩ | ⟨hcount, hcount'⟩
  · rw [Sql.columnTerm, Sql.columnTerm, qualified?_append ht hc, qualified?_append ht hc']
    exact (textCongruence_samePieces d).column (samePieces_quoteName d column column') _
  · rw [Sql.columnTerm, Sql.columnTerm, qualified?_eq_none hcount, qualified?_eq_none hcount']
    exact (textCongruence_samePieces d).column (samePieces_quoteName d name name') none

/-! ## Queries of the same form -/

/-- Two expressions differ in nothing but strings and names of the same tables. -/
def SameForm (e e' : Expr) : Prop := e.Alike SameTable (fun _ _ => True) e'

/-- Two queries differ in nothing but strings and names of the same tables.  What labels, formats
and options they have does not matter. -/
structure QuerySameForm (q q' : Query) : Prop where
  star : q.star = q'.star
  selections : List.Forall₂ (fun s s' => SameForm s.expr s'.expr) q.selections q'.selections
  filter : Option.Rel SameForm q.filter? q'.filter?
  pivot : List.Forall₂ SameTable q.pivot q'.pivot
  groupBy : List.Forall₂ SameTable q.groupBy q'.groupBy
  orderBy : List.Forall₂ (fun k k' => SameForm k.expr k'.expr ∧ k.descending = k'.descending)
    q.orderBy q'.orderBy
  limit : q.limit = q'.limit
  offset : q.offset = q'.offset

/-! ### The tables that they refer to -/

mutual

/-- Expressions of the same form refer to the same tables, name by name. -/
theorem map_tableOf_columnNames : ∀ {e e' : Expr}, SameForm e e' →
    (columnNames e).map tableOf = (columnNames e').map tableOf
  | ⟨kind, text, args, emptyCall⟩, _, h => by
    cases h with
    | string => rfl
    | column hname => exact congrArg (fun t => [t]) hname.tableOf_eq
    | @node _ _ _ args' _ hargs =>
      have hall := map_tableOf_columnNamesOfAll hargs
      cases kind with
      | name =>
        have hbare : (args'.isEmpty && !emptyCall) = (args.isEmpty && !emptyCall) := by
          cases hargs <;> rfl
        rw [columnNames, columnNames, hbare]
        split
        · rfl
        · exact hall
      | op => exact hall
      | number | string | boolean | temporal => rfl

/-- The same for the expressions of two lists. -/
theorem map_tableOf_columnNamesOfAll : ∀ {es es' : List Expr},
    List.Forall₂ (Alike SameTable fun _ _ => True) es es' →
    (columnNamesOfAll es).map tableOf = (columnNamesOfAll es').map tableOf
  | [], _, .nil => rfl
  | _ :: _, _, .cons he hes => by
    rw [columnNamesOfAll, columnNamesOfAll, List.map_append, List.map_append,
      map_tableOf_columnNames he, map_tableOf_columnNamesOfAll hes]

end

/-- Lists whose elements yield the same tables one by one yield the same tables. -/
lemma map_flatMap_congr {α : Type} {f : α → List String} {as as' : List α}
    (h : List.Forall₂ (fun a a' => (f a).map tableOf = (f a').map tableOf) as as') :
    (as.flatMap f).map tableOf = (as'.flatMap f).map tableOf := by
  induction h with
  | nil => rfl
  | cons ha _ ih =>
    rw [List.flatMap_cons, List.flatMap_cons, List.map_append, List.map_append, ha, ih]

/-- Names of the same tables, one by one. -/
lemma map_tableOf_congr {names names' : List String} (h : List.Forall₂ SameTable names names') :
    names.map tableOf = names'.map tableOf := by
  induction h with
  | nil => rfl
  | cons hname _ ih => rw [List.map_cons, List.map_cons, hname.tableOf_eq, ih]

/-- Queries of the same form refer to the same tables. -/
lemma QuerySameForm.readTables_eq {q q' : Query} (h : QuerySameForm q q') :
    readTables q = readTables q' := by
  have hselected := map_flatMap_congr (f := fun s : Selection => columnNames s.expr)
    (h.selections.imp fun _ _ => map_tableOf_columnNames)
  have hfilter : (q.filter?.toList.flatMap columnNames).map tableOf =
      (q'.filter?.toList.flatMap columnNames).map tableOf := by
    have hfilter := h.filter
    generalize q.filter? = filter?, q'.filter? = filter?' at hfilter ⊢
    cases hfilter with
    | none => rfl
    | some he => exact map_flatMap_congr (.cons (map_tableOf_columnNames he) .nil)
  have horder := map_flatMap_congr (f := fun k : SortKey => columnNames k.expr)
    (h.orderBy.imp fun _ _ hk => map_tableOf_columnNames hk.1)
  rw [readTables, readTables, readColumns, readColumns]
  simp only [List.map_append, hfilter, horder, map_tableOf_congr h.pivot,
    map_tableOf_congr h.groupBy, h.star]
  cases q'.star with
  | true => rfl
  | false => simp only [Bool.false_eq_true, if_false, hselected]

/-! ### Their statements -/

/-- Whether the names of all calls in an expression consist of letters, digits and underscores. -/
def CallsBare (e : Expr) : Prop :=
  ∀ f, e.Reaches f → f.isCall = true → ∀ c ∈ f.text.toList, Token.isNameChar c = true

/-- The calls in an expression are its outermost node, if it is one, and those in its arguments. -/
lemma callsBare_iff {e : Expr} : CallsBare e ↔
    (e.isCall = true → ∀ c ∈ e.text.toList, Token.isNameChar c = true) ∧
      (e.kind.isInner = true → ∀ arg ∈ e.args, CallsBare arg) :=
  Expr.forall_reaches_iff

/-- Writable expressions of the same form become terms of the same pieces, or fail alike. -/
lemma outcome_term_of_sameForm (d : Dialect) {e e' : Expr} (hwritable : e.Writable)
    (hcalls : CallsBare e) (h : SameForm e e') :
    Outcome (Printed d (SamePieces d)) (term d e) (term d e') :=
  (textCongruence_samePieces d).outcome_term (fun _ _ hname => hname.columnTerm d)
    (fun s s' _ => samePieces_quoteSqlString d s s') h fun f hf =>
      admits_of_writable (hwritable.of_reaches hf) fun hcall _ =>
        (closed_of_isNameChar (hcalls f hf hcall)).samePieces

/-- Queries of the same form are made into statements alike. -/
lemma QuerySameForm.madeAlike (d : Dialect) {q q' : Query} (h : QuerySameForm q q')
    (hwritable : ∀ e ∈ q.compiled, e.Writable) (hcalls : ∀ e ∈ q.compiled, CallsBare e) :
    MadeAlike d (Printed d (SamePieces d)) q q' := by
  have hterm (e : Expr) (he : e ∈ q.compiled) (e' : Expr) (h : SameForm e e') :=
    outcome_term_of_sameForm d (hwritable e he) (hcalls e he) h
  simp only [Query.compiled, List.forall_mem_append, List.forall_mem_map] at hterm
  obtain ⟨⟨hselected, hfilter⟩, horder⟩ := hterm
  have hcolumns {names names' : List String} (h : List.Forall₂ SameTable names names') :=
    h.imp fun _ _ hname => hname.columnTerm d
  refine ⟨h.star, fun hstar => ?_, ?_, hcolumns h.pivot, hcolumns h.groupBy, ?_, h.limit, h.offset,
    h.readTables_eq⟩
  · rw [hstar] at hselected
    have hmem := (List.forall₂_and_left _ _).2 ⟨List.forall_mem_map.1 hselected, h.selections⟩
    exact hmem.imp fun s s' hs => hs.1 s'.expr hs.2
  · have hform := h.filter
    generalize q.filter? = filter?, q'.filter? = filter?' at hfilter hform ⊢
    cases hform with
    | none => exact .none
    | some he => exact .some (hfilter _ (List.mem_singleton_self _) _ he)
  · have hmem := (List.forall₂_and_left _ _).2 ⟨horder, h.orderBy⟩
    exact hmem.imp fun k k' hk => ⟨hk.1 k'.expr hk.2.1, hk.2.2⟩

/-- **Quoted text never changes the structure of a statement.**  Take a query that was read from a
text and calls functions by names of letters, digits and underscores only, and any other query of
the same form.  They are compiled to texts of the same tokens up to what they quote, or they fail
alike. -/
theorem outcome_compile {text : String} {extended : Bool} {q q' : Query}
    (hparse : Query.parse text extended = .ok q) (hcalls : ∀ e ∈ q.compiled, CallsBare e)
    (h : QuerySameForm q q') (access : Access) :
    Outcome (SameTokens .postgreSql) (compile .postgreSql access q)
      (compile .postgreSql access q') := by
  have hwritable (e : Expr) (he : e ∈ q.compiled) : e.Writable :=
    ((Query.fromText_of_parse hparse).of_mem_compiled he).1
  have hselect := (h.madeAlike .postgreSql hwritable hcalls).select access
  exact hselect.bind fun s s' hs =>
    .ok ((textCongruence_samePieces .postgreSql).print hs).sameTokens

/-- A name with quotes in it, and a string that looks like the rest of a statement, leave the
structure as it is. -/
theorem outcome_compile_quotes :
    ∃ q q', Query.parse "select upper(a) where `t.b` = 'x'" false = .ok q ∧
      Query.parse "select upper(`a\x22, \x22b`) where `t.c` = '\x22) or (true'" false = .ok q' ∧
      compile .postgreSql ⟨"emp", ["t"]⟩ q =
        .ok "SELECT UPPER(\x22a\x22) FROM \x22emp\x22, \x22t\x22 WHERE (\x22t\x22.\x22b\x22='x')" ∧
      compile .postgreSql ⟨"emp", ["t"]⟩ q' =
        .ok ("SELECT UPPER(\x22a\x22\x22, \x22\x22b\x22) FROM \x22emp\x22, \x22t\x22 " ++
          "WHERE (\x22t\x22.\x22c\x22='\x22) or (true')") ∧
      Outcome (SameTokens .postgreSql) (compile .postgreSql ⟨"emp", ["t"]⟩ q)
        (compile .postgreSql ⟨"emp", ["t"]⟩ q') := by
  let query (name column string : String) : Query := { Query.all with
    star := false
    selections := [.ofExpr (.call "upper" [.leaf .name name])]
    filter? := some (.binary .eq "=" (.leaf .name column) (.leaf .string string)) }
  have hparse : Query.parse "select upper(a) where `t.b` = 'x'" false =
      .ok (query "a" "t.b" "x") := by decide +kernel
  have hparse' : Query.parse "select upper(`a\x22, \x22b`) where `t.c` = '\x22) or (true'" false =
      .ok (query "a\x22, \x22b" "t.c" "\x22) or (true") := by decide +kernel
  have hform : QuerySameForm (query "a" "t.b" "x") (query "a\x22, \x22b" "t.c" "\x22) or (true") :=
    { star := rfl
      selections := .cons (.node (.cons (.column (.inr ⟨by decide, by decide⟩)) .nil)) .nil
      filter := .some (.node (.cons
        (.column (.inl ⟨"t", "b", "c", by decide, by decide, by decide, rfl, rfl⟩))
        (.cons (.string trivial) .nil)))
      pivot := .nil
      groupBy := .nil
      orderBy := .nil
      limit := rfl
      offset := rfl }
  have hleaf (kind : Expr.Kind) (text : String) : CallsBare (.leaf kind text) :=
    callsBare_iff.2 ⟨fun hcall => by simp [Expr.isCall, Expr.leaf] at hcall, fun _ => nofun⟩
  have hcalls : ∀ e ∈ (query "a" "t.b" "x").compiled, CallsBare e :=
    List.forall_mem_cons.2
      ⟨callsBare_iff.2 ⟨fun _ => List.all_eq_true.1 (by decide),
          fun _ => List.forall_mem_cons.2 ⟨hleaf _ _, nofun⟩⟩,
        List.forall_mem_cons.2 ⟨callsBare_iff.2 ⟨nofun, fun _ => List.forall_mem_cons.2
          ⟨hleaf _ _, List.forall_mem_cons.2 ⟨hleaf _ _, nofun⟩⟩⟩, nofun⟩⟩
  exact ⟨_, _, hparse, hparse', by decide +kernel, by decide +kernel,
    outcome_compile hparse hcalls hform ⟨"emp", ["t"]⟩⟩

end ChartQuery.Sql
