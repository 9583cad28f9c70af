import ChartQuery.Proofs.Variation

/-!
# When a query becomes a statement

Whether a query that was read from a text becomes a statement depends on two things.  Every call of
a function that has a template needs the number of arguments of the template, however deep the call
stands; and the tables have to be accessible.  Neither of them depends on the dialect, and nothing
else can go wrong: the operators and literals that were read always have what they need.
-/

namespace ChartQuery.Sql

open ChartQuery.Expr (WordSpelling)
open Grammar (Joins)

/-! ## Decided runs -/

/-- `Decides A B x`: the run succeeds if `A` and `B` hold, refuses the query if `A` does not, and
denies access if only `B` does not. -/
structure Decides {α : Type} (A B : Prop) (x : Except Failure α) : Prop where
  succeeds : A → B → ∃ a, x = .ok a
  refuses : ¬ A → ∃ f, x = .error f ∧ f.reason = .invalidQuery
  denies : A → ¬ B → ∃ f, x = .error f ∧ f.reason = .accessDenied

namespace Decides

variable {α β : Type} {A A' B : Prop}

/-- A run that succeeds in any case. -/
lemma ok (a : α) : Decides True True (.ok a) where
  succeeds _ _ := ⟨a, rfl⟩
  refuses h := absurd trivial h
  denies _ h := absurd trivial h

/-- The same run, decided by an equivalent condition. -/
lemma congr {x : Except Failure α} (h : Decides A B x) (hA : A ↔ A') : Decides A' B x :=
  propext hA ▸ h

/-- One run after another. -/
lemma bind {x : Except Failure α} {f : α → Except Failure β} (h : Decides A True x)
    (hf : ∀ a, x = .ok a → Decides A' B (f a)) : Decides (A ∧ A') B (x >>= f) := by
  by_cases hA : A
  · obtain ⟨a, rfl⟩ := h.succeeds hA trivial
    exact (hf a rfl).congr (and_iff_right hA).symm
  · obtain ⟨f, rfl, hreason⟩ := h.refuses hA
    exact ⟨fun h => absurd h.1 hA, fun _ => ⟨f, rfl, hreason⟩, fun h => absurd h.1 hA⟩

/-- A run whose result is only passed on changed. -/
lemma map {x : Except Failure α} (h : Decides A B x) (f : α → β) :
    Decides A B (x >>= fun a => .ok (f a)) := by
  refine ⟨fun hA hB => ?_, fun hA => ?_, fun hA hB => ?_⟩
  · obtain ⟨a, rfl⟩ := h.succeeds hA hB
    exact ⟨f a, rfl⟩
  · obtain ⟨g, rfl, hreason⟩ := h.refuses hA
    exact ⟨g, rfl, hreason⟩
  · obtain ⟨g, rfl, hreason⟩ := h.denies hA hB
    exact ⟨g, rfl, hreason⟩

/-- A run for every element of a list. -/
lemma mapM {p : α → Prop} {f : α → Except Failure β} {as : List α}
    (h : ∀ a ∈ as, Decides (p a) True (f a)) :
    Decides (∀ a ∈ as, p a) True (as.mapM f) := by
  induction as with
  | nil => exact (ok []).congr (by simp)
  | cons a as ih =>
    obtain ⟨ha, has⟩ := List.forall_mem_cons.1 h
    rw [List.mapM_cons]
    exact (ha.bind fun b _ => (ih has).map (b :: ·)).congr List.forall_mem_cons.symm

/-- A run for what there may be. -/
lemma mapM_option {p : α → Prop} {f : α → Except Failure β} {a? : Option α}
    (h : ∀ a ∈ a?.toList, Decides (p a) True (f a)) :
    Decides (∀ a ∈ a?.toList, p a) True (a?.mapM f) := by
  cases a? with
  | none => exact (ok none).congr (by simp)
  | some a => exact ((h a (List.mem_singleton_self a)).map some).congr (by simp)

/-- A run succeeds exactly if both conditions hold. -/
lemma ok_iff {x : Except Failure α} (h : Decides A B x) : (∃ a, x = .ok a) ↔ A ∧ B := by
  constructor
  · rintro ⟨a, rfl⟩
    by_cases hA : A
    · by_cases hB : B
      · exact ⟨hA, hB⟩
      · obtain ⟨f, hf, -⟩ := h.denies hA hB
        cases hf
    · obtain ⟨f, hf, -⟩ := h.refuses hA
      cases hf
  · exact fun ⟨hA, hB⟩ => h.succeeds hA hB

end Decides

/-! ## Numbers of arguments -/

/-- The number of arguments that a function with a template needs; the name is in lower case. -/
def argumentCount? : String → Option Nat
  | "like" | "ends" | "starts" | "contains" | "matches" | "datediff" => some 2
  | "year" | "month" | "day" | "hour" | "minute" | "second" | "millisecond" | "quarter"
  | "dayofweek" | "todate" | "upper" | "lower" => some 1
  | "now" => some 0
  | _ => none

/-- **The tables of templates agree.**  In every dialect the same functions have templates, for the
same numbers of arguments. -/
lemma arity_mapping? (d : Dialect) (name : String) :
    (mapping? d name).map Mapping.arity = argumentCount? name := by
  unfold argumentCount?
  split
  -- the functions with a template, one by one, and then all other names
  all_goals try (cases d <;> rfl)
  have hshared : sharedMapping? name = none := by
    unfold sharedMapping?
    split <;> first | rfl | contradiction
  have hmySql : mySqlMapping? name = none := by
    unfold mySqlMapping?
    split <;> first | rfl | contradiction
  have hstandard : standardMapping? name = none := by
    unfold standardMapping?
    split <;> first | rfl | contradiction
  simp [mapping?, hshared, hmySql, hstandard]

/-- Whether a node is not a call of a function with a template, or has as many arguments as the
template needs. -/
def Fits (e : Expr) : Prop :=
  e.isCall = true → ∀ n, argumentCount? e.text.toLower = some n → e.args.length = n

/-- Whether all calls that are reached from an expression have the right number of arguments. -/
def CallsFit (e : Expr) : Prop := ∀ f, e.Reaches f → Fits f

/-- The calls of an expression fit if its outermost node does and the calls of its arguments do. -/
lemma callsFit_iff {e : Expr} :
    CallsFit e ↔ Fits e ∧ (e.kind.isInner = true → ∀ arg ∈ e.args, CallsFit arg) :=
  Expr.forall_reaches_iff

/-- Only calls can fail to fit. -/
lemma fits_of_kind {e : Expr} (h : e.kind ≠ .name) : Fits e := by
  intro hcall
  simp [Expr.isCall, h] at hcall

/-- The calls of an operator are those of its operands. -/
lemma callsFit_op {op : Operator} {symbol : String} {args : List Expr} :
    CallsFit ⟨.op op, symbol, args, false⟩ ↔ ∀ arg ∈ args, CallsFit arg := by
  rw [callsFit_iff, and_iff_right (fits_of_kind (by simp))]
  exact ⟨fun h => h rfl, fun h _ => h⟩

/-- The calls of a call are itself and those of its arguments. -/
lemma callsFit_call {name : String} {args : List Expr} :
    CallsFit (.call name args) ↔ (∀ arg ∈ args, CallsFit arg) ∧
      ∀ n, argumentCount? name.toLower = some n → args.length = n := by
  have hcall : (Expr.call name args).isCall = true := by
    cases args <;> rfl
  rw [callsFit_iff, and_comm]
  exact and_congr ⟨fun h => h rfl, fun h _ => h⟩ ⟨fun h => h hcall, fun h _ => h⟩

/-- A node that is neither a call nor an operator has no calls. -/
lemma callsFit_leaf {e : Expr} (h : e.kind.isInner = false) : CallsFit e := by
  refine callsFit_iff.2 ⟨fits_of_kind fun hkind => ?_, fun hinner => ?_⟩
  · rw [hkind] at h
    cases h
  · rw [h] at hinner
    cases hinner

/-- A bare name is no call. -/
lemma callsFit_column (name : String) : CallsFit (.leaf .name name) :=
  callsFit_iff.2 ⟨fun hcall => (nomatch hcall), fun _ _ harg => absurd harg List.not_mem_nil⟩

/-! ## Expressions -/

/-- A function is refused exactly if it has a template for another number of arguments. -/
lemma decides_applyFunction (d : Dialect) (name : String) (args : List Term) :
    Decides (∀ n, argumentCount? name.toLower = some n → args.length = n) True
      (applyFunction d name args) := by
  rw [← arity_mapping? d]
  unfold applyFunction
  cases mapping? d name.toLower with
  | none => exact (Decides.ok (Term.call name args)).congr (by simp)
  | some m =>
    have hbuild := m.build?_isSome_iff args
    have hcount : (∀ n, (some m).map Mapping.arity = some n → args.length = n) ↔
        args.length = m.arity := by simp
    rw [hcount, ← hbuild]
    dsimp only
    cases m.build? args with
    | none => exact ⟨fun h => (nomatch h), fun _ => ⟨_, rfl, rfl⟩, fun h => (nomatch h)⟩
    | some t => exact (Decides.ok t).congr (by simp)

/-- Expressions that are decided one by one are decided as a list. -/
lemma decides_terms {d : Dialect} {es : List Expr}
    (h : ∀ e ∈ es, Decides (CallsFit e) True (term d e)) :
    Decides (∀ e ∈ es, CallsFit e) True (terms d es) := by
  induction es with
  | nil => exact (Decides.ok []).congr (by simp)
  | cons e es ih =>
    obtain ⟨he, hes⟩ := List.forall_mem_cons.1 h
    rw [terms]
    exact (he.bind fun t _ => (ih hes).map (t :: ·)).congr List.forall_mem_cons.symm

/-- An operator that is written between its operands takes any two of them. -/
lemma applyOperator_joined {d : Dialect} {level operand : Expr.Level} {k : Token.Kind}
    {op : Operator} (h : Joins level k op operand) (symbol : String) (a b : Term) :
    ∃ t, applyOperator d op symbol [a, b] = .ok t := by
  cases h <;> exact ⟨_, rfl⟩

/-- An operator that is a word has a template for two operands. -/
lemma argumentCount?_word {op : Operator} {symbol : String} (h : WordSpelling op symbol) :
    argumentCount? symbol.toLower = some 2 := by
  cases h <;> decide +kernel

/-- An operator that is a word is applied as a function. -/
lemma applyOperator_word {d : Dialect} {op : Operator} {symbol : String}
    (h : WordSpelling op symbol) (args : List Term) :
    applyOperator d op symbol args = applyFunction d symbol args := by
  cases h <;> rfl

/-- A list becomes as many terms as it has expressions. -/
lemma length_terms {d : Dialect} {es : List Expr} {ts : List Term} (h : terms d es = .ok ts) :
    ts.length = es.length := by
  induction es generalizing ts with
  | nil =>
    cases h
    rfl
  | cons e es ih =>
    rw [terms] at h
    obtain ⟨t, _, h⟩ := bind_eq_ok.1 h
    obtain ⟨ts', hts, h⟩ := bind_eq_ok.1 h
    cases h
    rw [List.length_cons, List.length_cons, ih hts]

/-- A call becomes a term if its arguments do and are as many as they have to be. -/
lemma decides_call {d : Dialect} {name : String} {args : List Expr}
    (h : ∀ arg ∈ args, Decides (CallsFit arg) True (term d arg)) :
    Decides (CallsFit (.call name args)) True (term d (.call name args)) := by
  have hcall : (args.isEmpty && !args.isEmpty) = false := by simp
  have hterm : term d (.call name args) =
      terms d args >>= fun ts => applyFunction d name ts := by
    simp only [Expr.call, term, hcall, Bool.false_eq_true, if_false]
  rw [hterm]
  refine Decides.congr ?_ callsFit_call.symm
  refine (decides_terms h).bind fun ts hts => ?_
  rw [← length_terms hts]
  exact decides_applyFunction d name ts

/-- An operator of one operand becomes what it makes of the term of its operand. -/
lemma term_unary (d : Dialect) (op : Operator) (symbol : String) (e : Expr) :
    term d (.unary op symbol e) = term d e >>= fun t => applyOperator d op symbol [t] := by
  simp only [Expr.unary, term, terms]
  cases term d e <;> rfl

/-- An operator of two operands becomes what it makes of the terms of its operands. -/
lemma term_binary (d : Dialect) (op : Operator) (symbol : String) (l r : Expr) :
    term d (.binary op symbol l r) =
      term d l >>= fun a => term d r >>= fun b => applyOperator d op symbol [a, b] := by
  simp only [Expr.binary, term, terms]
  cases term d l <;> cases term d r <;> rfl

/-- **When an expression becomes a term.**  An expression that a text can stand for becomes a term
exactly if its calls fit, and is refused otherwise. -/
theorem decides_term (d : Dialect) {e : Expr} (h : e.Writable) :
    Decides (CallsFit e) True (term d e) := by
  have hcolumn (name : String) : Decides (CallsFit (.leaf .name name)) True
      (term d (.leaf .name name)) :=
    (Decides.ok _).congr (iff_of_true trivial (callsFit_column name))
  induction h with
  | number _ | string _ | truth _ | literal _ _ _ =>
    exact (Decides.ok _).congr (iff_of_true trivial (callsFit_leaf rfl))
  | column _ => exact hcolumn _
  | aggregate _ _ _ => exact decides_call fun arg harg => List.mem_singleton.1 harg ▸ hcolumn _
  | call _ _ _ ih => exact decides_call ih
  | positive _ ih | negative _ ih | not _ ih | isNull _ ih | isNotNull _ ih =>
    rw [term_unary]
    exact (ih.map _).congr (by simp [Expr.unary, callsFit_op])
  | joined hjoins _ _ _ ihl ihr =>
    rw [term_binary]
    refine (ihl.bind fun a _ => ihr.bind fun b _ => ?_).congr (A := _ ∧ _ ∧ True)
      (by simp [Expr.binary, callsFit_op])
    obtain ⟨t, ht⟩ := applyOperator_joined (d := d) hjoins _ a b
    rw [ht]
    exact .ok t
  | word hword _ _ ihl ihr =>
    rw [term_binary]
    refine (ihl.bind fun a _ => ihr.bind fun b _ => ?_).congr (A := _ ∧ _ ∧ True)
      (by simp [Expr.binary, callsFit_op])
    rw [applyOperator_word hword]
    refine (decides_applyFunction d _ [a, b]).congr ?_
    simp [argumentCount?_word hword]

/-! ## Queries -/

/-- Whether all calls in the compiled expressions of a query have the right number of arguments. -/
def QueryFits (q : Query) : Prop := ∀ e ∈ q.compiled, CallsFit e

/-- **When a query becomes a statement.**  A query of writable expressions becomes a statement
exactly if its calls fit and its tables are accessible. -/
theorem decides_select (d : Dialect) (access : Access) {q : Query}
    (h : ∀ e ∈ q.compiled, e.Writable) :
    Decides (QueryFits q) (Accessible access q) (select d access q) := by
  have hdecides (e : Expr) (he : e ∈ q.compiled) := decides_term d (h e he)
  simp only [Query.compiled, List.forall_mem_append, List.forall_mem_map] at hdecides
  obtain ⟨⟨hselected, hfilter⟩, horder⟩ := hdecides
  have hitems : Decides (∀ e ∈ (if q.star then [] else q.selections.map (·.expr)), CallsFit e) True
      (items d q) := by
    unfold items
    cases hstar : q.star with
    | true => exact (Decides.ok none).congr (by simp)
    | false =>
      rw [hstar] at hselected
      exact (decides_terms hselected).map _
  have htables : Decides True (Accessible access q) (tables d access (readTables q)) := by
    rcases tables_cases d access q with ⟨haccess, hok⟩ | ⟨haccess, f, herror, hreason⟩
    · exact ⟨fun _ _ => ⟨_, hok⟩, fun h => absurd trivial h, fun _ h => absurd haccess h⟩
    · exact ⟨fun _ h => absurd h haccess, fun h => absurd trivial h,
        fun _ _ => ⟨f, herror, hreason⟩⟩
  have hfits : QueryFits q ↔
      (∀ e ∈ (if q.star then [] else q.selections.map (·.expr)), CallsFit e) ∧
        (∀ e ∈ q.filter?.toList, CallsFit e) ∧ (∀ k ∈ q.orderBy, CallsFit k.expr) ∧ True := by
    simp only [QueryFits, Query.compiled, List.forall_mem_append, List.forall_mem_map, and_true,
      and_assoc]
  refine Decides.congr ?_ hfits.symm
  refine hitems.bind fun _ _ => (Decides.mapM_option hfilter).bind fun _ _ => ?_
  refine (Decides.mapM fun k hk => ?_).bind fun _ _ => htables.map _
  exact (horder k hk).map fun t => (⟨t, k.descending⟩ : Ordering)

/-- The expressions that a query which was read from a text is compiled from are writable. -/
lemma writable_compiled {text : String} {q : Query} (h : Query.parseUnchecked text = .ok q) :
    ∀ e ∈ q.compiled, e.Writable := by
  have hparse : Query.parse text true = .ok { q with extended := true } := by
    rw [Query.parse, h, ok_bind]
    rfl
  exact fun e he => ((Query.fromText_of_parse hparse).of_mem_compiled he).1

/-- Why a run failed, if it did. -/
def verdict {α : Type} : Except Failure α → Option Reason
  | .ok _ => none
  | .error f => some f.reason

/-- Runs with the same conditions have the same verdict, which is never an internal error. -/
lemma Decides.verdict_eq {α β : Type} {A B : Prop} {x : Except Failure α} {y : Except Failure β}
    (hx : Decides A B x) (hy : Decides A B y) :
    verdict x = verdict y ∧ verdict x ≠ some .internalError := by
  by_cases hA : A
  · by_cases hB : B
    · obtain ⟨_, rfl⟩ := hx.succeeds hA hB
      obtain ⟨_, rfl⟩ := hy.succeeds hA hB
      exact ⟨rfl, nofun⟩
    · obtain ⟨_, rfl, hf⟩ := hx.denies hA hB
      obtain ⟨_, rfl, hg⟩ := hy.denies hA hB
      simp [verdict, hf, hg]
  · obtain ⟨_, rfl, hf⟩ := hx.refuses hA
    obtain ⟨_, rfl, hg⟩ := hy.refuses hA
    simp [verdict, hf, hg]

/-- **Exactly when compiling fails.**  A query that was read from a text, in either mode, is
compiled to SQL exactly if its calls fit and its tables are accessible; it is refused as an invalid
query if its calls do not fit, and access is denied if only its tables are not accessible.  So the
dialects of SQL always have the same verdict, which is never an internal error.  In the query
language every query has a text. -/
theorem compile_decided {text : String} {q : Query} (h : Query.parseUnchecked text = .ok q)
    (extended : Bool) (access : Access) :
    (∀ d, d ≠ .gql →
      ((∃ sql, compile d access { q with extended } = .ok sql) ↔
        QueryFits q ∧ Accessible access q) ∧
      (¬ QueryFits q → ∃ f, compile d access { q with extended } = .error f ∧
        f.reason = .invalidQuery) ∧
      (QueryFits q → ¬ Accessible access q → ∃ f, compile d access { q with extended } = .error f ∧
        f.reason = .accessDenied) ∧
      verdict (compile d access { q with extended }) ≠ some .internalError) ∧
    verdict (compile .mySql access { q with extended }) =
      verdict (compile .postgreSql access { q with extended }) ∧
    ∃ sql, compile .gql access { q with extended } = .ok sql := by
  have hdecides (d : Dialect) (hd : d ≠ .gql) :
      Decides (QueryFits q) (Accessible access q) (compile d access { q with extended }) := by
    have hsame : select d access { q with extended } = select d access q := rfl
    have hselect : Decides (QueryFits q) (Accessible access q)
        (select d access { q with extended }) :=
      hsame ▸ decides_select d access (writable_compiled h)
    cases d with
    | gql => exact absurd rfl hd
    | mySql | postgreSql => exact hselect.map _
  refine ⟨fun d hd => ?_, ?_, _, rfl⟩
  · have h := hdecides d hd
    exact ⟨h.ok_iff, h.refuses, h.denies, (h.verdict_eq h).2⟩
  · exact ((hdecides .mySql (by decide)).verdict_eq (hdecides .postgreSql (by decide))).1

/-- A call of `starts` with one argument is accepted below a call of `upper`, and refused by every
dialect of SQL. -/
theorem compile_decided_starts :
    ∃ q, Query.parseUnchecked "select upper(starts(a)) where b = 1" = .ok q ∧ ¬ QueryFits q ∧
      ∀ d, d ≠ .gql → ∃ f, compile d ⟨"emp", []⟩ { q with extended := false } = .error f ∧
        f.reason = .invalidQuery := by
  let starts : Expr := .call "starts" [.leaf .name "a"]
  obtain ⟨q, hq, hselected⟩ := exists_eq_ok
    (Query.parseUnchecked "select upper(starts(a)) where b = 1")
    (fun q => !q.star && decide (Selection.ofExpr (.call "upper" [starts]) ∈ q.selections))
    (by decide +kernel)
  obtain ⟨hstar, hmem⟩ : q.star = false ∧
      Selection.ofExpr (.call "upper" [starts]) ∈ q.selections := by
    simpa using hselected
  have hfits : ¬ QueryFits q := by
    intro hfits
    have hcompiled : Expr.call "upper" [starts] ∈ q.compiled := by
      rw [Query.compiled, hstar]
      exact List.mem_append_left _ (List.mem_append_left _ (List.mem_map_of_mem hmem))
    have hstarts := (callsFit_call.1 (hfits _ hcompiled)).1 starts (List.mem_singleton_self _)
    have hcount := (callsFit_call.1 hstarts).2 2 (by decide +kernel)
    cases hcount
  exact ⟨q, hq, hfits, fun d hd => ((compile_decided hq false ⟨"emp", []⟩).1 d hd).2.1 hfits⟩

end ChartQuery.Sql
