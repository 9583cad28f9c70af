import ChartQuery.Proofs.Assembly
import ChartQuery.Proofs.RoundTrip

/-!
# Statements for expressions that differ

Two expressions may differ in the names of columns and in strings and be the same otherwise.  Their
terms are then made in the same way, and so are the texts of their terms: whatever is kept when
texts are put together holds of them if it holds of the texts of the names and strings, and of the
names of the functions that are left to the database as they are.
-/

namespace ChartQuery

/-! ## Writable expressions below writable expressions -/

namespace Expr

/-- The arguments of a writable call and the operands of a writable operator are writable. -/
lemma Writable.of_mem_args {e arg : Expr} (h : e.Writable) (hkind : e.kind.isInner = true)
    (harg : arg ∈ e.args) : arg.Writable := by
  cases h with
  | number | string | truth | literal => cases hkind
  | column => cases harg
  | aggregate _ _ hcolumn => exact List.mem_singleton.1 harg ▸ .column hcolumn
  | call _ _ hargs => exact hargs arg harg
  | positive he | negative he | not he | isNull he | isNotNull he =>
    exact List.mem_singleton.1 harg ▸ he
  | joined _ _ hl hr | word _ hl hr =>
    rcases List.mem_pair.1 harg with rfl | rfl
    · exact hl
    · exact hr

/-- What is reached from a writable expression is writable. -/
lemma Writable.of_reaches {e f : Expr} (h : e.Writable) (hf : e.Reaches f) : f.Writable := by
  induction hf with
  | here => exact h
  | inner hkind harg _ ih => exact ih (h.of_mem_args hkind harg)

end Expr

/-- The expressions that a query which was read from a text is compiled from are writable, and their
outermost nodes are checked unless the query is extended. -/
lemma Query.FromText.of_mem_compiled {extended : Bool} {q : Query} (h : FromText extended q)
    {e : Expr} (he : e ∈ q.compiled) :
    e.Writable ∧ (extended = false → e.checkArity = .ok ()) := by
  have hselection (s : Selection) (hs : s ∈ q.selections) :
      s.expr.Writable ∧ (extended = false → s.expr.checkArity = .ok ()) :=
    ⟨h.selections s hs, fun hext => (checkArity_eq_ok_iff.1 (h.arity hext)).1 s hs⟩
  simp only [compiled, List.mem_append, List.mem_map, Option.mem_toList] at he
  rcases he with (he | he) | ⟨k, hk, rfl⟩
  · split at he
    · cases he
    · obtain ⟨s, hs, rfl⟩ := List.mem_map.1 he
      exact hselection s hs
  · exact ⟨h.written.filter e he, fun hext => (checkArity_eq_ok_iff.1 (h.arity hext)).2.1 e he⟩
  · exact ⟨h.written.orderBy k hk, fun hext => (checkArity_eq_ok_iff.1 (h.arity hext)).2.2 k hk⟩

/-! ## Expressions that differ in names and strings -/

/-- `Alike names strings e e'`: the two expressions are the same but for the names of columns, which
`names` relates, and for strings, which `strings` relates. -/
inductive Expr.Alike (names strings : String → String → Prop) : Expr → Expr → Prop
  | string {s s'} : strings s s' → Alike names strings (.leaf .string s) (.leaf .string s')
  | column {n n'} : names n n' → Alike names strings (.leaf .name n) (.leaf .name n')
  | node {kind text args args' emptyCall} : List.Forall₂ (Alike names strings) args args' →
      Alike names strings ⟨kind, text, args, emptyCall⟩ ⟨kind, text, args', emptyCall⟩

mutual

/-- An expression does not differ from itself. -/
theorem Expr.Alike.refl (names strings : String → String → Prop) : ∀ e : Expr,
    e.Alike names strings e
  | ⟨_, _, args, _⟩ => .node (Expr.Alike.refl_all names strings args)

/-- The same for the expressions of a list. -/
theorem Expr.Alike.refl_all (names strings : String → String → Prop) : ∀ es : List Expr,
    List.Forall₂ (Alike names strings) es es
  | [] => .nil
  | e :: es => .cons (Expr.Alike.refl names strings e) (Expr.Alike.refl_all names strings es)

end

namespace Sql

open ChartQuery.Expr (Alike)
open Grammar (Joins)

/-! ## Expressions and their terms -/

/-- Whether the name of a function that is left to the database can be put into a text. -/
def AdmitsCall (d : Dialect) (T : String → String → Prop) (e : Expr) : Prop :=
  e.isCall = true → mapping? d e.text.toLower = none → T e.text e.text

/-- Whether the texts that a node of an expression brings into its term can be put there: literals
and operators have neutral texts, and the name of a function without a template is related to
itself. -/
def Admits (d : Dialect) (T : String → String → Prop) (e : Expr) : Prop :=
  match e.kind with
  | .number => Neutral e.text
  | .boolean => Neutral e.text.toUpper
  | .op op => Neutral e.text ∧ FitsOperator Neutral op e.text
  | .name => AdmitsCall d T e
  | .string | .temporal _ => True

/-- The symbol of an operator between two operands is neutral, also in upper case. -/
lemma fitsOperator_joined {level operand : Expr.Level} {k : Token.Kind} {op : Operator}
    {symbol : String} (h : Joins level k op operand) (hk : Token.keyword? symbol = some k) :
    Neutral symbol ∧ FitsOperator Neutral op symbol := by
  have hall : ∀ p ∈ Token.spellings, p.2 ≠ .lparen → p.2 ≠ .rparen →
      Neutral p.1 ∧ Neutral (" " ++ p.1.toUpper ++ " ") := by decide +kernel
  have hsymbol := hall _ (Token.mem_spellings hk)
  cases h with
  | and | or => exact hsymbol nofun nofun
  | plus | minus | times | div | eq | ne | lt | le | gt | ge =>
    exact ⟨(hsymbol nofun nofun).1, (hsymbol nofun nofun).1⟩

/-- **What a writable expression brings into its term can be put there**, except for the names of
functions that are left to the database. -/
lemma admits_of_writable {d : Dialect} {T : String → String → Prop} {e : Expr} (h : e.Writable)
    (hcall : AdmitsCall d T e) : Admits d T e := by
  have hfixed : ∀ s ∈ ["+", "-", "not", "is null", "is not null", "contains", "matches", "like",
      "starts", "ends"], Neutral s := by decide +kernel
  have htruth : ∀ b : Bool, Neutral (if b then "true" else "false").toUpper := by decide +kernel
  cases h with
  | number hnumeric => exact neutral_of_numeric hnumeric
  | string | literal => trivial
  | truth b => exact htruth b
  | column | aggregate | call => exact hcall
  | positive | negative | not | isNull | isNotNull =>
    exact ⟨hfixed _ (by simp [Expr.unary]), trivial⟩
  | joined hjoins hkeyword => exact fitsOperator_joined hjoins hkeyword
  | word hword => cases hword <;> exact ⟨hfixed _ (by simp [Expr.binary]), trivial⟩

namespace TextCongruence

variable {d : Dialect} {T names strings : String → String → Prop}

/-- A temporal literal of an expression, whose string may differ. -/
lemma temporalTerm (h : TextCongruence d T)
    (hstrings : ∀ s s', strings s s' → T (quoteSqlString s) (quoteSqlString s'))
    (kind : TemporalKind) (keyword : String) {args args' : List Expr}
    (hargs : List.Forall₂ (Alike names strings) args args') :
    Outcome (Printed d T) (Sql.temporalTerm kind keyword args)
      (Sql.temporalTerm kind keyword args') := by
  cases hargs with
  | nil => exact .error _
  | cons he _ =>
    cases he with
    | string hs => exact .ok (h.temporal (hstrings _ _ hs) kind)
    | column => exact .error _
    | @node k =>
      cases k with
      | string => exact .ok (h.temporal (h.literal _) kind)
      | number | boolean | temporal | name | op => exact .error _

mutual

/-- **Expressions that differ in names and strings become terms with related texts**, or fail alike.
-/
theorem outcome_term (h : TextCongruence d T)
    (hnames : ∀ n n', names n n' → Printed d T (Sql.columnTerm n) (Sql.columnTerm n'))
    (hstrings : ∀ s s', strings s s' → T (quoteSqlString s) (quoteSqlString s')) :
    ∀ {e e' : Expr}, e.Alike names strings e' → (∀ f, e.Reaches f → Admits d T f) →
      Outcome (Printed d T) (term d e) (term d e')
  | ⟨kind, text, args, emptyCall⟩, e', halike, hadmits => by
    cases halike with
    | string hs => exact .ok (hstrings _ _ hs)
    | column hn => exact .ok (hnames _ _ hn)
    | @node _ _ _ args' _ hargs =>
      have hnode : Admits d T ⟨kind, text, args, emptyCall⟩ := hadmits _ .here
      have hterms (hkind : kind.isInner = true) :=
        outcome_terms h hnames hstrings hargs fun arg harg f hf => hadmits f (.inner hkind harg hf)
      cases kind with
      | number => exact .ok (h.plain hnode.1)
      | string => exact .ok (h.literal text)
      | boolean => exact .ok (h.plain hnode.1)
      | temporal k => exact h.temporalTerm hstrings k text hargs
      | name =>
        have hbare : (args'.isEmpty && !emptyCall) = (args.isEmpty && !emptyCall) := by
          cases hargs <;> rfl
        rw [term, term, hbare]
        split
        · exact .ok (h.columnTerm text)
        · next hcall =>
          refine (hterms rfl).bind fun as as' has => h.congruence.applyFunction has fun hnone => ?_
          refine h.call (hnode ?_ hnone) has
          simpa [Expr.isCall, imp_iff_not_or] using hcall
      | op op =>
        rw [term, term]
        refine (hterms rfl).bind fun as as' has =>
          h.congruence.applyOperator has hnode.2 fun _ => ?_
        exact h.call (h.plain hnode.1.1) has

/-- The same for the expressions of two lists. -/
theorem outcome_terms (h : TextCongruence d T)
    (hnames : ∀ n n', names n n' → Printed d T (Sql.columnTerm n) (Sql.columnTerm n'))
    (hstrings : ∀ s s', strings s s' → T (quoteSqlString s) (quoteSqlString s')) :
    ∀ {es es' : List Expr}, List.Forall₂ (Alike names strings) es es' →
      (∀ e ∈ es, ∀ f, e.Reaches f → Admits d T f) →
      Outcome (List.Forall₂ (Printed d T)) (terms d es) (terms d es')
  | [], _, .nil, _ => .ok .nil
  | e :: es, _, .cons he hes, hadmits => by
    obtain ⟨hhead, hadmits⟩ := List.forall_mem_cons.1 hadmits
    rw [terms, terms]
    exact (outcome_term h hnames hstrings he hhead).bind fun t t' ht =>
      (outcome_terms h hnames hstrings hes hadmits).bind fun ts ts' hts => .ok (.cons ht hts)

end

/-- Expressions that do not differ. -/
lemma outcome_terms_self (h : TextCongruence d T) {es : List Expr}
    (hes : ∀ e ∈ es, ∀ f, e.Reaches f → Admits d T f) :
    Outcome (List.Forall₂ (Printed d T)) (terms d es) (terms d es) :=
  h.outcome_terms (fun _ _ => False.elim) (fun _ _ => False.elim)
    (Alike.refl_all (fun _ _ => False) (fun _ _ => False) es) hes

end TextCongruence

end Sql

end ChartQuery
