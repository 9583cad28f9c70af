import ChartQuery.Proofs.Variation

/-!
# What a query cannot break out of

Names and strings of a query get into its statement between quotes only.  The names of functions
without a template are different: they are left to the database as they are, and only outermost
calls are checked against a list of functions.  As long as every such name is balanced on its own,
so is the statement, and the word FROM stands outside of all parentheses exactly once, at the head
of the tables that were admitted.
-/

namespace ChartQuery

namespace Expr

/-! ## Outermost nodes -/

/-- The outermost node of a checked expression that has arguments is known. -/
lemma arity?_of_checkArity {e : Expr} (h : e.checkArity = .ok ())
    (hargs : (e.args.isEmpty && !e.emptyCall) = false) :
    arity? e.text = some e.args.length := by
  rw [checkArity, if_neg (by simp [hargs])] at h
  split at h
  · cases h
  · next n hn =>
    split at h
    · next hlength => rw [hn, hlength]
    · cases h

/-- The outermost node of a checked expression is neither a unary plus nor a temporal literal. -/
lemma Writable.kind_of_checkArity {e : Expr} (hwritable : e.Writable) (h : e.checkArity = .ok ()) :
    e.kind ≠ .op .pos ∧ ∀ kind, e.kind ≠ .temporal kind := by
  constructor
  · intro hkind
    obtain ⟨operand, rfl⟩ := hwritable.eq_positive hkind
    cases arity?_of_checkArity h rfl
  · intro kind hkind
    have hunknown : ∀ p ∈ Token.spellings, p.2 ∈ [Token.Kind.kwDate, .kwTimeOfDay, .kwDateTime] →
        arity? p.1 = none := by decide
    cases hwritable with
    | @literal k _ _ _ htemporal hkeyword =>
      have hk : k ∈ [Token.Kind.kwDate, .kwTimeOfDay, .kwDateTime] := by cases htemporal <;> decide
      have hnone := hunknown _ (Token.mem_spellings hkeyword) hk
      exact nomatch hnone.symm.trans (arity?_of_checkArity h rfl)
    | _ => cases hkind

end Expr

namespace Sql

open ChartQuery.Expr (arity?)

/-- The functions and operators that are known by their number of arguments have neutral names. -/
lemma neutral_of_arity? {name : String} {n : Nat} (h : arity? name = some n) : Neutral name := by
  unfold arity? at h
  split at h <;> first | cases h; done | decide +kernel

/-! ## Balanced texts -/

/-- Equal texts that are balanced. -/
def SameBalanced (d : Dialect) (s s' : String) : Prop := s = s' ∧ Balanced d s

/-- A balanced text after a plain one is balanced. -/
lemma Balanced.before {d : Dialect} {p s : String} (hp : Plain p) (hs : Balanced d s) :
    Balanced d (p ++ s) where
  closed := hs.closed.before (hp.isQuote_eq_false d)
  depth := by
    have hparens : ∀ c ∈ p.toList, c ≠ '(' ∧ c ≠ ')' := by
      intro c hc
      have := hp.2 c hc
      simp_all
    rw [pieces_unquoted_append (hp.isQuote_eq_false d), List.foldlM_append, spelled,
      foldlM_depthAfter_spelled hparens]
    exact hs.depth

/-- **Being balanced is kept when texts are put together.** -/
lemma textCongruence_sameBalanced (d : Dialect) : TextCongruence d (SameBalanced d) where
  empty := ⟨rfl, nofun, rfl⟩
  literal s := ⟨rfl, balanced_of_quoted (pieces_quoteSqlString s)⟩
  name s := ⟨rfl, balanced_of_quoted (pieces_quoteName s)⟩
  before hp hs := ⟨by rw [hs.1], hs.2.before hp⟩
  append hs ht hstart _ := ⟨by rw [hs.1, ht.1], hs.2.append ht.2 hstart⟩
  parens hs := ⟨by rw [hs.1], hs.2.parens⟩

/-- A text of letters, digits and underscores is balanced. -/
lemma balanced_of_isNameChar {d : Dialect} {s : String}
    (h : ∀ c ∈ s.toList, Token.isNameChar c = true) : Balanced d s where
  closed := closed_of_isNameChar h
  depth := by
    have hparens : ∀ c ∈ s.toList, c ≠ '(' ∧ c ≠ ')' := by
      intro c hc
      have hname := h c hc
      constructor <;> rintro rfl <;> exact absurd hname (by decide)
    rw [pieces_unquoted fun c hc => isQuote_eq_false_of_isNameChar (h c hc) d]
    exact foldlM_depthAfter_spelled hparens 0

/-- Whether all functions that an expression calls and that are left to the database have names
which are balanced on their own. -/
def NamesBalanced (d : Dialect) (e : Expr) : Prop :=
  ∀ f, e.Reaches f → f.isCall = true → mapping? d f.text.toLower = none → Balanced d f.text

/-- The names in an expression are that of its outermost node and those of its arguments. -/
lemma namesBalanced_iff {d : Dialect} {e : Expr} : NamesBalanced d e ↔
    (e.isCall = true → mapping? d e.text.toLower = none → Balanced d e.text) ∧
      (e.kind.isInner = true → ∀ arg ∈ e.args, NamesBalanced d arg) :=
  Expr.forall_reaches_iff

/-! ## Texts without FROM outside of parentheses -/

/-- Whether a text is balanced and has no FROM outside of parentheses. -/
structure Calm (d : Dialect) (s : String) : Prop where
  balanced : Balanced d s
  froms : outerFroms d s = 0

/-- Equal texts that are calm. -/
def SameCalm (d : Dialect) (s s' : String) : Prop := s = s' ∧ Calm d s

/-- Neutral texts are calm. -/
lemma Neutral.calm {p : String} (hp : Neutral p) (d : Dialect) : Calm d p where
  balanced := ((textCongruence_sameBalanced d).plain hp.1).2
  froms := by
    rw [outerFroms, outerWords, tokens, pieces_unquoted (hp.1.isQuote_eq_false d),
      List.countP_eq_zero]
    exact fun w hw => Bool.eq_false_iff.1 (hp.2 w hw)

/-- A single quoted span is calm. -/
lemma calm_of_quoted {d : Dialect} {s : String} {q : Char} {contents : List Char}
    (h : pieces d s = [.quoted q contents]) : Calm d s :=
  ⟨balanced_of_quoted h, outerFroms_of_quoted h⟩

/-- A balanced text in parentheses is calm. -/
lemma Balanced.calm_parens {d : Dialect} {s : String} (h : Balanced d s) :
    Calm d ("(" ++ s ++ ")") :=
  ⟨h.parens, outerFroms_parens h⟩

/-- Calm texts one after another are calm, if they are set apart. -/
lemma Calm.append {d : Dialect} {s t : String} (hs : Calm d s) (ht : Calm d t)
    (hstart : StartsApart d t) : Calm d (s ++ t) where
  balanced := hs.balanced.append ht.balanced fun c hc => (hstart c hc).2
  froms := by rw [outerFroms_append hs.balanced hstart, hs.froms, ht.froms]

/-- Parentheses, separators and the FROM clause are set apart from what stands before them. -/
lemma startsApart_append {d : Dialect} {p : String} (hp : p ∈ ["(", ".", " ", ", ", " FROM "])
    (s : String) : StartsApart d (p ++ s) := by
  have hall : ∀ p ∈ ["(", ".", " ", ", ", " FROM "], StartsApart d p ∧ p ≠ "" := by
    cases d <;> decide
  obtain ⟨hapart, hne⟩ := hall p hp
  exact hapart.append hne s

/-- **Terms bring no FROM to their outside.** -/
lemma outside_sameCalm (d : Dialect) : TextCongruence.Outside (SameBalanced d) (SameCalm d) where
  weaken h := ⟨h.1, h.2.balanced⟩
  neutral hp := ⟨rfl, hp.calm d⟩
  literal s := ⟨rfl, calm_of_quoted (pieces_quoteSqlString s)⟩
  parens hs := ⟨by rw [hs.1], hs.2.calm_parens⟩
  append_parens {f f' s s'} hf hs := by
    have htext : f ++ "(" ++ s ++ ")" = f ++ ("(" ++ s ++ ")") := by
      simp only [String.append_assoc]
    refine ⟨by rw [hf.1, hs.1], htext ▸ hf.2.append hs.2.calm_parens ?_⟩
    rw [String.append_assoc]
    exact startsApart_append (by decide) _
  cast {s s'} hs :=
    ⟨by rw [hs.1], hs.2.append (Neutral.calm (by decide +kernel) d) (by cases d <;> decide)⟩

/-- What stands between and before the parts of a statement: separators, and the keywords of all
clauses but the FROM clause. -/
def leads : List String :=
  [".", " ", ", ", "SELECT ", "WHERE ", "GROUP BY ", "ORDER BY ", "LIMIT ", "OFFSET "]

/-- Separators and keywords are neutral. -/
lemma neutral_of_mem_leads : ∀ p ∈ leads, Neutral p := by decide +kernel

/-- A separator or a keyword ends in a character that sets it apart. -/
lemma outerWords_lead {d : Dialect} {p : String} (hp : p ∈ leads) (s : String) :
    outerWords d (p ++ s) = outerWords d p ++ outerWords d s := by
  have hquotes := (neutral_of_mem_leads p hp).1.isQuote_eq_false d
  rw [outerWords, outerWords, outerWords, tokens, tokens, tokens,
    pieces_unquoted_append hquotes, pieces_unquoted hquotes]
  simp only [leads, List.mem_cons, List.not_mem_nil, or_false] at hp
  rcases hp with rfl | rfl | rfl | rfl | rfl | rfl | rfl | rfl | rfl <;> rfl

/-- A calm text after a separator or a keyword is calm. -/
lemma Calm.lead {d : Dialect} {p s : String} (hp : p ∈ leads) (hs : Calm d s) :
    Calm d (p ++ s) where
  balanced := hs.balanced.before (neutral_of_mem_leads p hp).1
  froms := by
    rw [outerFroms, outerWords_lead hp, List.countP_append]
    exact congrArg₂ (· + ·) ((neutral_of_mem_leads p hp).calm d).froms hs.froms

/-- Calm texts with separators are calm. -/
lemma calm_intercalate {d : Dialect} {p : String} (hp : p ∈ [".", " ", ", "]) {ss : List String}
    (hss : ∀ s ∈ ss, Calm d s) : Calm d (p.intercalate ss) := by
  have hall : ∀ p ∈ [".", " ", ", "], p ∈ leads ∧ p ∈ ["(", ".", " ", ", ", " FROM "] := by
    decide
  obtain ⟨hlead, hapart⟩ := hall p hp
  induction ss with
  | nil => exact ⟨(textCongruence_sameBalanced d).empty.2, rfl⟩
  | cons s ss ih =>
    obtain ⟨hs, hss⟩ := List.forall_mem_cons.1 hss
    cases ss with
    | nil =>
      rw [String.intercalate_singleton]
      exact hs
    | cons _ _ =>
      rw [String.intercalate_cons_cons, String.append_assoc]
      exact hs.append ((ih hss).lead hlead) (startsApart_append hapart _)

/-! ## Terms -/

/-- A column is calm. -/
lemma calm_columnTerm (d : Dialect) (name : String) : Calm d ((columnTerm name).print d) := by
  unfold columnTerm
  split
  · next table column _ =>
    rw [Term.print, String.append_assoc]
    exact (calm_of_quoted (pieces_quoteName table)).append
      ((calm_of_quoted (pieces_quoteName column)).lead (by decide))
      (startsApart_append (by decide) _)
  · exact calm_of_quoted (pieces_quoteName name)

/-- **The term of an outermost expression is calm** if the names of the functions that are left to
the database are balanced. -/
theorem calm_term {d : Dialect} {e : Expr} (hwritable : e.Writable) (harity : e.checkArity = .ok ())
    (hnames : NamesBalanced d e) {t : Term} (ht : term d e = .ok t) : Calm d (t.print d) := by
  have htext := textCongruence_sameBalanced d
  have houtside := outside_sameCalm d
  have hcongr := houtside.congruence htext
  have hadmits (f : Expr) (hf : e.Reaches f) : Admits d (SameBalanced d) f :=
    admits_of_writable (hwritable.of_reaches hf) fun hcall hnone => ⟨rfl, hnames f hf hcall hnone⟩
  have hnode := hadmits e .here
  obtain ⟨hpos, htemporal⟩ := hwritable.kind_of_checkArity harity
  have hsame : Outcome (Printed d (SameCalm d)) (term d e) (term d e) := by
    obtain ⟨kind, text, args, emptyCall⟩ := e
    have hterms (hkind : kind.isInner = true) :
        Outcome (List.Forall₂ (Printed d (SameBalanced d))) (terms d args) (terms d args) :=
      htext.outcome_terms_self fun arg harg f hf => hadmits f (.inner hkind harg hf)
    cases kind with
    | number => exact .ok (houtside.neutral hnode)
    | string => exact .ok (houtside.literal text)
    | boolean => exact .ok (houtside.neutral hnode)
    | temporal k => exact absurd rfl (htemporal k)
    | name =>
      rw [term]
      split
      · exact .ok ⟨rfl, calm_columnTerm d text⟩
      · next hcall =>
        have hknown := Expr.arity?_of_checkArity harity (Bool.eq_false_iff.2 hcall)
        refine (hterms rfl).bind fun as as' has => hcongr.applyFunction has fun _ => ?_
        exact hcongr.apply (neutral_of_arity? hknown) (by decide +kernel) has
    | op op =>
      rw [term]
      refine (hterms rfl).bind fun as as' has =>
        hcongr.applyOperator_outer has (fun h => hpos (h ▸ rfl)) hnode.2 fun _ => ?_
      exact hcongr.apply hnode.1 (by decide +kernel) has
  rw [ht] at hsame
  cases hsame with
  | ok h => exact h.2

/-! ## Statements -/

/-- The items of a clause are calm if the clause is another one than the FROM clause. -/
lemma calm_printClause {d : Dialect} {keyword : String} (hkeyword : keyword ∈ leads)
    {items : List String} (hitems : ∀ s ∈ items, Calm d s) :
    ∀ s ∈ Select.printClause keyword items, Calm d s := by
  unfold Select.printClause
  split
  · exact fun s hs => absurd hs List.not_mem_nil
  · exact fun s hs => List.mem_singleton.1 hs ▸ (calm_intercalate (by decide) hitems).lead hkeyword

/-- The names of the tables of a statement are calm. -/
lemma calm_printTables (d : Dialect) (tables : List (List String)) :
    Calm d (Select.commaSeparated (tables.map (Select.printTable d))) := by
  refine calm_intercalate (by decide) fun s hs => ?_
  obtain ⟨parts, -, rfl⟩ := List.mem_map.1 hs
  refine calm_intercalate (by decide) fun s hs => ?_
  obtain ⟨part, -, rfl⟩ := List.mem_map.1 hs
  exact calm_of_quoted (pieces_quoteName part)

/-- A calm text after the head of the FROM clause has one FROM more. -/
lemma Calm.fromClause {d : Dialect} {s : String} (h : Calm d s) :
    Balanced d (" FROM " ++ s) ∧ StartsApart d (" FROM " ++ s) ∧
      outerFroms d (" FROM " ++ s) = 1 := by
  have hplain : Plain " FROM " := by decide
  have hwords : outerWords d (" FROM " ++ s) = ["FROM".toList] ++ outerWords d s := by
    rw [outerWords, outerWords, tokens, tokens,
      pieces_unquoted_append (hplain.isQuote_eq_false d)]
    rfl
  refine ⟨h.balanced.before hplain, startsApart_append (by decide) s, ?_⟩
  rw [outerFroms, hwords, List.countP_append]
  exact congrArg (1 + ·) h.froms

/-- A sort key of a calm term is calm. -/
lemma calm_printOrdering {d : Dialect} {o : Ordering} (h : Calm d (o.term.print d)) :
    Calm d (Select.printOrdering d o) := by
  unfold Select.printOrdering
  split
  · exact h.append (Neutral.calm (by decide +kernel) d) (by cases d <;> decide)
  · exact h

/-- The clause that a statement of calm terms begins with is calm. -/
lemma calm_startClause {d : Dialect} {s : Select} (h : ∀ t ∈ s.terms, Calm d (t.print d)) :
    Calm d (s.startClause d) := by
  simp only [Select.terms, List.forall_mem_append] at h
  have hitems := h.1.1.1
  unfold Select.startClause
  generalize s.items? = items? at hitems
  cases items? with
  | none => exact Neutral.calm (p := "SELECT *") (by decide +kernel) d
  | some items =>
    exact (calm_intercalate (by decide) (List.forall_mem_map.2 hitems)).lead (by decide)

/-- The clauses after the FROM clause of a statement of calm terms are calm. -/
lemma calm_laterClauses {d : Dialect} {s : Select} (h : ∀ t ∈ s.terms, Calm d (t.print d)) :
    ∀ clause ∈ s.laterClauses d, Calm d clause := by
  simp only [Select.terms, List.forall_mem_append, List.forall_mem_map] at h
  obtain ⟨⟨⟨-, hfilter⟩, hgroup⟩, horder⟩ := h
  have hnumbers (ns : List Nat) : ∀ s ∈ ns.map toString, Calm d s :=
    List.forall_mem_map.2 fun n _ => (neutral_toString n).calm d
  obtain ⟨limits, offsets, hrange⟩ := exists_printRange d s.limit s.offset
  rw [Select.laterClauses, hrange]
  simp only [List.forall_mem_append]
  exact ⟨⟨⟨calm_printClause (by decide) (List.forall_mem_map.2 hfilter),
    calm_printClause (by decide) (List.forall_mem_map.2 hgroup)⟩,
    calm_printClause (by decide) (List.forall_mem_map.2 fun o ho =>
      calm_printOrdering (horder o ho))⟩,
    calm_printClause (by decide) (hnumbers limits),
    calm_printClause (by decide) (hnumbers offsets)⟩

/-- Calm clauses with a blank before each of them are calm, and set apart from the tables. -/
lemma calm_join {d : Dialect} {clauses : List String} (h : ∀ clause ∈ clauses, Calm d clause) :
    Calm d (String.join (clauses.map (" " ++ ·))) ∧
      StartsApart d (String.join (clauses.map (" " ++ ·))) := by
  induction clauses with
  | nil => exact ⟨⟨(textCongruence_sameBalanced d).empty.2, rfl⟩, nofun⟩
  | cons clause clauses ih =>
    obtain ⟨hclause, hclauses⟩ := List.forall_mem_cons.1 h
    obtain ⟨hcalm, hapart⟩ := ih hclauses
    rw [List.map_cons, String.join_cons]
    refine ⟨(hclause.lead (by decide)).append hcalm hapart, ?_⟩
    rw [String.append_assoc]
    exact startsApart_append (by decide) _

/-- **No query breaks out of its statement** if the names of its functions that are left to the
database are balanced on their own.  Then all quoted spans and parentheses of the statement are
closed, no parenthesis is closed that is not open, and the word FROM stands outside of parentheses
exactly once, before the tables that were admitted. -/
theorem contained_of_compile {text : String} {q : Query} (hparse : Query.parse text false = .ok q)
    {d : Dialect} (hd : d ≠ .gql) {access : Access} {sql : String}
    (h : compile d access q = .ok sql)
    (hnames : ∀ e ∈ q.compiled, NamesBalanced d e) :
    Balanced d sql ∧ outerFroms d sql = 1 ∧
      ∃ (s : Select) (before after : String), select d access q = .ok s ∧
        sql = before ++ " FROM " ++
          Select.commaSeparated (s.tables.map (Select.printTable d)) ++ after ∧
        Balanced d before ∧ outerFroms d before = 0 ∧
        Balanced d after ∧ outerFroms d after = 0 := by
  have htext := Query.fromText_of_parse hparse
  obtain ⟨s, hs, rfl⟩ := compile_eq_ok hd h
  have hterms : ∀ t ∈ s.terms, Calm d (t.print d) := by
    refine forall_terms_select hs (fun name _ => calm_columnTerm d name) fun e he t ht => ?_
    obtain ⟨hwritable, harity⟩ := htext.of_mem_compiled he
    exact calm_term hwritable (harity rfl) (hnames e he) ht
  have hbefore : Calm d (s.startClause d) := calm_startClause hterms
  obtain ⟨hafter, hapart⟩ : Calm d (s.afterTables d) ∧ StartsApart d (s.afterTables d) :=
    calm_join (calm_laterClauses hterms)
  have hclause := ((calm_printTables d s.tables).append hafter hapart).fromClause
  have hsql : s.print d = s.startClause d ++ (" FROM " ++
      (Select.commaSeparated (s.tables.map (Select.printTable d)) ++ s.afterTables d)) := by
    rw [s.print_eq]
    simp only [String.append_assoc]
  refine ⟨?_, ?_, s, s.startClause d, s.afterTables d, hs, s.print_eq d, hbefore.balanced,
    hbefore.froms, hafter.balanced, hafter.froms⟩
  · rw [hsql]
    exact hbefore.balanced.append hclause.1 fun c hc => (hclause.2.1 c hc).2
  · rw [hsql, outerFroms_append hbefore.balanced hclause.2.1, hbefore.froms, hclause.2.2]

/-- A function that is not known may be called below one that is, and a string may hold what looks
like the end of a call. -/
theorem contained_of_compile_trim :
    ∃ q, Query.parse "select upper(trim(a)) where b = 'x) from y'" false = .ok q ∧
      compile .mySql ⟨"emp", []⟩ q =
        .ok "SELECT UPPER(trim(`a`)) FROM `emp` WHERE (`b`='x) from y')" ∧
      Balanced .mySql "SELECT UPPER(trim(`a`)) FROM `emp` WHERE (`b`='x) from y')" ∧
      outerFroms .mySql "SELECT UPPER(trim(`a`)) FROM `emp` WHERE (`b`='x) from y')" = 1 := by
  let a : Expr := .leaf .name "a"
  let b : Expr := .leaf .name "b"
  let string : Expr := .leaf .string "x) from y"
  obtain ⟨q, hq, htest⟩ := exists_eq_ok
    (Query.parse "select upper(trim(a)) where b = 'x) from y'" false)
    (fun q => decide (q.compiled =
        [.call "upper" [.call "trim" [a]], .binary .eq "=" b string] ∧
      compile .mySql ⟨"emp", []⟩ q =
        .ok "SELECT UPPER(trim(`a`)) FROM `emp` WHERE (`b`='x) from y')"))
    (by decide +kernel)
  obtain ⟨hcompiled, hcompile⟩ := of_decide_eq_true htest
  have hleaf (e : Expr) (hcall : e.isCall = false) (hargs : e.args = []) :
      NamesBalanced .mySql e :=
    namesBalanced_iff.2 ⟨fun h => absurd h (by simp [hcall]),
      fun _ arg harg => absurd harg (by simp [hargs])⟩
  have htrim : NamesBalanced .mySql (.call "trim" [a]) :=
    namesBalanced_iff.2 ⟨fun _ _ => balanced_of_isNameChar (List.all_eq_true.1 (by decide)),
      fun _ arg harg => List.mem_singleton.1 harg ▸ hleaf a rfl rfl⟩
  have hupper : NamesBalanced .mySql (.call "upper" [.call "trim" [a]]) :=
    namesBalanced_iff.2 ⟨fun _ _ => balanced_of_isNameChar (List.all_eq_true.1 (by decide)),
      fun _ arg harg => List.mem_singleton.1 harg ▸ htrim⟩
  have hequal : NamesBalanced .mySql (.binary .eq "=" b string) :=
    namesBalanced_iff.2 ⟨nofun, fun _ => List.forall_mem_cons.2
      ⟨hleaf b rfl rfl, List.forall_mem_cons.2 ⟨hleaf string rfl rfl, nofun⟩⟩⟩
  have hnames : ∀ e ∈ q.compiled, NamesBalanced .mySql e := by
    rw [hcompiled]
    exact List.forall_mem_cons.2 ⟨hupper, List.forall_mem_cons.2 ⟨hequal, nofun⟩⟩
  have hcontained := contained_of_compile hq (by decide) hcompile hnames
  exact ⟨q, hq, hcompile, hcontained.1, hcontained.2.1⟩

/-- **The condition on the names of functions is needed.**  A name between back quotes may close the
parenthesis that it stands in and read another table, and open a parenthesis in turn. -/
theorem outerFroms_eq_two :
    ∃ q, Query.parse "select upper(`pw) from secret union select (`(a))" false = .ok q ∧
      compile .mySql ⟨"emp", []⟩ q =
        .ok "SELECT UPPER(pw) from secret union select ((`a`)) FROM `emp`" ∧
      outerFroms .mySql "SELECT UPPER(pw) from secret union select ((`a`)) FROM `emp`" = 2 := by
  obtain ⟨q, hq, hcompile⟩ := exists_eq_ok
    (Query.parse "select upper(`pw) from secret union select (`(a))" false)
    (fun q => decide (compile .mySql ⟨"emp", []⟩ q =
      .ok "SELECT UPPER(pw) from secret union select ((`a`)) FROM `emp`"))
    (by decide +kernel)
  exact ⟨q, hq, of_decide_eq_true hcompile, by decide +kernel⟩

end Sql

end ChartQuery
