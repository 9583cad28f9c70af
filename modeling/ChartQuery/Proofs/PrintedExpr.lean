import ChartQuery.Proofs.Writable

/-!
# Printed expressions are phrases

The printed text of a writable expression, wherever it stands, is a phrase for its unsigned form:
in parentheses a value, without them an expression of the loosest level.  The proof follows the
forms of writable expressions, and what it needs of each is a small fact about the pieces that the
printer puts together.
-/

namespace ChartQuery.Grammar

open ChartQuery.Expr (Level)
open Token (Writes Single Breaks NoPair IsWordText IsOperatorText IsOperatorChar Quotable Nameable
  Numeric keyword? scanAll scan first)

/-! ## Levels -/

/-- A comparison is an expression of the loosest level. -/
lemma Derives.sum_of_comparison {ts us : List Token} {e : Expr} (h : Derives .comparison ts e us) :
    Derives .sum ts e us := by
  have hnegation : Derives .negation ts e us :=
    @Derives.negation [] ts us e (fun _ ht => nomatch ht) h
  exact .sum (.product (.logic hnegation .stop) .stop) .stop

/-- A value is an expression of every level. -/
lemma Derives.of_value {ts us : List Token} {e : Expr} (h : Derives .value ts e us) :
    ∀ level, Derives level ts e us := by
  have hcomparison : Derives .comparison ts e us := .comparison h .stop
  have hnegation : Derives .negation ts e us :=
    @Derives.negation [] ts us e (fun _ ht => nomatch ht) hcomparison
  have hlogic : Derives .logic ts e us := .logic hnegation .stop
  have hproduct : Derives .product ts e us := .product hlogic .stop
  intro level
  cases level with
  | sum => exact .sum hproduct .stop
  | product => exact hproduct
  | logic => exact hlogic
  | negation => exact hnegation
  | comparison => exact hcomparison
  | value => exact h

/-- Two values with an operator between them are an expression. -/
lemma Derives.joined {level operand : Level} {op : Operator} {t : Token} {ts us vs : List Token}
    {l r : Expr} (hjoins : Joins level t.kind op operand) (hl : Derives .value ts l (t :: us))
    (hr : Derives .value us r vs) : Derives .sum ts (.binary op t.text l r) vs := by
  generalize hk : t.kind = k at hjoins
  have hchain : Continues level l (t :: us) (.binary op t.text l r) vs :=
    .step (hk ▸ hjoins) (hr.of_value operand) .stop
  cases hjoins with
  | plus | minus => exact .sum (hl.of_value .product) hchain
  | times | div => exact .sum (.product (hl.of_value .logic) hchain) .stop
  | and | or => exact .sum (.product (.logic (hl.of_value .negation) hchain) .stop) .stop
  | eq | ne | lt | le | gt | ge => exact sum_of_comparison (.comparison hl hchain)

/-! ## Pieces of printed text -/

/-- The text `s`, before anything that ends a word, is a phrase of the level for `e`. -/
def Prints (level : Level) (s : String) (e : Expr) : Prop :=
  ∀ r, Breaks r → Writes s (fun ts us => Derives level ts e us) r

/-- A character that is part of no word or number ends one. -/
lemma breaks_cons {c : Char} (hc : Token.isNameChar c = false ∧ Token.isNumberChar c = false)
    (r : List Char) : Breaks (c :: r) := by
  intro d hd
  obtain rfl : c = d := by simpa using hd
  exact hc

/-- A blank ends a word. -/
lemma breaks_blank (r : List Char) : Breaks (' ' :: r) := breaks_cons (by decide) r

/-- A text that begins with an operator ends a word. -/
lemma breaks_operator {s : String} (hs : IsOperatorText s) (r : List Char) :
    Breaks (s.toList ++ r) := by
  obtain ⟨hlength, hhead⟩ := hs
  have hne : s.toList ≠ [] := by
    intro hnil
    simp [hnil] at hlength
  obtain ⟨c, more, heq⟩ := List.exists_cons_of_ne_nil hne
  have hop : IsOperatorChar c := by simpa [heq] using hhead
  obtain ⟨-, -, hnumber, hname⟩ := hop
  rw [heq]
  exact breaks_cons ⟨hname, hnumber⟩ _

/-- An operator that begins with one of the two characters is a comparison. -/
lemma operator_kind {c : Char} (hc : c ∈ ['=', '>']) (more : List Char) :
    (Token.operator c more).kind ∈ [Token.Kind.eq, .gt, .ge] := by
  have hall : ∀ p ∈ Token.spellings, p.1.toList.headD ' ' ∈ ['=', '>'] →
      p.2 ∈ [Token.Kind.eq, .gt, .ge] := by decide
  have hshort : (Token.shortOperator c).kind ∈ [Token.Kind.eq, .gt, .ge] := by
    have : c = '=' ∨ c = '>' := by simpa using hc
    rcases this with rfl | rfl <;> decide
  cases more with
  | nil => exact hshort
  | cons d more =>
    dsimp only [Token.operator]
    split
    · next kind hkind =>
      have hpair : (String.ofList [c, d]).toList = [c, d] := String.toList_ofList
      refine hall _ (Token.mem_spellings hkind) ?_
      dsimp only
      rwa [hpair]
    · exact hshort

/-- What follows an operator does not make it grow unless it begins with an operator itself. -/
lemma noPair_of_scanAll {r : List Char}
    (h : (first (scanAll ⟨0, r⟩)).kind ∉ [Token.Kind.eq, .gt, .ge]) : NoPair r := by
  intro c hc hmem
  obtain ⟨more, rfl⟩ : ∃ more, r = c :: more := by
    cases r with
    | nil => simp at hc
    | cons d more => exact ⟨more, by simpa using hc⟩
  have hfirst : first (scanAll ⟨0, c :: more⟩) = (scan ⟨0, c :: more⟩).1 := by
    rw [scanAll]
    split <;> rfl
  have hop : IsOperatorChar c := by
    have : c = '=' ∨ c = '>' := by simpa using hmem
    rcases this with rfl | rfl <;> decide
  have hscan : (scan ⟨0, c :: more⟩).1.kind = (Token.operator c more).kind := by
    simp [scan, Token.Cursor.skipLayout, hop.1, hop.lexeme_eq]
  exact h (hfirst ▸ hscan ▸ operator_kind hmem more)

namespace Prints

variable {s : String} {e : Expr}

/-- The text of a value is that of an expression of every level. -/
lemma of_value (h : Prints .value s e) (level : Level) : Prints level s e := fun r hr =>
  (h r hr).mono fun _ _ hder => hder.of_value level

/-- The text of a value does not make an operator before it grow. -/
lemma noPair (h : Prints .value s e) {r : List Char} (hr : Breaks r) :
    NoPair (s.toList ++ r) := by
  obtain ⟨m, hder⟩ := h r hr 0
  refine noPair_of_scanAll fun hmem => ?_
  have hnot : ∀ kind ∈ [Token.Kind.eq, .gt, .ge], kind ∉ openings .value := by decide
  exact hnot _ hmem hder.first_mem_openings

/-- An expression in parentheses is a value. -/
lemma parens (h : Prints .sum s e) : Prints .value ("(" ++ s ++ ")") e := by
  intro r hr
  have hclosing : Breaks (")".toList ++ r) := breaks_cons (by decide) r
  refine Writes.mono ((Token.writes_lparen.append (h _ hclosing)).append Token.writes_rparen) ?_
  rintro ts us ⟨vs, ⟨ws, ⟨p, rfl⟩, hder⟩, ⟨p', rfl⟩⟩
  exact .parens rfl hder rfl

/-- A minus sign before a value is a value. -/
lemma negative (h : Prints .value s e) : Prints .value ("-" ++ s) (.unary .neg "-" e) := by
  intro r hr
  have hminus : Writes "-" (Single .minus "-") (s.toList ++ r) :=
    Token.writes_sign rfl (by decide) rfl fun hgrows => absurd hgrows (by decide)
  refine Writes.mono (hminus.append (h r hr)) ?_
  rintro ts us ⟨vs, ⟨p, rfl⟩, hder⟩
  exact .signed .minus hder

/-- A negated value is an expression. -/
lemma not (h : Prints .value s e) : Prints .sum ("not " ++ s) (.unary .not "not" e) := by
  intro r hr
  have hnot : Writes "not " (Single .kwNot "not") (s.toList ++ r) :=
    Writes.append_blank (Token.writes_keyword (by decide) rfl rfl (breaks_blank _))
  refine Writes.mono (hnot.append (h r hr)) ?_
  rintro ts us ⟨vs, ⟨p, rfl⟩, hder⟩
  have hcomparison := hder.of_value .comparison
  have hnegation : Derives .negation (⟨p, .kwNot, "not"⟩ :: vs) (.unary .not "not" e) us :=
    @Derives.negation [⟨p, .kwNot, "not"⟩] vs us e (by simp) hcomparison
  exact .sum (.product (.logic hnegation .stop) .stop) .stop

/-- A value that is tested for null is an expression. -/
lemma isNull (h : Prints .value s e) :
    Prints .sum (s ++ " is null") (.unary .isNull "is null" e) := by
  intro r hr
  have his : Writes " is" (Token.Spells "is") (" null".toList ++ r) :=
    Writes.blank_append (Token.writes_spelled (by decide) rfl rfl (breaks_blank _))
  have hnull : Writes " null" (Token.Spells "null") r :=
    Writes.blank_append (Token.writes_spelled (by decide) rfl rfl hr)
  refine Writes.mono ((h _ (breaks_blank _)).append (his.append hnull)) ?_
  rintro ts us ⟨vs, hder, ws, ⟨is, rfl, his⟩, ⟨null, rfl, hnull⟩⟩
  exact (Derives.isNull hder his hnull).sum_of_comparison

/-- A value that is tested for not being null is an expression. -/
lemma isNotNull (h : Prints .value s e) :
    Prints .sum (s ++ " is not null") (.unary .isNotNull "is not null" e) := by
  intro r hr
  have his : Writes " is" (Token.Spells "is") (" not null".toList ++ r) :=
    Writes.blank_append (Token.writes_spelled (by decide) rfl rfl (breaks_blank _))
  have hnot : Writes " not" (Single .kwNot "not") (" null".toList ++ r) :=
    Writes.blank_append (Token.writes_keyword (by decide) rfl rfl (breaks_blank _))
  have hnull : Writes " null" (Token.Spells "null") r :=
    Writes.blank_append (Token.writes_spelled (by decide) rfl rfl hr)
  refine Writes.mono ((h _ (breaks_blank _)).append (his.append (hnot.append hnull))) ?_
  rintro ts us ⟨vs, hder, ws, ⟨is, rfl, his⟩, xs, ⟨p, rfl⟩, ⟨null, rfl, hnull⟩⟩
  exact (Derives.isNotNull hder his rfl hnull).sum_of_comparison

end Prints

/-! ## Operators with two operands -/

section Binary

variable {s x y : String} {l r : Expr}

/-- An operator between two phrases is written without blanks, or it is one of two reserved
words. -/
lemma Joins.form {level operand : Level} {k : Token.Kind} {op : Operator}
    (hjoins : Joins level k op operand) (hkind : keyword? s = some k) :
    op.isCompact = true ∧ IsOperatorText s ∨
      (op = .and ∨ op = .or) ∧ IsWordText s ∧ s.toList.map Char.toLower = s.toList := by
  have hcompact : ∀ p ∈ Token.spellings,
      p.2 ∈ [Token.Kind.plus, .minus, .times, .div, .eq, .ne, .lt, .le, .gt, .ge] →
        IsOperatorText p.1 := by decide
  have hspaced : ∀ p ∈ Token.spellings, p.2 ∈ [Token.Kind.kwAnd, .kwOr] →
      IsWordText p.1 ∧ p.1.toList.map Char.toLower = p.1.toList := by decide
  have hmem := Token.mem_spellings hkind
  cases hjoins with
  | and => exact .inr ⟨.inl rfl, hspaced _ hmem (by simp)⟩
  | or => exact .inr ⟨.inr rfl, hspaced _ hmem (by simp)⟩
  | plus | minus | times | div | eq | ne | lt | le | gt | ge =>
    exact .inl ⟨rfl, hcompact _ hmem (by simp)⟩

/-- Two values with an operator between them are an expression. -/
lemma Prints.compact {level operand : Level} {k : Token.Kind} {op : Operator}
    (hjoins : Joins level k op operand) (hs : IsOperatorText s) (hkind : keyword? s = some k)
    (hl : Prints .value x l) (hr : Prints .value y r) :
    Prints .sum (x ++ s ++ y) (.binary op s l r) := by
  intro c hc
  have hop : Writes s (Single k s) (y.toList ++ c) :=
    Token.writes_operator hs hkind (hr.noPair hc)
  refine Writes.mono (((hl _ (breaks_operator hs _)).append hop).append (hr c hc)) ?_
  rintro ts us ⟨vs, ⟨ws, hleft, ⟨p, rfl⟩⟩, hright⟩
  exact @Derives.joined _ _ _ ⟨p, k, s⟩ _ _ _ _ _ hjoins hleft hright

/-- Two values with a reserved word between them are an expression. -/
lemma Prints.spaced {level operand : Level} {k : Token.Kind} {op : Operator}
    (hjoins : Joins level k op operand) (hs : IsWordText s)
    (hlower : s.toList.map Char.toLower = s.toList) (hkind : keyword? s = some k)
    (hl : Prints .value x l) (hr : Prints .value y r) :
    Prints .sum (x ++ " " ++ s ++ " " ++ y) (.binary op s l r) := by
  intro c hc
  have hop : Writes s (Single k s) (" ".toList ++ (y.toList ++ c)) :=
    Token.writes_keyword hs hlower hkind (breaks_blank _)
  have hleft := (hl _ (breaks_blank (s.toList ++ (" ".toList ++ (y.toList ++ c))))).append_blank
  refine Writes.mono ((hleft.append hop).append_blank.append (hr c hc)) ?_
  rintro ts us ⟨vs, ⟨ws, hleft, ⟨p, rfl⟩⟩, hright⟩
  exact @Derives.joined _ _ _ ⟨p, k, s⟩ _ _ _ _ _ hjoins hleft hright

/-- Two values with an operator between them that is one word are an expression. -/
lemma Prints.oneWord {op : Operator} (hs : IsWordText s)
    (hlower : s.toList.map Char.toLower = s.toList) (hkind : keyword? s = none)
    (hop : ∀ t ts, t.isWord s = true → WordOperator t ts op ts)
    (hl : Prints .value x l) (hr : Prints .value y r) :
    Prints .sum (x ++ " " ++ s ++ " " ++ y) (.binary op s l r) := by
  intro c hc
  have hword : Writes s (Token.Spells s) (" ".toList ++ (y.toList ++ c)) :=
    Token.writes_spelled hs hlower hkind (breaks_blank _)
  have hleft := (hl _ (breaks_blank (s.toList ++ (" ".toList ++ (y.toList ++ c))))).append_blank
  refine Writes.mono ((hleft.append hword).append_blank.append (hr c hc)) ?_
  rintro ts us ⟨vs, ⟨ws, hleft, ⟨t, rfl, ht⟩⟩, hright⟩
  have hder := Derives.word hleft (hop t vs ht) (hright.of_value .comparison)
  rw [(Token.isWord_iff.1 ht).2] at hder
  exact hder.sum_of_comparison

/-- Two values with an operator between them that is a word and the word `with` are an
expression. -/
lemma Prints.twoWords {op : Operator} (hs : IsWordText s)
    (hlower : s.toList.map Char.toLower = s.toList) (hkind : keyword? s = none)
    (hop : ∀ t u ts, t.isWord s = true → u.isWord "with" = true →
      WordOperator t (u :: ts) op ts)
    (hl : Prints .value x l) (hr : Prints .value y r) :
    Prints .sum (x ++ " " ++ s ++ " with " ++ y) (.binary op s l r) := by
  intro c hc
  have hword : Writes s (Token.Spells s) (" with ".toList ++ (y.toList ++ c)) :=
    Token.writes_spelled hs hlower hkind (breaks_blank _)
  have hwith : Writes " with " (Token.Spells "with") (y.toList ++ c) :=
    (Token.writes_spelled (by decide) rfl rfl (breaks_blank _)).blank_append.append_blank
  have hleft :=
    (hl _ (breaks_blank (s.toList ++ (" with ".toList ++ (y.toList ++ c))))).append_blank
  refine Writes.mono (((hleft.append hword).append hwith).append (hr c hc)) ?_
  rintro ts us ⟨vs, ⟨ws, ⟨xs, hleft, ⟨t, rfl, ht⟩⟩, ⟨u, rfl, hu⟩⟩, hright⟩
  have hder := Derives.word hleft (hop t u vs ht hu) (hright.of_value .comparison)
  rw [(Token.isWord_iff.1 ht).2] at hder
  exact hder.sum_of_comparison

end Binary

/-! ## Lists -/

section Lists

variable {α β : Type} {item : List Token → β → List Token → Prop} {f : α → String} {g : α → β}

/-- Texts with a comma and a blank between them are the items that each of them is. -/
lemma writes_separated : ∀ {xs : List α}, xs ≠ [] →
    (∀ x ∈ xs, ∀ r, Breaks r → Writes (f x) (fun ts us => item ts (g x) us) r) →
    ∀ {r : List Char}, Breaks r →
      Writes (", ".intercalate (xs.map f)) (fun ts us => Separated item ts (xs.map g) us) r
  | [], hne, _, _, _ => absurd rfl hne
  | [x], _, h, r, hr => by
    rw [List.map_singleton, List.map_singleton, String.intercalate_singleton]
    exact (h x List.mem_cons_self r hr).mono fun _ _ hx => .one hx
  | x :: y :: ys, _, h, r, hr => by
    have hmore := writes_separated (List.cons_ne_nil y ys)
      (fun z hz => h z (List.mem_cons_of_mem x hz)) hr
    have hcomma (r : List Char) : Breaks (", ".toList ++ r) := breaks_cons (by decide) _
    have hfirst := h x List.mem_cons_self _
      (hcomma ((", ".intercalate ((y :: ys).map f)).toList ++ r))
    rw [List.map_cons, List.map_cons, List.map_cons, String.intercalate_cons_cons, ← List.map_cons]
    refine Writes.mono ((hfirst.append Token.writes_comma).append hmore) ?_
    rintro ts us ⟨vs, ⟨ws, hx, ⟨p, rfl⟩⟩, hxs⟩
    exact .more hx rfl hxs

/-- Arguments are expressions with commas between them. -/
lemma arguments_of_separated {ts us : List Token} {es : List Expr}
    (h : Separated (Derives .sum) ts es us) : Arguments ts es us := by
  induction h with
  | one he => exact .one he
  | more he hcomma _ ih => exact .more he hcomma ih

end Lists

/-! ## Values -/

/-- A text that is a single token is a value if the token is one. -/
lemma prints_single {s text : String} {kind : Token.Kind} {e : Expr}
    (h : ∀ r, Breaks r → Writes s (Single kind text) r)
    (he : ∀ p us, Derives .value (⟨p, kind, text⟩ :: us) e us) : Prints .value s e := by
  intro r hr
  refine (h r hr).mono ?_
  rintro ts us ⟨p, rfl⟩
  exact he p us

/-- A keyword and a string after it are a temporal literal. -/
lemma prints_literal {keyword value : String} {k : Token.Kind} {kind : TemporalKind}
    (hkind : Temporal k kind) (hkeyword : keyword? keyword = some k) (hvalue : Quotable value) :
    Prints .value (keyword ++ " " ++ quoteString value) (.literal kind keyword value) := by
  intro r hr
  have hall : ∀ p ∈ Token.spellings, p.2 ∈ [Token.Kind.kwDate, .kwTimeOfDay, .kwDateTime] →
      IsWordText p.1 ∧ p.1.toList.map Char.toLower = p.1.toList := by decide
  have hk : k ∈ [Token.Kind.kwDate, .kwTimeOfDay, .kwDateTime] := by cases hkind <;> decide
  obtain ⟨hword, hlower⟩ := hall _ (Token.mem_spellings hkeyword) hk
  have hfirst : Writes keyword (Single k keyword)
      (" ".toList ++ ((quoteString value).toList ++ r)) :=
    Token.writes_keyword hword hlower hkeyword (breaks_blank _)
  refine Writes.mono (hfirst.append_blank.append (Token.writes_quoteString hvalue)) ?_
  rintro ts us ⟨vs, ⟨p, rfl⟩, ⟨p', rfl⟩⟩
  exact @Derives.literal ⟨p, k, keyword⟩ ⟨p', .string, value⟩ kind us hkind rfl

/-- A name and something in parentheses after it. -/
lemma writes_call {name inner : String} {rule : List Token → List Token → Prop} {r : List Char}
    (hname : Nameable name) (h : Writes inner rule (")".toList ++ r)) :
    Writes (quoteName name ++ "(" ++ inner ++ ")") (fun ts us => ∃ p o c vs,
      ts = ⟨p, .identifier, name⟩ :: ⟨o, .lparen, "("⟩ :: vs ∧
        rule vs (⟨c, .rparen, ")"⟩ :: us)) r := by
  have hopening : Breaks ("(".toList ++ (inner.toList ++ (")".toList ++ r))) :=
    breaks_cons (by decide) _
  refine Writes.mono ((((Token.writes_quoteName hname hopening).append
    Token.writes_lparen).append h).append Token.writes_rparen) ?_
  rintro ts us ⟨vs, ⟨ws, ⟨xs, ⟨p, rfl⟩, ⟨o, rfl⟩⟩, hinner⟩, ⟨c, rfl⟩⟩
  exact ⟨p, o, c, ws, rfl, hinner⟩

/-- A call of an aggregate function is a value. -/
lemma prints_aggregate {name column : String} (hname : Nameable name)
    (hagg : Expr.isAggregateName name = true) (hcolumn : Nameable column) :
    Prints .value (quoteName name ++ "(" ++ quoteName column ++ ")")
      (.call name [.leaf .name column]) := by
  intro r hr
  have hclosing : Breaks (")".toList ++ r) := breaks_cons (by decide) r
  refine (writes_call hname (Token.writes_quoteName hcolumn hclosing)).mono ?_
  rintro ts us ⟨p, o, c, vs, rfl, ⟨p', rfl⟩⟩
  exact @Derives.aggregate ⟨p, .identifier, name⟩ ⟨o, .lparen, "("⟩ ⟨p', .identifier, column⟩
    ⟨c, .rparen, ")"⟩ us rfl hagg rfl rfl rfl

/-- A call of any other function is a value if its arguments are expressions. -/
lemma prints_call {name : String} {args : List Expr} (hname : Nameable name)
    (hagg : Expr.isAggregateName name = false)
    (h : ∀ e ∈ args, Prints .sum (e.print false) e.unsigned) :
    Prints .value (quoteName name ++ "(" ++ ", ".intercalate (args.map (Expr.print false)) ++ ")")
      (.call name (args.map Expr.unsigned)) := by
  intro r hr
  have hclosing : Breaks (")".toList ++ r) := breaks_cons (by decide) r
  by_cases hargs : args = []
  · subst hargs
    refine (writes_call hname Token.writes_empty).mono ?_
    rintro ts us ⟨p, o, c, vs, rfl, rfl⟩
    exact @Derives.emptyCall ⟨p, .identifier, name⟩ ⟨o, .lparen, "("⟩ ⟨c, .rparen, ")"⟩ us
      rfl hagg rfl rfl
  · refine (writes_call hname (writes_separated hargs h hclosing)).mono ?_
    rintro ts us ⟨p, o, c, vs, rfl, hsep⟩
    exact @Derives.call ⟨p, .identifier, name⟩ ⟨o, .lparen, "("⟩ ⟨c, .rparen, ")"⟩ vs us _
      rfl hagg rfl (arguments_of_separated hsep) rfl

end ChartQuery.Grammar

namespace ChartQuery.Expr

open Grammar

/-! ## The printer, form by form -/

section Print

variable (wrap : Bool) (op : Operator) (symbol : String) (e l r : Expr)

/-- A call is printed with its arguments, none of them in parentheses. -/
lemma print_call (name : String) (args : List Expr) :
    (call name args).print wrap =
      quoteName name ++ "(" ++ ", ".intercalate (args.map (print false)) ++ ")" := by
  cases args <;> simp [call, print, printNode, wrapsOperands, printAll_eq_map]

/-- A temporal literal is printed as its keyword and its string. -/
lemma print_literal (kind : TemporalKind) (keyword value : String) :
    (literal kind keyword value).print wrap = keyword ++ " " ++ quoteString value := rfl

/-- An operator with one operand is printed with the operand in parentheses. -/
lemma print_unary (h : op ≠ .pos) :
    (unary op symbol e).print wrap = printOperator wrap op symbol [e.print true] := by
  have hwrap : wrapsOperands wrap (.op op) = true := by
    cases op <;> simp_all [wrapsOperands]
  simp [unary, print, printNode, printAll, hwrap]

/-- An operator with two operands is printed with the operands in parentheses. -/
lemma print_binary (h : op ≠ .pos) :
    (binary op symbol l r).print wrap =
      printOperator wrap op symbol [l.print true, r.print true] := by
  have hwrap : wrapsOperands wrap (.op op) = true := by
    cases op <;> simp_all [wrapsOperands]
  simp [binary, print, printNode, printAll, hwrap]

/-- An operator that is written without blanks. -/
lemma printOperator_compact (h : op.isCompact = true) (x y : String) :
    printOperator wrap op symbol [x, y] = parens wrap (x ++ symbol ++ y) := by
  cases op <;> simp_all [Operator.isCompact, printOperator, operand]

end Print

/-! ## Printing and reading -/

/-- A text that is an expression, in parentheses and without them. -/
lemma prints_of_sum {s : String} {e e' : Expr} (hprint : ∀ wrap, e.print wrap = parens wrap s)
    (h : Prints .sum s e') :
    Prints .value (e.print true) e' ∧ Prints .sum (e.print false) e' := by
  rw [hprint, hprint]
  exact ⟨h.parens, h⟩

/-- A text that is a value needs no parentheses. -/
lemma prints_of_value {s : String} {e e' : Expr} (hprint : ∀ wrap, e.print wrap = s)
    (h : Prints .value s e') :
    Prints .value (e.print true) e' ∧ Prints .sum (e.print false) e' := by
  rw [hprint, hprint]
  exact ⟨h, h.of_value .sum⟩

/-- **Printed expressions are read back.**  The printed text of a writable expression is a phrase
for its unsigned form: a value if it is put into parentheses, else an expression. -/
theorem Writable.prints {e : Expr} (h : e.Writable) :
    Prints .value (e.print true) e.unsigned ∧ Prints .sum (e.print false) e.unsigned := by
  induction h with
  | number h =>
    refine prints_of_value (fun _ => rfl) ?_
    rw [unsigned_leaf]
    exact prints_single (fun r hr => Token.writes_number h hr) fun p us => .number rfl
  | string h =>
    refine prints_of_value (fun _ => rfl) ?_
    rw [unsigned_leaf]
    exact prints_single (fun r _ => Token.writes_quoteString h) fun p us => .string rfl
  | truth b =>
    refine prints_of_value (fun _ => rfl) ?_
    rw [unsigned_ofBool]
    cases b with
    | true =>
      exact prints_single (fun r hr => Token.writes_keyword (by decide) rfl rfl hr)
        fun p us => .truth rfl
    | false =>
      exact prints_single (fun r hr => Token.writes_keyword (by decide) rfl rfl hr)
        fun p us => .falsity rfl
  | literal hkind hkeyword hvalue =>
    refine prints_of_value (fun wrap => print_literal wrap _ _ _) ?_
    rw [unsigned_literal]
    exact prints_literal hkind hkeyword hvalue
  | column h =>
    refine prints_of_value (fun _ => rfl) ?_
    rw [unsigned_leaf]
    exact prints_single (fun r hr => Token.writes_quoteName h hr) fun p us => .column rfl
  | aggregate hname hagg hcolumn =>
    refine prints_of_value (fun wrap => print_call wrap _ _) ?_
    rw [unsigned_call, List.map_singleton, List.map_singleton, unsigned_leaf,
      String.intercalate_singleton]
    exact prints_aggregate hname hagg hcolumn
  | call hname hagg _ ih =>
    refine prints_of_value (fun wrap => print_call wrap _ _) ?_
    rw [unsigned_call]
    exact prints_call hname hagg fun e he => (ih e he).2
  | positive _ ih => exact ih
  | negative _ ih =>
    refine prints_of_sum (fun wrap => print_unary wrap _ _ _ (by decide)) ?_
    rw [unsigned_unary _ _ _ (by decide)]
    exact ih.1.negative.of_value .sum
  | not _ ih =>
    refine prints_of_sum (fun wrap => print_unary wrap _ _ _ (by decide)) ?_
    rw [unsigned_unary _ _ _ (by decide)]
    exact ih.1.not
  | isNull _ ih =>
    refine prints_of_sum (fun wrap => print_unary wrap _ _ _ (by decide)) ?_
    rw [unsigned_unary _ _ _ (by decide)]
    exact ih.1.isNull
  | isNotNull _ ih =>
    refine prints_of_sum (fun wrap => print_unary wrap _ _ _ (by decide)) ?_
    rw [unsigned_unary _ _ _ (by decide)]
    exact ih.1.isNotNull
  | @joined level k op operand symbol l r hjoins hkind _ _ ihl ihr =>
    rw [unsigned_binary]
    rcases hjoins.form hkind with ⟨hcompact, hsymbol⟩ | ⟨hspaced, hsymbol, hlower⟩
    · have hprint : ∀ wrap, (binary op symbol l r).print wrap =
          parens wrap (l.print true ++ symbol ++ r.print true) := by
        intro wrap
        rw [print_binary wrap op symbol l r (by rintro rfl; cases hcompact),
          printOperator_compact wrap op symbol hcompact]
      exact prints_of_sum hprint (.compact hjoins hsymbol hkind ihl.1 ihr.1)
    · have hprint : ∀ wrap, (binary op symbol l r).print wrap =
          parens wrap (l.print true ++ " " ++ symbol ++ " " ++ r.print true) := by
        intro wrap
        rcases hspaced with rfl | rfl <;> exact print_binary wrap _ symbol l r (by decide)
      exact prints_of_sum hprint (.spaced hjoins hsymbol hlower hkind ihl.1 ihr.1)
  | word hword _ _ ihl ihr =>
    rw [unsigned_binary]
    cases hword with
    | contains =>
      exact prints_of_sum (fun wrap => print_binary wrap _ _ _ _ (by decide))
        (.oneWord (by decide) rfl rfl (fun _ _ ht => .contains ht) ihl.1 ihr.1)
    | regularExpression =>
      exact prints_of_sum (fun wrap => print_binary wrap _ _ _ _ (by decide))
        (.oneWord (by decide) rfl rfl (fun _ _ ht => .regularExpression ht) ihl.1 ihr.1)
    | like =>
      exact prints_of_sum (fun wrap => print_binary wrap _ _ _ _ (by decide))
        (.oneWord (by decide) rfl rfl (fun _ _ ht => .like ht) ihl.1 ihr.1)
    | startsWith =>
      exact prints_of_sum (fun wrap => print_binary wrap _ _ _ _ (by decide))
        (.twoWords (by decide) rfl rfl (fun _ _ _ ht hu => .startsWith ht hu) ihl.1 ihr.1)
    | endsWith =>
      exact prints_of_sum (fun wrap => print_binary wrap _ _ _ _ (by decide))
        (.twoWords (by decide) rfl rfl (fun _ _ _ ht hu => .endsWith ht hu) ihl.1 ihr.1)

end ChartQuery.Expr
