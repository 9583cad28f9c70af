import ChartQuery.Query.Parser
import Mathlib.Data.Nat.Digits.Defs
import Mathlib.Tactic.Common

/-!
# The grammar of the query language

What a list of tokens has to look like to be a query, written down as rules and not as a program.
A rule relates the tokens from some place on, what a phrase at that place stands for, and the
tokens after the phrase; a whole text is a phrase after which nothing is left.

An expression has six levels.  From the loosest to the tightest they are

    sum        =  product ((+ | -) product)*
    product    =  logic ((* | /) logic)*
    logic      =  negation ((and | or) negation)*
    negation   =  not* comparison
    comparison =  value ((= | != | < | <= | > | >=) value)*
               |  value is [not] null
               |  value (contains | matches | like | starts with | ends with) comparison
    value      =  (+ | -) value | (sum) | true | false | string | number
               |  (date | timeofday | datetime) string
               |  name | aggregate(name) | function() | function(sum, ..., sum)

and a query is ten clauses, each of them optional, in a fixed order.  No rule looks ahead, and none
prefers one alternative to another.
-/

namespace ChartQuery.Grammar

open ChartQuery.Expr (Level)

/-! ## Words and signs -/

/-- `Joins level kind op operand`: at this level a token of this kind is the operator `op` between
two phrases of the level `operand`. -/
inductive Joins : Level → Token.Kind → Operator → Level → Prop
  | plus : Joins .sum .plus .plus .product
  | minus : Joins .sum .minus .minus .product
  | times : Joins .product .times .times .logic
  | div : Joins .product .div .div .logic
  | and : Joins .logic .kwAnd .and .negation
  | or : Joins .logic .kwOr .or .negation
  | eq : Joins .comparison .eq .eq .value
  | ne : Joins .comparison .ne .ne .value
  | lt : Joins .comparison .lt .lt .value
  | le : Joins .comparison .le .le .value
  | gt : Joins .comparison .gt .gt .value
  | ge : Joins .comparison .ge .ge .value

/-- The signs that may stand before a value. -/
inductive Sign : Token.Kind → Operator → Prop
  | plus : Sign .plus .pos
  | minus : Sign .minus .neg

/-- The keywords that begin a temporal literal. -/
inductive Temporal : Token.Kind → TemporalKind → Prop
  | date : Temporal .kwDate .date
  | timeOfDay : Temporal .kwTimeOfDay .timeOfDay
  | dateTime : Temporal .kwDateTime .dateTime

/-- `WordOperator t ts op us`: the word `t`, together with what leads from `ts` to `us`, is the
operator `op`.  The words are ordinary names, in any mixture of cases. -/
inductive WordOperator : Token → List Token → Operator → List Token → Prop
  | contains {t ts} : t.isWord "contains" = true → WordOperator t ts .contains ts
  | regularExpression {t ts} : t.isWord "matches" = true → WordOperator t ts .matches ts
  | like {t ts} : t.isWord "like" = true → WordOperator t ts .like ts
  | startsWith {t u ts} : t.isWord "starts" = true → u.isWord "with" = true →
      WordOperator t (u :: ts) .startsWith ts
  | endsWith {t u ts} : t.isWord "ends" = true → u.isWord "with" = true →
      WordOperator t (u :: ts) .endsWith ts

/-- A comparison after so many negations: an even number of them is none. -/
def negated (count : Nat) (e : Expr) : Expr :=
  if count % 2 = 1 then .unary .not "not" e else e

/-! ## Expressions -/

mutual

/-- `Derives level ts e us`: the tokens `ts` begin with a phrase of the level that stands for the
expression `e`, and `us` follow it. -/
inductive Derives : Level → List Token → Expr → List Token → Prop
  | sum {ts us vs l e} : Derives .product ts l us → Continues .sum l us e vs →
      Derives .sum ts e vs
  | product {ts us vs l e} : Derives .logic ts l us → Continues .product l us e vs →
      Derives .product ts e vs
  | logic {ts us vs l e} : Derives .negation ts l us → Continues .logic l us e vs →
      Derives .logic ts e vs
  | negation {nots ts us e} : (∀ t ∈ nots, t.kind = .kwNot) → Derives .comparison ts e us →
      Derives .negation (nots ++ ts) (negated nots.length e) us
  | comparison {ts us vs l e} : Derives .value ts l us → Continues .comparison l us e vs →
      Derives .comparison ts e vs
  | isNull {ts us e} {is null : Token} : Derives .value ts e (is :: null :: us) →
      is.isWord "is" = true → null.isWord "null" = true →
      Derives .comparison ts (.unary .isNull "is null" e) us
  | isNotNull {ts us e} {is not null : Token} : Derives .value ts e (is :: not :: null :: us) →
      is.isWord "is" = true → not.kind = .kwNot → null.isWord "null" = true →
      Derives .comparison ts (.unary .isNotNull "is not null" e) us
  | word {ts us vs ws l r t op} : Derives .value ts l (t :: us) → WordOperator t us op vs →
      Derives .comparison vs r ws →
      Derives .comparison ts (.binary op t.text.toLower l r) ws
  | signed {t op ts us e} : Sign t.kind op → Derives .value ts e us →
      Derives .value (t :: ts) (.unary op t.text e) us
  | parens {opening closing : Token} {ts us e} : opening.kind = .lparen →
      Derives .sum ts e (closing :: us) → closing.kind = .rparen →
      Derives .value (opening :: ts) e us
  | truth {t : Token} {us} : t.kind = .kwTrue → Derives .value (t :: us) (.ofBool true) us
  | falsity {t : Token} {us} : t.kind = .kwFalse → Derives .value (t :: us) (.ofBool false) us
  | string {t : Token} {us} : t.kind = .string →
      Derives .value (t :: us) (.leaf .string t.text) us
  | number {t : Token} {us} : t.kind = .number →
      Derives .value (t :: us) (.leaf .number t.text) us
  | literal {t s : Token} {kind us} : Temporal t.kind kind → s.kind = .string →
      Derives .value (t :: s :: us) (.literal kind t.text s.text) us
  | column {t : Token} {us} : t.kind = .identifier →
      Derives .value (t :: us) (.leaf .name t.text) us
  | aggregate {name opening column closing : Token} {us} : name.kind = .identifier →
      Expr.isAggregateName name.text = true → opening.kind = .lparen →
      column.kind = .identifier → closing.kind = .rparen →
      Derives .value (name :: opening :: column :: closing :: us)
        (.call name.text [.leaf .name column.text]) us
  | emptyCall {name opening closing : Token} {us} : name.kind = .identifier →
      Expr.isAggregateName name.text = false → opening.kind = .lparen → closing.kind = .rparen →
      Derives .value (name :: opening :: closing :: us) (.call name.text []) us
  | call {name opening closing : Token} {ts us es} : name.kind = .identifier →
      Expr.isAggregateName name.text = false → opening.kind = .lparen →
      Arguments ts es (closing :: us) → closing.kind = .rparen →
      Derives .value (name :: opening :: ts) (.call name.text es) us

/-- `Continues level l ts e us`: the operators and operands of a chain of the level lead from `ts`
to `us`, and turn what stands to their left from `l` into `e`.  The chain associates to the
left. -/
inductive Continues : Level → Expr → List Token → Expr → List Token → Prop
  | stop {level l ts} : Continues level l ts l ts
  | step {level operand op l r e} {t : Token} {ts us vs} : Joins level t.kind op operand →
      Derives operand ts r us → Continues level (.binary op t.text l r) us e vs →
      Continues level l (t :: ts) e vs

/-- `Arguments ts es us`: the tokens `ts` begin with expressions with commas between them, at least
one, and `us` follow them. -/
inductive Arguments : List Token → List Expr → List Token → Prop
  | one {ts us e} : Derives .sum ts e us → Arguments ts [e] us
  | more {ts us vs e es} {comma : Token} : Derives .sum ts e (comma :: us) →
      comma.kind = .comma → Arguments us es vs → Arguments ts (e :: es) vs

end

/-! ### What a phrase leaves -/

mutual

/-- A phrase takes at least one token and leaves the end of what there was. -/
theorem Derives.exists_cons : ∀ {level ts e us}, Derives level ts e us →
    ∃ t vs, ts = t :: vs ∧ us <:+ vs
  | _, _, _, _, .sum h hc | _, _, _, _, .product h hc | _, _, _, _, .logic h hc
  | _, _, _, _, .comparison h hc => by
    obtain ⟨t, vs, rfl, hvs⟩ := h.exists_cons
    exact ⟨t, vs, rfl, hc.suffix.trans hvs⟩
  | _, _, _, _, @Derives.negation nots _ _ _ _ h => by
    obtain ⟨t, vs, rfl, hvs⟩ := h.exists_cons
    cases nots with
    | nil => exact ⟨t, vs, rfl, hvs⟩
    | cons u nots =>
      exact ⟨u, nots ++ t :: vs, rfl, (hvs.trans (List.suffix_cons t vs)).trans
        (List.suffix_append nots _)⟩
  | _, _, _, _, .isNull h _ _ => by
    obtain ⟨t, vs, rfl, hvs⟩ := h.exists_cons
    exact ⟨t, vs, rfl, (List.suffix_append [_, _] _).trans hvs⟩
  | _, _, _, _, .isNotNull h _ _ _ => by
    obtain ⟨t, vs, rfl, hvs⟩ := h.exists_cons
    exact ⟨t, vs, rfl, (List.suffix_append [_, _, _] _).trans hvs⟩
  | _, _, _, _, .word h hop hr => by
    obtain ⟨t, vs, rfl, hvs⟩ := h.exists_cons
    obtain ⟨u, ws, rfl, hws⟩ := hr.exists_cons
    refine ⟨t, vs, rfl, .trans ?_ hvs⟩
    cases hop with
    | contains | regularExpression | like => exact hws.trans (List.suffix_append [_, _] _)
    | startsWith | endsWith => exact hws.trans (List.suffix_append [_, _, _] _)
  | _, _, _, _, .signed _ h => by
    obtain ⟨t, vs, rfl, hvs⟩ := h.exists_cons
    exact ⟨_, _, rfl, hvs.trans (List.suffix_cons t vs)⟩
  | _, _, _, _, .parens _ h _ => by
    obtain ⟨t, vs, rfl, hvs⟩ := h.exists_cons
    exact ⟨_, _, rfl, (List.suffix_append [_] _).trans (hvs.trans (List.suffix_cons t vs))⟩
  | _, _, _, _, .truth _ | _, _, _, _, .falsity _ | _, _, _, _, .string _
  | _, _, _, _, .number _ | _, _, _, _, .column _ => ⟨_, _, rfl, List.suffix_rfl⟩
  | _, _, _, _, .literal _ _ => ⟨_, _, rfl, List.suffix_cons _ _⟩
  | _, _, _, _, .aggregate _ _ _ _ _ => ⟨_, _, rfl, List.suffix_append [_, _, _] _⟩
  | _, _, _, _, .emptyCall _ _ _ _ => ⟨_, _, rfl, List.suffix_append [_, _] _⟩
  | _, _, _, _, .call _ _ _ h _ =>
    ⟨_, _, rfl, ((List.suffix_cons _ _).trans h.suffix).trans (List.suffix_cons _ _)⟩

/-- A chain leaves the end of what there was. -/
theorem Continues.suffix : ∀ {level l ts e us}, Continues level l ts e us → us <:+ ts
  | _, _, _, _, _, .stop => List.suffix_rfl
  | _, _, _, _, _, .step _ h hc => by
    obtain ⟨t, vs, rfl, hvs⟩ := h.exists_cons
    exact (hc.suffix.trans hvs).trans (List.suffix_append [_, _] _)

/-- Arguments leave the end of what there was. -/
theorem Arguments.suffix : ∀ {ts es us}, Arguments ts es us → us <:+ ts
  | _, _, _, .one h => by
    obtain ⟨t, vs, rfl, hvs⟩ := h.exists_cons
    exact hvs.trans (List.suffix_cons t vs)
  | _, _, _, .more h _ ha => by
    obtain ⟨t, vs, rfl, hvs⟩ := h.exists_cons
    exact ((ha.suffix.trans (List.suffix_cons _ _)).trans hvs).trans (List.suffix_cons t vs)

end

/-- A phrase leaves fewer tokens than there were. -/
lemma Derives.length_lt {level : Level} {ts us : List Token} {e : Expr}
    (h : Derives level ts e us) : us.length < ts.length := by
  obtain ⟨t, vs, rfl, hvs⟩ := h.exists_cons
  exact Nat.lt_succ_of_le hvs.length_le

/-- A phrase leaves the end of what there was. -/
lemma Derives.suffix {level : Level} {ts us : List Token} {e : Expr}
    (h : Derives level ts e us) : us <:+ ts := by
  obtain ⟨t, vs, rfl, hvs⟩ := h.exists_cons
  exact hvs.trans (List.suffix_cons t vs)

/-! ## Clauses -/

/-- Items with commas between them, at least one. -/
inductive Separated {α : Type} (item : List Token → α → List Token → Prop) :
    List Token → List α → List Token → Prop
  | one {ts us a} : item ts a us → Separated item ts [a] us
  | more {ts us vs a as} {comma : Token} : item ts a (comma :: us) → comma.kind = .comma →
      Separated item us as vs → Separated item ts (a :: as) vs

/-- A clause that is its keyword followed by its body, or is absent. -/
inductive Clause {α : Type} (keyword : Token.Kind) (absent : α)
    (body : List Token → α → List Token → Prop) : List Token → α → List Token → Prop
  | absent {ts} : Clause keyword absent body ts absent ts
  | present {t : Token} {ts a us} : t.kind = keyword → body ts a us →
      Clause keyword absent body (t :: ts) a us

/-- The word `by` and then a body. -/
inductive AfterBy {α : Type} (body : List Token → α → List Token → Prop) :
    List Token → α → List Token → Prop
  | mk {t : Token} {ts a us} : t.kind = .kwBy → body ts a us → AfterBy body (t :: ts) a us

/-- A star, or expressions. -/
inductive SelectList : List Token → Option (List Expr) → List Token → Prop
  | star {t : Token} {us} : t.kind = .times → SelectList (t :: us) none us
  | list {ts es us} : Separated (Derives .sum) ts es us → SelectList ts (some es) us

/-- An expression to filter by. -/
inductive Condition : List Token → Option Expr → List Token → Prop
  | mk {ts e us} : Derives .sum ts e us → Condition ts (some e) us

/-- The name of a column. -/
inductive ColumnName : List Token → String → List Token → Prop
  | mk {t : Token} {us} : t.kind = .identifier → ColumnName (t :: us) t.text us

/-- An expression to sort by, and the direction. -/
inductive SortKey : List Token → ChartQuery.SortKey → List Token → Prop
  | unmarked {ts e us} : Derives .sum ts e us → SortKey ts ⟨e, false⟩ us
  | ascending {ts e us} {t : Token} : Derives .sum ts e (t :: us) → t.kind = .kwAsc →
      SortKey ts ⟨e, false⟩ us
  | descending {ts e us} {t : Token} : Derives .sum ts e (t :: us) → t.kind = .kwDesc →
      SortKey ts ⟨e, true⟩ us

/-- The value of decimal digits, the most significant first. -/
def decimalValue (digits : List Char) : Nat :=
  Nat.ofDigits 10 (digits.reverse.map fun c => c.toNat - '0'.toNat)

/-- A number of rows: decimal digits only, and less than `2 ^ 64`. -/
inductive Count : List Token → Nat → List Token → Prop
  | mk {t : Token} {us} : t.kind = .number → t.text.toList ≠ [] →
      (∀ c ∈ t.text.toList, c.isDigit = true) → decimalValue t.text.toList < 2 ^ 64 →
      Count (t :: us) (decimalValue t.text.toList) us

/-- An expression and a text for it. -/
inductive Entry : List Token → Expr × String → List Token → Prop
  | mk {ts e us} {t : Token} : Derives .sum ts e (t :: us) → t.kind = .string →
      Entry ts (e, t.text) us

/-- A known option. -/
inductive Flag : List Token → Query.Flag → List Token → Prop
  | noFormat {t : Token} {us} : t.isWord "no_format" = true → Flag (t :: us) .noFormat us
  | noValues {t : Token} {us} : t.isWord "no_values" = true → Flag (t :: us) .noValues us

/-- `Statement ts c`: the tokens `ts` are the ten clauses with the contents `c`, in their order,
and then the end of the text. -/
inductive Statement : List Token → Query.Clauses → Prop
  | mk {t₀ t₁ t₂ t₃ t₄ t₅ t₆ t₇ t₈ t₉ : List Token} {eot : Token} {c : Query.Clauses} :
      Clause .kwSelect none SelectList t₀ c.selected? t₁ →
      Clause .kwWhere none Condition t₁ c.filter? t₂ →
      Clause .kwGroup [] (AfterBy (Separated ColumnName)) t₂ c.groupBy t₃ →
      Clause .kwPivot [] (Separated ColumnName) t₃ c.pivot t₄ →
      Clause .kwOrder [] (AfterBy (Separated SortKey)) t₄ c.orderBy t₅ →
      Clause .kwLimit 0 Count t₅ c.limit t₆ →
      Clause .kwOffset 0 Count t₆ c.offset t₇ →
      Clause .kwLabel [] (Separated Entry) t₇ c.labels t₈ →
      Clause .kwFormat [] (Separated Entry) t₈ c.formats t₉ →
      Clause .kwOptions [] (Separated Flag) t₉ c.flags [eot] →
      eot.kind = .endOfText →
      Statement t₀ c

/-- Labels and formats of an explicit select list are for selected expressions only. -/
def Bound (c : Query.Clauses) : Prop :=
  ∀ es, c.selected? = some es → ∀ x ∈ c.labels ++ c.formats, x.1 ∈ es

end ChartQuery.Grammar
