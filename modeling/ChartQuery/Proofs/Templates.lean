import ChartQuery.Sql.Compile
import Mathlib.Data.List.Forall2
import Mathlib.Tactic.Common

/-!
# What templates respect

A function or an operator becomes a term by a template: its arguments are put between fixed texts.
Many properties of terms, and many relations between two terms, are for this reason a matter of the
ways in which terms are put together and not of the templates one by one.  A `Congruence` is a
relation between terms that is kept by each of these ways; every template respects it.

A congruence comes in two strengths, `R'` for a term that was just put together and `R` for the
terms that it was put together from.  What holds at the outside of a term only is in `R'`.
-/

namespace ChartQuery.Sql

/-! ## Outcomes -/

/-- Two runs end alike: both succeed, with related results, or both fail with the same failure. -/
inductive Outcome {α β : Type} (R : α → β → Prop) : Except Failure α → Except Failure β → Prop
  | ok {a b} : R a b → Outcome R (.ok a) (.ok b)
  | error (f) : Outcome R (.error f) (.error f)

/-- A weaker relation. -/
lemma Outcome.mono {α β : Type} {R S : α → β → Prop} {x : Except Failure α}
    {y : Except Failure β} (h : Outcome R x y) (hRS : ∀ a b, R a b → S a b) : Outcome S x y := by
  cases h with
  | ok h => exact .ok (hRS _ _ h)
  | error f => exact .error f

/-- Runs that end alike are continued by runs that end alike. -/
lemma Outcome.bind {α β γ δ : Type} {R : α → β → Prop} {S : γ → δ → Prop}
    {x : Except Failure α} {y : Except Failure β} {f : α → Except Failure γ}
    {g : β → Except Failure δ} (h : Outcome R x y)
    (hfg : ∀ a b, R a b → Outcome S (f a) (g b)) : Outcome S (x >>= f) (y >>= g) := by
  cases h with
  | ok h => exact hfg _ _ h
  | error f => exact .error f

/-- As many arguments are wrong in the same way. -/
lemma Outcome.argumentCount {α β : Type} {R : α → β → Prop} (name : String) (wanted : Nat)
    {n m : Nat} (h : n = m) :
    Outcome R (.error (.argumentCount name wanted n)) (.error (.argumentCount name wanted m)) :=
  h ▸ .error _

/-- Equal terms with a property. -/
def Same (P : Term → Prop) (t t' : Term) : Prop := t = t' ∧ P t

/-- A list of terms is related to itself if its terms have the property. -/
lemma forall₂_same_iff {P : Term → Prop} {ts : List Term} :
    List.Forall₂ (Same P) ts ts ↔ ∀ t ∈ ts, P t := by
  rw [List.forall₂_same]
  simp [Same]

/-- What a run ends with has the property if the run ends like itself. -/
lemma Outcome.of_ok {P : Term → Prop} {x : Except Failure Term} {t : Term}
    (h : Outcome (Same P) x x) (ht : x = .ok t) : P t := by
  subst ht
  cases h with
  | ok h => exact h.2

/-! ## Congruences -/

/-- The fixed texts of the templates and of the operators with one operand. -/
def templateTexts : List String :=
  ["-", "NOT ", " IS NULL", " IS NOT NULL", " LIKE ", " REGEXP ", " ~ ", " % ", " - ", "=", ">",
    "/", "+", "0", "1", "1000", ", ", ",",
    "CONCAT", "RIGHT", "LEFT", "LENGTH", "INSTR", "MICROSECOND", "DATEDIFF", "FLOOR", "DATE",
    "UPPER", "LOWER", "NOW", "YEAR", "MONTH", "DAY", "HOUR", "MINUTE", "SECOND", "QUARTER",
    "DAYOFWEEK", "MILLISECONDS", "DOW"]

/-- A relation between terms that is kept when terms are put together with texts that `F` allows;
among them are those of the templates. -/
structure Congruence (F : String → Prop) (R R' : Term → Term → Prop) : Prop where
  weaken : ∀ {t t'}, R' t t' → R t t'
  texts : ∀ s ∈ templateTexts, F s
  verbatim : ∀ {s}, F s → R' (.verbatim s) (.verbatim s)
  string : ∀ s, R' (.string s) (.string s)
  before : ∀ {s a a'}, F s → R a a' → R' (.before s a) (.before s a')
  after : ∀ {s a a'}, F s → R a a' → R' (.after a s) (.after a' s)
  between : ∀ {s a a' b b'}, F s → R a a' → R b b' → R' (.between a s b) (.between a' s b')
  apply : ∀ {f s as as'}, F f → F s → List.Forall₂ R as as' → R' (.apply f s as) (.apply f s as')
  position : ∀ {a a' b b'}, R a a' → R b b' → R' (.position a b) (.position a' b')
  extract : ∀ {s a a'}, F s → R a a' → R' (.extract s a) (.extract s a')
  integral : ∀ {a a'}, R' a a' → R' (.integral a) (.integral a')
  group : ∀ {a a'}, R a a' → R' (.group a) (.group a')

/-- The texts that the symbol of an operator contributes are allowed by `F`. -/
def FitsOperator (F : String → Prop) (op : Operator) (symbol : String) : Prop :=
  match op with
  | .and | .or => F (" " ++ symbol.toUpper ++ " ")
  | .plus | .minus | .times | .div | .eq | .ne | .lt | .le | .gt | .ge => F symbol
  | _ => True

/-- A template respects a congruence: related arguments give related terms. -/
def Mapping.Respects (R R' : Term → Term → Prop) : Mapping → Prop
  | .constant t => R' t t
  | .unary f => ∀ a a', R a a' → R' (f a) (f a')
  | .binary f => ∀ a a' b b', R a a' → R b b' → R' (f a b) (f a' b')

namespace Congruence

variable {F : String → Prop} {R R' : Term → Term → Prop} (h : Congruence F R R')
include h

section Forms

variable {f : String} {a a' b b' : Term} (ha : R a a') (hb : R b b')
include ha

/-- A function of one argument. -/
lemma call_one (hf : f ∈ templateTexts) : R' (.call f [a]) (.call f [a']) :=
  h.apply (h.texts f hf) (h.texts ", " (by decide)) (.cons ha .nil)

/-- A field of an instant. -/
lemma extract_field (hf : f ∈ templateTexts) : R' (.extract f a) (.extract f a') :=
  h.extract (h.texts f hf) ha

/-- A field of an instant in parentheses. -/
lemma group_extract (hf : f ∈ templateTexts) :
    R' (.group (.extract f a)) (.group (.extract f a')) :=
  h.group (h.weaken (h.extract_field ha hf))

/-- A term with a numeral to its right. -/
lemma between_numeral {s numeral : String} (hs : s ∈ templateTexts)
    (hn : numeral ∈ templateTexts) :
    R' (.between a s (.verbatim numeral)) (.between a' s (.verbatim numeral)) :=
  h.between (h.texts s hs) ha (h.weaken (h.verbatim (h.texts numeral hn)))

/-- A pattern for a whole text. -/
lemma anchored : R' (Sql.anchored a) (Sql.anchored a') :=
  h.apply (h.texts "CONCAT" (by decide)) (h.texts "," (by decide))
    (.cons (h.weaken (h.string _)) (.cons ha (.cons (h.weaken (h.string _)) .nil)))

include hb

/-- A function of two arguments. -/
lemma call_two (hf : f ∈ templateTexts) : R' (.call f [a, b]) (.call f [a', b']) :=
  h.apply (h.texts f hf) (h.texts ", " (by decide)) (.cons ha (.cons hb .nil))

/-- A comparison of the end of a text with another text, which occurs twice. -/
lemma sameEnd (hf : f ∈ templateTexts) : R' (Sql.sameEnd f a b) (Sql.sameEnd f a' b') := by
  have hlength : R' (.tightCall "LENGTH" [b]) (.tightCall "LENGTH" [b']) :=
    h.apply (h.texts "LENGTH" (by decide)) (h.texts "," (by decide)) (.cons hb .nil)
  have hend : R' (.tightCall f [a, .tightCall "LENGTH" [b]])
      (.tightCall f [a', .tightCall "LENGTH" [b']]) :=
    h.apply (h.texts f hf) (h.texts "," (by decide)) (.cons ha (.cons (h.weaken hlength) .nil))
  exact h.between (h.texts "=" (by decide)) (h.weaken hend) hb

end Forms

/-- The templates of all dialects. -/
lemma respects_shared {name : String} {m : Mapping} (hm : sharedMapping? name = some m) :
    m.Respects R R' := by
  unfold sharedMapping? at hm
  split at hm <;> cases hm
  · exact fun _ _ _ _ ha hb => h.between (h.texts _ (by decide)) ha hb
  · exact fun _ _ _ _ ha hb => h.sameEnd ha hb (by decide)
  · exact fun _ _ ha => h.call_one ha (by decide)
  · exact fun _ _ ha => h.call_one ha (by decide)
  · exact fun _ _ ha => h.call_one ha (by decide)
  · exact h.apply (h.texts "NOW" (by decide)) (h.texts ", " (by decide)) .nil

/-- The templates of MySQL. -/
lemma respects_mySql {name : String} {m : Mapping} (hm : mySqlMapping? name = some m) :
    m.Respects R R' := by
  unfold mySqlMapping? at hm
  split at hm <;> cases hm
  · exact fun _ _ _ _ ha hb =>
      h.between_numeral (h.weaken (h.call_two ha hb (by decide))) (by decide) (by decide)
  · exact fun _ _ _ _ ha hb =>
      h.between_numeral (h.weaken (h.call_two ha hb (by decide))) (by decide) (by decide)
  · exact fun _ _ _ _ ha hb => h.between (h.texts _ (by decide)) ha (h.weaken (h.anchored hb))
  · exact fun _ _ ha => h.call_one ha (by decide)
  · exact fun _ _ ha => h.call_one ha (by decide)
  · exact fun _ _ ha => h.call_one ha (by decide)
  · exact fun _ _ ha => h.call_one ha (by decide)
  · exact fun _ _ ha => h.call_one ha (by decide)
  · exact fun _ _ ha => h.call_one ha (by decide)
  · exact fun _ _ ha =>
      h.between_numeral (h.weaken (h.call_one ha (by decide))) (by decide) (by decide)
  · exact fun _ _ ha => h.call_one ha (by decide)
  · exact fun _ _ ha => h.call_one ha (by decide)
  · exact fun _ _ _ _ ha hb => h.call_two ha hb (by decide)

/-- The templates of standard SQL. -/
lemma respects_standard {name : String} {m : Mapping} (hm : standardMapping? name = some m) :
    m.Respects R R' := by
  unfold standardMapping? at hm
  split at hm <;> cases hm
  · exact fun _ _ _ _ ha hb => h.sameEnd ha hb (by decide)
  · exact fun _ _ _ _ ha hb =>
      h.between_numeral (h.weaken (h.position hb ha)) (by decide) (by decide)
  · exact fun _ _ _ _ ha hb => h.between (h.texts _ (by decide)) ha (h.weaken (h.anchored hb))
  · exact fun _ _ ha => h.group_extract ha (by decide)
  · exact fun _ _ ha => h.group_extract ha (by decide)
  · exact fun _ _ ha => h.group_extract ha (by decide)
  · exact fun _ _ ha => h.group_extract ha (by decide)
  · exact fun _ _ ha => h.group_extract ha (by decide)
  · exact fun _ _ ha => h.call_one (h.weaken (h.extract_field ha (by decide))) (by decide)
  · exact fun _ _ ha =>
      h.between_numeral (h.weaken (h.integral (h.extract_field ha (by decide)))) (by decide)
        (by decide)
  · exact fun _ _ ha => h.group_extract ha (by decide)
  · exact fun _ _ ha =>
      h.between_numeral (h.weaken (h.extract_field ha (by decide))) (by decide) (by decide)
  · exact fun _ _ _ _ ha hb => h.between (h.texts _ (by decide))
      (h.weaken (h.call_one ha (by decide))) (h.weaken (h.call_one hb (by decide)))

/-- **Templates respect congruences.** -/
lemma respects {d : Dialect} {name : String} {m : Mapping} (hm : mapping? d name = some m) :
    m.Respects R R' := by
  unfold mapping? at hm
  rcases Option.or_eq_some_iff.1 hm with hm | ⟨-, hm⟩
  · exact h.respects_shared hm
  · split at hm
    · exact h.respects_mySql hm
    · exact h.respects_standard hm

/-! ## Functions and operators -/

/-- A function of related arguments gives related terms, or fails alike.  A function without a
template is a call of the function as it is. -/
lemma applyFunction {d : Dialect} {name : String} {as as' : List Term}
    (has : List.Forall₂ R as as')
    (hcall : mapping? d name.toLower = none → R' (.call name as) (.call name as')) :
    Outcome R' (applyFunction d name as) (applyFunction d name as') := by
  unfold Sql.applyFunction
  cases hm : mapping? d name.toLower with
  | none => exact .ok (hcall hm)
  | some m =>
    have hrespects := h.respects hm
    have hlength := has.length_eq
    cases m with
    | constant t =>
      rcases has with _ | ⟨ha, has⟩
      · exact .ok hrespects
      · exact .argumentCount _ _ hlength
    | unary f =>
      rcases has with _ | ⟨ha, _ | ⟨hb, has⟩⟩
      · exact .error _
      · exact .ok (hrespects _ _ ha)
      · exact .argumentCount _ _ hlength
    | binary f =>
      rcases has with _ | ⟨ha, _ | ⟨hb, _ | ⟨hc, has⟩⟩⟩
      · exact .error _
      · exact .error _
      · exact .ok (hrespects _ _ _ _ ha hb)
      · exact .argumentCount _ _ hlength

/-- An operator other than the unary plus, of related operands, gives related terms or fails
alike. -/
lemma applyOperator_outer {d : Dialect} {op : Operator} {symbol : String} {as as' : List Term}
    (has : List.Forall₂ R as as') (hop : op ≠ .pos) (hsymbol : FitsOperator F op symbol)
    (hcall : mapping? d symbol.toLower = none → R' (.call symbol as) (.call symbol as')) :
    Outcome R' (applyOperator d op symbol as) (applyOperator d op symbol as') := by
  have hword := h.applyFunction has hcall
  have hlength := has.length_eq
  rcases has with _ | ⟨ha, _ | ⟨hb, _ | ⟨hc, has⟩⟩⟩
  · cases op with
    | pos => exact absurd rfl hop
    | contains | «matches» | like | startsWith | endsWith => exact hword
    | _ => exact .error _
  · cases op with
    | pos => exact absurd rfl hop
    | contains | «matches» | like | startsWith | endsWith => exact hword
    | neg => exact .ok (h.before (h.texts _ (by decide)) ha)
    | not => exact .ok (h.before (h.texts _ (by decide)) ha)
    | isNull => exact .ok (h.after (h.texts _ (by decide)) ha)
    | isNotNull => exact .ok (h.after (h.texts _ (by decide)) ha)
    | _ => exact .error _
  · cases op with
    | pos => exact absurd rfl hop
    | contains | «matches» | like | startsWith | endsWith => exact hword
    | neg | not | isNull | isNotNull => exact .error _
    | _ => exact .ok (h.between hsymbol ha hb)
  · cases op with
    | pos => exact absurd rfl hop
    | contains | «matches» | like | startsWith | endsWith => exact hword
    | _ => exact .argumentCount _ _ hlength

/-- An operator of related operands gives related terms or fails alike; a unary plus gives its
operand. -/
lemma applyOperator {d : Dialect} {op : Operator} {symbol : String} {as as' : List Term}
    (has : List.Forall₂ R as as') (hsymbol : FitsOperator F op symbol)
    (hcall : mapping? d symbol.toLower = none → R' (.call symbol as) (.call symbol as')) :
    Outcome R (applyOperator d op symbol as) (applyOperator d op symbol as') := by
  by_cases hop : op = .pos
  · subst hop
    have hlength := has.length_eq
    rcases has with _ | ⟨ha, _ | ⟨hb, has⟩⟩
    · exact .error _
    · exact .ok ha
    · exact .argumentCount _ _ hlength
  · exact (h.applyOperator_outer has hop hsymbol hcall).mono fun _ _ => h.weaken

end Congruence

/-! ## Lists of expressions -/

/-- Expressions whose terms are made alike one by one are made alike as a list. -/
lemma outcome_terms {d : Dialect} {R : Term → Term → Prop} {es es' : List Expr}
    (h : List.Forall₂ (fun e e' => Outcome R (term d e) (term d e')) es es') :
    Outcome (List.Forall₂ R) (terms d es) (terms d es') := by
  induction h with
  | nil => exact .ok .nil
  | cons he _ ih =>
    rw [terms, terms]
    exact he.bind fun t t' ht => ih.bind fun ts ts' hts => .ok (.cons ht hts)

end ChartQuery.Sql
