import ChartQuery.Proofs.Grammar
import ChartQuery.Proofs.Reading
import Mathlib.Data.List.TakeWhile

/-!
# The reader of expressions accepts exactly its grammar

Soundness is an induction on the number of steps: what a reader returns is what some derivation
stands for, and the tokens that it leaves are those after the phrase.

Completeness needs two things that the rules do not mention.  A derivation is found only if the
token after the phrase is none that the reader would go on with (`stopsAt`), which at every choice
is decided by that one token; and the number of steps has to be enough, for which sixteen for each
token are, with some more for the level at which reading begins (`Level.steps`).
-/

namespace ChartQuery.Grammar

open ChartQuery.Expr
open Token (first expect expectWord expect_eq_ok expectWord_eq_ok expect_cons expectWord_cons
  isWord_iff isWord_eq_false eq_cons_of_first_kind)

/-! ## Operators -/

/-- The reader's table of operators is that of the grammar. -/
lemma joins_iff {level operand : Level} {kind : Token.Kind} {op : Operator} :
    Joins level kind op operand ↔ level.operator? kind = some op ∧ level.operands = operand := by
  constructor
  · intro h
    cases h <;> exact ⟨rfl, rfl⟩
  · rintro ⟨h, rfl⟩
    unfold Level.operator? at h
    split at h <;> cases h <;> constructor

/-- The reader's table of signs is that of the grammar. -/
lemma sign_iff {kind : Token.Kind} {op : Operator} : Sign kind op ↔ sign? kind = some op := by
  constructor
  · intro h
    cases h <;> rfl
  · intro h
    unfold sign? at h
    split at h <;> cases h <;> constructor

/-- The reader's table of temporal keywords is that of the grammar. -/
lemma temporal_iff {kind : Token.Kind} {k : TemporalKind} :
    Temporal kind k ↔ temporalKind? kind = some k := by
  constructor
  · intro h
    cases h <;> rfl
  · intro h
    unfold temporalKind? at h
    split at h <;> cases h <;> constructor

/-- A word operator is a word from the reader's table, together with its second word. -/
lemma wordOperator_iff {t : Token} {ts us : List Token} {op : Operator} :
    WordOperator t ts op us ↔
      wordOperator? t = some op ∧ expectSecondWord op ts = .ok ((), us) := by
  constructor
  · intro h
    cases h with
    | contains ht | regularExpression ht | like ht =>
      rw [isWord_iff] at ht
      simp [wordOperator?, ht.1, ht.2, expectSecondWord]
    | startsWith ht hu | endsWith ht hu =>
      rw [isWord_iff] at ht
      simp [wordOperator?, ht.1, ht.2, expectSecondWord, expectWord_cons _ _ hu, ok_bind]
  · rintro ⟨ht, hs⟩
    unfold wordOperator? at ht
    split at ht
    case isFalse => cases ht
    case isTrue hkind =>
      split at ht <;> cases ht
      all_goals
        rename_i htext
        have hword := isWord_iff.2 ⟨hkind, htext⟩
      · cases hs
        exact .contains hword
      · cases hs
        exact .regularExpression hword
      · cases hs
        exact .like hword
      · obtain ⟨⟨u, vs⟩, hread, hrest⟩ := bind_eq_ok.1 hs
        obtain ⟨rfl, hu⟩ := expectWord_eq_ok.1 hread
        cases hrest
        exact .startsWith hword hu
      · obtain ⟨⟨u, vs⟩, hread, hrest⟩ := bind_eq_ok.1 hs
        obtain ⟨rfl, hu⟩ := expectWord_eq_ok.1 hread
        cases hrest
        exact .endsWith hword hu

/-! ## Soundness -/

/-- What the readers return in at most `n` steps is derived by the grammar. -/
structure Sound (n : Nat) : Prop where
  read : ∀ {level ts e us}, Expr.read n level ts = .ok (e, us) → Derives level ts e us
  readChain : ∀ {level l ts e us}, Expr.readChain n level l ts = .ok (e, us) →
    Continues level l ts e us
  readComparison : ∀ {ts l us e vs}, Derives .value ts l us →
    Expr.readComparison n l us = .ok (e, vs) → Derives .comparison ts e vs
  readValue : ∀ {ts e us}, Expr.readValue n ts = .ok (e, us) → Derives .value ts e us
  readCall : ∀ {name opening : Token} {ts e us}, name.kind = .identifier →
    opening.kind = .lparen → Expr.readCall n name.text ts = .ok (e, us) →
    Derives .value (name :: opening :: ts) e us
  readArguments : ∀ {ts es us}, Expr.readArguments n ts = .ok (es, us) → Arguments ts es us

/-- Without steps nothing is returned. -/
lemma sound_zero : Sound 0 where
  read h := by cases h
  readChain h := by cases h
  readComparison _ h := by cases h
  readValue h := by cases h
  readCall _ _ h := by cases h
  readArguments h := by cases h

section Step

variable {n : Nat} (ih : Sound n)

include ih

/-- A step of reading a level. -/
lemma Sound.read_succ {level : Level} {ts us : List Token} {e : Expr}
    (h : Expr.read (n + 1) level ts = .ok (e, us)) : Derives level ts e us := by
  cases level with
  | value => exact ih.readValue h
  | sum =>
    obtain ⟨⟨l, vs⟩, hl, hchain⟩ := bind_eq_ok.1 h
    exact .sum (ih.read hl) (ih.readChain hchain)
  | product =>
    obtain ⟨⟨l, vs⟩, hl, hchain⟩ := bind_eq_ok.1 h
    exact .product (ih.read hl) (ih.readChain hchain)
  | logic =>
    obtain ⟨⟨l, vs⟩, hl, hchain⟩ := bind_eq_ok.1 h
    exact .logic (ih.read hl) (ih.readChain hchain)
  | comparison =>
    obtain ⟨⟨l, vs⟩, hl, hrest⟩ := bind_eq_ok.1 h
    exact ih.readComparison (ih.read hl) hrest
  | negation =>
    obtain ⟨⟨e', vs⟩, he, hneg⟩ := bind_eq_ok.1 h
    cases hneg
    have hnots : ∀ t ∈ ts.takeWhile (·.kind == .kwNot), t.kind = .kwNot := by
      intro t ht
      simpa using List.mem_takeWhile_imp ht
    have hder := Derives.negation hnots (ih.read he)
    rwa [List.takeWhile_append_dropWhile] at hder

/-- A step of reading a chain. -/
lemma Sound.readChain_succ {level : Level} {l e : Expr} {ts us : List Token}
    (h : Expr.readChain (n + 1) level l ts = .ok (e, us)) : Continues level l ts e us := by
  cases ts with
  | nil =>
    cases h
    exact .stop
  | cons t ts =>
    rw [Expr.readChain] at h
    split at h
    · cases h
      exact .stop
    · next op hop =>
      obtain ⟨⟨r, vs⟩, hr, hrest⟩ := bind_eq_ok.1 h
      exact .step (joins_iff.2 ⟨hop, rfl⟩) (ih.read hr) (ih.readChain hrest)

omit ih in
/-- What follows the word `is` is a test for null. -/
lemma nullTest_sound {t : Token} {ts us vs : List Token} {l e : Expr}
    (hl : Derives .value ts l (t :: us)) (hword : t.isWord "is" = true)
    (h : nullTest l us = .ok (e, vs)) : Derives .comparison ts e vs := by
  cases us with
  | nil => cases h
  | cons u us =>
    rw [nullTest] at h
    split at h
    · next hnull =>
      cases h
      exact .isNull hl hword hnull
    · split at h
      · next hnot =>
        obtain ⟨⟨w, ws⟩, hread, hrest⟩ := bind_eq_ok.1 h
        obtain ⟨rfl, hnull⟩ := expectWord_eq_ok.1 hread
        cases hrest
        exact .isNotNull hl hword hnot hnull
      · cases h

/-- A step of reading what follows the first value of a comparison. -/
lemma Sound.readComparison_succ {l e : Expr} {ts us vs : List Token}
    (hl : Derives .value ts l us) (h : Expr.readComparison (n + 1) l us = .ok (e, vs)) :
    Derives .comparison ts e vs := by
  cases us with
  | nil =>
    cases h
    exact .comparison hl .stop
  | cons t us =>
    rw [Expr.readComparison] at h
    split at h
    · exact .comparison hl (ih.readChain h)
    · split at h
      · next hword => exact nullTest_sound hl hword h
      · split at h
        · cases h
          exact .comparison hl .stop
        · next op hop =>
          obtain ⟨⟨u, ws⟩, hsecond, h⟩ := bind_eq_ok.1 h
          obtain ⟨⟨r, ws'⟩, hr, hrest⟩ := bind_eq_ok.1 h
          cases hrest
          exact .word hl (wordOperator_iff.2 ⟨hop, hsecond⟩) (ih.read hr)

omit ih in
/-- A token that is a value on its own is derived as that value. -/
lemma constant_sound {t : Token} {e : Expr} (h : constant? t = some e) (us : List Token) :
    Derives .value (t :: us) e us := by
  unfold constant? at h
  split at h
  · next hkind => cases h; exact .truth hkind
  · next hkind => cases h; exact .falsity hkind
  · next hkind => cases h; exact .string hkind
  · next hkind => cases h; exact .number hkind
  · cases h

/-- A step of reading a value. -/
lemma Sound.readValue_succ {ts us : List Token} {e : Expr}
    (h : Expr.readValue (n + 1) ts = .ok (e, us)) : Derives .value ts e us := by
  cases ts with
  | nil => cases h
  | cons t ts =>
    simp only [Expr.readValue] at h
    split at h
    · next op hop =>
      obtain ⟨⟨a, vs⟩, ha, hrest⟩ := bind_eq_ok.1 h
      cases hrest
      exact .signed (sign_iff.2 hop) (ih.read ha)
    split at h
    · next e' he =>
      cases h
      exact constant_sound he us
    split at h
    · next kind hkind =>
      obtain ⟨⟨s, vs⟩, hread, hrest⟩ := bind_eq_ok.1 h
      obtain ⟨rfl, hs⟩ := expect_eq_ok.1 hread
      cases hrest
      exact .literal (temporal_iff.2 hkind) hs
    split at h
    · next hopen =>
      obtain ⟨⟨a, vs⟩, ha, h⟩ := bind_eq_ok.1 h
      obtain ⟨⟨c, ws⟩, hread, hrest⟩ := bind_eq_ok.1 h
      obtain ⟨rfl, hclose⟩ := expect_eq_ok.1 hread
      cases hrest
      exact .parens hopen (ih.read ha) hclose
    split at h
    · next hname =>
      cases ts with
      | nil =>
        cases h
        exact .column hname
      | cons u ts =>
        dsimp only at h
        split at h
        · next hopen => exact ih.readCall hname hopen h
        · cases h
          exact .column hname
    · cases h

/-- A step of reading the arguments of a call. -/
lemma Sound.readCall_succ {name opening : Token} {ts us : List Token} {e : Expr}
    (hname : name.kind = .identifier) (hopen : opening.kind = .lparen)
    (h : Expr.readCall (n + 1) name.text ts = .ok (e, us)) :
    Derives .value (name :: opening :: ts) e us := by
  rw [Expr.readCall] at h
  split at h
  · next hagg =>
    obtain ⟨⟨column, vs⟩, hname', hthen⟩ := bind_eq_ok.1 h
    obtain ⟨rfl, hcolumn⟩ := expect_eq_ok.1 hname'
    obtain ⟨⟨c, ws⟩, hread, hrest⟩ := bind_eq_ok.1 hthen
    obtain ⟨rfl, hclose⟩ := expect_eq_ok.1 hread
    cases hrest
    exact .aggregate hname hagg hopen hcolumn hclose
  · next hagg =>
    rw [Bool.not_eq_true] at hagg
    split at h
    · obtain ⟨⟨c, ws⟩, hread, hrest⟩ := bind_eq_ok.1 h
      obtain ⟨rfl, hclose⟩ := expect_eq_ok.1 hread
      cases hrest
      exact .emptyCall hname hagg hopen hclose
    · obtain ⟨⟨es, vs⟩, hes, h⟩ := bind_eq_ok.1 h
      obtain ⟨⟨c, ws⟩, hread, hrest⟩ := bind_eq_ok.1 h
      obtain ⟨rfl, hclose⟩ := expect_eq_ok.1 hread
      cases hrest
      exact .call hname hagg hopen (ih.readArguments hes) hclose

/-- A step of reading expressions with commas between them. -/
lemma Sound.readArguments_succ {ts us : List Token} {es : List Expr}
    (h : Expr.readArguments (n + 1) ts = .ok (es, us)) : Arguments ts es us := by
  obtain ⟨⟨e, vs⟩, he, h⟩ := bind_eq_ok.1 h
  dsimp only at h
  split at h
  · next hcomma =>
    obtain ⟨⟨es', ws⟩, hes, hrest⟩ := bind_eq_ok.1 h
    cases hrest
    obtain ⟨comma, vs, rfl, hkind⟩ := eq_cons_of_first_kind hcomma (by decide)
    exact .more (ih.read he) hkind (ih.readArguments hes)
  · cases h
    exact .one (ih.read he)

end Step

/-- However many steps are allowed, only what the grammar derives is returned. -/
lemma sound : ∀ n, Sound n
  | 0 => sound_zero
  | n + 1 => by
    have ih := sound n
    exact ⟨ih.read_succ, ih.readChain_succ, ih.readComparison_succ, ih.readValue_succ,
      ih.readCall_succ, ih.readArguments_succ⟩

/-! ## One token decides -/

/-- The kinds of token with which a phrase of a level could go on after it might have ended. -/
def continuations : Level → List Token.Kind
  | .value => [.lparen]
  | .comparison | .negation => [.eq, .ne, .lt, .le, .gt, .ge, .identifier, .lparen]
  | .logic => [.kwAnd, .kwOr, .eq, .ne, .lt, .le, .gt, .ge, .identifier, .lparen]
  | .product =>
    [.times, .div, .kwAnd, .kwOr, .eq, .ne, .lt, .le, .gt, .ge, .identifier, .lparen]
  | .sum =>
    [.plus, .minus, .times, .div, .kwAnd, .kwOr, .eq, .ne, .lt, .le, .gt, .ge, .identifier,
      .lparen]

/-- Whether the tokens after a phrase of a level begin with one that cannot be part of it. -/
def StopsAt (level : Level) (ts : List Token) : Prop :=
  (first ts).kind ∉ continuations level

/-- A token of a kind with which a phrase cannot go on ends it. -/
lemma stopsAt_of_kind {level : Level} {t : Token} {ts : List Token} {kind : Token.Kind}
    (ht : t.kind = kind) (hkind : kind ∉ continuations level) : StopsAt level (t :: ts) :=
  fun h => hkind (ht ▸ h)

/-- Where a chain ends, its last operand ends too. -/
lemma StopsAt.operands {level : Level} {ts : List Token} (h : StopsAt level ts) :
    StopsAt level.operands ts := by
  cases level <;> simp_all [StopsAt, continuations, Level.operands]

/-- An operator of a chain ends the operand before it. -/
lemma Joins.stopsAt {level operand : Level} {t : Token} {ts : List Token} {op : Operator}
    (h : Joins level t.kind op operand) : StopsAt operand (t :: ts) := by
  unfold StopsAt first
  generalize t.kind = kind at h
  cases h <;> decide

/-- An operator of a chain is among the kinds that the chain could go on with. -/
lemma Joins.mem_continuations {level operand : Level} {kind : Token.Kind} {op : Operator}
    (h : Joins level kind op operand) : kind ∈ continuations level := by
  cases h <;> decide

/-- A token that ends a phrase of a level is not an operator of that level. -/
lemma StopsAt.operator? {level : Level} {t : Token} {ts : List Token}
    (h : StopsAt level (t :: ts)) : level.operator? t.kind = none := by
  cases hop : level.operator? t.kind with
  | none => rfl
  | some op => exact absurd (joins_iff.2 ⟨hop, rfl⟩).mem_continuations h

/-- A word ends the value before it. -/
lemma stopsAt_value_of_isWord {t : Token} {ts : List Token} {word : String}
    (h : t.isWord word = true) : StopsAt .value (t :: ts) :=
  stopsAt_of_kind (isWord_iff.1 h).1 (by decide)

/-- What continues a chain, up to a place where the chain ends, begins where the first operand
ends. -/
lemma Continues.stopsAt {level : Level} {l e : Expr} {ts us : List Token}
    (h : Continues level l ts e us) (hstop : StopsAt level us) : StopsAt level.operands ts := by
  cases h with
  | stop => exact hstop.operands
  | step hjoin _ _ =>
    rw [(joins_iff.1 hjoin).2]
    exact hjoin.stopsAt

/-- The kinds of token that a value can begin with. -/
def valueOpenings : List Token.Kind :=
  [.plus, .minus, .lparen, .kwTrue, .kwFalse, .string, .number, .kwDate, .kwTimeOfDay,
    .kwDateTime, .identifier]

/-- The kinds of token that a phrase of a level can begin with: only a negation or something looser
can begin with `not`. -/
def openings : Level → List Token.Kind
  | .value | .comparison => valueOpenings
  | _ => .kwNot :: valueOpenings

/-- A phrase begins with one of the kinds of token that it can begin with. -/
theorem Derives.first_mem_openings : ∀ {level ts e us}, Derives level ts e us →
    (first ts).kind ∈ openings level
  | _, _, _, _, .sum h _ | _, _, _, _, .product h _ | _, _, _, _, .logic h _
  | _, _, _, _, .comparison h _ | _, _, _, _, .isNull h _ _ | _, _, _, _, .isNotNull h _ _ _
  | _, _, _, _, .word h _ _ => h.first_mem_openings
  | _, _, _, _, @Derives.negation nots ts _ _ hnots h => by
    cases nots with
    | nil => exact List.mem_cons_of_mem _ h.first_mem_openings
    | cons t nots =>
      have ht : (first (t :: (nots ++ ts))).kind = .kwNot := hnots t List.mem_cons_self
      exact ht ▸ List.mem_cons_self
  | _, _, _, _, .signed hsign _ => by
    simp only [first]
    generalize Token.kind _ = kind at hsign
    cases hsign <;> decide
  | _, _, _, _, .literal hkind _ => by
    simp only [first]
    generalize Token.kind _ = kind at hkind
    cases hkind <;> decide
  | _, _, _, _, .parens h _ _ | _, _, _, _, .truth h | _, _, _, _, .falsity h
  | _, _, _, _, .string h | _, _, _, _, .number h | _, _, _, _, .column h
  | _, _, _, _, .aggregate h _ _ _ _ | _, _, _, _, .emptyCall h _ _ _
  | _, _, _, _, .call h _ _ _ _ => by simp [first, h, openings, valueOpenings]

/-- A phrase with an opening in front of it does not begin with a kind that is no opening. -/
lemma Derives.first_kind_ne {level : Level} {ts us : List Token} {e : Expr} {kind : Token.Kind}
    (h : Derives level ts e us) (hkind : kind ∉ openings level) : (first ts).kind ≠ kind :=
  fun heq => hkind (heq ▸ h.first_mem_openings)

/-- Arguments begin like a sum. -/
lemma Arguments.first_kind_ne {ts us : List Token} {es : List Expr} {kind : Token.Kind}
    (h : Arguments ts es us) (hkind : kind ∉ openings .sum) : (first ts).kind ≠ kind := by
  cases h with
  | one h | more h _ _ => exact h.first_kind_ne hkind

/-! ## Completeness -/

/-- The steps from a level down to the reader of values. -/
def steps : Level → Nat
  | .value => 2
  | .comparison => 3
  | .negation => 4
  | .logic => 5
  | .product => 6
  | .sum => 7

/-- What the grammar derives, and what ends there, is returned in `n` steps if these are enough for
the number of tokens. -/
structure Complete (n : Nat) : Prop where
  read : ∀ {level ts e us}, Derives level ts e us → StopsAt level us →
    16 * ts.length + steps level ≤ n → Expr.read n level ts = .ok (e, us)
  readChain : ∀ {level l ts e us}, Continues level l ts e us → StopsAt level us →
    16 * ts.length + 1 ≤ n → Expr.readChain n level l ts = .ok (e, us)
  readComparison : ∀ {ts e vs}, Derives .comparison ts e vs → StopsAt .comparison vs →
    16 * ts.length ≤ n → ∃ l us, Derives .value ts l us ∧ StopsAt .value us ∧
      Expr.readComparison n l us = .ok (e, vs)
  readValue : ∀ {ts e us}, Derives .value ts e us → StopsAt .value us →
    16 * ts.length + 1 ≤ n → Expr.readValue n ts = .ok (e, us)
  readCall : ∀ {name : String} {closing : Token} {ts es us}, isAggregateName name = false →
    Arguments ts es (closing :: us) → closing.kind = .rparen →
    16 * ts.length + 9 ≤ n → Expr.readCall n name ts = .ok (.call name es, us)
  readArguments : ∀ {ts es us}, Arguments ts es us → (first us).kind = .rparen →
    16 * ts.length + 8 ≤ n → Expr.readArguments n ts = .ok (es, us)

/-- A phrase has tokens, so that no steps are never enough. -/
lemma complete_zero : Complete 0 where
  read h _ hn := by
    have := h.length_lt
    omega
  readChain _ _ hn := by omega
  readComparison h _ hn := by
    have := h.length_lt
    omega
  readValue _ _ hn := by omega
  readCall _ _ _ hn := by omega
  readArguments _ _ hn := by omega

/-! ### Steps that read no phrase -/

section Leaf

variable {n : Nat}

/-- A name that is no word operator and no comparison sign ends a comparison. -/
lemma readComparison_stop {l : Expr} {us : List Token} (hstop : StopsAt .comparison us) :
    Expr.readComparison (n + 1) l us = .ok (l, us) := by
  cases us with
  | nil => rfl
  | cons t us =>
    simp only [StopsAt, first, continuations, List.mem_cons, List.not_mem_nil, or_false,
      not_or] at hstop
    have hcmp : t.kind.isComparison = false := by
      generalize t.kind = kind at hstop
      cases kind <;> simp_all [Token.Kind.isComparison]
    have hword : t.isWord "is" = false := by simp [Token.isWord, hstop]
    have hop : wordOperator? t = none := by simp [wordOperator?, hstop]
    simp [Expr.readComparison, hcmp, hword, hop]

/-- The first word of an operator goes on with a comparison. -/
lemma isWord_not_isComparison {t : Token} {word : String} (h : t.isWord word = true) :
    t.kind.isComparison = false := by
  rw [(isWord_iff.1 h).1]
  rfl

/-- The words of an operator leave the end of what there was. -/
lemma WordOperator.length_le {t : Token} {ts us : List Token} {op : Operator}
    (h : WordOperator t ts op us) : us.length ≤ ts.length := by
  cases h with
  | contains | regularExpression | like => exact le_rfl
  | startsWith | endsWith => exact Nat.le_succ _

/-- The first word of an operator. -/
lemma WordOperator.exists_isWord {t : Token} {ts us : List Token} {op : Operator}
    (h : WordOperator t ts op us) : ∃ word, t.isWord word = true ∧ word ≠ "is" := by
  cases h with
  | contains h | regularExpression h | like h | startsWith h _ | endsWith h _ =>
    exact ⟨_, h, by decide⟩

/-- A token that is a value on its own is read as that value. -/
lemma readValue_constant {t : Token} {e : Expr} {us : List Token} (hsign : sign? t.kind = none)
    (h : constant? t = some e) : Expr.readValue (n + 1) (t :: us) = .ok (e, us) := by
  simp only [Expr.readValue, hsign, h]

/-- A name with an opening parenthesis after it is read as a call. -/
lemma readValue_call {name opening : Token} {ts us : List Token} {e : Expr}
    (hname : name.kind = .identifier) (hopen : opening.kind = .lparen)
    (hcall : Expr.readCall n name.text ts = .ok (e, us)) :
    Expr.readValue (n + 1) (name :: opening :: ts) = .ok (e, us) := by
  simp [Expr.readValue, hname, hopen, sign?, constant?, temporalKind?, hcall]

/-- A keyword of a temporal literal and a string are read as the literal. -/
lemma readValue_literal {t s : Token} {kind : TemporalKind} {us : List Token}
    (hkind : Temporal t.kind kind) (hs : s.kind = .string) :
    Expr.readValue (n + 1) (t :: s :: us) = .ok (.literal kind t.text s.text, us) := by
  have hsign : sign? t.kind = none := by
    generalize t.kind = k at hkind
    cases hkind <;> rfl
  have hconstant : constant? t = none := by
    unfold constant?
    generalize t.kind = k at hkind
    cases hkind <;> rfl
  simp [Expr.readValue, hsign, hconstant, temporal_iff.1 hkind, expect_cons _ hs, ok_bind]

/-- A name that no opening parenthesis follows is read as a column. -/
lemma readValue_column {t : Token} {us : List Token} (ht : t.kind = .identifier)
    (hstop : StopsAt .value us) :
    Expr.readValue (n + 1) (t :: us) = .ok (.leaf .name t.text, us) := by
  cases us with
  | nil => simp [Expr.readValue, ht, sign?, constant?, temporalKind?]
  | cons u us =>
    have hu : u.kind ≠ .lparen := by simpa [StopsAt, first, continuations] using hstop
    simp [Expr.readValue, ht, hu, sign?, constant?, temporalKind?]

/-- The single column of an aggregate function is read with its closing parenthesis. -/
lemma readCall_aggregate {name : String} {column closing : Token} {us : List Token}
    (hagg : isAggregateName name = true) (hcolumn : column.kind = .identifier)
    (hclose : closing.kind = .rparen) :
    Expr.readCall (n + 1) name (column :: closing :: us) =
      .ok (.call name [.leaf .name column.text], us) := by
  simp [Expr.readCall, hagg, aggregateCall, expect_cons _ hcolumn, expect_cons _ hclose, ok_bind]

/-- A closing parenthesis alone is read as no arguments. -/
lemma readCall_empty {name : String} {closing : Token} {us : List Token}
    (hagg : isAggregateName name = false) (hclose : closing.kind = .rparen) :
    Expr.readCall (n + 1) name (closing :: us) = .ok (.call name [], us) := by
  simp [Expr.readCall, hagg, first, hclose, expect_cons _ hclose, ok_bind]

end Leaf

/-! ### Steps that read phrases -/

section Step

variable {n : Nat} (ih : Complete n)

include ih

/-- A step of reading a chain level whose first operand is known. -/
lemma Complete.read_chain {level : Level} {ts us vs : List Token} {l e : Expr}
    (hl : Derives level.operands ts l us) (hcont : Continues level l us e vs)
    (hstop : StopsAt level vs) (hsteps : steps level.operands < steps level)
    (hn : 16 * ts.length + steps level ≤ n + 1) :
    (Expr.read n level.operands ts >>= fun p => Expr.readChain n level p.1 p.2) =
      .ok (e, vs) := by
  have hlen := hl.length_lt
  have hread := ih.read hl (hcont.stopsAt hstop) (by omega)
  rw [hread, ok_bind]
  dsimp only
  exact ih.readChain hcont hstop (by omega)

/-- A step of reading a level. -/
lemma Complete.read_succ {level : Level} {ts us : List Token} {e : Expr}
    (h : Derives level ts e us) (hstop : StopsAt level us)
    (hn : 16 * ts.length + steps level ≤ n + 1) : Expr.read (n + 1) level ts = .ok (e, us) := by
  cases level with
  | value => exact ih.readValue h hstop (by simp only [steps] at hn; omega)
  | sum =>
    cases h with
    | sum hl hcont => exact ih.read_chain hl hcont hstop (by decide) hn
  | product =>
    cases h with
    | product hl hcont => exact ih.read_chain hl hcont hstop (by decide) hn
  | logic =>
    cases h with
    | logic hl hcont => exact ih.read_chain hl hcont hstop (by decide) hn
  | comparison =>
    simp only [steps] at hn
    obtain ⟨l, us, hl, hstop, hrest⟩ := ih.readComparison h hstop (by omega)
    have hread := ih.read hl hstop (by simp only [steps]; omega)
    simp only [Expr.read, hread, ok_bind, hrest]
  | negation =>
    cases h with
    | @negation nots ts _ e hnots h =>
      simp only [steps, List.length_append] at hn
      have hread := ih.read h hstop (by simp only [steps]; omega)
      -- a comparison does not begin with `not`, so that all negations are those of `nots`
      obtain ⟨t, vs, rfl, -⟩ := h.exists_cons
      have hne : t.kind ≠ .kwNot := h.first_kind_ne (by decide)
      have ht : (t.kind == .kwNot) = false := by simpa using hne
      have hnots' : ∀ t ∈ nots, (t.kind == .kwNot) = true := by simpa using hnots
      have htake : (nots ++ t :: vs).takeWhile (·.kind == .kwNot) = nots := by
        rw [List.takeWhile_append_of_pos hnots', List.takeWhile_cons_of_neg (by simp [ht]),
          List.append_nil]
      have hdrop : (nots ++ t :: vs).dropWhile (·.kind == .kwNot) = t :: vs := by
        rw [List.dropWhile_append_of_pos hnots', List.dropWhile_cons_of_neg (by simp [ht])]
      simp only [Expr.read, htake, hdrop, hread, ok_bind]
      rfl

/-- A step of reading a chain. -/
lemma Complete.readChain_succ {level : Level} {l e : Expr} {ts us : List Token}
    (h : Continues level l ts e us) (hstop : StopsAt level us) (hn : 16 * ts.length + 1 ≤ n + 1) :
    Expr.readChain (n + 1) level l ts = .ok (e, us) := by
  cases h with
  | stop =>
    cases ts with
    | nil => rfl
    | cons t ts => simp only [Expr.readChain, hstop.operator?]
  | @step _ operand op _ r _ t ts vs _ hjoin hr hcont =>
    obtain ⟨hop, rfl⟩ := joins_iff.1 hjoin
    have hlen := hr.length_lt
    simp only [List.length_cons] at hn
    have hread := ih.read hr (hcont.stopsAt hstop)
      (by cases level <;> simp only [steps, Level.operands] <;> omega)
    simp only [Expr.readChain, hop, hread, ok_bind]
    exact ih.readChain hcont hstop (by omega)

/-- A step of reading what follows the first value of a comparison. -/
lemma Complete.readComparison_succ {ts vs : List Token} {e : Expr}
    (h : Derives .comparison ts e vs) (hstop : StopsAt .comparison vs)
    (hn : 16 * ts.length ≤ n + 1) : ∃ l us, Derives .value ts l us ∧ StopsAt .value us ∧
      Expr.readComparison (n + 1) l us = .ok (e, vs) := by
  cases h with
  | @comparison _ us _ l _ hl hcont =>
    have hlen := hl.length_lt
    refine ⟨l, us, hl, hcont.stopsAt hstop, ?_⟩
    have hchain := ih.readChain hcont hstop (by omega)
    cases hcont with
    | stop => exact readComparison_stop hstop
    | @step _ _ _ _ _ _ t us _ _ hjoin _ _ =>
      have hcmp : t.kind.isComparison = true := by
        generalize t.kind = kind at hjoin
        cases hjoin <;> rfl
      rw [Expr.readComparison, if_pos hcmp, hchain]
  | @isNull _ _ e is null hl his hnull =>
    refine ⟨e, _, hl, stopsAt_value_of_isWord his, ?_⟩
    simp [Expr.readComparison, isWord_not_isComparison his, his, nullTest, hnull]
  | @isNotNull _ _ e is not null hl his hnot hnull =>
    refine ⟨e, _, hl, stopsAt_value_of_isWord his, ?_⟩
    have hword : not.isWord "null" = false := by simp [Token.isWord, hnot]
    simp [Expr.readComparison, isWord_not_isComparison his, his, nullTest, hword, hnot,
      expectWord_cons _ _ hnull, ok_bind]
  | @word _ us ws _ l r t op hl hop hr =>
    have hlen := hl.length_lt
    have hle := hop.length_le
    simp only [List.length_cons] at hlen
    obtain ⟨word, hword, hne⟩ := hop.exists_isWord
    refine ⟨l, _, hl, stopsAt_value_of_isWord hword, ?_⟩
    obtain ⟨hfirst, hsecond⟩ := wordOperator_iff.1 hop
    have hread := ih.read hr hstop (by simp only [steps]; omega)
    simp [Expr.readComparison, isWord_not_isComparison hword, isWord_eq_false hword hne, hfirst,
      hsecond, hread, ok_bind]

/-- A step of reading a value. -/
lemma Complete.readValue_succ {ts us : List Token} {e : Expr} (h : Derives .value ts e us)
    (hstop : StopsAt .value us) (hn : 16 * ts.length + 1 ≤ n + 1) :
    Expr.readValue (n + 1) ts = .ok (e, us) := by
  cases h with
  | signed hsign ha =>
    simp only [List.length_cons] at hn
    have hread := ih.read ha hstop (by simp only [steps]; omega)
    simp only [Expr.readValue, sign_iff.1 hsign, hread, ok_bind]
  | parens hopen ha hclose =>
    simp only [List.length_cons] at hn
    have hread := ih.read ha (stopsAt_of_kind hclose (by decide)) (by simp only [steps]; omega)
    simp [Expr.readValue, hopen, sign?, constant?, temporalKind?, hread, ok_bind,
      expect_cons _ hclose]
  | truth ht | falsity ht | string ht | number ht =>
    exact readValue_constant (by rw [ht]; rfl) (by simp only [constant?, ht])
  | literal hkind hs => exact readValue_literal hkind hs
  | column ht => exact readValue_column ht hstop
  | aggregate hname hagg hopen hcolumn hclose =>
    simp only [List.length_cons] at hn
    obtain ⟨m, rfl⟩ : ∃ m, n = m + 1 := ⟨n - 1, by omega⟩
    exact readValue_call hname hopen (readCall_aggregate hagg hcolumn hclose)
  | emptyCall hname hagg hopen hclose =>
    simp only [List.length_cons] at hn
    obtain ⟨m, rfl⟩ : ∃ m, n = m + 1 := ⟨n - 1, by omega⟩
    exact readValue_call hname hopen (readCall_empty hagg hclose)
  | call hname hagg hopen hargs hclose =>
    simp only [List.length_cons] at hn
    exact readValue_call hname hopen (ih.readCall hagg hargs hclose (by omega))

/-- A step of reading arguments and their closing parenthesis. -/
lemma Complete.readCall_succ {name : String} {closing : Token} {ts us : List Token}
    {es : List Expr} (hagg : isAggregateName name = false)
    (hargs : Arguments ts es (closing :: us)) (hclose : closing.kind = .rparen)
    (hn : 16 * ts.length + 9 ≤ n + 1) :
    Expr.readCall (n + 1) name ts = .ok (.call name es, us) := by
  have hfirst : (first ts).kind ≠ .rparen := hargs.first_kind_ne (by decide)
  have hread := ih.readArguments hargs hclose (by omega)
  simp [Expr.readCall, hagg, hfirst, hread, expect_cons _ hclose, ok_bind]

/-- A step of reading expressions with commas between them. -/
lemma Complete.readArguments_succ {ts us : List Token} {es : List Expr}
    (h : Arguments ts es us) (hclose : (first us).kind = .rparen)
    (hn : 16 * ts.length + 8 ≤ n + 1) : Expr.readArguments (n + 1) ts = .ok (es, us) := by
  cases h with
  | one he =>
    have hend : StopsAt .sum us := by simp [StopsAt, hclose, continuations]
    have hread := ih.read he hend (by simp only [steps]; omega)
    simp [Expr.readArguments, hread, hclose, ok_bind]
  | @more _ us _ e es comma he hcomma hes =>
    have hlen := he.length_lt
    simp only [List.length_cons] at hlen
    have hread := ih.read he (stopsAt_of_kind hcomma (by decide)) (by simp only [steps]; omega)
    have hrest := ih.readArguments hes hclose (by omega)
    simp [Expr.readArguments, hread, first, hcomma, hrest, ok_bind]

end Step

/-- Enough steps are enough. -/
lemma complete : ∀ n, Complete n
  | 0 => complete_zero
  | n + 1 => by
    have ih := complete n
    exact ⟨ih.read_succ, ih.readChain_succ, ih.readComparison_succ, ih.readValue_succ,
      ih.readCall_succ, ih.readArguments_succ⟩

/-! ## The reader of expressions -/

/-- What is read as an expression is derived as a sum. -/
theorem derives_of_parse {ts us : List Token} {e : Expr} (h : Expr.parse ts = .ok (e, us)) :
    Derives .sum ts e us :=
  (sound _).read h

/-- What is derived as a sum, and ends there, is read as an expression. -/
theorem parse_of_derives {ts us : List Token} {e : Expr} (h : Derives .sum ts e us)
    (hstop : StopsAt .sum us) : Expr.parse ts = .ok (e, us) :=
  (complete _).read h hstop (by simp only [steps]; omega)

end ChartQuery.Grammar
