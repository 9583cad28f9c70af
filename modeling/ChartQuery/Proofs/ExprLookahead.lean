import ChartQuery.Proofs.ExprRecognition
import ChartQuery.Proofs.Lookahead

/-!
# The reader of expressions looks one token ahead

Each level is written with the combinators for local readers, so that its locality can be read off,
by induction on the number of steps.  A second induction shows that sixteen steps for each token are
enough also where the reader fails: more steps change nothing (`settled`).
-/

namespace ChartQuery.Expr

open Reader
open Token (first)

variable {n : Nat}

/-! ### Readers as combinations -/

/-- The operator that a word begins, and the word in lower case. -/
def wordChoice (t : Token) : Option (Operator × String) :=
  (wordOperator? t).map (·, t.text.toLower)

/-- After the word `is` one token decides whether `not` is read as well. -/
lemma nullTest_eq (operand : Expr) : nullTest operand =
    (choose (ofWord "null") (fun _ => done (unary .isNull "is null" operand)) <|
      choose (ofKind .kwNot)
        (fun _ => andThen (spelled "null" .nullWord) fun _ =>
          done (unary .isNotNull "is not null" operand)) <|
      expected .nullOrNot) := by
  funext ts
  cases ts with
  | nil => rfl
  | cons t ts =>
    by_cases hnull : t.isWord "null" = true
    · rw [nullTest, if_pos hnull, choose_of_some (if_pos hnull : ofWord _ t = _)]
      rfl
    rw [nullTest, if_neg hnull, choose_of_none (if_neg hnull : ofWord _ t = _)]
    by_cases hnot : t.kind = .kwNot
    · rw [if_pos hnot, choose_of_some (if_pos hnot : ofKind _ t = _)]
      exact expectWord_bind _ _ (done (unary .isNotNull "is not null" operand)) ts
    · rw [if_neg hnot, choose_of_none (if_neg hnot : ofKind _ t = _)]
      rfl

/-- Two of the operators have a second word, which is the same. -/
lemma expectSecondWord_eq (op : Operator) : expectSecondWord op =
    if op = .startsWith ∨ op = .endsWith then andThen (spelled "with" .withWord) fun _ => done ()
    else done () := by
  funext ts
  unfold expectSecondWord
  split_ifs
  · exact expectWord_bind "with" .withWord (done ()) ts
  · rfl

/-- The argument of an aggregate function is one token. -/
lemma aggregateCall_eq (name : String) : aggregateCall name =
    andThen (token .identifier) fun column => andThen (token .rparen) fun _ =>
      done (.call name [.leaf .name column]) := by
  funext ts
  refine .trans ?_ (expect_bind (by decide) _ ts)
  refine congrArg _ (funext fun p => ?_)
  exact expect_bind (by decide) (fun _ => done (call name [leaf .name p.1.text])) p.2

/-- A negation skips the words `not` before a comparison. -/
lemma read_negation_eq : read (n + 1) .negation =
    skip .kwNot fun nots => andThen (read n .comparison) fun e =>
      done (if nots % 2 = 1 then .unary .not "not" e else e) := rfl

/-- A comparison is a value and what follows it. -/
lemma read_comparison_eq : read (n + 1) .comparison =
    andThen (read n .value) (readComparison n) := by
  funext ts
  rw [read]
  rfl

/-- The tightest level has a reader of its own. -/
lemma read_value_eq : read (n + 1) .value = readValue n := by
  funext ts
  rw [read]

/-- The other levels are chains of operands. -/
lemma read_chain_eq {level : Level} (h : level ∈ [.sum, .product, .logic]) : read (n + 1) level =
    andThen (read n level.operands) (readChain n level) := by
  funext ts
  simp only [List.mem_cons, List.not_mem_nil, or_false] at h
  rcases h with rfl | rfl | rfl <;> rfl

/-- A chain goes on if the first token is one of its operators. -/
lemma readChain_eq (level : Level) (left : Expr) : readChain (n + 1) level left =
    choose (ofTable level.operator?) (fun op => andThen (read n level.operands) fun right =>
      readChain n level (.binary op.1 op.2 left right)) (done left) := by
  funext ts
  cases ts with
  | nil => cases level <;> rfl
  | cons t ts =>
    simp only [readChain, choose, ofTable, first, List.tail_cons]
    cases level.operator? t.kind <;> rfl

/-- What follows the first value of a comparison is decided by one token, which is not read if it
is a comparison sign. -/
lemma readComparison_eq (left : Expr) : readComparison (n + 1) left =
    (branch (·.kind.isComparison) (readChain n .comparison left) <|
      choose (ofWord "is") (fun _ => nullTest left) <|
      choose wordChoice
        (fun op => andThen (expectSecondWord op.1) fun _ =>
          andThen (read n .comparison) fun right => done (binary op.1 op.2 left right)) <|
      done left) := by
  funext ts
  cases ts with
  | nil => rfl
  | cons t ts =>
    by_cases hcmp : t.kind.isComparison = true
    · rw [readComparison, if_pos hcmp, branch, first, if_pos hcmp]
    rw [readComparison, if_neg hcmp, branch, first, if_neg hcmp]
    by_cases his : t.isWord "is" = true
    · rw [if_pos his, choose_of_some (if_pos his : ofWord _ t = _)]
    rw [if_neg his, choose_of_none (if_neg his : ofWord _ t = _)]
    cases hop : wordOperator? t with
    | none =>
      rw [choose_of_none (by rw [wordChoice, hop]; rfl)]
      rfl
    | some op =>
      rw [choose_of_some (b := (op, t.text.toLower)) (by rw [wordChoice, hop]; rfl)]
      rfl

/-- The first token decides which value is read. -/
lemma readValue_eq : readValue (n + 1) =
    (choose (ofTable sign?)
        (fun op => andThen (read n .value) fun operand => done (unary op.1 op.2 operand)) <|
      choose constant? done <|
      choose (ofTable temporalKind?)
        (fun kind => andThen (token .string) fun value => done (literal kind.1 kind.2 value)) <|
      choose (ofKind .lparen)
        (fun _ => andThen (read n .sum) fun inner => andThen (token .rparen) fun _ => done inner) <|
      choose (ofKind .identifier)
        (fun name => choose (ofKind .lparen) (fun _ => readCall n name) (done (leaf .name name))) <|
      unexpected) := by
  funext ts
  cases ts with
  | nil => rfl
  | cons t ts =>
    simp only [readValue]
    cases hsign : sign? t.kind with
    | some op =>
      rw [choose_of_some (b := (op, t.text)) (by rw [ofTable, hsign]; rfl)]
      rfl
    | none =>
    rw [choose_of_none (by rw [ofTable, hsign]; rfl)]
    cases hconstant : constant? t with
    | some e =>
      rw [choose_of_some hconstant]
      rfl
    | none =>
    rw [choose_of_none hconstant]
    cases hkind : temporalKind? t.kind with
    | some kind =>
      rw [choose_of_some (b := (kind, t.text)) (by rw [ofTable, hkind]; rfl)]
      exact expect_bind (by decide) (fun value => done (literal kind t.text value)) ts
    | none =>
    rw [choose_of_none (by rw [ofTable, hkind]; rfl)]
    dsimp only
    by_cases hopen : t.kind = .lparen
    · rw [if_pos hopen, choose_of_some (if_pos hopen : ofKind _ t = _)]
      refine congrArg _ (funext fun p => ?_)
      exact expect_bind (by decide) (fun _ => done p.1) p.2
    rw [if_neg hopen, choose_of_none (if_neg hopen : ofKind _ t = _)]
    by_cases hname : t.kind = .identifier
    · rw [if_pos hname, choose_of_some (if_pos hname : ofKind _ t = _), choose_ofKind]
      cases ts <;> rfl
    · rw [if_neg hname, choose_of_none (if_neg hname : ofKind _ t = _)]
      rfl

/-- The name, which has been read, decides whether the argument is an expression. -/
lemma readCall_eq (name : String) : readCall (n + 1) name =
    if isAggregateName name then aggregateCall name
    else choose (ofKind .rparen) (fun _ => done (call name []))
      (andThen (readArguments n) fun args => andThen (token .rparen) fun _ =>
        done (call name args)) := by
  funext ts
  rw [readCall]
  split
  · rfl
  rw [choose_ofKind]
  split
  · next hclose =>
    rw [expect_eq (by decide), if_pos hclose]
    rfl
  · refine congrArg _ (funext fun p => ?_)
    exact expect_bind (by decide) (fun _ => done (call name p.1)) p.2

/-- A comma decides whether there is another argument. -/
lemma readArguments_eq : readArguments (n + 1) =
    andThen (read n .sum) fun e => choose (ofKind .comma)
      (fun _ => andThen (readArguments n) fun es => done (e :: es)) (done [e]) := by
  funext ts
  rw [readArguments]
  simp only [andThen, choose_ofKind]
  rfl

/-! ### Tables -/

/-- No operator of a chain is the end of the text or begins no token. -/
lemma readable_of_operator? {level : Level} {kind : Token.Kind} {op : Operator}
    (h : level.operator? kind = some op) : kind.Readable := by
  unfold Level.operator? at h
  split at h <;> first | decide | cases h

/-- Nor is a sign. -/
lemma readable_of_sign? {kind : Token.Kind} {op : Operator} (h : sign? kind = some op) :
    kind.Readable := by
  unfold sign? at h
  split at h <;> first | decide | cases h

/-- Nor is a keyword of a temporal literal. -/
lemma readable_of_temporalKind? {kind : Token.Kind} {k : TemporalKind}
    (h : temporalKind? kind = some k) : kind.Readable := by
  unfold temporalKind? at h
  split at h <;> first | decide | cases h

/-- The tokens that are values on their own are a choice. -/
lemma isChoice_constant? : IsChoice constant? where
  readable {t e} h := by
    unfold constant? at h
    split at h
    all_goals first | (rename_i hkind; rw [hkind]; decide) | cases h
  content {t u} h := by
    obtain ⟨hkind, htext⟩ := Prod.mk.inj h
    unfold constant?
    rw [hkind, htext]

/-- The operators that are words are a choice. -/
lemma isChoice_wordChoice : IsChoice wordChoice where
  readable {t b} h := by
    obtain ⟨op, hop, -⟩ := Option.map_eq_some_iff.1 h
    unfold wordOperator? at hop
    split at hop
    · next hkind =>
      rw [hkind]
      decide
    · cases hop
  content {t u} h := by
    obtain ⟨hkind, htext⟩ := Prod.mk.inj h
    rw [wordChoice, wordChoice, wordOperator?, wordOperator?, hkind, htext]

/-- Tests for null are local. -/
lemma local_nullTest (operand : Expr) : Local (nullTest operand) := by
  rw [nullTest_eq]
  exact .choose (isChoice_ofWord _) (fun _ => .done _) <|
    .choose (isChoice_ofKind (by decide)) (fun _ => .andThen (.spelled _ _) fun _ => .done _) <|
    .expected _

/-- Reading the second word of an operator is local. -/
lemma local_expectSecondWord (op : Operator) : Local (expectSecondWord op) := by
  rw [expectSecondWord_eq]
  split
  · exact .andThen (.spelled _ _) fun _ => .done _
  · exact .done _

/-- Reading the argument of an aggregate function is local. -/
lemma local_aggregateCall (name : String) : Local (aggregateCall name) := by
  rw [aggregateCall_eq]
  exact .andThen (.token (by decide)) fun _ => .andThen (.token (by decide)) fun _ => .done _

/-! ### Levels -/

/-- The readers of the levels are local, if they have at most so many steps. -/
structure AllLocal (n : Nat) : Prop where
  read : ∀ level, Local (Expr.read n level)
  readChain : ∀ level left, Local (Expr.readChain n level left)
  readComparison : ∀ left, Local (Expr.readComparison n left)
  readValue : Local (Expr.readValue n)
  readCall : ∀ name, Local (Expr.readCall n name)
  readArguments : Local (Expr.readArguments n)

/-- Without steps all readers fail at the first token. -/
lemma allLocal_zero : AllLocal 0 where
  read _ := .unexpected
  readChain _ _ := .unexpected
  readComparison _ := .unexpected
  readValue := .unexpected
  readCall _ := .unexpected
  readArguments := .unexpected

section LocalStep

variable (ih : AllLocal n)

include ih

/-- A step of reading a level. -/
lemma AllLocal.read_succ (level : Level) : Local (Expr.read (n + 1) level) := by
  cases level with
  | sum | product | logic =>
    rw [read_chain_eq (by decide)]
    exact .andThen (ih.read _) (ih.readChain _)
  | negation =>
    rw [read_negation_eq]
    exact .skip (by decide) fun _ => .andThen (ih.read _) fun _ => .done _
  | comparison =>
    rw [read_comparison_eq]
    exact .andThen (ih.read _) ih.readComparison
  | value =>
    rw [read_value_eq]
    exact ih.readValue

/-- A step of reading a chain. -/
lemma AllLocal.readChain_succ (level : Level) (left : Expr) :
    Local (Expr.readChain (n + 1) level left) := by
  rw [readChain_eq]
  exact .choose (isChoice_ofTable readable_of_operator?)
    (fun _ => .andThen (ih.read _) fun _ => ih.readChain _ _) (.done _)

/-- A step of reading what follows the first value of a comparison. -/
lemma AllLocal.readComparison_succ (left : Expr) : Local (Expr.readComparison (n + 1) left) := by
  rw [readComparison_eq]
  exact .branch (fun h => congrArg Token.Kind.isComparison (Prod.mk.inj h).1)
    (ih.readChain _ _) <|
    .choose (isChoice_ofWord _) (fun _ => local_nullTest _) <|
    .choose isChoice_wordChoice (fun _ => .andThen (local_expectSecondWord _) fun _ =>
      .andThen (ih.read _) fun _ => .done _) <|
    .done _

/-- A step of reading a value. -/
lemma AllLocal.readValue_succ : Local (Expr.readValue (n + 1)) := by
  rw [readValue_eq]
  exact .choose (isChoice_ofTable readable_of_sign?)
      (fun _ => .andThen (ih.read _) fun _ => .done _) <|
    .choose isChoice_constant? .done <|
    .choose (isChoice_ofTable readable_of_temporalKind?)
      (fun _ => .andThen (.token (by decide)) fun _ => .done _) <|
    .choose (isChoice_ofKind (by decide)) (fun _ => .andThen (ih.read _) fun _ =>
      .andThen (.token (by decide)) fun _ => .done _) <|
    .choose (isChoice_ofKind (by decide)) (fun _ =>
      .choose (isChoice_ofKind (by decide)) (fun _ => ih.readCall _) (.done _)) <|
    .unexpected

/-- A step of reading the arguments of a call. -/
lemma AllLocal.readCall_succ (name : String) : Local (Expr.readCall (n + 1) name) := by
  rw [readCall_eq]
  split
  · exact local_aggregateCall name
  · exact .choose (isChoice_ofKind (by decide)) (fun _ => .done _) <|
      .andThen ih.readArguments fun _ => .andThen (.token (by decide)) fun _ => .done _

/-- A step of reading expressions with commas between them. -/
lemma AllLocal.readArguments_succ : Local (Expr.readArguments (n + 1)) := by
  rw [readArguments_eq]
  exact .andThen (ih.read _) fun _ => .choose (isChoice_ofKind (by decide))
    (fun _ => .andThen ih.readArguments fun _ => .done _) (.done _)

end LocalStep

/-- However many steps are allowed, all readers of the levels are local. -/
lemma allLocal : ∀ n, AllLocal n
  | 0 => allLocal_zero
  | n + 1 => by
    have ih := allLocal n
    exact ⟨ih.read_succ, ih.readChain_succ, ih.readComparison_succ, ih.readValue_succ,
      ih.readCall_succ, ih.readArguments_succ⟩

/-! ### Enough steps -/

/-- One more step changes nothing if there are sixteen for each token, and some for the readers
that are called on the same tokens. -/
structure Settled (n : Nat) : Prop where
  read : ∀ {level ts}, 16 * ts.length + Grammar.steps level ≤ n →
    Expr.read (n + 1) level ts = Expr.read n level ts
  readChain : ∀ {level left ts}, 16 * ts.length + 1 ≤ n →
    Expr.readChain (n + 1) level left ts = Expr.readChain n level left ts
  readComparison : ∀ {left ts}, 16 * ts.length + 2 ≤ n →
    Expr.readComparison (n + 1) left ts = Expr.readComparison n left ts
  readValue : ∀ {ts}, 16 * ts.length + 1 ≤ n → Expr.readValue (n + 1) ts = Expr.readValue n ts
  readCall : ∀ {name ts}, 16 * ts.length + 9 ≤ n →
    Expr.readCall (n + 1) name ts = Expr.readCall n name ts
  readArguments : ∀ {ts}, 16 * ts.length + 8 ≤ n →
    Expr.readArguments (n + 1) ts = Expr.readArguments n ts

/-- No steps are never enough. -/
lemma settled_zero : Settled 0 where
  read {level ts} h := by cases level <;> simp [Grammar.steps] at h
  readChain h := by omega
  readComparison h := by omega
  readValue h := by omega
  readCall h := by omega
  readArguments h := by omega

section SettledStep

variable {ts : List Token} (ih : Settled n)

include ih

/-- A level has enough steps if what it calls has. -/
lemma Settled.read_succ {level : Level} (hn : 16 * ts.length + Grammar.steps level ≤ n + 1) :
    Expr.read (n + 1 + 1) level ts = Expr.read (n + 1) level ts := by
  have hlength : ∀ {level e us}, Expr.read n level ts = .ok (e, us) → us.length ≤ ts.length :=
    ((allLocal n).read _).length_le
  cases level with
  | sum | product | logic =>
    simp only [Grammar.steps] at hn
    conv_lhs => rw [read_chain_eq (by decide)]
    conv_rhs => rw [read_chain_eq (by decide)]
    refine andThen_congr (ih.read ?_) fun e us hread => ih.readChain ?_
    · simp only [Level.operands, Grammar.steps]
      omega
    · have := hlength hread
      omega
  | negation =>
    simp only [Grammar.steps] at hn
    rw [read_negation_eq (n := n + 1), read_negation_eq (n := n), skip, skip]
    have hle : (ts.dropWhile (·.kind == .kwNot)).length ≤ ts.length :=
      (List.dropWhile_suffix _).length_le
    refine andThen_congr (ih.read ?_) fun _ _ _ => rfl
    simp only [Grammar.steps]
    omega
  | comparison =>
    simp only [Grammar.steps] at hn
    rw [read_comparison_eq, read_comparison_eq]
    refine andThen_congr (ih.read ?_) fun e us hread => ih.readComparison ?_
    · simp only [Grammar.steps]
      omega
    · have := hlength hread
      omega
  | value =>
    simp only [Grammar.steps] at hn
    rw [read_value_eq, read_value_eq]
    exact ih.readValue (by omega)

/-- A chain has enough steps, because an operand is read after its operator. -/
lemma Settled.readChain_succ {level : Level} {left : Expr} (hn : 16 * ts.length + 1 ≤ n + 1) :
    Expr.readChain (n + 1 + 1) level left ts = Expr.readChain (n + 1) level left ts := by
  rw [readChain_eq, readChain_eq]
  refine choose_congr (isChoice_ofTable readable_of_operator?) (fun b hlt => ?_) rfl
  refine andThen_congr (ih.read ?_) fun e us hread => ih.readChain ?_
  · cases level <;> simp only [Level.operands, Grammar.steps] <;> omega
  · have := ((allLocal n).read _).length_le hread
    omega

/-- What follows the first value of a comparison has enough steps. -/
lemma Settled.readComparison_succ {left : Expr} (hn : 16 * ts.length + 2 ≤ n + 1) :
    Expr.readComparison (n + 1 + 1) left ts = Expr.readComparison (n + 1) left ts := by
  rw [readComparison_eq, readComparison_eq]
  refine branch_congr (ih.readChain (by omega)) ?_
  refine choose_congr (isChoice_ofWord _) (fun _ _ => rfl) ?_
  refine choose_congr isChoice_wordChoice (fun b hlt => ?_) rfl
  refine andThen_congr rfl fun _ us hread => andThen_congr (ih.read ?_) fun _ _ _ => rfl
  have := (local_expectSecondWord _).length_le hread
  simp only [Grammar.steps]
  omega

/-- A value has enough steps: what it calls begins after a sign, a parenthesis or a name. -/
lemma Settled.readValue_succ (hn : 16 * ts.length + 1 ≤ n + 1) :
    Expr.readValue (n + 1 + 1) ts = Expr.readValue (n + 1) ts := by
  have hread : ∀ level, ts.tail.length < ts.length →
      Expr.read (n + 1) level ts.tail = Expr.read n level ts.tail := fun level hlt =>
    ih.read (by cases level <;> simp only [Grammar.steps] <;> omega)
  rw [readValue_eq, readValue_eq]
  refine choose_congr (isChoice_ofTable readable_of_sign?)
    (fun b hlt => andThen_congr (hread _ hlt) fun _ _ _ => rfl) ?_
  refine choose_congr isChoice_constant? (fun _ _ => rfl) ?_
  refine choose_congr (isChoice_ofTable readable_of_temporalKind?) (fun _ _ => rfl) ?_
  refine choose_congr (isChoice_ofKind (by decide))
    (fun b hlt => andThen_congr (hread _ hlt) fun _ _ _ => rfl) ?_
  refine choose_congr (isChoice_ofKind (by decide)) (fun b hlt => ?_) rfl
  refine choose_congr (isChoice_ofKind (by decide)) (fun b hlt' => ?_) rfl
  exact ih.readCall (by omega)

/-- The arguments of a call have enough steps. -/
lemma Settled.readCall_succ {name : String} (hn : 16 * ts.length + 9 ≤ n + 1) :
    Expr.readCall (n + 1 + 1) name ts = Expr.readCall (n + 1) name ts := by
  rw [readCall_eq, readCall_eq]
  split
  · rfl
  · exact choose_congr (isChoice_ofKind (by decide)) (fun _ _ => rfl)
      (andThen_congr (ih.readArguments (by omega)) fun _ _ _ => rfl)

/-- Expressions with commas between them have enough steps, because a comma is read before each
but the first. -/
lemma Settled.readArguments_succ (hn : 16 * ts.length + 8 ≤ n + 1) :
    Expr.readArguments (n + 1 + 1) ts = Expr.readArguments (n + 1) ts := by
  conv_lhs => rw [readArguments_eq]
  conv_rhs => rw [readArguments_eq]
  refine andThen_congr (ih.read ?_) fun e us hread => ?_
  · simp only [Grammar.steps]
    omega
  have := ((allLocal n).read _).length_le hread
  refine choose_congr (isChoice_ofKind (by decide)) (fun b hlt => ?_) rfl
  exact andThen_congr (ih.readArguments (by omega)) fun _ _ _ => rfl

end SettledStep

/-- The readers of the levels settle. -/
lemma settled : ∀ n, Settled n
  | 0 => settled_zero
  | n + 1 => by
    have ih := settled n
    exact ⟨ih.read_succ, ih.readChain_succ, ih.readComparison_succ, ih.readValue_succ,
      ih.readCall_succ, ih.readArguments_succ⟩

/-- The reader of expressions is local. -/
lemma local_parse : Local Expr.parse :=
  .of_steps (fun n => 16 * n + 16) (fun n => (allLocal n).read .sum) fun {n ts} hn =>
    (settled n).read (by simp only [Grammar.steps]; omega)

end ChartQuery.Expr
