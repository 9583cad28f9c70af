import ChartQuery.Proofs.ExprRecognition
import ChartQuery.Proofs.Scanning
import ChartQuery.Proofs.Selections

/-!
# The reader of queries accepts exactly its grammar

Each small reader recognizes a rule of the grammar: what it returns is derived, and what is
derived is returned, if the token after it can stand after an item or a clause.  Lists, clauses
and the whole query are put together from such readers.  Since every clause begins with a keyword
of its own and the keywords come in a fixed order, the next token always tells whether a clause is
present.
-/

namespace ChartQuery.Grammar

open ChartQuery.Expr
open Query (clauses clause afterBy selectList condition columnName sortKey natural? count entry
  flag separated readSeparated Clauses)
open Token (first expect expect_eq_ok expect_cons eq_cons_of_first_kind)

/-! ## Recognizers -/

/-- The kinds of token that can stand after a clause. -/
def clauseEnds : List Token.Kind :=
  [.kwWhere, .kwGroup, .kwPivot, .kwOrder, .kwLimit, .kwOffset, .kwLabel, .kwFormat, .kwOptions,
    .endOfText]

/-- Whether the tokens begin with one that can stand after a clause. -/
def EndsClause (ts : List Token) : Prop := (first ts).kind ∈ clauseEnds

/-- Whether the tokens begin with one that can stand after an item of a list. -/
def EndsItem (ts : List Token) : Prop := (first ts).kind ∈ Token.Kind.comma :: clauseEnds

/-- A reader recognizes a rule: it returns only what the rule derives, it returns all of it where
the rest ends the phrase, and a phrase takes at least one token. -/
structure Recognizes {α : Type} (ends : List Token → Prop)
    (read : List Token → Except Failure (Parsed α))
    (rule : List Token → α → List Token → Prop) : Prop where
  sound : ∀ {ts a us}, read ts = .ok (a, us) → rule ts a us
  complete : ∀ {ts a us}, rule ts a us → ends us → read ts = .ok (a, us)
  exists_cons : ∀ {ts a us}, rule ts a us → ∃ t vs, ts = t :: vs ∧ us <:+ vs

/-- Where a clause ends, its last item ends. -/
lemma EndsClause.endsItem {ts : List Token} (h : EndsClause ts) : EndsItem ts :=
  List.mem_cons_of_mem _ h

/-- Where an item ends, an expression ends. -/
lemma EndsItem.stopsAt {ts : List Token} (h : EndsItem ts) : StopsAt .sum ts := by
  unfold EndsItem at h
  unfold StopsAt
  generalize (first ts).kind = kind at h
  revert h kind
  simp [clauseEnds, continuations]

/-- A comma ends an item. -/
lemma endsItem_comma {t : Token} {ts : List Token} (h : t.kind = .comma) :
    EndsItem (t :: ts) := by
  simp [EndsItem, first, h]

/-- A comma does not end a clause. -/
lemma EndsClause.ne_comma {ts : List Token} (h : EndsClause ts) : (first ts).kind ≠ .comma := by
  intro hcomma
  rw [EndsClause, hcomma] at h
  revert h
  decide

namespace Recognizes

variable {α : Type} {ends : List Token → Prop}
  {read : List Token → Except Failure (Parsed α)} {rule : List Token → α → List Token → Prop}

/-- A phrase leaves fewer tokens than there were. -/
lemma length_lt (h : Recognizes ends read rule) {ts us : List Token} {a : α}
    (hrule : rule ts a us) : us.length < ts.length := by
  obtain ⟨t, vs, rfl, hvs⟩ := h.exists_cons hrule
  exact Nat.lt_succ_of_le hvs.length_le

end Recognizes

/-! ## Lists -/

section Lists

variable {α : Type} {item : List Token → Except Failure (Parsed α)}
  {rule : List Token → α → List Token → Prop}

/-- What is read as a list is derived as one, however many items are allowed. -/
lemma readSeparated_sound (h : Recognizes EndsItem item rule) :
    ∀ {n : Nat} {ts us : List Token} {as : List α},
      readSeparated item n ts = .ok (as, us) → Separated rule ts as us
  | 0, _, _, _, hread => by cases hread
  | n + 1, ts, us, as, hread => by
    obtain ⟨⟨a, vs⟩, ha, hread⟩ := bind_eq_ok.1 hread
    dsimp only at hread
    split at hread
    · next hcomma =>
      obtain ⟨⟨as', ws⟩, has, hrest⟩ := bind_eq_ok.1 hread
      cases hrest
      obtain ⟨comma, vs, rfl, hkind⟩ := eq_cons_of_first_kind hcomma (by decide)
      exact .more (h.sound ha) hkind (readSeparated_sound h has)
    · cases hread
      exact .one (h.sound ha)

/-- What is derived as a list is read as one if more items are allowed than there are tokens. -/
lemma readSeparated_complete (h : Recognizes EndsItem item rule) :
    ∀ {n : Nat} {ts us : List Token} {as : List α}, Separated rule ts as us → EndsClause us →
      ts.length < n → readSeparated item n ts = .ok (as, us)
  | 0, _, _, _, _, _, hn => absurd hn (Nat.not_lt_zero _)
  | n + 1, ts, us, _, .one ha, hends, hn => by
    have hread := h.complete ha hends.endsItem
    simp [readSeparated, hread, ok_bind, hends.ne_comma]
  | n + 1, ts, us, _, .more ha hcomma has, hends, hn => by
    have hlen := h.length_lt ha
    simp only [List.length_cons] at hlen
    have hread := h.complete ha (endsItem_comma hcomma)
    have hrest := readSeparated_complete h has hends (by omega : _ < n)
    simp [readSeparated, hread, ok_bind, first, hcomma, hrest]

/-- A list of items takes at least one token. -/
lemma Separated.exists_cons (h : Recognizes EndsItem item rule) {ts us : List Token}
    {as : List α} (hsep : Separated rule ts as us) : ∃ t vs, ts = t :: vs ∧ us <:+ vs := by
  induction hsep with
  | one ha => exact h.exists_cons ha
  | more ha _ _ ih =>
    obtain ⟨t, vs, rfl, hvs⟩ := h.exists_cons ha
    obtain ⟨u, ws, rfl, hws⟩ := ih
    exact ⟨t, vs, rfl, (hws.trans (List.suffix_append [_, _] _)).trans hvs⟩

/-- Lists of what a reader recognizes are recognized. -/
lemma Recognizes.separated (h : Recognizes EndsItem item rule) :
    Recognizes EndsClause (separated item) (Separated rule) where
  sound := readSeparated_sound h
  complete hsep hends := readSeparated_complete h hsep hends (Nat.lt_succ_self _)
  exists_cons := Separated.exists_cons h

end Lists

/-! ## Items and bodies -/

/-- Expressions are recognized. -/
lemma recognizes_expr : Recognizes EndsItem Expr.parse (Derives .sum) where
  sound := derives_of_parse
  complete h hends := parse_of_derives h hends.stopsAt
  exists_cons := Derives.exists_cons

/-- Names of columns are recognized, whatever follows. -/
lemma recognizes_columnName : Recognizes EndsItem columnName ColumnName where
  sound h := by
    obtain ⟨⟨t, vs⟩, hread, hrest⟩ := bind_eq_ok.1 h
    obtain ⟨rfl, ht⟩ := expect_eq_ok.1 hread
    cases hrest
    exact .mk ht
  complete h _ := by
    cases h with
    | mk ht => simp [columnName, expect_cons _ ht, ok_bind]
  exists_cons h := by
    cases h
    exact ⟨_, _, rfl, List.suffix_rfl⟩

/-- Sort keys are recognized. -/
lemma recognizes_sortKey : Recognizes EndsItem sortKey SortKey where
  sound {ts k us} h := by
    obtain ⟨⟨e, vs⟩, he, hrest⟩ := bind_eq_ok.1 h
    have hder := derives_of_parse he
    dsimp only at hrest
    split at hrest
    · next hdesc =>
      cases hrest
      obtain ⟨t, us, rfl, ht⟩ := eq_cons_of_first_kind hdesc (by decide)
      exact .descending hder ht
    · next hasc =>
      cases hrest
      obtain ⟨t, us, rfl, ht⟩ := eq_cons_of_first_kind hasc (by decide)
      exact .ascending hder ht
    · cases hrest
      exact .unmarked hder
  complete {ts k us} h hends := by
    cases h with
    | unmarked he =>
      have hread := parse_of_derives he hends.stopsAt
      simp only [sortKey, hread, ok_bind]
      split
      · next hdesc => exact absurd hends (by rw [EndsItem, hdesc]; decide)
      · next hasc => exact absurd hends (by rw [EndsItem, hasc]; decide)
      · rfl
    | ascending he ht | descending he ht =>
      have hread := parse_of_derives he (stopsAt_of_kind ht (by decide))
      simp [sortKey, hread, ok_bind, first, ht]
  exists_cons h := by
    cases h with
    | unmarked he => exact he.exists_cons
    | ascending he _ | descending he _ =>
      obtain ⟨t, vs, rfl, hvs⟩ := he.exists_cons
      exact ⟨t, vs, rfl, (List.suffix_cons _ _).trans hvs⟩

/-- Whether an expression is selected, unless all columns are. -/
def IsSelected (selected? : Option (List Expr)) (e : Expr) : Prop :=
  ∀ es, selected? = some es → e ∈ es

/-- Entries of the attaching clauses are recognized, those for expressions that are not selected
excepted. -/
lemma recognizes_entry (which : Attachment) (selected? : Option (List Expr)) :
    Recognizes EndsItem (entry which selected?)
      fun ts x us => Entry ts x us ∧ IsSelected selected? x.1 where
  sound {ts x us} h := by
    obtain ⟨⟨e, vs⟩, he, hthen⟩ := bind_eq_ok.1 h
    obtain ⟨⟨t, ws⟩, hread, hrest⟩ := bind_eq_ok.1 hthen
    obtain ⟨rfl, ht⟩ := expect_eq_ok.1 hread
    have hder := derives_of_parse he
    cases selected? with
    | none =>
      cases hrest
      exact ⟨.mk hder ht, fun _ hes => by cases hes⟩
    | some es =>
      dsimp only at hrest
      split at hrest
      · next hmem =>
        cases hrest
        refine ⟨.mk hder ht, ?_⟩
        rintro _ ⟨rfl⟩
        simpa using hmem
      · cases hrest
  complete {ts x us} h _ := by
    obtain ⟨h, hsel⟩ := h
    cases h with
    | mk he ht =>
      have hread := parse_of_derives he (stopsAt_of_kind ht (by decide))
      cases selected? with
      | none => simp [entry, hread, ok_bind, expect_cons _ ht]
      | some es =>
        have hmem := hsel es rfl
        simp [entry, hread, ok_bind, expect_cons _ ht, hmem]
  exists_cons h := by
    obtain ⟨⟨he, _⟩, _⟩ := h
    obtain ⟨t, vs, rfl, hvs⟩ := he.exists_cons
    exact ⟨t, vs, rfl, (List.suffix_cons _ _).trans hvs⟩

/-- Options are recognized, whatever follows. -/
lemma recognizes_flag : Recognizes EndsItem flag Flag where
  sound {ts f us} h := by
    cases ts with
    | nil => cases h
    | cons t ts =>
      rw [flag] at h
      split at h
      · next ht => cases h; exact .noFormat ht
      split at h
      · next ht => cases h; exact .noValues ht
      · cases h
  complete h _ := by
    cases h with
    | noFormat ht => simp [flag, ht]
    | noValues ht =>
      have hne := Token.isWord_eq_false ht (by decide : "no_values" ≠ "no_format")
      simp [flag, ht, hne]
  exists_cons h := by
    cases h <;> exact ⟨_, _, rfl, List.suffix_rfl⟩

/-- Digits are read from the most significant on. -/
lemma foldl_digits (ds : List Char) :
    ds.foldl (fun n c => 10 * n + (c.toNat - 48)) 0 = decimalValue ds := by
  rw [decimalValue, Nat.ofDigits_eq_foldr, List.foldr_map, List.foldr_reverse]
  congr 1
  funext n c
  exact Nat.add_comm _ _

/-- A text is read as a number exactly if it is one of digits that stand for less than `2 ^ 64`. -/
lemma natural?_eq_some_iff {text : String} {n : Nat} :
    natural? text = some n ↔ text.toList ≠ [] ∧ (∀ c ∈ text.toList, c.isDigit = true) ∧
      decimalValue text.toList < 2 ^ 64 ∧ decimalValue text.toList = n := by
  unfold natural?
  dsimp only
  rw [foldl_digits]
  split
  · next h =>
    simp only [Bool.and_eq_true, Bool.not_eq_true', List.isEmpty_eq_false_iff, List.all_eq_true]
      at h
    split
    · next hlt =>
      exact ⟨fun heq => ⟨h.1, h.2, hlt, Option.some.inj heq⟩,
        fun ⟨_, _, _, heq⟩ => congrArg some heq⟩
    · next hlt =>
      refine ⟨fun heq => ?_, fun ⟨_, _, hlt', _⟩ => absurd hlt' hlt⟩
      cases heq
  · next h =>
    simp only [Bool.and_eq_true, Bool.not_eq_true', List.isEmpty_eq_false_iff,
      List.all_eq_true, not_and] at h
    simp only [reduceCtorEq, false_iff, not_and]
    exact fun hne hall => absurd hall (h hne)

/-- Numbers of rows are recognized, whatever follows. -/
lemma recognizes_count : Recognizes EndsClause count Count where
  sound {ts n us} h := by
    obtain ⟨⟨t, vs⟩, hread, hrest⟩ := bind_eq_ok.1 h
    obtain ⟨rfl, ht⟩ := expect_eq_ok.1 hread
    dsimp only at hrest
    split at hrest
    · next hn =>
      cases hrest
      obtain ⟨hne, hall, hlt, rfl⟩ := natural?_eq_some_iff.1 hn
      exact .mk ht hne hall hlt
    · cases hrest
  complete {ts n us} h _ := by
    cases h with
    | mk ht hne hall hlt =>
      have hn := natural?_eq_some_iff.2 ⟨hne, hall, hlt, rfl⟩
      simp [count, expect_cons _ ht, ok_bind, hn]
  exists_cons h := by
    cases h
    exact ⟨_, _, rfl, List.suffix_rfl⟩

/-- Expressions to filter by are recognized. -/
lemma recognizes_condition : Recognizes EndsClause condition Condition where
  sound h := by
    obtain ⟨⟨e, vs⟩, he, hrest⟩ := bind_eq_ok.1 h
    cases hrest
    exact .mk (derives_of_parse he)
  complete h hends := by
    cases h with
    | mk he => simp [condition, parse_of_derives he hends.endsItem.stopsAt, ok_bind]
  exists_cons h := by
    cases h with
    | mk he => exact he.exists_cons

/-- Lists of what to select are recognized. -/
lemma recognizes_selectList : Recognizes EndsClause selectList SelectList where
  sound {ts sel us} h := by
    rw [selectList] at h
    split at h
    · next hstar =>
      cases h
      obtain ⟨t, us, rfl, ht⟩ := eq_cons_of_first_kind hstar (by decide)
      exact .star ht
    · obtain ⟨⟨es, vs⟩, hes, hrest⟩ := bind_eq_ok.1 h
      cases hrest
      exact .list (recognizes_expr.separated.sound hes)
  complete {ts sel us} h hends := by
    cases h with
    | star ht => simp [selectList, first, ht]
    | list hes =>
      have hne : (first ts).kind ≠ .times := by
        cases hes with
        | one he | more he _ _ => exact he.first_kind_ne (by decide)
      simp [selectList, hne, recognizes_expr.separated.complete hes hends, ok_bind]
  exists_cons h := by
    cases h with
    | star ht => exact ⟨_, _, rfl, List.suffix_rfl⟩
    | list hes => exact recognizes_expr.separated.exists_cons hes

/-- What follows the word `by` is recognized. -/
lemma Recognizes.afterBy {α : Type} {body : List Token → Except Failure (Parsed α)}
    {rule : List Token → α → List Token → Prop} (h : Recognizes EndsClause body rule) :
    Recognizes EndsClause (afterBy body) (AfterBy rule) where
  sound hread := by
    obtain ⟨⟨t, vs⟩, hby, hrest⟩ := bind_eq_ok.1 hread
    obtain ⟨rfl, ht⟩ := expect_eq_ok.1 hby
    exact .mk ht (h.sound hrest)
  complete hrule hends := by
    cases hrule with
    | mk ht ha => simp [Query.afterBy, expect_cons _ ht, ok_bind, h.complete ha hends]
  exists_cons hrule := by
    cases hrule with
    | mk ht ha =>
      obtain ⟨u, vs, rfl, hvs⟩ := h.exists_cons ha
      exact ⟨_, _, rfl, hvs.trans (List.suffix_cons u vs)⟩

/-! ## Clauses -/

section Clauses

variable {α : Type} {keyword : Token.Kind} {absent : α}
  {body : List Token → Except Failure (Parsed α)} {rule : List Token → α → List Token → Prop}

/-- What is read as a clause is derived as one. -/
lemma clause_sound (h : Recognizes EndsClause body rule) (hkeyword : keyword ≠ .endOfText)
    {ts us : List Token} {a : α} (hread : clause keyword absent body ts = .ok (a, us)) :
    Clause keyword absent rule ts a us := by
  rw [clause] at hread
  split at hread
  · next hfirst =>
    obtain ⟨t, ts, rfl, ht⟩ := eq_cons_of_first_kind hfirst hkeyword
    exact .present ht (h.sound hread)
  · cases hread
    exact .absent

/-- What is derived as a clause is read as one if only later keywords follow, and then at most the
keyword of the clause itself stands before them. -/
lemma clause_complete (h : Recognizes EndsClause body rule) {later : List Token.Kind}
    (hkeyword : keyword ∉ later) (hlater : later ⊆ clauseEnds) {ts us : List Token} {a : α}
    (hclause : Clause keyword absent rule ts a us) (hus : (first us).kind ∈ later) :
    clause keyword absent body ts = .ok (a, us) ∧ (first ts).kind ∈ keyword :: later := by
  cases hclause with
  | absent =>
    have hne : (first ts).kind ≠ keyword := fun heq => hkeyword (heq ▸ hus)
    exact ⟨by rw [clause, if_neg hne], List.mem_cons_of_mem _ hus⟩
  | present ht ha =>
    have hread := h.complete ha (hlater hus)
    simp [clause, first, ht, hread]

/-- A clause leaves the end of what there was. -/
lemma Clause.suffix (h : Recognizes EndsClause body rule) {ts us : List Token} {a : α}
    (hclause : Clause keyword absent rule ts a us) : us <:+ ts := by
  cases hclause with
  | absent => exact List.suffix_rfl
  | present _ ha =>
    obtain ⟨t, vs, rfl, hvs⟩ := h.exists_cons ha
    exact hvs.trans (List.suffix_append [_, _] _)

end Clauses

/-! ## Queries -/

/-- A list of entries whose expressions are selected is a list of entries, all of whose expressions
are selected. -/
lemma separated_entry_iff {selected? : Option (List Expr)} {ts us : List Token}
    {xs : List (Expr × String)} :
    Separated (fun ts x us => Entry ts x us ∧ IsSelected selected? x.1) ts xs us ↔
      Separated Entry ts xs us ∧ ∀ x ∈ xs, IsSelected selected? x.1 := by
  constructor
  · intro h
    induction h with
    | one h => exact ⟨.one h.1, by simpa using h.2⟩
    | more h hcomma _ ih => exact ⟨.more h.1 hcomma ih.1, List.forall_mem_cons.2 ⟨h.2, ih.2⟩⟩
  · rintro ⟨h, hall⟩
    induction h with
    | one h => exact .one ⟨h, hall _ List.mem_cons_self⟩
    | more h hcomma _ ih =>
      obtain ⟨hx, hxs⟩ := List.forall_mem_cons.1 hall
      exact .more ⟨h, hx⟩ hcomma (ih hxs)

/-- The same for a clause of entries; in an absent clause there are none. -/
lemma clause_entry_iff {keyword : Token.Kind} {selected? : Option (List Expr)}
    {ts us : List Token} {xs : List (Expr × String)} :
    Clause keyword [] (Separated fun ts x us => Entry ts x us ∧ IsSelected selected? x.1) ts xs us ↔
      Clause keyword [] (Separated Entry) ts xs us ∧ ∀ x ∈ xs, IsSelected selected? x.1 := by
  constructor
  · intro h
    cases h with
    | absent => exact ⟨.absent, fun _ hx => by cases hx⟩
    | present ht h =>
      obtain ⟨h, hall⟩ := separated_entry_iff.1 h
      exact ⟨.present ht h, hall⟩
  · rintro ⟨h, hall⟩
    cases h with
    | absent => exact .absent
    | present ht h => exact .present ht (separated_entry_iff.2 ⟨h, hall⟩)

/-- Labels and formats are bound exactly if the expression of each is selected. -/
lemma bound_iff {c : Clauses} :
    Bound c ↔ (∀ x ∈ c.labels, IsSelected c.selected? x.1) ∧
      ∀ x ∈ c.formats, IsSelected c.selected? x.1 := by
  constructor
  · intro h
    exact ⟨fun x hx es hes => h es hes x (List.mem_append_left _ hx),
      fun x hx es hes => h es hes x (List.mem_append_right _ hx)⟩
  · rintro ⟨hlabels, hformats⟩ es hes x hx
    rcases List.mem_append.1 hx with hx | hx
    · exact hlabels x hx es hes
    · exact hformats x hx es hes

/-- What is read as clauses up to the end of a text is derived as a statement. -/
lemma statement_of_clauses {text : String} {c : Clauses}
    (h : clauses (Token.tokenize text) = .ok c) : Statement (Token.tokenize text) c ∧ Bound c := by
  obtain ⟨⟨sel, t₁⟩, h₀, h⟩ := bind_eq_ok.1 h
  obtain ⟨⟨filter?, t₂⟩, h₁, h⟩ := bind_eq_ok.1 h
  obtain ⟨⟨groupBy, t₃⟩, h₂, h⟩ := bind_eq_ok.1 h
  obtain ⟨⟨pivot, t₄⟩, h₃, h⟩ := bind_eq_ok.1 h
  obtain ⟨⟨orderBy, t₅⟩, h₄, h⟩ := bind_eq_ok.1 h
  obtain ⟨⟨limit, t₆⟩, h₅, h⟩ := bind_eq_ok.1 h
  obtain ⟨⟨offset, t₇⟩, h₆, h⟩ := bind_eq_ok.1 h
  obtain ⟨⟨labels, t₈⟩, h₇, h⟩ := bind_eq_ok.1 h
  obtain ⟨⟨formats, t₉⟩, h₈, h⟩ := bind_eq_ok.1 h
  obtain ⟨⟨flags, t₁₀⟩, h₉, h⟩ := bind_eq_ok.1 h
  obtain ⟨⟨eot, rest⟩, heot, hreturn⟩ := bind_eq_ok.1 h
  obtain ⟨rfl, hkind⟩ := expect_eq_ok.1 heot
  cases hreturn
  replace h₀ := clause_sound recognizes_selectList (by decide) h₀
  replace h₁ := clause_sound recognizes_condition (by decide) h₁
  replace h₂ := clause_sound recognizes_columnName.separated.afterBy (by decide) h₂
  replace h₃ := clause_sound recognizes_columnName.separated (by decide) h₃
  replace h₄ := clause_sound recognizes_sortKey.separated.afterBy (by decide) h₄
  replace h₅ := clause_sound recognizes_count (by decide) h₅
  replace h₆ := clause_sound recognizes_count (by decide) h₆
  replace h₇ := clause_sound (recognizes_entry .label sel).separated (by decide) h₇
  replace h₈ := clause_sound (recognizes_entry .format sel).separated (by decide) h₈
  replace h₉ := clause_sound recognizes_flag.separated (by decide) h₉
  have hsuffix : eot :: rest <:+ Token.tokenize text :=
    (h₉.suffix recognizes_flag.separated).trans <|
    (h₈.suffix (recognizes_entry .format sel).separated).trans <|
    (h₇.suffix (recognizes_entry .label sel).separated).trans <|
    (h₆.suffix recognizes_count).trans <|
    (h₅.suffix recognizes_count).trans <|
    (h₄.suffix recognizes_sortKey.separated.afterBy).trans <|
    (h₃.suffix recognizes_columnName.separated).trans <|
    (h₂.suffix recognizes_columnName.separated.afterBy).trans <|
    (h₁.suffix recognizes_condition).trans <|
    h₀.suffix recognizes_selectList
  obtain rfl := Token.eq_nil_of_endOfText hkind _ hsuffix
  obtain ⟨h₇, hlabels⟩ := clause_entry_iff.1 h₇
  obtain ⟨h₈, hformats⟩ := clause_entry_iff.1 h₈
  exact ⟨.mk h₀ h₁ h₂ h₃ h₄ h₅ h₆ h₇ h₈ h₉ hkind, bound_iff.2 ⟨hlabels, hformats⟩⟩

/-- What is derived as a statement is read as clauses, if labels and formats are bound. -/
lemma clauses_of_statement {ts : List Token} {c : Clauses} (h : Statement ts c) (hbound : Bound c) :
    clauses ts = .ok c := by
  obtain ⟨hlabels, hformats⟩ := bound_iff.1 hbound
  cases h with
  | mk h₀ h₁ h₂ h₃ h₄ h₅ h₆ h₇ h₈ h₉ heot =>
    replace h₇ := clause_entry_iff.2 ⟨h₇, hlabels⟩
    replace h₈ := clause_entry_iff.2 ⟨h₈, hformats⟩
    -- from the last clause to the first, each of them sees only later keywords
    have hend : (first [_]).kind ∈ [Token.Kind.endOfText] := List.mem_singleton.2 heot
    obtain ⟨r₉, f₉⟩ := clause_complete recognizes_flag.separated
      (by decide) (by decide) h₉ hend
    obtain ⟨r₈, f₈⟩ := clause_complete (recognizes_entry .format c.selected?).separated
      (by decide) (by decide) h₈ f₉
    obtain ⟨r₇, f₇⟩ := clause_complete (recognizes_entry .label c.selected?).separated
      (by decide) (by decide) h₇ f₈
    obtain ⟨r₆, f₆⟩ := clause_complete recognizes_count (by decide) (by decide) h₆ f₇
    obtain ⟨r₅, f₅⟩ := clause_complete recognizes_count (by decide) (by decide) h₅ f₆
    obtain ⟨r₄, f₄⟩ := clause_complete recognizes_sortKey.separated.afterBy
      (by decide) (by decide) h₄ f₅
    obtain ⟨r₃, f₃⟩ := clause_complete recognizes_columnName.separated
      (by decide) (by decide) h₃ f₄
    obtain ⟨r₂, f₂⟩ := clause_complete recognizes_columnName.separated.afterBy
      (by decide) (by decide) h₂ f₃
    obtain ⟨r₁, f₁⟩ := clause_complete recognizes_condition (by decide) (by decide) h₁ f₂
    obtain ⟨r₀, -⟩ := clause_complete recognizes_selectList (by decide) (by decide) h₀ f₁
    simp only [clauses, r₀, r₁, r₂, r₃, r₄, r₅, r₆, r₇, r₈, r₉, ok_bind, expect_cons _ heot]
    rfl

/-- The clauses of a text are those of which it is a statement with bound labels and formats. -/
theorem clauses_eq_ok_iff {text : String} {c : Clauses} :
    clauses (Token.tokenize text) = .ok c ↔ Statement (Token.tokenize text) c ∧ Bound c :=
  ⟨statement_of_clauses, fun h => clauses_of_statement h.1 h.2⟩

/-- **The parser accepts exactly its grammar.**  A text is read as a query if and only if its tokens
are a statement of the grammar with bound labels and formats; then there is one such statement only,
and the query is the one that its clauses make up. -/
theorem parseUnchecked_eq_ok_iff {text : String} {q : Query} :
    Query.parseUnchecked text = .ok q ↔
      ∃ c, Statement (Token.tokenize text) c ∧ Bound c ∧ c.MakeUp q ∧
        ∀ c', Statement (Token.tokenize text) c' → Bound c' → c' = c := by
  constructor
  · intro h
    obtain ⟨c, hc, hq⟩ := bind_eq_ok.1 h
    cases hq
    obtain ⟨hstatement, hbound⟩ := clauses_eq_ok_iff.1 hc
    refine ⟨c, hstatement, hbound, Query.makeUp_toQuery hbound, fun c' hstatement' hbound' => ?_⟩
    have hc' := clauses_eq_ok_iff.2 ⟨hstatement', hbound'⟩
    exact Except.ok.inj (hc'.symm.trans hc)
  · rintro ⟨c, hstatement, hbound, hmake, -⟩
    have hc := clauses_eq_ok_iff.2 ⟨hstatement, hbound⟩
    obtain rfl := hmake.unique (Query.makeUp_toQuery hbound)
    rw [Query.parseUnchecked, hc, ok_bind]
    rfl

/-- The last label of an expression counts, at the first place of it; without a select list each
label has an entry of its own, and a format that finds none gets one. -/
theorem parseUnchecked_eq_ok_iff_attached :
    let a : Expr := .leaf .name "a"
    let b : Expr := .leaf .name "b"
    let listed := "select a, b, a where not not not a is null label a 'x', a 'y' format b '0'"
    let starred := "order by b desc label a 'x', a 'y' format b '0', a '1' options no_values"
    let q : Query := { Query.all with
      star := false
      selections := [⟨a, some "y", none⟩, ⟨b, none, some "0"⟩, ⟨a, none, none⟩]
      filter? := some (.unary .not "not" (.unary .isNull "is null" a)) }
    let r : Query := { Query.all with
      selections := [⟨a, some "x", some "1"⟩, ⟨a, some "y", none⟩, ⟨b, none, some "0"⟩]
      orderBy := [⟨b, true⟩]
      noValues := true }
    (∃ c, Statement (Token.tokenize listed) c ∧ c.MakeUp q) ∧
      ∃ c, Statement (Token.tokenize starred) c ∧ c.MakeUp r := by
  intro a b listed starred q r
  have hlisted : Query.parseUnchecked listed = .ok q := by
    obtain ⟨s, hs, hsame⟩ := exists_eq_ok (Query.parseUnchecked listed) (fun s => decide (s = q))
      (by decide +kernel)
    rw [hs, of_decide_eq_true hsame]
  have hstarred : Query.parseUnchecked starred = .ok r := by
    obtain ⟨s, hs, hsame⟩ := exists_eq_ok (Query.parseUnchecked starred) (fun s => decide (s = r))
      (by decide +kernel)
    rw [hs, of_decide_eq_true hsame]
  obtain ⟨c, hc, -, hmake, -⟩ := parseUnchecked_eq_ok_iff.1 hlisted
  obtain ⟨c', hc', -, hmake', -⟩ := parseUnchecked_eq_ok_iff.1 hstarred
  exact ⟨⟨c, hc, hmake⟩, c', hc', hmake'⟩

end ChartQuery.Grammar
