import ChartQuery.Proofs.ExprLookahead
import ChartQuery.Proofs.RoundTrip
import ChartQuery.Proofs.Tiling

/-!
# Where a query is refused

All clauses are local readers, one after another, so a query is refused at the first token that no
longer fits: the failure points at that token, or at the first token of an entry whose expression is
not selected, and what comes later makes no difference.  A failure that points nowhere comes from
the check of the numbers of arguments, which is made of a text that was read as a whole.
-/

namespace ChartQuery

open Token (first content expect)

namespace Reader

variable {α : Type}

/-! ## Lists -/

/-- A reader of lists goes on as long as commas come. -/
lemma readSeparated_eq (item : Reader α) (n : Nat) : Query.readSeparated item (n + 1) =
    andThen item fun a => choose (ofKind .comma)
      (fun _ => andThen (Query.readSeparated item n) fun as => done (a :: as)) (done [a]) := by
  funext ts
  rw [Query.readSeparated]
  simp only [andThen, choose_ofKind]
  rfl

/-- Lists are local if their items are, with every number of steps. -/
lemma Local.readSeparated {item : Reader α} (h : Local item) (n : Nat) :
    Local (Query.readSeparated item n) := by
  induction n with
  | zero => exact .unexpected
  | succ n ih =>
    rw [readSeparated_eq]
    exact .andThen h fun _ => .choose (isChoice_ofKind (by decide))
      (fun _ => .andThen ih fun _ => .done _) (.done _)

/-- There are fewer items than steps if there are fewer tokens. -/
lemma readSeparated_succ {item : Reader α} (h : Local item) {n : Nat} {ts : List Token}
    (hn : ts.length + 1 ≤ n) :
    Query.readSeparated item (n + 1) ts = Query.readSeparated item n ts := by
  induction n generalizing ts with
  | zero => omega
  | succ n ih =>
    conv_lhs => rw [readSeparated_eq]
    conv_rhs => rw [readSeparated_eq]
    refine andThen_congr rfl fun a us hread => ?_
    have := h.length_le hread
    refine choose_congr (isChoice_ofKind (by decide)) (fun _ hlt => ?_) rfl
    exact andThen_congr (ih (by omega)) fun _ _ _ => rfl

/-- Lists are local if their items are. -/
lemma Local.separated {item : Reader α} (h : Local item) : Local (Query.separated item) :=
  .of_steps (· + 1) h.readSeparated (readSeparated_succ h)

/-! ## What is refused after it was read -/

/-- Refuses some of what a reader returns, with a failure that points at its first token. -/
def refuse (p : α → Bool) (f : α → Nat → Failure) (r : Reader α) : Reader α := fun ts =>
  r ts >>= fun x => if p x.1 then .error (f x.1 (first ts).pos) else .ok x

/-- Refusing keeps readers local that read at least one token. -/
lemma Local.refuse {p : α → Bool} {f : α → Nat → Failure} {r : Reader α} (hr : Local r)
    (hconsumes : ∀ {ts us a}, r ts = .ok (a, us) → us.length < ts.length)
    (hf : ∀ {phrase t a u}, u ∈ phrase → (f a u.pos).PointsAt phrase t) :
    Local (refuse p f r) where
  ok {ts us a} h := by
    obtain ⟨⟨b, vs⟩, hb, hrest⟩ := bind_eq_ok.1 h
    dsimp only at hrest
    split at hrest
    · cases hrest
    · next hp =>
      cases hrest
      obtain ⟨phrase, rfl, hread, hcopy⟩ := hr.ok hb
      refine ⟨phrase, rfl, hread, fun phrase' us' hphrase hus => ?_⟩
      exact bind_eq_ok.2 ⟨_, hcopy phrase' us' hphrase hus, if_neg hp⟩
  error {ts e} h := by
    obtain herror | ⟨⟨b, vs⟩, hb, hrest⟩ := bind_eq_error.1 h
    · obtain ⟨phrase, us, rfl, hread, hpoints, hcopy⟩ := hr.error herror
      exact ⟨phrase, us, rfl, hread, hpoints, fun us' hus => bind_eq_error.2 (.inl (hcopy us' hus))⟩
    · dsimp only at hrest
      split at hrest
      case isFalse => cases hrest
      next hp =>
      cases hrest
      obtain ⟨phrase, rfl, hread, hcopy⟩ := hr.ok hb
      cases phrase with
      | nil => exact absurd (hconsumes hb) (lt_irrefl _)
      | cons t phrase =>
        refine ⟨t :: phrase, vs, rfl, hread, hf List.mem_cons_self, fun us' hus => ?_⟩
        exact bind_eq_error.2 (.inr ⟨_, hcopy _ us' rfl (congrArg content hus), if_pos hp⟩)

end Reader

namespace Query

open Reader

/-! ## Bodies of the clauses -/

/-- A clause is local if its body is. -/
lemma local_clause {α : Type} {keyword : Token.Kind} (hkeyword : keyword.Readable) {absent : α}
    {body : Reader α} (h : Local body) : Local (clause keyword absent body) := by
  have heq : clause keyword absent body =
      choose (ofKind keyword) (fun _ => body) (done absent) := by
    funext ts
    rw [choose_ofKind]
    rfl
  rw [heq]
  exact .choose (isChoice_ofKind hkeyword) (fun _ => h) (.done _)

/-- What follows the word `by` is local if its reader is. -/
lemma local_afterBy {α : Type} {body : Reader α} (h : Local body) : Local (afterBy body) := by
  have heq : afterBy body = andThen (token .kwBy) fun _ => body := by
    funext ts
    exact expect_bind (by decide) (fun _ => body) ts
  rw [heq]
  exact .andThen (.token (by decide)) fun _ => h

/-- Lists of what to select are local. -/
lemma local_selectList : Local selectList := by
  have heq : selectList = choose (ofKind .times) (fun _ => done none)
      (andThen (separated Expr.parse) fun es => done (some es)) := by
    funext ts
    rw [choose_ofKind]
    rfl
  rw [heq]
  exact .choose (isChoice_ofKind (by decide)) (fun _ => .done _)
    (.andThen Expr.local_parse.separated fun _ => .done _)

/-- Expressions to filter by are local. -/
lemma local_condition : Local condition :=
  .andThen (s := fun e => done (some e)) Expr.local_parse fun _ => .done _

/-- Names of columns are local. -/
lemma local_columnName : Local columnName := by
  have heq : columnName = andThen (token .identifier) done := by
    funext ts
    exact expect_bind (by decide) done ts
  rw [heq]
  exact .andThen (.token (by decide)) .done

/-- Sort keys are local. -/
lemma local_sortKey : Local sortKey := by
  have heq : sortKey = andThen Expr.parse fun e => choose (ofKind .kwDesc)
      (fun _ => done ⟨e, true⟩) (choose (ofKind .kwAsc) (fun _ => done ⟨e, false⟩)
        (done ⟨e, false⟩)) := by
    funext ts
    refine congrArg _ (funext fun p => ?_)
    dsimp only
    rw [choose_ofKind, choose_ofKind]
    split
    · next h => rw [if_pos h]; rfl
    · next h => rw [if_neg (by rw [h]; decide), if_pos h]; rfl
    · next hdesc hasc => rw [if_neg hdesc, if_neg hasc]; rfl
  rw [heq]
  exact .andThen Expr.local_parse fun _ => .choose (isChoice_ofKind (by decide))
    (fun _ => .done _) (.choose (isChoice_ofKind (by decide)) (fun _ => .done _) (.done _))

/-- Whether a token is a number that does not count rows. -/
def isUncountable (t : Token) : Bool := t.kind = .number ∧ natural? t.text = none

/-- Numbers of rows are local. -/
lemma local_count : Local count := by
  have heq : count = branch isUncountable (expected .integer)
      (andThen (token .number) fun text => done ((natural? text).getD 0)) := by
    funext ts
    rw [count, expect_eq (by decide), branch]
    simp only [isUncountable, andThen, token, choose_ofKind]
    by_cases hkind : (first ts).kind = .number
    · cases hn : natural? (first ts).text with
      | none => simp [hkind, hn, ok_bind, expected]
      | some n =>
        simp only [hkind, if_true, ok_bind, hn, reduceCtorEq, and_false, decide_false, if_false]
        change _ = done ((natural? (first ts).text).getD 0) ts.tail
        rw [hn]
        rfl
    · simp [hkind]
      rfl
  rw [heq]
  refine .branch (fun h => ?_) (.expected _) (.andThen (.token (by decide)) fun _ => .done _)
  obtain ⟨hkind, htext⟩ := Prod.mk.inj h
  rw [isUncountable, isUncountable, hkind, htext]

/-- Options are local. -/
lemma local_flag : Local flag := by
  have heq : flag = choose (ofWord "no_format") (fun _ => done .noFormat)
      (choose (ofWord "no_values") (fun _ => done .noValues) (expected .option)) := by
    funext ts
    cases ts with
    | nil => rfl
    | cons t ts =>
      rw [flag, choose, choose, ofWord, ofWord, first]
      split_ifs <;> rfl
  rw [heq]
  exact .choose (isChoice_ofWord _) (fun _ => .done _)
    (.choose (isChoice_ofWord _) (fun _ => .done _) (.expected _))

/-- Entries of attaching clauses are local. -/
lemma local_entry (which : Attachment) (selected? : Option (List Expr)) :
    Local (entry which selected?) := by
  have heq : entry which selected? =
      refuse (fun x => selected?.any (!·.contains x.1))
        (fun x pos => .notSelected which pos x.1.toText)
        (andThen Expr.parse fun e => andThen (token .string) fun text => done (e, text)) := by
    funext ts
    rw [entry, refuse, andThen, bind_assoc]
    refine bind_congr fun p => ?_
    rw [← expect_bind (by decide) (fun text => done (p.1, text)), bind_assoc]
    refine bind_congr fun q => ?_
    cases selected? with
    | none => rfl
    | some es => simp [done, ok_bind]
  rw [heq]
  refine .refuse (.andThen Expr.local_parse fun _ => .andThen (.token (by decide)) fun _ =>
    .done _) (fun {ts us x} h => ?_) fun {phrase t x u} hu => ⟨u, hu, rfl⟩
  -- an entry holds a text at least
  obtain ⟨⟨e, vs⟩, he, hrest⟩ := bind_eq_ok.1 h
  have hread := (expect_bind (by decide) (fun text => done (e, text)) vs).trans hrest
  obtain ⟨⟨t, ws⟩, ht, hdone⟩ := bind_eq_ok.1 hread
  obtain ⟨rfl, -⟩ := Token.expect_eq_ok.1 ht
  cases hdone
  exact Expr.local_parse.length_le he

/-! ## Queries -/

/-- Reads all clauses, but not the end of the text. -/
def body : Reader Clauses :=
  andThen (clause .kwSelect none selectList) fun selected? =>
  andThen (clause .kwWhere none condition) fun filter? =>
  andThen (clause .kwGroup [] (afterBy (separated columnName))) fun groupBy =>
  andThen (clause .kwPivot [] (separated columnName)) fun pivot =>
  andThen (clause .kwOrder [] (afterBy (separated sortKey))) fun orderBy =>
  andThen (clause .kwLimit 0 count) fun limit =>
  andThen (clause .kwOffset 0 count) fun offset =>
  andThen (clause .kwLabel [] (separated (entry .label selected?))) fun labels =>
  andThen (clause .kwFormat [] (separated (entry .format selected?))) fun formats =>
  andThen (clause .kwOptions [] (separated flag)) fun flags =>
  done { selected?, filter?, groupBy, pivot, orderBy, limit, offset, labels, formats, flags }

/-- The clauses of a query are local. -/
lemma local_body : Local body :=
  .andThen (local_clause (by decide) local_selectList) fun selected? =>
  .andThen (local_clause (by decide) local_condition) fun _ =>
  .andThen (local_clause (by decide) (local_afterBy local_columnName.separated)) fun _ =>
  .andThen (local_clause (by decide) local_columnName.separated) fun _ =>
  .andThen (local_clause (by decide) (local_afterBy local_sortKey.separated)) fun _ =>
  .andThen (local_clause (by decide) local_count) fun _ =>
  .andThen (local_clause (by decide) local_count) fun _ =>
  .andThen (local_clause (by decide) (local_entry .label selected?).separated) fun _ =>
  .andThen (local_clause (by decide) (local_entry .format selected?).separated) fun _ =>
  .andThen (local_clause (by decide) local_flag.separated) fun _ =>
  .done _

/-- After the clauses comes the end of the text. -/
lemma clauses_eq (ts : List Token) :
    clauses ts = body ts >>= fun p => expect .endOfText p.2 >>= fun _ => .ok p.1 := by
  simp only [body, andThen, bind_assoc]
  rfl

/-! ## Texts -/

/-- The clauses of a text do not reach beyond its last token, which ends it. -/
lemma exists_eq_cons {text : String} {phrase us : List Token}
    (h : Token.tokenize text = phrase ++ us) (hread : ∀ t ∈ phrase, t.kind.Readable) :
    ∃ t vs, us = t :: vs := by
  obtain ⟨init, hend, -⟩ := (Token.tiles_scanAll ⟨0, text.toList⟩).exists_eq_append
  cases us with
  | cons t vs => exact ⟨t, vs, rfl⟩
  | nil =>
    have hmem : (⟨_, .endOfText, ""⟩ : Token) ∈ Token.tokenize text :=
      (hend : Token.tokenize text = _) ▸ List.mem_append_right init (List.mem_singleton_self _)
    rw [h, List.append_nil] at hmem
    exact absurd (hread _ hmem) (show ¬ Token.Kind.endOfText.Readable by decide)

/-- The clauses of a text are read up to the end, and are the same wherever their tokens stand. -/
lemma exists_phrase {ts : List Token} {c : Clauses} (h : clauses ts = .ok c) :
    ∃ phrase t us, ts = phrase ++ t :: us ∧ (∀ u ∈ phrase, u.kind.Readable) ∧
      t.kind = .endOfText ∧
      ∀ phrase' t' us', phrase'.map content = phrase.map content → t'.content = t.content →
        clauses (phrase' ++ t' :: us') = .ok c := by
  rw [clauses_eq] at h
  obtain ⟨⟨b, us⟩, hbody, hend⟩ := bind_eq_ok.1 h
  obtain ⟨⟨t, vs⟩, ht, hc⟩ := bind_eq_ok.1 hend
  obtain ⟨rfl, hkind⟩ := Token.expect_eq_ok.1 ht
  cases hc
  obtain ⟨phrase, rfl, hread, hcopy⟩ := local_body.ok hbody
  refine ⟨phrase, t, vs, rfl, hread, hkind, fun phrase' t' us' hphrase ht' => ?_⟩
  have hkind' : t'.kind = .endOfText := (Prod.mk.inj ht').1.trans hkind
  rw [clauses_eq, hcopy phrase' (t' :: us') hphrase ht', ok_bind, Token.expect_cons _ hkind']
  rfl

/-- The clauses of a text are refused at one of its tokens, whatever comes after it. -/
lemma exists_refused {text : String} {f : Failure} (h : clauses (Token.tokenize text) = .error f) :
    ∃ phrase t us, Token.tokenize text = phrase ++ t :: us ∧ f.PointsAt phrase t ∧
      ∀ us', clauses (phrase ++ t :: us') = .error f := by
  rw [clauses_eq] at h
  obtain herror | ⟨⟨b, us⟩, hbody, hend⟩ := bind_eq_error.1 h
  · obtain ⟨phrase, us, htext, hread, hpoints, hcopy⟩ := local_body.error herror
    obtain ⟨t, us, rfl⟩ := exists_eq_cons htext hread
    refine ⟨phrase, t, us, htext, hpoints, fun us' => ?_⟩
    rw [clauses_eq]
    exact bind_eq_error.2 (.inl (hcopy (t :: us') rfl))
  · -- something stands in place of the end of the text
    obtain ⟨phrase, htext, hread, hcopy⟩ := local_body.ok hbody
    obtain ⟨t, us, rfl⟩ := exists_eq_cons htext hread
    have hkind : t.kind ≠ .endOfText := by
      intro hkind
      rw [Token.expect_cons _ hkind] at hend
      cases hend
    have hexpect (us : List Token) :
        expect .endOfText (t :: us) = .error (.expected (.kind .endOfText) t) := if_neg hkind
    rw [hexpect] at hend
    cases hend
    refine ⟨phrase, t, us, htext, rfl, fun us' => ?_⟩
    rw [clauses_eq]
    exact bind_eq_error.2 (.inr ⟨_, hcopy phrase (t :: us') rfl rfl,
      bind_eq_error.2 (.inl (hexpect us'))⟩)

/-- The outermost expressions of a query: those that it selects, the filter and the sort keys. -/
def outermost (q : Query) : List Expr :=
  q.selections.map (·.expr) ++ q.filter?.toList ++ q.orderBy.map (·.expr)

/-- A list is refused where one of its elements is. -/
lemma exists_of_forM_eq_error {α : Type} {g : α → Except Failure Unit} {as : List α} {f : Failure}
    (h : as.forM g = .error f) : ∃ a ∈ as, g a = .error f := by
  induction as with
  | nil => cases h
  | cons a as ih =>
    obtain ha | ⟨-, -, has⟩ := bind_eq_error.1 h
    · exact ⟨a, List.mem_cons_self, ha⟩
    · obtain ⟨b, hb, hf⟩ := ih has
      exact ⟨b, List.mem_cons_of_mem _ hb, hf⟩

/-- A failure of the check of the numbers of arguments is that of an outermost expression. -/
lemma exists_of_checkArity_eq_error {q : Query} {f : Failure} (h : q.checkArity = .error f) :
    ∃ e ∈ q.outermost, e.checkArity = .error f := by
  simp only [outermost, List.mem_append, List.mem_map, Option.mem_toList]
  obtain hs | ⟨-, -, h⟩ := bind_eq_error.1 h
  · obtain ⟨s, hs, hf⟩ := exists_of_forM_eq_error hs
    exact ⟨s.expr, .inl (.inl ⟨s, hs, rfl⟩), hf⟩
  obtain hfilter | ⟨-, -, hk⟩ := bind_eq_error.1 h
  · cases hq : q.filter? with
    | none =>
      rw [hq] at hfilter
      cases hfilter
    | some e =>
      rw [hq] at hfilter
      exact ⟨e, .inl (.inr rfl), hfilter⟩
  · obtain ⟨k, hk, hf⟩ := exists_of_forM_eq_error hk
    exact ⟨k.expr, .inr ⟨k, hk, rfl⟩, hf⟩

/-- The check of the numbers of arguments points at no place of the text. -/
lemma position?_of_checkArity {e : Expr} {f : Failure} (h : e.checkArity = .error f) :
    f.reason = .invalidQuery ∧ f.position? = none := by
  unfold Expr.checkArity at h
  split at h
  · cases h
  split at h
  · cases h
    exact ⟨rfl, rfl⟩
  split at h <;> cases h
  exact ⟨rfl, rfl⟩

/-- A text is refused because its clauses are, or by the check of the numbers of arguments. -/
lemma parse_eq_error {text : String} {extended : Bool} {f : Failure}
    (h : parse text extended = .error f) :
    clauses (Token.tokenize text) = .error f ∨
      extended = false ∧ ∃ q, parseUnchecked text = .ok q ∧ ∃ e ∈ q.outermost,
        e.checkArity = .error f := by
  obtain h | ⟨q, hq, h⟩ := bind_eq_error.1 h
  · obtain h | ⟨c, -, h⟩ := bind_eq_error.1 h
    · exact .inl h
    · cases h
  · cases extended with
    | true => cases h
    | false =>
      obtain h | ⟨-, -, h⟩ := bind_eq_error.1 h
      · exact .inr ⟨rfl, q, hq, exists_of_checkArity_eq_error h⟩
      · cases h

/-- A text whose clauses are refused is refused. -/
lemma parse_of_clauses_eq_error {text : String} {f : Failure}
    (h : clauses (Token.tokenize text) = .error f) (extended : Bool) :
    parse text extended = .error f :=
  bind_eq_error.2 (.inl (bind_eq_error.2 (.inl h)))

/-- **Syntax errors are precise and local.**  A text is always refused as an invalid query.  If the
failure has a position, then a token of the text stands there, and the message begins with it; and
unless the failure names an expression that is not selected, it quotes this token, and every text
with the same tokens up to there is refused in the same way.  If the failure has no position, then
the text was read as a query, and one of its outermost expressions does not pass the check of the
numbers of arguments. -/
theorem refused_of_parse {text : String} {extended : Bool} {f : Failure}
    (h : parse text extended = .error f) :
    f.reason = .invalidQuery ∧
    (∀ p, f.position? = some p → ∃ before t after,
      Token.tokenize text = before ++ t :: after ∧ t.pos = p ∧
      f.message = "pos " ++ toString p ++ ": " ++ f.detail ∧
      ((∃ which e, f = .notSelected which p e) ∨
        (f.detail = "unexpected token '" ++ t.text ++ "'" ∨ ∃ what : Expectation,
          f.detail = "expected " ++ what.describe ++ " but got '" ++ t.text ++ "' instead") ∧
        ∀ text', before ++ [t] <+: Token.tokenize text' → parse text' extended = .error f)) ∧
    (f.position? = none → extended = false ∧ ∃ q, parseUnchecked text = .ok q ∧
      ∃ e ∈ q.outermost, e.checkArity = .error f) := by
  obtain hclauses | ⟨hextended, q, hq, e, he, hf⟩ := parse_eq_error h
  · obtain ⟨before, t, after, htext, hpoints, hcopy⟩ := exists_refused hclauses
    have hstable : ∀ text', before ++ [t] <+: Token.tokenize text' →
        parse text' extended = .error f := by
      rintro text' ⟨rest, hrest⟩
      refine parse_of_clauses_eq_error ?_ extended
      rw [← hrest, List.append_assoc]
      exact hcopy rest
    cases f with
    | unexpected u =>
      obtain rfl : u = t := hpoints
      refine ⟨rfl, fun p hp => ?_, nofun⟩
      cases hp
      exact ⟨before, u, after, htext, rfl, rfl, .inr ⟨.inl rfl, hstable⟩⟩
    | expected what u =>
      obtain rfl : u = t := hpoints
      refine ⟨rfl, fun p hp => ?_, nofun⟩
      cases hp
      exact ⟨before, u, after, htext, rfl, rfl, .inr ⟨.inr ⟨what, rfl⟩, hstable⟩⟩
    | notSelected which pos e =>
      obtain ⟨u, hu, rfl⟩ := hpoints
      obtain ⟨before', after', rfl⟩ := List.append_of_mem hu
      refine ⟨rfl, fun p hp => ?_, nofun⟩
      cases hp
      refine ⟨before', u, after' ++ t :: after, ?_, rfl, rfl, .inl ⟨which, e, rfl⟩⟩
      rw [htext, List.append_assoc, List.cons_append]
    | _ => exact hpoints.elim
  · obtain ⟨hreason, hnone⟩ := position?_of_checkArity hf
    exact ⟨hreason, fun p hp => absurd (hnone.symm.trans hp) nofun,
      fun _ => ⟨hextended, q, hq, e, he, hf⟩⟩

/-- A fraction of rows is refused, whatever comes after it. -/
theorem refused_of_parse_fraction :
    parse "limit 1.5" false = .error (.expected .integer ⟨7, .number, "1.5"⟩) ∧
      ∃ before t after, Token.tokenize "limit 1.5" = before ++ t :: after ∧ t.pos = 7 ∧
        ∀ text', before ++ [t] <+: Token.tokenize text' →
          parse text' false = .error (.expected .integer ⟨7, .number, "1.5"⟩) := by
  have h : parse "limit 1.5" false = .error (.expected .integer ⟨7, .number, "1.5"⟩) := by
    decide +kernel
  obtain ⟨-, hlocated, -⟩ := refused_of_parse h
  obtain ⟨before, t, after, htext, hpos, -, hform⟩ := hlocated 7 rfl
  obtain ⟨which, e, hne⟩ | ⟨-, hstable⟩ := hform
  · cases hne
  · exact ⟨h, before, t, after, htext, hpos, hstable⟩

end Query

end ChartQuery
