import ChartQuery.Proofs.Scanning
import Mathlib.Logic.Function.Iterate

/-!
# Texts that are tiled by tokens

A text is nothing but runs of blanks and lexemes in turn, and its tokens are those of the lexemes,
each with the place where its lexeme begins.  `IsLexeme` says what the lexeme of a token looks like
and what may not follow it, and `Tiles` puts lexemes and blanks side by side; neither says how the
end of a lexeme is found.

What one scan does is one tile (`scan_cases`), and what a tile is made of is found again by a scan
(`IsLexeme.readsAs`).  So the tokens of a text are the only ones that tile it.
-/

namespace ChartQuery.Token

/-! ## Lexemes -/

/-- `Ends p r`: what follows does not begin with a character of the class. -/
def Ends (p : Char → Bool) (r : List Char) : Prop := ∀ c ∈ r.head?, p c = false

/-- `NoLonger cs r`: no operator begins with `cs` and goes on into what follows. -/
def NoLonger (cs r : List Char) : Prop :=
  ∀ more, more ≠ [] → more <+: r → keyword? (String.ofList (cs ++ more)) = none

/-- `IsLexeme kind text cs r`: the characters `cs`, if `r` follows them, are the lexeme of a token
with this kind and text.  Numbers, words and operators are as long as they can be; a reserved word
is written in any mixture of cases; a quoted text does not hold its own quote.  What begins no token
is a quote that nothing closes, with all that follows, or a single character. -/
inductive IsLexeme : Kind → String → List Char → List Char → Prop
  | number {s : String} {r : List Char} : Numeric s → Ends isNumberChar r →
      IsLexeme .number s s.toList r
  | name {s : String} {r : List Char} : IsWordText s → keyword? s.toLower = none →
      Ends isNameChar r → IsLexeme .identifier s s.toList r
  | reserved {s : String} {kind : Kind} {r : List Char} : IsWordText s →
      keyword? s.toLower = some kind → Ends isNameChar r → IsLexeme kind s.toLower s.toList r
  | quoted {s : String} {kind : Kind} {quote : Char} {r : List Char} : IsQuoteOf kind quote →
      quote ∉ s.toList → IsLexeme kind s (quote :: (s.toList ++ [quote])) r
  | operator {s : String} {c : Char} {cs : List Char} {kind : Kind} {r : List Char} :
      s.toList = c :: cs → IsOperatorChar c → keyword? s = some kind → NoLonger s.toList r →
      IsLexeme kind s s.toList r
  | unclosed {s : String} {kind : Kind} {quote : Char} {cs : List Char} : IsQuoteOf kind quote →
      s.toList = quote :: cs → quote ∉ cs → IsLexeme .invalid s s.toList []
  | stray {s : String} {c : Char} {r : List Char} : s.toList = [c] → IsOperatorChar c →
      keyword? s = none → NoLonger s.toList r → IsLexeme .invalid s s.toList r

variable {first quote c : Char} {rest cs r : List Char} {kind : Kind} {text s : String} {n : Nat}

/-- After the longest run of a class comes something else. -/
lemma ends_dropWhile (p : Char → Bool) (cs : List Char) : Ends p (cs.dropWhile p) := by
  intro c hc
  have hhead := List.head?_dropWhile_not p cs
  rw [Option.mem_def.1 hc] at hhead
  exact hhead

/-- Nothing goes on after the end of the text. -/
lemma noLonger_nil (cs : List Char) : NoLonger cs [] := fun _ hne hmore =>
  absurd (List.prefix_nil.1 hmore) hne

/-- An operator of two characters does not go on. -/
lemma noLonger_pair {d : Char} (hc : IsOperatorChar c) (r : List Char) : NoLonger [c, d] r := by
  intro more hne _
  obtain ⟨e, more, rfl⟩ := List.exists_cons_of_ne_nil hne
  exact keyword?_eq_none_of_length hc.2.2.2 (by simp)

/-- A single character goes on at most with the next one. -/
lemma noLonger_singleton {d : Char} (hc : IsOperatorChar c)
    (hd : keyword? (String.ofList [c, d]) = none) (r : List Char) : NoLonger [c] (d :: r) := by
  intro more hne hmore
  obtain ⟨e, more, rfl⟩ := List.exists_cons_of_ne_nil hne
  obtain ⟨rfl, -⟩ := List.cons_prefix_cons.1 hmore
  cases more with
  | nil => exact hd
  | cons _ _ => exact keyword?_eq_none_of_length hc.2.2.2 (by simp)

/-- What does not go on is not lengthened by the next character. -/
lemma NoLonger.next (h : NoLonger cs r) :
    ∀ d ∈ r.head?, keyword? (String.ofList (cs ++ [d])) = none := by
  intro d hd
  obtain ⟨r, rfl⟩ := List.head?_eq_some_iff.1 hd
  exact h [d] (List.cons_ne_nil d []) (List.prefix_append [d] r)

/-- The lexeme of a token is read as that token. -/
theorem IsLexeme.readsAs (h : IsLexeme kind text cs r) : ReadsAs cs kind text r := by
  cases h with
  | number hs hr => exact hs.readsAs hr
  | name hs hkind hr => exact hs.readsAs_name hkind hr
  | reserved hs hkind hr => exact hs.readsAs_reserved hkind hr
  | quoted hquote hbody => exact hquote.readsAs hbody r
  | operator hs hc hkind hr => exact readsAs_operator hs hc hkind hr.next
  | @unclosed _ kind quote cs hquote hs hbody =>
    obtain ⟨hlayout, hlexeme⟩ := hquote.lexeme_eq cs
    have hall : cs.takeWhile (· != quote) = cs :=
      List.takeWhile_eq_self_iff.2 fun c hc => bne_iff_ne.2 fun heq => hbody (heq ▸ hc)
    refine ⟨quote, cs, hs, hlayout, ?_⟩
    rw [List.append_nil, hlexeme, Token.quoted, hall, if_neg (Nat.lt_irrefl _), ← hs,
      String.ofList_toList]
  | @stray _ c r hs hc hkind hr =>
    have htext : String.ofList [c] = text := by rw [← hs, String.ofList_toList]
    have hshort : shortOperator c = ⟨.invalid, text, 1⟩ := by
      simp only [shortOperator, htext, hkind, Option.getD_none]
    refine ⟨c, [], hs, hc.1, ?_⟩
    rw [hc.lexeme_eq]
    cases r with
    | nil => exact hshort
    | cons d r =>
      rw [hs] at hr
      have hpair : keyword? (String.ofList [c, d]) = none := hr.next d rfl
      simp only [Token.operator, List.nil_append, hpair]
      exact hshort

/-- `Starts l first rest`: with a character and what follows it there begins the lexeme of a token
with the kind and text of `l`. -/
def Starts (l : Lexeme) (first : Char) (rest : List Char) : Prop :=
  ∃ more r, rest = more ++ r ∧ IsLexeme l.kind l.text (first :: more) r

/-- A quoted span starts with its quote. -/
lemma starts_quoted (hquote : IsQuoteOf kind quote) (rest : List Char) :
    Starts (quoted kind quote rest) quote rest := by
  have hbody := notMem_takeWhile_ne quote rest
  have hspan := List.takeWhile_append_dropWhile (p := (· != quote)) (l := rest)
  unfold quoted
  dsimp only
  split
  · next hclosed =>
    obtain ⟨s, hs⟩ : ∃ s : String, s.toList = rest.takeWhile (· != quote) :=
      ⟨_, String.toList_ofList⟩
    obtain ⟨c, r, hr⟩ := List.exists_cons_of_ne_nil (l := rest.dropWhile (· != quote)) (by
      intro hnil
      rw [hnil, List.append_nil] at hspan
      rw [hspan] at hclosed
      exact absurd hclosed (Nat.lt_irrefl _))
    have hc : c = quote := by simpa using ends_dropWhile (· != quote) rest c (by simp [hr])
    subst hc
    refine ⟨s.toList ++ [c], r, ?_, ?_⟩
    · rw [← hspan, hr, hs, List.append_assoc, List.singleton_append]
    · rw [← hs, String.ofList_toList]
      exact .quoted hquote (hs ▸ hbody)
  · next hopen =>
    have hall : rest.takeWhile (· != quote) = rest :=
      (List.takeWhile_prefix _).eq_of_length_le (Nat.not_lt.1 hopen)
    obtain ⟨s, hs⟩ : ∃ s : String, s.toList = quote :: rest := ⟨_, String.toList_ofList⟩
    refine ⟨rest, [], (List.append_nil rest).symm, ?_⟩
    rw [← hs, String.ofList_toList]
    exact .unclosed hquote hs (hall ▸ hbody)

/-- A number starts with any of its characters. -/
lemma starts_number (hfirst : isNumberChar first = true) (rest : List Char) :
    Starts (number first rest) first rest := by
  obtain ⟨s, hs⟩ : ∃ s : String, s.toList = first :: rest.takeWhile isNumberChar :=
    ⟨_, String.toList_ofList⟩
  have hnumeric : Numeric s := by
    refine ⟨by simp [hs], fun c hc => ?_⟩
    rw [hs, List.mem_cons] at hc
    rcases hc with rfl | hc
    · exact hfirst
    · exact List.mem_takeWhile_imp hc
  refine ⟨rest.takeWhile isNumberChar, _, List.takeWhile_append_dropWhile.symm, ?_⟩
  rw [number, ← hs, String.ofList_toList]
  exact .number hnumeric (ends_dropWhile _ _)

/-- A word starts with a name character that is no digit. -/
lemma starts_word (hfirst : isNameChar first = true) (hdigit : first.isDigit = false)
    (rest : List Char) : Starts (word first rest) first rest := by
  obtain ⟨s, hs⟩ : ∃ s : String, s.toList = first :: rest.takeWhile isNameChar :=
    ⟨_, String.toList_ofList⟩
  have hword : IsWordText s := by
    refine ⟨by simp [hs, hdigit], ?_⟩
    rw [hs, List.all_cons, hfirst, Bool.true_and]
    exact List.all_eq_true.2 fun c hc => List.mem_takeWhile_imp hc
  refine ⟨rest.takeWhile isNameChar, _, List.takeWhile_append_dropWhile.symm, ?_⟩
  rw [word, ← hs, String.ofList_toList]
  split
  · next hkind => exact .reserved hword hkind (ends_dropWhile _ _)
  · next hkind => exact .name hword hkind (ends_dropWhile _ _)

/-- A character that does not go on is an operator or stray. -/
lemma starts_shortOperator (hc : IsOperatorChar c) (hr : NoLonger [c] r) :
    Starts (shortOperator c) c r := by
  obtain ⟨s, hs⟩ : ∃ s : String, s.toList = [c] := ⟨_, String.toList_ofList⟩
  refine ⟨[], r, rfl, ?_⟩
  rw [shortOperator, ← hs, String.ofList_toList]
  rw [← hs] at hr
  cases hkind : keyword? s with
  | none => exact .stray hs hc hkind hr
  | some kind => exact .operator hs hc hkind hr

/-- What is no blank, quote, number or word starts an operator or is stray. -/
lemma starts_operator (hc : IsOperatorChar c) (rest : List Char) :
    Starts (operator c rest) c rest := by
  cases rest with
  | nil => exact starts_shortOperator hc (noLonger_nil _)
  | cons d r =>
    rw [operator]
    split
    · next kind hkind =>
      obtain ⟨s, hs⟩ : ∃ s : String, s.toList = [c, d] := ⟨_, String.toList_ofList⟩
      have hlong : NoLonger s.toList r := hs ▸ noLonger_pair hc r
      refine ⟨[d], r, rfl, ?_⟩
      rw [← hs, String.ofList_toList] at hkind ⊢
      exact .operator hs hc hkind hlong
    · next hkind => exact starts_shortOperator hc (noLonger_singleton hc hkind r)

/-- With any character but a blank there starts the lexeme of a token. -/
theorem starts_lexeme (hlayout : isLayout first = false) (rest : List Char) :
    Starts (lexeme first rest) first rest := by
  unfold lexeme
  split
  · next h => exact starts_quoted (.inl ⟨rfl, by simpa using h⟩) rest
  split
  · next h => exact starts_quoted (.inr ⟨rfl, by simpa using h⟩) rest
  split
  · next h => exact starts_number h rest
  next hstraight hback hnumber =>
  split
  · next h =>
    have hdigit : first.isDigit = false := by
      rw [Bool.not_eq_true, isNumberChar, Bool.or_eq_false_iff] at hnumber
      exact hnumber.1
    exact starts_word h hdigit rest
  · next h =>
    refine starts_operator ⟨hlayout, ?_, by simpa using hnumber, by simpa using h⟩ rest
    simp only [Bool.or_eq_true, beq_iff_eq, not_or] at hstraight hback
    simp [hstraight, hback]

/-! ## Tiles -/

/-- `Tiles n cs ts`: after `n` characters of a text come the characters `cs`, which are runs of
blanks and the lexemes of the tokens `ts` in turn; the last token has no lexeme and stands for the
end of the text.  The place of a token is that of the first character of its lexeme, counted from
one. -/
inductive Tiles : Nat → List Char → List Token → Prop
  | done {n : Nat} {blanks : List Char} : (∀ c ∈ blanks, isLayout c = true) →
      Tiles n blanks [⟨n + blanks.length + 1, .endOfText, ""⟩]
  | token {n : Nat} {blanks cs r : List Char} {kind : Kind} {text : String} {ts : List Token} :
      (∀ c ∈ blanks, isLayout c = true) → IsLexeme kind text cs r →
      Tiles (n + blanks.length + cs.length) r ts →
      Tiles n (blanks ++ cs ++ r) (⟨n + blanks.length + 1, kind, text⟩ :: ts)

/-- Only the end of the text is of its kind. -/
lemma IsLexeme.kind_ne (h : IsLexeme kind text cs r) : kind ≠ .endOfText := by
  cases h with
  | number | name | unclosed | stray => decide
  | quoted hquote _ => rcases hquote with ⟨rfl, -⟩ | ⟨rfl, -⟩ <;> decide
  | reserved _ hkind _ => exact fun heot => keyword?_ne hkind (by simp [heot])
  | operator _ _ hkind _ => exact fun heot => keyword?_ne hkind (by simp [heot])

/-- A lexeme has characters. -/
lemma IsLexeme.length_pos (h : IsLexeme kind text cs r) : 0 < cs.length := by
  obtain ⟨first, more, rfl, -⟩ := h.readsAs
  exact Nat.succ_pos _

/-- Blanks up to the end of the text are read as that end, and nothing is read after it. -/
lemma scan_layout {blanks : List Char} (h : ∀ c ∈ blanks, isLayout c = true) (n : Nat) :
    scan ⟨n, blanks⟩ =
      (⟨n + blanks.length + 1, .endOfText, ""⟩, ⟨n + blanks.length, []⟩) := by
  have hscan := scan_append_layout h n []
  rw [List.append_nil] at hscan
  exact hscan

/-- A lexeme after blanks is read as its token. -/
lemma IsLexeme.scan_eq {blanks : List Char} (h : IsLexeme kind text cs r)
    (hblanks : ∀ c ∈ blanks, isLayout c = true) (n : Nat) :
    scan ⟨n, blanks ++ cs ++ r⟩ =
      (⟨n + blanks.length + 1, kind, text⟩, ⟨n + blanks.length + cs.length, r⟩) := by
  rw [List.append_assoc, scan_append_layout hblanks, h.readsAs.scan_eq]

/-- **What one scan does**: it reads blanks up to the end of the text, or blanks and a lexeme. -/
theorem scan_cases (c : Cursor) :
    ((∀ d ∈ c.rest, isLayout d = true) ∧ scan c =
      (⟨c.offset + c.rest.length + 1, .endOfText, ""⟩, ⟨c.offset + c.rest.length, []⟩)) ∨
    ∃ blanks cs r kind text, c.rest = blanks ++ cs ++ r ∧ (∀ d ∈ blanks, isLayout d = true) ∧
      IsLexeme kind text cs r ∧ scan c =
        (⟨c.offset + blanks.length + 1, kind, text⟩,
          ⟨c.offset + blanks.length + cs.length, r⟩) := by
  obtain ⟨n, cs⟩ := c
  have hsplit := List.takeWhile_append_dropWhile (p := isLayout) (l := cs)
  cases hrest : cs.dropWhile isLayout with
  | nil =>
    have hlayout := List.dropWhile_eq_nil_iff.1 hrest
    exact .inl ⟨hlayout, scan_layout hlayout n⟩
  | cons first rest =>
    have hfirst : isLayout first = false := ends_dropWhile isLayout cs first (by rw [hrest]; rfl)
    have hblanks : ∀ d ∈ cs.takeWhile isLayout, isLayout d = true := fun d hd =>
      List.mem_takeWhile_imp hd
    obtain ⟨more, r, hmore, hlexeme⟩ := starts_lexeme hfirst rest
    have hcs : cs = cs.takeWhile isLayout ++ (first :: more) ++ r := by
      rw [List.append_assoc, List.cons_append, ← hmore, ← hrest, hsplit]
    refine .inr ⟨_, first :: more, r, _, _, hcs, hblanks, hlexeme, ?_⟩
    have hscan := hlexeme.scan_eq hblanks n
    rwa [← hcs] at hscan

/-- The tokens that a text is scanned into tile it. -/
theorem tiles_scanAll (c : Cursor) : Tiles c.offset c.rest (scanAll c) := by
  induction c using scanAll.induct with
  | case1 c heot =>
    rw [scanAll, if_pos heot]
    obtain ⟨hlayout, hscan⟩ | ⟨_, _, _, _, _, -, -, hlexeme, hscan⟩ := scan_cases c
    · rw [hscan]
      exact .done hlayout
    · rw [hscan] at heot
      exact absurd heot hlexeme.kind_ne
  | case2 c hne ih =>
    rw [scanAll, if_neg hne]
    obtain ⟨-, hscan⟩ | ⟨_, _, _, _, _, hrest, hblanks, hlexeme, hscan⟩ := scan_cases c
    · rw [hscan] at hne
      exact absurd rfl hne
    · rw [hscan] at ih ⊢
      exact hrest ▸ .token hblanks hlexeme ih

variable {ts : List Token}

/-- The tokens that tile a text are those that it is scanned into. -/
theorem Tiles.eq_scanAll (h : Tiles n cs ts) : ts = scanAll ⟨n, cs⟩ := by
  induction h with
  | done hblanks => rw [scanAll, scan_layout hblanks, if_pos rfl]
  | token hblanks hlexeme _ ih =>
    rw [scanAll, hlexeme.scan_eq hblanks, if_neg hlexeme.kind_ne, ih]

/-- The end of the text is the last token and no other. -/
lemma Tiles.exists_eq_append (h : Tiles n cs ts) :
    ∃ us, ts = us ++ [⟨n + cs.length + 1, .endOfText, ""⟩] ∧ ∀ t ∈ us, t.kind ≠ .endOfText := by
  induction h with
  | done _ => exact ⟨[], rfl, nofun⟩
  | @token n blanks cs r kind text ts _ hlexeme _ ih =>
    obtain ⟨us, rfl, hus⟩ := ih
    refine ⟨⟨n + blanks.length + 1, kind, text⟩ :: us, ?_, ?_⟩
    · simp only [List.length_append, List.cons_append, Nat.add_assoc]
    · exact List.forall_mem_cons.2 ⟨hlexeme.kind_ne, hus⟩

/-- All tokens stand after what was read before them. -/
lemma Tiles.lt_pos (h : Tiles n cs ts) : ∀ t ∈ ts, n < t.pos := by
  induction h with
  | done _ =>
    intro t ht
    rw [List.mem_singleton.1 ht]
    exact Nat.lt_succ_of_le (Nat.le_add_right _ _)
  | token _ _ _ ih =>
    refine List.forall_mem_cons.2 ⟨Nat.lt_succ_of_le (Nat.le_add_right _ _), fun t ht => ?_⟩
    have := ih t ht
    omega

/-- The places of the tokens increase. -/
lemma Tiles.pairwise_pos (h : Tiles n cs ts) : ts.Pairwise (·.pos < ·.pos) := by
  induction h with
  | done _ => exact List.pairwise_singleton _ _
  | token _ hlexeme htiles ih =>
    refine List.pairwise_cons.2 ⟨fun t ht => ?_, ih⟩
    have hpos := hlexeme.length_pos
    have hlt := htiles.lt_pos t ht
    dsimp only
    omega

/-! ## Reading one token at a time -/

/-- After the end of the text the same token is read again and again. -/
lemma iterate_next_end (n k : Nat) (t : Token) :
    (Stream.next^[k + 1] ⟨t, ⟨n, []⟩⟩).current = ⟨n + 1, .endOfText, ""⟩ := by
  induction k generalizing t with
  | zero => rfl
  | succ k ih => exact ih _

/-- The tokens that tile a text are those that are read one at a time, and after the last of them
the end of the text is read. -/
lemma Tiles.current_iterate_next (h : Tiles n cs ts) (t : Token) (k : Nat) :
    (Stream.next^[k + 1] ⟨t, ⟨n, cs⟩⟩).current =
      ts.getD k ⟨n + cs.length + 1, .endOfText, ""⟩ := by
  induction h generalizing t k with
  | @done n blanks hblanks =>
    have hnext : Stream.next ⟨t, ⟨n, blanks⟩⟩ =
        ⟨⟨n + blanks.length + 1, .endOfText, ""⟩, ⟨n + blanks.length, []⟩⟩ := by
      rw [Stream.next, scan_layout hblanks]
    rw [Function.iterate_succ_apply, hnext]
    cases k with
    | zero => rfl
    | succ k => exact iterate_next_end _ k _
  | @token n blanks cs r kind text ts hblanks hlexeme _ ih =>
    have hnext : Stream.next ⟨t, ⟨n, blanks ++ cs ++ r⟩⟩ =
        ⟨⟨n + blanks.length + 1, kind, text⟩, ⟨n + blanks.length + cs.length, r⟩⟩ := by
      rw [Stream.next, hlexeme.scan_eq hblanks]
    rw [Function.iterate_succ_apply, hnext]
    cases k with
    | zero => rfl
    | succ k =>
      rw [ih, List.getD_cons_succ, List.length_append, List.length_append]
      simp only [Nat.add_assoc]

/-- **The tokens of a text tile it, and no others do.**  The last of them, and only the last, is the
end of the text, which stands after the last character; whoever reads the text one token at a time
reads these tokens and then the end of the text for ever; their places increase; and the lexemes of
the tokens with the blanks between them are the whole text. -/
theorem tokenize_tiles (s : String) :
    let eot : Token := ⟨s.length + 1, .endOfText, ""⟩
    (∃ ts, tokenize s = ts ++ [eot] ∧ ∀ t ∈ ts, t.kind ≠ .endOfText) ∧
      (∀ k, (Stream.next^[k + 1] (.ofString s)).current = (tokenize s).getD k eot) ∧
      (tokenize s).Pairwise (·.pos < ·.pos) ∧
      ∀ ts, Tiles 0 s.toList ts ↔ ts = tokenize s := by
  intro eot
  have htiles : Tiles 0 s.toList (tokenize s) := tiles_scanAll (.ofString s)
  have heot : (⟨0 + s.toList.length + 1, .endOfText, ""⟩ : Token) = eot := by
    rw [Nat.zero_add, String.length_toList]
  refine ⟨?_, fun k => ?_, htiles.pairwise_pos, fun ts => ⟨Tiles.eq_scanAll, ?_⟩⟩
  · exact heot ▸ htiles.exists_eq_append
  · exact heot ▸ htiles.current_iterate_next .blank k
  · rintro rfl
    exact htiles

end ChartQuery.Token
