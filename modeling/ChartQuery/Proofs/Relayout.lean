import ChartQuery.Proofs.SyntaxErrors

/-!
# Layout and the case of reserved words

More blanks before, between and after the tokens of a text, and other cases in its reserved words,
leave the kinds and texts of its tokens as they are.  What follows a lexeme decides where it ends,
but only by its first character: this stays the same but for its case, or becomes a blank, and
neither prolongs a number, a word or an operator.  As the readers of clauses look at kinds and texts
only, such a text is read as the same query.
-/

namespace ChartQuery

namespace Token

/-! ## Cases of characters -/

section Case

variable {c c' : Char}

/-- The letters by their code points. -/
lemma isAlpha_iff : c.isAlpha = true ↔
    65 ≤ c.toNat ∧ c.toNat ≤ 90 ∨ 97 ≤ c.toNat ∧ c.toNat ≤ 122 := by
  delta Char.isAlpha Char.isUpper Char.isLower
  rw [Bool.or_eq_true, Bool.and_eq_true]
  simp only [decide_eq_true_eq, ge_iff_le, UInt32.le_iff_toNat_le]
  rfl

/-- The digits by their code points. -/
lemma isDigit_iff : c.isDigit = true ↔ 48 ≤ c.toNat ∧ c.toNat ≤ 57 := by
  delta Char.isDigit
  simp only [decide_eq_true_eq, Bool.and_eq_true, ge_iff_le, UInt32.le_iff_toNat_le]
  rfl

/-- In lower case an upper-case letter moves by 32, and anything else stays as it is. -/
lemma toLower_cases (c : Char) :
    (65 ≤ c.toNat ∧ c.toNat ≤ 90) ∧ c.toLower.toNat = c.toNat + 32 ∨
      ¬ (65 ≤ c.toNat ∧ c.toNat ≤ 90) ∧ c.toLower = c := by
  have hupper : (c.val ≥ 'A'.val ∧ c.val ≤ 'Z'.val) ↔ 65 ≤ c.toNat ∧ c.toNat ≤ 90 := by
    rw [ge_iff_le, UInt32.le_iff_toNat_le, UInt32.le_iff_toNat_le]
    rfl
  rw [← hupper]
  by_cases h : c.val ≥ 'A'.val ∧ c.val ≤ 'Z'.val
  · have hlower : c.toLower.val = c.val + 32 := congrArg Char.val (dif_pos h)
    have hlt : c.val.toNat ≤ 90 := (hupper.1 h).2
    have hsum : (c.val + 32).toNat = c.val.toNat + 32 := by
      rw [UInt32.toNat_add, show (32 : UInt32).toNat = 32 from rfl]
      exact Nat.mod_eq_of_lt (by omega)
    exact .inl ⟨h, (congrArg UInt32.toNat hlower).trans hsum⟩
  · exact .inr ⟨h, dif_neg h⟩

/-- In lower case a character does not change any more. -/
lemma toLower_toLower (c : Char) : c.toLower.toLower = c.toLower := by
  obtain ⟨hc, hlower⟩ | ⟨hc, hlower⟩ := toLower_cases c
  · obtain ⟨hc', -⟩ | ⟨-, hlower'⟩ := toLower_cases c.toLower
    · omega
    · exact hlower'
  · rw [hlower, hlower]

/-- Only letters differ in their case. -/
lemma eq_or_isAlpha_of_toLower_eq (h : c'.toLower = c.toLower) :
    c' = c ∨ c'.isAlpha = true ∧ c.isAlpha = true := by
  rw [isAlpha_iff, isAlpha_iff]
  have hcode := congrArg Char.toNat h
  obtain ⟨hc, hlower⟩ | ⟨hc, hlower⟩ := toLower_cases c <;>
    obtain ⟨hc', hlower'⟩ | ⟨hc', hlower'⟩ := toLower_cases c'
  · exact .inr ⟨.inl hc', .inl hc⟩
  · rw [hlower'] at hcode
    exact .inr ⟨.inr (by omega), .inl hc⟩
  · rw [hlower] at hcode
    exact .inr ⟨.inl hc', .inr (by omega)⟩
  · rw [hlower, hlower'] at h
    exact .inl h

/-- What has no letters is not spelled in another case. -/
lemma eq_of_map_toLower_eq {cs cs' : List Char} (hcs : ∀ c ∈ cs, c.isAlpha = false)
    (h : cs'.map Char.toLower = cs.map Char.toLower) : cs' = cs := by
  induction cs generalizing cs' with
  | nil => exact List.map_eq_nil_iff.1 h
  | cons c cs ih =>
    obtain ⟨c', cs', rfl, hc, hrest⟩ := List.map_eq_cons_iff.1 h
    obtain ⟨hletter, hletters⟩ := List.forall_mem_cons.1 hcs
    obtain rfl | ⟨-, halpha⟩ := eq_or_isAlpha_of_toLower_eq hc
    · rw [ih hletters hrest]
    · exact absurd halpha (by simp [hletter])

/-- An operator has no letters. -/
lemma isAlpha_of_operator {s : String} {kind : Kind} {cs : List Char} (h : keyword? s = some kind)
    (hs : s.toList = c :: cs) (hc : IsOperatorChar c) : ∀ d ∈ s.toList, d.isAlpha = false := by
  have hall : ∀ p ∈ spellings, isNameChar (p.1.toList.headD ' ') = false →
      p.1.toList.all (!·.isAlpha) = true := by
    decide
  have hletters := List.all_eq_true.1 (hall _ (mem_spellings h) (hs ▸ hc.2.2.2))
  exact fun d hd => by simpa using hletters d hd

/-- No letter is a digit. -/
lemma isDigit_eq_false_of_isAlpha (h : c.isAlpha = true) : c.isDigit = false := by
  rw [isAlpha_iff] at h
  rw [Bool.eq_false_iff, ne_eq, isDigit_iff]
  omega

/-- The characters of a name do not depend on their case. -/
lemma isNameChar_eq_of_toLower_eq (h : c'.toLower = c.toLower) : isNameChar c' = isNameChar c := by
  obtain rfl | ⟨hc', hc⟩ := eq_or_isAlpha_of_toLower_eq h
  · rfl
  · simp [isNameChar, Char.isAlphanum, hc, hc']

/-- Neither do digits. -/
lemma isDigit_eq_of_toLower_eq (h : c'.toLower = c.toLower) : c'.isDigit = c.isDigit := by
  obtain rfl | ⟨hc', hc⟩ := eq_or_isAlpha_of_toLower_eq h
  · rfl
  · rw [isDigit_eq_false_of_isAlpha hc, isDigit_eq_false_of_isAlpha hc']

/-- Neither do the characters of a number. -/
lemma isNumberChar_eq_of_toLower_eq (h : c'.toLower = c.toLower) :
    isNumberChar c' = isNumberChar c := by
  obtain rfl | ⟨hc', hc⟩ := eq_or_isAlpha_of_toLower_eq h
  · rfl
  · have hpoint : ∀ d : Char, d.isAlpha = true → (d == '.') = false := by
      intro d hd
      refine beq_eq_false_iff_ne.2 ?_
      rintro rfl
      exact absurd hd (by decide)
    rw [isNumberChar, isNumberChar, isDigit_eq_of_toLower_eq h, hpoint c hc, hpoint c' hc']

end Case

/-! ## Other layout -/

/-- `Respelled kind text cs cs'`: a token with this kind and text is spelled `cs'` in place of `cs`,
which is the same or, if it is a reserved word or an operator, differs in the case of letters. -/
def Respelled (kind : Kind) (text : String) (cs cs' : List Char) : Prop :=
  cs' = cs ∨ keyword? text = some kind ∧ cs'.map Char.toLower = cs.map Char.toLower

/-- `Relaid cs cs'`: the characters `cs'` are `cs` with more blanks before, between and after the
lexemes, and with reserved words in other cases. -/
inductive Relaid : List Char → List Char → Prop
  | done {blanks blanks' : List Char} : blanks.Sublist blanks' →
      (∀ c ∈ blanks', isLayout c = true) → Relaid blanks blanks'
  | token {blanks blanks' cs cs' r r' : List Char} {kind : Kind} {text : String} :
      blanks.Sublist blanks' → (∀ c ∈ blanks', isLayout c = true) → IsLexeme kind text cs r →
      Respelled kind text cs cs' → Relaid r r' → Relaid (blanks ++ cs ++ r) (blanks' ++ cs' ++ r')

variable {cs cs' r r' : List Char} {kind : Kind} {text : String}

/-- The spelling begins with another case of the same character. -/
lemma Respelled.exists_cons (h : Respelled kind text cs cs') {c' : Char} {rest' : List Char}
    (hcs' : cs' = c' :: rest') : ∃ c rest, cs = c :: rest ∧ c'.toLower = c.toLower := by
  obtain rfl | ⟨-, hlower⟩ := h
  · exact ⟨c', rest', hcs', rfl⟩
  · rw [hcs', List.map_cons] at hlower
    obtain ⟨c, rest, hcs, hc, -⟩ := List.map_eq_cons_iff.1 hlower.symm
    exact ⟨c, rest, hcs, hc.symm⟩

/-- The first character becomes a blank, or another case of it. -/
lemma Relaid.head? (h : Relaid r r') :
    ∀ c' ∈ r'.head?, isLayout c' = true ∨ ∃ c ∈ r.head?, c'.toLower = c.toLower := by
  intro c' hc'
  cases h with
  | done _ hlayout => exact .inl (hlayout c' (List.mem_of_mem_head? hc'))
  | @token blanks blanks' cs cs' r r' kind text hsub hlayout hlexeme hspelled _ =>
    cases blanks' with
    | cons b blanks' =>
      obtain rfl : b = c' := Option.some.inj hc'
      exact .inl (hlayout b List.mem_cons_self)
    | nil =>
      obtain rfl := List.sublist_nil.1 hsub
      obtain ⟨first, more, rfl, -⟩ := hlexeme.readsAs
      cases cs' with
      | nil =>
        obtain h | ⟨-, h⟩ := hspelled <;> cases h
      | cons d cs' =>
        obtain rfl : d = c' := Option.some.inj hc'
        obtain ⟨c, rest, hcs, hlower⟩ := hspelled.exists_cons rfl
        cases hcs
        exact .inr ⟨_, rfl, hlower⟩

/-- What does not begin with a character of a class does not do so with other layout either, if the
class holds no blank and does not depend on the case. -/
lemma Relaid.ends {p : Char → Bool} (h : Relaid r r')
    (hlayout : ∀ {c : Char}, isLayout c = true → p c = false)
    (hcase : ∀ {c c'}, c'.toLower = c.toLower → p c' = p c) (hr : Ends p r) : Ends p r' := by
  intro c' hc'
  obtain hblank | ⟨c, hc, hlower⟩ := h.head? c' hc'
  · exact hlayout hblank
  · exact (hcase hlower).trans (hr c hc)

/-- No blank is a character of a name or a number. -/
lemma breaks_of_isLayout {c : Char} (h : isLayout c = true) :
    isNameChar c = false ∧ isNumberChar c = false := by
  simp only [isLayout, Bool.or_eq_true, beq_iff_eq] at h
  rcases h with ((rfl | rfl) | rfl) | rfl <;> decide

/-- An operator is not lengthened by other layout. -/
lemma Relaid.noLonger (h : Relaid r r') {c : Char} {cs : List Char} (hc : IsOperatorChar c)
    (hr : NoLonger (c :: cs) r) : NoLonger (c :: cs) r' := by
  intro more hne hmore
  by_cases hlong : 2 ≤ (cs ++ more).length
  · exact keyword?_eq_none_of_length hc.2.2.2 hlong
  -- only a single character can be lengthened, by a single one
  obtain ⟨d', rest, rfl⟩ := List.exists_cons_of_ne_nil hne
  simp only [List.length_append, List.length_cons] at hlong
  obtain rfl : rest = [] := List.eq_nil_of_length_eq_zero (by omega)
  obtain rfl : cs = [] := List.eq_nil_of_length_eq_zero (by omega)
  by_contra hsome
  obtain ⟨kind, hkind⟩ := Option.ne_none_iff_exists'.1 hsome
  obtain ⟨-, hd'⟩ := keyword?_pair hkind hc.2.2.2
  have hhead : d' ∈ r'.head? := by
    obtain ⟨rest, rfl⟩ := hmore
    rfl
  have hletter : d'.isAlpha = false ∧ isLayout d' = false := by
    simp only [List.mem_cons, List.not_mem_nil, or_false] at hd'
    rcases hd' with rfl | rfl <;> decide
  obtain hblank | ⟨d, hd, hlower⟩ := h.head? d' hhead
  · exact absurd hblank (by simp [hletter.2])
  · obtain rfl | ⟨halpha, -⟩ := eq_or_isAlpha_of_toLower_eq hlower
    · exact hsome (hr.next d' hd)
    · exact absurd halpha (by simp [hletter.1])

/-- A word in other cases is a word. -/
lemma IsWordText.recased {s s' : String} (hs : IsWordText s)
    (h : s'.toList.map Char.toLower = s.toList.map Char.toLower) : IsWordText s' := by
  have hdigit (c : Char) : c.toLower.isDigit = c.isDigit :=
    isDigit_eq_of_toLower_eq (toLower_toLower c)
  have hname : isNameChar ∘ Char.toLower = isNameChar := funext fun c =>
    isNameChar_eq_of_toLower_eq (toLower_toLower c)
  have hhead (cs : List Char) : (cs.head?.any fun c => !c.isDigit) =
      (cs.map Char.toLower).head?.any fun c => !c.isDigit := by
    simp only [List.head?_map, Option.any_map, hdigit]
  have hall (cs : List Char) : cs.all isNameChar = (cs.map Char.toLower).all isNameChar := by
    rw [List.all_map, hname]
  rwa [IsWordText, hhead, hall, h, ← hhead, ← hall]

/-- A lexeme stays the lexeme of its token with other layout after it and in another spelling. -/
lemma IsLexeme.relaid (hlexeme : IsLexeme kind text cs r) (hvalid : kind ≠ .invalid)
    (hspelled : Respelled kind text cs cs') (h : Relaid r r') : IsLexeme kind text cs' r' := by
  have hname : Ends isNameChar r → Ends isNameChar r' :=
    h.ends (fun hc => (breaks_of_isLayout hc).1) isNameChar_eq_of_toLower_eq
  have hunreserved : kind ∈ [Kind.string, .number, .identifier] → cs' = cs := fun hkind =>
    hspelled.resolve_right fun hreserved => keyword?_ne hreserved.1
      (List.mem_append_left [Kind.endOfText, .invalid] hkind)
  cases hlexeme with
  | number hs hr =>
    rw [hunreserved (by decide)]
    exact .number hs (h.ends (fun hc => (breaks_of_isLayout hc).2) isNumberChar_eq_of_toLower_eq hr)
  | name hs hkind hr =>
    rw [hunreserved (by decide)]
    exact .name hs hkind (hname hr)
  | @reserved s _ _ hs hkind hr =>
    obtain ⟨s', rfl⟩ : ∃ s' : String, s'.toList = cs' := ⟨_, String.toList_ofList⟩
    have hcase : s'.toList.map Char.toLower = s.toList.map Char.toLower := by
      obtain hsame | ⟨-, hcase⟩ := hspelled
      · rw [hsame]
      · exact hcase
    have hlower : s'.toLower = s.toLower := toLower_eq (hcase.trans (String.toList_map ..).symm)
    rw [← hlower] at hkind ⊢
    exact .reserved (hs.recased hcase) hkind (hname hr)
  | quoted hquote hbody =>
    rw [hunreserved (by rcases hquote with ⟨rfl, -⟩ | ⟨rfl, -⟩ <;> decide)]
    exact .quoted hquote hbody
  | @operator _ c cs _ _ hs hc hkind hr =>
    obtain rfl : cs' = text.toList := by
      obtain hsame | ⟨-, hcase⟩ := hspelled
      · exact hsame
      · exact eq_of_map_toLower_eq (isAlpha_of_operator hkind hs hc) hcase
    exact .operator hs hc hkind (hs ▸ h.noLonger hc (hs ▸ hr))
  | unclosed | stray => exact absurd rfl hvalid

/-- A lexeme after blanks is the first token. -/
lemma IsLexeme.scanAll_eq {blanks : List Char} (h : IsLexeme kind text cs r)
    (hblanks : ∀ c ∈ blanks, isLayout c = true) (n : Nat) :
    scanAll ⟨n, blanks ++ cs ++ r⟩ =
      ⟨n + blanks.length + 1, kind, text⟩ :: scanAll ⟨n + blanks.length + cs.length, r⟩ := by
  rw [scanAll, h.scan_eq hblanks, if_neg h.kind_ne]

/-- Relaid texts have the same tokens but for their places, if all of them are valid. -/
theorem Relaid.map_content_scanAll (h : Relaid r r') (n n' : Nat)
    (hvalid : ∀ t ∈ scanAll ⟨n, r⟩, t.kind ≠ .invalid) :
    (scanAll ⟨n', r'⟩).map content = (scanAll ⟨n, r⟩).map content := by
  induction h generalizing n n' with
  | done hsub hlayout =>
    rw [scanAll, scan_layout hlayout, if_pos rfl, scanAll,
      scan_layout fun c hc => hlayout c (hsub.subset hc), if_pos rfl]
    rfl
  | token hsub hlayout hlexeme hspelled hrest ih =>
    rw [hlexeme.scanAll_eq fun c hc => hlayout c (hsub.subset hc)] at hvalid ⊢
    obtain ⟨hkind, hvalid⟩ := List.forall_mem_cons.1 hvalid
    rw [(hlexeme.relaid hkind hspelled hrest).scanAll_eq hlayout, List.map_cons, List.map_cons,
      ih _ _ hvalid]
    rfl

end Token

namespace Query

open Token (content tokenize)

/-- Clauses do not depend on the places of the tokens. -/
lemma clauses_of_map_content {text text' : String} {c : Clauses}
    (h : clauses (tokenize text) = .ok c)
    (hcontent : (∀ t ∈ tokenize text, t.kind ≠ .invalid) →
      (tokenize text').map content = (tokenize text).map content) :
    clauses (tokenize text') = .ok c := by
  obtain ⟨phrase, t, us, htext, hread, hkind, hcopy⟩ := exists_phrase h
  obtain rfl := Token.eq_nil_of_endOfText hkind _ (htext ▸ List.suffix_append phrase (t :: us))
  have hvalid : ∀ u ∈ tokenize text, u.kind ≠ .invalid := by
    rw [htext, List.forall_mem_append, List.forall_mem_singleton, hkind]
    refine ⟨fun u hu heq => ?_, by decide⟩
    exact absurd (heq ▸ hread u hu) (show ¬ Token.Kind.invalid.Readable by decide)
  have hmap := hcontent hvalid
  rw [htext, List.map_append] at hmap
  obtain ⟨phrase', last, htext', hphrase, hlast⟩ := List.map_eq_append_iff.1 hmap
  obtain ⟨t', us', rfl, ht', -⟩ := List.map_eq_cons_iff.1 hlast
  rw [htext']
  exact hcopy phrase' t' us' hphrase ht'

/-- **Layout and the case of reserved words do not matter.**  With more blanks before, between and
after its tokens, and with reserved words in other cases, a text that is read as a query is read as
the same query. -/
theorem parse_of_relaid {text text' : String} {extended : Bool} {q : Query}
    (h : parse text extended = .ok q) (hrelaid : Token.Relaid text.toList text'.toList) :
    parse text' extended = .ok q := by
  obtain ⟨q₀, hq₀, hcheck⟩ := bind_eq_ok.1 h
  obtain ⟨c, hc, hquery⟩ := bind_eq_ok.1 hq₀
  have hc' : clauses (tokenize text') = .ok c :=
    clauses_of_map_content hc fun hvalid => hrelaid.map_content_scanAll 0 0 hvalid
  exact bind_eq_ok.2 ⟨q₀, bind_eq_ok.2 ⟨c, hc', hquery⟩, hcheck⟩

/-- A filter in upper case and on a line of its own, with blanks around the comparison sign. -/
theorem parse_of_relaid_where :
    ∃ q, parse "where a<1" false = .ok q ∧ parse "WHERE a\t< 1\n" false = .ok q := by
  obtain ⟨q, hq, -⟩ := exists_eq_ok (parse "where a<1" false) (fun _ => true) (by decide +kernel)
  refine ⟨q, hq, parse_of_relaid hq ?_⟩
  change Token.Relaid
    ([] ++ "where".toList ++ ([' '] ++ "a".toList ++
      ([] ++ "<".toList ++ ([] ++ "1".toList ++ []))))
    ([] ++ "WHERE".toList ++ ([' '] ++ "a".toList ++
      (['\t'] ++ "<".toList ++ ([' '] ++ "1".toList ++ ['\n']))))
  have hwhere : Token.keyword? "where".toLower = some .kwWhere := by decide +kernel
  have hone : Token.Numeric "1" := ⟨by decide, List.forall_mem_singleton.2 rfl⟩
  have hblank {c : Char} (hc : Token.isLayout c = true) : ∀ d ∈ [c], Token.isLayout d = true :=
    List.forall_mem_singleton.2 hc
  refine .token (.refl _) nofun (.reserved (by decide) hwhere fun c hc => ?space)
    (.inr ⟨hwhere, by decide⟩) ?_
  case space =>
    cases hc
    decide
  refine .token (.refl _) (hblank rfl) (.name (by decide) (by decide +kernel) fun c hc => ?sign)
    (.inl rfl) ?_
  case sign =>
    cases hc
    decide
  refine .token (List.nil_sublist _) (hblank rfl) (.operator (c := '<') rfl (by decide) rfl
    (Token.noLonger_singleton (by decide) (by decide +kernel) _)) (.inl rfl) ?_
  refine .token (List.nil_sublist _) (hblank rfl) (.number hone nofun) (.inl rfl) ?_
  exact .done (List.nil_sublist _) (hblank rfl)

end Query

end ChartQuery
