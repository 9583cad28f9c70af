import ChartQuery.Expr.Printer
import Mathlib.Data.List.TakeWhile
import Mathlib.Logic.Relation
import Mathlib.Tactic.Common

/-!
# Tokens and the texts that they are written as

The first part says what all tokens of a text have in common: the last of them stands for the end of
the text, and each has a text that its kind allows (`Genuine`).

The second part goes the other way.  `Writes s rule r` says that the text `s`, wherever it stands
and if `r` follows it, is scanned into a phrase of `rule`, and that scanning then goes on with `r`.
What may follow matters only where the end of a token is not marked: a word or a number ends where
its characters end (`Breaks`), and an operator must not grow by its next character (`NoPair`).
-/

namespace ChartQuery.Token

/-! ## Reserved words -/

/-- The reserved words and operators with their kinds. -/
def spellings : List (String × Kind) :=
  [("and", .kwAnd), ("asc", .kwAsc), ("by", .kwBy), ("date", .kwDate), ("datetime", .kwDateTime),
    ("desc", .kwDesc), ("false", .kwFalse), ("format", .kwFormat), ("group", .kwGroup),
    ("label", .kwLabel), ("limit", .kwLimit), ("not", .kwNot), ("offset", .kwOffset),
    ("options", .kwOptions), ("or", .kwOr), ("order", .kwOrder), ("pivot", .kwPivot),
    ("select", .kwSelect), ("timeofday", .kwTimeOfDay), ("timestamp", .kwTimestamp),
    ("true", .kwTrue), ("where", .kwWhere), ("=", .eq), ("!=", .ne), ("<>", .ne), ("<", .lt),
    ("<=", .le), (">", .gt), (">=", .ge), ("-", .minus), ("+", .plus), ("*", .times), ("/", .div),
    ("(", .lparen), (")", .rparen), (",", .comma)]

/-- Only the words of the list are reserved. -/
lemma mem_spellings {s : String} {kind : Kind} (h : keyword? s = some kind) :
    (s, kind) ∈ spellings := by
  unfold keyword? at h
  split at h <;> cases h <;> simp [spellings]

/-- No reserved word is of a kind that has no spelling of its own. -/
lemma keyword?_ne {s : String} {kind : Kind} (h : keyword? s = some kind) :
    kind ∉ [Kind.string, .number, .identifier, .endOfText, .invalid] := by
  have hall : ∀ p ∈ spellings,
      p.2 ∉ [Kind.string, .number, .identifier, .endOfText, .invalid] := by decide
  exact hall _ (mem_spellings h)

/-- An operator of two characters begins with one of three characters and ends in one of two. -/
lemma keyword?_pair {a b : Char} {kind : Kind} (h : keyword? (String.ofList [a, b]) = some kind)
    (ha : isNameChar a = false) : a ∈ ['!', '<', '>'] ∧ b ∈ ['=', '>'] := by
  have hall : ∀ p ∈ spellings, p.1.toList.length = 2 →
      isNameChar (p.1.toList.headD ' ') = false →
        p.1.toList.headD ' ' ∈ ['!', '<', '>'] ∧ p.1.toList.getLastD ' ' ∈ ['=', '>'] := by
    decide
  have hpair : (String.ofList [a, b]).toList = [a, b] := String.toList_ofList
  have hspelled := hall _ (mem_spellings h)
  dsimp only at hspelled
  rw [hpair] at hspelled
  exact hspelled rfl ha

/-- Operators have at most two characters. -/
lemma keyword?_eq_none_of_length {c : Char} {cs : List Char} (hc : isNameChar c = false)
    (hlength : 2 ≤ cs.length) : keyword? (String.ofList (c :: cs)) = none := by
  have hall : ∀ p ∈ spellings, isNameChar (p.1.toList.headD ' ') = false →
      p.1.toList.length ≤ 2 := by
    decide
  by_contra hsome
  obtain ⟨kind, hkind⟩ := Option.ne_none_iff_exists'.1 hsome
  have hshort := hall _ (mem_spellings hkind)
  simp only [String.toList_ofList, List.headD_cons, List.length_cons] at hshort
  have := hshort hc
  omega

/-! ## Genuine tokens -/

/-- The texts that can stand between quotes: they hold one sort of straight quote at most. -/
def Quotable (text : String) : Prop := '\x27' ∉ text.toList ∨ '\x22' ∉ text.toList

/-- The names that can be written: they hold no back quote. -/
def Nameable (name : String) : Prop := '\x60' ∉ name.toList

/-- The texts that are numbers: digits and points, at least one. -/
def Numeric (text : String) : Prop :=
  text.toList ≠ [] ∧ ∀ c ∈ text.toList, isNumberChar c = true

/-- Whether a token can come from a text: strings, names and numbers are of their form, and a
reserved word or operator is spelled like one of its kind. -/
def Genuine (t : Token) : Prop :=
  match t.kind with
  | .string => Quotable t.text
  | .number => Numeric t.text
  | .identifier => Nameable t.text
  | .endOfText | .invalid => True
  | kind => keyword? t.text = some kind

/-- A genuine name can be written. -/
lemma nameable_of_genuine {t : Token} (h : t.Genuine) (ht : t.kind = .identifier) :
    Nameable t.text := by
  simpa [Genuine, ht] using h

/-- A genuine string can be written. -/
lemma quotable_of_genuine {t : Token} (h : t.Genuine) (ht : t.kind = .string) :
    Quotable t.text := by
  simpa [Genuine, ht] using h

/-- A token spelled like a reserved word is genuine. -/
lemma genuine_of_keyword {t : Token} (h : keyword? t.text = some t.kind) : t.Genuine := by
  have hne := keyword?_ne h
  unfold Genuine
  split <;> simp_all

/-- A quoted span holds no quote of its own. -/
lemma notMem_takeWhile_ne (q : Char) (cs : List Char) : q ∉ cs.takeWhile (· != q) := by
  intro h
  simpa using List.mem_takeWhile_imp h

/-- The quotes of a kind of token: straight quotes of either sort for strings, back quotes for
names. -/
def IsQuoteOf (kind : Kind) (quote : Char) : Prop :=
  kind = .string ∧ quote ∈ ['\x27', '\x22'] ∨ kind = .identifier ∧ quote = '\x60'

/-- A quoted span gives a genuine token. -/
lemma genuine_quoted {kind : Kind} {quote : Char} (rest : List Char) (pos : Nat)
    (h : IsQuoteOf kind quote) :
    (⟨pos, (quoted kind quote rest).kind, (quoted kind quote rest).text⟩ : Token).Genuine := by
  have hbody := notMem_takeWhile_ne quote rest
  unfold quoted
  dsimp only
  split
  · rcases h with ⟨rfl, hquote⟩ | ⟨rfl, rfl⟩
    · have : quote = '\x27' ∨ quote = '\x22' := by simpa using hquote
      rcases this with rfl | rfl <;> simp [Genuine, Quotable, hbody]
    · simp [Genuine, Nameable, hbody]
  · simp [Genuine]

/-- A word gives a genuine token. -/
lemma genuine_word {first : Char} (hfirst : isNameChar first = true) (rest : List Char)
    (pos : Nat) : (⟨pos, (word first rest).kind, (word first rest).text⟩ : Token).Genuine := by
  unfold word
  dsimp only
  split
  · next kind hkind => exact genuine_of_keyword hkind
  · have hmore : '\x60' ∉ rest.takeWhile isNameChar := fun h =>
      absurd (List.mem_takeWhile_imp h) (by decide)
    have hne : '\x60' ≠ first := by
      rintro rfl
      exact absurd hfirst (by decide)
    simp [Genuine, Nameable, hne, hmore]

/-- An operator gives a genuine token. -/
lemma genuine_operator (first : Char) (rest : List Char) (pos : Nat) :
    (⟨pos, (operator first rest).kind, (operator first rest).text⟩ : Token).Genuine := by
  have hshort :
      (⟨pos, (shortOperator first).kind, (shortOperator first).text⟩ : Token).Genuine := by
    unfold shortOperator
    dsimp only
    cases hkind : keyword? (String.ofList [first]) with
    | none => simp [Genuine]
    | some kind => exact genuine_of_keyword hkind
  unfold operator
  split
  · exact hshort
  · dsimp only
    split
    · next kind hkind => exact genuine_of_keyword hkind
    · exact hshort

/-- What begins with a character gives a genuine token. -/
lemma genuine_lexeme (first : Char) (rest : List Char) (pos : Nat) :
    (⟨pos, (lexeme first rest).kind, (lexeme first rest).text⟩ : Token).Genuine := by
  unfold lexeme
  split
  · next h => exact genuine_quoted rest pos (.inl ⟨rfl, by simpa using h⟩)
  split
  · next h => exact genuine_quoted rest pos (.inr ⟨rfl, by simpa using h⟩)
  split
  · next h =>
    have hmore : ∀ c ∈ rest.takeWhile isNumberChar, isNumberChar c = true := fun c hc =>
      List.mem_takeWhile_imp hc
    simpa [Genuine, Numeric, number, h] using hmore
  split
  · next h => exact genuine_word h rest pos
  · exact genuine_operator first rest pos

/-- Every scanned token is genuine. -/
lemma genuine_scan (c : Cursor) : (scan c).1.Genuine := by
  unfold scan
  dsimp only
  split
  · simp [Genuine]
  · exact genuine_lexeme _ _ _

/-- All tokens of a text are genuine. -/
theorem genuine_of_mem_scanAll {c : Cursor} {t : Token} (ht : t ∈ scanAll c) : t.Genuine := by
  induction c using scanAll.induct with
  | case1 c heot =>
    rw [scanAll, if_pos heot, List.mem_singleton] at ht
    exact ht ▸ genuine_scan c
  | case2 c hne ih =>
    rw [scanAll, if_neg hne, List.mem_cons] at ht
    rcases ht with rfl | ht
    · exact genuine_scan c
    · exact ih ht

/-- Nothing follows the end of the text. -/
lemma eq_nil_of_endOfText {t : Token} {us : List Token} (ht : t.kind = .endOfText) (c : Cursor) :
    t :: us <:+ scanAll c → us = [] := by
  induction c using scanAll.induct with
  | case1 c heot =>
    intro h
    rw [scanAll, if_pos heot] at h
    have hlen := h.length_le
    simpa using hlen
  | case2 c hne ih =>
    intro h
    rw [scanAll, if_neg hne, List.suffix_cons_iff] at h
    rcases h with heq | h
    · obtain ⟨rfl, -⟩ := List.cons.inj heq
      exact absurd ht hne
    · exact ih h

/-! ## Texts of tokens -/

/-- The end of a word or number: what follows cannot be part of it. -/
def Breaks (r : List Char) : Prop :=
  ∀ c ∈ r.head?, isNameChar c = false ∧ isNumberChar c = false

/-- The end of an operator: what follows cannot make it an operator of two characters. -/
def NoPair (r : List Char) : Prop := ∀ c ∈ r.head?, c ∉ ['=', '>']

/-- The text `s`, wherever it stands and if `r` follows it, is scanned into a phrase of the rule,
and what follows the phrase is what `r` is scanned into. -/
def Writes (s : String) (rule : List Token → List Token → Prop) (r : List Char) : Prop :=
  ∀ n, ∃ m, rule (scanAll ⟨n, s.toList ++ r⟩) (scanAll ⟨m, r⟩)

/-- The phrases of one token with a kind and a text. -/
def Single (kind : Kind) (text : String) (ts us : List Token) : Prop :=
  ∃ pos, ts = ⟨pos, kind, text⟩ :: us

section Writes

variable {s s' : String} {rule rule' : List Token → List Token → Prop} {r : List Char}

/-- A text that is scanned into phrases of one rule is scanned into phrases of a wider rule. -/
lemma Writes.mono (h : Writes s rule r) (hrule : ∀ ts us, rule ts us → rule' ts us) :
    Writes s rule' r := by
  intro n
  obtain ⟨m, hm⟩ := h n
  exact ⟨m, hrule _ _ hm⟩

/-- Two texts, one after the other, are scanned into two phrases. -/
lemma Writes.append (h : Writes s rule (s'.toList ++ r)) (h' : Writes s' rule' r) :
    Writes (s ++ s') (Relation.Comp rule rule') r := by
  intro n
  obtain ⟨m, hm⟩ := h n
  obtain ⟨k, hk⟩ := h' m
  refine ⟨k, _, ?_, hk⟩
  rwa [String.toList_append, List.append_assoc]

/-- The empty text is scanned into nothing. -/
lemma writes_empty : Writes "" Eq r := fun n => ⟨n, rfl⟩

/-- Blanks are read over. -/
lemma scan_append_layout {blanks : List Char} (h : ∀ c ∈ blanks, isLayout c = true) (n : Nat)
    (r : List Char) : scan ⟨n, blanks ++ r⟩ = scan ⟨n + blanks.length, r⟩ := by
  have hskip : Cursor.skipLayout ⟨n, blanks ++ r⟩ =
      Cursor.skipLayout ⟨n + blanks.length, r⟩ := by
    simp only [Cursor.skipLayout, List.takeWhile_append_of_pos h, List.dropWhile_append_of_pos h,
      List.length_append, Nat.add_assoc]
  rw [scan, scan, hskip]

/-- A blank is scanned into nothing. -/
lemma writes_blank : Writes " " Eq r := by
  intro n
  refine ⟨n + 1, ?_⟩
  have hscan : scan ⟨n, " ".toList ++ r⟩ = scan ⟨n + 1, r⟩ :=
    scan_append_layout (List.forall_mem_singleton.2 rfl) n r
  rw [scanAll, hscan, ← scanAll]

/-- A blank before a text changes nothing. -/
lemma Writes.blank_append (h : Writes s rule r) : Writes (" " ++ s) rule r := by
  refine Writes.mono (writes_blank.append h) ?_
  rintro ts us ⟨vs, rfl, hts⟩
  exact hts

/-- A blank after a text ends its last token. -/
lemma Writes.append_blank (h : Writes s rule (" ".toList ++ r)) : Writes (s ++ " ") rule r := by
  refine Writes.mono (h.append writes_blank) ?_
  rintro ts us ⟨vs, hts, rfl⟩
  exact hts

/-- The end of the text is scanned into its token. -/
lemma scanAll_nil (n : Nat) : scanAll ⟨n, []⟩ = [⟨n + 1, .endOfText, ""⟩] := by
  rw [scanAll, if_pos (by rfl)]
  rfl

/-- `ReadsAs cs kind text r`: the characters `cs`, if `r` follows them, are exactly one lexeme, that
of a token with this kind and text. -/
def ReadsAs (cs : List Char) (kind : Kind) (text : String) (r : List Char) : Prop :=
  ∃ first more, cs = first :: more ∧ isLayout first = false ∧
    lexeme first (more ++ r) = ⟨kind, text, more.length + 1⟩

/-- A token is read from its lexeme, and reading goes on after it. -/
lemma ReadsAs.scan_eq {cs : List Char} {kind : Kind} {text : String} (h : ReadsAs cs kind text r)
    (n : Nat) : scan ⟨n, cs ++ r⟩ = (⟨n + 1, kind, text⟩, ⟨n + cs.length, r⟩) := by
  obtain ⟨first, more, rfl, hlayout, hlexeme⟩ := h
  simp [scan, Cursor.skipLayout, hlayout, hlexeme]

/-- A text that is a single lexeme is scanned into a single token. -/
lemma ReadsAs.writes {kind : Kind} {text : String} (h : ReadsAs s.toList kind text r)
    (hkind : kind ≠ .endOfText) : Writes s (Single kind text) r := by
  intro n
  refine ⟨n + s.toList.length, n + 1, ?_⟩
  rw [scanAll, h.scan_eq, if_neg hkind]

end Writes

/-! ### Words and numbers -/

/-- A run of characters of a class ends where a character of another class stands. -/
lemma takeWhile_append_breaks {p : Char → Bool} {more r : List Char}
    (hmore : ∀ c ∈ more, p c = true) (hr : ∀ c ∈ r.head?, p c = false) :
    (more ++ r).takeWhile p = more := by
  rw [List.takeWhile_append_of_pos hmore]
  cases r with
  | nil => simp
  | cons c r => simp [hr c (by simp)]

/-- The characters of a name are no blanks, quotes or points. -/
lemma ne_of_isNameChar {c : Char} (h : isNameChar c = true) :
    isLayout c = false ∧ c ∉ ['\x27', '\x22', '\x60', '.'] := by
  refine ⟨?_, ?_⟩
  · rw [Bool.eq_false_iff]
    intro hlayout
    have : ((c = ' ' ∨ c = '\t') ∨ c = '\n') ∨ c = '\r' := by simpa [isLayout] using hlayout
    rcases this with ((rfl | rfl) | rfl) | rfl <;> exact absurd h (by decide)
  · intro hmem
    have : c = '\x27' ∨ c = '\x22' ∨ c = '\x60' ∨ c = '.' := by simpa using hmem
    rcases this with rfl | rfl | rfl | rfl <;> exact absurd h (by decide)

/-- The lexeme that begins with a letter or underscore is a word. -/
lemma lexeme_eq_word {first : Char} (hfirst : isNameChar first = true)
    (hdigit : first.isDigit = false) (rest : List Char) :
    lexeme first rest = word first rest := by
  obtain ⟨-, hne⟩ := ne_of_isNameChar hfirst
  simp only [List.mem_cons, List.not_mem_nil, or_false, not_or] at hne
  simp [lexeme, hne, isNumberChar, hdigit, hfirst]

/-- The texts that are words: name characters, of which the first is no digit. -/
def IsWordText (s : String) : Prop :=
  (s.toList.head?.any fun c => !c.isDigit) = true ∧ s.toList.all isNameChar = true

instance (s : String) : Decidable (IsWordText s) := inferInstanceAs (Decidable (_ ∧ _))

/-- A text in lower case, character by character. -/
lemma toLower_eq {s l : String} (h : s.toList.map Char.toLower = l.toList) : s.toLower = l := by
  have hmap : s.toLower = s.map Char.toLower := rfl
  rw [← String.toList_inj, hmap, String.toList_map, h]

/-- A word that no more name characters follow is read as a reserved word or as a name. -/
lemma IsWordText.readsAs {s : String} {r : List Char} (hs : IsWordText s)
    (hr : ∀ c ∈ r.head?, isNameChar c = false) :
    ReadsAs s.toList ((keyword? s.toLower).getD .identifier)
      ((keyword? s.toLower).elim s fun _ => s.toLower) r := by
  obtain ⟨hhead, hall⟩ := hs
  have hchars := List.all_eq_true.1 hall
  have hne : s.toList ≠ [] := by
    intro hnil
    simp [hnil] at hhead
  obtain ⟨first, more, heq⟩ := List.exists_cons_of_ne_nil hne
  have hfirst : isNameChar first = true := hchars first (by simp [heq])
  have hdigit : first.isDigit = false := by simpa [heq] using hhead
  have hmore : (more ++ r).takeWhile isNameChar = more :=
    takeWhile_append_breaks (fun c hc => hchars c (by simp [heq, hc])) hr
  refine ⟨first, more, heq, (ne_of_isNameChar hfirst).1, ?_⟩
  rw [lexeme_eq_word hfirst hdigit, word, hmore, ← heq, String.ofList_toList]
  cases keyword? s.toLower <;> rfl

/-- A word spelled like a reserved one, in any mixture of cases, is read as that. -/
lemma IsWordText.readsAs_reserved {s : String} {kind : Kind} {r : List Char} (hs : IsWordText s)
    (hkind : keyword? s.toLower = some kind) (hr : ∀ c ∈ r.head?, isNameChar c = false) :
    ReadsAs s.toList kind s.toLower r := by
  have h := hs.readsAs hr
  rwa [hkind] at h

/-- A word that is not reserved is read as a name. -/
lemma IsWordText.readsAs_name {s : String} {r : List Char} (hs : IsWordText s)
    (hkind : keyword? s.toLower = none) (hr : ∀ c ∈ r.head?, isNameChar c = false) :
    ReadsAs s.toList .identifier s r := by
  have h := hs.readsAs hr
  rwa [hkind] at h

/-- A reserved word, in any mixture of cases, is scanned into a single token. -/
lemma writes_reserved {s l : String} {kind : Kind} {r : List Char} (hs : IsWordText s)
    (hlower : s.toLower = l) (hkind : keyword? l = some kind) (hr : Breaks r) :
    Writes s (Single kind l) r := by
  subst hlower
  exact (hs.readsAs_reserved hkind fun c hc => (hr c hc).1).writes fun heot =>
    keyword?_ne hkind (by simp [heot])

/-- A reserved word in lower case is scanned into a single token. -/
lemma writes_keyword {s : String} {kind : Kind} {r : List Char} (hs : IsWordText s)
    (hlower : s.toList.map Char.toLower = s.toList) (hkind : keyword? s = some kind)
    (hr : Breaks r) : Writes s (Single kind s) r :=
  writes_reserved hs (toLower_eq hlower) hkind hr

/-- A word that is not reserved is scanned into a single token. -/
lemma writes_name {s : String} {r : List Char} (hs : IsWordText s)
    (hkind : keyword? s.toLower = none) (hr : Breaks r) : Writes s (Single .identifier s) r :=
  (hs.readsAs_name hkind fun c hc => (hr c hc).1).writes (by decide)

/-- The phrases of one token that spells a word. -/
def Spells (word : String) (ts us : List Token) : Prop :=
  ∃ t, ts = t :: us ∧ t.isWord word = true

/-- A word in lower case that is not reserved is scanned into a token that spells it. -/
lemma writes_spelled {s : String} {r : List Char} (hs : IsWordText s)
    (hlower : s.toList.map Char.toLower = s.toList) (hkind : keyword? s = none) (hr : Breaks r) :
    Writes s (Spells s) r := by
  have heq := toLower_eq hlower
  refine (writes_name hs (heq.symm ▸ hkind) hr).mono ?_
  rintro ts us ⟨pos, rfl⟩
  exact ⟨_, rfl, by simp [isWord, heq]⟩

/-- A number that no more digits or points follow is read as a number. -/
lemma Numeric.readsAs {s : String} {r : List Char} (h : Numeric s)
    (hr : ∀ c ∈ r.head?, isNumberChar c = false) : ReadsAs s.toList .number s r := by
  obtain ⟨hne, hchars⟩ := h
  obtain ⟨first, more, hs⟩ := List.exists_cons_of_ne_nil hne
  have hfirst : isNumberChar first = true := hchars first (by simp [hs])
  have hmore : (more ++ r).takeWhile isNumberChar = more :=
    takeWhile_append_breaks (fun c hc => hchars c (by simp [hs, hc])) hr
  have hquote : first ∉ ['\x27', '\x22', '\x60', ' ', '\t', '\n', '\r'] := by
    intro hmem
    simp only [List.mem_cons, List.not_mem_nil, or_false] at hmem
    rcases hmem with rfl | rfl | rfl | rfl | rfl | rfl | rfl <;> exact absurd hfirst (by decide)
  simp only [List.mem_cons, List.not_mem_nil, or_false, not_or] at hquote
  refine ⟨first, more, hs, by simp [isLayout, hquote], ?_⟩
  simp [lexeme, hquote, hfirst, number, hmore, ← hs]

/-- A number is scanned into a single token. -/
lemma writes_number {s : String} {r : List Char} (h : Numeric s) (hr : Breaks r) :
    Writes s (Single .number s) r :=
  (h.readsAs fun c hc => (hr c hc).2).writes (by decide)

/-! ### Quoted tokens -/

/-- A span between two quotes is scanned up to the second of them. -/
lemma quoted_eq {quote : Char} {body r : List Char} (kind : Kind) (hbody : quote ∉ body) :
    quoted kind quote (body ++ [quote] ++ r) = ⟨kind, String.ofList body, body.length + 2⟩ := by
  have hspan : (body ++ [quote] ++ r).takeWhile (· != quote) = body := by
    rw [List.append_assoc]
    refine takeWhile_append_breaks (fun c hc => ?_) (by simp)
    have : c ≠ quote := fun heq => hbody (heq ▸ hc)
    simpa using this
  rw [quoted, hspan, if_pos (by simp)]

/-- What begins with a quote is a quoted span. -/
lemma IsQuoteOf.lexeme_eq {kind : Kind} {quote : Char} (h : IsQuoteOf kind quote)
    (rest : List Char) : isLayout quote = false ∧ lexeme quote rest = quoted kind quote rest := by
  rcases h with ⟨rfl, hquote⟩ | ⟨rfl, rfl⟩
  · have hquote : quote = '\x27' ∨ quote = '\x22' := by simpa using hquote
    refine ⟨?_, by rw [lexeme, if_pos (by simpa using hquote)]⟩
    rcases hquote with rfl | rfl <;> decide
  · exact ⟨by decide, by rw [lexeme, if_neg (by decide), if_pos (by decide)]⟩

/-- A text between quotes that it does not hold is read as that text. -/
lemma IsQuoteOf.readsAs {text : String} {quote : Char} {kind : Kind} (h : IsQuoteOf kind quote)
    (hbody : quote ∉ text.toList) (r : List Char) :
    ReadsAs (quote :: (text.toList ++ [quote])) kind text r := by
  obtain ⟨hlayout, hlexeme⟩ := h.lexeme_eq (text.toList ++ [quote] ++ r)
  refine ⟨quote, _, rfl, hlayout, ?_⟩
  rw [hlexeme, quoted_eq kind hbody]
  simp

/-- A text between quotes that it does not hold is read as that text. -/
lemma IsQuoteOf.readsAs_append {text q : String} {quote : Char} {kind : Kind}
    (h : IsQuoteOf kind quote) (hq : q.toList = [quote]) (hbody : quote ∉ text.toList)
    (r : List Char) : ReadsAs (q ++ text ++ q).toList kind text r := by
  simpa [hq] using h.readsAs hbody r

/-! ### Operators -/

/-- The characters that begin an operator. -/
def IsOperatorChar (c : Char) : Prop :=
  isLayout c = false ∧ c ∉ ['\x27', '\x22', '\x60'] ∧ isNumberChar c = false ∧
    isNameChar c = false

instance (c : Char) : Decidable (IsOperatorChar c) := inferInstanceAs (Decidable (_ ∧ _))

/-- What begins with an operator character is an operator. -/
lemma IsOperatorChar.lexeme_eq {c : Char} (h : IsOperatorChar c) (rest : List Char) :
    lexeme c rest = operator c rest := by
  obtain ⟨-, hquote, hnumber, hname⟩ := h
  simp only [List.mem_cons, List.not_mem_nil, or_false, not_or] at hquote
  simp [lexeme, hquote, hnumber, hname]

/-- The texts that are operators, of one or two characters. -/
def IsOperatorText (s : String) : Prop :=
  (s.toList.length = 1 ∨ s.toList.length = 2) ∧
    (s.toList.head?.all fun c => decide (IsOperatorChar c)) = true

instance (s : String) : Decidable (IsOperatorText s) := inferInstanceAs (Decidable (_ ∧ _))

/-- No operator of one character but three grows by what follows. -/
lemma keyword?_of_noPair {c : Char} {d : Char} (hc : IsOperatorChar c)
    (h : c ∈ ['!', '<', '>'] → d ∉ ['=', '>']) : keyword? (String.ofList [c, d]) = none := by
  by_contra hsome
  obtain ⟨kind, hkind⟩ := Option.ne_none_iff_exists'.1 hsome
  obtain ⟨hfirst, hsecond⟩ := keyword?_pair hkind hc.2.2.2
  exact h hfirst hsecond

/-- An operator that the next character does not lengthen is read as that operator. -/
lemma readsAs_operator {s : String} {c : Char} {cs r : List Char} {kind : Kind}
    (hs : s.toList = c :: cs) (hc : IsOperatorChar c) (hkind : keyword? s = some kind)
    (hr : ∀ d ∈ r.head?, keyword? (String.ofList (s.toList ++ [d])) = none) :
    ReadsAs s.toList kind s r := by
  have htext : String.ofList (c :: cs) = s := by rw [← hs, String.ofList_toList]
  refine ⟨c, cs, hs, hc.1, ?_⟩
  rw [hc.lexeme_eq]
  match cs, htext with
  | [], htext =>
    have hshort : shortOperator c = ⟨kind, s, 1⟩ := by
      simp only [shortOperator, htext, hkind, Option.getD_some]
    cases r with
    | nil => exact hshort
    | cons d r =>
      rw [hs] at hr
      have hpair : keyword? (String.ofList [c, d]) = none := hr d rfl
      simp only [operator, List.nil_append, hpair]
      exact hshort
  | [d], htext => simp only [operator, List.cons_append, htext, hkind, List.length_singleton]
  | d :: e :: cs, htext =>
    rw [← htext, keyword?_eq_none_of_length hc.2.2.2 (by simp)] at hkind
    cases hkind

/-- An operator of one character is scanned into a single token, unless it grows by what
follows. -/
lemma writes_sign {s : String} {c : Char} {kind : Kind} {r : List Char} (hs : s.toList = [c])
    (hc : IsOperatorChar c) (hkind : keyword? s = some kind)
    (hr : c ∈ ['!', '<', '>'] → NoPair r) : Writes s (Single kind s) r := by
  refine (readsAs_operator hs hc hkind fun d hd => ?_).writes fun heot =>
    keyword?_ne hkind (by simp [heot])
  rw [hs]
  exact keyword?_of_noPair hc fun hgrows => hr hgrows d hd

/-- An operator is scanned into a single token, unless it grows by what follows. -/
lemma writes_operator {s : String} {kind : Kind} {r : List Char} (hs : IsOperatorText s)
    (hkind : keyword? s = some kind) (hr : NoPair r) : Writes s (Single kind s) r := by
  obtain ⟨hlength | hlength, hhead⟩ := hs
  · obtain ⟨c, hc⟩ := List.length_eq_one_iff.1 hlength
    have hop : IsOperatorChar c := by simpa [hc] using hhead
    exact writes_sign hc hop hkind fun _ => hr
  · obtain ⟨c, d, hcd⟩ : ∃ c d, s.toList = [c, d] := by
      match s.toList, hlength with
      | [c, d], _ => exact ⟨c, d, rfl⟩
    have hc : IsOperatorChar c := by simpa [hcd] using hhead
    refine (readsAs_operator hcd hc hkind fun e _ => ?_).writes fun heot =>
      keyword?_ne hkind (by simp [heot])
    rw [hcd]
    exact keyword?_eq_none_of_length hc.2.2.2 (by simp)

/-- An opening parenthesis is scanned into a single token. -/
lemma writes_lparen {r : List Char} : Writes "(" (Single .lparen "(") r :=
  writes_sign rfl (by decide) rfl fun h => absurd h (by decide)

/-- A closing parenthesis is scanned into a single token. -/
lemma writes_rparen {r : List Char} : Writes ")" (Single .rparen ")") r :=
  writes_sign rfl (by decide) rfl fun h => absurd h (by decide)

/-- A comma and a blank are scanned into a single token. -/
lemma writes_comma {r : List Char} : Writes ", " (Single .comma ",") r := by
  have hcomma : Writes "," (Single .comma ",") (" ".toList ++ r) :=
    writes_sign rfl (by decide) rfl fun h => absurd h (by decide)
  exact hcomma.append_blank

/-! ### Names and strings -/

/-- The names that are written bare are the words that are not reserved. -/
lemma isPlainName_iff {name : String} :
    isPlainName name = true ↔ IsWordText name ∧ keyword? name.toLower = none := by
  unfold isPlainName IsWordText
  split <;> rename_i heq <;> simp [heq, and_assoc]

/-- A written name is read as the name, unless it is bare and what follows belongs to it. -/
lemma readsAs_quoteName {name : String} {r : List Char} (h : Nameable name)
    (hr : isPlainName name = true → ∀ c ∈ r.head?, isNameChar c = false) :
    ReadsAs (quoteName name).toList .identifier name r := by
  unfold quoteName
  split
  · next hplain =>
    obtain ⟨hword, hkind⟩ := isPlainName_iff.1 hplain
    exact hword.readsAs_name hkind (hr hplain)
  · exact IsQuoteOf.readsAs_append (.inr ⟨rfl, rfl⟩) rfl h r

/-- A written string is read as the string, whatever follows. -/
lemma readsAs_quoteString {text : String} (h : Quotable text) (r : List Char) :
    ReadsAs (quoteString text).toList .string text r := by
  unfold quoteString
  split
  · next hsingle =>
    have hdouble : '\x22' ∉ text.toList := h.resolve_left (by simpa using hsingle)
    exact IsQuoteOf.readsAs_append (.inl ⟨rfl, by decide⟩) rfl hdouble r
  · next hsingle =>
    have hbody : '\x27' ∉ text.toList := by simpa using hsingle
    exact IsQuoteOf.readsAs_append (.inl ⟨rfl, by decide⟩) rfl hbody r

/-- A written name is scanned into the name. -/
lemma writes_quoteName {name : String} {r : List Char} (h : Nameable name) (hr : Breaks r) :
    Writes (quoteName name) (Single .identifier name) r :=
  (readsAs_quoteName h fun _ c hc => (hr c hc).1).writes (by decide)

/-- A written string is scanned into the string. -/
lemma writes_quoteString {text : String} {r : List Char} (h : Quotable text) :
    Writes (quoteString text) (Single .string text) r :=
  (readsAs_quoteString h r).writes (by decide)

end ChartQuery.Token
