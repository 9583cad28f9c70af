import ChartQuery.Pattern.Date
import ChartQuery.Proofs.GroupedDigits

/-!
# Text that a pattern shows as it is

In a pattern, text between single quotes stands for itself, and two quotes together stand for one.
So any text can be put into a pattern: with its quotes doubled, between two quotes
(`verbatimPattern`).

The readers of date patterns and of number patterns do not take this apart where it was put
together.  In front of a quote of the text they find three quotes, of which they take the first two
for the quote and the third for the beginning of what is quoted.  That comes to the same, unless
the text is nothing but quotes: then nothing quoted ever begins, and one more quote is shown.
`QuoteReader` says what the two readers have in common, and `QuoteReader.read_verbatim` is the
argument for both.  A number pattern is cut at a semicolon beforehand, by a reader that only counts
quotes.
-/

namespace ChartQuery

/-- A pattern for a text: between single quotes, with those in it doubled. -/
def verbatimPattern (s : String) : String := "'" ++ Text.doubled '\x27' s ++ "'"

/-- The characters of a text with its quotes doubled. -/
def doubledQuotes (cs : List Char) : List Char :=
  cs.flatMap fun c => if c = '\x27' then ['\x27', '\x27'] else [c]

/-- A quote is doubled. -/
lemma doubledQuotes_quote (cs : List Char) :
    doubledQuotes ('\x27' :: cs) = '\x27' :: '\x27' :: doubledQuotes cs := rfl

/-- Any other character is not. -/
lemma doubledQuotes_cons {c : Char} (hc : c ≠ '\x27') (cs : List Char) :
    doubledQuotes (c :: cs) = c :: doubledQuotes cs := by
  rw [doubledQuotes, List.flatMap_cons, if_neg hc]
  rfl

/-- The characters of a pattern for a text. -/
lemma toList_verbatimPattern (s : String) :
    (verbatimPattern s).toList = '\x27' :: (doubledQuotes s.toList ++ ['\x27']) := by
  simp [verbatimPattern, Text.doubled, Text.replaceEach, doubledQuotes]

/-! ## Reading quotes in pairs -/

/-- What readers of patterns have in common: `read quoted cs` is what is made of the characters
`cs` within quotes or outside of them, and `push c` adds a character that stands for itself. -/
structure QuoteReader {α : Type*} (read : Bool → List Char → α) (push : Char → α → α) : Prop where
  pair : ∀ quoted cs, read quoted ('\x27' :: '\x27' :: cs) = push '\x27' (read quoted cs)
  quote : ∀ quoted cs, cs.head? ≠ some '\x27' → read quoted ('\x27' :: cs) = read (!quoted) cs
  char : ∀ c cs, c ≠ '\x27' → read true (c :: cs) = push c (read true cs)

namespace QuoteReader

variable {α : Type*} {read : Bool → List Char → α} {push : Char → α → α} {r cs : List Char}

/-- Within quotes, a text with its quotes doubled stands for itself up to the quote that ends it. -/
lemma read_within (h : QuoteReader read push) (hr : r.head? ≠ some '\x27') (cs : List Char) :
    read true (doubledQuotes cs ++ '\x27' :: r) = cs.foldr push (read false r) := by
  induction cs with
  | nil => exact h.quote true r hr
  | cons c cs ih =>
    rw [List.foldr_cons, ← ih]
    by_cases hc : c = '\x27'
    · subst hc
      exact h.pair true _
    · rw [doubledQuotes_cons hc]
      exact h.char c _ hc

/-- **A text between quotes with its own quotes doubled stands for itself**, if it has a character
that is no quote. -/
theorem read_verbatim (h : QuoteReader read push) (hr : r.head? ≠ some '\x27')
    (hcs : ∃ c ∈ cs, c ≠ '\x27') :
    read false ('\x27' :: (doubledQuotes cs ++ '\x27' :: r)) = cs.foldr push (read false r) := by
  induction cs with
  | nil =>
    obtain ⟨c, hc, -⟩ := hcs
    cases hc
  | cons c cs ih =>
    by_cases hc : c = '\x27'
    · -- the first two of three quotes are taken for the quote of the text
      subst hc
      obtain ⟨d, hd, hne⟩ := hcs
      have hrest := ih ⟨d, (List.mem_cons.1 hd).resolve_left hne, hne⟩
      rw [List.foldr_cons, ← hrest]
      exact h.pair false _
    · rw [← h.read_within hr, doubledQuotes_cons hc]
      refine h.quote false _ ?_
      simpa using hc

end QuoteReader

/-! ## Date patterns -/

namespace DatePattern

/-- Date patterns are read with quotes in pairs. -/
lemma quoteReader_readItems :
    QuoteReader readItems fun c => Option.map (Item.literal c :: ·) where
  pair quoted cs := by rw [readItems, quote]
  quote quoted cs hcs := by
    rw [readItems, if_pos (by rfl)]
    rintro cs - rfl
    exact hcs rfl
  char c cs hc := by
    have hquote : c ≠ DatePattern.quote := hc
    rw [readItems, if_neg hquote, if_pos (by simp)]
    exact fun _ heq => absurd heq hc

/-- A pattern for a text consists of the characters of the text. -/
lemma parse?_verbatimPattern {s : String} (hs : ∃ c ∈ s.toList, c ≠ '\x27') :
    parse? (verbatimPattern s) = some ⟨s.toList.map .literal⟩ := by
  have hpushed (cs : List Char) (items : List Item) :
      cs.foldr (fun c => Option.map (Item.literal c :: ·)) (some items) =
        some (cs.map .literal ++ items) := by
    induction cs with
    | nil => rfl
    | cons c cs ih => rw [List.foldr_cons, ih]; rfl
  have hread := quoteReader_readItems.read_verbatim (r := []) (by simp) hs
  have hend : readItems false [] = some [] := by rw [readItems]; rfl
  rw [hend, hpushed, List.append_nil] at hread
  rw [parse?, toList_verbatimPattern, hread]
  rfl

/-- Characters that stand for themselves are shown at every instant. -/
lemma format_literals (cs : List Char) (i : Instant) :
    (⟨cs.map .literal⟩ : DatePattern).format i = String.ofList cs := by
  rw [format, List.flatMap_map]
  exact congrArg String.ofList (List.flatMap_singleton' cs)

end DatePattern

/-! ## Number patterns -/

namespace NumberPattern

/-- Number patterns are read with quotes in pairs. -/
lemma quoteReader_readPart :
    QuoteReader (fun quoted cs p => readPart .leading quoted p cs)
      fun c read p => read (p.push .leading c) where
  pair quoted cs := by
    funext p
    rw [readPart]
    rfl
  quote quoted cs hcs := by
    funext p
    rw [readPart, if_pos (by rfl)]
    · rfl
    · rintro cs - rfl
      exact hcs rfl
  char c cs hc := by
    funext p
    have hquote : c ≠ NumberPattern.quote := hc
    rw [readPart, if_neg hquote, if_neg (by simp), if_pos rfl]
    · rfl
    · exact fun _ heq => absurd heq hc

/-- Characters in front of the digits are collected in order. -/
lemma foldr_push_leading (cs : List Char) (read : Part → Option Part) (p : Part) :
    cs.foldr (fun c read p => read (p.push .leading c)) read p =
      read { p with leading := p.leading ++ cs } := by
  induction cs generalizing p with
  | nil => rw [List.foldr_nil, List.append_nil]
  | cons c cs ih =>
    rw [List.foldr_cons, ih]
    simp [Part.push]

/-- A quote is kept, and what is quoted changes. -/
lemma splitParts_quote (quoted : Bool) (cs : List Char) :
    splitParts quoted ('\x27' :: cs) =
      ('\x27' :: (splitParts (!quoted) cs).1, (splitParts (!quoted) cs).2) := rfl

/-- Within quotes any other character is kept as well. -/
lemma splitParts_quoted {c : Char} (hc : c ≠ '\x27') (cs : List Char) :
    splitParts true (c :: cs) = (c :: (splitParts true cs).1, (splitParts true cs).2) := by
  have hquote : c ≠ quote := hc
  rw [splitParts, if_neg (by simp), if_neg hquote]

/-- A text with its quotes doubled is not cut within quotes: two quotes together do not change what
is quoted. -/
lemma splitParts_doubledQuotes (cs r : List Char) :
    splitParts true (doubledQuotes cs ++ r) =
      (doubledQuotes cs ++ (splitParts true r).1, (splitParts true r).2) := by
  induction cs with
  | nil => rfl
  | cons c cs ih =>
    by_cases hc : c = '\x27'
    · subst hc
      rw [doubledQuotes_quote, List.cons_append, List.cons_append, splitParts_quote,
        splitParts_quote, Bool.not_true, Bool.not_false, ih]
      rfl
    · rw [doubledQuotes_cons hc, List.cons_append, splitParts_quoted hc, ih]
      rfl

/-- A pattern for a text and a digit is a pattern with the text in front of the digits; the minus
sign stands before it. -/
lemma parse?_verbatimPattern {s : String} (hs : ∃ c ∈ s.toList, c ≠ '\x27') :
    parse? (verbatimPattern s ++ "0") =
      some ⟨s.toList, [], '-' :: s.toList, [], ⟨1, 0, 0, 0⟩, 1⟩ := by
  have htext : (verbatimPattern s ++ "0").toList =
      '\x27' :: (doubledQuotes s.toList ++ '\x27' :: ['0']) := by
    rw [String.toList_append, toList_verbatimPattern, List.cons_append, List.append_assoc]
    rfl
  have hsplit : splitParts false (verbatimPattern s ++ "0").toList =
      ((verbatimPattern s ++ "0").toList, none) := by
    rw [htext, splitParts_quote, Bool.not_false, splitParts_doubledQuotes]
    rfl
  have hpart : part? (verbatimPattern s ++ "0").toList = some ⟨s.toList, ['0'], [], 1⟩ := by
    have hread := congrFun (quoteReader_readPart.read_verbatim (r := ['0']) (by decide) hs) .empty
    rw [foldr_push_leading, ← htext] at hread
    exact hread
  have hlayout : layout? ['0'] = some ⟨1, 0, 0, 0⟩ := by decide
  rw [parse?, hsplit]
  dsimp only
  rw [hpart]
  simp [hlayout]

/-- Where one digit is required before the point, a number has its own digits there. -/
lemma wholeDigits_of_minWhole {l : Layout} (h : l.minWhole = 1) (n : Nat) :
    wholeDigits l n = Numeric.digits n := by
  have hfilled : filledDigits l.minWhole n = Numeric.digits n := by
    rw [filledDigits, h, ownDigits]
    split_ifs with hn
    · subst hn
      rfl
    · have hlength : 1 - (Numeric.digits n).length = 0 :=
        Nat.sub_eq_zero_of_le (List.length_pos_iff.2 Nat.toDigits_ne_nil)
      rw [hlength, List.replicate_zero, List.nil_append]
  rw [wholeDigits, hfilled, if_neg fun hnil => Nat.toDigits_ne_nil hnil.1]

/-- An integer in a pattern for a text and a digit. -/
lemma formatInt_leading (cs : List Char) (v : Int) :
    (⟨cs, [], '-' :: cs, [], ⟨1, 0, 0, 0⟩, 1⟩ : NumberPattern).formatInt v =
      (if v < 0 then "-" else "") ++ String.ofList cs ++ toString v.natAbs := by
  rw [formatInt, assemble_digits, wholeDigits_of_minWhole rfl, ← String.toList_inj]
  by_cases hv : v < 0
  · simp [grouped, hv, Numeric.digits]
  · simp [grouped, hv, Numeric.digits]

end NumberPattern

/-- **Quoted text is shown as it is.**  A pattern for a text, of which not all characters are
quotes, is read, as a date pattern and, with a digit behind it, as a number pattern.  As a date
pattern it shows the text at every instant.  As a number pattern it shows the text and then the
digits of the number; a negative number has a minus sign in front of all. -/
theorem shown_verbatim {s : String} (hs : ∃ c ∈ s.toList, c ≠ '\x27') :
    (∃ p, DatePattern.parse? (verbatimPattern s) = some p ∧ ∀ i, p.format i = s) ∧
      ∃ p, NumberPattern.parse? (verbatimPattern s ++ "0") = some p ∧
        ∀ v : Int, p.formatInt v = (if v < 0 then "-" else "") ++ s ++ toString v.natAbs := by
  refine ⟨⟨_, DatePattern.parse?_verbatimPattern hs, fun i => ?_⟩,
    ⟨_, NumberPattern.parse?_verbatimPattern hs, fun v => ?_⟩⟩
  · rw [DatePattern.format_literals, String.ofList_toList]
  · rw [NumberPattern.formatInt_leading, String.ofList_toList]

/-- Quotes in front and in the middle, with letters, signs and digits that would mean something
outside of quotes. -/
theorem shown_verbatim_signs : (∃ c ∈ "''h;'%0.#'".toList, c ≠ '\x27') ∧
    (∃ p, DatePattern.parse? "'''''h;''%0.#'''" = some p ∧ ∀ i, p.format i = "''h;'%0.#'") ∧
      ∃ p, NumberPattern.parse? "'''''h;''%0.#'''0" = some p ∧
        p.formatInt (-12) = "-''h;'%0.#'12" := by
  have hs : ∃ c ∈ "''h;'%0.#'".toList, c ≠ '\x27' := ⟨'h', by decide +kernel, by decide⟩
  have hpattern : verbatimPattern "''h;'%0.#'" = "'''''h;''%0.#'''" := by decide
  obtain ⟨hdate, p, hp, hnumber⟩ := shown_verbatim hs
  rw [hpattern] at hdate hp
  exact ⟨hs, hdate, p, hp, hnumber (-12)⟩

-- a text of quotes only is shown with one more of them
example : DatePattern.parse? (verbatimPattern "'") = some ⟨['\x27', '\x27'].map .literal⟩ := by
  decide +kernel

end ChartQuery
