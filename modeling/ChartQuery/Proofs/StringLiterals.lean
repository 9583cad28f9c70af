import ChartQuery.Proofs.Reading
import ChartQuery.Proofs.VerbatimText
import ChartQuery.Query.Parser
import ChartQuery.Sql.Compile

/-!
# String literals and backslashes

Both dialects of SQL end a string literal at a quote that is not doubled, and read a doubled quote
as one.  In MySQL, unless it is told otherwise, a backslash moreover takes away the meaning of the
character after it, so that a quote after a backslash does not end the literal.  Literals are
written without regard to that: a literal is read back as its text in PostgreSQL always, and in
MySQL exactly if the text has no backslash.

If it has one, counting tells.  Every quote of the text is written as two characters that are read
as one, and every other character as one.  A backslash is read as one character together with the
next, so that fewer characters are read than were written, or the literal ends elsewhere.
-/

namespace ChartQuery

/-- Whether a backslash in a string literal belongs to the character after it. -/
def Dialect.escapes : Dialect → Bool
  | .mySql => true
  | .gql | .postgreSql => false

namespace Sql

/-! ## Reading literals -/

/-- The contents of a string literal up to the quote that ends it, and what follows this quote.
`escape` says what character a backslash and another character stand for. -/
def contents? (d : Dialect) (escape : Char → Char) : List Char → Option (List Char × List Char)
  | '\x27' :: '\x27' :: cs => (contents? d escape cs).map (.map ('\x27' :: ·) id)
  | '\x27' :: cs => some ([], cs)
  | '\\' :: c :: cs =>
    if d.escapes then (contents? d escape cs).map (.map (escape c :: ·) id)
    else (contents? d escape (c :: cs)).map (.map ('\\' :: ·) id)
  | c :: cs => (contents? d escape cs).map (.map (c :: ·) id)
  | [] => none

/-- The contents of the string literal that a text begins with, and what follows it. -/
def literal? (d : Dialect) (escape : Char → Char) : List Char → Option (List Char × List Char)
  | '\x27' :: cs => contents? d escape cs
  | _ => none

variable {d : Dialect} {escape : Char → Char} {c : Char} {cs s r : List Char}

/-- A quote that is not doubled ends the literal. -/
lemma contents?_quote (hr : r.head? ≠ some '\x27') :
    contents? d escape ('\x27' :: r) = some ([], r) := by
  rw [contents?]
  rintro cs rfl
  exact hr rfl

/-- A doubled quote stands for a quote. -/
lemma contents?_quotes : contents? d escape ('\x27' :: '\x27' :: cs) =
    (contents? d escape cs).map (.map ('\x27' :: ·) id) := by
  rw [contents?]

/-- A character stands for itself, unless it is a quote or escapes another one. -/
lemma contents?_cons (hquote : c ≠ '\x27') (hescape : d.escapes = true → c ≠ '\\') :
    contents? d escape (c :: cs) = (contents? d escape cs).map (.map (c :: ·) id) := by
  by_cases hc : c = '\\'
  · subst hc
    have hescapes : d.escapes = false := by simpa using hescape
    cases cs with
    | nil => rfl
    | cons c cs => rw [contents?, hescapes, if_neg Bool.false_ne_true]
  · rw [contents?]
    · exact fun cs heq => absurd heq hquote
    · exact fun heq => absurd heq hquote
    · exact fun e cs heq => absurd heq hc

/-! ## Written literals -/

/-- There are twice as many quotes, and as many more characters as there are quotes. -/
lemma count_doubledQuotes (s : List Char) : (doubledQuotes s).count '\x27' + 2 * s.length =
    2 * (doubledQuotes s).length := by
  induction s with
  | nil => rfl
  | cons c s ih =>
    by_cases hc : c = '\x27'
    · rw [hc, doubledQuotes_quote]
      simp only [List.count_cons_self, List.length_cons]
      omega
    · rw [doubledQuotes_cons hc, List.count_cons_of_ne hc]
      simp only [List.length_cons]
      omega

/-- What is written holds the characters of the text. -/
lemma mem_doubledQuotes (h : c ∈ s) : c ∈ doubledQuotes s :=
  List.mem_flatMap.2 ⟨c, h, by split <;> simp_all⟩

/-- The characters of a string literal. -/
lemma toList_quoteSqlString (s : String) :
    (quoteSqlString s).toList = '\x27' :: (doubledQuotes s.toList ++ ['\x27']) := by
  simp [quoteSqlString, Text.doubled, Text.replaceEach, doubledQuotes]

/-- What is written is read up to the quote that ends the literal, if nothing is escaped. -/
lemma contents?_doubledQuotes (hs : d.escapes = true → '\\' ∉ s) (hr : r.head? ≠ some '\x27') :
    contents? d escape (doubledQuotes s ++ '\x27' :: r) = some (s, r) := by
  induction s with
  | nil => exact contents?_quote hr
  | cons c s ih =>
    have ih := ih fun hescapes hmem => hs hescapes (List.mem_cons_of_mem c hmem)
    by_cases hc : c = '\x27'
    · rw [hc, doubledQuotes_quote, List.cons_append, List.cons_append, contents?_quotes, ih]
      rfl
    · rw [doubledQuotes_cons hc, List.cons_append, contents?_cons hc, ih]
      · rfl
      · rintro hescapes rfl
        exact hs hescapes List.mem_cons_self

/-- What is read of a literal ends at a quote.  A quote within it is read with another one, so twice
as many characters are written as are read, less the quotes; and if something is escaped, more. -/
lemma exists_of_contents? {out : List Char} (h : contents? d escape cs = some (out, r)) :
    ∃ body, cs = body ++ '\x27' :: r ∧
      body.count '\x27' + 2 * out.length ≤ 2 * body.length ∧
      (d.escapes = true → '\\' ∈ body → body.count '\x27' + 2 * out.length < 2 * body.length) := by
  fun_induction contents? d escape cs generalizing out with
  | case1 cs ih =>
    obtain ⟨⟨out, r⟩, hrest, heq⟩ := Option.map_eq_some_iff.1 h
    cases heq
    obtain ⟨body, rfl, hle, hlt⟩ := ih hrest
    refine ⟨'\x27' :: '\x27' :: body, rfl, ?_, fun hescapes hmem => ?_⟩
    · simp only [List.count_cons_self, List.length_cons]
      omega
    · have := hlt hescapes (by simpa using hmem)
      simp only [List.count_cons_self, List.length_cons]
      omega
  | case2 cs hnone =>
    cases h
    exact ⟨[], rfl, Nat.le_refl 0, fun _ hmem => nomatch hmem⟩
  | case3 c cs hescapes ih =>
    obtain ⟨⟨out, r⟩, hrest, heq⟩ := Option.map_eq_some_iff.1 h
    cases heq
    obtain ⟨body, rfl, hle, -⟩ := ih hrest
    have hlt : ('\\' :: c :: body).count '\x27' + 2 * (escape c :: out).length <
        2 * ('\\' :: c :: body).length := by
      rw [List.count_cons_of_ne (by decide), List.count_cons]
      simp only [List.length_cons]
      split <;> omega
    exact ⟨'\\' :: c :: body, rfl, Nat.le_of_lt hlt, fun _ _ => hlt⟩
  | case4 c cs hescapes ih =>
    obtain ⟨⟨out, r⟩, hrest, heq⟩ := Option.map_eq_some_iff.1 h
    cases heq
    obtain ⟨body, hbody, hle, -⟩ := ih hrest
    refine ⟨'\\' :: body, by rw [hbody, List.cons_append], ?_, fun h => absurd h hescapes⟩
    rw [List.count_cons_of_ne (by decide), List.length_cons, List.length_cons]
    omega
  | case5 c cs h1 h2 h3 ih =>
    obtain ⟨⟨out, r⟩, hrest, heq⟩ := Option.map_eq_some_iff.1 h
    cases heq
    obtain ⟨body, rfl, hle, hlt⟩ := ih hrest
    have hquote : c ≠ '\x27' := h2
    have hescape : '\\' ≠ c := by
      rintro rfl
      cases body with
      | nil => exact h3 _ _ rfl rfl
      | cons e body => exact h3 _ _ rfl rfl
    refine ⟨c :: body, rfl, ?_, fun hescapes hmem => ?_⟩
    · rw [List.count_cons_of_ne hquote, List.length_cons, List.length_cons]
      omega
    · have := hlt hescapes (List.mem_of_ne_of_mem hescape hmem)
      rw [List.count_cons_of_ne hquote, List.length_cons, List.length_cons]
      omega
  | case6 => cases h

/-- **String literals carry their text exactly where nothing in it is escaped.**  The literal that
is written for a text, whatever follows it but a quote, is read as that text and ends at its last
character if and only if backslashes have no meaning in the dialect or the text has none. -/
theorem literal?_quoteSqlString_iff (s : String) (hr : r.head? ≠ some '\x27') :
    literal? d escape ((quoteSqlString s).toList ++ r) = some (s.toList, r) ↔
      (d.escapes = true → '\\' ∉ s.toList) := by
  rw [toList_quoteSqlString, List.cons_append, List.append_assoc, List.singleton_append, literal?]
  refine ⟨fun h hescapes hmem => ?_, fun h => contents?_doubledQuotes h hr⟩
  obtain ⟨body, hbody, -, hlt⟩ := exists_of_contents? h
  obtain rfl := List.append_cancel_right hbody
  have := hlt hescapes (mem_doubledQuotes hmem)
  have := count_doubledQuotes s.toList
  omega

/-- A text with a quote, and with a parenthesis after its literal. -/
theorem literal?_quoteSqlString_quote :
    literal? .mySql id ((quoteSqlString "it's").toList ++ [')']) = some ("it's".toList, [')']) :=
  (literal?_quoteSqlString_iff "it's" (by decide)).2 (by decide)

/-- A backslash takes the quote after it into the literal.  The first string of this query ends only
where the second one begins, and the contents of the second one become part of the statement. -/
theorem literal?_quoteSqlString_backslash :
    ∃ q, Query.parse "select * where a = '\\' or b = ' or 1=1 -- '" false = .ok q ∧
      compile .mySql ⟨"emp", []⟩ q =
        .ok ("SELECT * FROM \x60emp\x60 WHERE ((\x60a\x60=" ++ quoteSqlString "\\" ++
          ") OR (\x60b\x60=" ++ quoteSqlString " or 1=1 -- " ++ "))") ∧
      literal? .mySql id ((quoteSqlString "\\").toList ++
          (") OR (\x60b\x60=" ++ quoteSqlString " or 1=1 -- " ++ "))").toList) =
        some ("') OR (\x60b\x60=".toList, " or 1=1 -- '))".toList) := by
  obtain ⟨q, hq, hcompile⟩ := exists_eq_ok
    (Query.parse "select * where a = '\\' or b = ' or 1=1 -- '" false)
    (fun q => decide (compile .mySql ⟨"emp", []⟩ q =
      .ok ("SELECT * FROM \x60emp\x60 WHERE ((\x60a\x60=" ++ quoteSqlString "\\" ++
        ") OR (\x60b\x60=" ++ quoteSqlString " or 1=1 -- " ++ "))"))) (by decide +kernel)
  exact ⟨q, hq, of_decide_eq_true hcompile, by decide +kernel⟩

end Sql

end ChartQuery
