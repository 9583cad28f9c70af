import ChartQuery.Proofs.Spans

/-!
# Parentheses and the words outside of them

Quoted spans are opaque for parentheses.  The depth of parentheses is followed piece by piece, and
following it fails where a parenthesis is closed that is not open.  A text is balanced if its spans
are closed and so are its parentheses.  The words of a text that stand in no parentheses are its
outer words; in parentheses a balanced text has none of them.
-/

namespace ChartQuery.Sql

/-! ## Depth -/

/-- The depth of parentheses after a piece, unless the piece closes one that is not open. -/
def Piece.depthAfter (n : Nat) : Piece → Option Nat
  | .sign c =>
    if c = '(' then some (n + 1)
    else if c = ')' then if n = 0 then none else some (n - 1)
    else some n
  | _ => some n

/-- Whether the quoted spans and the parentheses of a text are closed, and none is closed that is
not open. -/
structure Balanced (d : Dialect) (s : String) : Prop where
  closed : Closed d s
  depth : (pieces d s).foldlM Piece.depthAfter 0 = some 0

instance (d : Dialect) : DecidablePred (Balanced d) := fun s =>
  decidable_of_iff (Closed d s ∧ (pieces d s).foldlM Piece.depthAfter 0 = some 0)
    ⟨fun h => ⟨h.1, h.2⟩, fun h => ⟨h.closed, h.depth⟩⟩

/-- Pieces at a greater depth. -/
lemma depthAfter_succ {n m : Nat} {p : Piece} (h : p.depthAfter n = some m) :
    p.depthAfter (n + 1) = some (m + 1) := by
  cases p with
  | word | quoted | unclosed => exact congrArg _ (congrArg (· + 1) (Option.some.inj h))
  | sign c =>
    rw [Piece.depthAfter] at h ⊢
    split at h
    · next hopen => rw [if_pos hopen, ← Option.some.inj h]
    split at h
    · next hne hclose =>
      rw [if_neg hne, if_pos hclose, if_neg (Nat.succ_ne_zero n)]
      split at h
      · cases h
      · exact congrArg _ (by have := Option.some.inj h; omega)
    · next hne hne' => rw [if_neg hne, if_neg hne', ← Option.some.inj h]

/-- Many pieces at a greater depth. -/
lemma foldlM_depthAfter_succ {n m : Nat} {ps : List Piece}
    (h : ps.foldlM Piece.depthAfter n = some m) :
    ps.foldlM Piece.depthAfter (n + 1) = some (m + 1) := by
  induction ps generalizing n with
  | nil => exact congrArg _ (congrArg (· + 1) (Option.some.inj h))
  | cons p ps ih =>
    rw [List.foldlM_cons] at h ⊢
    obtain ⟨k, hk, h⟩ := Option.bind_eq_some_iff.1 h
    rw [depthAfter_succ hk]
    exact ih h

/-! ## Balanced texts -/

section Balanced

variable {d : Dialect} {s t : String}

/-- A text that is a single quoted span is balanced. -/
lemma balanced_of_quoted {q : Char} {contents : List Char} (h : pieces d s = [.quoted q contents]) :
    Balanced d s where
  closed := closed_of_quoted h
  depth := by
    rw [h]
    rfl

/-- Balanced texts one after another are balanced. -/
lemma Balanced.append (hs : Balanced d s) (ht : Balanced d t) (hstart : StartsUnquoted d t) :
    Balanced d (s ++ t) where
  closed := hs.closed.append ht.closed hstart
  depth := by
    rw [pieces_append hs.closed hstart, List.foldlM_append, hs.depth]
    exact ht.depth

/-- Characters other than parentheses leave the depth as it is. -/
lemma foldlM_depthAfter_spelled {cs : List Char} (hcs : ∀ c ∈ cs, c ≠ '(' ∧ c ≠ ')') (n : Nat) :
    (cs.map Piece.ofChar).foldlM Piece.depthAfter n = some n := by
  induction cs with
  | nil => rfl
  | cons c cs ih =>
    obtain ⟨⟨hopen, hclose⟩, hcs⟩ := List.forall_mem_cons.1 hcs
    have hc : (Piece.ofChar c).depthAfter n = some n := by
      unfold Piece.ofChar
      split
      · rfl
      · rw [Piece.depthAfter, if_neg hopen, if_neg hclose]
    rw [List.map_cons, List.foldlM_cons, hc]
    exact ih hcs

/-- What is read of a closed text in parentheses. -/
lemma pieces_parens (hs : Closed d s) :
    pieces d ("(" ++ s ++ ")") = .sign '(' :: (pieces d s ++ [.sign ')']) := by
  have hopen : d.isQuote '(' = false := by cases d <;> rfl
  have hclose : d.isQuote ')' = false := by cases d <;> rfl
  have hend : pieces d (s ++ ")") = pieces d s ++ spelled ")" := by
    rw [pieces_append hs (by simpa [StartsUnquoted] using hclose),
      pieces_unquoted (s := ")") (by simpa using hclose)]
  rw [String.append_assoc, pieces_unquoted_append (by simpa using hopen), hend]
  rfl

/-- A closed text in parentheses is closed. -/
lemma Closed.parens (hs : Closed d s) : Closed d ("(" ++ s ++ ")") := by
  rw [Closed, pieces_parens hs]
  refine List.forall_mem_cons.2 ⟨rfl, List.forall_mem_append.2 ⟨hs, ?_⟩⟩
  exact fun p hp => List.mem_singleton.1 hp ▸ rfl

/-- A balanced text in parentheses is balanced. -/
lemma Balanced.parens (hs : Balanced d s) : Balanced d ("(" ++ s ++ ")") where
  closed := hs.closed.parens
  depth := by
    rw [pieces_parens hs.closed, List.foldlM_cons]
    change (pieces d s ++ [Piece.sign ')']).foldlM Piece.depthAfter 1 = some 0
    rw [List.foldlM_append, foldlM_depthAfter_succ hs.depth]
    rfl

/-- A parenthesis between quotes does not count. -/
example : Balanced .mySql "CONCAT(`a(b`, ')')" := by decide +kernel

end Balanced

/-! ## Whole words -/

/-- Pieces with the words among them that stand next to each other put together. -/
def joinWords : List Piece → List Piece
  | [] => []
  | .word v :: ps =>
    match joinWords ps with
    | .word w :: qs => .word (v ++ w) :: qs
    | qs => .word v :: qs
  | p :: ps => p :: joinWords ps

/-- The words, other characters and quoted spans of a text. -/
def tokens (d : Dialect) (s : String) : List Piece := joinWords (pieces d s)

/-- A word ends before every character that cannot be part of one. -/
lemma joinWords_append_sign (ps qs : List Piece) (c : Char) :
    joinWords (ps ++ .sign c :: qs) = joinWords ps ++ .sign c :: joinWords qs := by
  induction ps with
  | nil => rfl
  | cons p ps ih =>
    cases p with
    | sign | quoted | unclosed => exact congrArg (_ :: ·) ih
    | word v =>
      rw [List.cons_append, joinWords, joinWords, ih]
      rcases joinWords ps with _ | ⟨_ | _ | _ | _, us⟩ <;> rfl

/-- Putting words together does not change the depth. -/
lemma foldlM_joinWords (ps : List Piece) (n : Nat) :
    (joinWords ps).foldlM Piece.depthAfter n = ps.foldlM Piece.depthAfter n := by
  induction ps generalizing n with
  | nil => rfl
  | cons p ps ih =>
    cases p with
    | sign | quoted | unclosed =>
      rw [joinWords, List.foldlM_cons, List.foldlM_cons]
      · exact congrArg _ (funext ih)
      · nofun
    | word v =>
      rw [joinWords, List.foldlM_cons]
      change _ = ps.foldlM Piece.depthAfter n
      rw [← ih]
      rcases joinWords ps with _ | ⟨_ | _ | _ | _, us⟩ <;> rfl

/-! ## Outer words -/

/-- The characters of a word. -/
def Piece.word? : Piece → Option (List Char)
  | .word w => some w
  | _ => none

/-- The words among pieces that begin at some depth which stand in no parentheses. -/
def wordsOutside : Nat → List Piece → List (List Char)
  | _, [] => []
  | n, p :: ps =>
    (if n = 0 then p.word?.toList else []) ++ wordsOutside ((p.depthAfter n).getD 0) ps

/-- The words of a text that stand in no parentheses. -/
def outerWords (d : Dialect) (s : String) : List (List Char) := wordsOutside 0 (tokens d s)

/-- Words of some pieces and of those that follow. -/
lemma wordsOutside_append {n m : Nat} {ps : List Piece} (h : ps.foldlM Piece.depthAfter n = some m)
    (qs : List Piece) : wordsOutside n (ps ++ qs) = wordsOutside n ps ++ wordsOutside m qs := by
  induction ps generalizing n with
  | nil => rw [Option.some.inj h]; rfl
  | cons p ps ih =>
    rw [List.foldlM_cons] at h
    obtain ⟨k, hk, h⟩ := Option.bind_eq_some_iff.1 h
    rw [List.cons_append, wordsOutside, wordsOutside, hk, Option.getD_some, ih h,
      List.append_assoc]

/-- Pieces that close no parentheses but their own have no outer words in parentheses. -/
lemma wordsOutside_succ {n m : Nat} {ps : List Piece} (h : ps.foldlM Piece.depthAfter n = some m) :
    wordsOutside (n + 1) ps = [] := by
  induction ps generalizing n with
  | nil => rfl
  | cons p ps ih =>
    rw [List.foldlM_cons] at h
    obtain ⟨k, hk, h⟩ := Option.bind_eq_some_iff.1 h
    rw [wordsOutside, if_neg (Nat.succ_ne_zero n), depthAfter_succ hk]
    exact ih h

section OuterWords

variable {d : Dialect} {s t : String}

/-- Whether the first character, if there is one, neither continues a word nor is a quote. -/
def StartsApart (d : Dialect) (s : String) : Prop :=
  ∀ c ∈ s.toList.head?, Token.isNameChar c = false ∧ d.isQuote c = false

instance : DecidablePred (StartsApart d) := fun s => Option.decidableForallMem s.toList.head?

/-- A text that is set apart stays so when other text follows. -/
lemma StartsApart.append (hs : StartsApart d s) (hne : s ≠ "") (t : String) :
    StartsApart d (s ++ t) := by
  rw [StartsApart, head?_toList_append hne]
  exact hs

/-- The outer words of a balanced text and of a text that is set apart from it. -/
lemma outerWords_append (hs : Balanced d s) (ht : StartsApart d t) :
    outerWords d (s ++ t) = outerWords d s ++ outerWords d t := by
  cases htext : t.toList with
  | nil =>
    obtain rfl : t = "" := String.toList_injective htext
    rw [String.append_empty]
    exact (List.append_nil _).symm
  | cons c cs =>
    obtain ⟨hname, hquote⟩ := ht c (by rw [htext]; rfl)
    have hread : pieces d t = .sign c :: read d .outside cs := by
      rw [pieces, htext, read, Mode.step, hquote]
      simp [Piece.ofChar, hname]
    have htokens : tokens d t = .sign c :: joinWords (read d .outside cs) := by
      rw [tokens, hread]
      rfl
    rw [outerWords, tokens, pieces_append hs.closed fun c hc => (ht c hc).2, hread,
      joinWords_append_sign, wordsOutside_append (m := 0), outerWords, outerWords, htokens]
    · rfl
    · rw [foldlM_joinWords, hs.depth]

/-- A balanced text in parentheses has no outer words. -/
lemma outerWords_parens (hs : Balanced d s) : outerWords d ("(" ++ s ++ ")") = [] := by
  have hjoin : joinWords (.sign '(' :: (pieces d s ++ [.sign ')'])) =
      .sign '(' :: (joinWords (pieces d s) ++ [.sign ')']) :=
    congrArg (_ :: ·) (joinWords_append_sign _ [] _)
  have hdepth : (joinWords (pieces d s)).foldlM Piece.depthAfter 0 = some 0 := by
    rw [foldlM_joinWords, hs.depth]
  rw [outerWords, tokens, pieces_parens hs.closed, hjoin]
  change wordsOutside 1 (joinWords (pieces d s) ++ [.sign ')']) = []
  rw [wordsOutside_append (foldlM_depthAfter_succ hdepth), wordsOutside_succ hdepth]
  rfl

/-! ## The word FROM -/

/-- Whether a word is `from`, in any mixture of ASCII cases. -/
def spellsFrom (w : List Char) : Bool := w.map Char.toLower == ['f', 'r', 'o', 'm']

/-- How often the word `from` stands in a text outside of parentheses. -/
def outerFroms (d : Dialect) (s : String) : Nat := (outerWords d s).countP spellsFrom

/-- The occurrences in a balanced text and in a text that is set apart from it. -/
lemma outerFroms_append (hs : Balanced d s) (ht : StartsApart d t) :
    outerFroms d (s ++ t) = outerFroms d s + outerFroms d t := by
  rw [outerFroms, outerWords_append hs ht, List.countP_append]
  rfl

/-- There are none in parentheses. -/
lemma outerFroms_parens (hs : Balanced d s) : outerFroms d ("(" ++ s ++ ")") = 0 := by
  rw [outerFroms, outerWords_parens hs]
  rfl

/-- There are none in a text that is a single quoted span. -/
lemma outerFroms_of_quoted {q : Char} {contents : List Char}
    (h : pieces d s = [.quoted q contents]) : outerFroms d s = 0 := by
  rw [outerFroms, outerWords, tokens, h]
  rfl

end OuterWords

/-- Outer words are words of the pieces. -/
lemma mem_of_mem_wordsOutside {w : List Char} {n : Nat} {ps : List Piece}
    (h : w ∈ wordsOutside n ps) : .word w ∈ ps := by
  induction ps generalizing n with
  | nil => cases h
  | cons p ps ih =>
    rw [wordsOutside] at h
    rcases List.mem_append.1 h with h | h
    · split at h
      · cases p with
        | word v => exact List.mem_singleton.1 h ▸ List.mem_cons_self
        | sign | quoted | unclosed => cases h
      · cases h
    · exact List.mem_cons_of_mem _ (ih h)

/-- Words that were put together consist of the characters of the words before. -/
lemma exists_word_of_joinWords {w : List Char} {c : Char} {ps : List Piece}
    (h : .word w ∈ joinWords ps) (hc : c ∈ w) : ∃ v, .word v ∈ ps ∧ c ∈ v := by
  induction ps generalizing w with
  | nil => cases h
  | cons p ps ih =>
    have hlater {w : List Char} (h : .word w ∈ joinWords ps) (hc : c ∈ w) :
        ∃ v, .word v ∈ p :: ps ∧ c ∈ v := by
      obtain ⟨v, hv, hc⟩ := ih h hc
      exact ⟨v, List.mem_cons_of_mem _ hv, hc⟩
    cases p with
    | sign | quoted | unclosed =>
      rcases List.mem_cons.1 h with h | h
      · cases h
      · exact hlater h hc
    | word v =>
      rw [joinWords] at h
      split at h
      · next u us hjoin =>
        rw [hjoin] at hlater
        rcases List.mem_cons.1 h with h | h
        · rw [Piece.word.inj h] at hc
          rcases List.mem_append.1 hc with hc | hc
          · exact ⟨v, List.mem_cons_self, hc⟩
          · exact hlater List.mem_cons_self hc
        · exact hlater (List.mem_cons_of_mem _ h) hc
      · rcases List.mem_cons.1 h with h | h
        · exact ⟨v, List.mem_cons_self, Piece.word.inj h ▸ hc⟩
        · exact hlater h hc

/-- In a text without the letter f, in either case, no word is FROM. -/
lemma spellsFrom_eq_false {s : String} (h : ∀ c ∈ s.toList, c.toLower ≠ 'f') {n : Nat}
    {w : List Char} (hw : w ∈ wordsOutside n (joinWords (spelled s))) : spellsFrom w = false := by
  cases w with
  | nil => rfl
  | cons c w =>
    obtain ⟨v, hv, hc⟩ :=
      exists_word_of_joinWords (mem_of_mem_wordsOutside hw) List.mem_cons_self
    obtain ⟨x, hx, hword⟩ := List.mem_map.1 hv
    unfold Piece.ofChar at hword
    split at hword
    · obtain rfl : [x] = v := Piece.word.inj hword
      obtain rfl : c = x := List.mem_singleton.1 hc
      simp [spellsFrom, h c hx]
    · cases hword

end ChartQuery.Sql
