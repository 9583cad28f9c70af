import ChartQuery.Proofs.Reconversion

/-!
# Letters inside and outside of quotes

The fields of a date pattern are written with letters, and between quotes letters stand for
themselves.  Two readers look at the letters.  One reads the pattern, in which two quotes together
are a quote; the other only looks for letters, to say whether a text is a pattern for dates or for
times of day.

For letters it does not matter that two quotes together are a quote: they end one stretch and begin
the next, so every letter is quoted or not by the number of quotes before it (`DatePattern.marked`).
The fields that are read are those of the letters outside of quotes (`exists_field_iff`).  The other
reader takes quoted letters for fields as well.
-/

namespace ChartQuery

namespace DateField

/-- `IsLetter ofDate c`: the character stands for a field of the date, or for one of the time of
day. -/
def IsLetter (ofDate : Bool) (c : Char) : Prop := (ofLetter? c).map isOfDate = some ofDate

instance (ofDate : Bool) (c : Char) : Decidable (IsLetter ofDate c) :=
  inferInstanceAs (Decidable (_ = _))

variable {c : Char} {f : DateField} {ofDate : Bool}

/-- A letter stands for a field. -/
lemma isLetter_iff : IsLetter ofDate c ↔ ∃ f, ofLetter? c = some f ∧ f.isOfDate = ofDate :=
  Option.map_eq_some_iff

/-- Only letters stand for fields. -/
lemma isAlpha_of_ofLetter? (h : ofLetter? c = some f) : c.isAlpha = true := by
  unfold ofLetter? at h
  split at h
  all_goals first | rfl | cases h

/-- A quote does not stand for a field. -/
lemma ne_quote_of_ofLetter? (h : ofLetter? c = some f) : c ≠ DatePattern.quote := by
  rintro rfl
  cases h

end DateField

namespace DatePattern

/-! ## Quoted and unquoted letters -/

/-- The characters of a text other than quotes, in order, each with whether it is quoted: whether
there is an odd number of quotes before it. -/
def marked (quoted : Bool) : List Char → List (Char × Bool)
  | [] => []
  | c :: cs => if c = quote then marked (!quoted) cs else (c, quoted) :: marked quoted cs

variable {quoted : Bool} {cs : List Char} {c : Char} {f : DateField} {items : List Item}

/-- A quote changes what is quoted after it. -/
lemma marked_quote (quoted : Bool) (cs : List Char) :
    marked quoted (quote :: cs) = marked (!quoted) cs := if_pos rfl

/-- Any other character is marked. -/
lemma marked_cons (hc : c ≠ quote) (quoted : Bool) (cs : List Char) :
    marked quoted (c :: cs) = (c, quoted) :: marked quoted cs := if_neg hc

/-- All characters but the quotes are marked in one way or the other. -/
lemma exists_mem_marked (hc : c ≠ quote) (quoted : Bool) (cs : List Char) :
    (∃ mark, (c, mark) ∈ marked quoted cs) ↔ c ∈ cs := by
  induction cs generalizing quoted with
  | nil => simp [marked]
  | cons d cs ih =>
    by_cases hd : d = quote
    · rw [hd, marked_quote, ih, List.mem_cons, or_iff_right hc]
    · rw [marked_cons hd, List.mem_cons, ← ih quoted]
      constructor
      · rintro ⟨mark, hmem⟩
        rcases List.mem_cons.1 hmem with heq | hmem
        · exact .inl (Prod.mk.inj heq).1
        · exact .inr ⟨mark, hmem⟩
      · rintro (rfl | ⟨mark, hmem⟩)
        · exact ⟨quoted, List.mem_cons_self⟩
        · exact ⟨mark, List.mem_cons_of_mem _ hmem⟩

/-- After a run of one letter the quotes are as before it. -/
lemma mem_marked_run {d : Char} {mark : Bool} (hc : c ≠ quote) (quoted : Bool) (cs : List Char) :
    (d, mark) ∈ marked quoted (c :: cs) ↔
      (d = c ∧ mark = quoted) ∨ (d, mark) ∈ marked quoted (cs.dropWhile (· == c)) := by
  rw [marked_cons hc, List.mem_cons, Prod.mk.injEq]
  induction cs with
  | nil => rfl
  | cons e cs ih =>
    by_cases he : e = c
    · rw [he, List.dropWhile_cons_of_pos (p := (· == c)) (beq_self_eq_true c), ← ih,
        marked_cons hc, List.mem_cons, Prod.mk.injEq, ← or_assoc, or_self]
    · rw [List.dropWhile_cons_of_neg (by simpa using he)]

/-- **The fields of a pattern** are those of its letters outside of quotes. -/
theorem exists_field_iff (h : readItems quoted cs = some items) :
    (∃ n, .field f n ∈ items) ↔ ∃ c, (c, false) ∈ marked quoted cs ∧
      DateField.ofLetter? c = some f := by
  have hliteral (c : Char) (items : List Item) :
      (∃ n, .field f n ∈ Item.literal c :: items) ↔ ∃ n, .field f n ∈ items := by
    simp only [List.mem_cons, reduceCtorEq, false_or]
  fun_induction readItems quoted cs generalizing items with
  | case1 | case6 => cases h
  | case2 =>
    cases h
    simp [marked]
  | case3 quoted cs ih =>
    obtain ⟨rest, hrest, rfl⟩ := Option.map_eq_some_iff.1 h
    -- the second quote undoes what the first one does
    have hmarked : marked quoted (quote :: quote :: cs) = marked quoted cs := by
      rw [marked_quote, marked_quote, Bool.not_not]
    exact hmarked ▸ (hliteral _ _).trans (ih hrest)
  | case4 quoted cs hsingle ih =>
    exact (marked_quote quoted cs).symm ▸ ih h
  | case5 quoted c cs hsingle hquote hplain ih =>
    obtain ⟨rest, hrest, rfl⟩ := Option.map_eq_some_iff.1 h
    refine (hliteral c rest).trans ((ih hrest).trans ?_)
    rw [marked_cons hquote]
    refine exists_congr fun d => and_congr_left fun hd => ?_
    -- a character that stands for itself is quoted or no letter
    have hne : (d, false) ≠ (c, quoted) := by
      rintro ⟨⟩
      have halpha := DateField.isAlpha_of_ofLetter? hd
      simp [halpha] at hplain
    rw [List.mem_cons, or_iff_right hne]
  | case7 quoted c cs hsingle hquote hplain g hg more =>
    rename_i ih
    obtain ⟨rest, hrest, rfl⟩ := Option.map_eq_some_iff.1 h
    have hunquoted : quoted = false := by
      cases quoted with
      | false => rfl
      | true => exact absurd rfl hplain
    simp only [List.mem_cons, exists_or, ih hrest, mem_marked_run hquote, or_and_right]
    refine or_congr_left ?_
    constructor
    · rintro ⟨n, hn⟩
      cases hn
      exact ⟨c, ⟨rfl, hunquoted.symm⟩, hg⟩
    · rintro ⟨d, ⟨rfl, -⟩, hd⟩
      cases hg.symm.trans hd
      exact ⟨_, rfl⟩

/-- `Shows p ofDate`: the pattern has a field of the date, or of the time of day. -/
def Shows (p : DatePattern) (ofDate : Bool) : Prop :=
  ∃ f n, .field f n ∈ p.items ∧ f.isOfDate = ofDate

/-- `HasLetter s quoted ofDate`: the text has, inside or outside of quotes, a letter for a field of
the date or of the time of day. -/
def HasLetter (s : String) (quoted ofDate : Bool) : Prop :=
  ∃ x ∈ marked false s.toList, x.2 = quoted ∧ DateField.IsLetter ofDate x.1

instance (s : String) (quoted ofDate : Bool) : Decidable (HasLetter s quoted ofDate) :=
  inferInstanceAs (Decidable (∃ _ ∈ _, _))

variable {p : DatePattern} {s : String} {ofDate : Bool}

/-- A pattern has the fields of its letters outside of quotes. -/
lemma shows_iff_hasLetter (h : parse? s = some p) : p.Shows ofDate ↔ HasLetter s false ofDate := by
  obtain ⟨items, hitems, rfl⟩ := Option.map_eq_some_iff.1 h
  constructor
  · rintro ⟨f, n, hf, hdate⟩
    obtain ⟨c, hc, hletter⟩ := (exists_field_iff hitems).1 ⟨n, hf⟩
    exact ⟨(c, false), hc, rfl, DateField.isLetter_iff.2 ⟨f, hletter, hdate⟩⟩
  · rintro ⟨⟨c, _⟩, hc, rfl, hletter⟩
    obtain ⟨f, hletter, hdate⟩ := DateField.isLetter_iff.1 hletter
    obtain ⟨n, hf⟩ := (exists_field_iff hitems).2 ⟨c, hc, hletter⟩
    exact ⟨f, n, hf, hdate⟩

/-- A letter of a text is outside of quotes or inside. -/
lemma exists_isLetter_iff : (∃ c ∈ s.toList, DateField.IsLetter ofDate c) ↔
    HasLetter s false ofDate ∨ HasLetter s true ofDate := by
  have hmarked {c : Char} (hc : DateField.IsLetter ofDate c) :
      (∃ mark, (c, mark) ∈ marked false s.toList) ↔ c ∈ s.toList := by
    obtain ⟨f, hletter, -⟩ := DateField.isLetter_iff.1 hc
    exact exists_mem_marked (DateField.ne_quote_of_ofLetter? hletter) false s.toList
  constructor
  · rintro ⟨c, hc, hletter⟩
    obtain ⟨mark, hmark⟩ := (hmarked hletter).2 hc
    cases mark with
    | false => exact .inl ⟨_, hmark, rfl, hletter⟩
    | true => exact .inr ⟨_, hmark, rfl, hletter⟩
  · rintro (⟨x, hx, -, hletter⟩ | ⟨x, hx, -, hletter⟩)
    all_goals exact ⟨x.1, (hmarked hletter).1 ⟨x.2, hx⟩, hletter⟩

end DatePattern

/-! ## Kinds of patterns -/

namespace PatternKinds

open DatePattern

variable {s : String} {p : DatePattern}

/-- A test of the letters of a text finds those for fields everywhere. -/
lemma any_letter_iff {test : DateField → Bool} {ofDate : Bool}
    (htest : ∀ f, test f = true ↔ f.isOfDate = ofDate) :
    (s.toList.any fun c => ((DateField.ofLetter? c).map test).getD false) = true ↔
      HasLetter s false ofDate ∨ HasLetter s true ofDate := by
  rw [← exists_isLetter_iff, List.any_eq_true]
  refine exists_congr fun c => and_congr_right fun _ => ?_
  rw [DateField.IsLetter]
  cases DateField.ofLetter? c with
  | none => simp
  | some f => simp [htest]

/-- The test for fields of the date takes quoted letters for fields. -/
lemma hasDateFields_iff :
    hasDateFields s = true ↔ HasLetter s false true ∨ HasLetter s true true :=
  any_letter_iff fun _ => Iff.rfl

/-- So does the test for fields of the time of day. -/
lemma hasTimeFields_iff :
    hasTimeFields s = true ↔ HasLetter s false false ∨ HasLetter s true false :=
  any_letter_iff fun f => by simp

/-- A text is classified by what it is a pattern for, if it is one for dates or times of day. -/
lemma classify_of_temporal (h : (ofText s).date = true ∨ (ofText s).time = true) :
    classify s = .ok (ofText s) := by
  have hmask : (ofText s).mask ≠ 0 := by
    rcases h with h | h
    · rw [mask, h]
      simp
    · rw [mask, h]
      simp
  exact if_neg hmask

/-- **What a date pattern is classified by.**  A text that is read as a date pattern counts as one
for dates exactly if it shows a field of the date or has a quoted letter for one, and likewise for
times of day.  The fields that it shows are those of its unquoted letters. -/
theorem classify_iff_shows (h : parse? s = some p) :
    (∀ ofDate, p.Shows ofDate ↔ HasLetter s false ofDate) ∧
      ((∃ k, classify s = .ok k ∧ k.date = true) ↔ p.Shows true ∨ HasLetter s true true) ∧
      ((∃ k, classify s = .ok k ∧ k.time = true) ↔ p.Shows false ∨ HasLetter s true false) := by
  have hparsed : (parse? s).isSome = true := h ▸ rfl
  have hdate : (ofText s).date = hasDateFields s := by simp [ofText, hparsed]
  have htime : (ofText s).time = hasTimeFields s := by simp [ofText, hparsed]
  refine ⟨fun ofDate => shows_iff_hasLetter h, ?_, ?_⟩
  · rw [shows_iff_hasLetter h, ← hasDateFields_iff, ← hdate]
    constructor
    · rintro ⟨k, hk, hbit⟩
      exact Column.classify_eq_ok hk ▸ hbit
    · exact fun hbit => ⟨_, classify_of_temporal (.inl hbit), hbit⟩
  · rw [shows_iff_hasLetter h, ← hasTimeFields_iff, ← htime]
    constructor
    · rintro ⟨k, hk, hbit⟩
      exact Column.classify_eq_ok hk ▸ hbit
    · exact fun hbit => ⟨_, classify_of_temporal (.inr hbit), hbit⟩

/-- A quote and a quoted word, with no letter for a field of the date. -/
theorem classify_iff_shows_zone :
    let s := "h:mm '''PST'''"
    ∃ p, parse? s = some p ∧ p.Shows false ∧ ¬ p.Shows true ∧
      (∃ k, classify s = .ok k ∧ k.time = true) ∧ ¬ ∃ k, classify s = .ok k ∧ k.date = true := by
  intro s
  obtain ⟨p, hp⟩ : ∃ p, parse? s = some p := Option.isSome_iff_exists.1 (by decide +kernel)
  obtain ⟨hshows, hdate, htime⟩ := classify_iff_shows hp
  have hclock : p.Shows false := (hshows false).2 (by decide +kernel)
  have hplain : ¬ p.Shows true := (hshows true).not.2 (by decide +kernel)
  refine ⟨p, hp, hclock, hplain, htime.2 (.inl hclock), hdate.not.2 ?_⟩
  exact not_or.2 ⟨hplain, by decide +kernel⟩

/-- **A quoted letter counts as a field.**  The pattern shows the hour only, but a word in it has
the letter for the day of the week. -/
theorem classify_quoted_clock :
    let s := "h 'o''clock'"
    ∃ p, parse? s = some p ∧ ¬ p.Shows true ∧ ∃ k, classify s = .ok k ∧ k.date = true := by
  intro s
  obtain ⟨p, hp⟩ : ∃ p, parse? s = some p := Option.isSome_iff_exists.1 (by decide +kernel)
  have hplain : ¬ p.Shows true := (shows_iff_hasLetter hp).not.2 (by decide +kernel)
  exact ⟨p, hp, hplain, exists_eq_ok (classify s) (·.date) (by decide +kernel)⟩

end PatternKinds

end ChartQuery
