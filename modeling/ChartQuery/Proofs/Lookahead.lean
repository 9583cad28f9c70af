import ChartQuery.Expr.Parser
import ChartQuery.Proofs.Reading
import Mathlib.Data.List.TakeWhile

/-!
# Readers look one token ahead

A reader of tokens takes a phrase and leaves the rest.  It is local if of the rest it looks at the
first token only, and of the phrase at everything but the places of its tokens: with another rest
that begins alike it returns the same, and with another rest that begins with the same token it
fails in the same way.  A failure points at the token at which the reader stopped, or, if an
expression is not selected, at a token of the phrase.

All readers are put together from choices that the first token decides (`choose`, `branch`, `skip`)
and from one reader after another (`andThen`), and each of these keeps readers local.  That the
number of steps grows with the number of tokens, also of those that are never looked at, makes no
difference as long as there are enough of them.
-/

namespace ChartQuery

namespace Token

/-! ## Contents of tokens -/

/-- The kinds of token that a query is made of: all but the end of the text and what begins no
token. -/
def Kind.Readable (kind : Kind) : Prop := kind ∉ [Kind.endOfText, .invalid]

instance : DecidablePred Kind.Readable := fun kind =>
  inferInstanceAs (Decidable (kind ∉ [Kind.endOfText, .invalid]))

/-- All of a token but its place. -/
def content (t : Token) : Kind × String := (t.kind, t.text)

/-- The first token of a phrase and a rest is alike if the phrase is alike, and so is the first
token of the rest. -/
lemma content_first_append {ts ts' us us' : List Token} (hts : ts'.map content = ts.map content)
    (hus : (first us').content = (first us).content) :
    (first (ts' ++ us')).content = (first (ts ++ us)).content := by
  cases ts with
  | nil =>
    obtain rfl := List.map_eq_nil_iff.1 hts
    exact hus
  | cons t ts =>
    obtain ⟨t', ts', rfl, ht, -⟩ := List.map_eq_cons_iff.1 hts
    exact ht

/-- The first token of a phrase and a rest depends only on the first token of the rest. -/
lemma first_append (ts : List Token) {us us' : List Token} (h : first us' = first us) :
    first (ts ++ us') = first (ts ++ us) := by
  cases ts with
  | nil => exact h
  | cons t ts => rfl

end Token

open Token (first content content_first_append first_append expect expectWord)

/-- What a failure of a reader points at: the token at which it stopped, or a token of the phrase
before it. -/
def Failure.PointsAt (phrase : List Token) (t : Token) : Failure → Prop
  | unexpected u | expected _ u => u = t
  | notSelected _ pos _ => ∃ u ∈ phrase, u.pos = pos
  | _ => False

/-- A longer phrase holds the same tokens. -/
lemma Failure.PointsAt.append_left {phrase : List Token} {t : Token} {f : Failure}
    (h : f.PointsAt phrase t) (before : List Token) : f.PointsAt (before ++ phrase) t := by
  cases f with
  | unexpected | expected => exact h
  | notSelected =>
    obtain ⟨u, hu, hpos⟩ := h
    exact ⟨u, List.mem_append_right _ hu, hpos⟩
  | _ => exact h.elim

/-- A reader of tokens. -/
abbrev Reader (α : Type) := List Token → Except Failure (Parsed α)

namespace Reader

variable {α β : Type}

/-! ## Local readers -/

/-- Whether a reader looks at the first token only of what it leaves. -/
structure Local (r : Reader α) : Prop where
  ok : ∀ {ts us a}, r ts = .ok (a, us) → ∃ phrase, ts = phrase ++ us ∧
    (∀ t ∈ phrase, t.kind.Readable) ∧
    ∀ phrase' us', phrase'.map content = phrase.map content →
      (first us').content = (first us).content → r (phrase' ++ us') = .ok (a, us')
  error : ∀ {ts f}, r ts = .error f → ∃ phrase us, ts = phrase ++ us ∧
    (∀ t ∈ phrase, t.kind.Readable) ∧ f.PointsAt phrase (first us) ∧
    ∀ us', first us' = first us → r (phrase ++ us') = .error f

/-- A reader leaves no more tokens than there were. -/
lemma Local.length_le {r : Reader α} (h : Local r) {ts us : List Token} {a : α}
    (hread : r ts = .ok (a, us)) : us.length ≤ ts.length := by
  obtain ⟨phrase, rfl, -⟩ := h.ok hread
  exact (List.suffix_append phrase us).length_le

/-- Reads nothing. -/
def done (a : α) : Reader α := fun ts => .ok (a, ts)

/-- Fails at the first token. -/
def unexpected : Reader α := fun ts => .error (.unexpected (first ts))

/-- Fails at the first token, in place of which something else had to stand. -/
def expected (what : Expectation) : Reader α := fun ts => .error (.expected what (first ts))

/-- One reader after another. -/
def andThen (r : Reader α) (s : α → Reader β) : Reader β := fun ts => r ts >>= fun p => s p.1 p.2

/-- One reader or another, as the first token decides, which is not read by that. -/
def branch (p : Token → Bool) (r s : Reader α) : Reader α := fun ts =>
  if p (first ts) then r ts else s ts

/-- Reads the first token if it is one of a choice, and goes on with what it was chosen as;
otherwise takes another reader. -/
def choose (choice : Token → Option β) (s : β → Reader α) (r : Reader α) : Reader α := fun ts =>
  match choice (first ts) with
  | some b => s b ts.tail
  | none => r ts

/-- Reads the tokens of a kind that come first, and goes on with their number. -/
def skip (kind : Token.Kind) (r : Nat → Reader α) : Reader α := fun ts =>
  r (ts.takeWhile (·.kind == kind)).length (ts.dropWhile (·.kind == kind))

/-- Reading nothing is local. -/
lemma Local.done (a : α) : Local (done a) where
  ok h := by
    cases h
    exact ⟨[], rfl, nofun, fun phrase' us' hphrase _ => by
      obtain rfl := List.map_eq_nil_iff.1 hphrase
      rfl⟩
  error h := by cases h

/-- Failing at the first token is local. -/
lemma Local.unexpected : Local (unexpected : Reader α) where
  ok h := by cases h
  error {ts f} h := by
    cases h
    exact ⟨[], ts, rfl, nofun, rfl, fun us' hus => by rw [List.nil_append, Reader.unexpected, hus]⟩

/-- Failing at the first token for want of something else is local. -/
lemma Local.expected (what : Expectation) : Local (expected what : Reader α) where
  ok h := by cases h
  error {ts f} h := by
    cases h
    exact ⟨[], ts, rfl, nofun, rfl, fun us' hus => by rw [List.nil_append, Reader.expected, hus]⟩

/-- One local reader after another is local. -/
lemma Local.andThen {r : Reader α} {s : α → Reader β} (hr : Local r) (hs : ∀ a, Local (s a)) :
    Local (andThen r s) where
  ok {ts vs b} h := by
    obtain ⟨⟨a, us⟩, ha, hb⟩ := bind_eq_ok.1 h
    obtain ⟨phrase, rfl, hread, hr⟩ := hr.ok ha
    obtain ⟨phrase₂, rfl, hread₂, hs⟩ := (hs a).ok hb
    refine ⟨phrase ++ phrase₂, (List.append_assoc ..).symm,
      List.forall_mem_append.2 ⟨hread, hread₂⟩, fun phrase' vs' hphrase hvs => ?_⟩
    rw [List.map_append] at hphrase
    obtain ⟨p, p₂, rfl, hp, hp₂⟩ := List.map_eq_append_iff.1 hphrase
    rw [List.append_assoc]
    exact bind_eq_ok.2 ⟨_, hr p _ hp (content_first_append hp₂ hvs), hs p₂ vs' hp₂ hvs⟩
  error {ts f} h := by
    obtain herror | ⟨⟨a, us⟩, ha, herror⟩ := bind_eq_error.1 h
    · obtain ⟨phrase, us, rfl, hread, hpoints, hr⟩ := hr.error herror
      exact ⟨phrase, us, rfl, hread, hpoints, fun us' hus => bind_eq_error.2 (.inl (hr us' hus))⟩
    · obtain ⟨phrase, rfl, hread, hr⟩ := hr.ok ha
      obtain ⟨phrase₂, us, rfl, hread₂, hpoints, hs⟩ := (hs a).error herror
      refine ⟨phrase ++ phrase₂, us, (List.append_assoc ..).symm,
        List.forall_mem_append.2 ⟨hread, hread₂⟩, hpoints.append_left phrase, fun us' hus => ?_⟩
      rw [List.append_assoc]
      exact bind_eq_error.2 (.inr ⟨_, hr phrase _ rfl (by rw [first_append phrase₂ hus]),
        hs us' hus⟩)

/-- Two local readers among which the first token decides, but not its place, are local. -/
lemma Local.branch {p : Token → Bool} (hp : ∀ {t u}, t.content = u.content → p t = p u)
    {r s : Reader α} (hr : Local r) (hs : Local s) : Local (branch p r s) where
  ok {ts us a} h := by
    obtain ⟨phrase, hphrase, hread, hcopy⟩ : ∃ phrase, ts = phrase ++ us ∧
        (∀ t ∈ phrase, t.kind.Readable) ∧ ∀ phrase' us', phrase'.map content = phrase.map content →
          (first us').content = (first us).content →
            (if p (first ts) then r else s) (phrase' ++ us') = .ok (a, us') := by
      rw [Reader.branch] at h
      split_ifs at h ⊢
      · exact hr.ok h
      · exact hs.ok h
    subst hphrase
    refine ⟨phrase, rfl, hread, fun phrase' us' hphrase hus => ?_⟩
    rw [Reader.branch, hp (content_first_append hphrase hus), ← hcopy phrase' us' hphrase hus]
    split_ifs <;> rfl
  error {ts f} h := by
    obtain ⟨phrase, us, hphrase, hread, hpoints, hcopy⟩ : ∃ phrase us, ts = phrase ++ us ∧
        (∀ t ∈ phrase, t.kind.Readable) ∧ f.PointsAt phrase (first us) ∧
          ∀ us', first us' = first us →
            (if p (first ts) then r else s) (phrase ++ us') = .error f := by
      rw [Reader.branch] at h
      split_ifs at h ⊢
      · exact hr.error h
      · exact hs.error h
    subst hphrase
    refine ⟨phrase, us, rfl, hread, hpoints, fun us' hus => ?_⟩
    rw [Reader.branch, first_append phrase hus, ← hcopy us' hus]
    split_ifs <;> rfl

/-- Whether a choice takes readable tokens only, and does not depend on their places. -/
structure IsChoice (choice : Token → Option β) : Prop where
  readable : ∀ {t b}, choice t = some b → t.kind.Readable
  content : ∀ {t u}, t.content = u.content → choice t = choice u

/-- What goes on after the tokens of a choice is local if it is local after those tokens. -/
lemma Local.choose {choice : Token → Option β} {s : β → Reader α} {r : Reader α}
    (hchoice : IsChoice choice) (hs : ∀ b, Local (s b)) (hr : Local r) :
    Local (choose choice s r) where
  ok {ts us a} h := by
    rw [Reader.choose] at h
    split at h
    · next b hb =>
      cases ts with
      | nil => exact absurd (hchoice.readable hb) (by decide)
      | cons t ts =>
        obtain ⟨phrase, rfl, hread, hs⟩ := (hs b).ok h
        refine ⟨t :: phrase, rfl, List.forall_mem_cons.2 ⟨hchoice.readable hb, hread⟩,
          fun phrase' us' hphrase hus => ?_⟩
        obtain ⟨t', phrase', rfl, ht, hphrase⟩ := List.map_eq_cons_iff.1 hphrase
        have hb' : choice t' = some b := (hchoice.content ht).trans hb
        simp only [List.cons_append, Reader.choose, first, hb']
        exact hs phrase' us' hphrase hus
    · next hnone =>
      obtain ⟨phrase, rfl, hread, hr⟩ := hr.ok h
      refine ⟨phrase, rfl, hread, fun phrase' us' hphrase hus => ?_⟩
      rw [Reader.choose, hchoice.content (content_first_append hphrase hus), hnone]
      exact hr phrase' us' hphrase hus
  error {ts f} h := by
    rw [Reader.choose] at h
    split at h
    · next b hb =>
      cases ts with
      | nil => exact absurd (hchoice.readable hb) (by decide)
      | cons t ts =>
        obtain ⟨phrase, us, rfl, hread, hpoints, hs⟩ := (hs b).error h
        refine ⟨t :: phrase, us, rfl, List.forall_mem_cons.2 ⟨hchoice.readable hb, hread⟩,
          hpoints.append_left [t], fun us' hus => ?_⟩
        have hb' : choice t = some b := hb
        simp only [List.cons_append, Reader.choose, first, hb']
        exact hs us' hus
    · next hnone =>
      obtain ⟨phrase, us, rfl, hread, hpoints, hr⟩ := hr.error h
      refine ⟨phrase, us, rfl, hread, hpoints, fun us' hus => ?_⟩
      rw [Reader.choose, first_append phrase hus, hnone]
      exact hr us' hus

/-- The tokens of a kind that come first, and the rest, which begins with another kind. -/
lemma exists_span {kind : Token.Kind} (hkind : kind.Readable) (ts : List Token) :
    ∃ nots rest, ts = nots ++ rest ∧ (∀ t ∈ nots, t.kind = kind) ∧ (first rest).kind ≠ kind := by
  refine ⟨_, _, (List.takeWhile_append_dropWhile (p := (·.kind == kind))).symm,
    fun t ht => by simpa using List.mem_takeWhile_imp ht, ?_⟩
  cases hrest : ts.dropWhile (·.kind == kind) with
  | nil =>
    rintro rfl
    exact absurd hkind (by decide)
  | cons t rest =>
    have hhead := List.head?_dropWhile_not (·.kind == kind) ts
    rw [hrest] at hhead
    simpa [first] using hhead

/-- Tokens of a kind are read as long as they come. -/
lemma skip_append {kind : Token.Kind} {r : Nat → Reader α} {nots rest : List Token}
    (hnots : ∀ t ∈ nots, t.kind = kind) (hrest : (first rest).kind ≠ kind) :
    skip kind r (nots ++ rest) = r nots.length rest := by
  have hnots' : ∀ t ∈ nots, (t.kind == kind) = true := fun t ht => beq_iff_eq.2 (hnots t ht)
  rw [skip, List.takeWhile_append_of_pos hnots', List.dropWhile_append_of_pos hnots']
  cases rest with
  | nil => simp
  | cons t rest =>
    have ht : (t.kind == kind) = false := beq_eq_false_iff_ne.2 hrest
    simp [ht]

/-- Reading all tokens of a readable kind keeps readers local. -/
lemma Local.skip {kind : Token.Kind} (hkind : kind.Readable) {r : Nat → Reader α}
    (hr : ∀ n, Local (r n)) : Local (skip kind r) where
  ok {ts us a} h := by
    obtain ⟨nots, rest, rfl, hnots, hrest⟩ := exists_span hkind ts
    rw [skip_append hnots hrest] at h
    obtain ⟨phrase, rfl, hread, hr⟩ := (hr _).ok h
    refine ⟨nots ++ phrase, (List.append_assoc ..).symm,
      List.forall_mem_append.2 ⟨fun t ht => hnots t ht ▸ hkind, hread⟩,
      fun phrase' us' hphrase hus => ?_⟩
    rw [List.map_append] at hphrase
    obtain ⟨nots', p, rfl, hn, hp⟩ := List.map_eq_append_iff.1 hphrase
    have hnots' : ∀ t ∈ nots', t.kind = kind := by
      intro t ht
      obtain ⟨u, hu, heq⟩ := List.mem_map.1 (hn ▸ List.mem_map_of_mem ht)
      exact (congrArg Prod.fst heq).symm.trans (hnots u hu)
    have hfirst := congrArg Prod.fst (content_first_append hp hus)
    have hlength : nots'.length = nots.length := by simpa using congrArg List.length hn
    rw [List.append_assoc, skip_append hnots' fun heq => hrest (hfirst.symm.trans heq), hlength]
    exact hr p us' hp hus
  error {ts f} h := by
    obtain ⟨nots, rest, rfl, hnots, hrest⟩ := exists_span hkind ts
    rw [skip_append hnots hrest] at h
    obtain ⟨phrase, us, rfl, hread, hpoints, hr⟩ := (hr _).error h
    refine ⟨nots ++ phrase, us, (List.append_assoc ..).symm,
      List.forall_mem_append.2 ⟨fun t ht => hnots t ht ▸ hkind, hread⟩,
      hpoints.append_left nots, fun us' hus => ?_⟩
    rw [List.append_assoc, skip_append hnots (first_append phrase hus ▸ hrest)]
    exact hr us' hus

/-! ## Choices -/

/-- The text of a token of a kind. -/
def ofKind (kind : Token.Kind) (t : Token) : Option String :=
  if t.kind = kind then some t.text else none

/-- The mark of a token that spells a word. -/
def ofWord (word : String) (t : Token) : Option Unit := if t.isWord word then some () else none

/-- What a table of kinds has for a token, and its text. -/
def ofTable (table : Token.Kind → Option β) (t : Token) : Option (β × String) :=
  (table t.kind).map (·, t.text)

/-- A kind is a choice. -/
lemma isChoice_ofKind {kind : Token.Kind} (hkind : kind.Readable) : IsChoice (ofKind kind) where
  readable {t b} h := by
    unfold ofKind at h
    split at h
    · next heq => exact heq ▸ hkind
    · cases h
  content {t u} h := by
    obtain ⟨hkind, htext⟩ := Prod.mk.inj h
    simp only [ofKind, hkind, htext]

/-- A word is a choice. -/
lemma isChoice_ofWord (word : String) : IsChoice (ofWord word) where
  readable {t b} h := by
    unfold ofWord at h
    split at h
    · next hword =>
      rw [(Token.isWord_iff.1 hword).1]
      decide
    · cases h
  content {t u} h := by
    obtain ⟨hkind, htext⟩ := Prod.mk.inj h
    rw [ofWord, ofWord, Token.isWord, Token.isWord, hkind, htext]

/-- A table of kinds is a choice if it has readable kinds only. -/
lemma isChoice_ofTable {table : Token.Kind → Option β}
    (htable : ∀ {kind b}, table kind = some b → kind.Readable) : IsChoice (ofTable table) where
  readable {t b} h := by
    obtain ⟨b', hb', -⟩ := Option.map_eq_some_iff.1 h
    exact htable hb'
  content {t u} h := by
    obtain ⟨hkind, htext⟩ := Prod.mk.inj h
    simp only [ofTable, hkind, htext]

section Choose

variable {choice : Token → Option β} {s : β → Reader α} {r : Reader α} {t : Token} {ts : List Token}

/-- A token of the choice is read. -/
lemma choose_of_some {b : β} (h : choice t = some b) : choose choice s r (t :: ts) = s b ts := by
  rw [choose, first, h, List.tail_cons]

/-- Another token is left to the other reader. -/
lemma choose_of_none (h : choice t = none) : choose choice s r (t :: ts) = r (t :: ts) := by
  rw [choose, first, h]

end Choose

/-- The choice of a token of a kind, written out. -/
lemma choose_ofKind {kind : Token.Kind} (s : String → Reader α) (r : Reader α) (ts : List Token) :
    choose (ofKind kind) s r ts =
      if (first ts).kind = kind then s (first ts).text ts.tail else r ts := by
  unfold choose ofKind
  split_ifs <;> rfl

/-- Reads a token of a kind, of which only the text matters. -/
def token (kind : Token.Kind) : Reader String := choose (ofKind kind) done (expected (.kind kind))

/-- Reads a token that is a word. -/
def spelled (word : String) (what : Expectation) : Reader Unit :=
  choose (ofWord word) done (expected what)

/-- What reading a token of a kind does. -/
lemma expect_eq {kind : Token.Kind} (hkind : kind.Readable) (ts : List Token) :
    expect kind ts =
      if (first ts).kind = kind then .ok (first ts, ts.tail)
      else .error (.expected (.kind kind) (first ts)) := by
  cases ts with
  | nil =>
    rw [if_neg]
    · rfl
    · rintro rfl
      exact absurd hkind (by decide)
  | cons t ts => rfl

/-- What reading a word does. -/
lemma expectWord_eq (word : String) (what : Expectation) (ts : List Token) :
    expectWord word what ts =
      if (first ts).isWord word then .ok (first ts, ts.tail)
      else .error (.expected what (first ts)) := by
  cases ts <;> rfl

/-- A token of a kind of which only the text matters afterwards. -/
lemma expect_bind {kind : Token.Kind} (hkind : kind.Readable) (s : String → Reader α)
    (ts : List Token) :
    (expect kind ts >>= fun p => s p.1.text p.2) = andThen (token kind) s ts := by
  rw [expect_eq hkind, andThen, token, choose_ofKind]
  split_ifs <;> rfl

/-- A word, which does not matter afterwards. -/
lemma expectWord_bind (word : String) (what : Expectation) (r : Reader α) (ts : List Token) :
    (expectWord word what ts >>= fun p => r p.2) = andThen (spelled word what) (fun _ => r) ts := by
  rw [expectWord_eq, andThen, spelled, choose, ofWord]
  split_ifs <;> rfl

/-- Reading a token of a kind is local. -/
lemma Local.token {kind : Token.Kind} (hkind : kind.Readable) : Local (token kind) :=
  .choose (isChoice_ofKind hkind) .done (.expected _)

/-- Reading a word is local. -/
lemma Local.spelled (word : String) (what : Expectation) : Local (spelled word what) :=
  .choose (isChoice_ofWord word) .done (.expected _)

/-! ## Steps -/

section Congr

variable {ts : List Token}

/-- One reader after another, when each of them is replaced by one that does the same there. -/
lemma andThen_congr {r r' : Reader α} {s s' : α → Reader β} (hr : r' ts = r ts)
    (hs : ∀ a us, r ts = .ok (a, us) → s' a us = s a us) :
    andThen r' s' ts = andThen r s ts := by
  rw [andThen, andThen, hr]
  cases hread : r ts with
  | error f => rfl
  | ok p => exact hs p.1 p.2 hread

/-- A choice, when the readers after it are replaced by some that do the same there.  What a choice
has read is at least one token. -/
lemma choose_congr {choice : Token → Option β} (hchoice : IsChoice choice)
    {s s' : β → Reader α} {r r' : Reader α}
    (hs : ∀ b, ts.tail.length < ts.length → s' b ts.tail = s b ts.tail) (hr : r' ts = r ts) :
    choose choice s' r' ts = choose choice s r ts := by
  rw [choose, choose]
  split
  · next b hb =>
    cases ts with
    | nil => exact absurd (hchoice.readable hb) (by decide)
    | cons t ts => exact hs b (Nat.lt_succ_self _)
  · exact hr

/-- The readers among which the first token decides, when each of them is replaced. -/
lemma branch_congr {p : Token → Bool} {r r' s s' : Reader α} (hr : r' ts = r ts)
    (hs : s' ts = s ts) : branch p r' s' ts = branch p r s ts := by
  rw [branch, branch, hr, hs]

end Congr

/-- Among the ways to split a list of which something holds there is one with the longest phrase. -/
lemma exists_longest {p : List Token → List Token → Prop} {ts : List Token}
    (h : ∃ phrase us, ts = phrase ++ us ∧ p phrase us) :
    ∃ phrase us, ts = phrase ++ us ∧ p phrase us ∧ ∀ phrase' us', ts = phrase' ++ us' →
      p phrase' us' → ∃ between, phrase = phrase' ++ between ∧ us' = between ++ us := by
  induction ts generalizing p with
  | nil =>
    obtain ⟨phrase, us, hts, hp⟩ := h
    obtain ⟨rfl, rfl⟩ := List.append_eq_nil_iff.1 hts.symm
    refine ⟨[], [], rfl, hp, fun phrase' us' hts' _ => ?_⟩
    obtain ⟨rfl, rfl⟩ := List.append_eq_nil_iff.1 hts'.symm
    exact ⟨[], rfl, rfl⟩
  | cons t ts ih =>
    by_cases hlonger : ∃ phrase us, ts = phrase ++ us ∧ p (t :: phrase) us
    · obtain ⟨phrase, us, rfl, hp, hlongest⟩ := ih hlonger
      refine ⟨t :: phrase, us, rfl, hp, fun phrase' us' hts' hp' => ?_⟩
      cases phrase' with
      | nil => exact ⟨t :: phrase, rfl, hts'.symm⟩
      | cons t' phrase' =>
        obtain ⟨rfl, htail⟩ := List.cons_eq_cons.1 hts'
        obtain ⟨between, rfl, hus'⟩ := hlongest phrase' us' htail hp'
        exact ⟨between, rfl, hus'⟩
    · have hempty : ∀ phrase us, t :: ts = phrase ++ us → p phrase us →
          phrase = [] ∧ us = t :: ts := by
        intro phrase us hts hp
        cases phrase with
        | nil => exact ⟨rfl, hts.symm⟩
        | cons t' phrase =>
          obtain ⟨rfl, htail⟩ := List.cons_eq_cons.1 hts
          exact absurd ⟨phrase, us, htail, hp⟩ hlonger
      obtain ⟨phrase, us, hts, hp⟩ := h
      obtain ⟨rfl, rfl⟩ := hempty phrase us hts hp
      refine ⟨[], _, rfl, hp, fun phrase' us' hts' hp' => ?_⟩
      obtain ⟨rfl, rfl⟩ := hempty phrase' us' hts' hp'
      exact ⟨[], rfl, rfl⟩

/-- A reader with a number of steps that depends on the number of tokens is local if it is local
with every number of steps, and if more steps than that change nothing. -/
lemma Local.of_steps {r : Nat → Reader α} (bound : Nat → Nat) (hlocal : ∀ n, Local (r n))
    (hsteps : ∀ {n ts}, bound ts.length ≤ n → r (n + 1) ts = r n ts) :
    Local fun ts => r (bound ts.length) ts := by
  have henough : ∀ {ts n}, bound ts.length ≤ n → r (bound ts.length) ts = r n ts := by
    intro ts n hn
    induction n, hn using Nat.le_induction with
    | base => rfl
    | succ n hn ih => rw [ih, hsteps hn]
  -- two lists of tokens have a number of steps that is enough for both
  have hcommon : ∀ ts us, ∃ n, r (bound ts.length) ts = r n ts ∧
      r (bound us.length) us = r n us := fun ts us =>
    ⟨_, henough (Nat.le_max_left ..), henough (Nat.le_max_right ..)⟩
  constructor
  · intro ts us a h
    obtain ⟨phrase, rfl, hread, -⟩ := (hlocal _).ok h
    refine ⟨phrase, rfl, hread, fun phrase' us' hphrase hus => ?_⟩
    obtain ⟨n, hn, hn'⟩ := hcommon (phrase ++ us) (phrase' ++ us')
    obtain ⟨p, hp, -, hcopy⟩ := (hlocal n).ok (hn.symm.trans h)
    obtain rfl := List.append_cancel_right hp
    exact hn'.trans (hcopy phrase' us' hphrase hus)
  · intro ts f h
    -- with more steps the phrase might be another one, so the longest of them is taken
    have hphrase : ∃ phrase us, ts = phrase ++ us ∧ (∀ t ∈ phrase, t.kind.Readable) ∧
        f.PointsAt phrase (first us) := by
      obtain ⟨phrase, us, hts, hread, hpoints, -⟩ := (hlocal _).error h
      exact ⟨phrase, us, hts, hread, hpoints⟩
    obtain ⟨phrase, us, rfl, ⟨hread, hpoints⟩, hlongest⟩ := exists_longest hphrase
    refine ⟨phrase, us, rfl, hread, hpoints, fun us' hus => ?_⟩
    obtain ⟨n, hn, hn'⟩ := hcommon (phrase ++ us) (phrase ++ us')
    obtain ⟨p, vs, hp, hread', hpoints', hcopy⟩ := (hlocal n).error (hn.symm.trans h)
    obtain ⟨between, rfl, rfl⟩ := hlongest p vs hp ⟨hread', hpoints'⟩
    rw [hn', List.append_assoc]
    exact hcopy _ (first_append between hus)

end Reader

end ChartQuery
