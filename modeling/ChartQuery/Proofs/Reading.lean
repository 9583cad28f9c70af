import ChartQuery.Expr.Parser
import Mathlib.Tactic.Common

/-!
# Readers that succeed

A reader is a chain of smaller readers, each of which hands on the tokens that it leaves.  The
lemmas here take such a chain apart at its end, and say exactly when the readers of one token
succeed.
-/

namespace ChartQuery

/-- A chain of two steps succeeds exactly when both of its steps do. -/
lemma bind_eq_ok {ε α β : Type} {x : Except ε α} {f : α → Except ε β} {b : β} :
    x >>= f = .ok b ↔ ∃ a, x = .ok a ∧ f a = .ok b := by
  cases x with
  | error e => exact ⟨fun h => (by cases h), fun ⟨_, h, _⟩ => (by cases h)⟩
  | ok a => exact ⟨fun h => ⟨a, rfl, h⟩, fun ⟨_, ha, h⟩ => by cases ha; exact h⟩

/-- A chain of two steps fails where one of its steps does. -/
lemma bind_eq_error {ε α β : Type} {x : Except ε α} {f : α → Except ε β} {e : ε} :
    x >>= f = .error e ↔ x = .error e ∨ ∃ a, x = .ok a ∧ f a = .error e := by
  cases x with
  | error e' =>
    refine ⟨fun h => .inl ?_, ?_⟩
    · cases h
      rfl
    · rintro (h | ⟨_, h, -⟩) <;> cases h
      rfl
  | ok a =>
    refine ⟨fun h => .inr ⟨a, rfl, h⟩, ?_⟩
    rintro (h | ⟨_, ha, h⟩)
    · cases h
    · cases ha
      exact h

/-- A step that succeeds hands its result to the next step. -/
lemma ok_bind {ε α β : Type} (a : α) (f : α → Except ε β) :
    (Except.ok a >>= f) = f a := rfl

/-- A success whose result passes a test. -/
lemma exists_eq_ok {ε α : Type} (x : Except ε α) (p : α → Bool)
    (h : x.toOption.any p = true) : ∃ a, x = .ok a ∧ p a = true := by
  cases x with
  | error e => cases h
  | ok a => exact ⟨a, rfl, h⟩

namespace Token

/-- One token of a kind is read exactly where it stands first. -/
lemma expect_eq_ok {kind : Kind} {ts us : List Token} {t : Token} :
    expect kind ts = .ok (t, us) ↔ ts = t :: us ∧ t.kind = kind := by
  cases ts with
  | nil => simp [expect]
  | cons u vs =>
    by_cases hu : u.kind = kind
    · simp only [expect, if_pos hu, Except.ok.injEq, Prod.mk.injEq, List.cons.injEq]
      exact ⟨fun h => ⟨h, h.1 ▸ hu⟩, fun h => h.1⟩
    · simp only [expect, if_neg hu, reduceCtorEq, List.cons.injEq, false_iff, not_and]
      rintro ⟨rfl, -⟩
      exact hu

/-- A word is read exactly where it stands first. -/
lemma expectWord_eq_ok {word : String} {what : Expectation} {ts us : List Token} {t : Token} :
    expectWord word what ts = .ok (t, us) ↔ ts = t :: us ∧ t.isWord word = true := by
  cases ts with
  | nil => simp [expectWord]
  | cons u vs =>
    by_cases hu : u.isWord word = true
    · simp only [expectWord, if_pos hu, Except.ok.injEq, Prod.mk.injEq, List.cons.injEq]
      exact ⟨fun h => ⟨h, h.1 ▸ hu⟩, fun h => h.1⟩
    · simp only [expectWord, if_neg hu, reduceCtorEq, List.cons.injEq, false_iff, not_and]
      rintro ⟨rfl, -⟩
      exact hu

/-- One token of a kind is read where it stands first. -/
lemma expect_cons {kind : Kind} {t : Token} (us : List Token) (h : t.kind = kind) :
    expect kind (t :: us) = .ok (t, us) :=
  expect_eq_ok.2 ⟨rfl, h⟩

/-- A word is read where it stands first. -/
lemma expectWord_cons {word : String} {t : Token} (what : Expectation) (us : List Token)
    (h : t.isWord word = true) : expectWord word what (t :: us) = .ok (t, us) :=
  expectWord_eq_ok.2 ⟨rfl, h⟩

/-- Only names spell words. -/
lemma isWord_iff {t : Token} {word : String} :
    t.isWord word = true ↔ t.kind = .identifier ∧ t.text.toLower = word := by
  simp [isWord]

/-- A token spells one word at most. -/
lemma isWord_eq_false {t : Token} {word other : String} (h : t.isWord word = true)
    (hne : word ≠ other) : t.isWord other = false := by
  rw [isWord_iff] at h
  simp [isWord, h.2, hne]

/-- A kind other than that of the end of the text is that of a token that is there. -/
lemma eq_cons_of_first_kind {ts : List Token} {kind : Kind} (h : (first ts).kind = kind)
    (hkind : kind ≠ .endOfText) : ∃ t us, ts = t :: us ∧ t.kind = kind := by
  cases ts with
  | nil => exact absurd h.symm hkind
  | cons t us => exact ⟨t, us, rfl, h⟩

end Token

end ChartQuery
