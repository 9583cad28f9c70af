import ChartQuery.Proofs.Reading
import ChartQuery.Table
import Mathlib.Data.List.Forall2

/-!
# Work on tables that succeeds

Work on a table may stop half way.  The lemmas here say what is known of work that came to its end,
and when the check of the shape of a table lets it go on.
-/

namespace ChartQuery

/-! ## Shapes -/

namespace Table

/-- Whether every row has a cell for each column. -/
def Rectangular (t : Table) : Prop := ∀ r ∈ t.rows, r.length = t.columns.length

/-- All that the check of a shape can do. -/
lemma checkShape_cases (t : Table) :
    (t.Rectangular ∧ t.checkShape = .ok ()) ∨
      (¬ t.Rectangular ∧ ∃ f, t.checkShape = .error f ∧ f.reason = .internalError) := by
  unfold checkShape
  cases hfind : t.rows.findIdx? fun r => r.length != t.columns.length with
  | none =>
    refine .inl ⟨fun r hr => ?_, rfl⟩
    simpa using List.findIdx?_eq_none_iff.1 hfind r hr
  | some i =>
    obtain ⟨hi, hlength, -⟩ := List.findIdx?_eq_some_iff_getElem.1 hfind
    refine .inr ⟨fun hrect => ?_, _, rfl, rfl⟩
    have hrow := hrect _ (List.getElem_mem hi)
    simp [hrow] at hlength

/-- A table is let through if it is rectangular. -/
lemma checkShape_eq_ok {t : Table} (h : t.checkShape = .ok ()) : t.Rectangular := by
  rcases checkShape_cases t with ⟨hrect, -⟩ | ⟨-, f, herror, -⟩
  · exact hrect
  · rw [herror] at h
    cases h

end Table

/-! ## Work -/

namespace Progress

variable {α β : Type}

/-- Work on a part of something larger succeeds if the work does. -/
lemma toExcept_map_eq_ok {f : α → β} {p : Progress α} {b : β} :
    (p.map f).toExcept = .ok b ↔ ∃ a, p.toExcept = .ok a ∧ f a = b := by
  obtain ⟨value, failure?⟩ := p
  cases failure? with
  | none => simp [map, toExcept]
  | some f => simp [map, toExcept]

/-- Work and more work succeed if both do. -/
lemma toExcept_andThen_eq_ok {p : Progress α} {next : α → Progress α} {b : α} :
    (p.andThen next).toExcept = .ok b ↔ ∃ a, p.toExcept = .ok a ∧ (next a).toExcept = .ok b := by
  obtain ⟨value, failure?⟩ := p
  cases failure? with
  | none => simp [andThen, toExcept]
  | some f => simp [andThen, toExcept]

/-- The result of work on the elements of a list is that of the work on each of them. -/
lemma toExcept_each_eq_ok {f : α → Except Failure α} {as bs : List α} :
    (each f as).toExcept = .ok bs ↔ List.Forall₂ (fun a b => f a = .ok b) as bs := by
  induction as generalizing bs with
  | nil =>
    rw [List.forall₂_nil_left_iff]
    constructor
    · exact fun h => (Except.ok.inj h).symm
    · rintro rfl
      rfl
  | cons a as ih =>
    rw [each, List.forall₂_cons_left_iff]
    cases hfirst : f a with
    | error e =>
      constructor
      · intro h
        cases h
      · rintro ⟨b, bs', hb, -⟩
        cases hb
    | ok b =>
      rw [toExcept_map_eq_ok]
      constructor
      · rintro ⟨bs', hbs, rfl⟩
        exact ⟨b, bs', rfl, ih.1 hbs, rfl⟩
      · rintro ⟨b', bs', hb, hbs, rfl⟩
        cases hb
        exact ⟨bs', ih.2 hbs, rfl⟩

/-- Work on the elements of a list succeeds if it does so on each of them. -/
lemma exists_toExcept_each {f : α → Except Failure α} {as : List α}
    (h : ∀ a ∈ as, ∃ b, f a = .ok b) : ∃ bs, (each f as).toExcept = .ok bs := by
  induction as with
  | nil => exact ⟨[], rfl⟩
  | cons a as ih =>
    obtain ⟨⟨b, hb⟩, hrest⟩ := List.forall_mem_cons.1 h
    obtain ⟨bs, hbs⟩ := ih hrest
    exact ⟨b :: bs, toExcept_each_eq_ok.2 (.cons hb (toExcept_each_eq_ok.1 hbs))⟩

end Progress

end ChartQuery
