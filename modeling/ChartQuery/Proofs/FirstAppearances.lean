import Mathlib.Data.Finset.Card
import Mathlib.Data.List.Basic
import Mathlib.Data.List.Induction
import Mathlib.Data.List.Nodup
import Mathlib.Data.Set.Function
import Mathlib.Tactic.Common

/-!
# First appearances

The rows and the columns of a pivoted table, and the entries that the formats of a query of all
columns become, are listed once each, in the order in which they appear first.
-/

namespace ChartQuery

section FirstAppearances

variable {α : Type} [DecidableEq α]

/-- `FirstAppearances ds xs`: the list `ds` holds the elements of `xs`, each once, in the order in
which they appear first. -/
structure FirstAppearances (ds xs : List α) : Prop where
  nodup : ds.Nodup
  mem_iff : ∀ x, x ∈ ds ↔ x ∈ xs
  inOrder : ds.Pairwise fun x y => xs.idxOf x < xs.idxOf y

/-- There is one list of first appearances only. -/
lemma FirstAppearances.unique {ds ds' xs : List α} (h : FirstAppearances ds xs)
    (h' : FirstAppearances ds' xs) : ds = ds' := by
  have hperm : ds.Perm ds' :=
    (List.perm_ext_iff_of_nodup h.nodup h'.nodup).2 fun x => (h.mem_iff x).trans (h'.mem_iff x).symm
  refine hperm.eq_of_pairwise (fun x y _ _ hxy hyx => ?_) h.inOrder h'.inOrder
  exact absurd hxy (Nat.lt_asymm hyx)

/-- One more element is kept if it has not appeared before. -/
lemma eraseDups_concat (xs : List α) (x : α) :
    (xs ++ [x]).eraseDups = if x ∈ xs then xs.eraseDups else xs.eraseDups ++ [x] := by
  rw [List.eraseDups_append]
  by_cases hx : x ∈ xs
  · have hnone : [x].removeAll xs = [] := by simp [List.removeAll, hx]
    rw [hnone, if_pos hx]
    simp
  · have hsome : [x].removeAll xs = [x] := by simp [List.removeAll, hx]
    have hsingle : [x].eraseDups = [x] := by simp [List.eraseDups_cons]
    rw [hsome, if_neg hx, hsingle]

/-- Leaving out what has appeared before leaves the first appearances. -/
lemma firstAppearances_eraseDups (xs : List α) : FirstAppearances xs.eraseDups xs := by
  refine ⟨?_, fun x => List.mem_eraseDups, ?_⟩
  · induction xs using List.reverseRecOn with
    | nil => exact List.nodup_nil
    | append_singleton xs x ih =>
      rw [eraseDups_concat]
      split
      · exact ih
      · next hx =>
        have hdisjoint : ∀ y ∈ xs.eraseDups, ∀ z ∈ [x], y ≠ z := by
          intro y hy z hz hyz
          rw [hyz, List.mem_singleton.1 hz] at hy
          exact hx (List.mem_eraseDups.1 hy)
        exact List.nodup_append.2 ⟨ih, List.nodup_singleton x, hdisjoint⟩
  · induction xs using List.reverseRecOn with
    | nil => exact .nil
    | append_singleton xs x ih =>
      have hbefore : ∀ y ∈ xs.eraseDups, (xs ++ [x]).idxOf y = xs.idxOf y := fun y hy =>
        List.idxOf_append_of_mem (List.mem_eraseDups.1 hy)
      have hkept : xs.eraseDups.Pairwise fun y z =>
          (xs ++ [x]).idxOf y < (xs ++ [x]).idxOf z := by
        refine ih.imp_of_mem fun {y z} hy hz hlt => ?_
        rw [hbefore y hy, hbefore z hz]
        exact hlt
      rw [eraseDups_concat]
      split
      · exact hkept
      · next hx =>
        refine List.pairwise_append.2 ⟨hkept, List.pairwise_singleton _ x, ?_⟩
        intro y hy z hz
        have hmem : y ∈ xs := List.mem_eraseDups.1 hy
        have hlt : xs.idxOf y < xs.length := List.idxOf_lt_length_iff.2 hmem
        rw [List.mem_singleton.1 hz, hbefore y hy, List.idxOf_append, if_neg hx]
        omega

end FirstAppearances

/-! ## Texts of elements -/

section Texts

variable {α β : Type} [DecidableEq β] {ds : List β} {xs : List α} {f : α → β}

/-- **There are as many texts as elements** exactly if no two elements have the same text. -/
lemma FirstAppearances.length_eq_card_iff [DecidableEq α] (h : FirstAppearances ds (xs.map f)) :
    ds.length = xs.toFinset.card ↔ Set.InjOn f {x | x ∈ xs} := by
  have himage : ds.toFinset = xs.toFinset.image f := by
    ext d
    rw [List.mem_toFinset, h.mem_iff, List.mem_map, Finset.mem_image]
    simp only [List.mem_toFinset]
  have hcoe : (xs.toFinset : Set α) = {x | x ∈ xs} := List.coe_toFinset xs
  rw [← List.toFinset_card_of_nodup h.nodup, himage, Finset.card_image_iff, hcoe]

/-- If no two elements have the same text, the places of their texts are the places of the
elements. -/
lemma FirstAppearances.bijOn_idxOf (h : FirstAppearances ds (xs.map f))
    (hf : Set.InjOn f {x | x ∈ xs}) :
    Set.BijOn (fun x => ds.idxOf (f x)) {x | x ∈ xs} {i | i < ds.length} := by
  have hmem : ∀ x ∈ xs, f x ∈ ds := fun x hx => (h.mem_iff (f x)).2 (List.mem_map_of_mem hx)
  refine ⟨fun x hx => List.idxOf_lt_length_iff.2 (hmem x hx), ?_, ?_⟩
  · intro x hx y hy hxy
    have hsame : f x = f y := (List.idxOf_inj (hmem x hx)).1 hxy
    exact hf hx hy hsame
  · intro i hi
    have hi : i < ds.length := hi
    obtain ⟨x, hx, hfx⟩ := List.mem_map.1 ((h.mem_iff ds[i]).1 (List.getElem_mem hi))
    refine ⟨x, hx, ?_⟩
    change ds.idxOf (f x) = i
    rw [hfx, h.nodup.idxOf_getElem i hi]

end Texts

end ChartQuery
