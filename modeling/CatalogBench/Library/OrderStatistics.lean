import Mathlib.Data.List.Count
import Mathlib.Data.List.Sort
import Mathlib.Order.Basic

/-!
# Order statistics

The element of a list at a rank: as many elements as the rank are at most as great, and no smaller
element has that. In a sorted list it stands at the place before the rank.
-/

set_option linter.all false

namespace OrderStatistics

variable {α : Type*} [LinearOrder α] {xs ys : List α} {index rank : ℕ} {x bound : α}

/-- How many elements are at most as great as the bound. -/
def countLe (xs : List α) (bound : α) : ℕ := xs.countP (· ≤ bound)

theorem countLe_perm (h : xs.Perm ys) (bound : α) : countLe xs bound = countLe ys bound :=
  h.countP_eq _

/-- The element at a rank. -/
structure IsRanked (xs : List α) (rank : ℕ) (x : α) : Prop where
  mem : x ∈ xs
  covers : rank ≤ countLe xs x
  least : ∀ bound, rank ≤ countLe xs bound → x ≤ bound

theorem IsRanked.perm (h : IsRanked xs rank x) (hperm : xs.Perm ys) : IsRanked ys rank x where
  mem := hperm.mem_iff.mp h.mem
  covers := by rw [← countLe_perm hperm]; exact h.covers
  least bound hbound := h.least bound (by rwa [countLe_perm hperm])

/-- A greater rank has no smaller element. -/
theorem IsRanked.le {rank' : ℕ} {x' : α} (h : IsRanked xs rank x) (h' : IsRanked xs rank' x')
    (hle : rank ≤ rank') : x ≤ x' :=
  h.least x' (hle.trans h'.covers)

/-- Nothing is smaller than the first. -/
theorem IsRanked.first_le {y : α} (h : IsRanked xs 1 x) (hy : y ∈ xs) : x ≤ y :=
  h.least y (List.countP_pos_iff.mpr ⟨y, hy, decide_eq_true le_rfl⟩)

/-- Nothing is greater than the last. -/
theorem IsRanked.le_last {y : α} (h : IsRanked xs xs.length x) (hy : y ∈ xs) : y ≤ x := by
  have hall : countLe xs x = xs.length := le_antisymm List.countP_le_length h.covers
  simpa using List.countP_eq_length.mp hall y hy

section Sorted

/-- The elements up to a place are at most as great as the one at it. -/
theorem lt_countLe : ∀ {xs : List α} {index : ℕ}, xs.Pairwise (· ≤ ·) →
    ∀ hindex : index < xs.length, index < countLe xs (xs.get ⟨index, hindex⟩)
  | x :: xs, 0, _, _ => by simp [countLe]
  | x :: xs, index + 1, hsorted, hindex => by
    obtain ⟨hhead, htail⟩ := List.pairwise_cons.mp hsorted
    have hindex : index < xs.length := Nat.lt_of_succ_lt_succ hindex
    have hle : x ≤ xs.get ⟨index, hindex⟩ := hhead _ (List.get_mem _ _)
    have hrest := lt_countLe htail hindex
    have hcons : countLe (x :: xs) (xs.get ⟨index, hindex⟩) =
        countLe xs (xs.get ⟨index, hindex⟩) + 1 := by
      rw [countLe, countLe, List.countP_cons, if_pos (decide_eq_true hle)]
    calc index + 1 < countLe xs (xs.get ⟨index, hindex⟩) + 1 := Nat.succ_lt_succ hrest
      _ = countLe (x :: xs) (xs.get ⟨index, hindex⟩) := hcons.symm

/-- The elements from a place on are greater than what is smaller than the one at it. -/
theorem countLe_le : ∀ {xs : List α} {index : ℕ} {bound : α}, xs.Pairwise (· ≤ ·) →
    ∀ hindex : index < xs.length, bound < xs.get ⟨index, hindex⟩ → countLe xs bound ≤ index
  | x :: xs, 0, bound, hsorted, _, hbound => by
    obtain ⟨hhead, -⟩ := List.pairwise_cons.mp hsorted
    have hnone : countLe (x :: xs) bound = 0 := by
      refine List.countP_eq_zero.mpr fun y hy => ?_
      rw [decide_eq_true_iff, not_le]
      rcases List.mem_cons.mp hy with rfl | hy
      · exact hbound
      · exact hbound.trans_le (hhead y hy)
    exact hnone.le
  | x :: xs, index + 1, bound, hsorted, hindex, hbound => by
    obtain ⟨-, htail⟩ := List.pairwise_cons.mp hsorted
    have hrest := countLe_le htail (Nat.lt_of_succ_lt_succ hindex) hbound
    have hcons : countLe (x :: xs) bound ≤ countLe xs bound + 1 := by
      rw [countLe, countLe, List.countP_cons]
      split <;> omega
    exact hcons.trans (Nat.succ_le_succ hrest)

theorem isRanked_get (hsorted : xs.Pairwise (· ≤ ·)) (hindex : index < xs.length) :
    IsRanked xs (index + 1) (xs.get ⟨index, hindex⟩) where
  mem := List.get_mem _ _
  covers := lt_countLe hsorted hindex
  least bound hbound := by
    by_contra hlt
    exact absurd (countLe_le hsorted hindex (not_le.mp hlt)) (by omega)

end Sorted

end OrderStatistics
