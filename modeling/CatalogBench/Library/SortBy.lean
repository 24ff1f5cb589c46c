import Mathlib.Data.List.Pairwise
import Mathlib.Data.List.Sort
import Mathlib.Order.Compare
import Mathlib.Tactic.Common

/-!
# Sorting by a comparison

A stable sort by a comparison function. If no two elements compare equal, the result depends on
the set of elements only.
-/

set_option linter.all false

namespace SortBy

/-- `slice::sort_by`. -/
def sortBy {α : Type*} (cmp : α → α → Ordering) (xs : List α) : List α :=
  xs.mergeSort fun a b => (cmp a b).isLE

section Sorted

variable {α β : Type*} {cmp : α → α → Ordering} {xs ys : List α}

theorem sortBy_perm (cmp : α → α → Ordering) (xs : List α) : (sortBy cmp xs).Perm xs :=
  List.mergeSort_perm _ _

@[simp] theorem mem_sortBy {a : α} : a ∈ sortBy cmp xs ↔ a ∈ xs := (sortBy_perm cmp xs).mem_iff

@[simp] theorem length_sortBy : (sortBy cmp xs).length = xs.length := (sortBy_perm cmp xs).length_eq

/-- A function that keeps the comparison commutes with the sort. -/
theorem map_sortBy {cmp' : β → β → Ordering} {f : α → β}
    (h : ∀ a ∈ xs, ∀ b ∈ xs, cmp a b = cmp' (f a) (f b)) :
    (sortBy cmp xs).map f = sortBy cmp' (xs.map f) :=
  List.map_mergeSort fun a ha b hb => by rw [h a ha b hb]

variable [Std.TransCmp cmp]

theorem pairwise_sortBy : (sortBy cmp xs).Pairwise fun a b => (cmp a b).isLE = true := by
  refine List.pairwise_mergeSort (fun a b c => Std.TransCmp.isLE_trans) (fun a b => ?_) xs
  rw [@Std.OrientedCmp.eq_swap α cmp _ b]
  cases cmp a b <;> rfl

/-- No two elements of the list compare equal. -/
def Distinguishes (cmp : α → α → Ordering) (xs : List α) : Prop :=
  xs.Pairwise fun a b => cmp a b ≠ .eq

namespace Distinguishes

theorem perm (h : Distinguishes cmp xs) (hperm : xs.Perm ys) : Distinguishes cmp ys :=
  (hperm.pairwise_iff fun hne heq => hne (Std.OrientedCmp.eq_comm.mp heq)).mp h

theorem eq_of_mem (h : Distinguishes cmp xs) {a b : α} (ha : a ∈ xs) (hb : b ∈ xs)
    (heq : cmp a b = .eq) : a = b := by
  have hsymm : Std.Symm fun a b : α => cmp a b ≠ .eq :=
    ⟨fun _ _ hne heq => hne (Std.OrientedCmp.eq_comm.mp heq)⟩
  by_contra hne
  exact List.Pairwise.forall h ha hb hne heq

/-- Then the sorted list grows strictly. -/
theorem pairwise_sortBy (h : Distinguishes cmp xs) :
    (sortBy cmp xs).Pairwise fun a b => cmp a b = .lt := by
  have hdistinct := h.perm (sortBy_perm cmp xs).symm
  refine (SortBy.pairwise_sortBy.and hdistinct).imp fun {a b} hboth => ?_
  obtain ⟨hle, hne⟩ := hboth
  cases hcmp : cmp a b with
  | lt => rfl
  | eq => exact absurd hcmp hne
  | gt => simp [hcmp] at hle

/-- Then the order of the list does not matter. -/
theorem sortBy_eq (h : Distinguishes cmp xs) (hperm : xs.Perm ys) :
    sortBy cmp xs = sortBy cmp ys := by
  refine List.Perm.eq_of_pairwise (fun a b ha hb hle hle' => ?_) SortBy.pairwise_sortBy
    SortBy.pairwise_sortBy
    ((sortBy_perm cmp xs).trans (hperm.trans (sortBy_perm cmp ys).symm))
  have hb : b ∈ xs := hperm.mem_iff.mpr (mem_sortBy.mp hb)
  exact h.eq_of_mem (mem_sortBy.mp ha) hb (Std.OrientedCmp.isLE_antisymm hle hle')

end Distinguishes

end Sorted

-- ════════════════════════════════
-- Standings
-- ════════════════════════════════

section Standings

variable {α κ μ ν : Type*} [Ord κ] [Ord μ] [Ord ν] {score : α → κ} {cost : α → μ} {name : α → ν}

/-- The greater score comes first, then the smaller cost, then the smaller name. -/
def compareStanding (score : α → κ) (cost : α → μ) (name : α → ν) : α → α → Ordering :=
  compareLex (fun a b => compare (score b) (score a)) (compareLex (compareOn cost) (compareOn name))

instance [Std.TransOrd κ] [Std.TransOrd μ] [Std.TransOrd ν] :
    Std.TransCmp (compareStanding score cost name) := by
  have hscore : Std.TransCmp fun a b : α => compare (score b) (score a) :=
    @Std.TransCmp.opposite α (compareOn score) _
  exact inferInstanceAs (Std.TransCmp (compareLex _ (compareLex (compareOn cost) (compareOn name))))

/-- Distinct names are enough. -/
theorem distinguishes_compareStanding [Std.LawfulEqOrd ν] {xs : List α}
    (h : (xs.map name).Nodup) : Distinguishes (compareStanding score cost name) xs := by
  refine (List.pairwise_map.mp h).imp fun hne heq => hne ?_
  exact Std.LawfulEqCmp.eq_of_compare (compareLex_eq_eq.mp (compareLex_eq_eq.mp heq).2).2

theorem compareStanding_eq_lt [Std.LawfulEqOrd κ] [Std.LawfulEqOrd μ] {a b : α} :
    compareStanding score cost name a b = .lt ↔
      compare (score b) (score a) = .lt ∨ score a = score b ∧
        (compare (cost a) (cost b) = .lt ∨ cost a = cost b ∧ compare (name a) (name b) = .lt) := by
  simp only [compareStanding, compareLex, compareOn, Ordering.then_eq_lt]
  rw [Std.LawfulEqCmp.compare_eq_iff_eq, Std.LawfulEqCmp.compare_eq_iff_eq, eq_comm (a := score b)]

end Standings

end SortBy
