import Mathlib.Data.List.Rotate
import Mathlib.Tactic.Common

/-!
# Rotations

A list of distinct elements is rotated by one more place at every step. Over as many consecutive
steps as it has elements, every element stands at every position exactly once.
-/

set_option linter.all false

namespace Rotation

-- ════════════════════════════════
-- Periodic predicates on windows of numbers
-- ════════════════════════════════

section Windows

variable {P : ℕ → Bool} {n : ℕ}

/-- A window of one period counts the same wherever it starts. -/
theorem countP_range'_succ (hperiod : ∀ i, P (i + n) = P i) (start : ℕ) :
    (List.range' (start + 1) n).countP P = (List.range' start n).countP P := by
  have hlong : (List.range' start (n + 1)).countP P =
      (List.range' start n).countP P + [start + n].countP P := by
    rw [← List.countP_append]
    congr 1
    exact List.range'_1_concat
  have hcons : (List.range' start (n + 1)).countP P =
      (List.range' (start + 1) n).countP P + [start].countP P := by
    rw [List.range'_succ, List.countP_cons, List.countP_singleton]
  have hends : [start + n].countP P = [start].countP P := by
    rw [List.countP_singleton, List.countP_singleton, hperiod]
  omega

theorem countP_window (hperiod : ∀ i, P (i + n) = P i) (start : ℕ) :
    (List.range' start n).countP P = (List.range n).countP P := by
  induction start with
  | zero => rw [List.range_eq_range']
  | succ start ih => rw [countP_range'_succ hperiod, ih]

/-- Over `k` periods each hit of one period is counted `k` times. -/
theorem countP_windows (hperiod : ∀ i, P (i + n) = P i) (start k : ℕ) :
    (List.range' start (k * n)).countP P = k * (List.range n).countP P := by
  induction k generalizing start with
  | zero => simp
  | succ k ih =>
    have hsplit : List.range' start ((k + 1) * n) =
        List.range' start n ++ List.range' (start + n) (k * n) := by
      rw [List.range'_append_1, Nat.succ_mul, Nat.add_comm]
    rw [hsplit, List.countP_append, countP_window hperiod, ih, Nat.succ_mul, Nat.add_comm]

end Windows

-- ════════════════════════════════
-- Rotated lists
-- ════════════════════════════════

section Rotate

variable {α : Type*} [DecidableEq α] {l : List α}

/-- The element `a` stands at `position` after a rotation by `i`. -/
def standsAt (l : List α) (a : α) (position i : ℕ) : Bool := (l.rotate i)[position]? = some a

theorem standsAt_add_length (a : α) (position i : ℕ) :
    standsAt l a position (i + l.length) = standsAt l a position i := by
  rw [standsAt, standsAt, Nat.add_comm, ← List.rotate_rotate, List.rotate_length]

/-- Of distinct elements, the one at index `j` stands at `position` exactly when the rotation
takes `j` there. -/
theorem standsAt_getElem (hnodup : l.Nodup) {j position : ℕ} (hj : j < l.length)
    (hposition : position < l.length) (i : ℕ) :
    standsAt l l[j] position i = true ↔ (position + i) % l.length = j := by
  have hpos : 0 < l.length := Nat.zero_lt_of_lt hj
  have hmod : (position + i) % l.length < l.length := Nat.mod_lt _ hpos
  rw [standsAt, decide_eq_true_iff, List.getElem?_rotate hposition,
    List.getElem?_eq_getElem hmod, Option.some.injEq]
  exact hnodup.getElem_inj_iff

theorem countP_standsAt_cycle (hnodup : l.Nodup) {a : α} (ha : a ∈ l) {position : ℕ}
    (hposition : position < l.length) :
    (List.range l.length).countP (standsAt l a position) = 1 := by
  obtain ⟨j, hj, rfl⟩ := List.mem_iff_getElem.mp ha
  -- The window that starts where the first element has come to `position` runs through the list.
  rw [← countP_window (fun i => standsAt_add_length l[j] position i) (l.length - position)]
  have hwindow : List.range' (l.length - position) l.length =
      (List.range l.length).map (l.length - position + ·) := by
    rw [List.range_eq_range', List.map_add_range', Nat.add_zero]
  have hhit : ∀ i ∈ List.range l.length,
      ((standsAt l l[j] position ∘ (l.length - position + ·)) i = true ↔ (i == j) = true) := by
    intro i hi
    have hlt : i < l.length := List.mem_range.mp hi
    rw [Function.comp_apply, standsAt_getElem hnodup hj hposition, beq_iff_eq]
    have hshift : position + (l.length - position + i) = i + l.length := by omega
    rw [hshift, Nat.add_mod_right, Nat.mod_eq_of_lt hlt]
  rw [hwindow, List.countP_map, List.countP_congr hhit]
  exact List.count_eq_one_of_mem List.nodup_range (List.mem_range.mpr hj)

/-- Over as many consecutive rotations as there are elements, every element stands at every
position exactly once. -/
theorem countP_standsAt_window (hnodup : l.Nodup) {a : α} (ha : a ∈ l) {position : ℕ}
    (hposition : position < l.length) (start : ℕ) :
    (List.range' start l.length).countP (standsAt l a position) = 1 := by
  rw [countP_window (standsAt_add_length a position), countP_standsAt_cycle hnodup ha hposition]

theorem countP_standsAt_windows (hnodup : l.Nodup) {a : α} (ha : a ∈ l) {position : ℕ}
    (hposition : position < l.length) (start k : ℕ) :
    (List.range' start (k * l.length)).countP (standsAt l a position) = k := by
  rw [countP_windows (standsAt_add_length a position), countP_standsAt_cycle hnodup ha hposition,
    Nat.mul_one]

end Rotate

end Rotation
