import Mathlib.Algebra.Group.Nat.Defs
import Mathlib.Algebra.GroupWithZero.Nat
import Mathlib.Algebra.Ring.Int.Defs
import Mathlib.Tactic.Common

/-!
# Fixed-width arithmetic

An unsigned machine integer of `bits` bits is a natural number below
`2 ^ bits`, a signed one an integer between `-2 ^ (bits - 1)` and
`2 ^ (bits - 1)`. The operations below return what the checked and
saturating operations of such a type return.
-/

set_option linter.all false

namespace MachineInt

/-- Addition that reports overflow. -/
def checkedAdd (bits a b : ℕ) : Option ℕ :=
  if a + b < 2 ^ bits then some (a + b) else none

/-- Multiplication that reports overflow. -/
def checkedMul (bits a b : ℕ) : Option ℕ :=
  if a * b < 2 ^ bits then some (a * b) else none

/-- Subtraction that reports underflow. -/
def checkedSub (a b : ℕ) : Option ℕ :=
  if b ≤ a then some (a - b) else none

/-- Signed addition that reports overflow. -/
def checkedSignedAdd (bits : ℕ) (a b : ℤ) : Option ℤ :=
  if -2 ^ (bits - 1) ≤ a + b ∧ a + b < 2 ^ (bits - 1) then some (a + b) else none

/-- Addition that stops at the largest value. -/
def saturatingAdd (bits a b : ℕ) : ℕ := min (a + b) (2 ^ bits - 1)

theorem checkedAdd_eq_some {bits a b n : ℕ} :
    checkedAdd bits a b = some n ↔ a + b = n ∧ a + b < 2 ^ bits := by
  unfold checkedAdd
  split
  · next h => simp [h]
  · next h => simp [h]

theorem checkedAdd_of_lt {bits a b : ℕ} (h : a + b < 2 ^ bits) :
    checkedAdd bits a b = some (a + b) := if_pos h

/-- A sum that fits is added up without overflow. -/
theorem foldlM_checkedAdd_of_lt {α : Type*} {bits start : ℕ} {xs : List α} {f : α → ℕ}
    (h : start + (xs.map f).sum < 2 ^ bits) :
    xs.foldlM (fun total x => checkedAdd bits total (f x)) start = some (start + (xs.map f).sum) := by
  induction xs generalizing start with
  | nil => rfl
  | cons x xs ih =>
    rw [List.map_cons, List.sum_cons, ← Nat.add_assoc] at h ⊢
    rw [List.foldlM_cons, checkedAdd_of_lt (by omega)]
    exact ih h

theorem checkedMul_eq_some {bits a b n : ℕ} :
    checkedMul bits a b = some n ↔ a * b = n ∧ a * b < 2 ^ bits := by
  unfold checkedMul
  split
  · next h => simp [h]
  · next h => simp [h]

theorem checkedSub_eq_some {a b n : ℕ} : checkedSub a b = some n ↔ b ≤ a ∧ a - b = n := by
  unfold checkedSub
  split
  · next h => simp [h]
  · next h => simp [h]

theorem checkedSignedAdd_eq {bits : ℕ} {a b n : ℤ} (h : checkedSignedAdd bits a b = some n) :
    n = a + b := by
  unfold checkedSignedAdd at h
  split at h
  · exact (Option.some.inj h).symm
  · cases h

theorem checkedSignedAdd_of_lt {bits : ℕ} {a b : ℤ} (hlow : -2 ^ (bits - 1) ≤ a + b)
    (hhigh : a + b < 2 ^ (bits - 1)) : checkedSignedAdd bits a b = some (a + b) :=
  if_pos ⟨hlow, hhigh⟩

theorem saturatingAdd_of_lt {bits a b : ℕ} (h : a + b < 2 ^ bits) :
    saturatingAdd bits a b = a + b :=
  Nat.min_eq_left (by omega)

end MachineInt
