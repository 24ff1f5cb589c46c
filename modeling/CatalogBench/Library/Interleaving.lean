import Mathlib.Data.List.Perm.Basic
import Mathlib.Tactic.Common

/-!
# Interleavings

The order in which the events of several sequences can happen when nothing but each sequence's
own order is kept.
-/

set_option linter.all false

/-- `Interleaving ls l`: the list `l` is made of the lists `ls`, each in its own order. -/
inductive Interleaving {α : Type*} : List (List α) → List α → Prop
  | done {ls : List (List α)} : (∀ l ∈ ls, l = []) → Interleaving ls []
  | next {before after : List (List α)} {rest l : List α} (a : α) :
      Interleaving (before ++ rest :: after) l →
      Interleaving (before ++ (a :: rest) :: after) (a :: l)

namespace Interleaving

variable {α : Type*}

/-- Nothing is lost and nothing is added. -/
theorem perm {ls : List (List α)} {l : List α} (h : Interleaving ls l) : l.Perm ls.flatten := by
  induction h with
  | done hnil =>
    rw [List.flatten_eq_nil_iff.mpr hnil]
  | @next before after rest l a _ ih =>
    rw [List.flatten_append, List.flatten_cons] at ih ⊢
    exact (ih.cons a).trans List.perm_middle.symm

/-- One sequence is its own interleaving. -/
theorem singleton (l : List α) : Interleaving [l] l := by
  induction l with
  | nil => exact .done (by simp)
  | cons a l ih => exact @next _ [] [] l l a ih

end Interleaving
