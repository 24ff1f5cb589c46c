import Mathlib.Data.List.Basic
import Mathlib.Tactic.Common

/-!
# Texts with numbers at the end

A text that ends in separated segments is read from the right: when the last segment holds no
separator it is determined by the text, whatever stands before it.
-/

set_option linter.all false

namespace Decimal

-- ════════════════════════════════
-- The last segment
-- ════════════════════════════════

/-- A text is cut in one way only where the last element without the property `p` stands. -/
theorem last_segment_inj {α : Type*} {p : α → Prop} {xs ys ds es : List α} {s t : α}
    (hds : ∀ d ∈ ds, p d) (hes : ∀ e ∈ es, p e) (hs : ¬p s) (ht : ¬p t)
    (h : xs ++ s :: ds = ys ++ t :: es) : xs = ys ∧ s = t ∧ ds = es := by
  rcases List.append_eq_append_iff.mp h with ⟨as, rfl, hrest⟩ | ⟨bs, rfl, hrest⟩
  · cases as with
    | nil =>
      obtain ⟨rfl, rfl⟩ := List.cons.inj hrest
      exact ⟨(List.append_nil xs).symm, rfl, rfl⟩
    | cons a as =>
      obtain ⟨-, rfl⟩ := List.cons.inj hrest
      exact absurd (hds t (List.mem_append_right _ List.mem_cons_self)) ht
  · cases bs with
    | nil =>
      obtain ⟨rfl, rfl⟩ := List.cons.inj hrest
      exact ⟨List.append_nil ys, rfl, rfl⟩
    | cons b bs =>
      obtain ⟨-, rfl⟩ := List.cons.inj hrest
      exact absurd (hes s (List.mem_append_right _ List.mem_cons_self)) hs

/-- The last segment after a slash. -/
theorem slash_segment_inj {x y a b : String} (ha : '/' ∉ a.toList) (hb : '/' ∉ b.toList)
    (h : x ++ "/" ++ a = y ++ "/" ++ b) : x = y ∧ a = b := by
  have hlist : x.toList ++ '/' :: a.toList = y.toList ++ '/' :: b.toList := by
    simpa using congrArg String.toList h
  obtain ⟨hxy, -, hab⟩ := last_segment_inj (p := (· ≠ '/')) (fun d hd heq => ha (heq ▸ hd))
    (fun e he heq => hb (heq ▸ he)) (by simp) (by simp) hlist
  exact ⟨String.toList_injective hxy, String.toList_injective hab⟩

-- ════════════════════════════════
-- Numbers
-- ════════════════════════════════

theorem toList_toString (n : ℕ) : (toString n).toList = Nat.toDigits 10 n := by
  rw [Nat.toString_eq_repr, Nat.toList_repr]

theorem isDigit_of_mem_toString {n : ℕ} {c : Char} (hc : c ∈ (toString n).toList) :
    c.isDigit = true :=
  Nat.isDigit_of_mem_toDigits (by decide) (by decide) (toList_toString n ▸ hc)

/-- The number a text of digits stands for. -/
theorem ofDigitChars_toString (n : ℕ) : Nat.ofDigitChars 10 (toString n).toList 0 = n := by
  rw [toList_toString, Nat.ofDigitChars_ten_toDigits]

theorem toString_inj {m n : ℕ} (h : toString m = toString n) : m = n := by
  rw [← ofDigitChars_toString m, h, ofDigitChars_toString]

theorem slash_notMem_toString (n : ℕ) : '/' ∉ (toString n).toList := fun h =>
  absurd (isDigit_of_mem_toString h) (by decide)

/-- A number after a slash. -/
theorem slash_number_inj {x y : String} {m n : ℕ}
    (h : x ++ "/" ++ toString m = y ++ "/" ++ toString n) : x = y ∧ m = n := by
  obtain ⟨hxy, hmn⟩ := slash_segment_inj (slash_notMem_toString m) (slash_notMem_toString n) h
  exact ⟨hxy, toString_inj hmn⟩

end Decimal
