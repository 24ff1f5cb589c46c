import Mathlib.Data.Nat.Basic
import Mathlib.Order.Compare
import Mathlib.Order.Lattice
import Mathlib.Tactic.Common

/-!
# The Gregorian calendar

Which dates there are, and how many days come before them. Dates in the order of their year, month
and day are in the order of their days.
-/

set_option linter.all false

namespace Calendar

def IsLeap (year : ℕ) : Prop := year % 400 = 0 ∨ (year % 4 = 0 ∧ year % 100 ≠ 0)

instance (year : ℕ) : Decidable (IsLeap year) := inferInstanceAs (Decidable (_ ∨ _))

/-- The days of a month. There are twelve. -/
def monthLength (year month : ℕ) : ℕ :=
  if month = 0 ∨ 12 < month then 0
  else if month = 2 then if IsLeap year then 29 else 28
  else if month = 4 ∨ month = 6 ∨ month = 9 ∨ month = 11 then 30
  else 31

/-- A date that there is. -/
structure IsDate (year month day : ℕ) : Prop where
  year_pos : 0 < year
  day_pos : 0 < day
  day_le : day ≤ monthLength year month

instance (year month day : ℕ) : Decidable (IsDate year month day) :=
  decidable_of_iff (0 < year ∧ 0 < day ∧ day ≤ monthLength year month)
    ⟨fun ⟨a, b, c⟩ => ⟨a, b, c⟩, fun ⟨a, b, c⟩ => ⟨a, b, c⟩⟩

theorem IsDate.month_le {year month day : ℕ} (h : IsDate year month day) : month ≤ 12 := by
  obtain ⟨-, hpos, hle⟩ := h
  by_contra hmonth
  rw [monthLength, if_pos (.inr (not_le.mp hmonth))] at hle
  omega

/-- The days of a year before a month. -/
def daysBeforeMonth (year : ℕ) : ℕ → ℕ
  | 0 => 0
  | month + 1 => daysBeforeMonth year month + monthLength year month

def yearLength (year : ℕ) : ℕ := daysBeforeMonth year 13

def daysBeforeYear : ℕ → ℕ
  | 0 => 0
  | year + 1 => daysBeforeYear year + yearLength year

/-- The number of a day. -/
def dayNumber (year month day : ℕ) : ℕ :=
  daysBeforeYear year + daysBeforeMonth year month + day

theorem daysBeforeMonth_mono (year : ℕ) : Monotone (daysBeforeMonth year) :=
  monotone_nat_of_le_succ fun _ => Nat.le_add_right _ _

theorem daysBeforeYear_mono : Monotone daysBeforeYear :=
  monotone_nat_of_le_succ fun _ => Nat.le_add_right _ _

theorem compare_add (a b c : ℕ) : compare (a + b) (a + c) = compare b c := by
  simp [Nat.compare_eq_ite_lt]

section Order

variable {year month day year' month' day' : ℕ}

/-- A day is in its month. -/
theorem IsDate.le_next_month (h : IsDate year month day) :
    daysBeforeMonth year month + day ≤ daysBeforeMonth year (month + 1) :=
  Nat.add_le_add_left h.day_le _

theorem IsDate.le_next_year (h : IsDate year month day) :
    daysBeforeYear year + daysBeforeMonth year month + day ≤ daysBeforeYear (year + 1) := by
  have hmonth : daysBeforeMonth year (month + 1) ≤ yearLength year :=
    daysBeforeMonth_mono year (Nat.succ_le_succ h.month_le)
  have hday := h.le_next_month
  rw [daysBeforeYear]
  omega

theorem dayNumber_lt_of_year_lt (h : IsDate year month day) (h' : IsDate year' month' day')
    (hlt : year < year') : dayNumber year month day < dayNumber year' month' day' := by
  have hyear := h.le_next_year
  have hmono : daysBeforeYear (year + 1) ≤ daysBeforeYear year' := daysBeforeYear_mono hlt
  have hpos := h'.day_pos
  unfold dayNumber
  omega

theorem dayNumber_lt_of_month_lt (h : IsDate year month day) (h' : IsDate year month' day')
    (hlt : month < month') : dayNumber year month day < dayNumber year month' day' := by
  have hmonth := h.le_next_month
  have hmono : daysBeforeMonth year (month + 1) ≤ daysBeforeMonth year month' :=
    daysBeforeMonth_mono year hlt
  have hpos := h'.day_pos
  unfold dayNumber
  omega

/-- Dates are in the order of their days. -/
theorem compare_dayNumber (h : IsDate year month day) (h' : IsDate year' month' day') :
    compare (dayNumber year month day) (dayNumber year' month' day') =
      (compare year year').then ((compare month month').then (compare day day')) := by
  rcases lt_trichotomy year year' with hyear | rfl | hyear
  · rw [compare_lt_iff_lt.mpr (dayNumber_lt_of_year_lt h h' hyear), compare_lt_iff_lt.mpr hyear]
    rfl
  · rcases lt_trichotomy month month' with hmonth | rfl | hmonth
    · rw [compare_lt_iff_lt.mpr (dayNumber_lt_of_month_lt h h' hmonth), compare_eq_iff_eq.mpr rfl,
        compare_lt_iff_lt.mpr hmonth]
      rfl
    · rw [compare_eq_iff_eq.mpr (rfl : year = year), compare_eq_iff_eq.mpr (rfl : month = month)]
      exact compare_add _ _ _
    · rw [compare_gt_iff_gt.mpr (dayNumber_lt_of_month_lt h' h hmonth), compare_eq_iff_eq.mpr rfl,
        compare_gt_iff_gt.mpr hmonth]
      rfl
  · rw [compare_gt_iff_gt.mpr (dayNumber_lt_of_year_lt h' h hyear), compare_gt_iff_gt.mpr hyear]
    rfl

end Order

-- ════════════════════════════════
-- Numbers of two places
-- ════════════════════════════════

theorem places_lt {base high low high' low' : ℕ} (h : low < base) (hlt : high < high') :
    high * base + low < high' * base + low' :=
  calc high * base + low < high * base + base := Nat.add_lt_add_left h _
    _ = (high + 1) * base := (Nat.succ_mul high base).symm
    _ ≤ high' * base := Nat.mul_le_mul_right base hlt
    _ ≤ high' * base + low' := Nat.le_add_right _ _

/-- Two places compare as the number that they make. -/
theorem compare_places {base high low high' low' : ℕ} (h : low < base) (h' : low' < base) :
    compare (high * base + low) (high' * base + low') =
      (compare high high').then (compare low low') := by
  rcases lt_trichotomy high high' with hhigh | rfl | hhigh
  · rw [compare_lt_iff_lt.mpr (places_lt h hhigh), compare_lt_iff_lt.mpr hhigh]
    rfl
  · rw [compare_eq_iff_eq.mpr (rfl : high = high)]
    exact compare_add _ _ _
  · rw [compare_gt_iff_gt.mpr (places_lt h' hhigh), compare_gt_iff_gt.mpr hhigh]
    rfl

end Calendar
