import Mathlib.Data.List.Basic
import Mathlib.Tactic.Common

/-!
# A store of named objects

A list of objects with names, to which an object is added only under a name that is free.
-/

set_option linter.all false

namespace NamedStore

variable {α : Type*} {name : α → String} {items items' : List α} {item : α} {key : String}

/-- The objects of that name. -/
def named (name : α → String) (items : List α) (key : String) : List α :=
  items.filter fun item => name item = key

/-- Add an object under a free name. -/
def create (name : α → String) (items : List α) (item : α) : Option (List α) :=
  if named name items (name item) = [] then some (items ++ [item]) else none

/-- Change the objects of one name. -/
def update (name : α → String) (items : List α) (key : String) (change : α → α) : List α :=
  items.map fun item => if name item = key then change item else item

theorem create_eq_some : create name items item = some items' ↔
    named name items (name item) = [] ∧ items' = items ++ [item] := by
  unfold create
  split
  · next h => simp [h, eq_comm]
  · next h => simp [h]

theorem create_eq_none : create name items item = none ↔ named name items (name item) ≠ [] := by
  unfold create
  split
  · next h => simp [h]
  · next h => simp [h]

/-- A created object is the only one of its name. -/
theorem named_append_self (h : named name items (name item) = []) :
    named name (items ++ [item]) (name item) = [item] := by
  unfold named at h ⊢
  rw [List.filter_append, h]
  simp

/-- A change that keeps the name changes the objects of that name and leaves their number. -/
theorem named_update {change : α → α} (hname : ∀ item, name (change item) = name item) :
    named name (update name items key change) key = (named name items key).map change := by
  unfold named update
  rw [List.filter_map, List.filter_congr (q := fun item => decide (name item = key))]
  · refine List.map_congr_left fun item hitem => ?_
    rw [if_pos (by simpa using (List.mem_filter.mp hitem).2)]
  · intro item _
    by_cases h : name item = key <;> simp [h, hname]

end NamedStore
