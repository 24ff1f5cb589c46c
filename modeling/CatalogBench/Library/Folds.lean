import Mathlib.Data.List.Induction
import Mathlib.Tactic.Common

/-!
# Folds over events

What a state that was folded from a list of events says about the list: a fact that only events of
a kind establish was established by one of them, and a value that every event either sets or keeps
is what the last event that sets it made of it.
-/

set_option linter.all false

namespace Folds

variable {σ ε α : Type} {step : σ → ε → σ}

/-- A fact that only some events establish was true before or one of them happened. -/
theorem exists_of_foldl {holds : σ → Prop} {makes : ε → Prop}
    (hstep : ∀ state event, holds (step state event) → holds state ∨ makes event) {state : σ}
    {events : List ε} (h : holds (events.foldl step state)) :
    holds state ∨ ∃ event ∈ events, makes event := by
  induction events generalizing state with
  | nil => exact .inl h
  | cons event events ih =>
    rcases ih h with hstate | ⟨later, hlater, hmakes⟩
    · rcases hstep state event hstate with hstate | hmakes
      · exact .inl hstate
      · exact .inr ⟨event, List.mem_cons_self, hmakes⟩
    · exact .inr ⟨later, List.mem_cons_of_mem _ hlater, hmakes⟩

/-- A value that every event sets or keeps is the last one that was set. -/
theorem foldl_last {value : σ → α} {sets : ε → Option α}
    (hstep : ∀ state event, value (step state event) = (sets event).getD (value state))
    (state : σ) (events : List ε) :
    value (events.foldl step state) = (events.filterMap sets).getLast?.getD (value state) := by
  induction events using List.reverseRecOn with
  | nil => rfl
  | append_singleton events event ih =>
    rw [List.foldl_append, List.foldl_cons, List.foldl_nil, hstep, ih, List.filterMap_append]
    cases hsets : sets event with
    | none => simp [hsets]
    | some new => simp [hsets]

end Folds
