import Mathlib.Logic.Relation
import Mathlib.Data.List.Forall2
import Mathlib.Data.List.Perm.Basic
import Mathlib.Tactic.Common

/-!
# Threads over a shared state

A system is a shared state and a list of threads, each with a state of its own. In one step of
the system one thread takes an atomic step on the shared state and on its own, and the others
stay where they are. A guard can forbid a step in view of the other threads.
-/

set_option linter.all false

namespace Threads

variable {σ τ : Type*} {guard : σ → List τ → τ → Prop} {step : σ → τ → σ → τ → Prop}

/-- One step of the system, taken by the thread between `before` and `after`. -/
inductive Step (guard : σ → List τ → τ → Prop) (step : σ → τ → σ → τ → Prop) :
    σ × List τ → σ × List τ → Prop
  | mk {shared shared' : σ} {thread thread' : τ} (before after : List τ)
      (allowed : guard shared (before ++ after) thread)
      (moves : step shared thread shared' thread') :
      Step guard step (shared, before ++ thread :: after) (shared', before ++ thread' :: after)

/-- Any number of steps that the guard allows, in any order. -/
def GuardedRun (guard : σ → List τ → τ → Prop) (step : σ → τ → σ → τ → Prop) :
    σ × List τ → σ × List τ → Prop :=
  Relation.ReflTransGen (Step guard step)

/-- Any number of steps in any order. -/
abbrev Run (step : σ → τ → σ → τ → Prop) : σ × List τ → σ × List τ → Prop :=
  GuardedRun (fun _ _ _ => True) step

theorem GuardedRun.refl (system : σ × List τ) : GuardedRun guard step system system :=
  Relation.ReflTransGen.refl

theorem GuardedRun.tail {system : σ × List τ} {shared shared' : σ} {thread thread' : τ}
    {before after : List τ}
    (run : GuardedRun guard step system (shared, before ++ thread :: after))
    (allowed : guard shared (before ++ after) thread)
    (moves : step shared thread shared' thread') :
    GuardedRun guard step system (shared', before ++ thread' :: after) :=
  Relation.ReflTransGen.tail run (.mk before after allowed moves)

/-- What every allowed step preserves, a run preserves. -/
theorem GuardedRun.preserves {I : σ → List τ → Prop} {system system' : σ × List τ}
    (run : GuardedRun guard step system system')
    (hstep : ∀ {shared shared' thread thread' before after},
      I shared (before ++ thread :: after) → guard shared (before ++ after) thread →
      step shared thread shared' thread' → I shared' (before ++ thread' :: after))
    (hstart : I system.1 system.2) : I system'.1 system'.2 := by
  induction run with
  | refl => exact hstart
  | tail _ hlast ih =>
    obtain ⟨before, after, allowed, moves⟩ := hlast
    exact hstep ih allowed moves

/-- A run keeps a fact about the shared state and a fact about each thread if a thread's step
keeps both and does not disturb the fact about any other thread. -/
theorem GuardedRun.forall_mem {S : σ → Prop} {T : σ → τ → Prop}
    {system system' : σ × List τ} (run : GuardedRun guard step system system')
    (hstep : ∀ {shared shared' thread thread' others}, S shared →
      T shared thread → guard shared others thread → step shared thread shared' thread' →
      S shared' ∧ T shared' thread' ∧
        ∀ other ∈ others, T shared other → T shared' other)
    (hshared : S system.1) (hthreads : ∀ thread ∈ system.2, T system.1 thread) :
    S system'.1 ∧ ∀ thread ∈ system'.2, T system'.1 thread := by
  refine run.preserves (I := fun shared threads =>
    S shared ∧ ∀ thread ∈ threads, T shared thread) ?_ ⟨hshared, hthreads⟩
  rintro shared shared' thread thread' before after ⟨hshared, hthreads⟩ allowed moves
  obtain ⟨hshared', hthread', hothers⟩ :=
    hstep hshared (hthreads thread (by simp)) allowed moves
  refine ⟨hshared', fun other hother => ?_⟩
  simp only [List.mem_append, List.mem_cons] at hother
  rcases hother with hbefore | rfl | hafter
  · exact hothers other (by simp [hbefore]) (hthreads other (by simp [hbefore]))
  · exact hthread'
  · exact hothers other (by simp [hafter]) (hthreads other (by simp [hafter]))

/-- The same rule with a fact for each thread that depends on a tag of its own. -/
theorem GuardedRun.forall₂ {ι : Type*} {S : σ → Prop} {T : ι → σ → τ → Prop}
    {tags : List ι} {system system' : σ × List τ} (run : GuardedRun guard step system system')
    (hstep : ∀ {shared shared' thread thread' tag others}, S shared →
      T tag shared thread → guard shared others thread →
      step shared thread shared' thread' → S shared' ∧ T tag shared' thread' ∧
        ∀ tag' other, T tag' shared other → T tag' shared' other)
    (hshared : S system.1)
    (hthreads : List.Forall₂ (fun tag thread => T tag system.1 thread) tags system.2) :
    S system'.1 ∧
      List.Forall₂ (fun tag thread => T tag system'.1 thread) tags system'.2 := by
  refine run.preserves (I := fun shared threads => S shared ∧
    List.Forall₂ (fun tag thread => T tag shared thread) tags threads) ?_
    ⟨hshared, hthreads⟩
  rintro shared shared' thread thread' before after ⟨hshared, hthreads⟩ allowed moves
  have hbefore := List.forall₂_take_append _ _ _ hthreads
  have hafter := List.forall₂_drop_append _ _ _ hthreads
  rw [← List.take_append_drop before.length tags]
  generalize tags.take before.length = tagsBefore at hbefore ⊢
  generalize tags.drop before.length = tagsAfter at hafter ⊢
  cases hafter with
  | @cons tag _ tagsAfter _ htag hafter =>
    obtain ⟨hshared', hthread', hothers⟩ := hstep hshared htag allowed moves
    refine ⟨hshared', List.rel_append (hbefore.imp hothers) (.cons hthread' ?_)⟩
    exact hafter.imp hothers

/-- A run that keeps facts about the shared state and the threads is a run of the steps that are
taken where these facts hold. -/
theorem GuardedRun.strengthen {S : σ → Prop} {T : σ → τ → Prop}
    {system system' : σ × List τ} (run : GuardedRun guard step system system')
    (hstep : ∀ {shared shared' thread thread' others}, S shared →
      T shared thread → guard shared others thread → step shared thread shared' thread' →
      S shared' ∧ T shared' thread' ∧
        ∀ other ∈ others, T shared other → T shared' other)
    (hshared : S system.1) (hthreads : ∀ thread ∈ system.2, T system.1 thread) :
    GuardedRun (fun shared others thread => guard shared others thread ∧ S shared ∧
      T shared thread ∧ ∀ other ∈ others, T shared other) step system system' := by
  induction run with
  | refl => exact .refl system
  | tail run hlast ih =>
    obtain ⟨hshared, hthreads⟩ := GuardedRun.forall_mem run hstep hshared hthreads
    obtain ⟨before, after, allowed, moves⟩ := hlast
    refine ih.tail ⟨allowed, hshared, hthreads _ (by simp), fun other hother => ?_⟩ moves
    refine hthreads other ?_
    rcases List.mem_append.mp hother with hbefore | hafter
    · simp [hbefore]
    · simp [hafter]

/-- What no thread's step changes about itself stays as it is, thread by thread. -/
theorem GuardedRun.map_eq {α : Type*} {f : τ → α} {system system' : σ × List τ}
    (run : GuardedRun guard step system system')
    (hstep : ∀ {shared shared' thread thread'}, step shared thread shared' thread' →
      f thread' = f thread) :
    system'.2.map f = system.2.map f := by
  refine run.preserves (I := fun _ threads => threads.map f = system.2.map f) ?_ rfl
  intro shared shared' thread thread' before after hview _ moves
  simpa [hstep moves] using hview

/-- What one thread holds, set apart from what the others hold. -/
theorem perm_flatMap_middle {α : Type*} (held : τ → List α) (thread : τ) (before after : List τ) :
    ((before ++ thread :: after).flatMap held).Perm
      (held thread ++ (before ++ after).flatMap held) := by
  simp only [List.flatMap_append, List.flatMap_cons, ← List.append_assoc]
  exact List.perm_append_comm.append_right _

/-- What one thread gains, the whole list of threads gains. -/
theorem perm_flatMap_step {α : Type*} {held : τ → List α} {thread thread' : τ} {gained : List α}
    (before after : List τ) (hheld : (held thread').Perm (held thread ++ gained)) :
    ((before ++ thread' :: after).flatMap held).Perm
      ((before ++ thread :: after).flatMap held ++ gained) := by
  refine (perm_flatMap_middle held thread' before after).trans ((hheld.append_right _).trans ?_)
  rw [List.append_assoc]
  refine (List.perm_append_comm.append_left _).trans ?_
  rw [← List.append_assoc]
  exact (perm_flatMap_middle held thread before after).symm.append_right _

end Threads
