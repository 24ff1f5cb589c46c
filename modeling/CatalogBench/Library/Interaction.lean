import Mathlib.Data.List.Perm.Basic
import Mathlib.Logic.Relation
import Mathlib.Tactic.Common

/-!
# Programs that talk to an environment

A program issues calls `c : C` and continues on the reply, a value of `R c`.
The environment is not part of the program: `Prog.Run` runs a program against
any step relation on a state, so a statement about every environment
quantifies over the relation, and a trace is the special case where the state
is the list of answered calls.

## Main definitions

- `Prog`: finite call trees, a monad
- `Prog.Run`: big-step execution against a step relation
- `Prog.Reach`: the states a possibly unfinished execution passes through
- `Prog.All`: a property of every call a program can issue
- `Prog.exec`: execution against a deterministic handler
- `Prog.interpret`: replace each call by a program over other calls
- `Prog.Iterate`: an unbounded loop around a body
- `recording`: the step relation whose state is the trace
-/

set_option linter.all false

namespace Interaction

universe u v

/-- Take a fallible computation that succeeded apart. -/
theorem except_bind_eq_ok {ε α β : Type*} {x : Except ε α} {f : α → Except ε β} {b : β} :
    x.bind f = .ok b ↔ ∃ a, x = .ok a ∧ f a = .ok b := by
  cases x <;> simp [Except.bind]

/-- A computation that goes on after a step that succeeded. -/
theorem except_bind_exists {ε : Type*} {α β : Type u} {x : Except ε α} {f : α → Except ε β} {a : α}
    (hx : x = .ok a) (hf : ∃ b, f a = .ok b) : ∃ b, (x >>= f) = .ok b := by
  rw [hx]
  exact hf

theorem except_bind_eq_error {ε α β : Type*} {x : Except ε α} {f : α → Except ε β} {e : ε} :
    x.bind f = .error e ↔ x = .error e ∨ ∃ a, x = .ok a ∧ f a = .error e := by
  cases x <;> simp [Except.bind]

theorem except_mapError_eq_ok {ε ε' α : Type*} {x : Except ε α} {f : ε → ε'} {a : α} :
    x.mapError f = .ok a ↔ x = .ok a := by
  cases x <;> simp [Except.mapError]

/-- A test that the result passes finds a result. -/
theorem except_exists_of_any {ε α : Type*} {x : Except ε α} {p : α → Bool}
    (h : x.toOption.any p = true) : ∃ a, x = .ok a ∧ p a = true := by
  cases x with
  | error _ => cases h
  | ok a => exact ⟨a, rfl, h⟩

/-- A guarded value that was returned passed its guard. -/
theorem except_ite_eq_ok {ε α : Type*} {c : Prop} [Decidable c] {a b : α} {e : ε}
    (h : (if c then .ok a else .error e : Except ε α) = .ok b) : c ∧ b = a := by
  split at h
  · next hc => exact ⟨hc, (Except.ok.inj h).symm⟩
  · cases h

theorem except_throw_bind {ε α β : Type u} (e : ε) (f : α → Except ε β) :
    (throw e >>= f) = .error e := rfl

/-- A check that passed, and what came after it. -/
theorem except_seq_eq_ok {ε β : Type u} {x : Except ε PUnit.{u + 1}}
    {f : PUnit → Except ε β} {b : β} :
    (x >>= f) = .ok b ↔ x = .ok ⟨⟩ ∧ f ⟨⟩ = .ok b := by
  constructor
  · intro h
    obtain ⟨a, hx, hf⟩ := except_bind_eq_ok.mp h
    exact ⟨hx, hf⟩
  · rintro ⟨hx, hf⟩
    exact except_bind_eq_ok.mpr ⟨⟨⟩, hx, hf⟩

/-- A check made of every element of a list. -/
theorem except_forM_eq_ok {ε : Type u} {α : Type v} {f : α → Except ε PUnit.{u + 1}}
    {l : List α} : l.forM f = .ok ⟨⟩ ↔ ∀ a ∈ l, f a = .ok ⟨⟩ := by
  induction l with
  | nil => simp [List.forM, Pure.pure, Except.pure]
  | cons a l ih =>
    rw [show (a :: l).forM f = (f a >>= fun _ => l.forM f) from rfl, except_seq_eq_ok, ih,
      List.forall_mem_cons]

/-- A guarded map over a list: every element passes its guard. -/
theorem except_mapM_eq_ok {ε β : Type u} {α : Type v} {f : α → Except ε β} {p : α → Prop}
    {g : α → β} (hf : ∀ a b, f a = .ok b → p a ∧ b = g a) {l : List α} {out : List β}
    (h : l.mapM f = .ok out) : (∀ a ∈ l, p a) ∧ out = l.map g := by
  induction l generalizing out with
  | nil =>
    cases h
    exact ⟨fun _ hmem => absurd hmem List.not_mem_nil, rfl⟩
  | cons a l ih =>
    rw [List.mapM_cons] at h
    obtain ⟨b, hb, h⟩ := except_bind_eq_ok.mp h
    obtain ⟨rest, hrest, h⟩ := except_bind_eq_ok.mp h
    obtain ⟨ha, rfl⟩ := hf a b hb
    obtain ⟨hl, rfl⟩ := ih hrest
    cases h
    exact ⟨List.forall_mem_cons.mpr ⟨ha, hl⟩, rfl⟩

/-- A fallible map over a list gives one result for each element. -/
theorem except_mapM_forall₂ {ε β : Type u} {α : Type v} {f : α → Except ε β} {l : List α}
    {out : List β} (h : l.mapM f = .ok out) : List.Forall₂ (fun a b => f a = .ok b) l out := by
  induction l generalizing out with
  | nil => cases h; exact .nil
  | cons a l ih =>
    rw [List.mapM_cons] at h
    obtain ⟨b, hb, h⟩ := except_bind_eq_ok.mp h
    obtain ⟨rest, hrest, h⟩ := except_bind_eq_ok.mp h
    cases h
    exact .cons hb (ih hrest)

/-- A fallible map that fails on no element has a result for each element. -/
theorem except_mapM_exists {ε β : Type u} {α : Type v} {f : α → Except ε β} {l : List α}
    {R : α → β → Prop} (h : ∀ a ∈ l, ∃ b, f a = .ok b ∧ R a b) :
    ∃ out, l.mapM f = .ok out ∧ List.Forall₂ R l out := by
  induction l with
  | nil => exact ⟨[], rfl, .nil⟩
  | cons a l ih =>
    obtain ⟨b, hb, hab⟩ := h a List.mem_cons_self
    obtain ⟨out, hout, hrel⟩ := ih fun a' ha' => h a' (List.mem_cons_of_mem a ha')
    refine ⟨b :: out, ?_, .cons hab hrel⟩
    rw [List.mapM_cons, hb, hout]
    rfl

/-- A fallible map that computes a function. -/
theorem except_mapM_of_exists {ε β : Type u} {α : Type v} {f : α → Except ε β} {l : List α}
    (h : ∀ a ∈ l, ∃ b, f a = .ok b) : ∃ out, l.mapM f = .ok out := by
  obtain ⟨out, hout, -⟩ := except_mapM_exists (R := fun _ _ => True) fun a ha =>
    (h a ha).imp fun _ hb => ⟨hb, trivial⟩
  exact ⟨out, hout⟩

theorem except_mapM_of_forall₂ {ε β : Type u} {α : Type v} {f : α → Except ε β} {l : List α}
    {out : List β} (h : List.Forall₂ (fun a b => f a = .ok b) l out) : l.mapM f = .ok out := by
  induction h with
  | nil => rfl
  | cons hhead _ ih =>
    rw [List.mapM_cons, hhead, ih]
    rfl

theorem except_mapM_of_forall {ε β : Type u} {α : Type v} {f : α → Except ε β} {g : α → β}
    {l : List α} (h : ∀ a ∈ l, f a = .ok (g a)) : l.mapM f = .ok (l.map g) := by
  induction l with
  | nil => rfl
  | cons a l ih =>
    rw [List.mapM_cons, h a List.mem_cons_self, ih fun b hb => h b (List.mem_cons_of_mem _ hb)]
    rfl

/-- The results of a fallible map follow the order of the elements. -/
theorem except_mapM_perm {ε β : Type u} {α : Type v} {f : α → Except ε β} {l l' : List α}
    {out out' : List β} (hperm : l.Perm l') (h : l.mapM f = .ok out) (h' : l'.mapM f = .ok out') :
    out.Perm out' := by
  obtain ⟨reordered, hreordered, hout⟩ :=
    List.perm_comp_forall₂ hperm.symm (except_mapM_forall₂ h)
  have hsame : reordered = out' := by
    refine List.right_unique_forall₂' (fun a b b' hb hb' => ?_) hreordered (except_mapM_forall₂ h')
    exact Except.ok.inj (hb.symm.trans hb')
  rw [← hsame]
  exact hout.symm

/-- A call tree: stop with a value, or issue one call and go on with its reply. -/
inductive Prog (C : Type u) (R : C → Type v) (α : Type v) : Type (max u (v + 1))
  | pure (a : α) : Prog C R α
  | call (c : C) (k : R c → Prog C R α) : Prog C R α

namespace Prog

variable {C : Type u} {R : C → Type v} {α β : Type v} {σ : Type*}

/-- Sequential composition. -/
def bind (p : Prog C R α) (f : α → Prog C R β) : Prog C R β :=
  match p with
  | .pure a => f a
  | .call c k => .call c fun r => (k r).bind f

instance : Monad (Prog C R) where
  pure := Prog.pure
  bind := Prog.bind

theorem bind_assoc' {γ : Type v} (p : Prog C R α) (f : α → Prog C R β) (g : β → Prog C R γ) :
    (p.bind f).bind g = p.bind fun a => (f a).bind g := by
  induction p with
  | pure a => rfl
  | call c k ih => exact congrArg (Prog.call c) (funext ih)

theorem bind_pure' (p : Prog C R α) : p.bind .pure = p := by
  induction p with
  | pure a => rfl
  | call c k ih => exact congrArg (Prog.call c) (funext ih)

instance : LawfulMonad (Prog C R) :=
  LawfulMonad.mk' (Prog C R) bind_pure' (fun _ _ => rfl) bind_assoc'

/-- The program that issues one call and returns its reply. -/
def ask (c : C) : Prog C R (R c) := .call c .pure

/-- `p.Run step s a s'`: started in `s`, the program can finish with `a` in `s'`
when the environment answers according to `step`. -/
def Run (step : σ → (c : C) → R c → σ → Prop) : Prog C R α → σ → α → σ → Prop
  | .pure a, s, b, s' => b = a ∧ s' = s
  | .call c k, s, b, s' => ∃ r s₁, step s c r s₁ ∧ Run step (k r) s₁ b s'

/-- The states an execution passes through, whether or not it finishes. -/
def Reach (step : σ → (c : C) → R c → σ → Prop) : Prog C R α → σ → σ → Prop
  | .pure _, s, s' => s' = s
  | .call c k, s, s' => s' = s ∨ ∃ r s₁, step s c r s₁ ∧ Reach step (k r) s₁ s'

/-- Execution against a handler that answers every call. -/
def exec (handle : σ → (c : C) → R c × σ) : Prog C R α → σ → α × σ
  | .pure a, s => (a, s)
  | .call c k, s => exec handle (k (handle s c).1) (handle s c).2

/-- Replace each call by a program over another set of calls. -/
def interpret {C' : Type u} {R' : C' → Type v} (h : (c : C) → Prog C' R' (R c)) :
    Prog C R α → Prog C' R' α
  | .pure a => .pure a
  | .call c k => (h c).bind fun r => interpret h (k r)

/-- Every call the program can issue satisfies `P`, whatever is replied. -/
def All (P : C → Prop) : Prog C R α → Prop
  | .pure _ => True
  | .call c k => P c ∧ ∀ r, All P (k r)

section Calls

variable {P : C → Prop}

theorem all_pure (a : α) : (Pure.pure a : Prog C R α).All P := trivial

theorem All.mono {P' : C → Prop} {p : Prog C R α} (h : p.All P) (hP : ∀ c, P c → P' c) :
    p.All P' := by
  induction p with
  | pure a => trivial
  | call c k ih => exact ⟨hP c h.1, fun r => ih r (h.2 r)⟩

theorem all_bind {p : Prog C R α} {f : α → Prog C R β} (hp : p.All P)
    (hf : ∀ a, (f a).All P) : (p >>= f).All P := by
  induction p with
  | pure a => exact hf a
  | call c k ih => exact ⟨hp.1, fun r => ih r (hp.2 r)⟩

theorem all_ask {c : C} (hc : P c) : (ask c : Prog C R (R c)).All P := ⟨hc, fun _ => trivial⟩

/-- A fallible part that gives up on failure. -/
theorem all_bind_except {ε α : Type v} {p : Prog C R (Except ε α)}
    {f : Except ε α → Prog C R β} (hp : p.All P) (herror : ∀ e, (f (.error e)).All P)
    (hok : ∀ a, (f (.ok a)).All P) : (p >>= f).All P :=
  all_bind hp fun r => match r with
    | .error e => herror e
    | .ok a => hok a

theorem all_ite {c : Prop} [Decidable c] {p q : Prog C R β} (hp : p.All P) (hq : q.All P) :
    (if c then p else q).All P := by
  split
  · exact hp
  · exact hq

theorem all_interpret {C' : Type u} {R' : C' → Type v} {P' : C' → Prop}
    {h : (c : C) → Prog C' R' (R c)} (hh : ∀ c, P c → (h c).All P') {p : Prog C R α}
    (hp : p.All P) : (p.interpret h).All P' := by
  induction p with
  | pure _ => trivial
  | call c k ih => exact all_bind (hh c hp.1) fun r => ih r (hp.2 r)

end Calls

section Rules

variable {step : σ → (c : C) → R c → σ → Prop}

@[simp] theorem run_pure {a b : α} {s s' : σ} :
    (Pure.pure a : Prog C R α).Run step s b s' ↔ b = a ∧ s' = s := Iff.rfl

@[simp] theorem run_ask {c : C} {r : R c} {s s' : σ} :
    (ask c : Prog C R (R c)).Run step s r s' ↔ step s c r s' := by
  constructor
  · rintro ⟨r', s₁, hs, rfl, rfl⟩
    exact hs
  · intro hs
    exact ⟨r, s', hs, rfl, rfl⟩

theorem run_bind' {p : Prog C R α} {f : α → Prog C R β} {s s' : σ} {b : β} :
    (p.bind f).Run step s b s' ↔ ∃ a s₁, p.Run step s a s₁ ∧ (f a).Run step s₁ b s' := by
  induction p generalizing s with
  | pure a =>
    constructor
    · intro h
      exact ⟨a, s, ⟨rfl, rfl⟩, h⟩
    · rintro ⟨_, _, ⟨rfl, rfl⟩, h⟩
      exact h
  | call c k ih =>
    constructor
    · rintro ⟨r, s₁, hs, h⟩
      obtain ⟨a, s₂, hk, hf⟩ := (ih r).mp h
      exact ⟨a, s₂, ⟨r, s₁, hs, hk⟩, hf⟩
    · rintro ⟨a, s₂, ⟨r, s₁, hs, hk⟩, hf⟩
      exact ⟨r, s₁, hs, (ih r).mpr ⟨a, s₂, hk, hf⟩⟩

/-- A run of `p >>= f` is a run of `p` followed by a run of `f`. -/
theorem run_bind {p : Prog C R α} {f : α → Prog C R β} {s s' : σ} {b : β} :
    (p >>= f).Run step s b s' ↔ ∃ a s₁, p.Run step s a s₁ ∧ (f a).Run step s₁ b s' :=
  run_bind'

/-- A run that starts with one call. -/
theorem run_ask_bind {c : C} {f : R c → Prog C R β} {s s' : σ} {b : β} :
    (ask c >>= f).Run step s b s' ↔ ∃ r s₁, step s c r s₁ ∧ (f r).Run step s₁ b s' := by
  simp only [run_bind, run_ask]

/-- Build a run step by step without knowing its result. -/
theorem exists_run_bind {p : Prog C R α} {f : α → Prog C R β} {s s₁ s' : σ} {a : α}
    (hp : p.Run step s a s₁) (hf : ∃ b, (f a).Run step s₁ b s') :
    ∃ b, (p >>= f).Run step s b s' :=
  hf.imp fun _ h => run_bind.mpr ⟨a, s₁, hp, h⟩

theorem exists_run_ask_bind {c : C} {f : R c → Prog C R β} {s s₁ s' : σ} (r : R c)
    (hc : step s c r s₁) (hf : ∃ b, (f r).Run step s₁ b s') :
    ∃ b, (ask c >>= f).Run step s b s' :=
  exists_run_bind (run_ask.mpr hc) hf

/-- A run that starts with a fallible part: either the part failed or it did not. -/
theorem run_bind_except {ε α : Type v} {p : Prog C R (Except ε α)}
    {f : Except ε α → Prog C R β} {s s' : σ} {b : β} (h : (p >>= f).Run step s b s') :
    (∃ e s₁, p.Run step s (.error e) s₁ ∧ (f (.error e)).Run step s₁ b s') ∨
      ∃ a s₁, p.Run step s (.ok a) s₁ ∧ (f (.ok a)).Run step s₁ b s' := by
  obtain ⟨r, s₁, hp, hf⟩ := run_bind.mp h
  cases r with
  | error e => exact .inl ⟨e, s₁, hp, hf⟩
  | ok a => exact .inr ⟨a, s₁, hp, hf⟩

/-- A run of a conditional is a run of the branch taken. -/
theorem run_ite {c : Prop} [Decidable c] {p q : Prog C R β} {s s' : σ} {b : β}
    (h : (if c then p else q).Run step s b s') :
    (c ∧ p.Run step s b s') ∨ (¬c ∧ q.Run step s b s') := by
  split at h
  · next hc => exact .inl ⟨hc, h⟩
  · next hc => exact .inr ⟨hc, h⟩

/-- What the steps of the calls a program can issue preserve, the program preserves. -/
theorem Run.preserves {P : C → Prop} {I : σ → Prop}
    (hstep : ∀ s c r s', P c → step s c r s' → I s → I s') {p : Prog C R α} (hp : p.All P)
    {s s' : σ} {a : α} (h : p.Run step s a s') (hs : I s) : I s' := by
  induction p generalizing s with
  | pure _ => exact h.2 ▸ hs
  | call c k ih =>
    obtain ⟨r, s₁, hc, hk⟩ := h
    exact ih r (hp.2 r) hk (hstep _ _ _ _ hp.1 hc hs)

/-- The same rule for executions that are cut off. -/
theorem Reach.preserves {P : C → Prop} {I : σ → Prop}
    (hstep : ∀ s c r s', P c → step s c r s' → I s → I s') {p : Prog C R α} (hp : p.All P)
    {s s' : σ} (h : p.Reach step s s') (hs : I s) : I s' := by
  induction p generalizing s with
  | pure _ => exact (show s' = s from h) ▸ hs
  | call c k ih =>
    rcases h with rfl | ⟨r, s₁, hc, hk⟩
    · exact hs
    · exact ih r (hp.2 r) hk (hstep _ _ _ _ hp.1 hc hs)

/-- Execution against a handler that obeys the step relation is a run. -/
theorem run_exec (handle : σ → (c : C) → R c × σ)
    (hh : ∀ s c, step s c (handle s c).1 (handle s c).2) (p : Prog C R α) (s : σ) :
    p.Run step s (p.exec handle s).1 (p.exec handle s).2 := by
  induction p generalizing s with
  | pure a => exact ⟨rfl, rfl⟩
  | call c k ih => exact ⟨_, _, hh s c, ih _ _⟩

/-- A handler that answers like another one, up to a map of the states, leads to the same result. -/
theorem exec_map {τ : Type*} {handle : σ → (c : C) → R c × σ} {handle' : τ → (c : C) → R c × τ}
    (f : τ → σ) (hreply : ∀ t c, (handle' t c).1 = (handle (f t) c).1)
    (hstate : ∀ t c, f (handle' t c).2 = (handle (f t) c).2) (p : Prog C R α) (t : τ) :
    (p.exec handle' t).1 = (p.exec handle (f t)).1 := by
  induction p generalizing t with
  | pure a => rfl
  | call c k ih => rw [exec, exec, ih, hreply, hstate]

/-- Against a handler a run is the execution. -/
theorem run_handler {handle : σ → (c : C) → R c × σ} {p : Prog C R α} {s s' : σ} {a : α} :
    p.Run (fun s c r s' => (r, s') = handle s c) s a s' ↔ p.exec handle s = (a, s') := by
  induction p generalizing s with
  | pure b => simp [Run, exec, Prod.ext_iff, eq_comm]
  | call c k ih =>
    constructor
    · rintro ⟨r, s₁, hstep, hk⟩
      obtain ⟨rfl, rfl⟩ := Prod.mk.inj hstep
      exact (ih _).mp hk
    · intro h
      exact ⟨_, _, rfl, (ih _).mpr h⟩

theorem exec_bind {handle : σ → (c : C) → R c × σ} {p : Prog C R α} {f : α → Prog C R β} {s : σ} :
    (p >>= f).exec handle s = (f (p.exec handle s).1).exec handle (p.exec handle s).2 := by
  induction p generalizing s with
  | pure a => rfl
  | call c k ih => exact ih _

@[simp] theorem exec_pure {handle : σ → (c : C) → R c × σ} {a : α} {s : σ} :
    (Pure.pure a : Prog C R α).exec handle s = (a, s) := rfl

@[simp] theorem exec_ask {handle : σ → (c : C) → R c × σ} {c : C} {s : σ} :
    (ask c : Prog C R (R c)).exec handle s = handle s c := rfl

/-- Interpreting the calls turns each call step into a run of its handler. -/
theorem run_interpret {C' : Type u} {R' : C' → Type v} {h : (c : C) → Prog C' R' (R c)}
    {step' : σ → (c : C') → R' c → σ → Prop} {p : Prog C R α} {s s' : σ} {a : α} :
    (p.interpret h).Run step' s a s' ↔
      p.Run (fun s c r s' => (h c).Run step' s r s') s a s' := by
  induction p generalizing s with
  | pure _ => exact Iff.rfl
  | call c k ih =>
    simp only [interpret, run_bind', Run]
    constructor
    · rintro ⟨r, s₁, hr, hk⟩
      exact ⟨r, s₁, hr, (ih r).mp hk⟩
    · rintro ⟨r, s₁, hr, hk⟩
      exact ⟨r, s₁, hr, (ih r).mpr hk⟩

end Rules

/-- A loop: the body either hands on a new loop state or leaves with a result.
Only finished loops have an `Iterate` derivation. -/
inductive Iterate (step : σ → (c : C) → R c → σ → Prop) (body : β → Prog C R (β ⊕ α)) :
    σ → β → α → σ → Prop
  | done {s b a s'} : (body b).Run step s (.inr a) s' → Iterate step body s b a s'
  | next {s b b' s₁ a s'} : (body b).Run step s (.inl b') s₁ →
      Iterate step body s₁ b' a s' → Iterate step body s b a s'

/-- A loop that is cut off between two iterations. -/
inductive Interrupted (step : σ → (c : C) → R c → σ → Prop) (body : β → Prog C R (β ⊕ α)) :
    σ → β → σ → Prop
  | here {s b} : Interrupted step body s b s
  | next {s b b' s₁ s'} : (body b).Run step s (.inl b') s₁ →
      Interrupted step body s₁ b' s' → Interrupted step body s b s'

end Prog

/-- One answered call. -/
structure Answered (C : Type u) (R : C → Type v) where
  call : C
  reply : R call

/-- The environment that answers anything and keeps the trace. -/
def recording {C : Type u} {R : C → Type v} (tr : List (Answered C R)) (c : C) (r : R c)
    (tr' : List (Answered C R)) : Prop :=
  tr' = tr ++ [⟨c, r⟩]

end Interaction
