import CatalogBench.Library.Interaction

/-!
# Staged programs

An orchestration runs its stages in order. Each stage is a program of its own; its reply is
either accepted, which hands a new state to the next stage, or turned down, which ends the
orchestration with a result.

## Main results

- `Lockstep.run`: two orchestrations whose stages agree one by one agree as a whole
- `Script.replays`: the trace of an orchestration whose stages are single calls
-/

set_option linter.all false

namespace Interaction

universe u v w

/-- One stage: what to run and what to make of its reply. -/
structure Stage (C : Type u) (R : C → Type v) (S : Type w) (β : Type v) where
  Reply : Type v
  body : Prog C R Reply
  next : S → Reply → Except β S

/-- A stage that is a single call. -/
structure ScriptStep (C : Type u) (R : C → Type v) (S : Type w) (β : Type v) where
  call : C
  next : S → R call → Except β S

def ScriptStep.toStage {C : Type u} {R : C → Type v} {S : Type w} {β : Type v}
    (step : ScriptStep C R S β) : Stage C R S β where
  Reply := R step.call
  body := .ask step.call
  next := step.next

namespace Prog

variable {C : Type u} {R : C → Type v} {S : Type w} {β : Type v}

/-- Run the stages until one of them turns its reply down. -/
def stages (finish : S → β) : List (Stage C R S β) → S → Prog C R β
  | [], s => .pure (finish s)
  | stage :: rest, s => stage.body.bind fun r =>
    match stage.next s r with
    | .ok s' => stages finish rest s'
    | .error b => .pure b

/-- Recognise the first stage of a program. -/
theorem bind_eq_stages {finish : S → β} {stage : Stage C R S β} {rest : List (Stage C R S β)}
    {s : S} {f : stage.Reply → Prog C R β}
    (hf : ∀ r, f r = match stage.next s r with
      | .ok s' => stages finish rest s'
      | .error b => .pure b) :
    (stage.body >>= f) = stages finish (stage :: rest) s := by
  obtain rfl : f = _ := funext hf
  rfl

theorem run_stages_cons {σ : Type*} {step : σ → (c : C) → R c → σ → Prop} {finish : S → β}
    {stage : Stage C R S β} {rest : List (Stage C R S β)} {s : S} {w v : σ} {b : β}
    (h : (stages finish (stage :: rest) s).Run step w b v) :
    ∃ r w₁, stage.body.Run step w r w₁ ∧
      ((∃ s', stage.next s r = .ok s' ∧ (stages finish rest s').Run step w₁ b v) ∨
        (stage.next s r = .error b ∧ v = w₁)) := by
  obtain ⟨r, w₁, hbody, h⟩ := run_bind'.mp h
  refine ⟨r, w₁, hbody, ?_⟩
  cases hnext : stage.next s r with
  | ok s' =>
    rw [hnext] at h
    exact .inl ⟨s', rfl, h⟩
  | error b' =>
    rw [hnext] at h
    obtain ⟨rfl, rfl⟩ := h
    exact .inr ⟨rfl, rfl⟩

end Prog

-- ════════════════════════════════
-- Two orchestrations in lockstep
-- ════════════════════════════════

section Lockstep

variable {C : Type u} {R : C → Type v} {S : Type w} {β : Type v} {σ : Type*}
  {C' : Type u} {R' : C' → Type v} {S' : Type w} {β' : Type v} {σ' : Type*}

/-- Two stages agree on whether to go on: they leave related states, or related results. -/
def Agree (P : σ → σ' → S → S' → Prop) (Q : σ → σ' → β → β' → Prop) (w : σ) (w' : σ') :
    Except β S → Except β' S' → Prop
  | .ok s, .ok s' => P w w' s s'
  | .error b, .error b' => Q w w' b b'
  | _, _ => False

variable (step : σ → (c : C) → R c → σ → Prop) (step' : σ' → (c : C') → R' c → σ' → Prop)
  (finish : S → β) (finish' : S' → β') (Q : σ → σ' → β → β' → Prop)

/-- Stage by stage, from worlds and states related by `P`, two orchestrations agree. -/
inductive Lockstep : (σ → σ' → S → S' → Prop) → List (Stage C R S β) →
    List (Stage C' R' S' β') → Prop
  | nil {P : σ → σ' → S → S' → Prop} :
      (∀ w w' s s', P w w' s s' → Q w w' (finish s) (finish' s')) → Lockstep P [] []
  | cons {P : σ → σ' → S → S' → Prop} (P₁ : σ → σ' → S → S' → Prop) {stage : Stage C R S β}
      {stage' : Stage C' R' S' β'} {rest : List (Stage C R S β)}
      {rest' : List (Stage C' R' S' β')} :
      (∀ w w' s s' r r' w₁ w₁', P w w' s s' → stage.body.Run step w r w₁ →
        stage'.body.Run step' w' r' w₁' →
        Agree P₁ Q w₁ w₁' (stage.next s r) (stage'.next s' r')) →
      Lockstep P₁ rest rest' → Lockstep P (stage :: rest) (stage' :: rest')

variable {step step' finish finish' Q}

/-- Orchestrations in lockstep end with related results. -/
theorem Lockstep.run {P : σ → σ' → S → S' → Prop} {stages : List (Stage C R S β)}
    {stages' : List (Stage C' R' S' β')}
    (h : Lockstep step step' finish finish' Q P stages stages') {w v : σ} {w' v' : σ'} {s : S}
    {s' : S'} {b : β} {b' : β'} (hP : P w w' s s')
    (hrun : (Prog.stages finish stages s).Run step w b v)
    (hrun' : (Prog.stages finish' stages' s').Run step' w' b' v') : Q v v' b b' := by
  induction h generalizing w w' s s' with
  | nil hfinish =>
    obtain ⟨rfl, rfl⟩ := hrun
    obtain ⟨rfl, rfl⟩ := hrun'
    exact hfinish _ _ _ _ hP
  | cons P₁ hstage _ ih =>
    obtain ⟨r, w₁, hbody, hnext⟩ := Prog.run_stages_cons hrun
    obtain ⟨r', w₁', hbody', hnext'⟩ := Prog.run_stages_cons hrun'
    have hagree := hstage _ _ _ _ _ _ _ _ hP hbody hbody'
    rcases hnext with ⟨t, hok, hrest⟩ | ⟨herror, rfl⟩ <;>
      rcases hnext' with ⟨t', hok', hrest'⟩ | ⟨herror', rfl⟩
    · rw [hok, hok'] at hagree
      exact ih hagree hrest hrest'
    · rw [hok, herror'] at hagree
      exact hagree.elim
    · rw [herror, hok'] at hagree
      exact hagree.elim
    · rw [herror, herror'] at hagree
      exact hagree

end Lockstep

-- ════════════════════════════════
-- Traces of scripts
-- ════════════════════════════════

section Script

variable {C : Type u} {R : C → Type v} {S : Type w} {β : Type v} {finish : S → β}

/-- The trace of a script: its calls in order, up to the first reply it turns down. -/
inductive Replays (finish : S → β) : List (ScriptStep C R S β) → S → List (Answered C R) → β → Prop
  | done {s : S} : Replays finish [] s [] (finish s)
  | stop {entry : ScriptStep C R S β} {rest : List (ScriptStep C R S β)} {s : S}
      {r : R entry.call} {b : β} : entry.next s r = .error b →
      Replays finish (entry :: rest) s [⟨entry.call, r⟩] b
  | next {entry : ScriptStep C R S β} {rest : List (ScriptStep C R S β)} {s s' : S}
      {r : R entry.call} {b : β} {tr : List (Answered C R)} : entry.next s r = .ok s' →
      Replays finish rest s' tr b → Replays finish (entry :: rest) s (⟨entry.call, r⟩ :: tr) b

theorem Script.replays {script : List (ScriptStep C R S β)} {s : S} {b : β}
    {tr tr' : List (Answered C R)}
    (h : (Prog.stages finish (script.map ScriptStep.toStage) s).Run recording tr b tr') :
    ∃ new, tr' = tr ++ new ∧ Replays finish script s new b := by
  induction script generalizing s tr with
  | nil =>
    obtain ⟨rfl, rfl⟩ := h
    exact ⟨[], by simp, .done⟩
  | cons entry script ih =>
    obtain ⟨r, tr₁, hbody, hnext⟩ := Prog.run_stages_cons h
    obtain rfl : tr₁ = tr ++ [(⟨entry.call, r⟩ : Answered C R)] := Prog.run_ask.mp hbody
    rcases hnext with ⟨s', hok, hrest⟩ | ⟨herror, rfl⟩
    · obtain ⟨new, rfl, hnew⟩ := ih hrest
      exact ⟨⟨entry.call, r⟩ :: new, by simp, .next hok hnew⟩
    · exact ⟨[⟨entry.call, r⟩], rfl, .stop herror⟩

namespace Replays

variable {script : List (ScriptStep C R S β)} {s : S} {b : β} {tr : List (Answered C R)}

/-- The calls of a script are issued in its order. -/
theorem calls_prefix (h : Replays finish script s tr b) :
    tr.map Answered.call <+: script.map ScriptStep.call := by
  induction h with
  | done => exact List.prefix_rfl
  | stop _ => exact List.prefix_append [_] _
  | next _ _ ih => exact List.prefix_cons_inj _ |>.mpr ih

theorem call_at (h : Replays finish script s tr b) {before after : List (Answered C R)}
    {a : Answered C R} (htr : tr = before ++ a :: after) :
    (script.map ScriptStep.call)[before.length]? = some a.call := by
  obtain ⟨rest, hrest⟩ := h.calls_prefix
  rw [← hrest, htr]
  simp

/-- When acceptance depends on the reply alone, a script either runs to its end, every reply
accepted, or stops right behind the first reply that is not. `I` is kept by the states on the
way; it bounds the results of both endings. -/
theorem ending {I : S → Prop} {Accepts : Answered C R → Prop} {Done Stopped : β → Prop}
    (h : Replays finish script s tr b)
    (hok : ∀ entry ∈ script, ∀ s r s', I s → entry.next s r = .ok s' →
      Accepts ⟨entry.call, r⟩ ∧ I s')
    (herror : ∀ entry ∈ script, ∀ s r b, I s → entry.next s r = .error b →
      ¬Accepts ⟨entry.call, r⟩ ∧ Stopped b)
    (hfinish : ∀ s, I s → Done (finish s)) (hs : I s) :
    ((∀ a ∈ tr, Accepts a) ∧ tr.length = script.length ∧ Done b) ∨
      ∃ before last, tr = before ++ [last] ∧ (∀ a ∈ before, Accepts a) ∧ ¬Accepts last ∧
        Stopped b := by
  induction h with
  | done => exact .inl ⟨by simp, rfl, hfinish _ hs⟩
  | @stop entry rest s r b hnext =>
    obtain ⟨hnot, hb⟩ := herror entry (by simp) s r b hs hnext
    exact .inr ⟨[], _, rfl, by simp, hnot, hb⟩
  | @next entry rest s s' r b tr hnext _ ih =>
    obtain ⟨haccepts, hs'⟩ := hok entry (by simp) s r s' hs hnext
    have hrest := ih (fun e he => hok e (by simp [he])) (fun e he => herror e (by simp [he])) hs'
    rcases hrest with ⟨hall, hlength, hb⟩ | ⟨before, last, rfl, hall, hnot, hb⟩
    · exact .inl ⟨by simpa using ⟨haccepts, hall⟩, by simp [hlength], hb⟩
    · exact .inr ⟨_ :: before, last, rfl, by simpa using ⟨haccepts, hall⟩, hnot, hb⟩

end Replays

end Script

end Interaction
