import CatalogBench.Library.Interaction

/-!
# What a program emits

A program that is run against `recording` appends one entry to the trace for each call. `Emits`
is a postcondition on the result and on the entries appended, whatever the environment replies.
It is computed by recursion on the call tree, so sequential composition is an equivalence, and a
long program is specified block by block.

## Main definitions

- `Prog.Emits`: the postcondition
- `Prog.Traced`: the entries of one run
- `Prog.logged`: a program that also returns its entries
- `Prog.embed`: a program as one over a larger set of calls
-/

set_option linter.all false

namespace Interaction

universe u v

namespace Prog

variable {C : Type u} {R : C → Type v} {α β : Type v}

/-- Whatever is replied, the program finishes with a result `a` and entries `es` such that
`post a es`. -/
def Emits : Prog C R α → (α → List (Answered C R) → Prop) → Prop
  | .pure a, post => post a []
  | .call c k, post => ∀ r, (k r).Emits fun a es => post a (⟨c, r⟩ :: es)

section Rules

variable {post post' : α → List (Answered C R) → Prop}

theorem emits_pure {a : α} : (Pure.pure a : Prog C R α).Emits post ↔ post a [] := Iff.rfl

theorem emits_ask {c : C} {post : R c → List (Answered C R) → Prop} :
    (ask c : Prog C R (R c)).Emits post ↔ ∀ r, post r [⟨c, r⟩] := Iff.rfl

theorem Emits.mono {p : Prog C R α} (h : p.Emits post) (hpost : ∀ a es, post a es → post' a es) :
    p.Emits post' := by
  induction p generalizing post post' with
  | pure a => exact hpost a [] h
  | call c k ih => exact fun r => ih r (h r) fun a es => hpost a (⟨c, r⟩ :: es)

/-- Sequential composition: what `f` emits is appended to what `p` emits. -/
theorem emits_bind {p : Prog C R α} {f : α → Prog C R β} {post : β → List (Answered C R) → Prop} :
    (p >>= f).Emits post ↔ p.Emits fun a es => (f a).Emits fun b es' => post b (es ++ es') := by
  induction p generalizing post with
  | pure a => exact Iff.rfl
  | call c k ih => exact forall_congr' fun r => ih r

/-- The composition rule, with the postcondition of the first part. -/
theorem Emits.bind {p : Prog C R α} {f : α → Prog C R β} {post' : β → List (Answered C R) → Prop}
    (hp : p.Emits post)
    (hf : ∀ a es, post a es → (f a).Emits fun b es' => post' b (es ++ es')) :
    (p >>= f).Emits post' :=
  emits_bind.mpr (hp.mono hf)

theorem emits_and {p : Prog C R α} (h : p.Emits post) (h' : p.Emits post') :
    p.Emits fun a es => post a es ∧ post' a es := by
  induction p generalizing post post' with
  | pure a => exact ⟨h, h'⟩
  | call c k ih => exact fun r => ih r (h r) (h' r)

end Rules

-- ════════════════════════════════
-- The entries of a run
-- ════════════════════════════════

/-- The program can finish with `a`, its calls answered as in `es`. -/
def Traced : Prog C R α → α → List (Answered C R) → Prop
  | .pure a, b, es => b = a ∧ es = []
  | .call c k, b, es => ∃ r es', es = ⟨c, r⟩ :: es' ∧ (k r).Traced b es'

/-- A run against `recording` appends the entries of a trace. -/
theorem run_recording {p : Prog C R α} {tr tr' : List (Answered C R)} {a : α} :
    p.Run recording tr a tr' ↔ ∃ es, tr' = tr ++ es ∧ p.Traced a es := by
  induction p generalizing tr with
  | pure b =>
    constructor
    · rintro ⟨rfl, rfl⟩
      exact ⟨[], (List.append_nil _).symm, rfl, rfl⟩
    · rintro ⟨_, rfl, rfl, rfl⟩
      exact ⟨rfl, List.append_nil _⟩
  | call c k ih =>
    constructor
    · rintro ⟨r, _, rfl, hk⟩
      obtain ⟨es, rfl, hes⟩ := (ih r).mp hk
      exact ⟨⟨c, r⟩ :: es, by simp, r, es, rfl, hes⟩
    · rintro ⟨_, rfl, r, es, rfl, hes⟩
      exact ⟨r, _, rfl, (ih r).mpr ⟨es, by simp, hes⟩⟩

/-- A postcondition holds of every trace. -/
theorem Emits.traced {p : Prog C R α} {post : α → List (Answered C R) → Prop} (h : p.Emits post)
    {a : α} {es : List (Answered C R)} (hp : p.Traced a es) : post a es := by
  induction p generalizing post es with
  | pure b =>
    obtain ⟨rfl, rfl⟩ := hp
    exact h
  | call c k ih =>
    obtain ⟨r, es', rfl, hk⟩ := hp
    exact ih r (h r) hk

theorem traced_bind {p : Prog C R α} {f : α → Prog C R β} {b : β} {es : List (Answered C R)} :
    (p >>= f).Traced b es ↔
      ∃ a es₁ es₂, es = es₁ ++ es₂ ∧ p.Traced a es₁ ∧ (f a).Traced b es₂ := by
  induction p generalizing es with
  | pure a =>
    constructor
    · intro h
      exact ⟨a, [], es, rfl, ⟨rfl, rfl⟩, h⟩
    · rintro ⟨_, _, es₂, rfl, ⟨rfl, rfl⟩, h⟩
      exact h
  | call c k ih =>
    constructor
    · rintro ⟨r, es', rfl, hk⟩
      obtain ⟨a, es₁, es₂, rfl, hp, hf⟩ := (ih r).mp hk
      exact ⟨a, ⟨c, r⟩ :: es₁, es₂, rfl, ⟨r, es₁, rfl, hp⟩, hf⟩
    · rintro ⟨a, _, es₂, rfl, ⟨r, es₁, rfl, hp⟩, hf⟩
      exact ⟨r, es₁ ++ es₂, rfl, (ih r).mpr ⟨a, es₁, es₂, rfl, hp, hf⟩⟩

section Transformations

variable {C C' : Type u} {R : C → Type u} {R' : C' → Type u} {α : Type u}

/-- The program that also returns the entries it appended. -/
def logged : Prog C R α → Prog C R (α × List (Answered C R))
  | .pure a => .pure (a, [])
  | .call c k => .call c fun r =>
      (k r).logged.bind fun result => .pure (result.1, ⟨c, r⟩ :: result.2)

theorem traced_logged {p : Prog C R α} {result : α × List (Answered C R)}
    {es : List (Answered C R)} :
    p.logged.Traced result es ↔ p.Traced result.1 es ∧ result.2 = es := by
  induction p generalizing result es with
  | pure a =>
    constructor
    · rintro ⟨rfl, rfl⟩
      exact ⟨⟨rfl, rfl⟩, rfl⟩
    · rintro ⟨⟨ha, rfl⟩, hes⟩
      exact ⟨Prod.ext ha hes, rfl⟩
  | call c k ih =>
    constructor
    · rintro ⟨r, es', rfl, hk⟩
      obtain ⟨result', es₁, es₂, rfl, hlogged, rfl, rfl⟩ := traced_bind.mp hk
      obtain ⟨htraced, rfl⟩ := (ih r).mp hlogged
      rw [List.append_nil]
      exact ⟨⟨r, _, rfl, htraced⟩, rfl⟩
    · rintro ⟨⟨r, es', rfl, htraced⟩, hes⟩
      refine ⟨r, es', rfl, traced_bind.mpr ⟨(result.1, es'), es', [], (List.append_nil _).symm,
        (ih r).mpr ⟨htraced, rfl⟩, Prod.ext rfl hes, rfl⟩⟩

/-- Each call becomes one call of a larger set, with the same replies. -/
def embed (f : C → C') (p : Prog C (fun c => R' (f c)) α) : Prog C' R' α :=
  p.interpret fun c => ask (f c)

theorem traced_embed {f : C → C'} {p : Prog C (fun c => R' (f c)) α} {a : α}
    {es' : List (Answered C' R')} :
    (p.embed f).Traced a es' ↔
      ∃ es, es' = es.map (fun e => ⟨f e.call, e.reply⟩) ∧ p.Traced a es := by
  induction p generalizing es' with
  | pure b =>
    constructor
    · rintro ⟨rfl, rfl⟩
      exact ⟨[], rfl, rfl, rfl⟩
    · rintro ⟨_, rfl, rfl, rfl⟩
      exact ⟨rfl, rfl⟩
  | call c k ih =>
    constructor
    · rintro ⟨r, es₁, rfl, hk⟩
      obtain ⟨es, rfl, htraced⟩ := (ih r).mp hk
      exact ⟨⟨c, r⟩ :: es, rfl, r, es, rfl, htraced⟩
    · rintro ⟨_, rfl, r, es, rfl, htraced⟩
      exact ⟨r, _, rfl, (ih r).mpr ⟨es, rfl, htraced⟩⟩

end Transformations

end Prog

end Interaction
