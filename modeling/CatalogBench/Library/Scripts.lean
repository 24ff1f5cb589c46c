import CatalogBench.Library.Interaction

/-!
# Scripts

A script has variables, calls its environment, and may raise an exception at any point. A handler
catches the exception and goes on; the variables keep the values they had when it was raised. As
for programs, the environment is a step relation on a world.

## Main definitions

- `Script`: programs with variables and exceptions
- `Script.Runs`: big-step execution, from variables and a world to an outcome
- `Script.play`: the run against a handler
- `Script.Ran`: a run that raises no exception
- `Script.Keeps`: an invariant of the variables and the world, and what is said of the outcome
- `Script.Returned`: a property of the value, if there is one
- `Script.Yields`: there is a value, and it has a property
-/

set_option linter.all false

namespace Interaction

universe u v

/-- A script over the calls `C`, with variables `σ` and exceptions `ε`. -/
abbrev Script (C : Type u) (R : C → Type v) (σ ε α : Type v) : Type (max u (v + 1)) :=
  ExceptT ε (StateT σ (Prog C R)) α

namespace Script

variable {C : Type u} {R : C → Type v} {σ ε α β : Type v}

/-- The script as a program that starts with these variables. -/
def start (script : Script C R σ ε α) (s : σ) : Prog C R (Except ε α × σ) :=
  StateT.run (ExceptT.run script) s

/-- How a script goes on after an outcome. -/
def next (f : α → Script C R σ ε β) (handler : ε → Script C R σ ε β) :
    Except ε α × σ → Prog C R (Except ε β × σ)
  | (.ok a, s) => (f a).start s
  | (.error e, s) => (handler e).start s

theorem start_bind (script : Script C R σ ε α) (f : α → Script C R σ ε β) (s : σ) :
    (script >>= f).start s = script.start s >>= next f throw := by
  show script.start s >>= _ = _
  congr 1
  funext outcome
  rcases outcome with ⟨_ | a, s'⟩ <;> rfl

theorem start_tryCatch (script : Script C R σ ε α) (handler : ε → Script C R σ ε α) (s : σ) :
    (tryCatch script handler).start s = script.start s >>= next pure handler := by
  show script.start s >>= _ = _
  congr 1
  funext outcome
  rcases outcome with ⟨_ | a, s'⟩ <;> rfl

/-- The call `c`, whose reply may be an exception. -/
def request (c : C) (read : R c → Except ε α) : Script C R σ ε α :=
  ExceptT.mk fun s => .call c fun r => .pure (read r, s)

/-- A computation without calls. -/
def ofExcept (result : Except ε α) : Script C R σ ε α := ExceptT.mk (pure result)

-- ════════════════════════════════
-- Runs
-- ════════════════════════════════

variable {W : Type*} {step : W → (c : C) → R c → W → Prop}

/-- Started with the variables `s` in the world `w`, the script can end in `r`, with `s'`, in
`w'`. -/
def Runs (step : W → (c : C) → R c → W → Prop) (script : Script C R σ ε α) (s : σ) (w : W)
    (r : Except ε α) (s' : σ) (w' : W) : Prop :=
  (script.start s).Run step w (r, s') w'

section Runs

variable {s s' : σ} {w w' : W}

theorem runs_pure {a : α} {r : Except ε α} :
    Runs step (pure a) s w r s' w' ↔ r = .ok a ∧ s' = s ∧ w' = w := by
  show (r, s') = (.ok a, s) ∧ w' = w ↔ _
  rw [Prod.mk.injEq, and_assoc]

theorem runs_pure_ok {a b : α} :
    Runs step (pure a : Script C R σ ε α) s w (.ok b) s' w' ↔ b = a ∧ s' = s ∧ w' = w := by
  rw [runs_pure, Except.ok.injEq]

theorem runs_throw {e : ε} {r : Except ε α} :
    Runs step (throw e) s w r s' w' ↔ r = .error e ∧ s' = s ∧ w' = w := by
  show (r, s') = (.error e, s) ∧ w' = w ↔ _
  rw [Prod.mk.injEq, and_assoc]

theorem runs_ofExcept {result r : Except ε α} :
    Runs step (ofExcept result) s w r s' w' ↔ r = result ∧ s' = s ∧ w' = w := by
  show (r, s') = (result, s) ∧ w' = w ↔ _
  rw [Prod.mk.injEq, and_assoc]

theorem runs_get {r : Except ε σ} :
    Runs step get s w r s' w' ↔ r = .ok s ∧ s' = s ∧ w' = w := by
  show (r, s') = (.ok s, s) ∧ w' = w ↔ _
  rw [Prod.mk.injEq, and_assoc]

theorem runs_modify {f : σ → σ} {r : Except ε PUnit} :
    Runs step (modify f) s w r s' w' ↔ r = .ok ⟨⟩ ∧ s' = f s ∧ w' = w := by
  show (r, s') = (.ok ⟨⟩, f s) ∧ w' = w ↔ _
  rw [Prod.mk.injEq, and_assoc]

theorem runs_request {c : C} {read : R c → Except ε α} {r : Except ε α} :
    Runs step (request c read) s w r s' w' ↔
      ∃ reply, step w c reply w' ∧ r = read reply ∧ s' = s := by
  constructor
  · rintro ⟨reply, w₁, hstep, hresult, rfl⟩
    obtain ⟨rfl, rfl⟩ := Prod.mk.inj hresult
    exact ⟨reply, hstep, rfl, rfl⟩
  · rintro ⟨reply, hstep, rfl, rfl⟩
    exact ⟨reply, w', hstep, rfl, rfl⟩

/-- A statement raised an exception, or returned and was followed by the rest. -/
theorem runs_bind {script : Script C R σ ε α} {f : α → Script C R σ ε β} {r : Except ε β} :
    Runs step (script >>= f) s w r s' w' ↔
      (∃ e, Runs step script s w (.error e) s' w' ∧ r = .error e) ∨
        ∃ a s₁ w₁, Runs step script s w (.ok a) s₁ w₁ ∧ Runs step (f a) s₁ w₁ r s' w' := by
  unfold Runs
  rw [start_bind, Prog.run_bind]
  constructor
  · rintro ⟨⟨_ | a, s₁⟩, w₁, hscript, hnext⟩
    · obtain ⟨rfl, rfl, rfl⟩ := runs_throw.mp hnext
      exact .inl ⟨_, hscript, rfl⟩
    · exact .inr ⟨a, s₁, w₁, hscript, hnext⟩
  · rintro (⟨e, hscript, rfl⟩ | ⟨a, s₁, w₁, hscript, hnext⟩)
    · exact ⟨(.error e, s'), w', hscript, runs_throw.mpr ⟨rfl, rfl, rfl⟩⟩
    · exact ⟨(.ok a, s₁), w₁, hscript, hnext⟩

/-- A run without an exception. -/
theorem runs_bind_ok {script : Script C R σ ε α} {f : α → Script C R σ ε β} {b : β} :
    Runs step (script >>= f) s w (.ok b) s' w' ↔
      ∃ a s₁ w₁, Runs step script s w (.ok a) s₁ w₁ ∧ Runs step (f a) s₁ w₁ (.ok b) s' w' := by
  rw [runs_bind]
  constructor
  · rintro (⟨_, -, h⟩ | h)
    · cases h
    · exact h
  · exact .inr

/-- A statement returned, or its handler took over. -/
theorem runs_tryCatch {script : Script C R σ ε α} {handler : ε → Script C R σ ε α}
    {r : Except ε α} :
    Runs step (tryCatch script handler) s w r s' w' ↔
      (∃ a, Runs step script s w (.ok a) s' w' ∧ r = .ok a) ∨
        ∃ e s₁ w₁, Runs step script s w (.error e) s₁ w₁ ∧
          Runs step (handler e) s₁ w₁ r s' w' := by
  unfold Runs
  rw [start_tryCatch, Prog.run_bind]
  constructor
  · rintro ⟨⟨_ | a, s₁⟩, w₁, hscript, hnext⟩
    · exact .inr ⟨_, s₁, w₁, hscript, hnext⟩
    · obtain ⟨rfl, rfl, rfl⟩ := runs_pure.mp hnext
      exact .inl ⟨a, hscript, rfl⟩
  · rintro (⟨a, hscript, rfl⟩ | ⟨e, s₁, w₁, hscript, hnext⟩)
    · exact ⟨(.ok a, s'), w', hscript, runs_pure.mpr ⟨rfl, rfl, rfl⟩⟩
    · exact ⟨(.error e, s₁), w₁, hscript, hnext⟩

theorem runs_ite {c : Prop} [Decidable c] {script script' : Script C R σ ε α} {r : Except ε α}
    (h : Runs step (if c then script else script') s w r s' w') :
    (c ∧ Runs step script s w r s' w') ∨ (¬c ∧ Runs step script' s w r s' w') := by
  by_cases hc : c
  · rw [if_pos hc] at h
    exact .inl ⟨hc, h⟩
  · rw [if_neg hc] at h
    exact .inr ⟨hc, h⟩

/-- The script played against a handler: its outcome, its variables, and the handler's state. -/
def play {V : Type*} (handle : V → (c : C) → R c × V) (script : Script C R σ ε α) (s : σ) (v : V) :
    (Except ε α × σ) × V :=
  (script.start s).exec handle v

/-- A play is a run in the world that is seen of the handler's states. -/
theorem runs_play {V : Type*} (handle : V → (c : C) → R c × V) (seen : V → W)
    (hstep : ∀ v c, step (seen v) c (handle v c).1 (seen (handle v c).2))
    (script : Script C R σ ε α) (s : σ) (v : V) :
    Runs step script s (seen v) (script.play handle s v).1.1 (script.play handle s v).1.2
      (seen (script.play handle s v).2) := by
  show (script.start s).Run step (seen v) ((script.start s).exec handle v).1
    (seen ((script.start s).exec handle v).2)
  induction script.start s generalizing v with
  | pure _ => exact ⟨rfl, rfl⟩
  | call c k ih => exact ⟨_, _, hstep v c, ih _ _⟩

end Runs

-- ════════════════════════════════
-- Runs without an exception
-- ════════════════════════════════

/-- From the variables and the world `x` the script can return `a`, with the variables and the
world `y`. -/
def Ran (step : W → (c : C) → R c → W → Prop) (script : Script C R σ ε α) (x : σ × W) (a : α)
    (y : σ × W) : Prop :=
  Runs step script x.1 x.2 (.ok a) y.1 y.2

section Ran

variable {x y : σ × W}

theorem ran_pure {a b : α} : Ran step (pure a : Script C R σ ε α) x b y ↔ b = a ∧ y = x := by
  unfold Ran
  rw [runs_pure_ok, Prod.ext_iff]

theorem ran_throw {e : ε} {a : α} : ¬Ran step (throw e : Script C R σ ε α) x a y := by
  intro h
  cases (runs_throw.mp h).1

theorem ran_ofExcept {result : Except ε α} {a : α} :
    Ran step (ofExcept result : Script C R σ ε α) x a y ↔ result = .ok a ∧ y = x := by
  unfold Ran
  rw [runs_ofExcept, Prod.ext_iff, eq_comm]

theorem ran_get {s : σ} : Ran step (get : Script C R σ ε σ) x s y ↔ s = x.1 ∧ y = x := by
  unfold Ran
  rw [runs_get, Except.ok.injEq, Prod.ext_iff]

theorem ran_modify {f : σ → σ} {a : PUnit} :
    Ran step (modify f : Script C R σ ε PUnit) x a y ↔ y = (f x.1, x.2) := by
  unfold Ran
  rw [runs_modify, Prod.ext_iff]
  exact and_iff_right rfl

theorem ran_request {c : C} {read : R c → Except ε α} {a : α} :
    Ran step (request c read : Script C R σ ε α) x a y ↔
      ∃ reply, step x.2 c reply y.2 ∧ read reply = .ok a ∧ y.1 = x.1 := by
  unfold Ran
  rw [runs_request]
  constructor
  · rintro ⟨reply, hstep, hread, hvariables⟩
    exact ⟨reply, hstep, hread.symm, hvariables⟩
  · rintro ⟨reply, hstep, hread, hvariables⟩
    exact ⟨reply, hstep, hread.symm, hvariables⟩

theorem ran_bind {script : Script C R σ ε α} {f : α → Script C R σ ε β} {b : β} :
    Ran step (script >>= f) x b y ↔ ∃ a z, Ran step script x a z ∧ Ran step (f a) z b y := by
  unfold Ran
  rw [runs_bind_ok]
  constructor
  · rintro ⟨a, s, w, hscript, hrest⟩
    exact ⟨a, (s, w), hscript, hrest⟩
  · rintro ⟨a, z, hscript, hrest⟩
    exact ⟨a, z.1, z.2, hscript, hrest⟩

theorem ran_tryCatch {script : Script C R σ ε α} {handler : ε → Script C R σ ε α} {a : α} :
    Ran step (tryCatch script handler) x a y ↔
      Ran step script x a y ∨
        ∃ e z, Runs step script x.1 x.2 (.error e) z.1 z.2 ∧ Ran step (handler e) z a y := by
  unfold Ran
  rw [runs_tryCatch]
  constructor
  · rintro (⟨_, hscript, heq⟩ | ⟨e, s, w, hscript, hhandler⟩)
    · cases heq
      exact .inl hscript
    · exact .inr ⟨e, (s, w), hscript, hhandler⟩
  · rintro (hscript | ⟨e, z, hscript, hhandler⟩)
    · exact .inl ⟨a, hscript, rfl⟩
    · exact .inr ⟨e, z.1, z.2, hscript, hhandler⟩

theorem ran_ite {c : Prop} [Decidable c] {script script' : Script C R σ ε α} {a : α} :
    Ran step (if c then script else script') x a y ↔
      (c ∧ Ran step script x a y) ∨ (¬c ∧ Ran step script' x a y) := by
  by_cases hc : c
  · rw [if_pos hc]
    exact ⟨fun h => .inl ⟨hc, h⟩, fun h => h.elim And.right fun h => absurd hc h.1⟩
  · rw [if_neg hc]
    exact ⟨fun h => .inr ⟨hc, h⟩, fun h => h.elim (fun h => absurd h.1 hc) And.right⟩

end Ran

-- ════════════════════════════════
-- Invariants
-- ════════════════════════════════

/-- The script keeps the invariant `I`, also when it raises an exception, and its outcome
satisfies `post`. -/
def Keeps (step : W → (c : C) → R c → W → Prop) (I : σ → W → Prop) (script : Script C R σ ε α)
    (post : Except ε α → Prop) : Prop :=
  ∀ s w r s' w', I s w → Runs step script s w r s' w' → I s' w' ∧ post r

section Keeps

variable {I : σ → W → Prop} {post : Except ε α → Prop}

theorem keeps_pure {a : α} (h : post (.ok a)) : Keeps step I (pure a) post := by
  intro s w r s' w' hI hrun
  obtain ⟨rfl, rfl, rfl⟩ := runs_pure.mp hrun
  exact ⟨hI, h⟩

theorem keeps_throw {e : ε} (h : post (.error e)) : Keeps step I (throw e) post := by
  intro s w r s' w' hI hrun
  obtain ⟨rfl, rfl, rfl⟩ := runs_throw.mp hrun
  exact ⟨hI, h⟩

theorem keeps_ofExcept {result : Except ε α} (h : post result) :
    Keeps step I (ofExcept result) post := by
  intro s w r s' w' hI hrun
  obtain ⟨rfl, rfl, rfl⟩ := runs_ofExcept.mp hrun
  exact ⟨hI, h⟩

theorem keeps_get {post : Except ε σ → Prop} (h : ∀ s w, I s w → post (.ok s)) :
    Keeps step I get post := by
  intro s w r s' w' hI hrun
  obtain ⟨rfl, rfl, rfl⟩ := runs_get.mp hrun
  exact ⟨hI, h _ _ hI⟩

theorem keeps_modify {f : σ → σ} {post : Except ε PUnit → Prop} (hf : ∀ s w, I s w → I (f s) w)
    (h : post (.ok ⟨⟩)) : Keeps step I (modify f) post := by
  intro s w r s' w' hI hrun
  obtain ⟨rfl, rfl, rfl⟩ := runs_modify.mp hrun
  exact ⟨hf s _ hI, h⟩

theorem keeps_request {c : C} {read : R c → Except ε α}
    (h : ∀ s w reply w', I s w → step w c reply w' → I s w' ∧ post (read reply)) :
    Keeps step I (request c read) post := by
  intro s w r s' w' hI hrun
  obtain ⟨reply, hstep, rfl, rfl⟩ := runs_request.mp hrun
  exact h _ w reply w' hI hstep

theorem Keeps.mono {script : Script C R σ ε α} {post' : Except ε α → Prop}
    (h : Keeps step I script post) (hpost : ∀ r, post r → post' r) :
    Keeps step I script post' := by
  intro s w r s' w' hI hrun
  obtain ⟨hI', hr⟩ := h s w r s' w' hI hrun
  exact ⟨hI', hpost r hr⟩

theorem Keeps.bind {script : Script C R σ ε α} {f : α → Script C R σ ε β}
    {post' : Except ε β → Prop} (h : Keeps step I script post)
    (herror : ∀ e, post (.error e) → post' (.error e))
    (hok : ∀ a, post (.ok a) → Keeps step I (f a) post') :
    Keeps step I (script >>= f) post' := by
  intro s w r s' w' hI hrun
  rcases runs_bind.mp hrun with ⟨e, hscript, rfl⟩ | ⟨a, s₁, w₁, hscript, hnext⟩
  · obtain ⟨hI', he⟩ := h s w _ s' w' hI hscript
    exact ⟨hI', herror e he⟩
  · obtain ⟨hI₁, ha⟩ := h s w _ s₁ w₁ hI hscript
    exact hok a ha s₁ w₁ r s' w' hI₁ hnext

theorem Keeps.tryCatch {script : Script C R σ ε α} {handler : ε → Script C R σ ε α}
    {post' : Except ε α → Prop} (h : Keeps step I script post)
    (hok : ∀ a, post (.ok a) → post' (.ok a))
    (hhandler : ∀ e, post (.error e) → Keeps step I (handler e) post') :
    Keeps step I (tryCatch script handler) post' := by
  intro s w r s' w' hI hrun
  rcases runs_tryCatch.mp hrun with ⟨a, hscript, rfl⟩ | ⟨e, s₁, w₁, hscript, hnext⟩
  · obtain ⟨hI', ha⟩ := h s w _ s' w' hI hscript
    exact ⟨hI', hok a ha⟩
  · obtain ⟨hI₁, he⟩ := h s w _ s₁ w₁ hI hscript
    exact hhandler e he s₁ w₁ r s' w' hI₁ hnext

theorem keeps_ite {c : Prop} [Decidable c] {script script' : Script C R σ ε α}
    (h : c → Keeps step I script post) (h' : ¬c → Keeps step I script' post) :
    Keeps step I (if c then script else script') post := by
  by_cases hc : c
  · rw [if_pos hc]
    exact h hc
  · rw [if_neg hc]
    exact h' hc

end Keeps

section Returned

variable {I : σ → W → Prop} {p : α → Prop} {q : β → Prop}

/-- A property of the value, if one is returned. -/
def Returned (p : α → Prop) (r : Except ε α) : Prop := ∀ a, r = .ok a → p a

theorem returned_ok {a : α} (h : p a) : Returned p (.ok a : Except ε α) := by
  intro b hb
  cases hb
  exact h

theorem returned_error {e : ε} : Returned p (.error e) := by
  intro b hb
  cases hb

/-- A statement and the rest, which relies on the value. -/
theorem Keeps.seq {script : Script C R σ ε α} {f : α → Script C R σ ε β}
    (h : Keeps step I script (Returned p)) (hf : ∀ a, p a → Keeps step I (f a) (Returned q)) :
    Keeps step I (script >>= f) (Returned q) :=
  h.bind (fun _ _ => returned_error) fun a ha => hf a (ha a rfl)

/-- A value with the property is returned. -/
def Yields (p : α → Prop) (r : Except ε α) : Prop := ∃ a, r = .ok a ∧ p a

/-- A statement that raises no exception, and the rest. -/
theorem Keeps.total {script : Script C R σ ε α} {f : α → Script C R σ ε β}
    {post : Except ε β → Prop} (h : Keeps step I script (Yields p))
    (hf : ∀ a, p a → Keeps step I (f a) post) : Keeps step I (script >>= f) post := by
  apply h.bind
  · rintro _ ⟨_, h, -⟩
    cases h
  · rintro a ⟨_, h, ha⟩
    cases h
    exact hf a ha

end Returned

end Script

end Interaction
