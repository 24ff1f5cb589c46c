import CatalogBench.Library.Emission

/-!
# Two runs

Two programs are run against environments whose replies to the same call are related. `Related`
says that the two runs then end in related results and issue the same visible calls in the same
order. The rules below follow the programs: parts whose replies agree run alike, parts that issue
nothing visible may differ.

## Main definitions

- `Prog.RepliesRelated`: the replies in two traces are related call by call
- `Prog.Related`: related results and equal visible calls
-/

set_option linter.all false

namespace Interaction

universe u v

namespace Prog

variable {C : Type u} {R : C → Type v} {α β γ δ : Type v}

/-- What is replied to one call in the two traces is related by `agree`. -/
def RepliesRelated (agree : (c : C) → R c → R c → Prop) (es es' : List (Answered C R)) : Prop :=
  ∀ c r r', ⟨c, r⟩ ∈ es → ⟨c, r'⟩ ∈ es' → agree c r r'

variable {agree : (c : C) → R c → R c → Prop}

theorem RepliesRelated.mono {es es' fs fs' : List (Answered C R)}
    (h : RepliesRelated agree es es') (hs : fs ⊆ es) (hs' : fs' ⊆ es') :
    RepliesRelated agree fs fs' :=
  fun c r r' hr hr' => h c r r' (hs hr) (hs' hr')

/-- The visible calls of a trace. -/
def visible (P : C → Bool) (es : List (Answered C R)) : List C :=
  (es.map Answered.call).filter P

theorem visible_append (P : C → Bool) (es es' : List (Answered C R)) :
    visible P (es ++ es') = visible P es ++ visible P es' := by
  rw [visible, List.map_append, List.filter_append]
  rfl

/-- In two runs with related replies the results are related and the visible calls equal. -/
def Related (agree : (c : C) → R c → R c → Prop) (P : C → Bool) (rel : α → β → Prop)
    (p : Prog C R α) (q : Prog C R β) : Prop :=
  ∀ a b es es', p.Traced a es → q.Traced b es' → RepliesRelated agree es es' →
    rel a b ∧ visible P es = visible P es'

section Rules

variable {P : C → Bool} {rel : α → β → Prop} {p : Prog C R α} {q : Prog C R β}

theorem related_pure {a : α} {b : β} (h : rel a b) :
    Related agree P rel (Pure.pure a) (Pure.pure b) := by
  rintro _ _ _ _ ⟨rfl, rfl⟩ ⟨rfl, rfl⟩ _
  exact ⟨h, rfl⟩

theorem related_ask (c : C) : Related agree P (agree c) (ask c) (ask c) := by
  rintro r r' _ _ ⟨_, _, rfl, rfl, rfl⟩ ⟨_, _, rfl, rfl, rfl⟩ h
  exact ⟨h c r r' List.mem_cons_self List.mem_cons_self, rfl⟩

theorem Related.mono {rel' : α → β → Prop} (h : Related agree P rel p q)
    (hrel : ∀ a b, rel a b → rel' a b) : Related agree P rel' p q := by
  intro a b es es' hp hq hreplies
  obtain ⟨hab, hvisible⟩ := h a b es es' hp hq hreplies
  exact ⟨hrel a b hab, hvisible⟩

theorem Related.bind {rel' : γ → δ → Prop} {f : α → Prog C R γ} {g : β → Prog C R δ}
    (h : Related agree P rel p q) (hf : ∀ a b, rel a b → Related agree P rel' (f a) (g b)) :
    Related agree P rel' (p >>= f) (q >>= g) := by
  intro c d es es' hp hq hreplies
  obtain ⟨a, es₁, es₂, rfl, hp₁, hp₂⟩ := traced_bind.mp hp
  obtain ⟨b, es₁', es₂', rfl, hq₁, hq₂⟩ := traced_bind.mp hq
  obtain ⟨hab, hfirst⟩ := h a b es₁ es₁' hp₁ hq₁
    (hreplies.mono (List.subset_append_left _ _) (List.subset_append_left _ _))
  obtain ⟨hcd, hsecond⟩ := hf a b hab c d es₂ es₂' hp₂ hq₂
    (hreplies.mono (List.subset_append_right _ _) (List.subset_append_right _ _))
  exact ⟨hcd, by rw [visible_append, visible_append, hfirst, hsecond]⟩

/-- A program all of whose replies agree does the same in both runs. -/
theorem related_refl {p : Prog C R α}
    (h : p.All fun c => ∀ r r', agree c r r' → r = r') : Related agree P Eq p p := by
  intro a b es es' hp hq hreplies
  suffices a = b ∧ es = es' from ⟨this.1, by rw [this.2]⟩
  induction p generalizing es es' with
  | pure a =>
    obtain ⟨rfl, rfl⟩ := hp
    obtain ⟨rfl, rfl⟩ := hq
    exact ⟨rfl, rfl⟩
  | call c k ih =>
    obtain ⟨r, es₁, rfl, hk⟩ := hp
    obtain ⟨r', es₁', rfl, hk'⟩ := hq
    obtain rfl := h.1 r r' (hreplies c r r' List.mem_cons_self List.mem_cons_self)
    obtain ⟨rfl, rfl⟩ := ih r (h.2 r) es₁ es₁' hk hk'
      (hreplies.mono (List.subset_cons_self _ _) (List.subset_cons_self _ _))
    exact ⟨rfl, rfl⟩

theorem visible_eq_nil (h : p.All fun c => P c = false) {a : α} {es : List (Answered C R)}
    (hp : p.Traced a es) : visible P es = [] := by
  induction p generalizing es with
  | pure a =>
    obtain ⟨rfl, rfl⟩ := hp
    rfl
  | call c k ih =>
    obtain ⟨r, es', rfl, hk⟩ := hp
    have hrest := ih r (h.2 r) hk
    simp only [visible, List.map_cons, List.filter_cons, h.1] at hrest ⊢
    exact hrest

/-- Two programs that issue nothing visible are related by what holds of their results. -/
theorem related_invisible {post : α → List (Answered C R) → Prop}
    {post' : β → List (Answered C R) → Prop} (hp : p.All fun c => P c = false)
    (hq : q.All fun c => P c = false) (hpost : p.Emits post) (hpost' : q.Emits post')
    (hrel : ∀ a b es es', post a es → post' b es' → rel a b) : Related agree P rel p q := by
  intro a b es es' hpa hqb _
  refine ⟨hrel a b es es' (hpost.traced hpa) (hpost'.traced hqb), ?_⟩
  rw [visible_eq_nil hp hpa, visible_eq_nil hq hqb]

end Rules

section Transformations

variable {C C' : Type u} {R : C → Type u} {R' : C' → Type u} {α β : Type u}
  {rel : α → β → Prop}

theorem Related.logged {agree : (c : C) → R c → R c → Prop} {P : C → Bool} {p : Prog C R α}
    {q : Prog C R β} (h : Related agree P rel p q) :
    Related agree P (fun result result' => rel result.1 result'.1) p.logged q.logged := by
  intro result result' es es' hp hq hreplies
  exact h _ _ es es' (traced_logged.mp hp).1 (traced_logged.mp hq).1 hreplies

theorem visible_map (f : C → C') (P : C' → Bool) (es : List (Answered C fun c => R' (f c))) :
    visible P (es.map fun e => (⟨f e.call, e.reply⟩ : Answered C' R')) =
      (visible (fun c => P (f c)) es).map f := by
  induction es with
  | nil => rfl
  | cons e es ih =>
    simp only [visible, List.map_cons, List.filter_cons] at ih ⊢
    split
    · rw [List.map_cons, ih]
    · exact ih

theorem Related.embed {agree : (c : C') → R' c → R' c → Prop} {P : C' → Bool} {f : C → C'}
    {p : Prog C (fun c => R' (f c)) α} {q : Prog C (fun c => R' (f c)) β}
    (h : Related (fun c => agree (f c)) (fun c => P (f c)) rel p q) :
    Related agree P rel (p.embed f) (q.embed f) := by
  intro a b es es' hp hq hreplies
  obtain ⟨fs, rfl, hpa⟩ := traced_embed.mp hp
  obtain ⟨fs', rfl, hqb⟩ := traced_embed.mp hq
  obtain ⟨hab, hvisible⟩ := h a b fs fs' hpa hqb fun c r r' hr hr' =>
    hreplies (f c) r r' (List.mem_map_of_mem hr) (List.mem_map_of_mem hr')
  exact ⟨hab, by rw [visible_map, visible_map, hvisible]⟩

end Transformations

theorem exists_traced [∀ c, Nonempty (R c)] (p : Prog C R α) : ∃ a es, p.Traced a es := by
  induction p with
  | pure a => exact ⟨a, [], rfl, rfl⟩
  | call c k ih =>
    obtain ⟨r⟩ : Nonempty (R c) := inferInstance
    obtain ⟨a, es, htraced⟩ := ih r
    exact ⟨a, ⟨c, r⟩ :: es, r, es, rfl, htraced⟩

/-- If every call of a program can be replied to, a property of the calls in its traces is one of
all its calls. -/
theorem all_of_emits [∀ c, Nonempty (R c)] {P : C → Prop} {p : Prog C R α}
    (h : p.Emits fun _ es => ∀ e ∈ es, P e.call) : p.All P := by
  induction p with
  | pure a => trivial
  | call c k ih =>
    refine ⟨?_, fun r => ih r ((h r).mono fun _ es hes e he => hes e (List.mem_cons_of_mem _ he))⟩
    obtain ⟨r⟩ : Nonempty (R c) := inferInstance
    obtain ⟨a, es, htraced⟩ := exists_traced (k r)
    exact ((h r).traced htraced) _ List.mem_cons_self

end Prog

end Interaction
