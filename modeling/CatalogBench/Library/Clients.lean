import CatalogBench.Library.Interaction
import CatalogBench.Library.Threads

/-!
# Clients of one server

Programs that send calls to one server, each call answered in one step, in any interleaving. A
program is judged under a discipline: facts that every state of the server keeps, and an order
that says how the server may change behind the program's back. What each program does must stay
within the discipline, and then every interleaving does.
-/

set_option linter.all false

namespace Interaction

open Threads

universe u v

variable {C : Type u} {R : C → Type v} {α β : Type v} {σ : Type*}

/-- How the server may change while a program waits. -/
structure Discipline (σ : Type*) where
  good : σ → Prop
  later : σ → σ → Prop
  refl : ∀ {s}, good s → later s s
  trans : ∀ {s s' s''}, later s s' → later s' s'' → later s s''

namespace Prog

/-- The program takes at most `n` calls to finish. -/
def AtMost : ℕ → Prog C R α → Prop
  | _, .pure _ => True
  | 0, .call _ _ => False
  | n + 1, .call _ k => ∀ r, AtMost n (k r)

theorem AtMost.mono {m n : ℕ} {p : Prog C R α} (h : p.AtMost m) (hle : m ≤ n) : p.AtMost n := by
  induction p generalizing m n with
  | pure => cases n <;> trivial
  | call c k ih =>
    cases m with
    | zero => exact h.elim
    | succ m =>
      cases n with
      | zero => omega
      | succ n => exact fun r => ih r (h r) (by omega)

theorem atMost_pure (n : ℕ) (a : α) : (Pure.pure a : Prog C R α).AtMost n := by
  cases n <;> trivial

theorem atMost_bind {m n : ℕ} {p : Prog C R α} {f : α → Prog C R β} (hp : p.AtMost m)
    (hf : ∀ a, (f a).AtMost n) : (p >>= f).AtMost (m + n) := by
  induction p generalizing m with
  | pure a => exact (hf a).mono (by omega)
  | call c k ih =>
    cases m with
    | zero => exact hp.elim
    | succ m =>
      rw [Nat.add_right_comm]
      exact fun r => ih r (hp r)

theorem atMost_ite {n : ℕ} {c : Prop} [Decidable c] {p q : Prog C R α} (hp : p.AtMost n)
    (hq : q.AtMost n) : (if c then p else q).AtMost n := by
  split
  · exact hp
  · exact hq

theorem atMost_ask (c : C) : (ask c : Prog C R (R c)).AtMost 1 := fun r => atMost_pure 0 r

/-- Under the discipline the program sends calls that are allowed, answers the discipline in
turn, and what it returns satisfies `post` from then on. -/
def Within (discipline : Discipline σ) (handle : σ → (c : C) → R c × σ) (allows : C → Prop)
    (post : α → σ → Prop) : Prog C R α → σ → Prop
  | .pure a, s => ∀ s', discipline.good s' → discipline.later s s' → post a s'
  | .call c k, s => allows c ∧ ∀ s', discipline.good s' → discipline.later s s' →
      discipline.good (handle s' c).2 ∧ discipline.later s' (handle s' c).2 ∧
        Within discipline handle allows post (k (handle s' c).1) (handle s' c).2

section Rules

variable {discipline : Discipline σ} {handle : σ → (c : C) → R c × σ} {allows : C → Prop}
  {post : α → σ → Prop} {s s' : σ}

/-- What other programs do does not disturb a program. -/
theorem Within.of_later {p : Prog C R α} (h : p.Within discipline handle allows post s)
    (hlater : discipline.later s s') : p.Within discipline handle allows post s' := by
  cases p with
  | pure a => exact fun s'' hgood hlater' => h s'' hgood (discipline.trans hlater hlater')
  | call c k =>
    exact ⟨h.1, fun s'' hgood hlater' => h.2 s'' hgood (discipline.trans hlater hlater')⟩

theorem within_pure {a : α} (h : ∀ s', discipline.good s' → discipline.later s s' → post a s') :
    (Pure.pure a : Prog C R α).Within discipline handle allows post s := h

theorem within_bind {p : Prog C R α} {f : α → Prog C R β} {post : β → σ → Prop}
    (hgood : discipline.good s)
    (h : p.Within discipline handle allows
      (fun a s => (f a).Within discipline handle allows post s) s) :
    (p >>= f).Within discipline handle allows post s := by
  induction p generalizing s with
  | pure a => exact h s hgood (discipline.refl hgood)
  | call c k ih =>
    refine ⟨h.1, fun s' hgood' hlater => ?_⟩
    obtain ⟨hgood'', hlater', hk⟩ := h.2 s' hgood' hlater
    exact ⟨hgood'', hlater', ih _ hgood'' hk⟩

/-- A call and what follows it, from the state in which the server answers. -/
theorem within_ask_bind {c : C} {f : R c → Prog C R β} {post : β → σ → Prop} (hallows : allows c)
    (h : ∀ s', discipline.good s' → discipline.later s s' →
      discipline.good (handle s' c).2 ∧ discipline.later s' (handle s' c).2 ∧
        (f (handle s' c).1).Within discipline handle allows post (handle s' c).2) :
    (ask c >>= f).Within discipline handle allows post s := ⟨hallows, h⟩

end Rules

end Prog

/-- A client: the calls that it sent and the rest of its program. -/
structure Client (C : Type u) (R : C → Type v) (α : Type v) where
  sent : List C
  rest : Prog C R α

namespace Client

/-- A client that is about to run a program. -/
def start (program : Prog C R α) : Client C R α := ⟨[], program⟩

/-- The server answers one call. -/
inductive Step (handle : σ → (c : C) → R c × σ) : σ → Client C R α → σ → Client C R α → Prop
  | call {server : σ} {sent : List C} (c : C) (k : R c → Prog C R α) :
      Step handle server ⟨sent, .call c k⟩ (handle server c).2
        ⟨sent ++ [c], k (handle server c).1⟩

/-- What is asked of one client: the calls that it may send and what its result says. -/
structure Spec (C : Type u) (α : Type v) (σ : Type*) where
  allows : C → Prop
  post : α → σ → Prop

/-- The client kept to its specification so far and will go on to. -/
def Meets (discipline : Discipline σ) (handle : σ → (c : C) → R c × σ) (spec : Spec C α σ)
    (server : σ) (client : Client C R α) : Prop :=
  (∀ c ∈ client.sent, spec.allows c) ∧
    client.rest.Within discipline handle spec.allows spec.post server

/-- The client never sends more than `bound` calls. -/
def Bounded (bound : ℕ) (client : Client C R α) : Prop :=
  ∃ n, client.sent.length + n ≤ bound ∧ client.rest.AtMost n

section Runs

variable {discipline : Discipline σ} {handle : σ → (c : C) → R c × σ} {server server' : σ}
  {clients clients' : List (Client C R α)}

theorem Step.meets {spec : Spec C α σ} {client client' : Client C R α}
    (step : Step handle server client server' client') (hgood : discipline.good server)
    (h : client.Meets discipline handle spec server) :
    discipline.good server' ∧ discipline.later server server' ∧
      client'.Meets discipline handle spec server' := by
  obtain ⟨c, k⟩ := step
  obtain ⟨hsent, hallows, hnext⟩ := h
  obtain ⟨hgood', hlater, hrest⟩ := hnext server hgood (discipline.refl hgood)
  refine ⟨hgood', hlater, fun c' hc' => ?_, hrest⟩
  rcases List.mem_append.mp hc' with hold | hnew
  · exact hsent c' hold
  · rw [List.mem_singleton.mp hnew]
    exact hallows

/-- Clients that each keep to a specification keep to it in every interleaving. -/
theorem run_meets {specs : List (Spec C α σ)}
    (run : Run (Step handle) (server, clients) (server', clients'))
    (hgood : discipline.good server)
    (h : List.Forall₂ (fun spec client => client.Meets discipline handle spec server)
      specs clients) :
    discipline.good server' ∧ discipline.later server server' ∧
      List.Forall₂ (fun spec client => client.Meets discipline handle spec server')
        specs clients' := by
  have hrun := run.forall₂ (S := fun s => discipline.good s ∧ discipline.later server s)
    (T := fun spec s client => client.Meets discipline handle spec s)
    (fun hshared hthread _ step => by
      obtain ⟨hgood', hlater, hmeets⟩ := step.meets hshared.1 hthread
      refine ⟨⟨hgood', discipline.trans hshared.2 hlater⟩, hmeets, fun spec other hother => ?_⟩
      exact ⟨hother.1, hother.2.of_later hlater⟩)
    ⟨hgood, discipline.refl hgood⟩ h
  exact ⟨hrun.1.1, hrun.1.2, hrun.2⟩

/-- The same for clients with one specification. -/
theorem run_meets_all {P : Spec C α σ}
    (run : Run (Step handle) (server, clients) (server', clients'))
    (hgood : discipline.good server)
    (h : ∀ client ∈ clients, client.Meets discipline handle P server) :
    discipline.good server' ∧ discipline.later server server' ∧
      ∀ client ∈ clients', client.Meets discipline handle P server' := by
  have hrun := run.forall_mem (S := fun s => discipline.good s ∧ discipline.later server s)
    (T := fun s client => client.Meets discipline handle P s)
    (fun hshared hthread _ step => by
      obtain ⟨hgood', hlater, hmeets⟩ := step.meets hshared.1 hthread
      refine ⟨⟨hgood', discipline.trans hshared.2 hlater⟩, hmeets, fun other _ hother => ?_⟩
      exact ⟨hother.1, hother.2.of_later hlater⟩)
    ⟨hgood, discipline.refl hgood⟩ h
  exact ⟨hrun.1.1, hrun.1.2, hrun.2⟩

theorem run_bounded {b : ℕ} (run : Run (Step handle) (server, clients) (server', clients'))
    (h : ∀ client ∈ clients, client.Bounded b) : ∀ client ∈ clients', client.Bounded b :=
  (run.forall_mem (S := fun _ => True) (T := fun _ client => client.Bounded b)
    (fun _ hthread _ step => by
      refine ⟨trivial, ?_, fun _ _ hother => hother⟩
      obtain ⟨c, k⟩ := step
      obtain ⟨n, hle, hatMost⟩ := hthread
      cases n with
      | zero => exact hatMost.elim
      | succ n =>
        refine ⟨n, ?_, hatMost _⟩
        rw [List.length_append, List.length_singleton]
        exact (Nat.add_right_comm _ _ _).symm ▸ hle)
    trivial h).2

/-- A client that has not returned can go on. -/
theorem returned_or_step (handle : σ → (c : C) → R c × σ) (server : σ) (client : Client C R α) :
    (∃ a, client.rest = .pure a) ∨
      ∃ server' client', Step handle server client server' client' := by
  obtain ⟨sent, rest⟩ := client
  cases rest with
  | pure a => exact .inl ⟨a, rfl⟩
  | call c k => exact .inr ⟨_, _, .call c k⟩

/-- A client that sent nothing is at the start of its program. -/
theorem run_unstarted {program : Prog C R α} {n : ℕ}
    (run : Run (Step handle) (server, List.replicate n (start program)) (server', clients')) :
    ∀ client ∈ clients', client.sent = [] → client.rest = program :=
  (run.forall_mem (S := fun _ => True)
    (T := fun _ client => client.sent = [] → client.rest = program)
    (fun _ _ _ step => by
      refine ⟨trivial, fun hsent => ?_, fun _ _ hother => hother⟩
      obtain ⟨c, k⟩ := step
      simp at hsent)
    trivial fun client hclient _ => by rw [List.eq_of_mem_replicate hclient]; rfl).2

end Runs

end Client

/-! ## Reconcilers -/

/-- The discipline restricted to states with a fact that no later state loses. -/
def Discipline.restrict (discipline : Discipline σ) (fact : σ → Prop) : Discipline σ where
  good s := discipline.good s ∧ fact s
  later := discipline.later
  refl h := discipline.refl h.1
  trans := discipline.trans

theorem Prog.Within.restrict {discipline : Discipline σ} {handle : σ → (c : C) → R c × σ}
    {allows : C → Prop} {post : α → σ → Prop} {fact : σ → Prop}
    (hstable : ∀ {s s'}, fact s → discipline.later s s' → fact s') {p : Prog C R α} {s : σ}
    (h : p.Within discipline handle allows post s) :
    p.Within (discipline.restrict fact) handle allows post s := by
  induction p generalizing s with
  | pure a => exact fun s' hgood hlater => h s' hgood.1 hlater
  | call c k ih =>
    refine ⟨h.1, fun s' hgood hlater => ?_⟩
    obtain ⟨hgood', hlater', hk⟩ := h.2 s' hgood.1 hlater
    exact ⟨⟨hgood', hstable hgood.2 hlater'⟩, hlater', ih _ hk⟩

/-- Many clients run one program that is to bring an object of the server about. From an open
state all of them succeed and leave the object settled, from a drifted state all of them fail
and change nothing, and a client that starts once one has succeeded only reads. -/
structure Reconciles {ε : Type v} (handle : σ → (c : C) → R c × σ)
    (program : Prog C R (Except ε PUnit.{v + 1})) (isOpen settled drifted : σ → Prop)
    (reads : C → Prop) (bound : ℕ) : Prop where
  converges : ∀ {n start server clients}, isOpen start →
    Run (Client.Step handle) (start, List.replicate n (.start program)) (server, clients) →
    ∀ client ∈ clients, ∀ result, client.rest = .pure result →
      result = .ok ⟨⟩ ∧ settled server
  refuses : ∀ {n start server clients}, drifted start →
    Run (Client.Step handle) (start, List.replicate n (.start program)) (server, clients) →
    server = start ∧ ∀ client ∈ clients, ∀ result, client.rest = .pure result →
      ∃ e, result = .error e
  quiet : ∀ {n start server server' clients clients'}, isOpen start →
    Run (Client.Step handle) (start, List.replicate n (.start program)) (server, clients) →
    (∃ client ∈ clients, client.rest = .pure (.ok ⟨⟩)) →
    Run (Client.Step handle) (server, clients) (server', clients') →
    List.Forall₂ (fun client client' => client.sent = [] → ∀ c ∈ client'.sent, reads c)
      clients clients'
  returns : ∀ {n start server clients},
    Run (Client.Step handle) (start, List.replicate n (.start program)) (server, clients) →
    ∀ client ∈ clients, client.sent.length ≤ bound ∧ ((∃ result, client.rest = .pure result) ∨
      ∃ server' client', Client.Step handle server client server' client')

namespace Reconciles

variable {ε : Type v} {handle : σ → (c : C) → R c × σ}
  {program : Prog C R (Except ε PUnit.{v + 1})} {isOpen settled drifted : σ → Prop}
  {reads : C → Prop} {bound : ℕ}

/-- A program reconciles if it does so alone, under a discipline that the others keep. -/
theorem of_within (discipline : Discipline σ) (hopen : ∀ {s}, isOpen s → discipline.good s)
    (hstable : ∀ {s s'}, settled s → discipline.later s s' → settled s')
    (hprogram : ∀ {s}, discipline.good s → program.Within discipline handle (fun _ => True)
      (fun result s => result = .ok ⟨⟩ ∧ settled s) s)
    (hquiet : ∀ {s}, discipline.good s → settled s →
      program.Within (discipline.restrict settled) handle reads (fun _ _ => True) s)
    (frozen : Discipline σ) (hdrifted : ∀ {s}, drifted s → frozen.good s)
    (hfrozen : ∀ {s s'}, frozen.later s s' → s' = s)
    (hrefuses : ∀ {s}, frozen.good s → program.Within frozen handle (fun _ => True)
      (fun result _ => ∃ e, result = .error e) s)
    (hbound : program.AtMost bound) :
    Reconciles handle program isOpen settled drifted reads bound := by
  have hmeets {n : ℕ} {start server : σ} {clients : List (Client C R (Except ε PUnit))}
      (hstart : isOpen start)
      (run : Run (Client.Step handle) (start, List.replicate n (.start program))
        (server, clients)) :=
    Client.run_meets_all (P := ⟨fun _ => True, fun result s => result = .ok ⟨⟩ ∧ settled s⟩)
      run (hopen hstart) fun client hclient => by
        rw [List.eq_of_mem_replicate hclient]
        exact ⟨fun _ _ => trivial, hprogram (hopen hstart)⟩
  have hreturned {n : ℕ} {start server : σ} {clients : List (Client C R (Except ε PUnit))}
      (hstart : isOpen start)
      (run : Run (Client.Step handle) (start, List.replicate n (.start program))
        (server, clients)) (client : Client C R (Except ε PUnit)) (hclient : client ∈ clients)
      (result : Except ε PUnit) (hresult : client.rest = .pure result) :
      result = .ok ⟨⟩ ∧ settled server := by
    obtain ⟨hgood, -, hclients⟩ := hmeets hstart run
    have hwithin := (hclients client hclient).2
    rw [hresult] at hwithin
    exact hwithin server hgood (discipline.refl hgood)
  refine ⟨hreturned, ?_, ?_, ?_⟩
  · intro n start server clients hstart run
    obtain ⟨hgood, hlater, hclients⟩ := Client.run_meets_all
      (P := ⟨fun _ => True, fun result _ => ∃ e, result = .error e⟩) run (hdrifted hstart)
      fun client hclient => by
        rw [List.eq_of_mem_replicate hclient]
        exact ⟨fun _ _ => trivial, hrefuses (hdrifted hstart)⟩
    refine ⟨hfrozen hlater, fun client hclient result hresult => ?_⟩
    have hwithin := (hclients client hclient).2
    rw [hresult] at hwithin
    exact hwithin _ hgood (frozen.refl hgood)
  · intro n start server server' clients clients' hstart run hfirst run'
    obtain ⟨hgood, -, hclients⟩ := hmeets hstart run
    obtain ⟨first, hfirst, hresult⟩ := hfirst
    have hsettled := (hreturned hstart run first hfirst _ hresult).2
    -- a client that has not started is asked to read only, the others go on as before
    let spec (client : Client C R (Except ε PUnit)) : Client.Spec C (Except ε PUnit) σ :=
      if client.sent.isEmpty then ⟨reads, fun _ _ => True⟩
      else ⟨fun _ => True, fun result s => result = .ok ⟨⟩ ∧ settled s⟩
    have hspecs : List.Forall₂ (fun asked client =>
        client.Meets (discipline.restrict settled) handle asked server) (clients.map spec)
        clients := by
      refine List.forall₂_map_left_iff.mpr (List.forall₂_same.mpr fun client hclient => ?_)
      cases hsent : client.sent.isEmpty with
      | true =>
        have hnone : client.sent = [] := List.isEmpty_iff.mp hsent
        simp only [spec, Client.Meets, hnone, List.isEmpty_nil, if_true]
        rw [Client.run_unstarted run client hclient hnone]
        exact ⟨nofun, hquiet hgood hsettled⟩
      | false =>
        simp only [spec, hsent]
        exact ⟨fun _ _ => trivial, (hclients client hclient).2.restrict hstable⟩
    have hgood' : (discipline.restrict settled).good server := ⟨hgood, hsettled⟩
    have hrun := (Client.run_meets run' hgood' hspecs).2.2
    refine (List.forall₂_map_left_iff.mp hrun).imp fun client client' hmeets hsent => ?_
    simp only [spec, hsent, List.isEmpty_nil, if_true] at hmeets
    exact hmeets.1
  · intro n start server clients run client hclient
    refine ⟨?_, Client.returned_or_step handle _ client⟩
    obtain ⟨n, hle, -⟩ := Client.run_bounded (b := bound) run (fun client hclient => by
      rw [List.eq_of_mem_replicate hclient]
      exact ⟨bound, by simp [Client.start], hbound⟩) client hclient
    omega

end Reconciles

end Interaction
