import CatalogBench.Engine.Protocol
import Mathlib.Data.List.Forall2
import Mathlib.Tactic.IntervalCases

/-!
# The closed event grammar

`EventWord` is the language of complete event sequences: all stages followed
by `completed`, a failure after the stages before it, or a fixture collision.
The decoder is an automaton for it: `foldl_accept_iff` says that folding
`accept` over a sequence ends without failure in a terminal state exactly on
the words of the language.
-/

set_option linter.all false

namespace CatalogBench.Engine

/-- `event` reports the success of `stage`. A preflight that found the fixture
is not a success: it ends the run. -/
def Succeeds (stage : EngineStage) (event : EngineEvent) : Prop :=
  event.successfulStage = some stage ∧ event ≠ .fixturePreflight false

instance (stage : EngineStage) (event : EngineEvent) : Decidable (Succeeds stage event) :=
  inferInstanceAs (Decidable (_ ∧ _))

/-- The closed language of complete event sequences. -/
inductive EventWord : List EngineEvent → Prop
  /-- Every stage succeeded. -/
  | completed {es : List EngineEvent} :
      List.Forall₂ Succeeds EngineStage.order es → EventWord (es ++ [EngineEvent.completed])
  /-- The first `k` stages succeeded and stage `k` failed. -/
  | failed {k : ℕ} {es : List EngineEvent} {stage : EngineStage}
      {category : EngineFailureCategory} :
      EngineStage.order[k]? = some stage →
      List.Forall₂ Succeeds (EngineStage.order.take k) es →
      EventWord (es ++ [EngineEvent.failed stage category])
  /-- The preflight found the fixture. -/
  | collision {runtime : EngineRuntimeObservation} :
      EventWord [.runtimeReady runtime, .catalogReady, .fixturePreflight false]

/-- `event` may end a word after `k` successful stages. -/
def Ends (k : ℕ) (event : EngineEvent) : Prop :=
  match event with
  | .failed stage _ => EngineStage.order[k]? = some stage
  | .completed => k = EngineStage.order.length
  | .fixturePreflight false => EngineStage.order[k]? = some .preflightFixture
  | _ => False

theorem preflight_index {k : ℕ} (h : EngineStage.order[k]? = some .preflightFixture) : k = 2 := by
  have hk : k < 11 := (List.getElem?_eq_some_iff.mp h).1
  interval_cases k <;> simp_all [EngineStage.order]

/-- A word is a run of successes followed by an event that may end it there. -/
theorem eventWord_iff (w : List EngineEvent) :
    EventWord w ↔ ∃ k es e, List.Forall₂ Succeeds (EngineStage.order.take k) es ∧
      Ends k e ∧ w = es ++ [e] := by
  constructor
  · rintro (⟨hs⟩ | ⟨hk, hs⟩ | _)
    · exact ⟨11, _, .completed, hs, rfl, rfl⟩
    · exact ⟨_, _, .failed _ _, hs, hk, rfl⟩
    · refine ⟨2, [_, _], .fixturePreflight false, ?_, rfl, rfl⟩
      exact .cons ⟨rfl, by simp⟩ (.cons ⟨rfl, by simp⟩ .nil)
  · rintro ⟨k, es, e, hs, he, rfl⟩
    cases e with
    | completed =>
      rw [show k = 11 from he] at hs
      exact .completed hs
    | failed stage category => exact .failed he hs
    | fixturePreflight absent =>
      cases absent with
      | true => exact he.elim
      | false =>
        rw [preflight_index he] at hs
        obtain ⟨e₁, _, h₁, hs₁, rfl⟩ := List.forall₂_cons_left_iff.mp hs
        obtain ⟨e₂, _, h₂, hs₂, rfl⟩ := List.forall₂_cons_left_iff.mp hs₁
        obtain rfl := List.forall₂_nil_left_iff.mp hs₂
        cases e₁ <;> simp [Succeeds, EngineEvent.successfulStage] at h₁
        cases e₂ <;> simp [Succeeds, EngineEvent.successfulStage] at h₂
        exact .collision
    | _ => exact he.elim

namespace EngineEventDecoder

/-- Everything `accept` can do: refuse the event, move on to the next stage, or stop. -/
theorem accept_cases (d : EngineEventDecoder) (e : EngineEvent) :
    (∃ kind, d.accept e = d.fail kind) ∨
    (d.terminal = false ∧ (∃ stage, EngineStage.order[d.nextStage]? = some stage ∧
      Succeeds stage e) ∧
      d.accept e = { d with nextStage := d.nextStage + 1, events := d.events ++ [e] }) ∨
    (d.terminal = false ∧ Ends d.nextStage e ∧ ∃ n,
      d.accept e = { d with nextStage := n, terminal := true, events := d.events ++ [e] }) := by
  unfold accept
  split
  · exact .inl ⟨_, rfl⟩
  next hterm =>
  have hterm : d.terminal = false := by simpa using hterm
  split
  · exact .inl ⟨_, rfl⟩
  split
  · split
    · exact .inl ⟨_, rfl⟩
    · next h => exact .inr (.inr ⟨hterm, not_not.mp h, _, rfl⟩)
  · split
    · exact .inl ⟨_, rfl⟩
    · next h => exact .inr (.inr ⟨hterm, not_not.mp h, _, rfl⟩)
  · split
    · exact .inl ⟨_, rfl⟩
    · next h => exact .inr (.inr ⟨hterm, not_not.mp h, _, rfl⟩)
  next hf hc hp =>
  split
  · exact .inl ⟨_, rfl⟩
  · next h =>
    have h := not_not.mp h
    refine .inr (.inl ⟨hterm, ?_, rfl⟩)
    cases hs : e.successfulStage with
    | none =>
      cases e with
      | completed => exact absurd rfl hc
      | failed stage category => exact absurd rfl (hf stage category)
      | _ => simp [EngineEvent.successfulStage] at hs
    | some stage => exact ⟨stage, by rw [← h, hs], hs, hp⟩

theorem accept_of_succeeds {d : EngineEventDecoder} {stage : EngineStage} {e : EngineEvent}
    (hterm : d.terminal = false) (hlen : d.events.length < maximumEngineEvents)
    (hstage : EngineStage.order[d.nextStage]? = some stage) (hs : Succeeds stage e) :
    d.accept e = { d with nextStage := d.nextStage + 1, events := d.events ++ [e] } := by
  obtain ⟨hs, hne⟩ := hs
  unfold accept
  rw [if_neg (by simp [hterm]), if_neg (by omega)]
  split
  · simp [EngineEvent.successfulStage] at hs
  · simp [EngineEvent.successfulStage] at hs
  · exact absurd rfl hne
  · rw [if_neg (by simp [hs, hstage])]

theorem accept_of_ends {d : EngineEventDecoder} {e : EngineEvent}
    (hterm : d.terminal = false) (hlen : d.events.length < maximumEngineEvents)
    (he : Ends d.nextStage e) :
    (d.accept e).failure = d.failure ∧ (d.accept e).terminal = true ∧
      (d.accept e).events = d.events ++ [e] := by
  unfold accept
  rw [if_neg (by simp [hterm]), if_neg (by omega)]
  split
  · rw [if_neg (not_not.mpr (show EngineStage.order[d.nextStage]? = _ from he))]
    exact ⟨rfl, rfl, rfl⟩
  · rw [if_neg (not_not.mpr (show d.nextStage = EngineStage.order.length from he))]
    exact ⟨rfl, rfl, rfl⟩
  · rw [if_neg (not_not.mpr (show EngineStage.order[d.nextStage]? = _ from he))]
    exact ⟨rfl, rfl, rfl⟩
  next hf hc hp =>
  cases e with
  | completed => exact absurd rfl hc
  | failed stage category => exact absurd rfl (hf stage category)
  | fixturePreflight absent =>
    cases absent with
    | true => exact he.elim
    | false => exact absurd rfl hp
  | _ => exact he.elim

@[simp] theorem fail_events (d : EngineEventDecoder) (kind : EngineProtocolFailureKind) :
    (d.fail kind).events = d.events := by
  unfold fail; split <;> rfl

@[simp] theorem fail_terminal (d : EngineEventDecoder) (kind : EngineProtocolFailureKind) :
    (d.fail kind).terminal = d.terminal := by
  unfold fail; split <;> rfl

@[simp] theorem fail_nextStage (d : EngineEventDecoder) (kind : EngineProtocolFailureKind) :
    (d.fail kind).nextStage = d.nextStage := by
  unfold fail; split <;> rfl

@[simp] theorem fail_stdoutBytesObserved (d : EngineEventDecoder)
    (kind : EngineProtocolFailureKind) :
    (d.fail kind).stdoutBytesObserved = d.stdoutBytesObserved := by
  unfold fail; split <;> rfl

@[simp] theorem fail_failure_isSome (d : EngineEventDecoder) (kind : EngineProtocolFailureKind) :
    (d.fail kind).failure.isSome = true := by
  unfold fail
  split
  · rfl
  · next h => simpa [Option.isSome_iff_ne_none] using h

theorem fail_failure_ne_none (d : EngineEventDecoder) (kind : EngineProtocolFailureKind) :
    (d.fail kind).failure ≠ none := by
  intro h
  have := d.fail_failure_isSome kind
  simp [h] at this

/-- The events seen so far and the stage counter agree, and a stopped decoder
holds a whole word. -/
structure Coherent (d : EngineEventDecoder) : Prop where
  running : d.terminal = false →
    List.Forall₂ Succeeds (EngineStage.order.take d.nextStage) d.events
  bound : d.terminal = false → d.nextStage ≤ EngineStage.order.length
  stopped : d.terminal = true → EventWord d.events

theorem coherent_new : Coherent new where
  running _ := .nil
  bound _ := Nat.zero_le _
  stopped h := by simp [new] at h

theorem Coherent.fail {d : EngineEventDecoder} (h : d.Coherent)
    (kind : EngineProtocolFailureKind) : (d.fail kind).Coherent where
  running := by simpa using h.running
  bound := by simpa using h.bound
  stopped := by simpa using h.stopped

theorem Coherent.accept {d : EngineEventDecoder} (h : d.Coherent) (e : EngineEvent) :
    (d.accept e).Coherent := by
  obtain ⟨kind, he⟩ | ⟨ht, ⟨stage, hstage, hs⟩, he⟩ | ⟨ht, hends, n, he⟩ := d.accept_cases e
  · rw [he]
    exact h.fail kind
  · obtain ⟨hlt, hget⟩ := List.getElem?_eq_some_iff.mp hstage
    rw [he]
    refine ⟨fun _ => ?_, fun _ => hlt, fun hbad => ?_⟩
    · change List.Forall₂ Succeeds (EngineStage.order.take (d.nextStage + 1)) (d.events ++ [e])
      rw [List.take_succ_eq_append_getElem hlt, hget]
      exact List.rel_append (h.running ht) (.cons hs .nil)
    · exact absurd ht (by simpa using hbad)
  · rw [he]
    refine ⟨fun hbad => ?_, fun hbad => ?_, fun _ => ?_⟩
    · simp at hbad
    · simp at hbad
    · exact (eventWord_iff _).mpr ⟨d.nextStage, d.events, e, h.running ht, hends, rfl⟩

/-- Whatever was decoded can still be completed to a word. -/
theorem Coherent.extends {d : EngineEventDecoder} (h : d.Coherent) :
    ∃ rest, EventWord (d.events ++ rest) := by
  cases ht : d.terminal with
  | true => exact ⟨[], by simpa using h.stopped ht⟩
  | false =>
    have hb := h.bound ht
    by_cases hk : d.nextStage < EngineStage.order.length
    · exact ⟨[.failed EngineStage.order[d.nextStage] .runtime],
        .failed (List.getElem?_eq_getElem hk) (h.running ht)⟩
    · have : d.nextStage = EngineStage.order.length := by omega
      refine ⟨[.completed], .completed ?_⟩
      simpa [this] using h.running ht

theorem accept_failure_of_failed {d : EngineEventDecoder} (h : d.failure ≠ none)
    (e : EngineEvent) : (d.accept e).failure ≠ none := by
  obtain ⟨kind, he⟩ | ⟨_, _, he⟩ | ⟨_, _, _, he⟩ := d.accept_cases e
  · rw [he]
    exact fail_failure_ne_none d kind
  · rw [he]; exact h
  · rw [he]; exact h

theorem accept_events_of_ok {d : EngineEventDecoder} {e : EngineEvent}
    (h : (d.accept e).failure = none) : (d.accept e).events = d.events ++ [e] := by
  obtain ⟨kind, he⟩ | ⟨_, _, he⟩ | ⟨_, _, _, he⟩ := d.accept_cases e
  · exact absurd (he ▸ h) (fail_failure_ne_none d kind)
  · rw [he]
  · rw [he]

theorem foldl_accept_coherent {d : EngineEventDecoder} (h : d.Coherent) (w : List EngineEvent) :
    (w.foldl accept d).Coherent := by
  induction w generalizing d with
  | nil => exact h
  | cons e w ih => exact ih (h.accept e)

theorem foldl_accept_failed {d : EngineEventDecoder} (h : d.failure ≠ none)
    (w : List EngineEvent) : (w.foldl accept d).failure ≠ none := by
  induction w generalizing d with
  | nil => exact h
  | cons e w ih => exact ih (accept_failure_of_failed h e)

theorem foldl_accept_events {d : EngineEventDecoder} {w : List EngineEvent}
    (h : (w.foldl accept d).failure = none) : (w.foldl accept d).events = d.events ++ w := by
  induction w generalizing d with
  | nil => simp
  | cons e w ih =>
    have he : (d.accept e).failure = none := by
      by_contra hne
      exact foldl_accept_failed hne w h
    rw [List.foldl_cons, ih h, accept_events_of_ok he, List.append_assoc, List.singleton_append]

/-- A run of successes moves the decoder to the stage after them. -/
theorem foldl_accept_succeeds {stages : List EngineStage} {es : List EngineEvent}
    (hs : List.Forall₂ Succeeds stages es) (before after : List EngineStage)
    (horder : EngineStage.order = before ++ stages ++ after)
    {d : EngineEventDecoder} (hterm : d.terminal = false) (hstage : d.nextStage = before.length)
    (hlen : d.events.length = before.length) :
    es.foldl accept d =
      { d with nextStage := before.length + es.length, events := d.events ++ es } := by
  induction hs generalizing before d with
  | nil => cases d; simp_all
  | @cons stage e stages es hse _ ih =>
    have hsize : before.length + (stages.length + after.length + 1) = 11 := by
      simpa [EngineStage.order] using (congrArg List.length horder).symm
    have hget : EngineStage.order[d.nextStage]? = some stage := by
      rw [horder, hstage]
      simp
    have hacc := accept_of_succeeds hterm (by simp only [maximumEngineEvents]; omega) hget hse
    have hrest := ih (before ++ [stage]) (d := d.accept e) (by simp [horder])
      (by rw [hacc]; exact hterm) (by simp [hacc, hstage]) (by simp [hacc, hlen])
    rw [List.foldl_cons, hrest, hacc]
    simp [Nat.add_assoc, Nat.add_comm 1]

/-- The decoder stops without failure exactly on the words of the language. -/
theorem foldl_accept_iff (w : List EngineEvent) :
    (w.foldl accept new).failure = none ∧ (w.foldl accept new).terminal = true ↔
      EventWord w := by
  constructor
  · rintro ⟨hok, hterm⟩
    have h := (foldl_accept_coherent coherent_new w).stopped hterm
    rwa [foldl_accept_events hok] at h
  · intro hw
    obtain ⟨k, es, e, hs, he, rfl⟩ := (eventWord_iff w).mp hw
    have hk : k ≤ EngineStage.order.length := by
      cases e with
      | failed stage category => exact (List.getElem?_eq_some_iff.mp he).1.le
      | completed => exact le_of_eq he
      | fixturePreflight absent =>
        cases absent with
        | true => exact he.elim
        | false => exact (List.getElem?_eq_some_iff.mp he).1.le
      | _ => exact he.elim
    have hlen : es.length = k := by
      have := hs.length_eq
      simp only [List.length_take] at this
      omega
    have hrun : es.foldl accept new = { new with nextStage := k, events := es } := by
      rw [foldl_accept_succeeds hs [] (EngineStage.order.drop k) (by simp) rfl rfl rfl]
      simp [new, hlen]
    rw [List.foldl_append, hrun, List.foldl_cons, List.foldl_nil]
    have hsmall : es.length < maximumEngineEvents := by
      have : EngineStage.order.length = 11 := rfl
      simp only [maximumEngineEvents]
      omega
    obtain ⟨hf, ht, -⟩ := accept_of_ends (d := { new with nextStage := k, events := es })
      rfl hsmall he
    exact ⟨hf, ht⟩

end EngineEventDecoder

end CatalogBench.Engine
