import CatalogBench.FaultProxy.Handlers

/-!
# Exact injection

While one rule stays installed, its matches are numbered without gaps, the requests whose
numbers lie in the window are selected, and each of them is recorded and forwarded as the phase
of the rule says, however the handlers interleave.
-/

set_option linter.all false

namespace CatalogBench.FaultProxy

open Threads

variable {go : GoLibrary}

/-- What `match` returns for a request under a rule that stays installed. -/
def Rule.Selects (rule : Rule) (request : Request) (selection : Selection) : Prop :=
  if rule.matches request then
    selection.rule = rule ∧ (selection.inject = true ↔ rule.Window selection.matchNumber)
  else selection.inject = false

/-- The match number that a request received if the rule matches it. -/
def Exchange.numbers (rule : Rule) (exchange : Exchange) : List UInt64 :=
  exchange.selection.elim [] fun selection =>
    if rule.matches exchange.request then [selection.matchNumber] else []

/-- The match numbers that an exchange recorded. -/
def Exchange.recordings (exchange : Exchange) : List UInt64 :=
  exchange.selection.elim [] fun selection =>
    List.replicate exchange.recorded selection.matchNumber

/-- The match numbers of the recorded events. -/
def Memory.recordings (memory : Memory go) : List UInt64 :=
  memory.proxy.events.map (·.matchNumber)

namespace Thread

/-- The control requests that leave the installed rule in place. -/
def KeepsRule : Thread → Prop
  | .proxied _ => True
  | .control ⟨request, _⟩ => request = .release ∨ request = .state

/-- A request to the proxy that the rule matches. -/
def matching (rule : Rule) : Thread → Bool
  | .proxied exchange => rule.matches exchange.request
  | .control _ => false

def numbers (rule : Rule) : Thread → List UInt64
  | .proxied exchange => exchange.numbers rule
  | .control _ => []

def recordings : Thread → List UInt64
  | .proxied exchange => exchange.recordings
  | .control _ => []

/-- The facts about one thread that hold while the rule stays installed. -/
def UnderRule (rule : Rule) : Thread → Prop
  | .proxied exchange => exchange.Reached ∧
      ∀ selection ∈ exchange.selection, rule.Selects exchange.request selection
  | .control handling => KeepsRule (.control handling)

theorem Arrived.underRule {rule : Rule} {thread : Thread} (h : thread.Arrived)
    (hkeeps : thread.KeepsRule) : thread.UnderRule rule := by
  cases h with
  | request request => exact ⟨.received request none, fun _ hnone => nomatch hnone⟩
  | control request => exact hkeeps

theorem Arrived.numbers_eq {rule : Rule} {thread : Thread} (h : thread.Arrived) :
    thread.numbers rule = [] := by
  cases h <;> rfl

theorem Arrived.recordings_eq {thread : Thread} (h : thread.Arrived) : thread.recordings = [] := by
  cases h <;> rfl

end Thread

theorem Memory.matchRequest_selects {memory : Memory go} {rule : ValidRule go}
    (hrule : memory.proxy.rule = some rule) (request : Request) :
    rule.val.Selects request (memory.matchRequest request).2 := by
  unfold Rule.Selects
  rcases memory.matchRequest_cases request with ⟨heq, hunmatched⟩ |
    ⟨rule', inject, hrule', hmatches, heq, hinject⟩
  · rw [heq, hunmatched rule hrule]
    rfl
  · obtain rfl := Option.some.inj (hrule.symm.trans hrule')
    rw [heq, hmatches]
    exact ⟨rfl, hinject⟩

/-- What `match` does to the counter and to the number of the request. -/
theorem Memory.matchRequest_counts {memory : Memory go} {rule : ValidRule go}
    (hrule : memory.proxy.rule = some rule) (request : Request) :
    (memory.matchRequest request).1.proxy.matchCount =
        memory.proxy.matchCount + (if rule.val.matches request then 1 else 0) ∧
      (rule.val.matches request = true →
        (memory.matchRequest request).2.matchNumber = memory.proxy.matchCount + 1) := by
  rcases memory.matchRequest_cases request with ⟨heq, hunmatched⟩ |
    ⟨rule', inject, hrule', hmatches, heq, hinject⟩
  · simp [heq, hunmatched rule hrule]
  · obtain rfl := Option.some.inj (hrule.symm.trans hrule')
    simp [heq, hmatches]

theorem Memory.matchRequest_recordings (memory : Memory go) (request : Request) :
    (memory.matchRequest request).1.recordings = memory.recordings := by
  rcases memory.matchRequest_cases request with ⟨heq, -⟩ | ⟨rule, inject, -, -, heq, -⟩ <;> rw [heq]
  rfl

namespace Exchange.Step

variable {memory memory' : Memory go} {exchange exchange' : Exchange}

theorem request_eq (step : Step memory exchange memory' exchange') :
    exchange'.request = exchange.request := by
  cases step <;> rfl

/-- A proxied request leaves the installed rule in place. -/
theorem rule_eq (step : Step memory exchange memory' exchange') :
    memory'.proxy.rule = memory.proxy.rule := by
  cases step with
  | matchRequest =>
    rcases memory.matchRequest_cases exchange.request with ⟨heq, -⟩ | ⟨_, _, -, -, heq, -⟩ <;>
      simp [heq]
  | _ => rfl

/-- Only `match` counts and chooses a selection. -/
theorem selection_cases (step : Step memory exchange memory' exchange') :
    (exchange'.selection = exchange.selection ∧
      memory'.proxy.matchCount = memory.proxy.matchCount) ∨
    exchange.progress = .received ∧
      exchange'.selection = some (memory.matchRequest exchange.request).2 ∧
      memory' = (memory.matchRequest exchange.request).1 := by
  cases step with
  | matchRequest hprogress => exact .inr ⟨hprogress, rfl, rfl⟩
  | _ => exact .inl ⟨rfl, rfl⟩

/-- The exchange records what the proxy gets as an event. -/
theorem recordings_append (step : Step memory exchange memory' exchange')
    (h : exchange.Reached) :
    ∃ gained, memory'.recordings = memory.recordings ++ gained ∧
      exchange'.recordings = exchange.recordings ++ gained := by
  have hrecord {selection : Selection} (status : Option ℕ) (progress : Progress)
      (body : Option GatedBody) (hselection : exchange.selection = some selection) :
      ∃ gained, (memory.record selection exchange.request status).recordings =
          memory.recordings ++ gained ∧
        { exchange with progress, body, recorded := exchange.recorded + 1 }.recordings =
          exchange.recordings ++ gained := by
    refine ⟨[selection.matchNumber], ?_, ?_⟩
    · obtain ⟨event, hnumber, -, hevents⟩ := memory.record_events selection exchange.request status
      simp [Memory.recordings, hevents, hnumber]
    · simp [Exchange.recordings, hselection, List.replicate_succ']
  cases step with
  | matchRequest hprogress =>
    obtain ⟨request, matchRelease, rfl⟩ := h.of_received hprogress
    exact ⟨[], by simp [memory.matchRequest_recordings], by simp [Exchange.recordings]⟩
  | disconnectBefore _ hselection | refuseBodiless _ hselection =>
    exact hrecord none _ exchange.body hselection
  | disconnectAfter status _ hselection => exact hrecord (some status) _ exchange.body hselection
  | pause _ hselection => exact hrecord none exchange.progress _ hselection
  | _ => exact ⟨[], (List.append_nil _).symm, (List.append_nil _).symm⟩

end Exchange.Step

/-- The control requests that keep the rule leave everything about it as it is. -/
theorem Control.Step.keeps {memory memory' : Memory go} {control control' : Control}
    (step : Control.Step memory control memory' control')
    (h : Thread.KeepsRule (.control control)) :
    memory'.proxy.rule = memory.proxy.rule ∧
      memory'.proxy.matchCount = memory.proxy.matchCount ∧
      memory'.recordings = memory.recordings ∧ Thread.KeepsRule (.control control') := by
  cases step with
  | put | undecodable | invalid | delete => simp [Thread.KeepsRule] at h
  | release hrelease =>
    obtain ⟨channel, -, -, rfl⟩ := Memory.releaseRule_eq_some.mp hrelease
    exact ⟨rfl, rfl, rfl, h⟩
  | _ => exact ⟨rfl, rfl, rfl, h⟩

namespace Thread.Step

variable {memory memory' : Memory go} {thread thread' : Thread} {rule : ValidRule go}

theorem underRule (step : Thread.Step memory thread memory' thread')
    (hrule : memory.proxy.rule = some rule) (h : thread.UnderRule rule.val) :
    memory'.proxy.rule = some rule ∧ thread'.UnderRule rule.val := by
  cases step with
  | proxied step =>
    refine ⟨step.rule_eq.trans hrule, step.reached h.1, ?_⟩
    rw [step.request_eq]
    rcases step.selection_cases with ⟨hsame, -⟩ | ⟨-, hmatched, -⟩
    · rw [hsame]
      exact h.2
    · rw [hmatched]
      rintro selection ⟨⟩
      exact memory.matchRequest_selects hrule _
  | control step =>
    obtain ⟨hkeep, -, -, hkeeps⟩ := step.keeps h
    exact ⟨hkeep.trans hrule, hkeeps⟩

/-- A step either counts a match and gives its number to the thread, or does neither. -/
theorem numbers_append (step : Thread.Step memory thread memory' thread')
    (hrule : memory.proxy.rule = some rule) (h : thread.UnderRule rule.val) :
    (memory'.proxy.matchCount = memory.proxy.matchCount ∧
      thread'.numbers rule = thread.numbers rule) ∨
    memory'.proxy.matchCount = memory.proxy.matchCount + 1 ∧
      thread'.numbers rule = thread.numbers rule ++ [memory.proxy.matchCount + 1] := by
  cases step with
  | control step => exact .inl ⟨(step.keeps h).2.1, rfl⟩
  | @proxied _ exchange exchange' step =>
    simp only [numbers, Exchange.numbers, step.request_eq]
    rcases step.selection_cases with ⟨hsame, hcount⟩ | ⟨hprogress, hmatched, rfl⟩
    · exact .inl ⟨hcount, by rw [hsame]⟩
    · obtain ⟨hcount, hnumber⟩ := Memory.matchRequest_counts hrule exchange.request
      obtain ⟨request, matchRelease, rfl⟩ := h.1.of_received hprogress
      by_cases hmatches : rule.val.matches request = true
      · exact .inr (by simp [hmatched, hcount, hnumber, hmatches])
      · exact .inl (by simp [hmatched, hcount, hmatches])

theorem recordings_append (step : Thread.Step memory thread memory' thread')
    (h : thread.UnderRule rule.val) :
    ∃ gained, memory'.recordings = memory.recordings ++ gained ∧
      thread'.recordings = thread.recordings ++ gained := by
  cases step with
  | proxied step => exact step.recordings_append h.1
  | control step => exact ⟨[], by simp [(step.keeps h).2.2.1], rfl⟩

/-- A thread stays the handler of the same request. -/
theorem matching_eq {rule : Rule} (step : Thread.Step memory thread memory' thread') :
    thread'.matching rule = thread.matching rule := by
  cases step with
  | proxied step => simp [matching, step.request_eq]
  | control step => rfl

end Thread.Step

/-! ## What becomes of one request -/

/-- `serveProxy` returned. -/
def Exchange.Answered (exchange : Exchange) : Prop :=
  ∃ response, exchange.progress = .answered response

/-- One request is treated as the installed rule says. -/
structure HandledExactly (rule : Rule) (exchange : Exchange) : Prop where
  selected_iff : ∀ selection ∈ exchange.selection, selection.inject = true ↔
    rule.matches exchange.request = true ∧ rule.Window selection.matchNumber
  recorded_le : exchange.recorded ≤ 1
  selected_of_recorded : exchange.recorded ≠ 0 →
    ∃ selection ∈ exchange.selection, selection.inject = true
  dispatched_le : exchange.dispatched ≤ 1
  beforeUpstream : ∀ selection ∈ exchange.selection, selection.inject = true →
    rule.phase = .beforeUpstream →
    exchange.dispatched = 0 ∧ (exchange.Answered → exchange.recorded = 1)
  unselected : ∀ selection ∈ exchange.selection, selection.inject = false →
    exchange.Answered → exchange.dispatched = 1
  laterPhase : ∀ selection ∈ exchange.selection, selection.inject = true →
    rule.phase ≠ .beforeUpstream → exchange.request.hasBody = true →
    exchange.Answered → exchange.dispatched = 1

/-- The three ways to inject exclude one another and one of them is the rule's. -/
theorem Rule.Validated.branches {rule : Rule} (h : rule.Validated) :
    (rule.action = .disconnect ∧ rule.phase = .beforeUpstream) ∨
    (rule.action = .disconnect ∧ rule.phase = .afterUpstream) ∨
    rule.action = .pauseRequestBody ∧ rule.phase = .duringUpstream := by
  rcases h.action_eq with hdisconnect | hpause
  · rcases h.phase_of_disconnect hdisconnect with hbefore | hafter
    · exact .inl ⟨hdisconnect, hbefore⟩
    · exact .inr (.inl ⟨hdisconnect, hafter⟩)
  · exact .inr (.inr ⟨hpause, h.phase_of_pause hpause⟩)

namespace Rule.Selects

variable {rule : Rule} {request : Request} {selection : Selection}

theorem inject_iff (h : rule.Selects request selection) :
    selection.inject = true ↔
      rule.matches request = true ∧ rule.Window selection.matchNumber := by
  unfold Rule.Selects at h
  split at h
  · next hmatches => simp [hmatches, h.2]
  · next hmatches => simp [hmatches, h]

theorem rule_eq (h : rule.Selects request selection) (hinject : selection.inject = true) :
    selection.rule = rule := by
  unfold Rule.Selects at h
  split at h
  · exact h.1
  · exact absurd hinject (by simp [h])

theorem disconnectsBefore_iff (h : rule.Selects request selection) (hvalid : rule.Validated)
    (hinject : selection.inject = true) :
    selection.disconnectsBefore = true ↔ rule.phase = .beforeUpstream := by
  simp only [Selection.disconnectsBefore, h.rule_eq hinject, hinject, Bool.true_and,
    Bool.and_eq_true, decide_eq_true_eq]
  refine ⟨And.right, fun hphase => ⟨?_, hphase⟩⟩
  rcases hvalid.branches with hbefore | hafter | hpause
  · exact hbefore.1
  · exact hafter.1
  · rw [hpause.2] at hphase
    exact absurd hphase (by decide)

/-- A selection that pauses or disconnects after the upstream is of a later phase. -/
theorem phase_ne (h : rule.Selects request selection) (hinject : selection.inject = true)
    (hlawful : selection.Lawful)
    (hlater : selection.pauses = true ∨ selection.disconnectsAfter = true) :
    rule.phase ≠ .beforeUpstream := by
  have hrule := h.rule_eq hinject
  have hvalid := hlawful hinject
  rw [hrule] at hvalid
  simp only [Selection.pauses, Selection.disconnectsAfter, hrule, hinject, Bool.true_and,
    Bool.and_eq_true, decide_eq_true_eq] at hlater
  rcases hlater with hpause | ⟨-, hafter⟩
  · rw [hvalid.phase_of_pause hpause]
    decide
  · rw [hafter]
    decide

end Rule.Selects

namespace Selection

variable {selection : Selection}

theorem inject_of_disconnectsBefore (h : selection.disconnectsBefore = true) :
    selection.inject = true := by
  simp only [disconnectsBefore, Bool.and_eq_true] at h
  exact h.1.1

theorem inject_of_pauses (h : selection.pauses = true) : selection.inject = true := by
  simp only [pauses, Bool.and_eq_true] at h
  exact h.1

theorem inject_of_disconnectsAfter (h : selection.disconnectsAfter = true) :
    selection.inject = true := by
  simp only [disconnectsAfter, Bool.and_eq_true] at h
  exact h.1.1

end Selection

/-- What the points of `serveProxy` say about one request under the installed rule. -/
theorem Exchange.Reached.handledExactly {rule : Rule} {exchange : Exchange}
    (h : exchange.Reached) (hvalid : rule.Validated)
    (hselects : ∀ selection ∈ exchange.selection, rule.Selects exchange.request selection) :
    HandledExactly rule exchange where
  selected_iff selection hselection := (hselects selection hselection).inject_iff
  recorded_le := by
    cases h with
    | gated request body => dsimp only; split <;> simp
    | _ => simp
  selected_of_recorded hrecorded := by
    cases h with
    | disconnectedBefore _ _ _ hbefore =>
      exact ⟨_, rfl, Selection.inject_of_disconnectsBefore hbefore⟩
    | bodiless _ _ _ hpauses | gated _ _ _ _ hpauses =>
      exact ⟨_, rfl, Selection.inject_of_pauses hpauses⟩
    | disconnectedAfter _ _ _ hafter =>
      exact ⟨_, rfl, Selection.inject_of_disconnectsAfter hafter⟩
    | _ => exact absurd rfl hrecorded
  dispatched_le := by cases h <;> simp
  beforeUpstream selection hselection hinject hphase := by
    have hselected := hselects selection hselection
    cases h with
    | received => cases hselection
    | matched => exact ⟨rfl, fun hanswered => nomatch hanswered.choose_spec⟩
    | disconnectedBefore | bodiless => exact ⟨rfl, fun _ => rfl⟩
    | gated _ _ _ hlawful hpauses =>
      cases hselection
      exact absurd hphase (hselected.phase_ne hinject hlawful (.inl hpauses))
    | disconnectedAfter _ _ hlawful hafter =>
      cases hselection
      exact absurd hphase (hselected.phase_ne hinject hlawful (.inr hafter))
    | forwarded _ _ _ hbefore =>
      cases hselection
      rw [(hselected.disconnectsBefore_iff hvalid hinject).mpr hphase] at hbefore
      cases hbefore
  unselected selection hselection hinject hanswered := by
    cases h with
    | received => cases hselection
    | matched => exact absurd hanswered.choose_spec (by simp)
    | disconnectedBefore _ _ _ hbefore =>
      cases hselection
      simp [Selection.inject_of_disconnectsBefore hbefore] at hinject
    | bodiless _ _ _ hpauses =>
      cases hselection
      simp [Selection.inject_of_pauses hpauses] at hinject
    | _ => rfl
  laterPhase selection hselection hinject hphase hhasBody hanswered := by
    have hselected := hselects selection hselection
    cases h with
    | received => cases hselection
    | matched => exact absurd hanswered.choose_spec (by simp)
    | disconnectedBefore _ _ _ hbefore =>
      cases hselection
      exact absurd ((hselected.disconnectsBefore_iff hvalid hinject).mp hbefore) hphase
    | bodiless _ _ _ _ hbodiless =>
      rw [hbodiless] at hhasBody
      cases hhasBody
    | _ => rfl

/-! ## Every interleaving -/

/-- The state of the proxy after any number of steps under one rule, `total` being the number of
requests that the rule matches. -/
structure InjectsExactly (rule : Rule) (total : ℕ) (memory : Memory go)
    (threads : List Thread) : Prop where
  numbered : ((threads.flatMap (Thread.numbers rule)).map UInt64.toNat).Perm
    (List.range' 1 memory.proxy.matchCount.toNat)
  numbered_all : (∀ exchange, .proxied exchange ∈ threads → exchange.progress ≠ .received) →
    memory.proxy.matchCount.toNat = total
  recorded : memory.recordings.Perm (threads.flatMap Thread.recordings)
  handled : ∀ exchange, .proxied exchange ∈ threads → HandledExactly rule exchange

/-- The numbers in use, as the wrapping counter gives them out. -/
def Numbering (rule : Rule) (memory : Memory go) (threads : List Thread) : Prop :=
  ∃ count, memory.proxy.matchCount = UInt64.ofNat count ∧
    (threads.flatMap (Thread.numbers rule)).Perm ((List.range' 1 count).map UInt64.ofNat)

theorem Numbering.of_step {rule : ValidRule go} {memory memory' : Memory go}
    {thread thread' : Thread} {before after : List Thread}
    (h : Numbering rule.val memory (before ++ thread :: after))
    (hrule : memory.proxy.rule = some rule) (hthread : thread.UnderRule rule.val)
    (step : Thread.Step memory thread memory' thread') :
    Numbering rule.val memory' (before ++ thread' :: after) := by
  obtain ⟨count, hcount, hnumbers⟩ := h
  rcases step.numbers_append hrule hthread with ⟨hsame, hkept⟩ | ⟨hnext, hgained⟩
  · refine ⟨count, hsame.trans hcount, ?_⟩
    simpa [hkept] using hnumbers
  · refine ⟨count + 1, ?_, ?_⟩
    · rw [hnext, hcount, UInt64.ofNat_add]
      rfl
    · have hlast : (thread'.numbers rule.val).Perm
          (thread.numbers rule.val ++ [UInt64.ofNat (1 + count)]) := by
        rw [hgained, hcount, UInt64.ofNat_add, UInt64.add_comm]
        rfl
      rw [List.range'_concat, List.map_append, Nat.one_mul]
      exact (perm_flatMap_step before after hlast).trans (hnumbers.append_right _)

/-- Each thread received one number if it matched, and none otherwise. -/
theorem Thread.UnderRule.length_numbers {rule : Rule} {thread : Thread}
    (h : thread.UnderRule rule) :
    (thread.numbers rule).length ≤ (if thread.matching rule then 1 else 0) ∧
      ((∀ exchange, thread = .proxied exchange → exchange.progress ≠ .received) →
        (thread.numbers rule).length = if thread.matching rule then 1 else 0) := by
  cases thread with
  | control => exact ⟨le_rfl, fun _ => rfl⟩
  | proxied exchange =>
    simp only [Thread.numbers, Exchange.numbers, Thread.matching]
    cases hselection : exchange.selection with
    | none =>
      refine ⟨Nat.zero_le _, fun hstarted => ?_⟩
      have hreceived := hstarted exchange rfl
      cases h.1 <;> simp at hselection hreceived
    | some selection =>
      by_cases hmatches : rule.matches exchange.request = true
      · simp [hmatches]
      · simp [hmatches]

theorem length_flatMap_numbers_le {rule : Rule} {threads : List Thread}
    (h : ∀ thread ∈ threads, thread.UnderRule rule) :
    (threads.flatMap (Thread.numbers rule)).length ≤ threads.countP (Thread.matching rule) := by
  induction threads with
  | nil => simp
  | cons thread threads ih =>
    have hthread := (h thread (by simp)).length_numbers.1
    have hrest := ih fun other hother => h other (by simp [hother])
    rw [List.flatMap_cons, List.length_append, List.countP_cons]
    omega

theorem length_flatMap_numbers_eq {rule : Rule} {threads : List Thread}
    (h : ∀ thread ∈ threads, thread.UnderRule rule)
    (hstarted : ∀ exchange, .proxied exchange ∈ threads → exchange.progress ≠ .received) :
    (threads.flatMap (Thread.numbers rule)).length = threads.countP (Thread.matching rule) := by
  induction threads with
  | nil => simp
  | cons thread threads ih =>
    have hthread := (h thread (by simp)).length_numbers.2 fun exchange heq =>
      hstarted exchange (by simp [heq])
    have hrest := ih (fun other hother => h other (by simp [hother]))
      fun exchange hexchange => hstarted exchange (by simp [hexchange])
    rw [List.flatMap_cons, List.length_append, List.countP_cons]
    omega

/-- A numbering that the counter can hold is the numbering from one. -/
theorem Numbering.perm_range {rule : Rule} {memory : Memory go} {threads : List Thread}
    (h : Numbering rule memory threads)
    (hfew : (threads.flatMap (Thread.numbers rule)).length < 2 ^ 64) :
    memory.proxy.matchCount.toNat = (threads.flatMap (Thread.numbers rule)).length ∧
      ((threads.flatMap (Thread.numbers rule)).map UInt64.toNat).Perm
        (List.range' 1 memory.proxy.matchCount.toNat) := by
  obtain ⟨count, hcount, hnumbers⟩ := h
  have hlength : (threads.flatMap (Thread.numbers rule)).length = count := by
    simpa using hnumbers.length_eq
  rw [hlength] at hfew ⊢
  have htoNat : memory.proxy.matchCount.toNat = count := by
    rw [hcount, UInt64.toNat_ofNat_of_lt' hfew]
  refine ⟨htoNat, ?_⟩
  rw [htoNat]
  refine (hnumbers.map _).trans (List.Perm.of_eq ?_)
  rw [List.map_map]
  refine (List.map_congr_left fun number hnumber => ?_).trans (List.map_id _)
  have hle := (List.mem_range'_1.mp hnumber).2
  exact UInt64.toNat_ofNat_of_lt' (show number < 2 ^ 64 by omega)

/-- Every interleaving of the handlers injects the faults that the installed rule asks for. -/
theorem serveProxy_injectsExactly {rule : ValidRule go} {start memory : Memory go}
    {arrived threads : List Thread}
    (harrived : ∀ thread ∈ arrived, thread.Arrived ∧ thread.KeepsRule)
    (hcount : arrived.countP (Thread.matching rule) < 2 ^ 64)
    (run : Run Thread.Step (start.putRule rule, arrived) (memory, threads)) :
    InjectsExactly rule.val (arrived.countP (Thread.matching rule)) memory threads := by
  have hstart : ∀ thread ∈ arrived, thread.UnderRule rule.val := fun thread hthread =>
    (harrived thread hthread).1.underRule (harrived thread hthread).2
  have hkeeps : ∀ {memory memory' : Memory go} {thread thread' : Thread} {others : List Thread},
      memory.proxy.rule = some rule → thread.UnderRule rule.val → True →
      Thread.Step memory thread memory' thread' →
      memory'.proxy.rule = some rule ∧ thread'.UnderRule rule.val ∧
        ∀ other ∈ others, other.UnderRule rule.val → other.UnderRule rule.val :=
    fun hrule hthread _ step => ⟨(step.underRule hrule hthread).1,
      (step.underRule hrule hthread).2, fun _ _ h => h⟩
  obtain ⟨hrule, hthreads⟩ := run.forall_mem (S := fun memory : Memory go =>
    memory.proxy.rule = some rule) (T := fun _ thread => thread.UnderRule rule.val)
    hkeeps (start.putRule_rule rule) hstart
  have hrun := run.strengthen (S := fun memory : Memory go =>
    memory.proxy.rule = some rule) (T := fun _ thread => thread.UnderRule rule.val)
    hkeeps (start.putRule_rule rule) hstart
  have hnumbering : Numbering rule.val memory threads := by
    refine hrun.preserves (I := fun memory threads => Numbering rule.val memory threads)
      (fun hnumbering allowed step => hnumbering.of_step allowed.2.1 allowed.2.2.1 step) ?_
    refine ⟨0, by simp, List.Perm.of_eq ?_⟩
    exact List.flatMap_eq_nil_iff.mpr fun thread hthread => (harrived thread hthread).1.numbers_eq
  have hrecorded : memory.recordings.Perm (threads.flatMap Thread.recordings) := by
    refine hrun.preserves (I := fun memory threads =>
      memory.recordings.Perm (threads.flatMap Thread.recordings)) ?_ ?_
    · intro memory memory' thread thread' before after hrecorded allowed step
      obtain ⟨gained, hmemory, hthread⟩ := step.recordings_append allowed.2.2.1
      rw [hmemory]
      exact (hrecorded.append_right gained).trans
        (perm_flatMap_step before after (List.Perm.of_eq hthread)).symm
    · have hnone : arrived.flatMap Thread.recordings = [] :=
        List.flatMap_eq_nil_iff.mpr fun thread hthread => (harrived thread hthread).1.recordings_eq
      simp [hnone, Memory.recordings]
  have htotal : threads.countP (Thread.matching rule.val) =
      arrived.countP (Thread.matching rule.val) := by
    have hmap := run.map_eq (f := Thread.matching rule.val) fun step => step.matching_eq
    simpa [List.countP_map] using congrArg (List.countP id) hmap
  have hlength : (threads.flatMap (Thread.numbers rule.val)).length ≤
      threads.countP (Thread.matching rule.val) := length_flatMap_numbers_le hthreads
  obtain ⟨hused, hperm⟩ := hnumbering.perm_range (by omega)
  exact {
    numbered := hperm
    numbered_all := fun hstarted => by
      rw [hused, length_flatMap_numbers_eq hthreads hstarted, htotal]
    recorded := hrecorded
    handled := fun exchange hexchange =>
      (hthreads _ hexchange).1.handledExactly (Rule.validated rule.property)
        (hthreads _ hexchange).2 }

/-! ## One interleaving -/

/-- Go's functions on ASCII methods and on the one path of the runs below. -/
def sampleGo : GoLibrary where
  toUpper := String.toUpper
  sha256Hex _ := "09bfbdd5077056c1280c7ef3bc054dc373121018643b977e8565a9bcceb2f2ef"

def commitRequest : Request := ⟨"POST", "/commit", "/commit", true⟩

/-- The first commit is lost before the upstream sees it. -/
def disconnectRule : ValidRule sampleGo :=
  ⟨⟨"lost-commit", "POST", "/commit", 1, 1, .beforeUpstream, .disconnect⟩, by decide +kernel⟩

/-- Two commits, of which the second is matched before the first is cut off. -/
theorem serveProxy_injectsExactly_twoCommits :
    ∃ memory threads,
      Run Thread.Step (Memory.new.putRule disconnectRule,
        [.ofRequest commitRequest, .ofRequest commitRequest]) (memory, threads) ∧
      memory.proxy.matchCount = 2 ∧ memory.proxy.events.length = 1 ∧
      InjectsExactly disconnectRule.val 2 memory threads := by
  have run : Run Thread.Step (Memory.new.putRule disconnectRule,
      [.ofRequest commitRequest, .ofRequest commitRequest]) (_, _) :=
    .head (.mk [] [_] trivial (.proxied (.matchRequest rfl))) <|
    .head (.mk [_] [] trivial (.proxied (.matchRequest rfl))) <|
    .head (.mk [] [_] trivial (.proxied (.disconnectBefore rfl rfl (by decide)))) <|
    .head (.mk [_] [] trivial (.proxied (.forward rfl rfl (by decide)
      (by decide)))) <|
    .head (.mk [_] [] trivial (.proxied (.respond 201 rfl rfl (by decide)))) .refl
  refine ⟨_, _, run, by decide, by decide, ?_⟩
  refine serveProxy_injectsExactly ?_ (by decide) run
  simp only [List.mem_cons, List.not_mem_nil, or_false, or_self, forall_eq]
  exact ⟨.request commitRequest, trivial⟩

end CatalogBench.FaultProxy
