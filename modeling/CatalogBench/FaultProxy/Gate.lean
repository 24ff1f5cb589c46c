import CatalogBench.FaultProxy.Replacement

/-!
# The pause gate

A paused request waits on the channel that the proxy held when the gate was built. `PUT` and
`DELETE` drop the channel of the rule they replace without closing it, so a request that is
still at its gate then is lost; a rule that is changed when no request is at its gate loses none.
-/

set_option linter.all false

namespace CatalogBench.FaultProxy

open Threads

variable {go : GoLibrary}

/-- The channel is closed, or it is the one that `POST /v1/release` closes now. -/
def Memory.Releasable (memory : Memory go) (channel : Channel) : Prop :=
  channel ∈ memory.closed ∨
    ∃ memory', memory.releaseRule = some memory' ∧ channel ∈ memory'.closed

/-- No request waits on a channel that nothing will close, or on the channel of another rule. -/
structure NoOrphans (memory : Memory go) (threads : List Thread) : Prop where
  releasable : ∀ exchange, .proxied exchange ∈ threads → ∀ body ∈ exchange.body,
    body.waiting = true → ∃ channel ∈ body.release, memory.Releasable channel
  own_channel : ∀ exchange, .proxied exchange ∈ threads → ∀ body ∈ exchange.body,
    body.release = exchange.matchRelease

namespace Exchange

/-- The request was selected for a pause and has its gate still to build. -/
def BeforeGate (exchange : Exchange) : Prop :=
  exchange.progress = .matched ∧ exchange.request.hasBody = true ∧
    ∃ selection ∈ exchange.selection, selection.pauses = true

/-- No step of the request depends on a channel that is still open. -/
structure GateSettled (memory : Memory go) (exchange : Exchange) : Prop where
  not_before : ¬exchange.BeforeGate
  closed : ∀ body ∈ exchange.body, body.waiting = true ∨ body.closed = false →
    ∃ channel ∈ body.release, channel ∈ memory.closed

end Exchange

/-- No request is at its gate, or on the way there, when a control request changes the rule. -/
def GatesSettled (memory : Memory go) (others : List Thread) (thread : Thread) : Prop :=
  thread.ChangesRule go →
    ∀ exchange, .proxied exchange ∈ others → exchange.GateSettled memory

/-! ## The invariant -/

/-- The proxy's channel: new for each pause rule, and closed once the rule was released. -/
structure ChannelFits (memory : Memory go) : Prop where
  closed_lt : ∀ channel ∈ memory.closed, channel < memory.made
  release_lt : ∀ channel ∈ memory.proxy.release, channel < memory.made
  closed_iff : ∀ channel ∈ memory.proxy.release,
    channel ∈ memory.closed ↔ memory.proxy.released = true
  of_pause : ∀ rule ∈ memory.proxy.rule, rule.val.action = .pauseRequestBody →
    ∃ channel, memory.proxy.release = some channel

/-- The channel is closed, or the proxy still holds it open. -/
def Memory.Holds (memory : Memory go) (channel : Channel) : Prop :=
  channel ∈ memory.closed ∨
    memory.proxy.release = some channel ∧ memory.proxy.released = false

theorem Memory.Holds.releasable {memory : Memory go} {channel : Channel}
    (h : memory.Holds channel) : memory.Releasable channel := by
  rcases h with hclosed | ⟨hrelease, hreleased⟩
  · exact .inl hclosed
  · exact .inr ⟨_, Memory.releaseRule_eq_some.mpr ⟨channel, hrelease, hreleased, rfl⟩, by simp⟩

/-- A request on its way to the gate finds the channel of its rule, and behind the gate it has
that channel. -/
structure Exchange.GateFits (memory : Memory go) (exchange : Exchange) : Prop where
  reached : exchange.Reached
  before : exchange.BeforeGate → exchange.matchRelease = memory.proxy.release ∧
    ∃ channel, memory.proxy.release = some channel
  own_channel : ∀ body ∈ exchange.body, body.release = exchange.matchRelease
  held : ∀ body ∈ exchange.body, body.waiting = true ∨ body.closed = false →
    ∃ channel ∈ body.release, memory.Holds channel

def Thread.GateFits (memory : Memory go) : Thread → Prop
  | .proxied exchange => exchange.GateFits memory
  | .control _ => True

namespace ChannelFits

variable {memory : Memory go}

theorem new : ChannelFits (Memory.new : Memory go) :=
  ⟨nofun, nofun, nofun, nofun⟩

theorem holds (h : ChannelFits memory) {channel : Channel}
    (hrelease : memory.proxy.release = some channel) : memory.Holds channel := by
  cases hreleased : memory.proxy.released with
  | false => exact .inr ⟨hrelease, hreleased⟩
  | true => exact .inl ((h.closed_iff channel hrelease).mpr hreleased)

theorem putRule (h : ChannelFits memory) (rule : ValidRule go) :
    ChannelFits (memory.putRule rule) := by
  unfold Memory.putRule
  split
  · refine ⟨fun channel hclosed => ?_, ?_, ?_, fun _ _ _ => ⟨_, rfl⟩⟩
    · exact Nat.lt_succ_of_lt (h.closed_lt channel hclosed)
    · rintro channel ⟨⟩
      exact Nat.lt_succ_self _
    · rintro channel ⟨⟩
      simp only [Bool.false_eq_true, iff_false]
      exact fun hclosed => Nat.lt_irrefl _ (h.closed_lt _ hclosed)
  · next haction =>
    refine ⟨h.closed_lt, nofun, nofun, ?_⟩
    rintro rule' ⟨⟩ hpause
    exact absurd hpause haction

theorem deleteRule (h : ChannelFits memory) : ChannelFits memory.deleteRule :=
  ⟨h.closed_lt, nofun, nofun, nofun⟩

theorem releaseRule {memory' : Memory go} (h : ChannelFits memory)
    (hrelease : memory.releaseRule = some memory') : ChannelFits memory' := by
  obtain ⟨channel, hchannel, -, rfl⟩ := Memory.releaseRule_eq_some.mp hrelease
  refine ⟨fun other hother => ?_, h.release_lt, fun other hother => ?_, h.of_pause⟩
  · rcases List.mem_cons.mp hother with rfl | hclosed
    · exact h.release_lt _ hchannel
    · exact h.closed_lt other hclosed
  · have heq : other = channel := Option.some.inj (hother.symm.trans hchannel)
    simp [heq]

end ChannelFits

/-- What a proxied request leaves as it is. -/
theorem Exchange.Step.channels {memory memory' : Memory go} {exchange exchange' : Exchange}
    (step : Step memory exchange memory' exchange') :
    memory'.proxy.release = memory.proxy.release ∧
      memory'.proxy.released = memory.proxy.released ∧
      memory'.made = memory.made ∧ memory'.closed = memory.closed := by
  cases step with
  | matchRequest =>
    rcases memory.matchRequest_cases exchange.request with ⟨heq, -⟩ | ⟨_, _, -, -, heq, -⟩ <;>
      simp [heq]
  | _ => exact ⟨rfl, rfl, rfl, rfl⟩

namespace ChannelFits

theorem of_step {memory memory' : Memory go} {exchange exchange' : Exchange}
    (h : ChannelFits memory) (step : Exchange.Step memory exchange memory' exchange') :
    ChannelFits memory' := by
  obtain ⟨hrelease, hreleased, hmade, hclosed⟩ := step.channels
  constructor
  · rw [hclosed, hmade]
    exact h.closed_lt
  · rw [hrelease, hmade]
    exact h.release_lt
  · rw [hrelease, hclosed, hreleased]
    exact h.closed_iff
  · rw [step.rule_eq, hrelease]
    exact h.of_pause

end ChannelFits

namespace Exchange.GateFits

variable {memory memory' : Memory go} {exchange exchange' : Exchange}

/-- A request keeps its place at the gate while the proxy keeps its channel and closes no fewer. -/
theorem of_release (h : exchange.GateFits memory)
    (hrelease : memory'.proxy.release = memory.proxy.release)
    (hholds : ∀ channel, memory.Holds channel → memory'.Holds channel) :
    exchange.GateFits memory' where
  reached := h.reached
  before hbefore := by
    rw [hrelease]
    exact h.before hbefore
  own_channel := h.own_channel
  held body hbody hgate := by
    obtain ⟨channel, hchannel, hheld⟩ := h.held body hbody hgate
    exact ⟨channel, hchannel, hholds channel hheld⟩

/-- A settled request does not need the channel of the proxy. -/
theorem of_settled (h : exchange.GateFits memory) (hsettled : exchange.GateSettled memory)
    (hclosed : memory.closed ⊆ memory'.closed) : exchange.GateFits memory' where
  reached := h.reached
  before hbefore := absurd hbefore hsettled.not_before
  own_channel := h.own_channel
  held body hbody hgate := by
    obtain ⟨channel, hchannel, hmem⟩ := hsettled.closed body hbody hgate
    exact ⟨channel, hchannel, .inl (hclosed hmem)⟩

/-- A step that neither builds a gate nor leads to one. -/
theorem of_body_none (hreached : exchange.Reached) (hbody : exchange.body = none)
    (hprogress : exchange.progress ≠ .matched) : exchange.GateFits memory where
  reached := hreached
  before hbefore := absurd hbefore.1 hprogress
  own_channel body h := by rw [hbody] at h; cases h
  held body h := by rw [hbody] at h; cases h

/-- A step of the client on the body that it reads. -/
theorem of_body {body body' : GatedBody} (h : exchange.GateFits memory)
    (hbody : exchange.body = some body) (hbody' : exchange'.body = some body')
    (hreached : exchange'.Reached) (hrelease : body'.release = body.release)
    (hmatch : exchange'.matchRelease = exchange.matchRelease)
    (hgate : body'.waiting = true ∨ body'.closed = false →
      body.waiting = true ∨ body.closed = false) : exchange'.GateFits memory where
  reached := hreached
  before hbefore := by
    obtain ⟨_, _, progress, _, _, _, _, _, hmatched, heq⟩ := hreached.of_body hbody'
    rw [heq] at hbefore
    exact absurd hbefore.1 hmatched
  own_channel other hother := by
    obtain rfl := Option.some.inj (hbody'.symm.trans hother)
    rw [hrelease, hmatch, h.own_channel body hbody]
  held other hother hat := by
    obtain rfl := Option.some.inj (hbody'.symm.trans hother)
    rw [hrelease]
    exact h.held body hbody (hgate hat)

end Exchange.GateFits

theorem Exchange.Step.gateFits {memory memory' : Memory go} {exchange exchange' : Exchange}
    (step : Step memory exchange memory' exchange') (hchannel : ChannelFits memory)
    (h : exchange.GateFits memory) : exchange'.GateFits memory' := by
  obtain ⟨hrelease, hreleased, -, hclosed⟩ := step.channels
  have hreached := step.reached h.reached
  suffices exchange'.GateFits memory from this.of_release hrelease fun channel hheld => by
    simpa only [Memory.Holds, hrelease, hreleased, hclosed] using hheld
  cases step with
  | matchRequest hprogress =>
    obtain ⟨request, matchRelease, rfl⟩ := h.reached.of_received hprogress
    refine ⟨hreached, fun hbefore => ⟨rfl, ?_⟩, nofun, nofun⟩
    obtain ⟨-, -, selection, ⟨⟩, hpauses⟩ := hbefore
    rcases memory.matchRequest_cases request with ⟨heq, -⟩ | ⟨rule, inject, hrule, -, heq, -⟩
    · rw [heq] at hpauses
      cases hpauses
    · rw [heq] at hpauses
      simp only [Selection.pauses, Bool.and_eq_true, decide_eq_true_eq] at hpauses
      exact hchannel.of_pause rule hrule hpauses.2
  | disconnectBefore hprogress | refuseBodiless hprogress | forward hprogress =>
    obtain ⟨request, selection, matchRelease, -, rfl⟩ := h.reached.of_matched hprogress
    exact .of_body_none hreached rfl (by simp)
  | gate hprogress hselection hpauses hhasBody =>
    obtain ⟨request, selection, matchRelease, -, rfl⟩ := h.reached.of_matched hprogress
    obtain ⟨hmatch, channel, hchannel'⟩ := h.before ⟨rfl, hhasBody, _, hselection, hpauses⟩
    refine ⟨hreached, fun hbefore => absurd hbefore.1 (by simp), ?_, ?_⟩
    · rintro body ⟨⟩
      exact hmatch.symm
    · rintro body ⟨⟩ -
      exact ⟨channel, hchannel', hchannel.holds hchannel'⟩
  | upstreamFails hprogress | respond _ hprogress | disconnectAfter _ hprogress =>
    rcases Option.eq_none_or_eq_some exchange.body with hbody | ⟨body, hbody⟩
    · exact .of_body_none hreached hbody (by simp)
    · exact h.of_body hbody hbody hreached rfl rfl id
  | pause hbody _ _ _ _ hopen | readAgain hbody _ _ _ hopen =>
    exact h.of_body hbody rfl hreached rfl rfl fun _ => .inr hopen
  | readFirst hbody => exact h.of_body hbody rfl hreached rfl rfl id
  | receive hbody hwaiting => exact h.of_body hbody rfl hreached rfl rfl fun _ => .inl hwaiting
  | closeBody hbody =>
    exact h.of_body hbody rfl hreached rfl rfl fun hgate => .inl (hgate.resolve_right (by simp))

namespace Thread.Step

variable {memory memory' : Memory go} {thread thread' : Thread} {others : List Thread}

theorem gateFits (step : Thread.Step memory thread memory' thread')
    (allowed : GatesSettled memory others thread) (hchannel : ChannelFits memory)
    (h : thread.GateFits memory) :
    ChannelFits memory' ∧ thread'.GateFits memory' ∧
      ∀ other ∈ others, other.GateFits memory → other.GateFits memory' := by
  have hchange (hclosed : memory.closed ⊆ memory'.closed) (hchanges : thread.ChangesRule go) :
      ∀ other ∈ others, other.GateFits memory → other.GateFits memory' := by
    intro other hother hfits
    cases other with
    | proxied exchange =>
      exact Exchange.GateFits.of_settled hfits (allowed hchanges exchange hother) hclosed
    | control => trivial
  have hkeep (hrelease : memory'.proxy.release = memory.proxy.release)
      (hholds : ∀ channel, memory.Holds channel → memory'.Holds channel) :
      ∀ other ∈ others, other.GateFits memory → other.GateFits memory' := by
    intro other _ hfits
    cases other with
    | proxied exchange => exact Exchange.GateFits.of_release hfits hrelease hholds
    | control => trivial
  cases step with
  | proxied step =>
    obtain ⟨hrelease, hreleased, -, hclosed⟩ := step.channels
    refine ⟨hchannel.of_step step, step.gateFits hchannel h, hkeep hrelease fun channel hheld => ?_⟩
    simpa only [Memory.Holds, hrelease, hreleased, hclosed] using hheld
  | control step =>
    cases step with
    | put valid =>
      refine ⟨hchannel.putRule _, trivial, hchange ?_ valid⟩
      unfold Memory.putRule
      split <;> exact List.Subset.refl _
    | delete => exact ⟨hchannel.deleteRule, trivial, hchange (List.Subset.refl _) trivial⟩
    | release hrelease =>
      refine ⟨hchannel.releaseRule hrelease, trivial, ?_⟩
      obtain ⟨channel, hchannel', -, rfl⟩ := Memory.releaseRule_eq_some.mp hrelease
      refine hkeep rfl fun other hother => ?_
      rcases hother with hclosed | ⟨hheld, -⟩
      · exact .inl (List.mem_cons_of_mem _ hclosed)
      · obtain rfl := Option.some.inj (hchannel'.symm.trans hheld)
        exact .inl List.mem_cons_self
    | _ => exact ⟨hchannel, trivial, hkeep rfl fun _ => id⟩

end Thread.Step

/-- In a run that changes the rule only when no request is at its gate or on the way there, no
paused request is lost. -/
theorem no_paused_request_orphaned {arrived threads : List Thread} {memory : Memory go}
    (harrived : ∀ thread ∈ arrived, thread.Arrived)
    (run : GuardedRun GatesSettled Thread.Step (Memory.new, arrived) (memory, threads)) :
    NoOrphans memory threads := by
  obtain ⟨-, hthreads⟩ := run.forall_mem (S := ChannelFits)
    (T := fun memory thread => thread.GateFits memory)
    (fun hchannel hthread allowed step => step.gateFits allowed hchannel hthread)
    ChannelFits.new fun thread hthread => by
      cases harrived thread hthread with
      | request request =>
        exact .of_body_none (.received request none) rfl (by simp [Exchange.ofRequest])
      | control => trivial
  constructor
  · intro exchange hexchange body hbody hwaiting
    obtain ⟨channel, hchannel, hheld⟩ := (hthreads _ hexchange).held body hbody (.inl hwaiting)
    exact ⟨channel, hchannel, hheld.releasable⟩
  · intro exchange hexchange
    exact (hthreads _ hexchange).own_channel

/-- The first commit is held after its first byte. -/
def pauseRule : ValidRule sampleGo :=
  ⟨⟨"commit-gate", "POST", "/commit", 1, 1, .duringUpstream, .pauseRequestBody⟩, by decide +kernel⟩

/-- A commit waits at the gate, is released, and goes on before the rule is deleted. -/
theorem no_paused_request_orphaned_released :
    ∃ threads, ∃ memory : Memory sampleGo,
      GuardedRun GatesSettled Thread.Step (Memory.new, [.ofControl (.put pauseRule.val),
        .ofRequest commitRequest, .ofControl .release, .ofControl .delete]) (memory, threads) ∧
      memory.proxy.rule = none ∧ NoOrphans memory threads := by
  have run : GuardedRun GatesSettled Thread.Step ((Memory.new : Memory sampleGo),
      [.ofControl (.put pauseRule.val), .ofRequest commitRequest, .ofControl .release,
        .ofControl .delete]) (_, _) :=
    .head (.mk [] [_, _, _] (fun _ exchange hexchange => by
        simp only [Thread.ofRequest, Thread.ofControl, List.nil_append, List.mem_cons,
          Thread.proxied.injEq, reduceCtorEq, List.not_mem_nil, or_false] at hexchange
        rw [hexchange]
        exact ⟨(fun hbefore => nomatch hbefore.1), nofun⟩)
      (.control (.put pauseRule.property))) <|
    .head (.mk [_] [_, _] nofun (.proxied (.matchRequest rfl))) <|
    .head (.mk [_] [_, _] nofun (.proxied (.gate rfl rfl (by decide) rfl))) <|
    .head (.mk [_] [_, _] nofun (.proxied (.readFirst rfl rfl rfl))) <|
    .head (.mk [_] [_, _] nofun (.proxied (.pause rfl rfl rfl rfl rfl rfl))) <|
    .head (.mk [_, _] [_] nofun (.control (.release rfl))) <|
    .head (.mk [_] [_, _] nofun
      (.proxied (.receive rfl rfl rfl (List.mem_singleton_self 0)))) <|
    .head (.mk [_, _, _] [] (fun _ exchange hexchange => by
        simp only [List.append_nil, List.mem_cons, Thread.proxied.injEq, reduceCtorEq,
          List.not_mem_nil, or_false, false_or] at hexchange
        rw [hexchange]
        refine ⟨(fun hbefore => nomatch hbefore.1), ?_⟩
        rintro body ⟨⟩ -
        exact ⟨0, by decide, by decide⟩)
      (.control .delete)) .refl
  refine ⟨_, _, run, rfl, no_paused_request_orphaned ?_ run⟩
  simp only [List.mem_cons, List.not_mem_nil, or_false]
  rintro thread (rfl | rfl | rfl | rfl)
  · exact .control _
  · exact .request _
  · exact .control _
  · exact .control _

/-- A commit waits at the gate when its rule is deleted, and no control request can release it. -/
theorem paused_request_orphaned_by_delete :
    ∃ arrived threads, ∃ memory : Memory sampleGo, (∀ thread ∈ arrived, thread.Arrived) ∧
      Run Thread.Step (Memory.new, arrived) (memory, threads) ∧ ¬NoOrphans memory threads := by
  have run : Run Thread.Step ((Memory.new : Memory sampleGo),
      [.ofControl (.put pauseRule.val), .ofRequest commitRequest, .ofControl .delete]) (_, _) :=
    .head (.mk [] [_, _] trivial (.control (.put pauseRule.property))) <|
    .head (.mk [_] [_] trivial (.proxied (.matchRequest rfl))) <|
    .head (.mk [_] [_] trivial (.proxied (.gate rfl rfl (by decide) rfl))) <|
    .head (.mk [_] [_] trivial (.proxied (.readFirst rfl rfl rfl))) <|
    .head (.mk [_] [_] trivial (.proxied (.pause rfl rfl rfl rfl rfl rfl))) <|
    .head (.mk [_, _] [] trivial (.control .delete)) .refl
  refine ⟨_, _, _, ?_, run, fun h => ?_⟩
  · simp only [List.mem_cons, List.not_mem_nil, or_false]
    rintro thread (rfl | rfl | rfl)
    · exact .control _
    · exact .request _
    · exact .control _
  · obtain ⟨channel, -, hclosed | ⟨memory', hrelease, -⟩⟩ :=
      h.releasable _ (List.mem_cons_of_mem _ List.mem_cons_self) _ rfl rfl
    · exact List.not_mem_nil hclosed
    · cases hrelease

end CatalogBench.FaultProxy
