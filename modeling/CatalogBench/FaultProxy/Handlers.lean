import CatalogBench.FaultProxy.Proxy
import CatalogBench.Library.Threads

/-!
# The handlers of the fault proxy

Every request to the proxy and every control request is a thread. A step of a thread is a
locked part of its handler with the work on its own variables around it. The client of the
upstream reads the body of a gated request at its own pace, also after the handler returned.
-/

set_option linter.all false

namespace CatalogBench.FaultProxy

open CatalogBench.Contract (containsText)

variable {go : GoLibrary}

/-- `gatedBody`. A `Read` is `waiting` while it receives from the channel. -/
structure GatedBody where
  release : Option Channel
  once : Bool
  first : Bool
  waiting : Bool
  closed : Bool
  deriving DecidableEq

inductive Response
  | disconnected
  | pauseRequiresBody
  | upstreamFailed
  | forwarded (status : ℕ)
  deriving DecidableEq

/-- How far `serveProxy` got. -/
inductive Progress
  | received
  | matched
  | forwarding
  | answered (response : Response)
  deriving DecidableEq

/-- One run of `serveProxy`. The last three fields are its history: the release channel of the
proxy when the request was matched, and how often it was recorded and handed to the client. -/
structure Exchange where
  request : Request
  selection : Option Selection
  progress : Progress
  body : Option GatedBody
  matchRelease : Option Channel
  recorded : ℕ
  dispatched : ℕ
  deriving DecidableEq

namespace Selection

def disconnectsBefore (selection : Selection) : Bool :=
  selection.inject && selection.rule.action = .disconnect && selection.rule.phase = .beforeUpstream

def pauses (selection : Selection) : Bool :=
  selection.inject && selection.rule.action = .pauseRequestBody

def disconnectsAfter (selection : Selection) : Bool :=
  selection.inject && selection.rule.action = .disconnect && selection.rule.phase = .afterUpstream

/-- An injecting selection comes from a rule that passed `Validate`. -/
def Lawful (selection : Selection) : Prop := selection.inject = true → selection.rule.Validated

end Selection

namespace Exchange

/-- A request that was not looked at yet. -/
def ofRequest (request : Request) : Exchange := ⟨request, none, .received, none, none, 0, 0⟩

/-- The steps of `serveProxy` and of the client that reads the body it was handed. -/
inductive Step : Memory go → Exchange → Memory go → Exchange → Prop
  | matchRequest {memory : Memory go} {exchange : Exchange} :
      exchange.progress = .received →
      Step memory exchange (memory.matchRequest exchange.request).1
        { exchange with
          selection := some (memory.matchRequest exchange.request).2
          progress := .matched
          matchRelease := memory.proxy.release }
  | disconnectBefore {memory : Memory go} {exchange : Exchange} {selection : Selection} :
      exchange.progress = .matched → exchange.selection = some selection →
      selection.disconnectsBefore = true →
      Step memory exchange (memory.record selection exchange.request none)
        { exchange with
          progress := .answered .disconnected
          recorded := exchange.recorded + 1 }
  | refuseBodiless {memory : Memory go} {exchange : Exchange} {selection : Selection} :
      exchange.progress = .matched → exchange.selection = some selection →
      selection.pauses = true → exchange.request.hasBody = false →
      Step memory exchange (memory.record selection exchange.request none)
        { exchange with
          progress := .answered .pauseRequiresBody
          recorded := exchange.recorded + 1 }
  | gate {memory : Memory go} {exchange : Exchange} {selection : Selection} :
      exchange.progress = .matched → exchange.selection = some selection →
      selection.pauses = true → exchange.request.hasBody = true →
      -- `releaseChannel` takes the mutex again and returns what it finds then
      Step memory exchange memory
        { exchange with
          progress := .forwarding
          body := some ⟨memory.proxy.release, false, false, false, false⟩
          dispatched := exchange.dispatched + 1 }
  | forward {memory : Memory go} {exchange : Exchange} {selection : Selection} :
      exchange.progress = .matched → exchange.selection = some selection →
      selection.disconnectsBefore = false → selection.pauses = false →
      Step memory exchange memory
        { exchange with progress := .forwarding, dispatched := exchange.dispatched + 1 }
  | upstreamFails {memory : Memory go} {exchange : Exchange} :
      exchange.progress = .forwarding →
      Step memory exchange memory { exchange with progress := .answered .upstreamFailed }
  | disconnectAfter {memory : Memory go} {exchange : Exchange} {selection : Selection}
      (status : ℕ) :
      exchange.progress = .forwarding → exchange.selection = some selection →
      selection.disconnectsAfter = true →
      Step memory exchange (memory.record selection exchange.request (some status))
        { exchange with
          progress := .answered .disconnected
          recorded := exchange.recorded + 1 }
  | respond {memory : Memory go} {exchange : Exchange} {selection : Selection} (status : ℕ) :
      exchange.progress = .forwarding → exchange.selection = some selection →
      selection.disconnectsAfter = false →
      Step memory exchange memory { exchange with progress := .answered (.forwarded status) }
  | readFirst {memory : Memory go} {exchange : Exchange} {body : GatedBody} :
      exchange.body = some body → body.first = false → body.closed = false →
      Step memory exchange memory { exchange with body := some { body with first := true } }
  | pause {memory : Memory go} {exchange : Exchange} {selection : Selection} {body : GatedBody} :
      exchange.body = some body → exchange.selection = some selection →
      body.first = true → body.once = false → body.waiting = false → body.closed = false →
      Step memory exchange (memory.record selection exchange.request none)
        { exchange with
          body := some { body with once := true, waiting := true }
          recorded := exchange.recorded + 1 }
  | readAgain {memory : Memory go} {exchange : Exchange} {body : GatedBody} :
      exchange.body = some body →
      body.first = true → body.once = true → body.waiting = false → body.closed = false →
      Step memory exchange memory { exchange with body := some { body with waiting := true } }
  | receive {memory : Memory go} {exchange : Exchange} {body : GatedBody} {channel : Channel} :
      exchange.body = some body → body.waiting = true →
      -- a receive from the nil channel never returns
      body.release = some channel → channel ∈ memory.closed →
      Step memory exchange memory { exchange with body := some { body with waiting := false } }
  | closeBody {memory : Memory go} {exchange : Exchange} {body : GatedBody} :
      exchange.body = some body →
      Step memory exchange memory { exchange with body := some { body with closed := true } }

end Exchange

/-- A request to the control handler; `put` has what the decoder made of its body. -/
inductive ControlRequest
  | put (document : Option Rule)
  | delete
  | release
  | state
  deriving DecidableEq

inductive ControlResponse
  | error (status : ℕ) (message : String)
  | ok (snapshot : Snapshot)
  deriving DecidableEq

inductive ControlProgress
  | received
  | applied
  | answered (response : ControlResponse)
  deriving DecidableEq

structure Control where
  request : ControlRequest
  progress : ControlProgress
  deriving DecidableEq

/-- The steps of `putRule`, `deleteRule`, `releaseRule` and `getState`. -/
inductive Control.Step : Memory go → Control → Memory go → Control → Prop
  | undecodable {memory : Memory go} :
      Step memory ⟨.put none, .received⟩ memory
        ⟨.put none, .answered (.error 400 "invalid rule document")⟩
  | invalid {memory : Memory go} {rule : Rule} {message : String} :
      rule.validate go = .error message →
      Step memory ⟨.put (some rule), .received⟩ memory
        ⟨.put (some rule), .answered (.error 422 message)⟩
  | put {memory : Memory go} {rule : Rule} (valid : rule.validate go = .ok ()) :
      Step memory ⟨.put (some rule), .received⟩ (memory.putRule ⟨rule, valid⟩)
        ⟨.put (some rule), .applied⟩
  | delete {memory : Memory go} :
      Step memory ⟨.delete, .received⟩ memory.deleteRule ⟨.delete, .applied⟩
  | nothingToRelease {memory : Memory go} :
      memory.releaseRule = none →
      Step memory ⟨.release, .received⟩ memory
        ⟨.release, .answered (.error 409 "no paused rule is awaiting release")⟩
  | release {memory memory' : Memory go} :
      memory.releaseRule = some memory' →
      Step memory ⟨.release, .received⟩ memory' ⟨.release, .applied⟩
  | state {memory : Memory go} : Step memory ⟨.state, .received⟩ memory ⟨.state, .applied⟩
  | snapshot {memory : Memory go} {request : ControlRequest} :
      Step memory ⟨request, .applied⟩ memory ⟨request, .answered (.ok memory.snapshot)⟩

inductive Thread
  | proxied (exchange : Exchange)
  | control (control : Control)
  deriving DecidableEq

namespace Thread

def ofRequest (request : Request) : Thread := .proxied (.ofRequest request)

def ofControl (request : ControlRequest) : Thread := .control ⟨request, .received⟩

/-- One atomic step of one thread. -/
inductive Step : Memory go → Thread → Memory go → Thread → Prop
  | proxied {memory memory' : Memory go} {exchange exchange' : Exchange} :
      Exchange.Step memory exchange memory' exchange' →
      Step memory (.proxied exchange) memory' (.proxied exchange')
  | control {memory memory' : Memory go} {control control' : Control} :
      Control.Step memory control memory' control' →
      Step memory (.control control) memory' (.control control')

/-- A thread whose request just arrived. -/
inductive Arrived : Thread → Prop
  | request (request : Request) : Arrived (ofRequest request)
  | control (request : ControlRequest) : Arrived (ofControl request)

end Thread

/-! ## The points that an exchange passes -/

namespace Exchange

/-- The exchanges that `serveProxy` can reach, point by point. -/
inductive Reached : Exchange → Prop
  | received (request : Request) (matchRelease : Option Channel) :
      Reached ⟨request, none, .received, none, matchRelease, 0, 0⟩
  | matched (request : Request) {selection : Selection} (matchRelease : Option Channel) :
      selection.Lawful → Reached ⟨request, some selection, .matched, none, matchRelease, 0, 0⟩
  | disconnectedBefore (request : Request) {selection : Selection}
      (matchRelease : Option Channel) :
      selection.Lawful → selection.disconnectsBefore = true →
      Reached ⟨request, some selection, .answered .disconnected, none, matchRelease, 1, 0⟩
  | bodiless (request : Request) {selection : Selection} (matchRelease : Option Channel) :
      selection.Lawful → selection.pauses = true → request.hasBody = false →
      Reached ⟨request, some selection, .answered .pauseRequiresBody, none, matchRelease, 1, 0⟩
  | gated (request : Request) {selection : Selection} {progress : Progress} (body : GatedBody)
      (matchRelease : Option Channel) :
      selection.Lawful → selection.pauses = true → request.hasBody = true →
      progress ≠ .received → progress ≠ .matched →
      Reached ⟨request, some selection, progress, some body, matchRelease,
        if body.once then 1 else 0, 1⟩
  | forwarded (request : Request) {selection : Selection} {progress : Progress}
      (matchRelease : Option Channel) :
      selection.Lawful → selection.disconnectsBefore = false → selection.pauses = false →
      progress ≠ .received → progress ≠ .matched →
      Reached ⟨request, some selection, progress, none, matchRelease, 0, 1⟩
  | disconnectedAfter (request : Request) {selection : Selection}
      (matchRelease : Option Channel) :
      selection.Lawful → selection.disconnectsAfter = true →
      Reached ⟨request, some selection, .answered .disconnected, none, matchRelease, 1, 1⟩

theorem reached_ofRequest (request : Request) : (ofRequest request).Reached :=
  .received request none

end Exchange

theorem Memory.matchRequest_lawful (memory : Memory go) (request : Request) :
    (memory.matchRequest request).2.Lawful := by
  intro hinject
  rcases memory.matchRequest_cases request with ⟨heq, -⟩ | ⟨rule, inject, -, -, heq, -⟩
  · rw [heq] at hinject
    cases hinject
  · rw [heq]
    exact Rule.validated rule.property

namespace Exchange

theorem Reached.of_received {exchange : Exchange} (h : exchange.Reached)
    (hprogress : exchange.progress = .received) :
    ∃ request matchRelease, exchange = ⟨request, none, .received, none, matchRelease, 0, 0⟩ := by
  cases h with
  | received request matchRelease => exact ⟨request, matchRelease, rfl⟩
  | gated _ _ _ _ _ _ hreceived => exact absurd hprogress hreceived
  | forwarded _ _ _ _ _ hreceived => exact absurd hprogress hreceived
  | _ => cases hprogress

theorem Reached.of_matched {exchange : Exchange} (h : exchange.Reached)
    (hprogress : exchange.progress = .matched) :
    ∃ request selection matchRelease, selection.Lawful ∧
      exchange = ⟨request, some selection, .matched, none, matchRelease, 0, 0⟩ := by
  cases h with
  | matched request matchRelease hlawful => exact ⟨request, _, matchRelease, hlawful, rfl⟩
  | gated _ _ _ _ _ _ _ hmatched => exact absurd hprogress hmatched
  | forwarded _ _ _ _ _ _ hmatched => exact absurd hprogress hmatched
  | _ => cases hprogress

theorem Reached.of_body {exchange : Exchange} {body : GatedBody} (h : exchange.Reached)
    (hbody : exchange.body = some body) :
    ∃ request selection progress matchRelease, selection.Lawful ∧ selection.pauses = true ∧
      request.hasBody = true ∧ progress ≠ .received ∧ progress ≠ .matched ∧
      exchange = ⟨request, some selection, progress, some body, matchRelease,
        if body.once then 1 else 0, 1⟩ := by
  cases h with
  | gated request body' matchRelease hlawful hpauses hhasBody hreceived hmatched =>
    cases hbody
    exact ⟨request, _, _, matchRelease, hlawful, hpauses, hhasBody, hreceived, hmatched, rfl⟩
  | _ => cases hbody

/-- While the client works on a request, its body is gated or it goes through as it is. -/
theorem Reached.of_forwarding {exchange : Exchange} (h : exchange.Reached)
    (hprogress : exchange.progress = .forwarding) :
    (∃ request selection body matchRelease, selection.Lawful ∧ selection.pauses = true ∧
      request.hasBody = true ∧
      exchange = ⟨request, some selection, .forwarding, some body, matchRelease,
        if body.once then 1 else 0, 1⟩) ∨
    ∃ request selection matchRelease, selection.Lawful ∧ selection.disconnectsBefore = false ∧
      selection.pauses = false ∧
      exchange = ⟨request, some selection, .forwarding, none, matchRelease, 0, 1⟩ := by
  cases h with
  | gated request body matchRelease hlawful hpauses hhasBody =>
    cases hprogress
    exact .inl ⟨request, _, body, matchRelease, hlawful, hpauses, hhasBody, rfl⟩
  | forwarded request matchRelease hlawful hbefore hpauses =>
    cases hprogress
    exact .inr ⟨request, _, matchRelease, hlawful, hbefore, hpauses, rfl⟩
  | _ => cases hprogress

end Exchange

/-- A pausing rule does not disconnect. -/
theorem Selection.disconnectsAfter_of_pauses {selection : Selection}
    (h : selection.pauses = true) : selection.disconnectsAfter = false := by
  simp only [pauses, Bool.and_eq_true, decide_eq_true_eq] at h
  simp [disconnectsAfter, h, Action.pauseRequestBody, Action.disconnect]

namespace Exchange

/-- A step leads from point to point. -/
theorem Step.reached {memory memory' : Memory go} {exchange exchange' : Exchange}
    (step : Step memory exchange memory' exchange') (h : exchange.Reached) :
    exchange'.Reached := by
  cases step with
  | matchRequest hprogress =>
    obtain ⟨request, matchRelease, rfl⟩ := h.of_received hprogress
    exact .matched request _ (memory.matchRequest_lawful request)
  | disconnectBefore hprogress hselection hbefore =>
    obtain ⟨request, selection, matchRelease, hlawful, rfl⟩ := h.of_matched hprogress
    cases hselection
    exact .disconnectedBefore request matchRelease hlawful hbefore
  | refuseBodiless hprogress hselection hpauses hbodiless =>
    obtain ⟨request, selection, matchRelease, hlawful, rfl⟩ := h.of_matched hprogress
    cases hselection
    exact .bodiless request matchRelease hlawful hpauses hbodiless
  | gate hprogress hselection hpauses hhasBody =>
    obtain ⟨request, selection, matchRelease, hlawful, rfl⟩ := h.of_matched hprogress
    cases hselection
    exact .gated request _ matchRelease hlawful hpauses hhasBody (by simp) (by simp)
  | forward hprogress hselection hbefore hpauses =>
    obtain ⟨request, selection, matchRelease, hlawful, rfl⟩ := h.of_matched hprogress
    cases hselection
    exact .forwarded request matchRelease hlawful hbefore hpauses (by simp) (by simp)
  | upstreamFails hprogress =>
    rcases h.of_forwarding hprogress with
      ⟨request, selection, body, matchRelease, hlawful, hpauses, hhasBody, rfl⟩ |
      ⟨request, selection, matchRelease, hlawful, hbefore, hpauses, rfl⟩
    · exact .gated request body matchRelease hlawful hpauses hhasBody (by simp) (by simp)
    · exact .forwarded request matchRelease hlawful hbefore hpauses (by simp) (by simp)
  | disconnectAfter status hprogress hselection hafter =>
    rcases h.of_forwarding hprogress with
      ⟨request, selection, body, matchRelease, hlawful, hpauses, hhasBody, rfl⟩ |
      ⟨request, selection, matchRelease, hlawful, hbefore, hpauses, rfl⟩
    · cases hselection
      rw [Selection.disconnectsAfter_of_pauses hpauses] at hafter
      cases hafter
    · cases hselection
      exact .disconnectedAfter request matchRelease hlawful hafter
  | respond status hprogress hselection _ =>
    rcases h.of_forwarding hprogress with
      ⟨request, selection, body, matchRelease, hlawful, hpauses, hhasBody, rfl⟩ |
      ⟨request, selection, matchRelease, hlawful, hbefore, hpauses, rfl⟩
    · exact .gated request body matchRelease hlawful hpauses hhasBody (by simp) (by simp)
    · exact .forwarded request matchRelease hlawful hbefore hpauses (by simp) (by simp)
  | pause hbody hselection hfirst honce =>
    obtain ⟨request, selection, progress, matchRelease, hlawful, hpauses, hhasBody, hreceived,
      hmatched, rfl⟩ := h.of_body hbody
    simp only [honce]
    exact .gated request _ matchRelease hlawful hpauses hhasBody hreceived hmatched
  | readFirst hbody | readAgain hbody | receive hbody | closeBody hbody =>
    obtain ⟨request, selection, progress, matchRelease, hlawful, hpauses, hhasBody, hreceived,
      hmatched, rfl⟩ := h.of_body hbody
    exact .gated request _ matchRelease hlawful hpauses hhasBody hreceived hmatched

end Exchange

end CatalogBench.FaultProxy
