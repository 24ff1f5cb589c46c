import CatalogBench.Contract.Value
import CatalogBench.Library.Interaction
import Mathlib.Tactic.Common

/-!
# The fault proxy

The proxy's rule and the state that its handlers share: the installed rule, the number of
matching requests, the recorded events and the channel of the pause gate. Every definition on
`Memory` is what one handler does while it holds the proxy's mutex.
-/

set_option linter.all false

namespace CatalogBench.FaultProxy

open Interaction
open CatalogBench.Contract (containsText)

/-- What the proxy calls of Go's libraries: `strings.ToUpper`, and `sha256.Sum256` in hex digits. -/
structure GoLibrary where
  toUpper : String → String
  sha256Hex : String → String

/-- `type Phase string`: a decoded rule can hold any text. -/
structure Phase where
  text : String
  deriving DecidableEq, Inhabited

namespace Phase

def beforeUpstream : Phase := ⟨"before-upstream"⟩
def duringUpstream : Phase := ⟨"during-upstream"⟩
def afterUpstream : Phase := ⟨"after-upstream"⟩

end Phase

/-- `type Action string`: a decoded rule can hold any text. -/
structure Action where
  text : String
  deriving DecidableEq, Inhabited

namespace Action

def disconnect : Action := ⟨"disconnect"⟩
def pauseRequestBody : Action := ⟨"pause-request-body"⟩

end Action

structure Rule where
  id : String
  method : String
  pathContains : String
  occurrence : UInt64
  injections : UInt64
  phase : Phase
  action : Action
  deriving DecidableEq, Inhabited

def isRuleIdCharacter (character : Char) : Bool :=
  ('a' ≤ character && character ≤ 'z') || character == '-' || ('0' ≤ character && character ≤ '9')

/-- One check of `Rule.Validate`. -/
def rejectIf (violated : Prop) [Decidable violated] (message : String) : Except String Unit :=
  if violated then .error message else .ok ()

@[simp] theorem rejectIf_eq_ok {violated : Prop} [Decidable violated] {message : String}
    {done : Unit} : rejectIf violated message = .ok done ↔ ¬violated := by
  by_cases h : violated <;> simp [rejectIf, h]

/-- `Rule.Validate`. -/
def Rule.validate (go : GoLibrary) (rule : Rule) : Except String Unit := do
  rejectIf (rule.id = "" ∨ 64 < rule.id.utf8ByteSize) "id must contain 1-64 characters"
  rejectIf (¬rule.id.toList.all isRuleIdCharacter)
    "id must use lowercase ASCII letters, digits, and hyphens"
  rejectIf (rule.method = "" ∨ rule.method ≠ go.toUpper rule.method)
    "method must be an uppercase HTTP method"
  rejectIf (rule.pathContains = "" ∨ rule.pathContains.toList.head? ≠ some '/')
    "path_contains must be a nonempty absolute-path fragment"
  rejectIf (rule.pathContains.toList.any fun character => character = '?' ∨ character = '#')
    "path_contains must not include query text or a fragment"
  rejectIf (rule.occurrence = 0) "occurrence must be greater than zero"
  rejectIf (rule.injections = 0 ∨ 1000 < rule.injections) "injections must be from 1 through 1000"
  rejectIf (~~~0 - rule.injections + 1 < rule.occurrence)
    "occurrence and injections overflow the match range"
  rejectIf (rule.phase ≠ .beforeUpstream ∧ rule.phase ≠ .duringUpstream ∧
      rule.phase ≠ .afterUpstream)
    "phase must be before-upstream, during-upstream, or after-upstream"
  rejectIf (rule.action ≠ .disconnect ∧ rule.action ≠ .pauseRequestBody)
    "action must be disconnect or pause-request-body"
  rejectIf (rule.action = .pauseRequestBody ∧ rule.phase ≠ .duringUpstream)
    "pause-request-body requires phase during-upstream"
  rejectIf (rule.action = .disconnect ∧ rule.phase = .duringUpstream)
    "during-upstream requires action pause-request-body"

/-- A rule that `putRule` installs. -/
abbrev ValidRule (go : GoLibrary) := { rule : Rule // rule.validate go = .ok () }

/-- The match numbers that a rule injects a fault at, without the machine's arithmetic. -/
def Rule.Window (rule : Rule) (number : UInt64) : Prop :=
  rule.occurrence.toNat ≤ number.toNat ∧
    number.toNat ≤ rule.occurrence.toNat + rule.injections.toNat - 1

instance (rule : Rule) (number : UInt64) : Decidable (rule.Window number) :=
  inferInstanceAs (Decidable (_ ∧ _))

/-- What the proofs need of `Rule.validate`. -/
structure Rule.Validated (rule : Rule) : Prop where
  occurrence_pos : 0 < rule.occurrence.toNat
  injections_pos : 0 < rule.injections.toNat
  last_lt : rule.occurrence.toNat + rule.injections.toNat - 1 < 2 ^ 64
  action_eq : rule.action = .disconnect ∨ rule.action = .pauseRequestBody
  phase_of_pause : rule.action = .pauseRequestBody → rule.phase = .duringUpstream
  phase_of_disconnect : rule.action = .disconnect →
    rule.phase = .beforeUpstream ∨ rule.phase = .afterUpstream

theorem Rule.validated {go : GoLibrary} {rule : Rule} (h : rule.validate go = .ok ()) :
    rule.Validated := by
  simp only [Rule.validate, except_seq_eq_ok, rejectIf_eq_ok] at h
  obtain ⟨-, -, -, -, -, hoccurrence, hinjections, hlast, hphase, haction, hpause, hdisconnect⟩ := h
  rw [not_or] at hinjections
  have hpos : rule.occurrence.toNat ≠ 0 := fun h => hoccurrence (UInt64.toNat.inj h)
  have hsome : rule.injections.toNat ≠ 0 := fun h => hinjections.1 (UInt64.toNat.inj h)
  have hfew : rule.injections.toNat ≤ 1000 := by
    simpa [UInt64.lt_iff_toNat_lt] using hinjections.2
  have hmax : (~~~0 - rule.injections + 1 : UInt64).toNat = 2 ^ 64 - rule.injections.toNat := by
    rw [UInt64.toNat_add, UInt64.toNat_sub]
    simp only [show (~~~0 : UInt64).toNat = 2 ^ 64 - 1 from rfl, UInt64.toNat_one]
    omega
  rw [UInt64.lt_iff_toNat_lt, hmax] at hlast
  refine ⟨by omega, by omega, by omega, ?_, ?_, ?_⟩
  · by_contra hneither
    exact haction (not_or.mp hneither)
  · intro haction'
    by_contra hphase'
    exact hpause ⟨haction', hphase'⟩
  · intro haction'
    by_contra hphase'
    rw [not_or] at hphase'
    exact hphase ⟨hphase'.1, fun h => hdisconnect ⟨haction', h⟩, hphase'.2⟩

/-- What the handlers read of a proxied request. -/
structure Request where
  method : String
  path : String
  escapedPath : String
  hasBody : Bool
  deriving DecidableEq

/-- The test of `match`. -/
def Rule.matches (rule : Rule) (request : Request) : Bool :=
  rule.method = request.method && containsText request.path rule.pathContains

structure Event where
  sequence : UInt64
  ruleId : String
  phase : Phase
  action : Action
  method : String
  pathSha256 : String
  matchNumber : UInt64
  upstreamStatus : Option ℕ
  deriving DecidableEq

/-- A Go channel by its place in the order of `make`. -/
abbrev Channel := ℕ

/-- The fields of `Proxy` under its mutex. -/
structure Proxy (go : GoLibrary) where
  rule : Option (ValidRule go)
  matchCount : UInt64
  events : List Event
  sequence : UInt64
  release : Option Channel
  released : Bool

/-- The proxy with its channels: how many were made, and those that were closed. -/
structure Memory (go : GoLibrary) where
  proxy : Proxy go
  made : ℕ
  closed : List Channel

/-- The results of `match`, which the handler keeps. -/
structure Selection where
  rule : Rule
  matchNumber : UInt64
  inject : Bool
  deriving DecidableEq

variable {go : GoLibrary}

namespace Memory

/-- `New`. -/
def new : Memory go := ⟨⟨none, 0, [], 0, none, false⟩, 0, []⟩

/-- `match` for a request that the installed rule does not match. -/
def unmatched : Selection := ⟨default, 0, false⟩

/-- `match`: the memory after it and what it returns. -/
def matchRequest (memory : Memory go) (request : Request) : Memory go × Selection :=
  match memory.proxy.rule with
  | none => (memory, unmatched)
  | some rule =>
    if rule.val.matches request then
      let matchCount := memory.proxy.matchCount + 1
      let lastInjection := rule.val.occurrence + rule.val.injections - 1
      ({ memory with proxy := { memory.proxy with matchCount } },
        ⟨rule.val, matchCount, rule.val.occurrence ≤ matchCount && matchCount ≤ lastInjection⟩)
    else (memory, unmatched)

/-- `record`. -/
def record (memory : Memory go) (selection : Selection) (request : Request)
    (status : Option ℕ) : Memory go :=
  let sequence := memory.proxy.sequence + 1
  let event : Event :=
    { sequence
      ruleId := selection.rule.id
      phase := selection.rule.phase
      action := selection.rule.action
      method := request.method
      pathSha256 := "sha256:" ++ go.sha256Hex request.escapedPath
      matchNumber := selection.matchNumber
      upstreamStatus := status }
  { memory with proxy := { memory.proxy with sequence, events := memory.proxy.events ++ [event] } }

/-- The locked part of `putRule`: a pause rule gets a channel of its own. -/
def putRule (memory : Memory go) (rule : ValidRule go) : Memory go :=
  let proxy := { memory.proxy with
    rule := some rule, matchCount := 0, events := [], sequence := 0, released := false }
  if rule.val.action = .pauseRequestBody then
    { memory with proxy := { proxy with release := some memory.made }, made := memory.made + 1 }
  else { memory with proxy := { proxy with release := none } }

/-- The locked part of `deleteRule`. -/
def deleteRule (memory : Memory go) : Memory go :=
  { memory with proxy := ⟨none, 0, [], 0, none, false⟩ }

/-- The locked part of `releaseRule`, or `none` for the answer 409. -/
def releaseRule (memory : Memory go) : Option (Memory go) :=
  match memory.proxy.release with
  | none => none
  | some channel =>
    if memory.proxy.released then none
    else some { memory with
      proxy := { memory.proxy with released := true }, closed := channel :: memory.closed }

end Memory

structure Snapshot where
  schemaVersion : String
  rule : Option Rule
  matchCount : UInt64
  events : List Event
  deriving DecidableEq

/-- `snapshot`. -/
def Memory.snapshot (memory : Memory go) : Snapshot :=
  { schemaVersion := "catalog-bench.fault-proxy-state.v1"
    rule := memory.proxy.rule.map (·.val)
    matchCount := memory.proxy.matchCount
    events := memory.proxy.events }

/-! ## What the locked parts do -/

theorem Rule.Validated.window_iff {rule : Rule} (h : rule.Validated) (number : UInt64) :
    rule.Window number ↔
      (rule.occurrence ≤ number && number ≤ rule.occurrence + rule.injections - 1) = true := by
  have hoccurrence := h.occurrence_pos
  have hinjections := h.injections_pos
  have hlast := h.last_lt
  -- the sum may reach 2 ^ 64, and the subtraction takes the wrap back
  have hsum : (rule.occurrence + rule.injections - 1).toNat =
      rule.occurrence.toNat + rule.injections.toNat - 1 := by
    rw [UInt64.toNat_sub, UInt64.toNat_add, UInt64.toNat_one]
    omega
  rw [Bool.and_eq_true, decide_eq_true_eq, decide_eq_true_eq, UInt64.le_iff_toNat_le,
    UInt64.le_iff_toNat_le, hsum, Rule.Window]

namespace Memory

/-- The memory after the `n`-th match of the installed rule. -/
def countMatch (memory : Memory go) : Memory go :=
  { memory with proxy := { memory.proxy with matchCount := memory.proxy.matchCount + 1 } }

/-- Everything that `match` can do. -/
theorem matchRequest_cases (memory : Memory go) (request : Request) :
    (matchRequest memory request = (memory, unmatched) ∧
      ∀ rule ∈ memory.proxy.rule, rule.val.matches request = false) ∨
    ∃ rule inject, memory.proxy.rule = some rule ∧ rule.val.matches request = true ∧
      matchRequest memory request =
        (memory.countMatch, ⟨rule.val, memory.proxy.matchCount + 1, inject⟩) ∧
      (inject = true ↔ rule.val.Window (memory.proxy.matchCount + 1)) := by
  unfold matchRequest
  cases hrule : memory.proxy.rule with
  | none => exact .inl ⟨rfl, by simp⟩
  | some rule =>
    by_cases hmatches : rule.val.matches request = true
    · right
      refine ⟨rule, _, rfl, hmatches, by simp only [hmatches, if_true]; rfl, ?_⟩
      exact ((Rule.validated rule.property).window_iff _).symm
    · left
      simp [hmatches]

variable (memory : Memory go) (selection : Selection) (request : Request) (status : Option ℕ)

@[simp] theorem record_rule :
    (memory.record selection request status).proxy.rule = memory.proxy.rule := rfl

@[simp] theorem record_matchCount :
    (memory.record selection request status).proxy.matchCount = memory.proxy.matchCount := rfl

@[simp] theorem record_release :
    (memory.record selection request status).proxy.release = memory.proxy.release := rfl

@[simp] theorem record_released :
    (memory.record selection request status).proxy.released = memory.proxy.released := rfl

@[simp] theorem record_made : (memory.record selection request status).made = memory.made := rfl

@[simp] theorem record_closed :
    (memory.record selection request status).closed = memory.closed := rfl

@[simp] theorem countMatch_rule : memory.countMatch.proxy.rule = memory.proxy.rule := rfl

@[simp] theorem countMatch_matchCount :
    memory.countMatch.proxy.matchCount = memory.proxy.matchCount + 1 := rfl

@[simp] theorem countMatch_events : memory.countMatch.proxy.events = memory.proxy.events := rfl

@[simp] theorem countMatch_release :
    memory.countMatch.proxy.release = memory.proxy.release := rfl

@[simp] theorem countMatch_released :
    memory.countMatch.proxy.released = memory.proxy.released := rfl

@[simp] theorem countMatch_made : memory.countMatch.made = memory.made := rfl

@[simp] theorem countMatch_closed : memory.countMatch.closed = memory.closed := rfl

theorem record_events : ∃ event : Event, event.matchNumber = selection.matchNumber ∧
    event.ruleId = selection.rule.id ∧
    (memory.record selection request status).proxy.events = memory.proxy.events ++ [event] :=
  ⟨_, rfl, rfl, rfl⟩

@[simp] theorem putRule_rule (rule : ValidRule go) :
    (memory.putRule rule).proxy.rule = some rule := by
  unfold putRule
  split <;> rfl

@[simp] theorem putRule_matchCount (rule : ValidRule go) :
    (memory.putRule rule).proxy.matchCount = 0 := by
  unfold putRule
  split <;> rfl

@[simp] theorem putRule_events (rule : ValidRule go) :
    (memory.putRule rule).proxy.events = [] := by
  unfold putRule
  split <;> rfl

/-- The one way in which `releaseRule` succeeds. -/
theorem releaseRule_eq_some {memory memory' : Memory go} :
    memory.releaseRule = some memory' ↔
      ∃ channel, memory.proxy.release = some channel ∧ memory.proxy.released = false ∧
        memory' = { memory with
          proxy := { memory.proxy with released := true }
          closed := channel :: memory.closed } := by
  unfold releaseRule
  cases hrelease : memory.proxy.release with
  | none => simp
  | some channel => cases hreleased : memory.proxy.released <;> simp [eq_comm]

end Memory

end CatalogBench.FaultProxy
