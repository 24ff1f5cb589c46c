import CatalogBench.Engine.Decoding
import CatalogBench.Engine.Policy

/-!
# Process evidence

The terminal classification shared by all engine adapters. An engine run inside the harness
process hands over its exit code and events directly; `Settled` describes the pairs a correct
child can hand over, and `Settled.fromTerminal` what the classification makes of them.
-/

set_option linter.all false

namespace CatalogBench.Engine

def successExit : ℤ := 0
def failureExit : ℤ := 2
def fixtureCollisionExit : ℤ := 3

inductive EngineCredentialKind
  | objectStoreAccessKey | objectStoreSecretKey | catalogClientId | catalogClientSecret
  deriving DecidableEq

inductive EngineCredentialFailureKind
  | missing | empty | unreadable
  deriving DecidableEq

structure EngineCredentialFailure where
  credential : EngineCredentialKind
  kind : EngineCredentialFailureKind
  deriving DecidableEq

inductive EnginePreparationFailureKind
  | executionPlanMismatch | renderPlan | temporaryDirectory | encodePlan | writePlan
  | writeRenderer | createLocalDirectory
  deriving DecidableEq

inductive EngineProcessOutcome
  | runtimeRejected
  | credentialRejected (failure : EngineCredentialFailure)
  | preparationFailed (kind : EnginePreparationFailureKind)
  | spawnFailed
  | timedOut
  | stdoutFailed
  | waitFailed
  | protocolRejected (kind : EngineProtocolFailureKind)
  | exitProtocolMismatch
  | completed
  | fixtureCollision
  | engineFailed (stage : EngineStage) (category : EngineFailureCategory)
  deriving DecidableEq

def EngineProcessOutcome.fromTerminal (exitCode : Option ℤ) (capture : EngineEventCapture) :
    EngineProcessOutcome :=
  if exitCode = some successExit ∧ capture.completed then .completed
  else if exitCode = some fixtureCollisionExit ∧ capture.fixtureCollision then .fixtureCollision
  else if exitCode = some failureExit then
    match capture.engineFailure with
    | some (stage, category) => .engineFailed stage category
    | none => .exitProtocolMismatch
  else .exitProtocolMismatch

structure RuntimePlatformObservation where
  expectedOperatingSystem : String
  observedOperatingSystem : String
  operatingSystemMatches : Bool
  expectedArchitecture : String
  observedArchitecture : String
  architectureMatches : Bool
  deriving DecidableEq

inductive RuntimeArtifactUnavailableKind
  | missing | notAFile | «open» | read
  deriving DecidableEq

inductive RuntimeArtifactOutcome
  | «match» (observedBytes : ℕ) (observedSha256 : String)
  | mismatch (observedBytes : ℕ) (observedSha256 : String) (bytesMatch sha256Matches : Bool)
  | unavailable (kind : RuntimeArtifactUnavailableKind)
  deriving DecidableEq

structure RuntimeArtifactObservation where
  location : String
  mediaType : String
  components : List ComponentId
  expectedBytes : ℕ
  expectedSha256 : String
  outcome : RuntimeArtifactOutcome
  deriving DecidableEq

structure RuntimeVerification where
  platform : RuntimePlatformObservation
  artifacts : List RuntimeArtifactObservation
  deriving DecidableEq

structure EngineProcessExecution where
  runtime : RuntimeVerification
  outcome : EngineProcessOutcome
  capture : Option EngineEventCapture
  exitCode : Option ℤ
  processElapsedMicros : Option ℕ
  deriving DecidableEq

namespace EngineProcessExecution

def beforeProcess (runtime : RuntimeVerification) (outcome : EngineProcessOutcome) :
    EngineProcessExecution where
  runtime := runtime
  outcome := outcome
  capture := none
  exitCode := none
  processElapsedMicros := none

def fromInProcessEvents (runtime : RuntimeVerification) (exitCode : ℤ)
    (events : List EngineEvent) (processElapsedMicros : ℕ) : EngineProcessExecution :=
  let capture : EngineEventCapture :=
    { events := events, failure := none, stdoutBytesObserved := 0 }
  { runtime := runtime
    outcome := .fromTerminal (some exitCode) capture
    capture := some capture
    exitCode := some exitCode
    processElapsedMicros := some processElapsedMicros }

def passed (execution : EngineProcessExecution) : Bool :=
  execution.outcome = .completed && execution.exitCode = some successExit &&
    execution.capture.any EngineEventCapture.completed

def cleanupAuthorized (execution : EngineProcessExecution) : Bool :=
  execution.outcome ≠ .fixtureCollision &&
    execution.capture.any EngineEventCapture.cleanupAuthorized

def fixtureCollision (execution : EngineProcessExecution) : Bool :=
  execution.outcome = .fixtureCollision && execution.exitCode = some fixtureCollisionExit &&
    execution.capture.any EngineEventCapture.fixtureCollision

end EngineProcessExecution

-- ════════════════════════════════
-- Children that keep to the protocol
-- ════════════════════════════════

/-- The first `k` stages succeeded. -/
def Progress (k : ℕ) (events : List EngineEvent) : Prop :=
  List.Forall₂ Succeeds (EngineStage.order.take k) events

theorem Progress.start : Progress 0 [] := .nil

theorem Progress.push {k : ℕ} {events : List EngineEvent} (h : Progress k events)
    {stage : EngineStage} (hstage : EngineStage.order[k]? = some stage) (event : EngineEvent)
    (hevent : Succeeds stage event) : Progress (k + 1) (events ++ [event]) := by
  obtain ⟨hlt, rfl⟩ := List.getElem?_eq_some_iff.mp hstage
  unfold Progress
  rw [List.take_succ_eq_append_getElem hlt]
  exact List.rel_append h (.cons hevent .nil)

/-- What a child that keeps to the protocol exits with. -/
inductive Settled : ℤ → List EngineEvent → Prop
  | completed {events : List EngineEvent} :
      Progress EngineStage.order.length events → Settled successExit (events ++ [EngineEvent.completed])
  | failed {k : ℕ} {events : List EngineEvent} {stage : EngineStage}
      {category : EngineFailureCategory} :
      EngineStage.order[k]? = some stage → Progress k events →
      Settled failureExit (events ++ [EngineEvent.failed stage category])
  | collision {runtime : EngineRuntimeObservation} :
      Settled fixtureCollisionExit
        [.runtimeReady runtime, .catalogReady, .fixturePreflight false]

theorem Settled.eventWord {exitCode : ℤ} {events : List EngineEvent}
    (h : Settled exitCode events) : EventWord events := by
  cases h with
  | completed hs => exact .completed hs
  | failed hk hs => exact .failed hk hs
  | collision => exact .collision

/-- What the last event of a word says about the run. -/
def Verdict (event : EngineEvent) (outcome : EngineProcessOutcome) : Prop :=
  match event with
  | .completed => outcome = .completed
  | .fixturePreflight false => outcome = .fixtureCollision
  | .failed stage category => outcome = .engineFailed stage category
  | _ => False

/-- A settled child is classified by its last event. -/
theorem Settled.fromTerminal {exitCode : ℤ} {events : List EngineEvent}
    (h : Settled exitCode events) {capture : EngineEventCapture}
    (hevents : capture.events = events) (hok : capture.failure = none) :
    ∃ last, events.getLast? = some last ∧
      Verdict last (.fromTerminal (some exitCode) capture) := by
  subst hevents
  unfold EngineProcessOutcome.fromTerminal
  generalize hes : capture.events = events at h
  cases h with
  | completed hs =>
    refine ⟨.completed, by simp, ?_⟩
    have hdone : capture.completed = true := by simp [EngineEventCapture.completed, hok, hes]
    rw [if_pos ⟨rfl, hdone⟩]
    rfl
  | @failed _ _ stage category hk hs =>
    refine ⟨.failed stage category, by simp, ?_⟩
    have hlast : capture.engineFailure = some (stage, category) := by
      simp [EngineEventCapture.engineFailure, hok, hes]
    rw [if_neg (by simp [failureExit, successExit]),
      if_neg (by simp [failureExit, fixtureCollisionExit]), if_pos rfl, hlast]
    rfl
  | collision =>
    refine ⟨.fixturePreflight false, by simp, ?_⟩
    have hfound : capture.fixtureCollision = true := by
      simp [EngineEventCapture.fixtureCollision, hok, hes]
    rw [if_neg (by simp [fixtureCollisionExit, successExit]), if_pos ⟨rfl, hfound⟩]
    rfl

end CatalogBench.Engine
