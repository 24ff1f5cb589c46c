import CatalogBench.Commit.Ledger
import CatalogBench.Commit.Store
import CatalogBench.Library.Interaction
import CatalogBench.Library.Interleaving

/-!
# Contention rounds

`runContentionRound` is a program over the calls of the catalog, the object store and the
clock. Its concurrent phase is one call of that program: what the writers can do, and what
joining them can return, is the relation `ConcurrentPhase`. A run of a round leaves the trace
of its catalog and store calls.
-/

set_option linter.all false

namespace CatalogBench.Commit
open MachineInt Interaction Interaction.Prog

-- ════════════════════════════════
-- Ports
-- ════════════════════════════════

structure TableSnapshot where
  formatVersion : ℕ
  tableUuid : String
  location : String
  metadataLocation : String
  properties : StringMap String
  deriving DecidableEq

inductive ResourcePresence
  | present | absent
  deriving DecidableEq

structure PresenceObservation where
  httpStatus : ℕ
  presence : ResourcePresence
  deriving DecidableEq

structure MutationReceipt where
  httpStatus : ℕ
  deriving DecidableEq

inductive CatalogFailureKind
  | timeout | transport | responseRead | responseTooLarge | unexpectedHttp | malformedResponse
  | harness
  deriving DecidableEq

structure CatalogFailure where
  kind : CatalogFailureKind
  httpStatus : Option ℕ
  detail : String
  deriving DecidableEq

/-- The methods of `CatalogPort` and `MetadataStore`. -/
inductive PortCall
  | namespacePresence
  | tablePresence
  | createNamespace
  | createTable
  | loadTable
  | commit (tableUuid property : String) (identity : RequestIdentity)
  | dropTableWithoutPurge
  | dropNamespace
  | audit (root : TableRoot) (metadataLocation : String)
  deriving DecidableEq

/-- What each method returns. -/
abbrev PortCall.Reply : PortCall → Type
  | .namespacePresence | .tablePresence => Except CatalogFailure PresenceObservation
  | .createNamespace | .dropTableWithoutPurge | .dropNamespace =>
    Except CatalogFailure MutationReceipt
  | .createTable | .loadTable => Except CatalogFailure TableSnapshot
  | .commit _ _ _ => RequestOutcome
  | .audit _ _ => Except ObjectStoreFailure ObjectAuditSnapshot

/-- The calls of a round and the replies it got. -/
abbrev RoundTrace := List (Answered PortCall PortCall.Reply)

-- ════════════════════════════════
-- Configuration and evidence
-- ════════════════════════════════

inductive RoundKind
  | conditioning | measured
  deriving DecidableEq

structure ContentionFixture where
  id : String
  «namespace» : String
  table : String
  deriving DecidableEq

structure RoundWorkload where
  warmupCommits : ℕ
  sequentialCommits : ℕ
  concurrentWriters : ℕ
  concurrentDurationMs : ℕ
  commitProperty : String
  deriving DecidableEq

structure RoundExecutionConfig where
  catalog : String
  repetition : ℕ
  kind : RoundKind
  fixture : ContentionFixture
  workload : RoundWorkload
  objectStoreBucket : String
  deriving DecidableEq

inductive WorkflowError
  | invalidConfiguration (detail : String)
  | model (error : ModelError)
  | writerStartChannelClosed
  | writerTask (detail : String)
  | sequenceOverflow
  | deadlineOverflow
  deriving DecidableEq

def WorkflowError.display : WorkflowError → String
  | .invalidConfiguration detail | .writerTask detail => detail
  | .model error => error.display
  | .writerStartChannelClosed => "concurrent writer start channel closed"
  | .sequenceOverflow => "writer request sequence overflowed u64"
  | .deadlineOverflow => "concurrent deadline overflowed"

structure RoundDescriptor where
  catalog : String
  repetition : ℕ
  kind : RoundKind
  fixture : ContentionFixture
  deriving DecidableEq

inductive RoundClassification
  | pass | fail | fixtureCollision
  deriving DecidableEq

inductive StepFailure
  | catalog (failure : CatalogFailure)
  | objectStore (failure : ObjectStoreFailure)
  | harness (detail : String)
  deriving DecidableEq

inductive OperationEvidence (α : Type)
  | succeeded (output : α)
  | failed (failure : StepFailure)
  | notAttempted (reason : String)
  deriving DecidableEq

namespace OperationEvidence

variable {α : Type}

def catalogFailure (failure : CatalogFailure) : OperationEvidence α := .failed (.catalog failure)

def objectStoreFailure (failure : ObjectStoreFailure) : OperationEvidence α :=
  .failed (.objectStore failure)

def harnessFailure (detail : String) : OperationEvidence α := .failed (.harness detail)

def skipped : OperationEvidence α := .notAttempted "a required predecessor did not complete"

def output : OperationEvidence α → Option α
  | .succeeded output => some output
  | .failed _ | .notAttempted _ => none

def passed : OperationEvidence α → Bool
  | .succeeded _ => true
  | .failed _ | .notAttempted _ => false

/-- The evidence of a catalog call. -/
def ofCatalog : Except CatalogFailure α → OperationEvidence α
  | .ok output => .succeeded output
  | .error failure => .catalogFailure failure

/-- The evidence of a store call. -/
def ofStore : Except ObjectStoreFailure α → OperationEvidence α
  | .ok output => .succeeded output
  | .error failure => .objectStoreFailure failure

end OperationEvidence

structure SetupTableEvidence where
  formatVersion : ℕ
  tableUuid : String
  location : String
  metadataLocation : String
  requestedLocation : Option String
  deriving DecidableEq

def SetupTableEvidence.fromSnapshot (snapshot : TableSnapshot)
    (requestedLocation : Option String) : SetupTableEvidence where
  formatVersion := snapshot.formatVersion
  tableUuid := snapshot.tableUuid
  location := snapshot.location
  metadataLocation := snapshot.metadataLocation
  requestedLocation := requestedLocation

structure FinalStateAttribution where
  propertyPresent : Bool
  requestSha256 : Option RequestDigest
  belongsToAcceptedRequest : Bool
  metadataLocationWithinTableRoot : Bool
  deriving DecidableEq

namespace FinalStateAttribution

def evaluate (crates : Crates) (finalProperty : Option String) (accepted : AcceptedRequests)
    (metadataLocationWithinTableRoot : Bool) : FinalStateAttribution where
  propertyPresent := finalProperty.isSome
  requestSha256 := finalProperty.map (textDigest crates)
  belongsToAcceptedRequest := finalProperty.any (accepted.containsValue crates)
  metadataLocationWithinTableRoot := metadataLocationWithinTableRoot

def passed (attribution : FinalStateAttribution) : Bool :=
  attribution.propertyPresent && attribution.belongsToAcceptedRequest &&
    attribution.metadataLocationWithinTableRoot

end FinalStateAttribution

structure FinalTableEvidence where
  formatVersion : ℕ
  tableUuid : String
  metadataLocation : String
  tableUuidMatchesSetup : Bool
  tableLocationMatchesSetup : Bool
  attribution : FinalStateAttribution
  deriving DecidableEq

def FinalTableEvidence.passed (evidence : FinalTableEvidence) : Bool :=
  evidence.formatVersion = 2 && evidence.tableUuidMatchesSetup &&
    evidence.tableLocationMatchesSetup && evidence.attribution.passed

structure MetadataGrowthEvidence where
  baselineMetadataObjects : ℕ
  finalMetadataObjects : ℕ
  observedGrowth : Option ℕ
  minimumRequiredGrowth : ℕ
  sufficient : Bool
  deriving DecidableEq

def MetadataGrowthEvidence.evaluate (baselineMetadataObjects finalMetadataObjects : ℕ)
    (phaseCounts : List RequestCounts) : Except ModelError MetadataGrowthEvidence :=
  match phaseCounts.foldlM (fun total counts => checkedAdd 64 total counts.accepted) 0 with
  | none => .error .countOverflow
  | some minimumRequiredGrowth =>
    let observedGrowth := checkedSub finalMetadataObjects baselineMetadataObjects
    .ok {
      baselineMetadataObjects := baselineMetadataObjects
      finalMetadataObjects := finalMetadataObjects
      observedGrowth := observedGrowth
      minimumRequiredGrowth := minimumRequiredGrowth
      sufficient := observedGrowth.any (minimumRequiredGrowth ≤ ·) }

structure CleanupEvidence where
  dropTableWithoutPurge : OperationEvidence MutationReceipt
  verifyTableAbsent : OperationEvidence PresenceObservation
  dropNamespace : OperationEvidence MutationReceipt
  verifyNamespaceAbsent : OperationEvidence PresenceObservation
  deriving DecidableEq

namespace CleanupEvidence

def skipped : CleanupEvidence := ⟨.skipped, .skipped, .skipped, .skipped⟩

def passed (cleanup : CleanupEvidence) : Bool :=
  cleanup.dropTableWithoutPurge.passed &&
    cleanup.verifyTableAbsent.output.any (·.presence = .absent) &&
    cleanup.dropNamespace.passed &&
    cleanup.verifyNamespaceAbsent.output.any (·.presence = .absent)

end CleanupEvidence

structure RoundChecks where
  fixtureIsolated : Bool := false
  setupSucceeded : Bool := false
  warmupAccounted : Bool := false
  sequentialAccounted : Bool := false
  sequentialLatencyComplete : Bool := false
  allRequestsAccounted : Bool := false
  zeroRequestErrors : Bool := false
  concurrentProgress : Bool := false
  finalStateAccounted : Bool := false
  metadataPersisted : Bool := false
  fixtureClean : Bool := false
  deriving DecidableEq

def RoundChecks.allPassed (checks : RoundChecks) : Bool :=
  checks.fixtureIsolated && checks.setupSucceeded && checks.warmupAccounted &&
    checks.sequentialAccounted && checks.sequentialLatencyComplete &&
    checks.allRequestsAccounted && checks.zeroRequestErrors && checks.concurrentProgress &&
    checks.finalStateAccounted && checks.metadataPersisted && checks.fixtureClean

structure RoundExecution where
  descriptor : RoundDescriptor
  workload : RoundWorkload
  classification : RoundClassification
  preflight : OperationEvidence PresenceObservation
  createNamespace : OperationEvidence MutationReceipt
  createTable : OperationEvidence SetupTableEvidence
  baselineObjectAudit : OperationEvidence ObjectAuditSnapshot
  warmup : OperationEvidence PhaseEvidence
  sequential : OperationEvidence PhaseEvidence
  concurrent : OperationEvidence PhaseEvidence
  finalTable : OperationEvidence FinalTableEvidence
  finalObjectAudit : OperationEvidence ObjectAuditSnapshot
  metadataGrowth : OperationEvidence MetadataGrowthEvidence
  cleanup : CleanupEvidence
  checks : RoundChecks
  deriving DecidableEq

def serialAccounted (phase : PhaseEvidence) (expected : ℕ) : Bool :=
  phase.counts = { attempts := expected, accepted := expected, conflicts := 0, errors := 0 } &&
    phase.counts.fullyAccounted

/-- Over exact numbers every value is finite, so only the order is left to check. -/
def latencyComplete (phase : PhaseEvidence) (expected : ℕ) : Bool :=
  match phase.latencyMs.all with
  | none => false
  | some distribution =>
    match distribution.quantiles["p50"]?, distribution.quantiles["p95"]?,
        distribution.quantiles["p99"]? with
    | some p50, some p95, some p99 =>
      distribution.samples = expected && distribution.minimum ≤ p50 && p50 ≤ p95 && p95 ≤ p99 &&
        p99 ≤ distribution.maximum
    | _, _, _ => false

/-- An audit that found metadata objects, the referenced one among them. -/
def usableAudit (audit : ObjectAuditSnapshot) : Bool :=
  0 < audit.metadataObjects && audit.referencedMetadataExists

def evaluateChecks (execution : RoundExecution) : RoundChecks where
  fixtureIsolated := execution.preflight.output.any (·.presence = .absent)
  setupSucceeded := execution.createNamespace.passed && execution.createTable.passed &&
    execution.baselineObjectAudit.output.any usableAudit
  warmupAccounted :=
    execution.warmup.output.any (serialAccounted · execution.workload.warmupCommits)
  sequentialAccounted :=
    execution.sequential.output.any (serialAccounted · execution.workload.sequentialCommits)
  sequentialLatencyComplete :=
    execution.sequential.output.any (latencyComplete · execution.workload.sequentialCommits)
  allRequestsAccounted := execution.concurrent.output.any fun phase =>
    phase.counts.fullyAccounted &&
      (phase.latencyMs.all.map (·.samples)).getD 0 = phase.counts.attempts
  zeroRequestErrors := execution.concurrent.output.any (·.counts.errors = 0)
  concurrentProgress := execution.concurrent.output.any PhaseEvidence.madeProgress
  finalStateAccounted := execution.finalTable.output.any FinalTableEvidence.passed
  metadataPersisted := execution.metadataGrowth.output.any (·.sufficient) &&
    execution.finalObjectAudit.output.any (·.referencedMetadataExists)
  fixtureClean := execution.cleanup.passed

namespace RoundExecution

def pending (config : RoundExecutionConfig) : RoundExecution where
  descriptor := {
    catalog := config.catalog
    repetition := config.repetition
    kind := config.kind
    fixture := config.fixture }
  workload := config.workload
  classification := .fail
  preflight := .skipped
  createNamespace := .skipped
  createTable := .skipped
  baselineObjectAudit := .skipped
  warmup := .skipped
  sequential := .skipped
  concurrent := .skipped
  finalTable := .skipped
  finalObjectAudit := .skipped
  metadataGrowth := .skipped
  cleanup := .skipped
  checks := {}

def finalize (execution : RoundExecution) (fixtureCollision : Bool) : RoundExecution :=
  let checks := evaluateChecks execution
  { execution with
    checks := checks
    classification :=
      if fixtureCollision then .fixtureCollision
      else if checks.allPassed then .pass
      else .fail }

def passed (execution : RoundExecution) : Bool :=
  execution.classification = .pass && execution.checks.allPassed

end RoundExecution

-- ════════════════════════════════
-- Phases
-- ════════════════════════════════

/-- The calls of the program: a method, a reading of the clock, or the whole concurrent phase. -/
inductive RoundCall
  | port (method : PortCall)
  | now
  | concurrentPhase (tableUuid : String)

abbrev RoundCall.Reply : RoundCall → Type
  | .port method => method.Reply
  | .now => Duration
  | .concurrentPhase _ => Except WorkflowError (PhaseEvidence × AcceptedRequests)

abbrev RoundProg := Prog RoundCall RoundCall.Reply

/-- Issue one method. -/
def issue (method : PortCall) : RoundProg method.Reply := ask (RoundCall.port method)

def requestIdentity (config : RoundExecutionConfig) (phase : String) (writer : Option ℕ)
    (sequence : ℕ) : Except WorkflowError RequestIdentity :=
  let writer := match writer with
    | some writer => "/" ++ toString writer
    | none => ""
  (RequestIdentity.new (config.catalog ++ "/" ++ config.fixture.id ++ "/" ++
    toString config.repetition ++ "/" ++ phase ++ writer ++ "/" ++ toString sequence)).mapError
    WorkflowError.model

/-- Issue one commit, time it and record it. -/
def recordedCommit (crates : Crates) (config : RoundExecutionConfig) (tableUuid : String)
    (identity : RequestIdentity) (started : Duration) (ledger : RequestLedger) :
    RoundProg (Except WorkflowError RequestLedger) := do
  let outcome ← issue (.commit tableUuid config.workload.commitProperty identity)
  let finished ← ask RoundCall.now
  match ledger.record crates identity (finished - started) outcome with
  | (.ok _, ledger) => return .ok ledger
  | (.error error, _) => return .error (.model error)

section Serial

variable (crates : Crates) (config : RoundExecutionConfig) (phase tableUuid : String)

/-- The loop of `run_serial_phase`, with the number of commits still to issue. -/
def runSerialCommits : (remaining sequence : ℕ) → RequestLedger →
    RoundProg (Except WorkflowError RequestLedger)
  | 0, _, ledger => return .ok ledger
  | remaining + 1, sequence, ledger =>
    match requestIdentity config phase none sequence with
    | .error error => return .error error
    | .ok identity => do
      let started ← ask RoundCall.now
      match ← recordedCommit crates config tableUuid identity started ledger with
      | .error error => return .error error
      | .ok ledger => runSerialCommits remaining (sequence + 1) ledger

def runSerialPhase (attempts : ℕ) :
    RoundProg (Except WorkflowError (PhaseEvidence × AcceptedRequests)) := do
  let started ← ask RoundCall.now
  match ← runSerialCommits crates config phase tableUuid attempts 0 {} with
  | .error error => return .error error
  | .ok ledger =>
    let finished ← ask RoundCall.now
    return (ledger.finish crates (finished - started)).mapError WorkflowError.model

end Serial

section Concurrent

variable (crates : Crates) (config : RoundExecutionConfig) (tableUuid : String)

/-- One turn of a writer's loop: go on with the next sequence number or return. -/
def writerTurn (writer : ℕ) (deadline : Duration) (state : ℕ × RequestLedger) :
    RoundProg ((ℕ × RequestLedger) ⊕ Except WorkflowError RequestLedger) := do
  let (sequence, ledger) := state
  match requestIdentity config "concurrent" (some writer) sequence with
  | .error error => return .inr (.error error)
  | .ok identity =>
    let started ← ask RoundCall.now
    if started ≥ deadline then return .inr (.ok ledger)
    else
      match ← recordedCommit crates config tableUuid identity started ledger with
      | .error error => return .inr (.error error)
      | .ok ledger =>
        match checkedAdd 64 sequence 1 with
        | some sequence => return .inl (sequence, ledger)
        | none => return .inr (.error .sequenceOverflow)

end Concurrent

/-- Join one writer into the ledger merged so far. A failed merge or writer does not stop the
loop, but the first failure is kept. -/
def joinWriter (state : RequestLedger × Option WorkflowError)
    (result : Except WorkflowError RequestLedger) : RequestLedger × Option WorkflowError :=
  match result with
  | .ok ledger =>
    match state.1.tryMerge ledger with
    | (.ok _, merged) => (merged, state.2)
    | (.error error, merged) => (merged, state.2.or (some (.model error)))
  | .error error => (state.1, state.2.or (some error))

/-- The loop that joins the writers, in the order in which they end. -/
def joinWriters (results : List (Except WorkflowError RequestLedger)) :
    RequestLedger × Option WorkflowError :=
  results.foldl joinWriter ({}, none)

def joinedPhase (crates : Crates) (results : List (Except WorkflowError RequestLedger))
    (elapsed : Duration) : Except WorkflowError (PhaseEvidence × AcceptedRequests) :=
  match joinWriters results with
  | (_, some error) => .error error
  | (merged, none) => (merged.finish crates elapsed).mapError WorkflowError.model

/-- Methods are recorded, the clock is not. -/
def clockedStep (tr : RoundTrace) (c : RoundCall) (r : c.Reply) (tr' : RoundTrace) : Prop :=
  match c, r with
  | .port method, r => tr' = tr ++ [⟨method, r⟩]
  | .now, _ => tr' = tr
  | .concurrentPhase _, _ => False

/-- What one writer can return, and the calls it made. -/
inductive WriterRun (crates : Crates) (config : RoundExecutionConfig) (tableUuid : String)
    (deadline : Duration) (writer : ℕ) : Except WorkflowError RequestLedger → RoundTrace → Prop
  | returned {result calls} :
      Iterate clockedStep (writerTurn crates config tableUuid writer deadline) [] (0, {}) result
        calls →
      WriterRun crates config tableUuid deadline writer result calls
  /-- The task ended without a result. -/
  | failed {detail calls} :
      Interrupted clockedStep (writerTurn crates config tableUuid writer deadline) [] (0, {})
        calls →
      WriterRun crates config tableUuid deadline writer
        (.error (.writerTask ("concurrent writer task failed: " ++ detail))) calls

/-- What `run_concurrent_phase` can return, and the calls its writers made. -/
inductive ConcurrentPhase (crates : Crates) (config : RoundExecutionConfig) (tableUuid : String) :
    Except WorkflowError (PhaseEvidence × AcceptedRequests) → RoundTrace → Prop
  /-- The deadline lies beyond the clock's range; no writer is told to start. -/
  | deadlineOverflow : ConcurrentPhase crates config tableUuid (.error .deadlineOverflow) []
  /-- There is no writer left to tell. -/
  | noWriters : config.workload.concurrentWriters = 0 →
      ConcurrentPhase crates config tableUuid (.error .writerStartChannelClosed) []
  /-- The writers run at once and are joined in any order. -/
  | joined {deadline elapsed results order} {traces : List RoundTrace} {calls} :
      0 < config.workload.concurrentWriters →
      results.length = config.workload.concurrentWriters →
      traces.length = config.workload.concurrentWriters →
      (∀ writer result trace, results[writer]? = some result → traces[writer]? = some trace →
        WriterRun crates config tableUuid deadline writer result trace) →
      order.Perm results → Interleaving traces calls →
      ConcurrentPhase crates config tableUuid (joinedPhase crates order elapsed) calls

/-- The world of a round: every method may return anything. -/
def roundStep (crates : Crates) (config : RoundExecutionConfig) (tr : RoundTrace) (c : RoundCall)
    (r : c.Reply) (tr' : RoundTrace) : Prop :=
  match c, r with
  | .port method, r => tr' = tr ++ [⟨method, r⟩]
  | .now, _ => tr' = tr
  | .concurrentPhase tableUuid, r =>
    ∃ calls, tr' = tr ++ calls ∧ ConcurrentPhase crates config tableUuid r calls

-- ════════════════════════════════
-- Rounds
-- ════════════════════════════════

def cleanup : RoundProg CleanupEvidence := do
  let dropTableWithoutPurge ← issue .dropTableWithoutPurge
  let verifyTableAbsent ← issue .tablePresence
  let dropNamespace ← issue .dropNamespace
  let verifyNamespaceAbsent ← issue .namespacePresence
  return {
    dropTableWithoutPurge := .ofCatalog dropTableWithoutPurge
    verifyTableAbsent := .ofCatalog verifyTableAbsent
    dropNamespace := .ofCatalog dropNamespace
    verifyNamespaceAbsent := .ofCatalog verifyNamespaceAbsent }

/-- How every round ends that has tried to create its fixture. -/
def conclude (execution : RoundExecution) : RoundProg RoundExecution := do
  let cleanup ← cleanup
  return { execution with cleanup := cleanup }.finalize false

/-- The evidence of a phase, and the accepted requests so far if the round can go on. -/
def recordPhase (accepted : AcceptedRequests)
    (result : Except WorkflowError (PhaseEvidence × AcceptedRequests)) :
    OperationEvidence PhaseEvidence × Option AcceptedRequests :=
  match result with
  | .ok (phase, phaseAccepted) =>
    match accepted.tryExtend phaseAccepted with
    | .ok accepted => (.succeeded phase, some accepted)
    | .error error => (.harnessFailure error.display, none)
  | .error error => (.harnessFailure error.display, none)

def growthEvidence (execution : RoundExecution) (baseline : ObjectAuditSnapshot) :
    OperationEvidence MetadataGrowthEvidence :=
  match execution.warmup.output, execution.sequential.output, execution.concurrent.output,
      execution.finalObjectAudit.output with
  | some warmup, some sequential, some concurrent, some audit =>
    match MetadataGrowthEvidence.evaluate baseline.metadataObjects audit.metadataObjects
        [warmup.counts, sequential.counts, concurrent.counts] with
    | .ok growth => .succeeded growth
    | .error error => .harnessFailure error.display
  | _, _, _, _ => .skipped

section Round

variable (crates : Crates) (config : RoundExecutionConfig)

/-- The final observations, once all three phases are recorded. -/
def observeFinalState (created : TableSnapshot) (root : TableRoot) (baseline : ObjectAuditSnapshot)
    (accepted : AcceptedRequests) (execution : RoundExecution) : RoundProg RoundExecution := do
  match ← issue .loadTable with
  | .error failure => conclude { execution with finalTable := .catalogFailure failure }
  | .ok final =>
    let finalProperty := final.properties[config.workload.commitProperty]?
    let attribution := FinalStateAttribution.evaluate crates finalProperty accepted
      (root.containsMetadataLocation crates final.metadataLocation)
    let execution := { execution with finalTable := .succeeded {
      formatVersion := final.formatVersion
      tableUuid := final.tableUuid
      metadataLocation := final.metadataLocation
      tableUuidMatchesSetup := final.tableUuid = created.tableUuid
      tableLocationMatchesSetup := final.location = created.location
      attribution := attribution } }
    let audit ← issue (.audit root final.metadataLocation)
    let execution := { execution with finalObjectAudit := .ofStore audit }
    conclude { execution with metadataGrowth := growthEvidence execution baseline }

/-- The three phases, each of which must be recorded before the next one starts. -/
def runPhases (created : TableSnapshot) (root : TableRoot) (baseline : ObjectAuditSnapshot)
    (execution : RoundExecution) : RoundProg RoundExecution := do
  let warmup ← runSerialPhase crates config "warmup" created.tableUuid
    config.workload.warmupCommits
  let (evidence, accepted) := recordPhase {} warmup
  let execution := { execution with warmup := evidence }
  let some accepted := accepted | conclude execution
  let sequential ← runSerialPhase crates config "sequential" created.tableUuid
    config.workload.sequentialCommits
  let (evidence, accepted) := recordPhase accepted sequential
  let execution := { execution with sequential := evidence }
  let some accepted := accepted | conclude execution
  let concurrent ← ask (RoundCall.concurrentPhase created.tableUuid)
  let (evidence, accepted) := recordPhase accepted concurrent
  let execution := { execution with concurrent := evidence }
  let some accepted := accepted | conclude execution
  observeFinalState crates config created root baseline accepted execution

def runContentionRound (requestedLocation : Option String) : RoundProg RoundExecution := do
  let execution := RoundExecution.pending config
  match ← issue .namespacePresence with
  | .error failure =>
    return { execution with preflight := .catalogFailure failure }.finalize false
  | .ok observation =>
  let execution := { execution with preflight := .succeeded observation }
  if observation.presence = .present then return execution.finalize true
  else
  match ← issue .createNamespace with
  | .error failure => conclude { execution with createNamespace := .catalogFailure failure }
  | .ok receipt =>
  let execution := { execution with createNamespace := .succeeded receipt }
  match ← issue .createTable with
  | .error failure => conclude { execution with createTable := .catalogFailure failure }
  | .ok created =>
  let execution := { execution with
    createTable := .succeeded (.fromSnapshot created requestedLocation) }
  match TableRoot.new crates created.location created.metadataLocation
      config.objectStoreBucket with
  | .error failure =>
    conclude { execution with baselineObjectAudit := .objectStoreFailure failure }
  | .ok root =>
  match ← issue (.audit root created.metadataLocation) with
  | .error failure =>
    conclude { execution with baselineObjectAudit := .objectStoreFailure failure }
  | .ok baseline =>
  let execution := { execution with baselineObjectAudit := .succeeded baseline }
  if !usableAudit baseline then conclude execution
  else runPhases crates config created root baseline execution

end Round

end CatalogBench.Commit
