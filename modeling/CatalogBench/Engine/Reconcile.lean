import CatalogBench.Commit.Store
import CatalogBench.Engine.Execution

/-!
# Reconciliation of an engine run

The evidence an engine run leaves behind and the thirteen checks that compare what the engine
reported with the plan, with the independently loaded table and with the object store.
-/

set_option linter.all false

namespace CatalogBench.Engine
open MachineInt CatalogBench.Commit

-- ════════════════════════════════
-- Evidence
-- ════════════════════════════════

inductive EngineCatalogFailureKind
  | route | timeout | transport | responseRead | responseTooLarge | unexpectedHttp
  | malformedResponse | harness
  deriving DecidableEq

structure EngineCatalogFailure where
  kind : EngineCatalogFailureKind
  httpStatus : Option ℕ
  deriving DecidableEq

structure EngineCatalogTable where
  currentSchemaId : ℤ
  table : EngineTableObservation
  deriving DecidableEq

inductive EngineTableLoad
  | present (httpStatus responseBytes : ℕ) (state : EngineCatalogTable)
  | absent (httpStatus responseBytes : ℕ)
  deriving DecidableEq

structure EngineCleanupReceipt where
  httpStatus : ℕ
  responseBytes : ℕ
  alreadyAbsent : Bool
  deriving DecidableEq

inductive EngineResourcePresence
  | present (httpStatus responseBytes : ℕ)
  | absent (httpStatus responseBytes : ℕ)
  deriving DecidableEq

def EngineResourcePresence.isAbsent : EngineResourcePresence → Bool
  | .absent _ _ => true
  | .present _ _ => false

inductive AdapterRequestHandling
  | protocolNative
  | behaviorChangingShim (component : ComponentId) (description : String)
  deriving DecidableEq

structure TranscriptAdapter where
  catalog : ComponentId
  name : String
  version : String
  protocol : CatalogProtocol
  requestHandling : AdapterRequestHandling
  deriving DecidableEq

inductive AuthenticationOutcome
  | ready | failed | notAttempted
  deriving DecidableEq

inductive ProbeFailureStage
  | authentication | request | response
  deriving DecidableEq

inductive EngineAuthenticationMode
  | anonymous | oAuth2ClientCredentials
  deriving DecidableEq

structure EngineAuthenticationEvidence where
  mode : EngineAuthenticationMode
  outcome : AuthenticationOutcome
  httpStatus : Option ℕ
  deriving DecidableEq

inductive EngineRoutingResolution
  | unprefixed | static | negotiated | default | configured | failed | notEvaluated
  deriving DecidableEq

structure EngineCatalogConfigEvidence where
  httpStatus : Option ℕ
  responseBytes : Option ℕ
  routePrefix : EngineRoutingResolution
  namespaceSeparator : EngineRoutingResolution
  failureStage : Option ProbeFailureStage
  deriving DecidableEq

structure EngineCatalogNegotiationEvidence where
  adapter : TranscriptAdapter
  authentication : EngineAuthenticationEvidence
  config : EngineCatalogConfigEvidence
  redactionsObserved : ℕ
  deriving DecidableEq

inductive EngineSkipReason
  | processDidNotOwnFixture | fixtureCollision | catalogUnavailable | tableUnavailable
  deriving DecidableEq

inductive EngineOperationFailure
  | catalog (failure : EngineCatalogFailure)
  | objectStore (kind : ObjectStoreFailureKind)
  deriving DecidableEq

inductive EngineOperationEvidence (α : Type)
  | succeeded (output : α)
  | failed (failure : EngineOperationFailure)
  | skipped (reason : EngineSkipReason)
  deriving DecidableEq

namespace EngineOperationEvidence

variable {α : Type}

def output : EngineOperationEvidence α → Option α
  | .succeeded output => some output
  | .failed _ | .skipped _ => none

def passed : EngineOperationEvidence α → Bool
  | .succeeded _ => true
  | .failed _ | .skipped _ => false

def ofCatalog : Except EngineCatalogFailure α → EngineOperationEvidence α
  | .ok output => .succeeded output
  | .error failure => .failed (.catalog failure)

def ofObjectStore : Except ObjectStoreFailure α → EngineOperationEvidence α
  | .ok output => .succeeded output
  | .error failure => .failed (.objectStore failure.kind)

end EngineOperationEvidence

inductive EngineCatalogConnectionFailureKind
  | setup | authentication | config | routing | fixtureRoute
  deriving DecidableEq

structure EngineCatalogConnectionFailure where
  kind : EngineCatalogConnectionFailureKind
  deriving DecidableEq

inductive EngineCatalogConnectionEvidence
  | notAttempted (reason : EngineSkipReason)
  | ready (negotiation : EngineCatalogNegotiationEvidence)
  | failed (negotiation : Option EngineCatalogNegotiationEvidence)
      (failure : EngineCatalogConnectionFailure)
  deriving DecidableEq

structure EngineCleanupEvidence where
  dropTableWithoutPurge : EngineOperationEvidence EngineCleanupReceipt
  verifyTableAbsent : EngineOperationEvidence EngineResourcePresence
  dropNamespace : EngineOperationEvidence EngineCleanupReceipt
  verifyNamespaceAbsent : EngineOperationEvidence EngineResourcePresence
  deriving DecidableEq

namespace EngineCleanupEvidence

def skipped (reason : EngineSkipReason) : EngineCleanupEvidence where
  dropTableWithoutPurge := .skipped reason
  verifyTableAbsent := .skipped reason
  dropNamespace := .skipped reason
  verifyNamespaceAbsent := .skipped reason

def passed (cleanup : EngineCleanupEvidence) : Bool :=
  cleanup.dropTableWithoutPurge.passed &&
    cleanup.verifyTableAbsent.output.any EngineResourcePresence.isAbsent &&
    cleanup.dropNamespace.passed &&
    cleanup.verifyNamespaceAbsent.output.any EngineResourcePresence.isAbsent

end EngineCleanupEvidence

inductive EngineBehaviorClassification
  | pass | fail | fixtureCollision
  deriving DecidableEq

structure EngineBehaviorChecks where
  engineRuntimePinned : Bool := false
  stockRestCatalogReady : Bool := false
  fixtureIsolated : Bool := false
  namespaceRoundTrip : Bool := false
  tableRoundTrip : Bool := false
  initialAppendCommitted : Bool := false
  initialReadExact : Bool := false
  schemaEvolved : Bool := false
  evolvedAppendCommitted : Bool := false
  evolvedReadExact : Bool := false
  catalogStateCorrelated : Bool := false
  sharedObjectEvidenceComplete : Bool := false
  fixtureClean : Bool := false
  deriving DecidableEq

def EngineBehaviorChecks.allPassed (checks : EngineBehaviorChecks) : Bool :=
  checks.engineRuntimePinned && checks.stockRestCatalogReady && checks.fixtureIsolated &&
    checks.namespaceRoundTrip && checks.tableRoundTrip && checks.initialAppendCommitted &&
    checks.initialReadExact && checks.schemaEvolved && checks.evolvedAppendCommitted &&
    checks.evolvedReadExact && checks.catalogStateCorrelated &&
    checks.sharedObjectEvidenceComplete && checks.fixtureClean

structure EngineExecution where
  process : EngineProcessExecution
  catalogConnection : EngineCatalogConnectionEvidence
  catalogState : EngineOperationEvidence EngineTableLoad
  objectState : EngineOperationEvidence TableObjectAuditSnapshot
  cleanup : EngineCleanupEvidence
  checks : EngineBehaviorChecks
  classification : EngineBehaviorClassification
  deriving DecidableEq

-- ════════════════════════════════
-- What the events say
-- ════════════════════════════════

/-- The last observation of each kind. -/
structure EventObservations where
  runtime : Option EngineRuntimeObservation := none
  catalogReady : Bool := false
  fixtureAbsent : Bool := false
  namespaceListedExactly : Bool := false
  tableReady : Option EngineTableObservation := none
  initialSnapshots : Option ℕ := none
  initialRead : Option RowReadObservation := none
  schemaEvolved : Option EngineTableObservation := none
  evolvedSnapshots : Option ℕ := none
  evolvedRead : Option RowReadObservation := none
  finalTable : Option EngineTableObservation := none
  deriving DecidableEq

namespace EventObservations

def observe (observations : EventObservations) : EngineEvent → EventObservations
  | .runtimeReady runtime => { observations with runtime := some runtime }
  | .catalogReady => { observations with catalogReady := true }
  | .fixturePreflight absent => { observations with fixtureAbsent := absent }
  | .namespaceReady listedExactly => { observations with namespaceListedExactly := listedExactly }
  | .tableReady table => { observations with tableReady := some table }
  | .initialAppended snapshots => { observations with initialSnapshots := some snapshots }
  | .initialRead read => { observations with initialRead := some read }
  | .schemaEvolved table => { observations with schemaEvolved := some table }
  | .evolvedAppended snapshots => { observations with evolvedSnapshots := some snapshots }
  | .evolvedRead read => { observations with evolvedRead := some read }
  | .finalTable table => { observations with finalTable := some table }
  | .completed | .failed _ _ => observations

def fromExecution (execution : EngineProcessExecution) : EventObservations :=
  match execution.capture with
  | none => {}
  | some capture => capture.events.foldl observe {}

end EventObservations

-- ════════════════════════════════
-- Checks
-- ════════════════════════════════

/-- `value.trim().to_ascii_lowercase()`. -/
def trimLower (value : String) : String :=
  String.ofList ((((value.toList.dropWhile isWhiteSpace).reverse.dropWhile isWhiteSpace).reverse).map
    Char.toLower)

def normalizeOperatingSystem (value : String) : String :=
  let value := trimLower value
  if value = "macos" || value = "darwin" then "macos" else value

def operatingSystemMatches (expected observed : String) : Bool :=
  normalizeOperatingSystem expected = normalizeOperatingSystem observed

def normalizeArchitecture (value : String) : String :=
  let value := trimLower value
  if value = "aarch64" || value = "arm64" then "arm64"
  else if value = "x86_64" || value = "amd64" then "amd64"
  else value

def architectureMatches (expected observed : String) : Bool :=
  normalizeArchitecture expected = normalizeArchitecture observed

def engineField (field : IcebergField) : EngineFieldObservation where
  id := field.id
  name := field.name
  required := field.required
  fieldType := field.fieldType

def expectedInitialFields (plan : InteroperabilityPlan) : List EngineFieldObservation :=
  plan.scenario.table.schema.fields.map engineField

def lastFieldId (fields : List EngineFieldObservation) : Option ℤ := (fields.map (·.id)).max?

def expectedEvolvedFields (plan : InteroperabilityPlan) : Option (List EngineFieldObservation) := do
  let fields := expectedInitialFields plan
  let id ← checkedSignedAdd 32 (← lastFieldId fields) 1
  let evolved := plan.scenario.schemaEvolution.field
  return fields ++
    [{ id := id, name := evolved.name, required := evolved.required, fieldType := evolved.fieldType }]

/-- Every property of the scenario reported as matching, and no other. -/
def expectedProperties (plan : InteroperabilityPlan) : StringMap EnginePropertyObservation :=
  .ofList (plan.scenario.table.properties.keys.map fun key => (key, .match)) _

def tableMatchesShape (crates : Crates) (plan : InteroperabilityPlan)
    (table : EngineTableObservation) (fields : List EngineFieldObservation) (lastColumnId : ℤ)
    (snapshots : ℕ) : Bool :=
  table.formatVersion = 2 && table.lastColumnId = lastColumnId && table.schema = fields &&
    table.snapshots = snapshots && table.properties = expectedProperties plan &&
    (crates.parseUuid table.tableUuid).any (fun uuid => !uuid.isNil) &&
    (TableRoot.new crates table.location table.metadataLocation plan.objectStore.bucket).isOk &&
    plan.fixture.requestedLocation.all (· = table.location)

def tableIdentityPreserved (previous current : EngineTableObservation) : Bool :=
  previous.tableUuid = current.tableUuid && previous.location = current.location &&
    previous.metadataLocation ≠ current.metadataLocation

def readMatches (read : RowReadObservation) (expected : CanonicalRead) : Bool :=
  read.rows = expected.rows && read.bytes = expected.bytes && read.sha256 = expected.sha256

def catalogConnectionMatches (plan : InteroperabilityPlan) (execution : EngineExecution) : Bool :=
  match execution.catalogConnection with
  | .ready negotiation =>
    negotiation.adapter.catalog = plan.catalog.id &&
      negotiation.adapter.name = plan.catalog.name &&
      negotiation.adapter.version = plan.catalog.version &&
      negotiation.adapter.protocol = plan.scenario.catalogProtocol &&
      negotiation.adapter.requestHandling = .protocolNative &&
      negotiation.authentication.outcome = .ready &&
      negotiation.config.failureStage.isNone
  | _ => false

def runtimeMatches (plan : InteroperabilityPlan) (runtime : EngineRuntimeObservation) : Bool :=
  plan.execution.runtimeIdentityMatches runtime &&
    operatingSystemMatches plan.runtimePlatform.operatingSystem runtime.operatingSystem &&
    architectureMatches plan.runtimePlatform.architecture runtime.architecture

def runtimeArtifactMatches (observed : RuntimeArtifactObservation)
    (expected : RuntimeArtifactExpectation) : Bool :=
  observed.location = expected.location && observed.mediaType = expected.mediaType &&
    observed.components = expected.components && observed.expectedBytes = expected.bytes &&
    observed.expectedSha256 = expected.sha256 &&
    match observed.outcome with
    | .match observedBytes observedSha256 =>
      observedBytes = expected.bytes && observedSha256 = expected.sha256
    | _ => false

def runtimeVerificationMatches (plan : InteroperabilityPlan)
    (verification : RuntimeVerification) : Bool :=
  verification.platform.expectedOperatingSystem = plan.runtimePlatform.operatingSystem &&
    verification.platform.expectedArchitecture = plan.runtimePlatform.architecture &&
    verification.platform.operatingSystemMatches &&
    verification.platform.architectureMatches &&
    verification.artifacts.length = plan.runtimeArtifacts.length &&
    (verification.artifacts.zip plan.runtimeArtifacts).all fun (observed, expected) =>
      runtimeArtifactMatches observed expected

def objectEvidenceComplete (plan : InteroperabilityPlan) (catalogState : Option EngineTableLoad)
    (evidence : EngineOperationEvidence TableObjectAuditSnapshot) : Bool :=
  match catalogState, evidence.output with
  | some (.present _ _ state), some audit =>
    audit.tableRoot = state.table.location &&
      audit.referencedMetadataLocation = state.table.metadataLocation &&
      audit.referencedMetadataExists &&
      audit.metadataObjects ≥ plan.scenario.objectAudit.minimumMetadataObjects &&
      audit.metadataBytes > 0 &&
      audit.parquetObjects ≥ plan.scenario.objectAudit.minimumParquetObjects &&
      audit.parquetBytes > 0
  | _, _ => false

/-- The snapshot counts before, between and after the two appends. -/
def snapshotSequence (tableReady : Option EngineTableObservation) : Option (ℕ × ℕ × ℕ) := do
  let table ← tableReady
  let initial ← checkedAdd 64 table.snapshots 1
  let evolved ← checkedAdd 64 initial 1
  return (table.snapshots, initial, evolved)

section Checks

variable (crates : Crates) (plan : InteroperabilityPlan) (events : EventObservations)

def tableRoundTrip : Bool :=
  events.tableReady.any fun table =>
    (lastFieldId (expectedInitialFields plan)).any fun lastId =>
      tableMatchesShape crates plan table (expectedInitialFields plan) lastId table.snapshots

/-- The shape of a table after the evolution, with the snapshots of `select`. -/
def evolvedTableMatches (select : ℕ × ℕ × ℕ → ℕ) (table : EngineTableObservation) : Bool :=
  (expectedEvolvedFields plan).any fun fields =>
    (lastFieldId fields).any fun lastId =>
      (snapshotSequence events.tableReady).any fun sequence =>
        tableMatchesShape crates plan table fields lastId (select sequence)

def schemaEvolvedMatches : Bool :=
  events.schemaEvolved.any fun table =>
    evolvedTableMatches crates plan events (·.2.1) table &&
      events.tableReady.any fun initial => tableIdentityPreserved initial table

def finalTableMatches : Bool :=
  events.finalTable.any fun table =>
    evolvedTableMatches crates plan events (·.2.2) table &&
      events.schemaEvolved.any fun evolved =>
        tableIdentityPreserved evolved table &&
          evolved.metadataLocation ≠ table.metadataLocation

def catalogStateMatches (catalogState : Option EngineTableLoad) : Bool :=
  match events.finalTable, catalogState with
  | some finalTable, some (.present _ _ state) =>
    state.currentSchemaId = 1 && state.table = finalTable
  | _, _ => false

end Checks

def evaluateChecks (crates : Crates) (plan : InteroperabilityPlan) (execution : EngineExecution) :
    EngineBehaviorChecks :=
  let events := EventObservations.fromExecution execution.process
  let sequence := snapshotSequence events.tableReady
  let catalogStateCorrelated := finalTableMatches crates plan events &&
    catalogStateMatches events execution.catalogState.output
  { engineRuntimePinned := runtimeVerificationMatches plan execution.process.runtime &&
      events.runtime.any (runtimeMatches plan)
    stockRestCatalogReady := events.catalogReady && catalogConnectionMatches plan execution
    fixtureIsolated := events.fixtureAbsent
    namespaceRoundTrip := events.namespaceListedExactly
    tableRoundTrip := tableRoundTrip crates plan events
    initialAppendCommitted := sequence.any fun (_, initial, _) =>
      events.initialSnapshots = some initial
    initialReadExact := events.initialRead.any
      (readMatches · plan.scenario.canonicalReads.initial)
    schemaEvolved := schemaEvolvedMatches crates plan events
    evolvedAppendCommitted := sequence.any fun (_, _, evolved) =>
      events.evolvedSnapshots = some evolved
    evolvedReadExact := events.evolvedRead.any
      (readMatches · plan.scenario.canonicalReads.afterEvolution)
    catalogStateCorrelated := catalogStateCorrelated
    sharedObjectEvidenceComplete := catalogStateCorrelated &&
      objectEvidenceComplete plan execution.catalogState.output execution.objectState
    fixtureClean := execution.cleanup.passed }

end CatalogBench.Engine
