import CatalogBench.Common.Sanitization
import CatalogBench.Engine.Reconcile

/-!
# Serialized evidence

The JSON values of the evidence of an engine run, with the fields in the order of their
declaration. All object keys are field names and tags, except those of the two maps an engine
fills: the dependencies of a runtime and the properties of a table.
-/

set_option linter.all false

namespace CatalogBench.Engine
open CatalogBench.Commit Json

-- ════════════════════════════════
-- Words
-- ════════════════════════════════

def EngineStage.text : EngineStage → String
  | verifyRuntime => "verify-runtime"
  | initializeCatalog => "initialize-catalog"
  | preflightFixture => "preflight-fixture"
  | createNamespace => "create-namespace"
  | createTable => "create-table"
  | appendInitial => "append-initial"
  | readInitial => "read-initial"
  | evolveSchema => "evolve-schema"
  | appendEvolved => "append-evolved"
  | readEvolved => "read-evolved"
  | observeFinalTable => "observe-final-table"

def EngineFailureCategory.text : EngineFailureCategory → String
  | runtime => "runtime"
  | connector => "connector"
  | catalog => "catalog"
  | data => "data"

def IcebergPrimitiveType.text : IcebergPrimitiveType → String
  | long => "long"
  | string => "string"

def EnginePropertyObservation.text : EnginePropertyObservation → String
  | «match» => "match"
  | mismatch => "mismatch"

def EngineProtocolFailureKind.text : EngineProtocolFailureKind → String
  | stdoutTooLarge => "stdout-too-large"
  | eventLineTooLarge => "event-line-too-large"
  | malformedEvent => "malformed-event"
  | tooManyEvents => "too-many-events"
  | outOfOrder => "out-of-order"
  | postTerminal => "post-terminal"
  | missingTerminal => "missing-terminal"

def EngineCredentialKind.text : EngineCredentialKind → String
  | objectStoreAccessKey => "object-store-access-key"
  | objectStoreSecretKey => "object-store-secret-key"
  | catalogClientId => "catalog-client-id"
  | catalogClientSecret => "catalog-client-secret"

def EngineCredentialFailureKind.text : EngineCredentialFailureKind → String
  | missing => "missing"
  | empty => "empty"
  | unreadable => "unreadable"

def EnginePreparationFailureKind.text : EnginePreparationFailureKind → String
  | executionPlanMismatch => "execution-plan-mismatch"
  | renderPlan => "render-plan"
  | temporaryDirectory => "temporary-directory"
  | encodePlan => "encode-plan"
  | writePlan => "write-plan"
  | writeRenderer => "write-renderer"
  | createLocalDirectory => "create-local-directory"

def RuntimeArtifactUnavailableKind.text : RuntimeArtifactUnavailableKind → String
  | missing => "missing"
  | notAFile => "not-a-file"
  | «open» => "open"
  | read => "read"

def EngineCatalogFailureKind.text : EngineCatalogFailureKind → String
  | route => "route"
  | timeout => "timeout"
  | transport => "transport"
  | responseRead => "response-read"
  | responseTooLarge => "response-too-large"
  | unexpectedHttp => "unexpected-http"
  | malformedResponse => "malformed-response"
  | harness => "harness"

def CatalogProtocol.text : CatalogProtocol → String
  | icebergRestV1 => "iceberg-rest-v1"

def AuthenticationOutcome.text : AuthenticationOutcome → String
  | ready => "ready"
  | failed => "failed"
  | notAttempted => "not-attempted"

def ProbeFailureStage.text : ProbeFailureStage → String
  | authentication => "authentication"
  | request => "request"
  | response => "response"

def EngineAuthenticationMode.text : EngineAuthenticationMode → String
  | anonymous => "anonymous"
  | oAuth2ClientCredentials => "o-auth2-client-credentials"

def EngineRoutingResolution.text : EngineRoutingResolution → String
  | unprefixed => "unprefixed"
  | static => "static"
  | negotiated => "negotiated"
  | default => "default"
  | configured => "configured"
  | failed => "failed"
  | notEvaluated => "not-evaluated"

def EngineSkipReason.text : EngineSkipReason → String
  | processDidNotOwnFixture => "process-did-not-own-fixture"
  | fixtureCollision => "fixture-collision"
  | catalogUnavailable => "catalog-unavailable"
  | tableUnavailable => "table-unavailable"

def objectStoreFailureText : ObjectStoreFailureKind → String
  | .configuration => "configuration"
  | .authentication => "authentication"
  | .list => "list"
  | .read => "read"

def EngineCatalogConnectionFailureKind.text : EngineCatalogConnectionFailureKind → String
  | setup => "setup"
  | authentication => "authentication"
  | config => "config"
  | routing => "routing"
  | fixtureRoute => "fixture-route"

def EngineBehaviorClassification.text : EngineBehaviorClassification → String
  | pass => "pass"
  | fail => "fail"
  | fixtureCollision => "fixture-collision"

-- ════════════════════════════════
-- Events
-- ════════════════════════════════

def EngineRuntimeObservation.toJson (runtime : EngineRuntimeObservation) : Json :=
  .object [("engine_version", .string runtime.engineVersion),
    ("dependencies", .object (runtime.dependencies.toList.map fun entry =>
      (entry.1, .string entry.2))),
    ("operating_system", .string runtime.operatingSystem),
    ("architecture", .string runtime.architecture)]

def EngineFieldObservation.toJson (field : EngineFieldObservation) : Json :=
  .object [("id", ofInt field.id), ("name", .string field.name), ("required", .bool field.required),
    ("field_type", .string field.fieldType.text)]

def EngineTableObservation.toJson (table : EngineTableObservation) : Json :=
  .object [("table_uuid", .string table.tableUuid),
    ("metadata_location", .string table.metadataLocation), ("location", .string table.location),
    ("format_version", ofNat table.formatVersion), ("last_column_id", ofInt table.lastColumnId),
    ("schema", .array (table.schema.map EngineFieldObservation.toJson)),
    ("snapshots", ofNat table.snapshots),
    ("properties", .object (table.properties.toList.map fun entry =>
      (entry.1, .string entry.2.text)))]

def RowReadObservation.toJson (read : RowReadObservation) : Json :=
  .object [("rows", ofNat read.rows), ("bytes", ofNat read.bytes), ("sha256", .string read.sha256)]

/-- The tag of an event. -/
def EngineEvent.tag : EngineEvent → String
  | runtimeReady _ => "runtime-ready"
  | catalogReady => "catalog-ready"
  | fixturePreflight _ => "fixture-preflight"
  | namespaceReady _ => "namespace-ready"
  | tableReady _ => "table-ready"
  | initialAppended _ => "initial-appended"
  | initialRead _ => "initial-read"
  | schemaEvolved _ => "schema-evolved"
  | evolvedAppended _ => "evolved-appended"
  | evolvedRead _ => "evolved-read"
  | finalTable _ => "final-table"
  | completed => "completed"
  | failed _ _ => "failed"

/-- What an event says besides its tag. -/
def EngineEvent.fields : EngineEvent → List (String × Json)
  | runtimeReady runtime => [("runtime", runtime.toJson)]
  | fixturePreflight absent => [("absent", .bool absent)]
  | namespaceReady listedExactly => [("listed_exactly", .bool listedExactly)]
  | tableReady table | schemaEvolved table | finalTable table => [("table", table.toJson)]
  | initialAppended snapshots | evolvedAppended snapshots => [("snapshots", ofNat snapshots)]
  | initialRead read | evolvedRead read => [("read", read.toJson)]
  | catalogReady | completed => []
  | failed stage category =>
    [("stage", .string stage.text), ("category", .string category.text)]

def EngineEvent.toJson (event : EngineEvent) : Json :=
  .object (("event", .string event.tag) :: event.fields)

def EngineProtocolFailure.toJson (failure : EngineProtocolFailure) : Json :=
  .object [("kind", .string failure.kind.text)]

def EngineEventCapture.toJson (capture : EngineEventCapture) : Json :=
  .object (present [("events", some (.array (capture.events.map EngineEvent.toJson))),
    ("failure", capture.failure.map EngineProtocolFailure.toJson),
    ("stdout_bytes_observed", some (ofNat capture.stdoutBytesObserved))])

-- ════════════════════════════════
-- The process
-- ════════════════════════════════

def EngineCredentialFailure.toJson (failure : EngineCredentialFailure) : Json :=
  .object [("credential", .string failure.credential.text), ("kind", .string failure.kind.text)]

def EngineProcessOutcome.toJson : EngineProcessOutcome → Json
  | runtimeRejected => .object [("status", .string "runtime-rejected")]
  | credentialRejected failure =>
    .object [("status", .string "credential-rejected"), ("failure", failure.toJson)]
  | preparationFailed kind =>
    .object [("status", .string "preparation-failed"), ("kind", .string kind.text)]
  | spawnFailed => .object [("status", .string "spawn-failed")]
  | timedOut => .object [("status", .string "timed-out")]
  | stdoutFailed => .object [("status", .string "stdout-failed")]
  | waitFailed => .object [("status", .string "wait-failed")]
  | protocolRejected kind =>
    .object [("status", .string "protocol-rejected"), ("kind", .string kind.text)]
  | exitProtocolMismatch => .object [("status", .string "exit-protocol-mismatch")]
  | completed => .object [("status", .string "completed")]
  | fixtureCollision => .object [("status", .string "fixture-collision")]
  | engineFailed stage category =>
    .object [("status", .string "engine-failed"), ("stage", .string stage.text),
      ("category", .string category.text)]

def RuntimePlatformObservation.toJson (platform : RuntimePlatformObservation) : Json :=
  .object [("expected_operating_system", .string platform.expectedOperatingSystem),
    ("observed_operating_system", .string platform.observedOperatingSystem),
    ("operating_system_matches", .bool platform.operatingSystemMatches),
    ("expected_architecture", .string platform.expectedArchitecture),
    ("observed_architecture", .string platform.observedArchitecture),
    ("architecture_matches", .bool platform.architectureMatches)]

def RuntimeArtifactOutcome.toJson : RuntimeArtifactOutcome → Json
  | «match» observedBytes observedSha256 =>
    .object [("status", .string "match"), ("observed_bytes", ofNat observedBytes),
      ("observed_sha256", .string observedSha256)]
  | mismatch observedBytes observedSha256 bytesMatch sha256Matches =>
    .object [("status", .string "mismatch"), ("observed_bytes", ofNat observedBytes),
      ("observed_sha256", .string observedSha256), ("bytes_match", .bool bytesMatch),
      ("sha256_matches", .bool sha256Matches)]
  | unavailable kind => .object [("status", .string "unavailable"), ("kind", .string kind.text)]

def RuntimeArtifactObservation.toJson (artifact : RuntimeArtifactObservation) : Json :=
  .object [("location", .string artifact.location), ("media_type", .string artifact.mediaType),
    ("components", .array (artifact.components.map .string)),
    ("expected_bytes", ofNat artifact.expectedBytes),
    ("expected_sha256", .string artifact.expectedSha256), ("outcome", artifact.outcome.toJson)]

def RuntimeVerification.toJson (verification : RuntimeVerification) : Json :=
  .object [("platform", verification.platform.toJson),
    ("artifacts", .array (verification.artifacts.map RuntimeArtifactObservation.toJson))]

def EngineProcessExecution.toJson (process : EngineProcessExecution) : Json :=
  .object (present [("runtime", some process.runtime.toJson),
    ("outcome", some process.outcome.toJson),
    ("capture", process.capture.map EngineEventCapture.toJson),
    ("exit_code", process.exitCode.map ofInt),
    ("process_elapsed_micros", process.processElapsedMicros.map ofNat)])

-- ════════════════════════════════
-- The catalog and the object store
-- ════════════════════════════════

def EngineCatalogFailure.toJson (failure : EngineCatalogFailure) : Json :=
  .object (present [("kind", some (.string failure.kind.text)),
    ("http_status", failure.httpStatus.map ofNat)])

def EngineCatalogTable.toJson (state : EngineCatalogTable) : Json :=
  .object [("current_schema_id", ofInt state.currentSchemaId), ("table", state.table.toJson)]

def EngineTableLoad.toJson : EngineTableLoad → Json
  | present httpStatus responseBytes state =>
    .object [("status", .string "present"), ("http_status", ofNat httpStatus),
      ("response_bytes", ofNat responseBytes), ("state", state.toJson)]
  | absent httpStatus responseBytes =>
    .object [("status", .string "absent"), ("http_status", ofNat httpStatus),
      ("response_bytes", ofNat responseBytes)]

def EngineCleanupReceipt.toJson (receipt : EngineCleanupReceipt) : Json :=
  .object [("http_status", ofNat receipt.httpStatus),
    ("response_bytes", ofNat receipt.responseBytes),
    ("already_absent", .bool receipt.alreadyAbsent)]

def EngineResourcePresence.toJson : EngineResourcePresence → Json
  | present httpStatus responseBytes =>
    .object [("status", .string "present"), ("http_status", ofNat httpStatus),
      ("response_bytes", ofNat responseBytes)]
  | absent httpStatus responseBytes =>
    .object [("status", .string "absent"), ("http_status", ofNat httpStatus),
      ("response_bytes", ofNat responseBytes)]

/-- `TableObjectAuditSnapshot` as JSON. -/
def auditToJson (audit : TableObjectAuditSnapshot) : Json :=
  .object [("table_root", .string audit.tableRoot),
    ("metadata_objects", ofNat audit.metadataObjects), ("metadata_bytes", ofNat audit.metadataBytes),
    ("parquet_objects", ofNat audit.parquetObjects), ("parquet_bytes", ofNat audit.parquetBytes),
    ("referenced_metadata_location", .string audit.referencedMetadataLocation),
    ("referenced_metadata_exists", .bool audit.referencedMetadataExists)]

def AdapterRequestHandling.toJson : AdapterRequestHandling → Json
  | protocolNative => .object [("kind", .string "protocol-native")]
  | behaviorChangingShim component description =>
    .object [("kind", .string "behavior-changing-shim"), ("component", .string component),
      ("description", .string description)]

def TranscriptAdapter.toJson (adapter : TranscriptAdapter) : Json :=
  .object [("catalog", .string adapter.catalog), ("name", .string adapter.name),
    ("version", .string adapter.version), ("protocol", .string adapter.protocol.text),
    ("request_handling", adapter.requestHandling.toJson)]

def EngineAuthenticationEvidence.toJson (authentication : EngineAuthenticationEvidence) : Json :=
  .object (present [("mode", some (.string authentication.mode.text)),
    ("outcome", some (.string authentication.outcome.text)),
    ("http_status", authentication.httpStatus.map ofNat)])

def EngineCatalogConfigEvidence.toJson (config : EngineCatalogConfigEvidence) : Json :=
  .object (present [("http_status", config.httpStatus.map ofNat),
    ("response_bytes", config.responseBytes.map ofNat),
    ("prefix", some (.string config.routePrefix.text)),
    ("namespace_separator", some (.string config.namespaceSeparator.text)),
    ("failure_stage", config.failureStage.map fun stage => .string stage.text)])

def EngineCatalogNegotiationEvidence.toJson (negotiation : EngineCatalogNegotiationEvidence) :
    Json :=
  .object [("adapter", negotiation.adapter.toJson),
    ("authentication", negotiation.authentication.toJson), ("config", negotiation.config.toJson),
    ("redactions_observed", ofNat negotiation.redactionsObserved)]

-- ════════════════════════════════
-- The run
-- ════════════════════════════════

def EngineOperationFailure.toJson : EngineOperationFailure → Json
  | catalog failure => .object [("source", .string "catalog"), ("failure", failure.toJson)]
  | objectStore kind =>
    .object [("source", .string "object-store"), ("kind", .string (objectStoreFailureText kind))]

def EngineOperationEvidence.toJson {α : Type} (output : α → Json) :
    EngineOperationEvidence α → Json
  | succeeded value => .object [("status", .string "succeeded"), ("output", output value)]
  | failed failure => .object [("status", .string "failed"), ("failure", failure.toJson)]
  | skipped reason => .object [("status", .string "skipped"), ("reason", .string reason.text)]

def EngineCatalogConnectionFailure.toJson (failure : EngineCatalogConnectionFailure) : Json :=
  .object [("kind", .string failure.kind.text)]

def EngineCatalogConnectionEvidence.toJson : EngineCatalogConnectionEvidence → Json
  | notAttempted reason =>
    .object [("status", .string "not-attempted"), ("reason", .string reason.text)]
  | ready negotiation =>
    .object [("status", .string "ready"), ("negotiation", negotiation.toJson)]
  | failed negotiation failure =>
    .object (present [("status", some (.string "failed")),
      ("negotiation", negotiation.map EngineCatalogNegotiationEvidence.toJson),
      ("failure", some failure.toJson)])

def EngineCleanupEvidence.toJson (cleanup : EngineCleanupEvidence) : Json :=
  .object
    [("drop_table_without_purge", cleanup.dropTableWithoutPurge.toJson EngineCleanupReceipt.toJson),
      ("verify_table_absent", cleanup.verifyTableAbsent.toJson EngineResourcePresence.toJson),
      ("drop_namespace", cleanup.dropNamespace.toJson EngineCleanupReceipt.toJson),
      ("verify_namespace_absent",
        cleanup.verifyNamespaceAbsent.toJson EngineResourcePresence.toJson)]

def EngineBehaviorChecks.toJson (checks : EngineBehaviorChecks) : Json :=
  .object [("engine_runtime_pinned", .bool checks.engineRuntimePinned),
    ("stock_rest_catalog_ready", .bool checks.stockRestCatalogReady),
    ("fixture_isolated", .bool checks.fixtureIsolated),
    ("namespace_round_trip", .bool checks.namespaceRoundTrip),
    ("table_round_trip", .bool checks.tableRoundTrip),
    ("initial_append_committed", .bool checks.initialAppendCommitted),
    ("initial_read_exact", .bool checks.initialReadExact),
    ("schema_evolved", .bool checks.schemaEvolved),
    ("evolved_append_committed", .bool checks.evolvedAppendCommitted),
    ("evolved_read_exact", .bool checks.evolvedReadExact),
    ("catalog_state_correlated", .bool checks.catalogStateCorrelated),
    ("shared_object_evidence_complete", .bool checks.sharedObjectEvidenceComplete),
    ("fixture_clean", .bool checks.fixtureClean)]

def EngineExecution.toJson (execution : EngineExecution) : Json :=
  .object [("process", execution.process.toJson),
    ("catalog_connection", execution.catalogConnection.toJson),
    ("catalog_state", execution.catalogState.toJson EngineTableLoad.toJson),
    ("object_state", execution.objectState.toJson auditToJson),
    ("cleanup", execution.cleanup.toJson), ("checks", execution.checks.toJson),
    ("classification", .string execution.classification.text)]

-- ════════════════════════════════
-- The vocabulary of the keys
-- ════════════════════════════════

/-- The field names and tags of the evidence. -/
def evidenceKeys : List String :=
  ["absent", "adapter", "already_absent", "architecture", "architecture_matches", "artifacts",
    "authentication", "bytes", "bytes_match", "capture", "catalog", "catalog_connection",
    "catalog_state", "catalog_state_correlated", "category", "checks", "classification", "cleanup",
    "component", "components", "config", "credential", "current_schema_id", "dependencies",
    "description", "drop_namespace", "drop_table_without_purge", "engine_runtime_pinned",
    "engine_version", "event", "events", "evolved_append_committed", "evolved_read_exact",
    "exit_code", "expected_architecture", "expected_bytes", "expected_operating_system",
    "expected_sha256", "failure", "failure_stage", "field_type", "fixture_clean",
    "fixture_isolated", "format_version", "http_status", "id", "initial_append_committed",
    "initial_read_exact", "kind", "last_column_id", "listed_exactly", "location", "media_type",
    "metadata_bytes", "metadata_location", "metadata_objects", "mode", "name",
    "namespace_round_trip", "namespace_separator", "negotiation", "object_state",
    "observed_architecture", "observed_bytes", "observed_operating_system", "observed_sha256",
    "operating_system", "operating_system_matches", "outcome", "output", "parquet_bytes",
    "parquet_objects", "platform", "prefix", "process", "process_elapsed_micros", "properties",
    "protocol", "read", "reason", "redactions_observed", "referenced_metadata_exists",
    "referenced_metadata_location", "request_handling", "required", "response_bytes", "rows",
    "runtime", "schema", "schema_evolved", "sha256", "sha256_matches",
    "shared_object_evidence_complete", "snapshots", "source", "stage", "state", "status",
    "stdout_bytes_observed", "stock_rest_catalog_ready", "table", "table_root",
    "table_round_trip", "table_uuid", "verify_namespace_absent", "verify_table_absent", "version"]

/-- The keys of the maps in an event. -/
def EngineEvent.mapKeys : EngineEvent → List String
  | runtimeReady runtime => runtime.dependencies.keys
  | tableReady table | schemaEvolved table | finalTable table => table.properties.keys
  | _ => []

/-- The keys of the maps in a table load. -/
def EngineTableLoad.mapKeys : EngineTableLoad → List String
  | present _ _ state => state.table.properties.keys
  | absent _ _ => []

/-- The keys of the maps in the evidence: what the engine called its dependencies, and the
properties of the tables that were observed. -/
def EngineExecution.mapKeys (execution : EngineExecution) : List String :=
  ((execution.process.capture.map (·.events)).getD []).flatMap EngineEvent.mapKeys ++
    ((execution.catalogState.output.map EngineTableLoad.mapKeys).getD [])

-- ════════════════════════════════
-- Where the keys come from
-- ════════════════════════════════

section Vocabulary

variable {vocabulary : List String} (h : evidenceKeys ⊆ vocabulary)
include h

theorem RowReadObservation.keysIn (read : RowReadObservation) :
    read.toJson.KeysIn vocabulary := by
  simp only [toJson, keysIn_object, List.map_cons, List.map_nil]
  exact ⟨List.Subset.trans (by decide) h, by simp⟩

theorem EngineFieldObservation.keysIn (field : EngineFieldObservation) :
    field.toJson.KeysIn vocabulary := by
  simp only [toJson, keysIn_object, List.map_cons, List.map_nil]
  exact ⟨List.Subset.trans (by decide) h, by simp⟩

theorem EngineTableObservation.keysIn (table : EngineTableObservation)
    (hproperties : table.properties.keys ⊆ vocabulary) : table.toJson.KeysIn vocabulary := by
  have hschema : (Json.array (table.schema.map EngineFieldObservation.toJson)).KeysIn
      vocabulary := by
    simpa [keysIn_array] using fun field _ => EngineFieldObservation.keysIn h field
  have hmap := keysIn_map EnginePropertyObservation.text hproperties
  simp only [toJson, keysIn_object, List.map_cons, List.map_nil]
  exact ⟨List.Subset.trans (by decide) h, by simp [hschema, hmap]⟩

theorem EngineRuntimeObservation.keysIn (runtime : EngineRuntimeObservation)
    (hdependencies : runtime.dependencies.keys ⊆ vocabulary) :
    runtime.toJson.KeysIn vocabulary := by
  have hmap := keysIn_map id hdependencies
  simp only [toJson, keysIn_object, List.map_cons, List.map_nil]
  exact ⟨List.Subset.trans (by decide) h, by simpa using hmap⟩

theorem EngineEvent.keysIn (event : EngineEvent) (hmap : event.mapKeys ⊆ vocabulary) :
    event.toJson.KeysIn vocabulary := by
  have hkey : "event" ∈ vocabulary := h (by decide)
  suffices hfields : (Json.object event.fields).KeysIn vocabulary by
    obtain ⟨hkeys, hvalues⟩ := keysIn_object.mp hfields
    exact keysIn_object.mpr ⟨List.cons_subset.mpr ⟨hkey, hkeys⟩, by simpa using hvalues⟩
  cases event with
  | runtimeReady runtime =>
    simp only [fields, keysIn_object, List.map_cons, List.map_nil]
    exact ⟨List.Subset.trans (by decide) h, by simpa using runtime.keysIn h hmap⟩
  | tableReady table | schemaEvolved table | finalTable table =>
    simp only [fields, keysIn_object, List.map_cons, List.map_nil]
    exact ⟨List.Subset.trans (by decide) h, by simpa using table.keysIn h hmap⟩
  | initialRead read | evolvedRead read =>
    simp only [fields, keysIn_object, List.map_cons, List.map_nil]
    exact ⟨List.Subset.trans (by decide) h, by simpa using read.keysIn h⟩
  | catalogReady | completed => simp [fields, keysIn_object]
  | fixturePreflight _ | namespaceReady _ | initialAppended _ | evolvedAppended _ | failed _ _ =>
    simp only [fields, keysIn_object, List.map_cons, List.map_nil]
    exact ⟨List.Subset.trans (by decide) h, by simp⟩

theorem EngineEventCapture.keysIn (capture : EngineEventCapture)
    (hmap : ∀ event ∈ capture.events, event.mapKeys ⊆ vocabulary) :
    capture.toJson.KeysIn vocabulary := by
  have hevents : (Json.array (capture.events.map EngineEvent.toJson)).KeysIn vocabulary := by
    simpa [keysIn_array] using fun event hevent => event.keysIn h (hmap event hevent)
  have hfailure (failure : EngineProtocolFailure) : failure.toJson.KeysIn vocabulary := by
    simp only [EngineProtocolFailure.toJson, keysIn_object, List.map_cons, List.map_nil]
    exact ⟨List.Subset.trans (by decide) h, by simp⟩
  refine keysIn_present ?_ (by simp [hevents, hfailure])
  simp only [List.map_cons, List.map_nil]
  exact List.Subset.trans (by decide) h

theorem EngineProcessOutcome.keysIn (outcome : EngineProcessOutcome) :
    outcome.toJson.KeysIn vocabulary := by
  have hfailure (failure : EngineCredentialFailure) : failure.toJson.KeysIn vocabulary := by
    simp only [EngineCredentialFailure.toJson, keysIn_object, List.map_cons, List.map_nil]
    exact ⟨List.Subset.trans (by decide) h, by simp⟩
  cases outcome
  all_goals
    simp only [toJson, keysIn_object, List.map_cons, List.map_nil]
    exact ⟨List.Subset.trans (by decide) h, by simp [hfailure]⟩

theorem RuntimeArtifactObservation.keysIn (artifact : RuntimeArtifactObservation) :
    artifact.toJson.KeysIn vocabulary := by
  have houtcome (outcome : RuntimeArtifactOutcome) : outcome.toJson.KeysIn vocabulary := by
    cases outcome
    all_goals
      simp only [RuntimeArtifactOutcome.toJson, keysIn_object, List.map_cons, List.map_nil]
      exact ⟨List.Subset.trans (by decide) h, by simp⟩
  have hcomponents : (Json.array (artifact.components.map .string)).KeysIn vocabulary := by
    simp [keysIn_array]
  simp only [toJson, keysIn_object, List.map_cons, List.map_nil]
  exact ⟨List.Subset.trans (by decide) h, by simp [houtcome, hcomponents]⟩

theorem RuntimeVerification.keysIn (verification : RuntimeVerification) :
    verification.toJson.KeysIn vocabulary := by
  have hplatform (platform : RuntimePlatformObservation) : platform.toJson.KeysIn vocabulary := by
    simp only [RuntimePlatformObservation.toJson, keysIn_object, List.map_cons, List.map_nil]
    exact ⟨List.Subset.trans (by decide) h, by simp⟩
  have hartifacts : (Json.array
      (verification.artifacts.map RuntimeArtifactObservation.toJson)).KeysIn vocabulary := by
    simpa [keysIn_array] using fun artifact _ => RuntimeArtifactObservation.keysIn h artifact
  simp only [toJson, keysIn_object, List.map_cons, List.map_nil]
  exact ⟨List.Subset.trans (by decide) h, by simp [hplatform, hartifacts]⟩

theorem EngineProcessExecution.keysIn (process : EngineProcessExecution)
    (hmap : ∀ capture ∈ process.capture, ∀ event ∈ capture.events,
      event.mapKeys ⊆ vocabulary) : process.toJson.KeysIn vocabulary := by
  have hcapture (capture : EngineEventCapture) (hcapture : process.capture = some capture) :
      capture.toJson.KeysIn vocabulary := capture.keysIn h (hmap capture hcapture)
  refine keysIn_present ?_ ?_
  · simp only [List.map_cons, List.map_nil]
    exact List.Subset.trans (by decide) h
  · simpa [RuntimeVerification.keysIn h, EngineProcessOutcome.keysIn h] using hcapture

theorem EngineTableLoad.keysIn (load : EngineTableLoad) (hmap : load.mapKeys ⊆ vocabulary) :
    load.toJson.KeysIn vocabulary := by
  cases load with
  | present httpStatus responseBytes state =>
    have hstate : state.toJson.KeysIn vocabulary := by
      simp only [EngineCatalogTable.toJson, keysIn_object, List.map_cons, List.map_nil]
      exact ⟨List.Subset.trans (by decide) h, by simpa using state.table.keysIn h hmap⟩
    simp only [toJson, keysIn_object, List.map_cons, List.map_nil]
    exact ⟨List.Subset.trans (by decide) h, by simp [hstate]⟩
  | absent httpStatus responseBytes =>
    simp only [toJson, keysIn_object, List.map_cons, List.map_nil]
    exact ⟨List.Subset.trans (by decide) h, by simp⟩

theorem EngineCleanupReceipt.keysIn (receipt : EngineCleanupReceipt) :
    receipt.toJson.KeysIn vocabulary := by
  simp only [toJson, keysIn_object, List.map_cons, List.map_nil]
  exact ⟨List.Subset.trans (by decide) h, by simp⟩

theorem EngineResourcePresence.keysIn (presence : EngineResourcePresence) :
    presence.toJson.KeysIn vocabulary := by
  cases presence
  all_goals
    simp only [toJson, keysIn_object, List.map_cons, List.map_nil]
    exact ⟨List.Subset.trans (by decide) h, by simp⟩

theorem keysIn_auditToJson (audit : TableObjectAuditSnapshot) :
    (auditToJson audit).KeysIn vocabulary := by
  simp only [auditToJson, keysIn_object, List.map_cons, List.map_nil]
  exact ⟨List.Subset.trans (by decide) h, by simp⟩

theorem TranscriptAdapter.keysIn (adapter : TranscriptAdapter) :
    adapter.toJson.KeysIn vocabulary := by
  have hhandling (handling : AdapterRequestHandling) : handling.toJson.KeysIn vocabulary := by
    cases handling
    all_goals
      simp only [AdapterRequestHandling.toJson, keysIn_object, List.map_cons, List.map_nil]
      exact ⟨List.Subset.trans (by decide) h, by simp⟩
  simp only [toJson, keysIn_object, List.map_cons, List.map_nil]
  exact ⟨List.Subset.trans (by decide) h, by simp [hhandling]⟩

theorem EngineCatalogNegotiationEvidence.keysIn
    (negotiation : EngineCatalogNegotiationEvidence) : negotiation.toJson.KeysIn vocabulary := by
  have hauthentication : negotiation.authentication.toJson.KeysIn vocabulary := by
    refine keysIn_present ?_ (by simp)
    simp only [List.map_cons, List.map_nil]
    exact List.Subset.trans (by decide) h
  have hconfig : negotiation.config.toJson.KeysIn vocabulary := by
    refine keysIn_present ?_ (by simp)
    simp only [List.map_cons, List.map_nil]
    exact List.Subset.trans (by decide) h
  simp only [toJson, keysIn_object, List.map_cons, List.map_nil]
  exact ⟨List.Subset.trans (by decide) h,
    by simp [TranscriptAdapter.keysIn h, hauthentication, hconfig]⟩

theorem EngineOperationEvidence.keysIn {α : Type} {output : α → Json}
    (evidence : EngineOperationEvidence α)
    (houtput : ∀ value ∈ evidence.output, (output value).KeysIn vocabulary) :
    (evidence.toJson output).KeysIn vocabulary := by
  have hcatalog (failure : EngineCatalogFailure) : failure.toJson.KeysIn vocabulary := by
    refine keysIn_present ?_ (by simp)
    simp only [List.map_cons, List.map_nil]
    exact List.Subset.trans (by decide) h
  have hfailure (failure : EngineOperationFailure) : failure.toJson.KeysIn vocabulary := by
    cases failure
    all_goals
      simp only [EngineOperationFailure.toJson, keysIn_object, List.map_cons, List.map_nil]
      exact ⟨List.Subset.trans (by decide) h, by simp [hcatalog]⟩
  cases evidence with
  | succeeded value =>
    simp only [toJson, keysIn_object, List.map_cons, List.map_nil]
    exact ⟨List.Subset.trans (by decide) h, by simpa using houtput value rfl⟩
  | failed failure | skipped reason =>
    simp only [toJson, keysIn_object, List.map_cons, List.map_nil]
    exact ⟨List.Subset.trans (by decide) h, by simp [hfailure]⟩

theorem EngineCatalogConnectionEvidence.keysIn (connection : EngineCatalogConnectionEvidence) :
    connection.toJson.KeysIn vocabulary := by
  have hfailure (failure : EngineCatalogConnectionFailure) : failure.toJson.KeysIn vocabulary := by
    simp only [EngineCatalogConnectionFailure.toJson, keysIn_object, List.map_cons, List.map_nil]
    exact ⟨List.Subset.trans (by decide) h, by simp⟩
  have hnegotiation := EngineCatalogNegotiationEvidence.keysIn h
  cases connection with
  | notAttempted reason | ready negotiation =>
    simp only [toJson, keysIn_object, List.map_cons, List.map_nil]
    exact ⟨List.Subset.trans (by decide) h, by simp [hnegotiation]⟩
  | failed negotiation failure =>
    refine keysIn_present ?_ (by simp [hfailure, hnegotiation])
    simp only [List.map_cons, List.map_nil]
    exact List.Subset.trans (by decide) h

theorem EngineCleanupEvidence.keysIn (cleanup : EngineCleanupEvidence) :
    cleanup.toJson.KeysIn vocabulary := by
  have hreceipt (evidence : EngineOperationEvidence EngineCleanupReceipt) :=
    evidence.keysIn h fun receipt _ => EngineCleanupReceipt.keysIn h receipt
  have hpresence (evidence : EngineOperationEvidence EngineResourcePresence) :=
    evidence.keysIn h fun presence _ => EngineResourcePresence.keysIn h presence
  simp only [toJson, keysIn_object, List.map_cons, List.map_nil]
  exact ⟨List.Subset.trans (by decide) h, by simp [hreceipt, hpresence]⟩

theorem EngineBehaviorChecks.keysIn (checks : EngineBehaviorChecks) :
    checks.toJson.KeysIn vocabulary := by
  simp only [toJson, keysIn_object, List.map_cons, List.map_nil]
  exact ⟨List.Subset.trans (by decide) h, by simp⟩

/-- Every key of the evidence is a field name, a tag or a key of one of the maps. -/
theorem EngineExecution.keysIn (execution : EngineExecution)
    (hmap : execution.mapKeys ⊆ vocabulary) : execution.toJson.KeysIn vocabulary := by
  rw [mapKeys, List.append_subset] at hmap
  obtain ⟨hevents, hload⟩ := hmap
  have hprocess : execution.process.toJson.KeysIn vocabulary := by
    refine execution.process.keysIn h fun capture hcapture event hevent key hkey => ?_
    refine hevents (List.mem_flatMap.mpr ⟨event, ?_, hkey⟩)
    rwa [show execution.process.capture = some capture from hcapture]
  have hstate : (execution.catalogState.toJson EngineTableLoad.toJson).KeysIn vocabulary := by
    refine execution.catalogState.keysIn h fun load hsome => load.keysIn h ?_
    rwa [show execution.catalogState.output = some load from hsome] at hload
  have hobjects : (execution.objectState.toJson auditToJson).KeysIn vocabulary :=
    execution.objectState.keysIn h fun audit _ => keysIn_auditToJson h audit
  simp only [toJson, keysIn_object, List.map_cons, List.map_nil]
  exact ⟨List.Subset.trans (by decide) h, by
    simp [hprocess, hstate, hobjects, EngineCatalogConnectionEvidence.keysIn h,
      EngineCleanupEvidence.keysIn h, EngineBehaviorChecks.keysIn h]⟩

end Vocabulary

end CatalogBench.Engine
