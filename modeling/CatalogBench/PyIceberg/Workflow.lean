import CatalogBench.Engine.Sql
import CatalogBench.PyIceberg.Contracts

/-!
# The workflow of the PyIceberg probe

Every step makes its calls in one block whose exceptions it turns into a result. The required
steps stand on each other; the optional ones only need the first scan to have succeeded. The
fixture is reconciled last, whatever went wrong before.
-/

set_option linter.all false

namespace CatalogBench.PyIceberg
open Interaction

-- ════════════════════════════════
-- Results
-- ════════════════════════════════

def skip (step : Step) (reason : String) : OperationResult :=
  .notEvaluated step step.capability reason

def failure (step : Step) (error : PyError) (explanation category : String)
    (observations : List (String × Json)) : OperationResult :=
  .failed step step.capability (.fromException error category explanation) observations

def unsupportedAfterClientCheck (step : Step) (attributedTo : String) : OperationResult :=
  .unsupported step step.capability ⟨attributedTo,
    "the stock client declined this optional operation before a successful protocol mutation",
    none⟩

/-- `except NotImplementedError`, before `except Exception`. -/
def unsupportedOr (step : Step) (attributedTo : String) (error : PyError)
    (failed : OperationResult) : OperationResult :=
  if error.notImplemented then unsupportedAfterClientCheck step attributedTo else failed

def raiseIf (c : Prop) [Decidable c] (error : PyError) : Py Unit :=
  if c then raise error else pure ()

-- ════════════════════════════════
-- Tables
-- ════════════════════════════════

def setActive (active : Option Identifier) : Py Unit :=
  modify fun s => { s with activeIdentifier := active }

def setRows (rows : List Row) : Py Unit := modify fun s => { s with rows := rows }

def stateRows : Py (List Row) := do
  let s ← get
  return s.rows

def activeIdentifier : Py Identifier := do
  let s ← get
  match s.activeIdentifier with
  | some identifier => return identifier
  | none => raise .workflowAssertion

def loadActive : Py PyTable := do
  let active ← activeIdentifier
  loadTable active

/-- Whether a table exists; `none` if that is not known. -/
def candidatePresent (identifier : Identifier) : Py (Option Bool) :=
  tryCatch
    (do
      let present ← tableExists identifier
      return some present)
    fun _ => return none

def activeCandidates : List Identifier → Py (Option (List Identifier))
  | [] => return some []
  | identifier :: identifiers => do
    let present ← candidatePresent identifier
    match present with
    | none => return none
    | some present =>
      let active ← activeCandidates identifiers
      return active.map fun active => if present then identifier :: active else active

def onlyCandidate : Option (List Identifier) → Option Identifier
  | some [identifier] => some identifier
  | _ => none

def resolveActive (fixture : FixtureIdentity) : Py Unit := do
  let s ← get
  if s.catalogOpen = true ∧ s.ownershipSafe = true then
    let active ← activeCandidates fixture.identifiers
    setActive (onlyCandidate active)
  else setActive none

variable (libraries : PyLibraries)

def refreshRows (fixture : FixtureIdentity) : Py Unit := do
  resolveActive fixture
  let s ← get
  match s.activeIdentifier with
  | none => return ()
  | some identifier =>
    tryCatch
      (do
        let table ← loadTable identifier
        let rows ← scan table
        let canonical ← lift (canonicalRows libraries rows)
        setRows canonical)
      fun _ => return ()

/-- The rows of a batch, and whether `pyarrow` accepts them. -/
def batch (table : PyTable) (start : ℤ) (count : ℕ) : Except PyError (List Row) := do
  let hasNote := decide ("note" ∈ table.view.schemaNames)
  let rows ← (idRange start count).mapM (generatedRow libraries hasNote)
  libraries.arrowTable hasNote rows
  return rows

def assertRows (table : PyTable) (expected : List Row) : Py RowObservation := do
  let rows ← scan table
  let observed ← lift (canonicalRows libraries rows)
  let canonicalExpected ← lift (canonicalRows libraries expected)
  raiseIf (sameRows observed canonicalExpected = false) .workflowAssertion
  lift (rowObservation libraries observed)

def assertSameTable (created loaded : PyTable) : Py Unit := do
  raiseIf (created.view.tableUuid ≠ loaded.view.tableUuid) .workflowAssertion
  raiseIf (created.view.metadataLocation ≠ loaded.view.metadataLocation) .workflowAssertion
  raiseIf (created.view.schemaNames ≠ loaded.view.schemaNames) .workflowAssertion

/-- Some expected property is missing or differs. -/
def propertyDiffers (properties expected : StringMap String) : Bool :=
  expected.toList.any fun entry => properties[entry.1]? != some entry.2

def jsonStrings (texts : List String) : Json := .array (texts.map .string)

def tableObservation (table : PyTable) : List (String × Json) :=
  [("table_uuid", .string table.view.tableUuid),
    ("metadata_location", .string table.view.metadataLocation),
    ("schema_fields", jsonStrings table.view.schemaNames),
    ("snapshot_count", jsonInt table.view.snapshots)]

-- ════════════════════════════════
-- Required steps
-- ════════════════════════════════

def verifyRuntime (contracts : ResolvedContracts) (runtime : RuntimeIdentity) : OperationResult :=
  if runtime = contracts.pinned then .passed .verifyClientRuntime none
    [("python", .string runtime.python), ("pyiceberg", .string runtime.pyiceberg),
      ("pyarrow", .string runtime.pyarrow), ("s3fs", .string runtime.s3fs),
      ("operating_system", .string runtime.operatingSystem),
      ("architecture", .string runtime.architecture)]
  else .failed .verifyClientRuntime none ⟨"runtime", "catalog_bench_pyiceberg.RuntimeMismatch",
    "observed runtime identity does not equal the pinned profile"⟩
    [("expected", contracts.pinned.asJson), ("observed", runtime.asJson)]

def initializeCatalog (contracts : ResolvedContracts) (properties : StringMap Json) :
    Py OperationResult :=
  tryCatch
    (do
      call (.restCatalog ("catalog-bench-" ++ contracts.catalog) properties)
      modify fun s => { s with catalogOpen := true }
      return .passed .initializeCatalog Step.initializeCatalog.capability
        [("authentication", .string contracts.adapter.authentication.kind),
          ("request_handling", .string "protocol-native"), ("shim", .bool false)])
    fun error =>
      pure (failure .initializeCatalog error
        "stock RestCatalog initialization did not complete" "catalog-initialization" [])

def preflight (fixture : FixtureIdentity) : Py OperationResult :=
  tryCatch
    (do
      let present ← namespaceExists fixture.namespace
      raiseIf (present = true) .workflowAssertion
      modify fun s => { s with ownershipSafe := true }
      return .passed .preflightFixture Step.preflightFixture.capability
        [("namespace_absent", .bool true), ("mutation_attempted", .bool false)])
    fun error =>
      pure (failure .preflightFixture error
        "fixture absence could not be proven; no mutation or cleanup was attempted"
        "fixture-isolation" [])

def namespaceRoundTrip (contracts : ResolvedContracts) (fixture : FixtureIdentity) :
    Py OperationResult :=
  let properties := contracts.parameters.namespaceProperties
  tryCatch
    (do
      call (.createNamespace fixture.namespace properties)
      let listed ← listNamespaces
      let loaded ← loadNamespaceProperties fixture.namespace
      raiseIf (fixture.namespace ∉ listed) .workflowAssertion
      raiseIf (propertyDiffers loaded properties = true) .workflowAssertion
      return .passed .namespaceRoundTrip Step.namespaceRoundTrip.capability
        [("created", .bool true), ("listed", .bool true),
          ("loaded_property_count", jsonInt properties.size)])
    fun error =>
      pure (failure .namespaceRoundTrip error
        "stock namespace create, list, or load did not preserve the fixture"
        "namespace-round-trip" [])

def tableLocation (contracts : ResolvedContracts) (fixture : FixtureIdentity) : Option String :=
  contracts.adapter.createTableLocation.map fun root =>
    Engine.trimEndMatches root '/' ++ "/" ++ fixture.namespace.headD "" ++ "/" ++
      fixture.tableCandidates.headD ""

def tableRoundTrip (contracts : ResolvedContracts) (fixture : FixtureIdentity) :
    Py OperationResult :=
  let identifier := fixture.identifiers.getD 0 []
  let properties := contracts.parameters.initialProperties
  tryCatch
    (do
      let table ← createTable identifier (tableLocation contracts fixture) properties
      let listed ← listTables fixture.namespace
      let loaded ← loadTable identifier
      raiseIf (identifier ∉ listed) .workflowAssertion
      assertSameTable table loaded
      raiseIf (propertyDiffers loaded.view.properties properties = true) .workflowAssertion
      setActive identifier
      return .passed .tableRoundTrip Step.tableRoundTrip.capability (tableObservation loaded))
    fun error => do
      resolveActive fixture
      return failure .tableRoundTrip error
        "stock table create, list, or load did not preserve committed state"
        "table-round-trip" []

def appendScan (contracts : ResolvedContracts) (fixture : FixtureIdentity) : Py OperationResult :=
  tryCatch
    (do
      let table ← loadActive
      let rows ← lift (batch libraries table 0 contracts.parameters.initialRows)
      call (.append table rows)
      let loaded ← loadActive
      setRows rows
      let observation ← assertRows libraries loaded rows
      modify fun s => { s with objectIoVerified := true }
      return .passed .appendScan Step.appendScan.capability
        (observation.toFields ++ [("snapshot_count", jsonInt loaded.view.snapshots),
          ("metadata_location", .string loaded.view.metadataLocation)]))
    fun error => do
      refreshRows libraries fixture
      return failure .appendScan error
        "stock append and independent scan did not return the deterministic batch"
        "append-scan" []

-- ════════════════════════════════
-- Optional steps
-- ════════════════════════════════

def updateProperties (contracts : ResolvedContracts) : Py OperationResult :=
  let updates := contracts.parameters.propertyUpdates
  let removals := contracts.parameters.propertyRemovals
  tryCatch
    (do
      let table ← loadActive
      call (.commitProperties table updates removals)
      let loaded ← loadActive
      let properties := loaded.view.properties
      raiseIf (propertyDiffers properties updates = true) .workflowAssertion
      raiseIf (removals.any fun key => properties.contains key) .workflowAssertion
      return .passed .updateProperties Step.updateProperties.capability
        [("updated", jsonStrings updates.keys),
          ("removed", jsonStrings (removals.insertionSort (· ≤ ·))),
          ("metadata_location", .string loaded.view.metadataLocation)])
    fun error =>
      pure (unsupportedOr .updateProperties "catalog" error (failure .updateProperties error
        "stock property update did not reload the requested projection" "property-update" []))

def evolveSchema (contracts : ResolvedContracts) (fixture : FixtureIdentity) :
    Py OperationResult :=
  tryCatch
    (do
      let table ← loadActive
      call (.addColumn table "note")
      let evolved ← loadActive
      raiseIf ("note" ∉ evolved.view.schemaNames) .workflowAssertion
      let before ← stateRows
      let widened := before.map fun row => row.insert "note" .none
      setRows widened
      let start ← lift (nextId libraries widened)
      let rows ← lift (batch libraries evolved start contracts.parameters.evolvedRows)
      call (.append evolved rows)
      setRows (widened ++ rows)
      let loaded ← loadActive
      let observation ← assertRows libraries loaded (widened ++ rows)
      return .passed .evolveSchema Step.evolveSchema.capability
        (observation.toFields ++ [("current_fields", jsonStrings loaded.view.schemaNames)]))
    fun error => do
      refreshRows libraries fixture
      return unsupportedOr .evolveSchema "catalog" error (failure .evolveSchema error
        "stock schema evolution and evolved append did not preserve exact rows"
        "schema-evolution" [])

/-- The rows whose id is at least 4. -/
def survivingRows (rows : List Row) : Except PyError (List Row) := do
  let keyed ← rows.mapM fun row => do
    let id ← rowId libraries row
    return (id, row)
  return (keyed.filter fun entry => 4 ≤ entry.1).map Prod.snd

def deleteRows (contracts : ResolvedContracts) (fixture : FixtureIdentity) : Py OperationResult :=
  tryCatch
    (do
      let table ← loadActive
      call (.delete table contracts.parameters.deleteFilter)
      let before ← stateRows
      let rows ← lift (survivingRows libraries before)
      setRows rows
      let loaded ← loadActive
      let observation ← assertRows libraries loaded rows
      return .passed .deleteRows Step.deleteRows.capability
        (observation.toFields ++ [("predicate", Json.string contracts.parameters.deleteFilter)]))
    fun error => do
      refreshRows libraries fixture
      return unsupportedOr .deleteRows "client" error (failure .deleteRows error
        "stock delete and scan did not produce the exact surviving row set" "row-delete" [])

/-- The stale append, which has to conflict. -/
def staleAppend (writer : PyTable) (rows : List Row) : Py Unit := do
  let conflict ← tryCatch
    (do
      call (.append writer rows)
      return none)
    fun error => if error.commitFailed then return some error else raise error
  match conflict with
  | some error =>
    modify fun s => { s with staleConflictClass := some error.exceptionClass }
  | none =>
    let before ← stateRows
    setRows (before ++ rows)
    let loaded ← loadActive
    let _ ← assertRows libraries loaded (before ++ rows)
    raise .workflowAssertion

/-- `rows[0]["id"]`, of which a range is made. -/
def firstId (rows : List Row) : Except PyError ℤ :=
  match rows.head? with
  | none => .error .indexError
  | some row =>
    match row["id"]? with
    | some (.int id) => .ok id
    | some _ => .error .typeError
    | none => .error .keyError

def optionalString (text : Option String) : Json := (text.map Json.string).getD .null

def recoverConflict (contracts : ResolvedContracts) (fixture : FixtureIdentity) :
    Py OperationResult := do
  let count := contracts.parameters.conflictRowsPerWriter
  modify fun s => { s with staleConflictClass := none }
  tryCatch
    (do
      let writerA ← loadActive
      let writerB ← loadActive
      let before ← stateRows
      let start ← lift (nextId libraries before)
      let firstRows ← lift (batch libraries writerA start count)
      let secondRows ← lift (batch libraries writerB (start + count) count)
      call (.append writerA firstRows)
      setRows (before ++ firstRows)
      staleAppend libraries writerB secondRows
      let refreshed ← refresh writerB
      let retryStart ← lift (firstId secondRows)
      let retryRows ← lift (batch libraries refreshed retryStart count)
      call (.append refreshed retryRows)
      setRows (before ++ firstRows ++ secondRows)
      let loaded ← loadActive
      let observation ← assertRows libraries loaded (before ++ firstRows ++ secondRows)
      let s ← get
      return .passed .recoverConflict Step.recoverConflict.capability
        (observation.toFields ++ [("stale_attempt", .string "commit-failed"),
          ("stale_exception_class", optionalString s.staleConflictClass),
          ("refresh_count", jsonInt 1), ("retry_count", jsonInt 1)]))
    fun error => do
      refreshRows libraries fixture
      if error.notImplemented then return unsupportedAfterClientCheck .recoverConflict "client"
      else
        let s ← get
        let finalRows ← lift (rowObservation libraries s.rows)
        return failure .recoverConflict error
          "stale append conflict and one refresh-and-retry did not complete exactly once"
          "conflict-recovery" [("stale_exception_class", optionalString s.staleConflictClass),
            ("final_rows", .object finalRows.toFields)]

/-- The categories of credentials in a table configuration. -/
def credentialCategories (config : StringMap String) : List String :=
  let keys := config.keys.map libraries.lower
  (if (keys.any fun key => key = "s3.access-key-id" || key = "client.access-key-id") &&
      keys.any fun key => key = "s3.secret-access-key" || key = "client.secret-access-key"
    then ["key-pair"] else []) ++
  (if keys.any fun key => key = "s3.session-token" || key = "client.session-token"
    then ["session-token"] else []) ++
  if keys.any fun key => Engine.startsWith key "s3.signer" then ["remote-signing"] else []

def observeDelegatedAccess : Py OperationResult :=
  tryCatch
    (do
      let table ← loadActive
      let categories := credentialCategories libraries table.view.config
      if categories.isEmpty then
        return .unsupported .observeDelegatedAccess Step.observeDelegatedAccess.capability
          ⟨"catalog", "table response config supplied no delegated credential category; " ++
            "the common workflow used fixed fixture credentials", none⟩
      else
        let s ← get
        return .passed .observeDelegatedAccess Step.observeDelegatedAccess.capability
          [("categories", jsonStrings categories), ("credential_values_persisted", .bool false),
            ("object_io_verified", .bool s.objectIoVerified),
            ("requested", .string "vended-credentials")])
    fun error =>
      pure (failure .observeDelegatedAccess error
        "delegated-access response categories could not be classified safely"
        "credential-vending" [])

def renameActive (fixture : FixtureIdentity) : Py OperationResult := do
  let destination := fixture.identifiers.getD 1 []
  let rows ← stateRows
  let before ← lift (rowObservation libraries rows)
  tryCatch
    (do
      let source ← activeIdentifier
      let renamed ← renameTable source destination
      let remains ← tableExists source
      raiseIf (remains = true) .workflowAssertion
      setActive destination
      let observation ← assertRows libraries renamed rows
      raiseIf (observation.rowSha256 ≠ before.rowSha256) .workflowAssertion
      return .passed .renameTable Step.renameTable.capability
        (observation.toFields ++ [("source_absent", Json.bool true),
          ("destination_present", .bool true)]))
    fun error => do
      resolveActive fixture
      return unsupportedOr .renameTable "catalog" error (failure .renameTable error
        "stock rename did not preserve one active identifier and the data digest"
        "table-rename" [])

def reregister (fixture : FixtureIdentity) : Py OperationResult :=
  let destination := fixture.identifiers.getD 2 []
  tryCatch
    (do
      let active ← activeIdentifier
      let table ← loadTable active
      let metadataLocation := table.view.metadataLocation
      let rows ← stateRows
      let before ← lift (rowObservation libraries rows)
      call (.dropTable active false)
      setActive none
      let registered ← registerTable destination metadataLocation
      setActive destination
      raiseIf (registered.view.metadataLocation ≠ metadataLocation) .workflowAssertion
      let observation ← assertRows libraries registered rows
      raiseIf (observation.rowSha256 ≠ before.rowSha256) .workflowAssertion
      return .passed .registerTable Step.registerTable.capability
        (observation.toFields ++ [("metadata_location", Json.string metadataLocation),
          ("purge_requested", .bool false)]))
    fun error => do
      resolveActive fixture
      return unsupportedOr .registerTable "catalog" error (failure .registerTable error
        "stock drop and registration did not preserve retained metadata and data"
        "table-register" [])

/-- A step that the adapter may declare unsupported. -/
def optionalOrSkip (contracts : ResolvedContracts) (step : Step) (prerequisite : Bool)
    (reason : String) (operation : Py OperationResult) : Py OperationResult :=
  match step.capability with
  | none => raise .assertionError
  | some capability =>
    match contracts.adapterLimitation capability with
    | some limitation => return .unsupported step capability limitation
    | none =>
      if prerequisite then operation else return .notEvaluated step capability reason

def knownClientLimitation (contracts : ResolvedContracts) (step : Step) : Py OperationResult :=
  match step.capability with
  | none => raise .assertionError
  | some capability =>
    match contracts.knownClientLimitation capability with
    | some limitation => return .unsupported step capability limitation
    | none => return .failed step capability ⟨"client-policy",
        "catalog_bench_pyiceberg.MissingClientLimitation",
        "pinned-client limitation is absent from the scenario"⟩ []

-- ════════════════════════════════
-- Cleanup
-- ════════════════════════════════

def dropCandidates : List Identifier → Py Unit
  | [] => return ()
  | identifier :: identifiers => do
    let present ← tableExists identifier
    if present = true then
      call (.dropTable identifier false)
      modify fun s => { s with dropped := s.dropped ++ [identifier.getLastD ""] }
      dropCandidates identifiers
    else dropCandidates identifiers

def remainingCandidates : List Identifier → Py (List String)
  | [] => return []
  | identifier :: identifiers => do
    let present ← tableExists identifier
    let remaining ← remainingCandidates identifiers
    return if present = true then identifier.getLastD "" :: remaining else remaining

def dropNamespaceIf (present : Bool) («namespace» : Identifier) : Py Unit :=
  if present = true then call (.dropNamespace «namespace») else pure ()

def reconcile (fixture : FixtureIdentity) : Py OperationResult :=
  tryCatch
    (do
      dropCandidates fixture.identifiers
      let remaining ← remainingCandidates fixture.identifiers
      raiseIf (remaining ≠ []) .workflowAssertion
      let present ← namespaceExists fixture.namespace
      dropNamespaceIf present fixture.namespace
      let remains ← namespaceExists fixture.namespace
      raiseIf (remains = true) .workflowAssertion
      setActive none
      let s ← get
      return .passed .cleanupFixture Step.cleanupFixture.capability
        [("dropped_tables", jsonStrings s.dropped), ("namespace_absent", .bool true),
          ("purge_requested", .bool false), ("table_candidates_absent", .bool true)])
    fun error => do
      let s ← get
      return failure .cleanupFixture error
        "owned fixture reconciliation did not prove every identifier absent" "cleanup"
        [("dropped_tables", jsonStrings s.dropped), ("purge_requested", .bool false)]

def cleanup (fixture : FixtureIdentity) : Py OperationResult := do
  let s ← get
  if s.catalogOpen = false then
    return .notEvaluated .cleanupFixture Step.cleanupFixture.capability
      "catalog was never initialized"
  else if s.ownershipSafe = false then
    return .notEvaluated .cleanupFixture Step.cleanupFixture.capability
      "fixture ownership was not proven; no cleanup mutation was attempted"
  else
    modify fun s => { s with dropped := [] }
    reconcile fixture

-- ════════════════════════════════
-- The run
-- ════════════════════════════════

structure ProbeRun where
  runtime : RuntimeIdentity
  fixture : FixtureIdentity
  operations : List OperationResult
  forbiddenValues : List String

def fixtureOf (contracts : ResolvedContracts) (fixtureId : String) : FixtureIdentity where
  id := fixtureId
  «namespace» :=
    [contracts.parameters.fixturePrefix ++ "_" ++ contracts.catalog ++ "_" ++ fixtureId]
  tableCandidates := ["events", "events_renamed", "events_registered"]

/-- A step that needs an earlier one to have passed. -/
def passedOrSkip (earlier : OperationResult) (step : Step) (reason : String)
    (operation : Py OperationResult) : Py OperationResult :=
  if earlier.status = .pass then operation else return skip step reason

/-- The client is set up only on the pinned runtime; the values it gets are not published. -/
def initialization (contracts : ResolvedContracts) (getenv : String → Option String)
    (verified : OperationResult) : Py (OperationResult × List String) :=
  if verified.status = .pass then do
    let (properties, forbidden) ← lift (catalogProperties libraries contracts getenv)
    let initialized ← initializeCatalog contracts properties
    return (initialized, forbidden)
  else return (skip .initializeCatalog "pinned client runtime did not pass", [])

/-- The optional steps. -/
def optionalSteps (contracts : ResolvedContracts) (fixture : FixtureIdentity) (dataReady : Bool) :
    Py (List OperationResult) := do
  let reason := "initial append and scan did not pass"
  let updated ← optionalOrSkip contracts .updateProperties dataReady reason
    (updateProperties contracts)
  let evolved ← optionalOrSkip contracts .evolveSchema dataReady reason
    (evolveSchema libraries contracts fixture)
  let deleted ← optionalOrSkip contracts .deleteRows dataReady reason
    (deleteRows libraries contracts fixture)
  let recovered ← optionalOrSkip contracts .recoverConflict dataReady reason
    (recoverConflict libraries contracts fixture)
  let delegated ← optionalOrSkip contracts .observeDelegatedAccess dataReady reason
    (observeDelegatedAccess libraries)
  let renamed ← optionalOrSkip contracts .renameTable dataReady reason
    (renameActive libraries fixture)
  let registered ← optionalOrSkip contracts .registerTable dataReady reason
    (reregister libraries fixture)
  return [updated, evolved, deleted, recovered, delegated, renamed, registered]

def sanitized : OperationResult :=
  .passed .sanitizeTranscript none [("credential_policy", .string "categories-only"),
    ("exception_policy", .string "class-and-fixed-explanation-only"),
    ("row_policy", .string "count-range-and-sha256-only")]

/-- `catalog.close()`, whose exceptions are ignored. -/
def closeCatalog : Py Unit := do
  let s ← get
  if s.catalogOpen = true then tryCatch (call .close) fun _ => pure () else pure ()

/-- The steps that act on the fixture. -/
def fixtureSteps (contracts : ResolvedContracts) (fixture : FixtureIdentity)
    (isolated : OperationResult) : Py (List OperationResult) := do
  let «namespace» ← passedOrSkip isolated .namespaceRoundTrip
    "fixture isolation did not pass" (namespaceRoundTrip contracts fixture)
  let table ← passedOrSkip «namespace» .tableRoundTrip
    "namespace round trip did not pass" (tableRoundTrip contracts fixture)
  let appended ← passedOrSkip table .appendScan
    "table round trip did not pass" (appendScan libraries contracts fixture)
  let optional ← optionalSteps libraries contracts fixture (appended.status = .pass)
  let views ← knownClientLimitation contracts .classifyViews
  let pagination ← knownClientLimitation contracts .classifyPagination
  let cleaned ← cleanup fixture
  return [«namespace», table, appended] ++ optional ++ [views, pagination, cleaned, sanitized]

def runProbe (contracts : ResolvedContracts) (fixtureId : String)
    (getenv : String → Option String) (runtime : RuntimeIdentity) : Py ProbeRun := do
  lift (validateFixtureId fixtureId)
  let fixture := fixtureOf contracts fixtureId
  let verified := verifyRuntime contracts runtime
  let (initialized, forbidden) ← initialization libraries contracts getenv verified
  let isolated ← passedOrSkip initialized .preflightFixture
    "catalog initialization did not pass" (preflight fixture)
  let operations ← fixtureSteps libraries contracts fixture isolated
  closeCatalog
  return ⟨runtime, fixture, [verified, initialized, isolated] ++ operations, forbidden⟩

end CatalogBench.PyIceberg
