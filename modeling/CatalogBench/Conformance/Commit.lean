import CatalogBench.Conformance.Pagination

/-!
# The commit probe

The workflow of the commit-correctness scenario: a fixture table, a property commit and a schema
commit under their requirements, a stale commit that must be rejected, the proof of the required
final state, and only then the optional idempotency checks and the cleanup.
-/

set_option linter.all false

namespace CatalogBench.Conformance.Commit
open Interaction Workflow

def createCapability : String := "iceberg-rest.table.create"
def loadCapability : String := "iceberg-rest.table.load"
def updateCapability : String := "iceberg-rest.table.update"
def dropCapability : String := "iceberg-rest.table.drop"
def exactRetryCapability : String := "iceberg-rest.table.commit.exact-retry"
def contentBindingCapability : String := "iceberg-rest.idempotency-key.content-binding"
def namespaceCreateCapability : String := "iceberg-rest.namespace.create"
def namespaceLoadCapability : String := "iceberg-rest.namespace.load"
def namespaceDropCapability : String := "iceberg-rest.namespace.drop"

def ownerProperty : String := "catalog-bench.owner"
def stateProperty : String := "c1-06.state"
def staleProperty : String := "c1-06.stale"
def retryProperty : String := "c1-06.retry"

/-- What the config says about idempotency keys. -/
inductive IdempotencyAdvertisement
  | advertised (source lifetime : String)
  | notAdvertised
  | malformed (source explanation : String)
  | notEvaluated (reason : String)
  deriving DecidableEq

namespace IdempotencyAdvertisement

def fact : IdempotencyAdvertisement → Fact
  | advertised _ _ => .pass
  | notAdvertised => .notEvaluated "config does not advertise idempotency-key-lifetime"
  | malformed source explanation =>
    .fail ("malformed advertisement at `" ++ source ++ "`: " ++ explanation)
  | notEvaluated reason => .notEvaluated reason

def isAdvertised : IdempotencyAdvertisement → Bool
  | advertised _ _ => true
  | _ => false

def unavailableReason : IdempotencyAdvertisement → String
  | notAdvertised => "config does not advertise idempotency-key-lifetime"
  | malformed source explanation => "malformed advertisement at `" ++ source ++ "`: " ++ explanation
  | notEvaluated reason => reason
  | advertised _ _ => "idempotency support is available"

end IdempotencyAdvertisement

structure OptionalCommitOperations where
  exactRetryLimitation : Option String
  contentBindingLimitation : Option String
  deriving DecidableEq

structure CommitIdempotency where
  advertisement : IdempotencyAdvertisement
  operations : OptionalCommitOperations
  key : Option String
  deriving DecidableEq

structure CommitFacts where
  authentication : Fact
  configRouting : Fact
  fixtureIsolated : Fact
  fixtureReady : Fact
  currentRequirements : Fact
  schemaTransition : Fact
  staleRejection : Fact
  idempotencyAdvertisement : Fact
  exactReplay : Fact
  contentBinding : Fact
  requiredFinal : Fact
  cleanup : Fact
  transcriptSanitized : Fact
  deriving DecidableEq

namespace CommitFacts

def new (authenticationReady : Bool) (configRouting advertisement : Fact) : CommitFacts :=
  let pending := Fact.notEvaluated "commit workflow did not reach this check"
  { authentication := .fromBool authenticationReady "authentication negotiation did not complete"
    configRouting
    fixtureIsolated := pending, fixtureReady := pending, currentRequirements := pending
    schemaTransition := pending, staleRejection := pending
    idempotencyAdvertisement := advertisement
    exactReplay := pending, contentBinding := pending, requiredFinal := pending
    cleanup := pending, transcriptSanitized := pending }

def skipAfterFixture (facts : CommitFacts) (reason : String) : CommitFacts :=
  let skipped := Fact.notEvaluated reason
  { facts with
    currentRequirements := skipped, schemaTransition := skipped, staleRejection := skipped
    exactReplay := skipped, contentBinding := skipped, requiredFinal := skipped }

def skipAfterPreflight (facts : CommitFacts) (reason : String) : CommitFacts :=
  let skipped := Fact.notEvaluated reason
  { ({ facts with fixtureReady := skipped }).skipAfterFixture reason with cleanup := skipped }

def skipCommitScenario (facts : CommitFacts) (reason : String) : CommitFacts :=
  ({ facts with fixtureIsolated := .notEvaluated reason }).skipAfterPreflight reason

end CommitFacts

-- ════════════════════════════════
-- Checks
-- ════════════════════════════════

/-- A field as the scenario expects it. -/
structure ExpectedField where
  id : ℤ
  name : String
  required : Bool
  fieldType : Json

/-- The fields are compared one by one. -/
def validateFields (schemaId : ℤ) : List TableField → List ExpectedField → Except String Unit
  | actual :: fields, expected :: rest =>
    if actual.id ≠ expected.id || actual.name ≠ expected.name ||
        actual.required ≠ expected.required || actual.fieldType ≠ expected.fieldType then
      .error ("schema " ++ toString schemaId ++ " does not preserve field `" ++ expected.name ++ "`")
    else validateFields schemaId fields rest
  | _, _ => .ok ()

def validateSchema (schema : TableSchema) (schemaId : ℤ) (expectedFields : List ExpectedField) :
    Except String Unit :=
  if schema.type ≠ "struct" || schema.schemaId ≠ some schemaId then
    .error ("current schema is not struct schema " ++ toString schemaId)
  else if schema.fields.length ≠ expectedFields.length then
    .error ("schema " ++ toString schemaId ++ " has " ++ toString schema.fields.length ++
      " fields instead of " ++ toString expectedFields.length)
  else validateFields schemaId schema.fields expectedFields

def valueField : ExpectedField := ⟨1, "value", false, .string "long"⟩
def noteField : ExpectedField := ⟨2, "note", false, .string "string"⟩

def validateSchemaZero (snapshot : TableSnapshot) : Except String Unit :=
  validateSchema snapshot.schema 0 [valueField]

def validateSchemaOne (snapshot : TableSnapshot) : Except String Unit :=
  if snapshot.lastColumnId ≠ some 2 then
    .error ("transitioned last-column-id " ++ debugOption (snapshot.lastColumnId.map toString) ++
      " does not match 2")
  else validateSchema snapshot.schema 1 [valueField, noteField]

def validateExactSnapshot (expected actual : TableSnapshot) : Except String Unit :=
  if actual = expected then .ok ()
  else .error "table snapshot differs from the exact expected metadata state"

def validateIdentityAndPointerTransition (before after : TableSnapshot) : Except String Unit :=
  if after.uuid ≠ before.uuid then .error "commit changed the table UUID"
  else if after.location ≠ before.location then .error "commit changed the table location"
  else if after.metadataLocation = before.metadataLocation then
    .error "commit did not advance the metadata location"
  else .ok ()

def isScenarioProperty (key : String) : Bool :=
  "catalog-bench.".toList.isPrefixOf key.toList || "c1-06.".toList.isPrefixOf key.toList

/-- The properties the scenario owns. -/
def scenarioProperties (properties : StringMap String) : StringMap String :=
  properties.filter fun key _ => isScenarioProperty key

def validateInitialSnapshot (snapshot : TableSnapshot) (requestedLocation : Option String) :
    Except String TableSnapshot := do
  validateSchemaZero snapshot
  if snapshot.lastColumnId ≠ some 1 then
    throw ("initial last-column-id " ++ debugOption (snapshot.lastColumnId.map toString) ++
      " does not match 1")
  else if requestedLocation.any fun location => snapshot.location ≠ location then
    throw ("created table location `" ++ snapshot.location ++ "` does not preserve `" ++
      requestedLocation.getD "" ++ "`")
  else if snapshot.properties[ownerProperty]? ≠ some "catalog-bench" then
    throw ("initial metadata does not preserve property `" ++ ownerProperty ++ "`")
  else if snapshot.properties[stateProperty]? ≠ some "initial" then
    throw ("initial metadata does not preserve property `" ++ stateProperty ++ "`")
  else return snapshot

section Checks

variable (web : WebCrates)

def validatePropertyTransition (before : TableSnapshot) (commit reload : Observation)
    (property value : String) : Except String TableSnapshot := do
  let committed ← parseTableSnapshot web commit 200
  validateIdentityAndPointerTransition before committed
  if committed.schema ≠ before.schema || committed.lastColumnId ≠ before.lastColumnId then
    throw "property commit changed schema metadata"
  else if scenarioProperties committed.properties ≠
      (scenarioProperties before.properties).insert property value then
    throw ("property commit did not produce the exact `" ++ property ++ "` transition")
  else
    let loaded ← parseTableSnapshot web reload 200
    validateExactSnapshot committed loaded
    return loaded

def validateSchemaTransition (before : TableSnapshot) (commit reload : Observation) :
    Except String TableSnapshot := do
  let committed ← parseTableSnapshot web commit 200
  validateIdentityAndPointerTransition before committed
  validateSchemaOne committed
  if scenarioProperties committed.properties ≠ scenarioProperties before.properties then
    throw "schema transition changed scenario-owned table properties"
  else
    let loaded ← parseTableSnapshot web reload 200
    validateExactSnapshot committed loaded
    return loaded

/-- The table is unchanged in a reload. -/
def validateUnchanged (before : TableSnapshot) (reload : Observation) : Except String Unit := do
  let loaded ← parseTableSnapshot web reload 200
  validateExactSnapshot before loaded

def validateStaleRejection (before : TableSnapshot) (commit reload : Observation) :
    Except String Unit :=
  allResults [validateErrorResponse web commit 409 "CommitFailedException",
    validateUnchanged web before reload]

def validateRequiredFinalState (expected : TableSnapshot) (load : Observation) :
    Except String Unit := do
  let loaded ← parseTableSnapshot web load 200
  validateExactSnapshot expected loaded
  validateSchemaOne loaded
  if loaded.properties[stateProperty]? ≠ some "requirement-accepted" then
    throw ("required final state does not retain `" ++ stateProperty ++ "`")
  else if loaded.properties.contains staleProperty then
    throw ("required final state contains rejected property `" ++ staleProperty ++ "`")
  else return ()

def validateExactReplay (before : TableSnapshot) (first firstReload replay replayReload : Observation) :
    Except String TableSnapshot := do
  let committed ← parseTableSnapshot web first 200
  validateIdentityAndPointerTransition before committed
  if committed.schema ≠ before.schema || committed.lastColumnId ≠ before.lastColumnId ||
      scenarioProperties committed.properties ≠
        (scenarioProperties before.properties).insert retryProperty "accepted-once" then
    throw "first idempotent commit did not apply exactly one property update"
  else
    let firstLoaded ← parseTableSnapshot web firstReload 200
    validateExactSnapshot committed firstLoaded
    let replayed ← parseTableSnapshot web replay 200
    validateExactSnapshot committed replayed
    let replayLoaded ← parseTableSnapshot web replayReload 200
    validateExactSnapshot committed replayLoaded
    return replayLoaded

def validateDriftRejection (before : TableSnapshot) (drift reload : Observation) :
    Except String Unit :=
  allResults [unitResult (validateSpecErrorResponse web drift 409),
    validateUnchanged web before reload]

end Checks

-- ════════════════════════════════
-- The parts of the workflow
-- ════════════════════════════════

def schemaJson (schemaId : ℕ) (fields : List Json) : Json :=
  .object [("fields", .array fields), ("schema-id", natJson schemaId), ("type", .string "struct")]

def fieldJson (id : ℕ) (name fieldType : String) : Json :=
  .object [("id", natJson id), ("name", .string name), ("required", .bool false),
    ("type", .string fieldType)]

def initialSchema : Json := schemaJson 0 [fieldJson 1 "value" "long"]

def transitionedSchema : Json :=
  schemaJson 1 [fieldJson 1 "value" "long", fieldJson 2 "note" "string"]

def propertyCommitBody (uuid : String) (schemaId : ℕ) (property value : String) : Json :=
  .object
    [("requirements", .array
      [.object [("type", .string "assert-table-uuid"), ("uuid", .string uuid)],
        .object [("current-schema-id", natJson schemaId),
          ("type", .string "assert-current-schema-id")]]),
      ("updates", .array [.object [("action", .string "set-properties"),
        ("updates", stringObject [(property, value)])]])]

def schemaCommitBody (uuid : String) : Json :=
  .object
    [("requirements", .array
      [.object [("type", .string "assert-table-uuid"), ("uuid", .string uuid)],
        .object [("current-schema-id", natJson 0), ("type", .string "assert-current-schema-id")],
        .object [("last-assigned-field-id", natJson 1),
          ("type", .string "assert-last-assigned-field-id")]]),
      ("updates", .array
        [.object [("action", .string "add-schema"), ("last-column-id", natJson 2),
            ("schema", transitionedSchema)],
          .object [("action", .string "set-current-schema"), ("schema-id", natJson 1)]])]

section Workflow

variable (setting : Setting) (routes : CatalogRoutes) (fixture : CommitFixture)
  (createLocations : TableCreateLocations)

/-- The URL of the fixture's table. -/
def tableUrl : Except String String := routes.table setting.web fixture.namespace fixture.table

def createNamespace : Workflow (Except String Unit) := do
  let namespaceCreate ← setting.request "create-namespace" namespaceCreateCapability .post
    (routes.namespaceCollection setting.web)
    (some (.object [("namespace", partsJson fixture.namespace),
      ("properties", stringObject [(ownerProperty, "catalog-bench")])]))
  return validateNamespaceParts setting.web namespaceCreate fixture.namespace

def createAndLoadTable : Workflow (Except String TableSnapshot) := do
  let requestedLocation ← ofExcept
    (createLocations.forTable setting.web fixture.namespace fixture.table)
  let create ← setting.request "create-table" createCapability .post
    (routes.tableCollection setting.web fixture.namespace)
    (some (committedTableRequest fixture.table requestedLocation initialSchema
      [(stateProperty, "initial"), (ownerProperty, "catalog-bench")]))
  let load ← setting.request "load-initial-table" loadCapability .get
    (tableUrl setting routes fixture) none
  return do
    let snapshot ← parseTableSnapshot setting.web create 200
    let created ← validateInitialSnapshot snapshot requestedLocation
    let loaded ← parseTableSnapshot setting.web load 200
    validateExactSnapshot created loaded
    return loaded

def createFixture : Workflow (Except String TableSnapshot) := do
  let namespaceCreated ← createNamespace setting routes fixture
  match namespaceCreated with
  | .ok _ => createAndLoadTable setting routes fixture createLocations
  | .error error => do
    let reason := "fixture namespace creation did not pass"
    skipAll [("create-table", createCapability), ("load-initial-table", loadCapability)] reason
    return .error error

def commitCurrentRequirements (before : TableSnapshot) :
    Workflow (Except String TableSnapshot) := do
  let commit ← setting.request "commit-current-requirements" updateCapability .post
    (tableUrl setting routes fixture)
    (some (propertyCommitBody before.uuid 0 stateProperty "requirement-accepted"))
  let reload ← setting.request "reload-after-current-requirements" loadCapability .get
    (tableUrl setting routes fixture) none
  return validatePropertyTransition setting.web before commit reload stateProperty
    "requirement-accepted"

def commitSchemaTransition (before : TableSnapshot) : Workflow (Except String TableSnapshot) := do
  let commit ← setting.request "commit-schema-transition" updateCapability .post
    (tableUrl setting routes fixture) (some (schemaCommitBody before.uuid))
  let reload ← setting.request "reload-after-schema-transition" loadCapability .get
    (tableUrl setting routes fixture) none
  return validateSchemaTransition setting.web before commit reload

def rejectStaleRequirement (before : TableSnapshot) : Workflow (Except String Unit) := do
  let commit ← setting.request "commit-stale-requirement" updateCapability .post
    (tableUrl setting routes fixture)
    (some (propertyCommitBody before.uuid 0 staleProperty "must-not-apply"))
  let reload ← setting.request "reload-after-stale-requirement" loadCapability .get
    (tableUrl setting routes fixture) none
  return validateStaleRejection setting.web before commit reload

def verifyRequiredFinalState (expected : TableSnapshot) : Workflow (Except String Unit) := do
  let load ← setting.request "load-required-final-state" loadCapability .get
    (tableUrl setting routes fixture) none
  return validateRequiredFinalState setting.web expected load

def requestIdempotent (id capability : String) (body : Json) (key : String) :
    Workflow Observation := do
  let url ← ofExcept (tableUrl setting routes fixture)
  setting.attemptIdempotent id capability .post url (some body) key

def attemptExactReplay (before : TableSnapshot) (key : String) :
    Workflow (Except String TableSnapshot) := do
  let body := propertyCommitBody before.uuid 1 retryProperty "accepted-once"
  let first ← requestIdempotent setting routes fixture "commit-idempotent-first"
    exactRetryCapability body key
  let firstReload ← setting.request "reload-after-idempotent-first" exactRetryCapability .get
    (tableUrl setting routes fixture) none
  let replay ← requestIdempotent setting routes fixture "commit-idempotent-replay"
    exactRetryCapability body key
  let replayReload ← setting.request "reload-after-idempotent-replay" exactRetryCapability .get
    (tableUrl setting routes fixture) none
  return validateExactReplay setting.web before first firstReload replay replayReload

def rejectIdempotencyDrift (before : TableSnapshot) (key : String) :
    Workflow (Except String Unit) := do
  let drift ← requestIdempotent setting routes fixture "commit-idempotency-drift"
    contentBindingCapability
    (propertyCommitBody before.uuid 1 retryProperty "drifted-must-not-apply") key
  let reload ← setting.request "reload-after-idempotency-drift" contentBindingCapability .get
    (tableUrl setting routes fixture) none
  return validateDriftRejection setting.web before drift reload

def cleanupSteps : List CheckedRequest :=
  [⟨"cleanup-drop-table", dropCapability, .delete,
      routes.tableDrop setting.web fixture.namespace fixture.table, (validateStatus · [204, 404])⟩,
    ⟨"cleanup-verify-table-absent", loadCapability, .get, tableUrl setting routes fixture,
      (validateErrorResponse setting.web · 404 "NoSuchTableException")⟩,
    ⟨"cleanup-drop-namespace", namespaceDropCapability, .delete,
      routes.namespace setting.web fixture.namespace, (validateStatus · [204, 404])⟩,
    ⟨"cleanup-verify-namespace-absent", namespaceLoadCapability, .get,
      routes.namespace setting.web fixture.namespace,
      (validateErrorResponse setting.web · 404 "NoSuchNamespaceException")⟩]

def cleanupFixture : Workflow (Except String Unit) :=
  cleanup setting (cleanupSteps setting routes fixture)

-- ════════════════════════════════
-- Skipped operations
-- ════════════════════════════════

def staleOperations : List (String × String) :=
  [("commit-stale-requirement", updateCapability), ("reload-after-stale-requirement", loadCapability),
    ("load-required-final-state", loadCapability)]

def schemaOperations : List (String × String) :=
  [("commit-schema-transition", updateCapability),
    ("reload-after-schema-transition", loadCapability)]

def currentOperations : List (String × String) :=
  [("commit-current-requirements", updateCapability),
    ("reload-after-current-requirements", loadCapability)]

def retryOperations : List (String × String) :=
  [("commit-idempotent-first", exactRetryCapability),
    ("reload-after-idempotent-first", exactRetryCapability),
    ("commit-idempotent-replay", exactRetryCapability),
    ("reload-after-idempotent-replay", exactRetryCapability)]

def driftOperations : List (String × String) :=
  [("commit-idempotency-drift", contentBindingCapability),
    ("reload-after-idempotency-drift", contentBindingCapability)]

def skipOptionalCommits (reason : String) : Workflow Unit :=
  skipAll (retryOperations ++ driftOperations) reason

def skipRequiredCommits (reason : String) : Workflow Unit :=
  skipAll (currentOperations ++ schemaOperations ++ staleOperations) reason

def skipAfterCurrentCommit (reason : String) : Workflow Unit := do
  skipAll (schemaOperations ++ staleOperations) reason
  skipOptionalCommits reason

def skipAfterSchemaCommit (reason : String) : Workflow Unit := do
  skipAll staleOperations reason
  skipOptionalCommits reason

def skipCleanup (reason : String) : Workflow Unit :=
  skipAll [("cleanup-drop-table", dropCapability), ("cleanup-verify-table-absent", loadCapability),
    ("cleanup-drop-namespace", namespaceDropCapability),
    ("cleanup-verify-namespace-absent", namespaceLoadCapability)] reason

def skipAfterPreflight (reason : String) : Workflow Unit := do
  skipAll [("create-namespace", namespaceCreateCapability), ("create-table", createCapability),
    ("load-initial-table", loadCapability)] reason
  skipRequiredCommits reason
  skipOptionalCommits reason
  skipCleanup reason

-- ════════════════════════════════
-- The workflow
-- ════════════════════════════════

/-- The optional checks once a key is at hand. -/
def executeWithKey (before : TableSnapshot) (idempotency : CommitIdempotency) (key : String)
    (facts : CommitFacts) : Workflow CommitFacts := do
  let exactSnapshot ← attemptExactReplay setting routes fixture before key
  let facts := { facts with exactReplay := .fromResult (unitResult exactSnapshot) }
  match idempotency.operations.contentBindingLimitation, exactSnapshot with
  | some reason, _ => do
    skipAll driftOperations reason
    return { facts with contentBinding := .notEvaluated reason }
  | none, .ok exactSnapshot => do
    let result ← rejectIdempotencyDrift setting routes fixture exactSnapshot key
    return { facts with contentBinding := .fromResult result }
  | none, .error _ => do
    let reason := facts.exactReplay.explanation "exact idempotency replay did not pass"
    skipAll driftOperations reason
    return { facts with contentBinding := .notEvaluated reason }

def executeOptionalIdempotency (before : TableSnapshot) (idempotency : CommitIdempotency)
    (facts : CommitFacts) : Workflow CommitFacts :=
  if !facts.requiredFinal.passed then do
    let reason := facts.requiredFinal.explanation "required final state did not pass"
    skipOptionalCommits reason
    return { facts with exactReplay := .notEvaluated reason, contentBinding := .notEvaluated reason }
  else if !idempotency.advertisement.isAdvertised then do
    let reason := idempotency.advertisement.unavailableReason
    skipOptionalCommits reason
    return { facts with exactReplay := .notEvaluated reason, contentBinding := .notEvaluated reason }
  else
    match idempotency.operations.exactRetryLimitation, idempotency.key with
    | some reason, _ => do
      skipOptionalCommits reason
      return { facts with
        exactReplay := .notEvaluated reason
        contentBinding := .notEvaluated ("content binding depends on exact retry: " ++ reason) }
    | none, none => do
      let reason := "idempotency key was not generated for an advertised exact-retry check"
      skipOptionalCommits reason
      return { facts with exactReplay := .fail reason, contentBinding := .notEvaluated reason }
    | none, some key => executeWithKey setting routes fixture before idempotency key facts

/-- The cleanup every path past the preflight ends in. -/
def finish (facts : CommitFacts) : Workflow CommitFacts := do
  let cleanup ← cleanupFixture setting routes fixture
  return { facts with cleanup := .fromResult cleanup }

def executeAfterSchema (idempotency : CommitIdempotency) (schemaSnapshot : TableSnapshot)
    (facts : CommitFacts) : Workflow CommitFacts := do
  let stale ← rejectStaleRequirement setting routes fixture schemaSnapshot
  let final ← verifyRequiredFinalState setting routes fixture schemaSnapshot
  let facts := { facts with
    staleRejection := .fromResult stale, requiredFinal := .fromResult final }
  let facts ← executeOptionalIdempotency setting routes fixture schemaSnapshot idempotency facts
  finish setting routes fixture facts

def executeAfterCurrent (idempotency : CommitIdempotency) (currentSnapshot : TableSnapshot)
    (facts : CommitFacts) : Workflow CommitFacts := do
  let schemaSnapshot ← commitSchemaTransition setting routes fixture currentSnapshot
  let facts := { facts with schemaTransition := .fromResult (unitResult schemaSnapshot) }
  match schemaSnapshot with
  | .error _ => do
    let reason := facts.schemaTransition.explanation "schema transition did not pass"
    let skipped := Fact.notEvaluated reason
    skipAfterSchemaCommit reason
    finish setting routes fixture { facts with
      staleRejection := skipped, requiredFinal := skipped, exactReplay := skipped
      contentBinding := skipped }
  | .ok schemaSnapshot => executeAfterSchema setting routes fixture idempotency schemaSnapshot facts

def executeAfterFixture (idempotency : CommitIdempotency) (initialSnapshot : TableSnapshot)
    (facts : CommitFacts) : Workflow CommitFacts := do
  let currentSnapshot ← commitCurrentRequirements setting routes fixture initialSnapshot
  let facts := { facts with currentRequirements := .fromResult (unitResult currentSnapshot) }
  match currentSnapshot with
  | .error _ => do
    let reason := facts.currentRequirements.explanation "current requirement commit did not pass"
    let skipped := Fact.notEvaluated reason
    skipAfterCurrentCommit reason
    finish setting routes fixture { facts with
      schemaTransition := skipped, staleRejection := skipped, requiredFinal := skipped
      exactReplay := skipped, contentBinding := skipped }
  | .ok currentSnapshot =>
    executeAfterCurrent setting routes fixture idempotency currentSnapshot facts

def executeAfterPreflight (idempotency : CommitIdempotency) (facts : CommitFacts) :
    Workflow CommitFacts := do
  let initialSnapshot ← createFixture setting routes fixture createLocations
  let facts := { facts with fixtureReady := .fromResult (unitResult initialSnapshot) }
  match initialSnapshot with
  | .error _ => do
    let reason := facts.fixtureReady.explanation "commit fixture creation did not pass"
    skipRequiredCommits reason
    skipOptionalCommits reason
    finish setting routes fixture (facts.skipAfterFixture reason)
  | .ok initialSnapshot =>
    executeAfterFixture setting routes fixture idempotency initialSnapshot facts

def executeCommitWorkflow (idempotency : CommitIdempotency) (facts : CommitFacts) :
    Workflow CommitFacts := do
  let preflight ← setting.request "preflight-namespace" namespaceLoadCapability .get
    (routes.namespace setting.web fixture.namespace) none
  let facts := { facts with
    fixtureIsolated := .fromResult
      (validateErrorResponse setting.web preflight 404 "NoSuchNamespaceException") }
  if !facts.fixtureIsolated.passed then
    let reason := facts.fixtureIsolated.explanation "fixture preflight did not pass"
    skipAfterPreflight reason
    return facts.skipAfterPreflight reason
  else executeAfterPreflight setting routes fixture createLocations idempotency facts

end Workflow

end CatalogBench.Conformance.Commit
