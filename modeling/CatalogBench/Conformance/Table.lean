import CatalogBench.Conformance.Pagination

/-!
# The table probe

The workflow of the table-behavior scenario: one preflight, the fixture namespace, two tables that
are listed, loaded, updated, renamed, dropped and registered again, and the cleanup.
-/

set_option linter.all false

namespace CatalogBench.Conformance.Table
open Interaction Workflow

def createCapability : String := "iceberg-rest.table.create"
def listCapability : String := "iceberg-rest.table.list"
def loadCapability : String := "iceberg-rest.table.load"
def updateCapability : String := "iceberg-rest.table.update"
def renameCapability : String := "iceberg-rest.table.rename"
def dropCapability : String := "iceberg-rest.table.drop"
def registerCapability : String := "iceberg-rest.table.register"
def namespaceCreateCapability : String := "iceberg-rest.namespace.create"
def namespaceLoadCapability : String := "iceberg-rest.namespace.load"
def namespaceDropCapability : String := "iceberg-rest.namespace.drop"
def errorShapeCapability : String := "iceberg-rest.error.spec-shape"

def ownerProperty : String := "catalog-bench.owner"
def removeProperty : String := "c1-05.remove"
def stateProperty : String := "c1-05.state"

structure OptionalTableOperations where
  renameLimitation : Option String
  registerLimitation : Option String
  deriving DecidableEq

structure TableFacts where
  authentication : Fact
  configRouting : Fact
  fixtureIsolated : Fact
  fixtureNamespace : Fact
  create : Fact
  list : Fact
  load : Fact
  pagination : Fact
  update : Fact
  duplicate : Fact
  missingTable : Fact
  missingNamespace : Fact
  rename : Fact
  dropTable : Fact
  register : Fact
  cleanup : Fact
  transcriptSanitized : Fact
  deriving DecidableEq

namespace TableFacts

def new (authenticationReady : Bool) (configRouting : Fact) : TableFacts :=
  let pending := Fact.notEvaluated "table workflow did not reach this check"
  { authentication := .fromBool authenticationReady "authentication negotiation did not complete"
    configRouting
    fixtureIsolated := pending, fixtureNamespace := pending, create := pending, list := pending
    load := pending, pagination := pending, update := pending, duplicate := pending
    missingTable := pending, missingNamespace := pending, rename := pending, dropTable := pending
    register := pending, cleanup := pending, transcriptSanitized := pending }

def skipTableBehavior (facts : TableFacts) (reason : String) : TableFacts :=
  let skipped := Fact.notEvaluated reason
  { facts with
    create := skipped, list := skipped, load := skipped, pagination := skipped
    update := skipped, duplicate := skipped, rename := skipped, dropTable := skipped
    register := skipped }

def skipMutatingBehavior (facts : TableFacts) (reason : String) : TableFacts :=
  let skipped := Fact.notEvaluated reason
  { ({ facts with fixtureNamespace := skipped }).skipTableBehavior reason with
    missingTable := skipped, cleanup := skipped }

end TableFacts

-- ════════════════════════════════
-- Checks
-- ════════════════════════════════

section Checks

variable (web : WebCrates)

def validateRequestedSchema (schema : TableSchema) : Except String Unit :=
  if schema.type ≠ "struct" then
    .error ("current schema type `" ++ schema.type ++ "` is not `struct`")
  else
    match schema.fields with
    | [field] =>
      if field.id ≠ 1 || field.name ≠ "value" || field.required ||
          field.fieldType ≠ .string "long" then
        .error "current schema does not preserve optional long field `value` (id 1)"
      else .ok ()
    | _ => .error "current schema does not contain exactly one requested field"

/-- The properties a created table must report, checked one after the other. -/
def validateProperties (message : String → String) (properties : StringMap String) :
    List (String × String) → Except String Unit
  | [] => .ok ()
  | (key, expected) :: rest =>
    if properties[key]? ≠ some expected then .error (message key)
    else validateProperties message properties rest

def validateInitialSnapshot (observation : Observation) (requestedLocation : Option String) :
    Except String TableSnapshot := do
  let snapshot ← parseTableSnapshot web observation 200
  validateRequestedSchema snapshot.schema
  if requestedLocation.any fun location => snapshot.location ≠ location then
    throw ("created table location `" ++ snapshot.location ++
      "` does not preserve requested table location `" ++ requestedLocation.getD "" ++ "`")
  else
    validateProperties
      (fun key => "created metadata did not preserve requested property `" ++ key ++ "`")
      snapshot.properties
      [(ownerProperty, "catalog-bench"), (removeProperty, "before"), (stateProperty, "before")]
    return snapshot

def validateUpdate (before : TableSnapshot) (update reload : Observation) :
    Except String TableSnapshot := do
  let committed ← parseTableSnapshot web update 200
  if committed.uuid ≠ before.uuid then throw "table update changed the table UUID"
  else if committed.schema ≠ before.schema then
    throw "property-only update changed the current schema"
  else if committed.metadataLocation = before.metadataLocation then
    throw "table update did not advance the metadata location"
  else if committed.properties[ownerProperty]? ≠ some "catalog-bench" then
    throw ("update did not preserve unmentioned property `" ++ ownerProperty ++ "`")
  else if committed.properties[stateProperty]? ≠ some "after" then
    throw ("update did not set property `" ++ stateProperty ++ "` to `after`")
  else if committed.properties.contains removeProperty then
    throw ("update did not remove property `" ++ removeProperty ++ "`")
  else
    let loaded ← parseTableSnapshot web reload 200
    validateSameTableSnapshot committed loaded
    if loaded.properties ≠ committed.properties then
      throw "reload property map differs from commit response"
    else return loaded

def tableLe (a b : TableIdentifier) : Bool :=
  a.namespace.parts < b.namespace.parts ||
    (a.namespace.parts = b.namespace.parts && decide (a.name ≤ b.name))

def parseListResponse (observation : Observation) : Except String ListTablesResponse :=
  parseJsonResponse web "ListTablesResponse" decodeListTablesResponse observation 200

/-- The identifiers in order, each once. -/
def parseIdentifiers (identifiers : List WireTableIdentifier) :
    Except String (List TableIdentifier) := do
  let parsed ← identifiers.mapM fun identifier => do
    let «namespace» ← NamespaceIdentifier.fromParts identifier.namespace
    TableIdentifier.new «namespace» identifier.name
  if parsed.Nodup then return parsed.mergeSort tableLe
  else throw "listing contains duplicate table identifiers"

def validateCompleteTableSet (identifiers expected : List TableIdentifier) : Except String Unit :=
  let identifiers := identifiers.mergeSort tableLe
  let expected := expected.mergeSort tableLe
  if identifiers = expected then .ok ()
  else .error ("listing returned " ++ debugSet (identifiers.map (debugTable web)) ++
    ", expected exactly " ++ debugSet (expected.map (debugTable web)))

def validateTableListing (observation : Observation) (expected : List TableIdentifier) :
    Except String Unit := do
  let response ← parseListResponse web observation
  let identifiers ← parseIdentifiers response.identifiers
  validateCompleteTableSet web identifiers expected

end Checks

-- ════════════════════════════════
-- The parts of the workflow
-- ════════════════════════════════

section Workflow

variable (setting : Setting) (routes : CatalogRoutes) (fixture : TableFixture)
  (createLocations : TableCreateLocations) (optionalOperations : OptionalTableOperations)

def tableSchemaJson : Json :=
  .object [("fields", .array [.object [("id", natJson 1), ("name", .string "value"),
      ("required", .bool false), ("type", .string "long")]]),
    ("schema-id", natJson 0), ("type", .string "struct")]

structure CreateTableAttempt where
  observation : Observation
  requestedLocation : Option String

def createTable (identifier : TableIdentifier) (operationId : String) :
    Workflow CreateTableAttempt := do
  let requestedLocation ← ofExcept
    (createLocations.forTable setting.web identifier.namespace identifier.name)
  let observation ← setting.request operationId createCapability .post
    (routes.tableCollection setting.web identifier.namespace)
    (some (committedTableRequest identifier.name requestedLocation tableSchemaJson
      [(removeProperty, "before"), (stateProperty, "before"), (ownerProperty, "catalog-bench")]))
  return ⟨observation, requestedLocation⟩

def loadCreatedTable (identifier : TableIdentifier) (operationId : String)
    (created : Except String TableSnapshot) : Workflow (Except String TableSnapshot) :=
  match created with
  | .error _ => do
    let reason := identifier.name ++ " table creation did not pass"
    skip operationId loadCapability reason
    return .error reason
  | .ok created => do
    let observation ← setting.request operationId loadCapability .get
      (routes.table setting.web identifier.namespace identifier.name) none
    return do
      let loaded ← parseTableSnapshot setting.web observation 200
      validateSameTableSnapshot created loaded
      return loaded

def probeMissingTable : Workflow (Except String Unit) := do
  let observation ← setting.request "load-missing-table" errorShapeCapability .get
    (routes.table setting.web fixture.missing.namespace fixture.missing.name) none
  return validateErrorResponse setting.web observation 404 "NoSuchTableException"

def probeMissingNamespace : Workflow (Except String Unit) := do
  let observation ← setting.request "list-tables-missing-namespace" errorShapeCapability .get
    (routes.tableCollection setting.web fixture.missingNamespace) none
  return validateErrorResponse setting.web observation 404 "NoSuchNamespaceException"

def attemptRename (before : TableSnapshot) : Workflow (Except String Unit) := do
  let identifierJson (identifier : TableIdentifier) : Json :=
    .object [("name", .string identifier.name), ("namespace", partsJson identifier.namespace)]
  let rename ← setting.request "rename-primary" renameCapability .post
    (routes.tableRename setting.web)
    (some (.object [("destination", identifierJson fixture.renamed),
      ("source", identifierJson fixture.primary)]))
  let source ← setting.request "load-primary-after-rename" renameCapability .get
    (routes.table setting.web fixture.namespace fixture.primary.name) none
  let destination ← setting.request "load-renamed-after-rename" renameCapability .get
    (routes.table setting.web fixture.namespace fixture.renamed.name) none
  return do
    validateStatus rename [204]
    validateErrorResponse setting.web source 404 "NoSuchTableException"
    let renamed ← parseTableSnapshot setting.web destination 200
    validateSameTableSnapshot before renamed

def dropSibling (sibling : TableIdentifier) : Workflow (Except String Unit) := do
  let drop ← setting.request "drop-sibling-without-purge" dropCapability .delete
    (routes.tableDrop setting.web sibling.namespace sibling.name) none
  let load ← setting.request "load-sibling-after-drop" dropCapability .get
    (routes.table setting.web sibling.namespace sibling.name) none
  return do
    validateStatus drop [204]
    validateErrorResponse setting.web load 404 "NoSuchTableException"

def attemptRegister (registered : TableIdentifier) (source : TableSnapshot) :
    Workflow (Except String Unit) := do
  let register ← setting.request "register-sibling-metadata" registerCapability .post
    (routes.tableRegister setting.web registered.namespace)
    (some (.object [("metadata-location", .string source.metadataLocation),
      ("name", .string registered.name), ("overwrite", .bool false)]))
  let load ← setting.request "load-registered-after-register" registerCapability .get
    (routes.table setting.web registered.namespace registered.name) none
  return do
    let snapshot ← parseTableSnapshot setting.web register 200
    validateSameTableSnapshot source snapshot
    let snapshot ← parseTableSnapshot setting.web load 200
    validateSameTableSnapshot source snapshot

def dropStep (identifier : TableIdentifier) : CheckedRequest :=
  ⟨"cleanup-drop-" ++ identifier.name, dropCapability, .delete,
    routes.tableDrop setting.web identifier.namespace identifier.name,
    (validateStatus · [204, 404])⟩

def absenceStep (identifier : TableIdentifier) : CheckedRequest :=
  ⟨"cleanup-verify-" ++ identifier.name ++ "-absent", dropCapability, .get,
    routes.table setting.web identifier.namespace identifier.name,
    (validateErrorResponse setting.web · 404 "NoSuchTableException")⟩

def cleanupSteps : List CheckedRequest :=
  fixture.candidates.map (dropStep setting routes) ++
    fixture.candidates.map (absenceStep setting routes) ++
    [⟨"cleanup-drop-namespace", namespaceDropCapability, .delete,
      routes.namespace setting.web fixture.namespace, (validateStatus · [204, 404])⟩,
     ⟨"cleanup-verify-namespace-absent", namespaceLoadCapability, .get,
      routes.namespace setting.web fixture.namespace,
      (validateErrorResponse setting.web · 404 "NoSuchNamespaceException")⟩]

def cleanupFixture : Workflow (Except String Unit) :=
  cleanup setting (cleanupSteps setting routes fixture)

def pager : Pager TableIdentifier where
  capability := listCapability
  items := "tables"
  pageUrl token := routes.tablePage setting.web fixture.namespace token pageSize
  parse observation := do
    let page ← parseListResponse setting.web observation
    let identifiers ← parseIdentifiers page.identifiers
    return (identifiers, page.nextPageToken)
  debug := debugTable setting.web
  item := "table"
  complete identifiers :=
    validateCompleteTableSet setting.web identifiers [fixture.primary, fixture.sibling]

-- ════════════════════════════════
-- The workflow
-- ════════════════════════════════

/-- The snapshots of the two created tables. -/
structure Tables where
  primary : Except String TableSnapshot
  sibling : Except String TableSnapshot

def Tables.both (tables : Tables) : Bool := isOk tables.primary && isOk tables.sibling

def createTables : Workflow Tables := do
  let primary ← createTable setting routes createLocations fixture.primary "create-primary"
  let sibling ← createTable setting routes createLocations fixture.sibling "create-sibling"
  return ⟨validateInitialSnapshot setting.web primary.observation primary.requestedLocation,
    validateInitialSnapshot setting.web sibling.observation sibling.requestedLocation⟩

/-- The created tables have different UUIDs. -/
def createResult (created : Tables) : Except String Unit := do
  let primary ← created.primary
  let sibling ← created.sibling
  if primary.uuid = sibling.uuid then throw "created tables returned the same table UUID"
  else return ()

def listTables (created : Tables) : Workflow Fact :=
  if created.both then do
    let listing ← setting.request "list-tables" listCapability .get
      (routes.tableCollection setting.web fixture.namespace) none
    return .fromResult (validateTableListing setting.web listing
      [fixture.primary, fixture.sibling])
  else do
    let reason := "both table creates must pass before ordinary listing"
    skip "list-tables" listCapability reason
    return .notEvaluated reason

def loadTables (created : Tables) : Workflow Tables := do
  let primary ← loadCreatedTable setting routes fixture.primary "load-primary" created.primary
  let sibling ← loadCreatedTable setting routes fixture.sibling "load-sibling" created.sibling
  return ⟨primary, sibling⟩

def paginate (created : Tables) : Workflow (PaginationTranscript × Fact) :=
  if created.both then do
    let (pagination, result) ← traversePages setting (pager setting routes fixture)
    return (pagination, .fromResult result)
  else do
    let reason := "both table creates must pass before pagination"
    skip (pageId 1) listCapability reason
    return (.notEvaluated reason, .notEvaluated reason)

/-- The snapshot of the primary table after its update, if it passed. -/
def updatePrimary (loaded : Tables) : Workflow (Fact × Option TableSnapshot) :=
  match loaded.primary, loaded.sibling with
  | .ok before, .ok _ => do
    let update ← setting.request "update-primary-properties" updateCapability .post
      (routes.table setting.web fixture.namespace fixture.primary.name)
      (some (.object [("requirements", .array []),
        ("updates", .array
          [.object [("action", .string "set-properties"),
              ("updates", stringObject [(stateProperty, "after")])],
            .object [("action", .string "remove-properties"),
              ("removals", .array [.string removeProperty])]])]))
    let reload ← setting.request "reload-primary-after-update" updateCapability .get
      (routes.table setting.web fixture.namespace fixture.primary.name) none
    match validateUpdate setting.web before update reload with
    | .ok snapshot => return (.pass, some snapshot)
    | .error error => return (.fail error, none)
  | _, _ => do
    let reason := "both table loads must pass before update"
    skipAll [("update-primary-properties", updateCapability),
      ("reload-primary-after-update", updateCapability)] reason
    return (.notEvaluated reason, none)

def duplicatePrimary (created : Tables) : Workflow Fact :=
  if created.both then do
    let duplicate ← createTable setting routes createLocations fixture.primary
      "create-primary-duplicate"
    return .fromResult
      (validateErrorResponse setting.web duplicate.observation 409 "AlreadyExistsException")
  else do
    let reason := "primary table creation did not pass"
    skip "create-primary-duplicate" createCapability reason
    return .notEvaluated reason

def renameOperations : List (String × String) :=
  [("rename-primary", renameCapability), ("load-primary-after-rename", renameCapability),
    ("load-renamed-after-rename", renameCapability)]

def renamePrimary (updated : Option TableSnapshot) : Workflow Fact :=
  match optionalOperations.renameLimitation, updated with
  | some reason, _ => do
    skipAll renameOperations reason
    return .notEvaluated reason
  | none, some before => do
    let result ← attemptRename setting routes fixture before
    return .fromResult result
  | none, none => do
    let reason := "primary table update did not pass"
    skipAll renameOperations reason
    return .notEvaluated reason

/-- The snapshot of the sibling table before its drop, if the drop passed. -/
def dropTable (loaded : Tables) : Workflow (Fact × Option TableSnapshot) :=
  match loaded.primary, loaded.sibling with
  | .ok _, .ok snapshot => do
    let result ← dropSibling setting routes fixture.sibling
    return (.fromResult result, if isOk result then some snapshot else none)
  | _, _ => do
    let reason := "both table loads must pass before drop"
    skipAll [("drop-sibling-without-purge", dropCapability),
      ("load-sibling-after-drop", dropCapability)] reason
    return (.notEvaluated reason, none)

def registerOperations : List (String × String) :=
  [("register-sibling-metadata", registerCapability),
    ("load-registered-after-register", registerCapability)]

def registerSibling (dropped : Option TableSnapshot) : Workflow Fact :=
  match optionalOperations.registerLimitation, dropped with
  | some reason, _ => do
    skipAll registerOperations reason
    return .notEvaluated reason
  | none, some source => do
    let result ← attemptRegister setting routes fixture.registered source
    return .fromResult result
  | none, none => do
    let reason := "sibling drop did not pass"
    skipAll registerOperations reason
    return .notEvaluated reason

/-- The table operations on the created namespace. -/
def exerciseFixture (facts : TableFacts) : Workflow (PaginationTranscript × TableFacts) := do
  let created ← createTables setting routes fixture createLocations
  let list ← listTables setting routes fixture created
  let loaded ← loadTables setting routes fixture created
  let (pagination, paginationFact) ← paginate setting routes fixture created
  let (update, updated) ← updatePrimary setting routes fixture loaded
  let duplicate ← duplicatePrimary setting routes fixture createLocations created
  let missingTable ← probeMissingTable setting routes fixture
  let missingNamespace ← probeMissingNamespace setting routes fixture
  let rename ← renamePrimary setting routes fixture optionalOperations updated
  let (dropTable, dropped) ← dropTable setting routes fixture loaded
  let register ← registerSibling setting routes fixture optionalOperations dropped
  return (pagination,
    { facts with
      create := .fromResult (createResult created)
      list
      load := if created.both then
          .fromResult (allResults [unitResult loaded.primary, unitResult loaded.sibling])
        else .notEvaluated "both table creates must pass before load round-trip"
      pagination := paginationFact, update, duplicate
      missingTable := .fromResult missingTable
      missingNamespace := .fromResult missingNamespace
      rename, dropTable, register })

def tableOperations : List (String × String) :=
  [("create-primary", createCapability), ("create-sibling", createCapability),
    ("list-tables", listCapability), ("load-primary", loadCapability),
    ("load-sibling", loadCapability), ("list-page-001", listCapability),
    ("update-primary-properties", updateCapability),
    ("reload-primary-after-update", updateCapability),
    ("create-primary-duplicate", createCapability), ("rename-primary", renameCapability),
    ("load-primary-after-rename", renameCapability),
    ("load-renamed-after-rename", renameCapability),
    ("drop-sibling-without-purge", dropCapability), ("load-sibling-after-drop", dropCapability),
    ("register-sibling-metadata", registerCapability),
    ("load-registered-after-register", registerCapability)]

def skipTableOperations (reason : String) : Workflow Unit := skipAll tableOperations reason

def skipMutatingWorkflow (reason : String) : Workflow Unit := do
  skip "create-namespace" namespaceCreateCapability reason
  skipTableOperations reason
  skipAll (["primary", "renamed", "sibling", "registered"].map fun identifier =>
    ("cleanup-drop-" ++ identifier, dropCapability)) reason
  skipAll (["primary", "renamed", "sibling", "registered"].map fun identifier =>
    ("cleanup-verify-" ++ identifier ++ "-absent", dropCapability)) reason
  skip "cleanup-drop-namespace" namespaceDropCapability reason
  skip "cleanup-verify-namespace-absent" namespaceLoadCapability reason

/-- What is left of the workflow when its namespace was not created. -/
def exerciseWithoutNamespace (facts : TableFacts) :
    Workflow (PaginationTranscript × TableFacts) := do
  let reason := "fixture namespace creation did not pass"
  skipTableOperations reason
  let missingTable ← probeMissingTable setting routes fixture
  let missingNamespace ← probeMissingNamespace setting routes fixture
  return (.notEvaluated reason,
    { facts.skipTableBehavior reason with
      missingTable := .fromResult missingTable, missingNamespace := .fromResult missingNamespace })

def createNamespace : Workflow (Except String Unit) := do
  let namespaceCreate ← setting.request "create-namespace" namespaceCreateCapability .post
    (routes.namespaceCollection setting.web)
    (some (.object [("namespace", partsJson fixture.namespace),
      ("properties", stringObject [("catalog-bench.owner", "catalog-bench")])]))
  return validateNamespaceParts setting.web namespaceCreate fixture.namespace

/-- Everything between the creation of the namespace and the cleanup. -/
def exercise (namespaceCreated : Except String Unit) (facts : TableFacts) :
    Workflow (PaginationTranscript × TableFacts) :=
  if !isOk namespaceCreated then exerciseWithoutNamespace setting routes fixture facts
  else exerciseFixture setting routes fixture createLocations optionalOperations facts

def executeTableWorkflow (facts : TableFacts) : Workflow (PaginationTranscript × TableFacts) := do
  let preflight ← setting.request "preflight-namespace" namespaceLoadCapability .get
    (routes.namespace setting.web fixture.namespace) none
  let facts := { facts with
    fixtureIsolated := .fromResult
      (validateErrorResponse setting.web preflight 404 "NoSuchNamespaceException") }
  if !facts.fixtureIsolated.passed then
    let reason := facts.fixtureIsolated.explanation "fixture preflight did not pass"
    skipMutatingWorkflow reason
    let missingNamespace ← probeMissingNamespace setting routes fixture
    return (.notEvaluated reason,
      { facts.skipMutatingBehavior reason with missingNamespace := .fromResult missingNamespace })
  else
    let namespaceCreated ← createNamespace setting routes fixture
    let facts := { facts with fixtureNamespace := .fromResult namespaceCreated }
    let (pagination, facts) ← exercise setting routes fixture createLocations optionalOperations
      namespaceCreated facts
    let cleanup ← cleanupFixture setting routes fixture
    return (pagination, { facts with cleanup := .fromResult cleanup })

end Workflow

end CatalogBench.Conformance.Table
