import CatalogBench.Conformance.Pagination
import Mathlib.Data.List.Lex
import Mathlib.Data.String.Basic

/-!
# The namespace probe

The workflow of the namespace-behavior scenario: three preflights, the creates with what depends
on them, the pages of the listing, the probe for a missing parent, and the cleanup.
-/

set_option linter.all false

namespace CatalogBench.Conformance.Namespace
open Interaction Workflow

def createCapability : String := "iceberg-rest.namespace.create"
def listCapability : String := "iceberg-rest.namespace.list"
def loadCapability : String := "iceberg-rest.namespace.load"
def updateCapability : String := "iceberg-rest.namespace.update-properties"
def dropCapability : String := "iceberg-rest.namespace.drop"
def hierarchyCapability : String := "iceberg-rest.namespace.hierarchy"
def paginationCapability : String := "iceberg-rest.namespace.pagination"
def duplicateCapability : String := "iceberg-rest.namespace.error.duplicate"
def missingParentCapability : String := "iceberg-rest.namespace.error.missing-parent"

def ownerProperty : String := "owner"
def removeProperty : String := "c1-04.remove"
def stateProperty : String := "c1-04.state"

structure NamespaceFacts where
  authentication : Fact
  configRouting : Fact
  fixtureIsolated : Fact
  create : Fact
  list : Fact
  load : Fact
  properties : Fact
  duplicate : Fact
  hierarchy : Fact
  pagination : Fact
  missingParent : Fact
  cleanup : Fact
  transcriptSanitized : Fact
  deriving DecidableEq

namespace NamespaceFacts

def new (authenticationReady : Bool) (configRouting : Fact) : NamespaceFacts :=
  let pending := Fact.notEvaluated "namespace workflow did not reach this check"
  { authentication := .fromBool authenticationReady "authentication negotiation did not complete"
    configRouting
    fixtureIsolated := pending, create := pending, list := pending, load := pending
    properties := pending, duplicate := pending, hierarchy := pending, pagination := pending
    missingParent := pending, cleanup := pending, transcriptSanitized := pending }

def skipMutatingBehavior (facts : NamespaceFacts) (reason : String) : NamespaceFacts :=
  let skipped := Fact.notEvaluated reason
  { facts with
    create := skipped, list := skipped, load := skipped, properties := skipped
    duplicate := skipped, hierarchy := skipped, pagination := skipped, cleanup := skipped }

end NamespaceFacts

-- ════════════════════════════════
-- Checks
-- ════════════════════════════════

section Checks

variable (web : WebCrates)

def validateNamespaceResponse (observation : Observation) (status : ℕ)
    (expected : NamespaceIdentifier) : Except String NamespaceResponse := do
  let response ← parseJsonResponse web "NamespaceResponse" decodeNamespaceResponse observation
    status
  let actual ← NamespaceIdentifier.fromParts response.namespace
  if actual ≠ expected then
    throw ("response namespace " ++ debugParts web actual ++ " does not match " ++
      debugParts web expected)
  else return response

def parseListResponse (observation : Observation) (status : ℕ) :
    Except String ListNamespacesResponse :=
  parseJsonResponse web "ListNamespacesResponse" decodeListNamespacesResponse observation status

/-- The identifiers in order, each once. -/
def parseNamespaces (namespaces : List (List String)) :
    Except String (List NamespaceIdentifier) := do
  let parsed ← namespaces.mapM NamespaceIdentifier.fromParts
  if parsed.Nodup then return parsed.mergeSort fun a b => decide (a.parts ≤ b.parts)
  else throw "listing contains duplicate namespace identifiers"

def validateCompleteNamespaceSet (namespaces : List NamespaceIdentifier) :
    List NamespaceIdentifier → Except String Unit
  | [] => .ok ()
  | expected :: rest =>
    if expected ∈ namespaces then validateCompleteNamespaceSet namespaces rest
    else .error ("listing omitted expected namespace " ++ debugParts web expected)

def validateTopLevelListing (observation : Observation) (expected : List NamespaceIdentifier) :
    Except String Unit := do
  let response ← parseListResponse web observation 200
  let namespaces ← parseNamespaces response.namespaces
  validateCompleteNamespaceSet web namespaces expected

def validateHierarchyListing (observation : Observation) (child : NamespaceIdentifier) :
    Except String Unit := do
  let response ← parseListResponse web observation 200
  let namespaces ← parseNamespaces response.namespaces
  if namespaces = [child] then return ()
  else throw ("parent listing returned " ++ debugSet (namespaces.map (debugNamespace web)) ++
    ", expected only " ++ debugParts web child)

def validatePropertyUpdate (update reload : Observation) (fixture : NamespaceFixture) :
    Except String Unit := do
  let update ← parseJsonResponse web "UpdateNamespacePropertiesResponse"
    decodeUpdateNamespacePropertiesResponse update 200
  if stateProperty ∉ update.updated then
    throw ("update response did not report `" ++ stateProperty ++ "`")
  else if removeProperty ∉ update.removed then
    throw ("update response did not report `" ++ removeProperty ++ "`")
  else
    let loaded ← validateNamespaceResponse web reload 200 fixture.primary
    match loaded.properties with
    | none => throw "loaded namespace returned null or omitted properties"
    | some properties =>
      if properties[ownerProperty]? ≠ some "catalog-bench" then
        throw ("unmentioned `" ++ ownerProperty ++ "` property was not preserved")
      else if properties[stateProperty]? ≠ some "after" then
        throw ("updated `" ++ stateProperty ++ "` property was not persisted")
      else if properties.contains removeProperty then
        throw ("removed `" ++ removeProperty ++ "` property is still present")
      else return ()

end Checks

-- ════════════════════════════════
-- The workflow
-- ════════════════════════════════

section Workflow

variable (setting : Setting) (routes : CatalogRoutes) (fixture : NamespaceFixture)

def preflightOperations : List (String × NamespaceIdentifier) :=
  [("preflight-primary", fixture.primary), ("preflight-sibling", fixture.sibling),
    ("preflight-child", fixture.child)]

def preflightFixture : Workflow (List (Except String Unit)) :=
  (preflightOperations fixture).mapM fun operation => do
    let observation ← setting.request operation.1 loadCapability .get
      (routes.namespace setting.web operation.2) none
    return validateErrorResponse setting.web observation 404 "NoSuchNamespaceException"

def probeMissingParent : Workflow (Except String Unit) := do
  let observation ← setting.request "list-missing-parent" missingParentCapability .get
    (routes.namespacesUnder setting.web fixture.missingParent) none
  return validateErrorResponse setting.web observation 404 "NoSuchNamespaceException"

/-- A drop and the check that the namespace is gone. -/
def dropStep (id : String) (identifier : NamespaceIdentifier) : CheckedRequest :=
  ⟨id, dropCapability, .delete, routes.namespace setting.web identifier,
    (validateStatus · [204, 404])⟩

def absenceStep (id : String) (identifier : NamespaceIdentifier) : CheckedRequest :=
  ⟨id, dropCapability, .get, routes.namespace setting.web identifier, (validateStatus · [404])⟩

def cleanupSteps : List CheckedRequest :=
  [dropStep setting routes "drop-child" fixture.child,
    dropStep setting routes "drop-sibling" fixture.sibling,
    dropStep setting routes "drop-primary" fixture.primary,
    absenceStep setting routes "verify-child-absent" fixture.child,
    absenceStep setting routes "verify-sibling-absent" fixture.sibling,
    absenceStep setting routes "verify-primary-absent" fixture.primary]

def cleanupFixture : Workflow (Except String Unit) :=
  cleanup setting (cleanupSteps setting routes fixture)

def pager : Pager NamespaceIdentifier where
  capability := paginationCapability
  items := "namespaces"
  pageUrl token := routes.namespacePage setting.web token pageSize
  parse observation := do
    let page ← parseListResponse setting.web observation 200
    let namespaces ← parseNamespaces page.namespaces
    return (namespaces, page.nextPageToken)
  debug := debugNamespace setting.web
  item := "namespace"
  complete namespaces :=
    validateCompleteNamespaceSet setting.web namespaces [fixture.primary, fixture.sibling]

def createBody (identifier : NamespaceIdentifier) (properties : List (String × String)) : Json :=
  .object [("namespace", partsJson identifier), ("properties", stringObject properties)]

def primaryProperties : List (String × String) :=
  [(removeProperty, "before"), (ownerProperty, "catalog-bench")]

/-- The results of the three creates. -/
structure Creates where
  primary : Except String Unit
  sibling : Except String Unit
  child : Except String Unit

def createChild (primary : Except String Unit) : Workflow (Except String Unit) :=
  if isOk primary then do
    let childCreate ← setting.request "create-child" createCapability .post
      (routes.namespaceCollection setting.web) (some (createBody fixture.child []))
    return unitResult (validateNamespaceResponse setting.web childCreate 200 fixture.child)
  else do
    skip "create-child" createCapability "primary namespace creation did not pass"
    return .error "child create was not attempted"

def createNamespaces : Workflow Creates := do
  let primaryCreate ← setting.request "create-primary" createCapability .post
    (routes.namespaceCollection setting.web) (some (createBody fixture.primary primaryProperties))
  let siblingCreate ← setting.request "create-sibling" createCapability .post
    (routes.namespaceCollection setting.web) (some (createBody fixture.sibling []))
  let primary := unitResult (validateNamespaceResponse setting.web primaryCreate 200 fixture.primary)
  let sibling := unitResult (validateNamespaceResponse setting.web siblingCreate 200 fixture.sibling)
  let child ← createChild setting routes fixture primary
  return ⟨primary, sibling, child⟩

def listTopLevel (creates : Creates) : Workflow Fact :=
  if isOk creates.primary && isOk creates.sibling then do
    let listing ← setting.request "list-top-level" listCapability .get
      (routes.namespaceCollection setting.web) none
    return .fromResult (validateTopLevelListing setting.web listing
      [fixture.primary, fixture.sibling])
  else do
    let reason := "both top-level namespace creates must pass before listing"
    skip "list-top-level" listCapability reason
    return .notEvaluated reason

/-- Load, update, reload and re-create the primary namespace. -/
def exercisePrimary (creates : Creates) (facts : NamespaceFacts) : Workflow NamespaceFacts :=
  if isOk creates.primary then do
    let load ← setting.request "load-primary" loadCapability .get
      (routes.namespace setting.web fixture.primary) none
    let update ← setting.request "update-primary-properties" updateCapability .post
      (routes.namespaceProperties setting.web fixture.primary)
      (some (.object [("removals", .array [.string removeProperty]),
        ("updates", stringObject [(stateProperty, "after")])]))
    let reload ← setting.request "reload-primary-properties" updateCapability .get
      (routes.namespace setting.web fixture.primary) none
    let duplicate ← setting.request "create-primary-duplicate" duplicateCapability .post
      (routes.namespaceCollection setting.web) (some (createBody fixture.primary primaryProperties))
    return { facts with
      load := .fromResult (unitResult
        (validateNamespaceResponse setting.web load 200 fixture.primary))
      properties := .fromResult (validatePropertyUpdate setting.web update reload fixture)
      duplicate := .fromResult
        (validateErrorResponse setting.web duplicate 409 "AlreadyExistsException") }
  else do
    let reason := "primary namespace creation did not pass"
    skipAll [("load-primary", loadCapability), ("update-primary-properties", updateCapability),
      ("reload-primary-properties", updateCapability),
      ("create-primary-duplicate", duplicateCapability)] reason
    return { facts with
      load := .notEvaluated reason, properties := .notEvaluated reason
      duplicate := .notEvaluated reason }

def listChildren (creates : Creates) : Workflow Fact :=
  if isOk creates.child then do
    let hierarchy ← setting.request "list-primary-children" hierarchyCapability .get
      (routes.namespacesUnder setting.web fixture.primary) none
    return .fromResult (validateHierarchyListing setting.web hierarchy fixture.child)
  else do
    let reason := "multipart child creation did not pass"
    skip "list-primary-children" hierarchyCapability reason
    return .notEvaluated reason

def paginate (creates : Creates) : Workflow (PaginationTranscript × Fact) :=
  if isOk creates.primary && isOk creates.sibling then do
    let (pagination, result) ← traversePages setting (pager setting routes fixture)
    return (pagination, .fromResult result)
  else do
    let reason := "both top-level namespace creates must pass before pagination"
    skip (pageId 1) paginationCapability reason
    return (.notEvaluated reason, .notEvaluated reason)

/-- Everything between the preflights and the cleanup. -/
def exerciseFixture (facts : NamespaceFacts) : Workflow (PaginationTranscript × NamespaceFacts) := do
  let creates ← createNamespaces setting routes fixture
  let facts := { facts with
    create := .fromResult (allResults [creates.primary, creates.sibling, creates.child]) }
  let list ← listTopLevel setting routes fixture creates
  let facts ← exercisePrimary setting routes fixture creates { facts with list }
  let hierarchy ← listChildren setting routes fixture creates
  let (pagination, paginationFact) ← paginate setting routes fixture creates
  let missingParent ← probeMissingParent setting routes fixture
  return (pagination,
    { facts with hierarchy, pagination := paginationFact
                 missingParent := .fromResult missingParent })

def remainingMutations : List (String × String) :=
  [("create-primary", createCapability), ("create-sibling", createCapability),
    ("create-child", createCapability), ("list-top-level", listCapability),
    ("load-primary", loadCapability), ("update-primary-properties", updateCapability),
    ("reload-primary-properties", updateCapability),
    ("create-primary-duplicate", duplicateCapability),
    ("list-primary-children", hierarchyCapability), ("list-page-001", paginationCapability),
    ("drop-child", dropCapability), ("drop-sibling", dropCapability),
    ("drop-primary", dropCapability), ("verify-child-absent", dropCapability),
    ("verify-sibling-absent", dropCapability), ("verify-primary-absent", dropCapability)]

def executeNamespaceWorkflow (facts : NamespaceFacts) :
    Workflow (PaginationTranscript × NamespaceFacts) := do
  let preflight ← preflightFixture setting routes fixture
  let facts := { facts with fixtureIsolated := .fromResult (allResults preflight) }
  if !facts.fixtureIsolated.passed then
    let reason := facts.fixtureIsolated.explanation "fixture preflight did not pass"
    skipAll remainingMutations reason
    let missingParent ← probeMissingParent setting routes fixture
    return (.notEvaluated reason,
      { facts.skipMutatingBehavior reason with missingParent := .fromResult missingParent })
  else
    let (pagination, facts) ← exerciseFixture setting routes fixture facts
    let cleanup ← cleanupFixture setting routes fixture
    return (pagination, { facts with cleanup := .fromResult cleanup })

end Workflow

end CatalogBench.Conformance.Namespace
