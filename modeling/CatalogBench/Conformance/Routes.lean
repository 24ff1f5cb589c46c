import CatalogBench.Conformance.Operation

/-!
# Routes, fixtures and table snapshots

The URLs of a catalog, the names a probe uses for its fixture, and the part of a table response
that the table and commit probes compare.
-/

set_option linter.all false

namespace CatalogBench.Conformance
open Interaction

-- ════════════════════════════════
-- Routes
-- ════════════════════════════════

structure NamespaceCodec where
  separator : String
  deriving DecidableEq

def NamespaceCodec.join (codec : NamespaceCodec) («namespace» : NamespaceIdentifier) : String :=
  String.intercalate codec.separator «namespace».parts

structure CatalogRoutes where
  baseUrl : String
  routePrefix : Option String
  codec : NamespaceCodec
  deriving DecidableEq

namespace CatalogRoutes

variable (web : WebCrates) (routes : CatalogRoutes)

def resourceUrl (tail : List String) : Except String String :=
  match web.normalizeUrl routes.baseUrl with
  | .error _ => .error ("invalid adapter base URL `" ++ routes.baseUrl ++ "`")
  | .ok url =>
    if web.cannotBeABase url then .error "adapter base URL cannot carry path segments"
    else .ok (web.pushSegments url (["v1"] ++ routes.routePrefix.toList ++ tail))

def namespaceCollection : Except String String := routes.resourceUrl web ["namespaces"]

def «namespace» («namespace» : NamespaceIdentifier) : Except String String :=
  routes.resourceUrl web ["namespaces", routes.codec.join «namespace»]

def namespaceProperties («namespace» : NamespaceIdentifier) : Except String String :=
  routes.resourceUrl web ["namespaces", routes.codec.join «namespace», "properties"]

def namespacesUnder (parent : NamespaceIdentifier) : Except String String := do
  let url ← routes.namespaceCollection web
  return web.appendPairs url [("parent", routes.codec.join parent)]

def namespacePage (token : String) (size : ℕ) : Except String String := do
  let url ← routes.namespaceCollection web
  return web.appendPairs url [("pageToken", token), ("pageSize", toString size)]

def tableCollection («namespace» : NamespaceIdentifier) : Except String String :=
  routes.resourceUrl web ["namespaces", routes.codec.join «namespace», "tables"]

def table («namespace» : NamespaceIdentifier) (name : String) : Except String String :=
  routes.resourceUrl web ["namespaces", routes.codec.join «namespace», "tables", name]

def tablePage («namespace» : NamespaceIdentifier) (token : String) (size : ℕ) :
    Except String String := do
  let url ← routes.tableCollection web «namespace»
  return web.appendPairs url [("pageToken", token), ("pageSize", toString size)]

def tableRegister («namespace» : NamespaceIdentifier) : Except String String :=
  routes.resourceUrl web ["namespaces", routes.codec.join «namespace», "register"]

def tableRename : Except String String := routes.resourceUrl web ["tables", "rename"]

/-- `table_drop_url`. -/
def tableDrop («namespace» : NamespaceIdentifier) (name : String) : Except String String := do
  let url ← routes.table web «namespace» name
  return web.appendPairs url [("purgeRequested", "false")]

/-- URLs can be built under the base URL. -/
def Buildable : Prop :=
  ∃ url, web.normalizeUrl routes.baseUrl = .ok url ∧ web.cannotBeABase url = false

/-- The text of a built URL. -/
def built (url : Except String String) : String := url.toOption.getD ""

/-- A URL that was built shows that all can be built. -/
theorem buildable_of_eq_ok {web : WebCrates} {routes : CatalogRoutes} {tail : List String}
    {url : String} (h : routes.resourceUrl web tail = .ok url) : routes.Buildable web := by
  unfold resourceUrl at h
  split at h
  · cases h
  next base hbase =>
  split at h
  · cases h
  · next hcannot => exact ⟨base, hbase, Bool.eq_false_iff.mpr hcannot⟩

section Buildable

variable {web : WebCrates} {routes : CatalogRoutes} (h : routes.Buildable web)

include h

theorem resourceUrl_eq (tail : List String) :
    routes.resourceUrl web tail = .ok (built (routes.resourceUrl web tail)) := by
  obtain ⟨url, hparse, hbase⟩ := h
  simp [resourceUrl, hparse, hbase, built, Except.toOption]

theorem namespaceCollection_eq :
    routes.namespaceCollection web = .ok (built (routes.namespaceCollection web)) :=
  resourceUrl_eq h _

theorem namespace_eq (identifier : NamespaceIdentifier) :
    routes.namespace web identifier = .ok (built (routes.namespace web identifier)) :=
  resourceUrl_eq h _

theorem namespaceProperties_eq (identifier : NamespaceIdentifier) :
    routes.namespaceProperties web identifier =
      .ok (built (routes.namespaceProperties web identifier)) :=
  resourceUrl_eq h _

theorem tableCollection_eq (identifier : NamespaceIdentifier) :
    routes.tableCollection web identifier = .ok (built (routes.tableCollection web identifier)) :=
  resourceUrl_eq h _

theorem table_eq (identifier : NamespaceIdentifier) (name : String) :
    routes.table web identifier name = .ok (built (routes.table web identifier name)) :=
  resourceUrl_eq h _

theorem tableRegister_eq (identifier : NamespaceIdentifier) :
    routes.tableRegister web identifier = .ok (built (routes.tableRegister web identifier)) :=
  resourceUrl_eq h _

theorem tableRename_eq : routes.tableRename web = .ok (built (routes.tableRename web)) :=
  resourceUrl_eq h _

theorem namespacesUnder_eq (parent : NamespaceIdentifier) :
    routes.namespacesUnder web parent = .ok (built (routes.namespacesUnder web parent)) := by
  rw [namespacesUnder, namespaceCollection_eq h]
  rfl

theorem namespacePage_eq (token : String) (size : ℕ) :
    routes.namespacePage web token size = .ok (built (routes.namespacePage web token size)) := by
  rw [namespacePage, namespaceCollection_eq h]
  rfl

theorem tablePage_eq (identifier : NamespaceIdentifier) (token : String) (size : ℕ) :
    routes.tablePage web identifier token size =
      .ok (built (routes.tablePage web identifier token size)) := by
  rw [tablePage, tableCollection_eq h]
  rfl

theorem tableDrop_eq (identifier : NamespaceIdentifier) (name : String) :
    routes.tableDrop web identifier name = .ok (built (routes.tableDrop web identifier name)) := by
  rw [tableDrop, table_eq h]
  rfl

end Buildable

end CatalogRoutes

-- ════════════════════════════════
-- Fixtures
-- ════════════════════════════════

structure NamespaceFixture where
  id : String
  primary : NamespaceIdentifier
  sibling : NamespaceIdentifier
  child : NamespaceIdentifier
  missingParent : NamespaceIdentifier
  deriving DecidableEq

/-- The fixture of the table probe; its tables have fixed names. -/
structure TableFixture where
  id : String
  «namespace» : NamespaceIdentifier
  missingNamespace : NamespaceIdentifier
  deriving DecidableEq

namespace TableFixture

variable (fixture : TableFixture)

def primary : TableIdentifier := ⟨fixture.namespace, "primary", by decide⟩
def sibling : TableIdentifier := ⟨fixture.namespace, "sibling", by decide⟩
def renamed : TableIdentifier := ⟨fixture.namespace, "renamed", by decide⟩
def registered : TableIdentifier := ⟨fixture.namespace, "registered", by decide⟩
def missing : TableIdentifier := ⟨fixture.namespace, "missing", by decide⟩

def candidates : List TableIdentifier :=
  [fixture.primary, fixture.renamed, fixture.sibling, fixture.registered]

end TableFixture

structure CommitFixture where
  id : String
  «namespace» : NamespaceIdentifier
  table : String
  deriving DecidableEq

-- ════════════════════════════════
-- Table requests and snapshots
-- ════════════════════════════════

/-- Where created tables go, if the adapter says so. -/
structure TableCreateLocations where
  root : Option String
  deriving DecidableEq

def TableCreateLocations.new (web : WebCrates) (root : Option String) :
    Except String TableCreateLocations :=
  match root with
  | none => .ok ⟨none⟩
  | some root =>
    match web.normalizeUrl root with
    | .error _ => .error "parse adapter create-table location root"
    | .ok url =>
      if web.cannotBeABase url then
        .error "adapter create-table location root cannot contain child table locations"
      else .ok ⟨some url⟩

def TableCreateLocations.forTable (web : WebCrates) (locations : TableCreateLocations)
    («namespace» : NamespaceIdentifier) (name : String) : Except String (Option String) :=
  match locations.root with
  | none => .ok none
  | some root =>
    if web.cannotBeABase root then
      .error "adapter create-table location root cannot contain path segments"
    else .ok (some (web.pushSegments (web.popIfEmpty root) («namespace».parts ++ [name])))

/-- The root of the create locations can carry path segments, as `new` checks. -/
def TableCreateLocations.Buildable (web : WebCrates) (locations : TableCreateLocations) : Prop :=
  ∀ root ∈ locations.root, web.cannotBeABase root = false

theorem TableCreateLocations.new_buildable {web : WebCrates} {root : Option String}
    {locations : TableCreateLocations} (h : TableCreateLocations.new web root = .ok locations) :
    locations.Buildable web := by
  cases root with
  | none =>
    cases h
    rintro url ⟨⟩
  | some root =>
    unfold TableCreateLocations.new at h
    dsimp only at h
    split at h
    · cases h
    split at h
    · cases h
    · next hcannot =>
      cases h
      rintro url ⟨⟩
      exact Bool.eq_false_iff.mpr hcannot

def stringObject (properties : List (String × String)) : Json :=
  .object (properties.map fun property => (property.1, .string property.2))

def partsJson (identifier : NamespaceIdentifier) : Json :=
  .array (identifier.parts.map .string)

def natJson (n : ℕ) : Json := .number (.posInt n)

def committedTableRequest (name : String) (location : Option String) (schema : Json)
    (properties : List (String × String)) : Json :=
  .object ((location.toList.map fun location => ("location", Json.string location)) ++
    [("name", .string name), ("properties", stringObject properties), ("schema", schema),
      ("stage-create", .bool false)])

structure TableSnapshot where
  metadataLocation : String
  location : String
  uuid : String
  schema : TableSchema
  lastColumnId : Option ℤ
  properties : StringMap String
  deriving DecidableEq

def currentSchema (metadata : TableMetadata) : Except String TableSchema :=
  match metadata.currentSchemaId with
  | some current =>
    match metadata.schemas.find? fun schema => schema.schemaId = some current with
    | some schema => .ok schema
    | none => .error ("current-schema-id " ++ toString current ++ " has no matching schema")
  | none =>
    match metadata.schemas with
    | [schema] => .ok schema
    | _ => .error "table metadata omitted an unambiguous current schema"

/-- The snapshot that a table response holds. -/
def tableSnapshot (response : LoadTableResult) : Except String TableSnapshot :=
  match response.metadataLocation.filter fun location => !isBlank location with
  | none => throw "committed table response omitted a nonempty metadata-location"
  | some metadataLocation => do
    let metadata := response.metadata
    if !(1 ≤ metadata.formatVersion && metadata.formatVersion ≤ 3) then
      throw ("table format version " ++ toString metadata.formatVersion ++ " is outside 1..=3")
    else if isBlank metadata.tableUuid then throw "table metadata returned an empty table-uuid"
    else if isBlank metadata.location then throw "table metadata returned an empty location"
    else
      let schema ← currentSchema metadata
      return {
        metadataLocation
        location := metadata.location
        uuid := metadata.tableUuid
        schema
        lastColumnId := metadata.lastColumnId
        properties := metadata.properties }

def parseTableSnapshot (web : WebCrates) (observation : Observation) (status : ℕ) :
    Except String TableSnapshot := do
  let response ← parseJsonResponse web "LoadTableResult" decodeLoadTableResult observation status
  tableSnapshot response

/-- A response with this status whose body holds the table snapshot. -/
def HttpReply.Shows (web : WebCrates) (reply : HttpReply) (status : ℕ) (snapshot : TableSnapshot) :
    Prop :=
  reply.status = some status ∧ ∃ response,
    (reply.json web).bind decodeLoadTableResult = some response ∧
      tableSnapshot response = .ok snapshot

theorem parseTableSnapshot_observe {web : WebCrates} {context : RecorderContext} {id : String}
    {key : Option String} {reply : HttpReply} {status : ℕ} {snapshot : TableSnapshot} :
    parseTableSnapshot web (observe web context id key reply) status = .ok snapshot ↔
      reply.Shows web status snapshot := by
  refine except_bind_eq_ok.trans ?_
  simp only [parseJsonResponse_eq_ok, observe_status, observe_privateJson, and_assoc,
    exists_and_left, HttpReply.Shows]

/-- `validate_namespace_response` of the table protocol. -/
def validateNamespaceParts (web : WebCrates) (observation : Observation)
    (expected : NamespaceIdentifier) : Except String Unit := do
  let parts ← parseJsonResponse web "NamespaceResponse" decodeNamespaceParts observation 200
  let actual ← NamespaceIdentifier.fromParts parts
  if actual = expected then return ()
  else throw ("response namespace " ++ debugParts web actual ++ " does not match " ++
    debugParts web expected)

def validateSameTableSnapshot (expected actual : TableSnapshot) : Except String Unit :=
  if actual.uuid ≠ expected.uuid then
    .error ("table UUID `" ++ actual.uuid ++ "` does not match `" ++ expected.uuid ++ "`")
  else if actual.metadataLocation ≠ expected.metadataLocation then
    .error ("metadata location `" ++ actual.metadataLocation ++ "` does not match `" ++
      expected.metadataLocation ++ "`")
  else if actual.location ≠ expected.location then
    .error ("table location `" ++ actual.location ++ "` does not match `" ++ expected.location ++
      "`")
  else if actual.schema ≠ expected.schema then .error "current table schema changed unexpectedly"
  else .ok ()

def sampleRoutes : CatalogRoutes := ⟨"http://catalog:8181", none, ⟨"\x1f"⟩⟩

theorem sampleRoutes_buildable (documents : List Json) :
    sampleRoutes.Buildable (sampleWeb documents) := by
  have hurl : (sampleWeb []).normalizeUrl sampleRoutes.baseUrl = .ok "http://catalog:8181/" := by
    decide
  exact ⟨"http://catalog:8181/", hurl, rfl⟩

/-- A catalog that chooses the locations itself. -/
def sampleLocations : TableCreateLocations := ⟨none⟩

theorem sampleLocations_buildable (documents : List Json) :
    sampleLocations.Buildable (sampleWeb documents) := by
  rintro root ⟨⟩

def sampleNamespace : NamespaceIdentifier := ⟨["catalog_bench_run"], by decide⟩

end CatalogBench.Conformance
