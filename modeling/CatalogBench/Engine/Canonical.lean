import CatalogBench.Engine.Contracts

/-!
# The canonical engine scenario

The scenario file that is compiled into the engine runner, as it is parsed, and the parameters that
are decoded from it. A plan is made from no other scenario.
-/

set_option linter.all false

namespace CatalogBench.Engine
open Interaction CatalogBench.Contract
open CatalogBench.Commit (rejectWhen)

theorem decodeParameters_eq_ok {crates : EngineCrates} {scenario : Scenario}
    {parameters : EngineScenarioParameters} :
    decodeParameters crates scenario = .ok parameters ↔
      crates.decodeParameters scenario.parameters = .ok parameters := by
  unfold decodeParameters
  cases crates.decodeParameters scenario.parameters <;> simp [Except.mapError]

theorem validateCanonicalScenario_eq {crates : EngineCrates} {scenario canonical : Scenario}
    (hcanonical : crates.canonicalScenario = .ok (.scenario canonical))
    (h : validateCanonicalScenario crates scenario = .ok ()) : scenario = canonical := by
  obtain ⟨-, h⟩ := except_seq_eq_ok.mp h
  obtain ⟨-, h⟩ := except_seq_eq_ok.mp h
  obtain ⟨-, h⟩ := except_seq_eq_ok.mp h
  simpa [hcanonical, rejectWhen] using h

/-- The execution plan is made for the fixture and the parameters. -/
theorem executionPlan_scenario {engine : Component} {adapter : CatalogAdapter}
    {authentication : EngineCatalogAuthentication} {objectStore : ObjectStorePlan}
    {fixture : Fixture} {scenario : EngineScenarioParameters} {plan : EngineExecutionPlan}
    (h : executionPlan engine adapter authentication objectStore fixture scenario = .ok plan) :
    plan.fixture = fixture ∧ plan.scenario = scenario := by
  unfold executionPlan at h
  dsimp only at h
  split_ifs at h
  all_goals
    obtain ⟨_, -, h⟩ := except_bind_eq_ok.mp h
    cases h
    exact ⟨rfl, rfl⟩

/-- What a plan is made of: the parameters of the scenario, the adapter of the catalog, how the
catalog is authenticated, and the components that the profile selects. -/
structure PlanSelection where
  parameters : EngineScenarioParameters
  adapter : CatalogAdapter
  authentication : EngineCatalogAuthentication
  catalog : Component
  engine : Component
  connector : Component
  runner : Option Component

/-- The plan was made of the selection. -/
structure InteroperabilityPlan.SelectedFrom (plan : InteroperabilityPlan) (crates : EngineCrates)
    (profile : Profile) (scenario : Scenario) (catalog : ComponentId) (fixtureId : String)
    (selection : PlanSelection) : Prop where
  canonical : validateCanonicalScenario crates scenario = .ok ()
  decoded : decodeParameters crates scenario = .ok selection.parameters
  parameters : validateParameters selection.parameters = .ok ()
  adapter : Engine.adapter profile catalog = .ok selection.adapter
  catalogComponent : component profile catalog .catalog = .ok selection.catalog
  runner : optionalEngineRunner profile = .ok selection.runner
  engine : ∃ id, selectedRoleComponent profile "stock-engine" id .engine = .ok selection.engine
  connector : roleComponent profile "engine-connector" .connector = .ok selection.connector
  objectStore : objectStorePlan crates.toCrates profile = .ok plan.objectStore
  fixture : Engine.fixture crates selection.parameters.fixturePrefix catalog fixtureId
    selection.adapter plan.objectStore = .ok plan.fixture
  authentication : Engine.authentication crates selection.adapter =
    .ok (selection.authentication, plan.credentialSource)
  execution : executionPlan selection.engine selection.adapter selection.authentication
    plan.objectStore plan.fixture selection.parameters = .ok plan.execution
  runtimeArtifacts : Engine.runtimeArtifacts selection.runner selection.engine
    selection.connector = .ok plan.runtimeArtifacts
  identities : plan.runner = selection.runner.map .fromComponent ∧
    plan.catalog = .fromComponent selection.catalog ∧
    plan.engine = .fromComponent selection.engine ∧
    plan.connector = .fromComponent selection.connector
  platform : plan.runtimePlatform =
    ⟨profile.platform.operatingSystem, profile.platform.architecture⟩

theorem InteroperabilityPlan.fromContracts_selected {crates : EngineCrates} {profile : Profile}
    {scenario : Scenario} {catalog : ComponentId} {fixtureId : String}
    {plan : InteroperabilityPlan}
    (h : fromContracts crates profile scenario catalog fixtureId = .ok plan) :
    ∃ selection, plan.SelectedFrom crates profile scenario catalog fixtureId selection := by
  obtain ⟨_, -, h⟩ := except_bind_eq_ok.mp h
  obtain ⟨hcanonical, h⟩ := except_seq_eq_ok.mp h
  obtain ⟨parameters, hdecoded, h⟩ := except_bind_eq_ok.mp h
  obtain ⟨hparameters, h⟩ := except_seq_eq_ok.mp h
  obtain ⟨-, h⟩ := except_seq_eq_ok.mp h
  obtain ⟨adapter, hadapter, h⟩ := except_bind_eq_ok.mp h
  obtain ⟨-, h⟩ := except_seq_eq_ok.mp h
  obtain ⟨-, h⟩ := except_seq_eq_ok.mp h
  obtain ⟨catalogComponent, hcatalog, h⟩ := except_bind_eq_ok.mp h
  obtain ⟨runner, hrunner, h⟩ := except_bind_eq_ok.mp h
  obtain ⟨engine, hengine, h⟩ := except_bind_eq_ok.mp h
  obtain ⟨connector, hconnector, h⟩ := except_bind_eq_ok.mp h
  obtain ⟨-, h⟩ := except_seq_eq_ok.mp h
  obtain ⟨objectStore, hobjectStore, h⟩ := except_bind_eq_ok.mp h
  obtain ⟨fixture, hfixture, h⟩ := except_bind_eq_ok.mp h
  obtain ⟨⟨authentication, credentialSource⟩, hauthentication, h⟩ := except_bind_eq_ok.mp h
  obtain ⟨execution, hexecution, h⟩ := except_bind_eq_ok.mp h
  obtain ⟨artifacts, hartifacts, h⟩ := except_bind_eq_ok.mp h
  obtain ⟨-, h⟩ := except_seq_eq_ok.mp h
  obtain ⟨-, h⟩ := except_seq_eq_ok.mp h
  cases h
  obtain rfl := (executionPlan_scenario hexecution).1
  exact ⟨⟨parameters, adapter, authentication, catalogComponent, engine, connector, runner⟩,
    { canonical := hcanonical, decoded := hdecoded, parameters := hparameters, adapter := hadapter
      catalogComponent := hcatalog, runner := hrunner, engine := ⟨_, hengine⟩
      connector := hconnector, objectStore := hobjectStore, fixture := hfixture
      authentication := hauthentication, execution := hexecution, runtimeArtifacts := hartifacts
      identities := ⟨rfl, rfl, rfl, rfl⟩, platform := rfl }⟩

/-- A plan is made from the scenario that is compiled into the runner, with its parameters. -/
theorem InteroperabilityPlan.fromContracts_canonical {crates : EngineCrates} {profile : Profile}
    {scenario canonical : Scenario} {catalog : ComponentId} {fixtureId : String}
    {plan : InteroperabilityPlan}
    (hcanonical : crates.canonicalScenario = .ok (.scenario canonical))
    (h : fromContracts crates profile scenario catalog fixtureId = .ok plan) :
    scenario = canonical ∧ crates.decodeParameters canonical.parameters = .ok plan.scenario := by
  obtain ⟨selection, hselected⟩ := fromContracts_selected h
  obtain rfl := validateCanonicalScenario_eq hcanonical hselected.canonical
  refine ⟨rfl, ?_⟩
  rw [InteroperabilityPlan.scenario, (executionPlan_scenario hselected.execution).2]
  exact decodeParameters_eq_ok.mp hselected.decoded

def canonicalCapabilities : List CapabilityRequirement :=
  [⟨"engine.iceberg.rest-round-trip", .required,
     "Use the pinned engine's stock Iceberg connector and the profile's protocol-native REST binding to create a run-owned namespace and table, append deterministic rows, and read them exactly.",
     some "https://github.com/apache/iceberg/blob/6976e020b894f6a6777704df2b8c4458cb291ae9/open-api/rest-catalog-open-api.yaml"⟩,
   ⟨"engine.iceberg.additive-schema-evolution", .required,
     "Add one optional field without changing existing field identity, append rows under the evolved schema, and read old and new rows through the stock engine.",
     some "https://github.com/apache/iceberg/blob/6976e020b894f6a6777704df2b8c4458cb291ae9/format/spec.md#schema-evolution"⟩]

/-- The value of `parameters`. -/
def canonicalParametersJson : StringMap Json :=
  .ofList [("catalog_protocol", .string "iceberg-rest-v1"), ("engine_policy", .object
    [("catalog_specific_branches", .string "forbidden"), ("catalog_specific_shims", .string
    "forbidden"), ("connector", .string "stock-profile-component"), ("syntax_rendering", .string
    "engine-specific-but-catalog-neutral"), ("unsupported", .string
    "classify-before-mutation-without-a-substitute-request")]), ("fixture_prefix", .string
    "cb_c201"), ("table", .object [("file_format", .string "parquet"), ("format_version", .number
    (.posInt 2)), ("properties", .object [("catalog-bench.owner", .string "catalog-bench"),
    ("write.metadata.delete-after-commit.enabled", .string "false"),
    ("write.metadata.previous-versions-max", .string "100000")]), ("schema", .object [("fields",
    .array [.object [("id", .number (.posInt 1)), ("name", .string "id"), ("required", .bool true),
    ("type", .string "long")], .object [("id", .number (.posInt 2)), ("name", .string "category"),
    ("required", .bool false), ("type", .string "string")], .object [("id", .number (.posInt 3)),
    ("name", .string "amount_cents"), ("required", .bool true), ("type", .string "long")]]),
    ("schema-id", .number (.posInt 0)), ("type", .string "struct")])]), ("schema_evolution", .object
    [("field", .object [("name", .string "note"), ("required", .bool false), ("type", .string
    "string")]), ("preserve_existing_field_ids", .bool true)]), ("row_generator", .object
    [("amount_cents", .object [("kind", .string "affine"), ("multiplier", .number (.posInt 100)),
    ("offset", .number (.posInt 7))]), ("category", .object [("kind", .string "modulo-label"),
    ("modulus", .number (.posInt 4)), ("prefix", .string "category-")]), ("note", .object [("kind",
    .string "id-label"), ("prefix", .string "evolved-")])]), ("batches", .object [("evolved",
    .object [("id_start", .number (.posInt 16)), ("rows", .number (.posInt 4))]), ("initial",
    .object [("id_start", .number (.posInt 0)), ("rows", .number (.posInt 16))])]),
    ("canonical_reads", .object [("after_evolution", .object [("bytes", .number (.posInt 570)),
    ("columns", .array [.string "id", .string "category", .string "amount_cents", .string "note"]),
    ("rows", .number (.posInt 20)), ("sha256", .string
    "b2af6f475851e07d1ace3706d8867530c13dd5938bee90cfcc62d3939e01bea2")]), ("encoding", .string
    "compact-rfc8259-json-array-per-row-utf8-lf"), ("initial", .object [("bytes", .number (.posInt
    346)), ("columns", .array [.string "id", .string "category", .string "amount_cents"]), ("rows",
    .number (.posInt 16)), ("sha256", .string
    "e78b526d7e757090a9a90c80802c2a543cbf8166cfac6d6ed48c618926e85a15")]), ("order_by", .array
    [.string "id"]), ("trailing_lf", .bool true)]), ("object_audit", .object
    [("minimum_metadata_objects", .number (.posInt 4)), ("minimum_parquet_objects", .number (.posInt
    2)), ("scope", .string "returned-table-root-in-profile-shared-object-store")]),
    ("transcript_format", .string "catalog-bench/engine-interoperability-transcript/v2")] _

/-- What `parameters` decodes to. -/
def canonicalParameters : EngineScenarioParameters where
  catalogProtocol := .icebergRestV1
  enginePolicy := ⟨.forbidden, .forbidden, .stockProfileComponent,
    .engineSpecificButCatalogNeutral, .classifyBeforeMutationWithoutASubstituteRequest⟩
  fixturePrefix := "cb_c201"
  table :=
    { formatVersion := 2
      properties := .ofList [("catalog-bench.owner", "catalog-bench"),
        ("write.metadata.delete-after-commit.enabled", "false"),
        ("write.metadata.previous-versions-max", "100000")] _
      schema := ⟨0, [⟨1, "id", true, .long⟩, ⟨2, "category", false, .string⟩,
        ⟨3, "amount_cents", true, .long⟩]⟩ }
  schemaEvolution := { field := ⟨"note", false, .string⟩, preserveExistingFieldIds := true }
  rowGenerator := ⟨.affine 100 7, .moduloLabel 4 "category-", .idLabel "evolved-"⟩
  batches := { initial := ⟨0, 16⟩, evolved := ⟨16, 4⟩ }
  canonicalReads :=
    { initial :=
        { bytes := 346, columns := ["id", "category", "amount_cents"], rows := 16
          sha256 := "e78b526d7e757090a9a90c80802c2a543cbf8166cfac6d6ed48c618926e85a15" }
      orderBy := ["id"]
      afterEvolution :=
        { bytes := 570, columns := ["id", "category", "amount_cents", "note"], rows := 20
          sha256 := "b2af6f475851e07d1ace3706d8867530c13dd5938bee90cfcc62d3939e01bea2" }
      trailingLf := true }
  objectAudit := ⟨4, 2⟩
  transcriptFormat := engineTranscriptFormat

def canonicalSteps : List ScenarioStep :=
  [⟨"verify-engine-runtime", .harness, "engine.verify-pinned-runtime",
     "Require the exact profile-selected engine, connector, operating system, architecture, and immutable runtime artifacts before any credential or network access.",
     [], ∅, none⟩,
   ⟨"initialize-catalog", .engine, "engine.iceberg-rest.initialize",
     "Initialize the stock engine connector from the profile's Iceberg REST endpoint, authentication, route-prefix, warehouse, and shared-object-store settings without a behavior-changing shim.",
     ["verify-engine-runtime"], ∅, some 120000⟩,
   ⟨"preflight-fixture", .engine, "engine.namespace.verify-absence",
     "Use the stock engine to require the exact run-owned namespace to be absent; refuse every mutation on a collision.",
     ["initialize-catalog"], ∅, some 60000⟩,
   ⟨"create-namespace", .engine, "engine.namespace.create-list",
     "Create the run-owned namespace through stock engine syntax and prove that the same engine lists the exact identifier.",
     ["preflight-fixture"], ∅, some 60000⟩,
   ⟨"create-table", .engine, "engine.table.create-load",
     "Create and reload the scenario's unpartitioned format-v2 Parquet table with exact Iceberg field semantics and metadata-retention properties.",
     ["create-namespace"], ∅, some 120000⟩,
   ⟨"append-initial", .engine, "engine.table.insert-generated-batch",
     "Append the deterministic initial batch through the stock engine and require one successful snapshot-producing write.",
     ["create-table"], .ofList [("batch", .string "initial")] _, some 180000⟩,
   ⟨"read-initial", .engine, "engine.table.read-canonical-rows",
     "Reload through the stock engine, order by ID, and hash the exact initial row projection with the scenario's canonical encoding.",
     ["append-initial"], .ofList [("expected", .string "canonical_reads.initial")] _, some 120000⟩,
   ⟨"evolve-schema", .engine, "engine.table.add-optional-column",
     "Add the scenario's optional note field through stock engine syntax, reload the table, and preserve every existing Iceberg field ID.",
     ["read-initial"], ∅, some 120000⟩,
   ⟨"append-evolved", .engine, "engine.table.insert-generated-batch",
     "Append the deterministic evolved batch with non-null note values through the stock engine.",
     ["evolve-schema"], .ofList [("batch", .string "evolved")] _, some 180000⟩,
   ⟨"read-evolved", .engine, "engine.table.read-canonical-rows",
     "Reload through the stock engine and prove the complete evolved projection, including null notes for old rows and exact notes for new rows.",
     ["append-evolved"], .ofList [("expected", .string "canonical_reads.after_evolution")] _, some
     120000⟩,
   ⟨"audit-catalog-state", .harness, "iceberg-rest.audit-engine-table",
     "Independently load the table through the same profile adapter and correlate its UUID, current metadata pointer, format version, schema, snapshots, and scenario-owned properties with the engine observations.",
     ["read-evolved"], ∅, some 60000⟩,
   ⟨"audit-object-state", .objectStore, "object-store.audit-engine-table-root",
     "Traverse the exact returned table root in the profile's shared object store and verify the current metadata object plus minimum metadata and Parquet evidence.",
     ["audit-catalog-state"], ∅, some 60000⟩,
   ⟨"cleanup-fixture", .harness, "iceberg-rest.reconcile-engine-fixture",
     "After any post-mutation outcome, use the profile's standard REST adapter to drop every run-owned table candidate without purge, drop the namespace, and prove all identifiers absent; a failed collision preflight forbids cleanup mutation.",
     ["audit-object-state"], ∅, some 120000⟩,
   ⟨"sanitize-transcript", .harness, "evidence.sanitize-engine-interoperability-transcript",
     "Persist only pinned component identities, fixed query classifications, catalog and object digests, canonical row counts and hashes, bounded safe error classes, and cleanup outcomes.",
     ["cleanup-fixture"], ∅, none⟩]

def canonicalAssertions : List AssertionSpec :=
  [⟨"engine-runtime-pinned", "verify-engine-runtime", true,
     "The observed stock engine, connector, operating system, architecture, and runtime artifact identities exactly match the immutable execution profile.",
     .custom "querygraph/catalog-bench/engine-runtime-v1" (.object [("artifact_identity", .string
     "exact"), ("profile_component_kinds", .array [.string "engine", .string "connector"])]) ⟩,
   ⟨"stock-rest-catalog-ready", "initialize-catalog", true,
     "The stock connector initializes through the profile's protocol-native binding without request rewriting or a catalog-specific branch.",
     .custom "querygraph/catalog-bench/engine-rest-init-v1" (.object [("catalog_specific_branch",
     .bool false), ("request_handling", .string "protocol-native"), ("shim", .bool false)])⟩,
   ⟨"fixture-isolated", "preflight-fixture", true,
     "The stock engine observed the run-owned namespace as absent before the first mutation.",
     .custom "querygraph/catalog-bench/engine-fixture-isolation-v1" (.object [("collision_policy",
     .string "refuse-without-mutation")]) ⟩,
   ⟨"namespace-round-trip", "create-namespace", true,
     "The stock engine creates and lists exactly the run-owned namespace without identifier flattening or substitution.",
     .custom "querygraph/catalog-bench/engine-namespace-v1" (.object [("compare", .string
     "exact-identifier")]) ⟩,
   ⟨"table-round-trip", "create-table", true,
     "The stock engine creates and reloads an unpartitioned format-v2 Parquet table with the exact initial field semantics and scenario-owned properties.",
     .custom "querygraph/catalog-bench/engine-table-v1" (.object [("file_format", .string
     "parquet"), ("format_version", .number (.posInt 2)), ("partitioning", .string
     "unpartitioned")]) ⟩,
   ⟨"initial-append-committed", "append-initial", true,
     "The initial stock-engine write commits exactly one logical batch and advances the table to a snapshot containing its data files.",
     .custom "querygraph/catalog-bench/engine-append-v1" (.object [("batch", .string "initial"),
     ("logical_rows", .number (.posInt 16)), ("snapshots_added", .number (.posInt 1))])⟩,
   ⟨"initial-read-exact", "read-initial", true,
     "The stock engine returns all 16 initial rows exactly once under the initial schema.",
     .dataRead
     "16 ID-ordered canonical rows, 346 bytes, SHA-256 e78b526d7e757090a9a90c80802c2a543cbf8166cfac6d6ed48c618926e85a15"
     ⟩,
   ⟨"schema-evolved", "evolve-schema", true,
     "The current schema adds exactly one optional string field named note and preserves every existing field ID and semantic type.",
     .custom "querygraph/catalog-bench/engine-add-column-v1" (.object [("field", .string "note"),
     ("preserve_existing_field_ids", .bool true), ("required", .bool false), ("type", .string
     "string")]) ⟩,
   ⟨"evolved-append-committed", "append-evolved", true,
     "The evolved stock-engine write commits exactly one logical batch with the expected non-null note values.",
     .custom "querygraph/catalog-bench/engine-append-v1" (.object [("batch", .string "evolved"),
     ("logical_rows", .number (.posInt 4)), ("snapshots_added", .number (.posInt 1))])⟩,
   ⟨"evolved-read-exact", "read-evolved", true,
     "The stock engine returns all 20 rows exactly once under the evolved schema, with null notes for old rows and deterministic notes for new rows.",
     .dataRead
     "20 ID-ordered canonical rows, 570 bytes, SHA-256 b2af6f475851e07d1ace3706d8867530c13dd5938bee90cfcc62d3939e01bea2"
     ⟩,
   ⟨"catalog-state-correlated", "audit-catalog-state", true,
     "Independent standard REST evidence agrees with the engine on table identity, metadata pointer, format, schema, two appended snapshots, and scenario-owned properties.",
     .custom "querygraph/catalog-bench/engine-catalog-correlation-v1" (.object
     [("appended_snapshots", .number (.posInt 2)), ("compare", .array [.string "table-uuid", .string
     "metadata-location", .string "format-version", .string "schema", .string
     "scenario-properties"])]) ⟩,
   ⟨"shared-object-evidence-complete", "audit-object-state", true,
     "The profile's shared MinIO contains the current metadata pointer, at least four retained metadata objects, and at least two Parquet data objects under the exact table root.",
     .custom "querygraph/catalog-bench/engine-object-audit-v1" (.object [("current_metadata_exists",
     .bool true), ("minimum_metadata_objects", .number (.posInt 4)), ("minimum_parquet_objects",
     .number (.posInt 2)), ("shared_object_store", .bool true)])⟩,
   ⟨"fixture-clean", "cleanup-fixture", true,
     "Every run-owned catalog identifier is absent after non-purging reconciliation while immutable object evidence remains available.",
     .custom "querygraph/catalog-bench/engine-cleanup-v1" (.object [("object_evidence_retained",
     .bool true), ("purge_requested", .bool false)])⟩,
   ⟨"transcript-sanitized", "sanitize-transcript", true,
     "No credential, bearer token, raw row, raw response body, unbounded log, or raw exception message enters the persisted transcript.",
     .custom "querygraph/catalog-bench/sanitized-engine-transcript-v1" (.object
     [("credential_policy", .string "identifiers-and-categories-only"), ("error_policy", .string
     "bounded-class-and-fixed-explanation-only"), ("row_policy", .string
     "count-byte-length-and-sha256-only")]) ⟩]

/-- The scenario that is compiled into the runner. -/
def canonicalScenario : Scenario where
  id := engineScenarioId
  version := engineScenarioVersion
  title := "Stock engine Iceberg write, read, and schema evolution"
  description :=
    "Runs one catalog-neutral workflow through a pinned stock query engine and its standard Iceberg REST connector: verify runtime identity, initialize the catalog without request rewriting, prove fixture ownership, create a namespace and format-v2 table, append and read deterministic rows, add one optional column, append and read the evolved schema, correlate the engine result with independent REST and shared-MinIO evidence, reconcile the fixture without purge, and emit a sanitized transcript."
  family := .clientInteroperability
  tags := ["stock-engine", "iceberg-rest", "write", "read", "schema-evolution", "shared-minio",
    "no-shim"]
  capabilities := canonicalCapabilities
  parameters := canonicalParametersJson
  steps := canonicalSteps
  assertions := canonicalAssertions
  extensions := ∅

end CatalogBench.Engine
