import CatalogBench.Commit.Policy

/-!
# The canonical scenario

The scenario file that is compiled into the runner, as it is parsed, and the parameters that are
decoded from it. A plan is made from no other scenario.
-/

set_option linter.all false

namespace CatalogBench.Commit
open Interaction CatalogBench.Contract

/-- A plan is made from the scenario that is compiled into the runner, with its parameters. -/
theorem ContentionPlan.fromContracts_canonical {crates : PolicyCrates} {profile : Profile}
    {scenario canonical : Scenario} {plan : ContentionPlan}
    (hcanonical : crates.canonicalScenario = .ok (.scenario canonical))
    (h : fromContracts crates profile scenario = .ok plan) :
    scenario = canonical ∧ crates.decodeParameters canonical.parameters = .ok plan.parameters := by
  obtain ⟨-, h⟩ := except_seq_eq_ok.mp h
  obtain ⟨parameters, hdecoded, h⟩ := except_bind_eq_ok.mp h
  obtain ⟨-, h⟩ := except_seq_eq_ok.mp h
  obtain ⟨hscenario, h⟩ := except_seq_eq_ok.mp h
  obtain ⟨catalogs, -, h⟩ := except_bind_eq_ok.mp h
  obtain ⟨rounds, -, h⟩ := except_bind_eq_ok.mp h
  cases h
  obtain rfl : scenario = canonical := by
    simpa [validateCanonicalScenario, hcanonical, rejectWhen] using hscenario
  refine ⟨rfl, ?_⟩
  unfold Commit.decodeParameters at hdecoded
  cases hresult : crates.decodeParameters scenario.parameters with
  | error error => rw [hresult] at hdecoded; cases hdecoded
  | ok decoded => rw [hresult] at hdecoded; cases hdecoded; rfl

def canonicalCapabilities : List CapabilityRequirement :=
  [⟨"iceberg-rest.config.read", .required,
     "Negotiate the selected catalog configuration before constructing benchmark routes.", none⟩,
   ⟨"iceberg-rest.config.warehouse-routing", .required,
     "Resolve the profile-declared static, negotiated, or unprefixed route without a catalog-specific launcher branch.",
     none⟩,
   ⟨"iceberg-rest.namespace.create", .required,
     "Create one collision-checked namespace through Iceberg REST.", none⟩,
   ⟨"iceberg-rest.namespace.drop", .required,
     "Drop and verify the run-owned namespace after non-purging table cleanup.", none⟩,
   ⟨"iceberg-rest.table.create", .required,
     "Create one table whose returned location belongs to the shared object store.", none⟩,
   ⟨"iceberg-rest.table.load", .required,
     "Load setup and final table state for UUID, metadata-location, property, and cleanup checks.",
     none⟩,
   ⟨"iceberg-rest.table.drop", .required,
     "Drop the run-owned table with purge disabled and verify it absent.", none⟩,
   ⟨"iceberg-rest.table.commit.set-properties", .required,
     "Apply one standard set-properties update per benchmark request.", none⟩,
   ⟨"iceberg-rest.table.commit.requirements", .required,
     "Require the created table UUID on every update without adding an implementation-specific precondition.",
     none⟩,
   ⟨"iceberg-rest.concurrency.same-table-contention", .required,
     "Run multiple writers against one table while preserving accepted, HTTP 409, and error outcomes separately.",
     none⟩]

/-- The value of `parameters`. -/
def canonicalParametersJson : StringMap Json :=
  .ofList [("fixture_prefix", .string "cb_c108"), ("transcript_format", .string
    "catalog-bench/contention-transcript/v1"), ("round_policy", .object [("aggregate", .string
    "median-with-min-max"), ("catalog_order", .string "rotate-left"), ("conditioning_rounds",
    .number (.posInt 1)), ("measured_rounds", .number (.posInt 5)), ("require_every_round_to_pass",
    .bool true)]), ("metadata_retention", .object [("delete_after_commit", .bool false),
    ("previous_versions_max", .number (.posInt 100000))]), ("workload", .object [("commit_property",
    .string "catalog-bench.contention.request-id"), ("concurrent_duration_ms", .number (.posInt
    6000)), ("concurrent_writers", .number (.posInt 8)), ("idempotency_key", .string "omitted"),
    ("requirement", .string "assert-table-uuid"), ("sequential_commits", .number (.posInt 1000)),
    ("warmup_commits", .number (.posInt 50))]), ("object_store", .object [("access_key_env", .string
    "CATALOG_BENCH_S3_ACCESS_KEY_ID"), ("allow_http", .bool true), ("bucket", .string "warehouse"),
    ("component", .string "minio"), ("endpoint", .string "http://minio:9000"), ("path_style_access",
    .bool true), ("region", .string "us-east-1"), ("secret_key_env", .string
    "CATALOG_BENCH_S3_SECRET_ACCESS_KEY")]), ("limits", .object [("maximum_fixture_id_bytes",
    .number (.posInt 24)), ("maximum_response_bytes", .number (.posInt 1048576)),
    ("request_timeout_ms", .number (.posInt 30000))])] _

/-- What `parameters` decodes to. -/
def canonicalParameters : ContentionParameters where
  fixturePrefix := "cb_c108"
  transcriptFormat := contentionTranscriptFormat
  roundPolicy :=
    { conditioningRounds := 1, measuredRounds := 5, catalogOrder := .rotateLeft
      aggregate := .medianWithMinMax, requireEveryRoundToPass := true }
  metadataRetention := { deleteAfterCommit := false, previousVersionsMax := 100000 }
  workload :=
    { warmupCommits := 50, sequentialCommits := 1000, concurrentWriters := 8
      concurrentDurationMs := 6000, commitProperty := "catalog-bench.contention.request-id"
      requirement := .assertTableUuid, idempotencyKey := .omitted }
  objectStore :=
    { component := "minio", endpoint := "http://minio:9000", bucket := "warehouse"
      region := "us-east-1", allowHttp := true, pathStyleAccess := true
      accessKeyEnv := "CATALOG_BENCH_S3_ACCESS_KEY_ID"
      secretKeyEnv := "CATALOG_BENCH_S3_SECRET_ACCESS_KEY" }
  limits :=
    { requestTimeoutMs := 30000, maximumResponseBytes := 1048576, maximumFixtureIdBytes := 24 }

def canonicalSteps : List ScenarioStep :=
  [⟨"verify-runner", .harness, "runtime.verify-profile",
     "Verify the observed production runner OS and architecture against the selected profile before network access.",
     [], .ofList [("identity_source", .string "profile component catalog-bench-commit")] _, none⟩,
   ⟨"negotiate-config", .catalog, "config.read-and-resolve-routing",
     "Acquire profile-declared authentication, read Iceberg REST config, and resolve the effective route prefix.",
     ["verify-runner"], .ofList [("request_source", .string "profile catalog adapter")] _, none⟩,
   ⟨"preflight-fixture", .catalog, "namespace.verify-absent",
     "Prove the exact run-owned namespace absent; a collision suppresses every mutation and cleanup request.",
     ["negotiate-config"], .ofList [("unique_per_catalog_round", .bool true)] _, none⟩,
   ⟨"create-namespace", .catalog, "namespace.create",
     "Create the preflighted namespace exactly once.", ["preflight-fixture"], ∅, none⟩,
   ⟨"create-table", .catalog, "table.create",
     "Create one format-v2 table and verify its UUID, metadata location, and shared-object-store table root.",
     ["create-namespace"], .ofList [("format_version", .number (.posInt 2)), ("metadata_retention",
     .object [("delete_after_commit", .bool false), ("previous_versions_max", .number (.posInt
     100000))]), ("shared_object_store", .bool true), ("stage_create", .bool false),
     ("unique_per_catalog_round", .bool true)] _, none⟩,
   ⟨"baseline-object-audit", .objectStore, "object.list-table-root",
     "List the exact returned table root after setup so later growth excludes the initial metadata object.",
     ["create-table"], .ofList [("scope", .string "returned table location")] _, none⟩,
   ⟨"warmup", .harness, "table.commit.set-properties",
     "Issue the configured unmeasured commits in series and require every request to be accepted exactly once.",
     ["baseline-object-audit"], .ofList [("commit_count_parameter", .string
     "workload.warmup_commits"), ("measured", .bool false), ("request_identity_scope", .string
     "catalog/round/warmup/sequence")] _, none⟩,
   ⟨"sequential", .harness, "table.commit.set-properties",
     "Issue the configured measured commits in series and retain complete finite latency and throughput statistics.",
     ["warmup"], .ofList [("commit_count_parameter", .string "workload.sequential_commits"),
     ("measured", .bool true), ("request_identity_scope", .string
     "catalog/round/sequential/sequence")] _, none⟩,
   ⟨"concurrent", .harness, "table.commit.set-properties",
     "Release all configured writers into one shared timed window and classify every completed request as accepted, HTTP 409 conflict, or explicit error.",
     ["sequential"], .ofList [("duration_parameter", .string "workload.concurrent_duration_ms"),
     ("measured", .bool true), ("request_identity_scope", .string
     "catalog/round/concurrent/writer/sequence"), ("writer_count_parameter", .string
     "workload.concurrent_writers")] _, none⟩,
   ⟨"load-final-table", .catalog, "table.load",
     "Load final state and prove its request property belongs to an accepted request and its metadata location remains under the setup table root.",
     ["concurrent"], ∅, none⟩,
   ⟨"audit-object-growth", .objectStore, "object.list-table-root",
     "List the same table root and require metadata-object growth to cover every accepted warmup, sequential, and concurrent commit.",
     ["load-final-table"], .ofList [("minimum_formula", .string
     "warmup.accepted + sequential.accepted + concurrent.accepted"), ("retention_precondition",
     .string "create-table.metadata-retention.delete-after-commit=false")] _, none⟩,
   ⟨"cleanup-fixture", .harness, "fixture.cleanup-without-purge",
     "Drop the owned table without purge, verify it absent, drop the namespace, and verify the namespace absent even after an earlier assertion failure.",
     ["audit-object-growth"], .ofList [("purge_requested", .bool false)] _, none⟩,
   ⟨"sanitize-transcript", .harness, "evidence.sanitize-and-write-new",
     "Persist only bounded, value-sanitized, no-overwrite evidence with raw response bodies, credentials, tokens, and request identities omitted or hashed.",
     ["cleanup-fixture"], ∅, none⟩]

def canonicalAssertions : List AssertionSpec :=
  [⟨"runner-runtime-pinned", "verify-runner", true,
     "Observed OS and architecture equal the selected profile and the runner component is present.",
     .custom "querygraph/catalog-bench/profile-runtime-v1" (.object [("component", .string
     "catalog-bench-commit")])⟩,
   ⟨"catalog-auth-config-ready", "negotiate-config", true,
     "Authentication, config read, route-prefix resolution, and protocol-native adapter checks pass before setup.",
     .custom "querygraph/catalog-bench/profile-routing-v1" (.object [("request_handling", .string
     "protocol-native")])⟩,
   ⟨"fixture-isolated", "preflight-fixture", true,
     "The exact namespace is absent before mutation and therefore safe for owned cleanup.", .custom
     "querygraph/catalog-bench/fixture-isolation-v1" (.object [("collision_policy", .string
     "no-mutation-no-cleanup")])⟩,
   ⟨"setup-succeeded", "create-table", true,
     "Fresh namespace and table creation return a committed table under shared MinIO.", .httpStatus
     [200, 201]⟩,
   ⟨"warmup-accounted", "warmup", true,
     "Every configured warmup request is accepted; none conflicts, errors, or disappears.", .custom
     "querygraph/catalog-bench/serial-request-accounting-v1" (.object [("accepted", .string
     "workload.warmup_commits"), ("attempts", .string "workload.warmup_commits"), ("conflicts",
     .number (.posInt 0)), ("errors", .number (.posInt 0))])⟩,
   ⟨"sequential-accounted", "sequential", true,
     "Every configured sequential request is accepted; none conflicts, errors, or disappears.",
     .custom "querygraph/catalog-bench/serial-request-accounting-v1" (.object [("accepted", .string
     "workload.sequential_commits"), ("attempts", .string "workload.sequential_commits"),
     ("conflicts", .number (.posInt 0)), ("errors", .number (.posInt 0))])⟩,
   ⟨"sequential-latency-complete", "sequential", true,
     "The latency distribution contains one finite sample per sequential request with monotonic p50, p95, p99, and maximum values.",
     .custom "querygraph/catalog-bench/latency-distribution-v1" (.object [("quantiles", .array
     [.string "p50", .string "p95", .string "p99"]), ("samples", .string
     "workload.sequential_commits")])⟩,
   ⟨"all-requests-accounted", "concurrent", true,
     "Every completed request is classified as accepted, HTTP 409 conflict, or explicit error; no outcome is silently dropped.",
     .custom "querygraph/catalog-bench/request-accounting-v1" (.object [("formula", .string
     "attempts = accepted + conflicts + errors"), ("latency_samples", .string "attempts")])⟩,
   ⟨"zero-request-errors", "concurrent", true,
     "No concurrent request fails outside accepted commit and HTTP 409 conflict classes.",
     .noRequestErrors⟩,
   ⟨"concurrent-progress", "concurrent", true,
     "At least one concurrent commit is accepted during the timed window.", .custom
     "querygraph/catalog-bench/concurrent-progress-v1" (.object [("accepted", .string "> 0")])⟩,
   ⟨"final-state-accounted", "load-final-table", true,
     "The final property identifies one accepted request and the final metadata location remains inside the setup table root.",
     .custom "querygraph/catalog-bench/final-accepted-request-v1" (.object
     [("request_identity_evidence", .string "sha256-only"), ("table_root", .string
     "create-table response")])⟩,
   ⟨"metadata-persisted", "audit-object-growth", true,
     "Run-owned metadata-object growth covers every accepted commit after the setup baseline.",
     .custom "querygraph/catalog-bench/accepted-metadata-object-growth-v2" (.object
     [("minimum_formula", .string "warmup.accepted + sequential.accepted + concurrent.accepted"),
     ("scope", .string "returned table root"), ("suffix", .string ".metadata.json")])⟩,
   ⟨"fixture-clean", "cleanup-fixture", true,
     "Non-purging cleanup proves both the table and namespace absent.", .custom
     "querygraph/catalog-bench/table-cleanup-v1" (.object [("purge_requested", .bool false),
     ("verify_absent", .bool true)])⟩,
   ⟨"transcript-sanitized", "sanitize-transcript", true,
     "Persisted evidence contains no raw credential, token, response body, or request identity and never overwrites another run.",
     .custom "querygraph/catalog-bench/sanitized-contention-transcript-v1" (.object
     [("raw_response_body", .string "omitted"), ("request_identity", .string "sha256-only"),
     ("write_mode", .string "create-new")])⟩]

/-- The scenario that is compiled into the runner. -/
def canonicalScenario : Scenario where
  id := contentionScenarioId
  version := contentionScenarioVersion
  title := "Iceberg REST same-table commit contention"
  description := "Measures sequential and concurrent set-properties commits against one isolated table while requiring profile-driven routing, exact request accounting, final-state attribution, run-owned shared-object-store evidence, non-purging cleanup, repeated rounds, and sanitized no-overwrite transcripts."
  family := .concurrency
  tags := ["iceberg-rest", "commit", "optimistic-concurrency", "same-table", "performance",
    "shared-object-store"]
  capabilities := canonicalCapabilities
  parameters := canonicalParametersJson
  steps := canonicalSteps
  assertions := canonicalAssertions
  extensions := .ofList [("querygraph/historical-predecessor", .object [("preservation_reason",
    .string
    "Version 1 remains byte-identical because it is an immutable input to the published 2026-08-08 historical bundle."),
    ("scenario_version", .number (.posInt 1))])] _

end CatalogBench.Commit
