import CatalogBench.Commit.Round
import CatalogBench.Contract.Document
import CatalogBench.Library.Rotation

/-!
# The contention policy

A plan is made from a profile and the canonical scenario: the parameters the scenario fixes, and
the rounds in which every catalog of the profile takes its turn. Each round starts one catalog
further than the one before.
-/

set_option linter.all false

namespace CatalogBench.Commit
open MachineInt Interaction CatalogBench.Contract

def contentionScenarioId : String := "iceberg-rest.commit.same-table-contention"
def contentionScenarioVersion : ℕ := 2
def contentionTranscriptFormat : String := "catalog-bench/contention-transcript/v1"
def runnerComponentId : String := "catalog-bench-commit"
def contentionMetadataDeleteAfterCommit : Bool := false
def contentionMetadataPreviousVersionsMax : ℕ := 100000

/-- The message of a `PolicyError`. -/
abbrev PolicyError := String

-- ════════════════════════════════
-- Parameters
-- ════════════════════════════════

inductive CatalogOrder
  | rotateLeft
  deriving DecidableEq

inductive AggregatePolicy
  | medianWithMinMax
  deriving DecidableEq

inductive CommitRequirement
  | assertTableUuid
  deriving DecidableEq

inductive IdempotencyPolicy
  | omitted
  deriving DecidableEq

structure RoundPolicy where
  conditioningRounds : ℕ
  measuredRounds : ℕ
  catalogOrder : CatalogOrder
  aggregate : AggregatePolicy
  requireEveryRoundToPass : Bool
  deriving DecidableEq

structure WorkloadPolicy where
  warmupCommits : ℕ
  sequentialCommits : ℕ
  concurrentWriters : ℕ
  concurrentDurationMs : ℕ
  commitProperty : String
  requirement : CommitRequirement
  idempotencyKey : IdempotencyPolicy
  deriving DecidableEq

structure MetadataRetentionPolicy where
  deleteAfterCommit : Bool
  previousVersionsMax : ℕ
  deriving DecidableEq

structure ObjectStorePolicy where
  component : ComponentId
  endpoint : String
  bucket : String
  region : String
  allowHttp : Bool
  pathStyleAccess : Bool
  accessKeyEnv : String
  secretKeyEnv : String
  deriving DecidableEq

structure LimitPolicy where
  requestTimeoutMs : ℕ
  maximumResponseBytes : ℕ
  maximumFixtureIdBytes : ℕ
  deriving DecidableEq

structure ContentionParameters where
  fixturePrefix : String
  transcriptFormat : String
  roundPolicy : RoundPolicy
  metadataRetention : MetadataRetentionPolicy
  workload : WorkloadPolicy
  objectStore : ObjectStorePolicy
  limits : LimitPolicy
  deriving DecidableEq

structure CatalogRun where
  catalog : ComponentId
  name : String
  version : String
  deriving DecidableEq

structure RoundPlan where
  repetition : ℕ
  kind : RoundKind
  catalogs : List CatalogRun
  deriving DecidableEq

structure ContentionPlan where
  parameters : ContentionParameters
  rounds : List RoundPlan
  deriving DecidableEq

/-- What the policy needs besides the contract documents. -/
structure PolicyCrates extends ContractCrates where
  /-- `serde_json::from_value::<ContentionParameters>`, or the text of its error. -/
  decodeParameters : StringMap Json → Except String ContentionParameters
  /-- What `parse_contract` makes of the scenario file that is compiled into the runner. -/
  canonicalScenario : Except ParseContractError ContractDocument

/-- An error under a condition. -/
def rejectWhen (violated : Bool) (message : String) : Except PolicyError Unit :=
  if violated then .error message else .ok ()

/-- A value that has to be there. -/
def requireSome {α : Type} (value : Option α) (message : String) : Except PolicyError α :=
  match value with
  | some value => .ok value
  | none => .error message

-- ════════════════════════════════
-- Validation
-- ════════════════════════════════

def validateScenarioShape (scenario : Scenario) : Except PolicyError Unit := do
  rejectWhen (scenario.id ≠ contentionScenarioId)
    ("contention runner requires scenario `" ++ contentionScenarioId ++ "`, found `" ++
      scenario.id ++ "`")
  rejectWhen (scenario.version ≠ contentionScenarioVersion)
    ("contention runner supports scenario version " ++ toString contentionScenarioVersion ++
      ", found " ++ toString scenario.version)
  rejectWhen (scenario.family ≠ .concurrency)
    "contention scenario family must be `concurrency`"
  rejectWhen (scenario.capabilities.any fun requirement => requirement.level ≠ .required)
    "every contention capability must be required"
  rejectWhen (scenario.assertions.any fun assertion => !assertion.required)
    "every contention assertion must be required"

def validateCanonicalScenario (crates : PolicyCrates) (scenario : Scenario) :
    Except PolicyError Unit :=
  match crates.canonicalScenario with
  | .error error => .error ("compiled contention scenario is invalid: " ++ error.display)
  | .ok (.scenario canonical) =>
    rejectWhen (scenario ≠ canonical)
      "contention scenario drifted from the implemented canonical v2 policy"
  | .ok _ => .error "compiled contention scenario is not a scenario document"

def decodeParameters (crates : PolicyCrates) (scenario : Scenario) :
    Except PolicyError ContentionParameters :=
  (crates.decodeParameters scenario.parameters).mapError
    ("invalid contention scenario parameters: " ++ ·)

/-- A byte of a fixture name: a lowercase ASCII letter, a digit or an underscore. -/
def isFixtureChar (c : Char) : Bool := c.isLower || c.isDigit || c = '_'

def validEnvironmentVariable (value : String) : Bool :=
  match value.toList with
  | [] => false
  | first :: rest =>
    (first.isUpper || first = '_') && rest.all fun c => c.isUpper || c.isDigit || c = '_'

/-- The checks of the round policy. -/
def validateRounds (rounds : RoundPolicy) : Except PolicyError Unit := do
  rejectWhen (rounds.conditioningRounds = 0 || rounds.measuredRounds = 0)
    "round policy requires conditioning and measured rounds"
  let _ ← requireSome (checkedAdd 32 rounds.conditioningRounds rounds.measuredRounds)
    "round count overflows u32"
  rejectWhen (!rounds.requireEveryRoundToPass)
    "strict contention ranking requires every round to pass"

/-- The checks of the object store. -/
def validateObjectStore (crates : Crates) (objectStore : ObjectStorePolicy) :
    Except PolicyError Unit := do
  let endpoint ← (crates.parseUrl objectStore.endpoint).mapError
    ("invalid object-store endpoint: " ++ ·)
  rejectWhen
    (endpoint.hostStr.isNone || endpoint.username ≠ "" || endpoint.password.isSome ||
      endpoint.query.isSome || endpoint.fragment.isSome ||
      !(endpoint.scheme = "http" || endpoint.scheme = "https"))
    "object-store endpoint must be a credential-free absolute HTTP(S) URL"
  rejectWhen (decide (endpoint.scheme = "http") ≠ objectStore.allowHttp)
    "object-store allow_http must match the endpoint scheme"
  rejectWhen (isBlank objectStore.bucket || isBlank objectStore.region)
    "object-store bucket and region must not be empty"
  rejectWhen (!objectStore.pathStyleAccess)
    "the shared MinIO workload requires path-style access"
  [objectStore.accessKeyEnv, objectStore.secretKeyEnv].forM fun name =>
    rejectWhen (!validEnvironmentVariable name)
      ("invalid object-store credential environment variable `" ++ name ++ "`")
  rejectWhen (objectStore.accessKeyEnv = objectStore.secretKeyEnv)
    "object-store access-key and secret-key environment variables must differ"

def validateParameters (crates : Crates) (parameters : ContentionParameters) :
    Except PolicyError Unit := do
  rejectWhen (parameters.transcriptFormat ≠ contentionTranscriptFormat)
    ("unsupported transcript format `" ++ parameters.transcriptFormat ++ "`")
  rejectWhen (parameters.fixturePrefix.isEmpty ||
      !parameters.fixturePrefix.toList.all isFixtureChar)
    "fixture prefix must contain lowercase ASCII letters, digits, or underscores"
  validateRounds parameters.roundPolicy
  let retention := parameters.metadataRetention
  rejectWhen (retention.deleteAfterCommit ≠ contentionMetadataDeleteAfterCommit ||
      retention.previousVersionsMax ≠ contentionMetadataPreviousVersionsMax)
    ("contention metadata retention must set delete-after-commit=" ++
      (if contentionMetadataDeleteAfterCommit then "true" else "false") ++
      " and previous-versions-max=" ++ toString contentionMetadataPreviousVersionsMax)
  let workload := parameters.workload
  rejectWhen (workload.warmupCommits = 0 || workload.sequentialCommits = 0 ||
      workload.concurrentWriters = 0 || workload.concurrentDurationMs = 0)
    "warmup, sequential, writer, and concurrent duration values must be positive"
  rejectWhen (isBlank workload.commitProperty) "commit property must not be empty"
  validateObjectStore crates parameters.objectStore
  let limits := parameters.limits
  rejectWhen (limits.requestTimeoutMs = 0 || limits.maximumResponseBytes = 0 ||
      limits.maximumFixtureIdBytes = 0)
    "contention limits must be positive"
  rejectWhen (decide (2 ^ 64 ≤ limits.maximumResponseBytes))
    "maximum response size does not fit this runner"

/-- `Value::as_bool`. -/
def asBool : Json → Option Bool
  | .bool value => some value
  | _ => none

/-- The turn of one adapter in the loop of `validate_profile`. -/
def validateAdapter (profile : Profile) (scenario : Scenario) (adapter : CatalogAdapter) :
    Except PolicyError CatalogRun := do
  rejectWhen (adapter.protocol ≠ .icebergRestV1)
    ("catalog `" ++ adapter.catalog ++ "` does not use Iceberg REST v1")
  rejectWhen (adapter.requestHandling ≠ .protocolNative)
    ("catalog `" ++ adapter.catalog ++ "` uses a behavior-changing shim")
  scenario.capabilities.forM fun requirement => do
    rejectWhen (!(profile.catalogCapabilities.map (·.id)).contains requirement.capability)
      ("profile vocabulary omits required capability `" ++ requirement.capability ++ "`")
    rejectWhen (!adapter.capabilities.exercises requirement.capability)
      ("catalog `" ++ adapter.catalog ++ "` does not exercise required capability `" ++
        requirement.capability ++ "`")
  let component ← requireSome (keyed Component.id profile.components)[adapter.catalog]?
    ("profile omits component for catalog `" ++ adapter.catalog ++ "`")
  rejectWhen (component.kind ≠ .catalog)
    ("component `" ++ adapter.catalog ++ "` is not classified as a catalog")
  pure ⟨adapter.catalog, component.name, component.version⟩

def validateProfile (profile : Profile) (scenario : Scenario)
    (parameters : ContentionParameters) : Except PolicyError (List CatalogRun) := do
  let objectStore := parameters.objectStore
  rejectWhen (profile.platform.mode ≠ .dockerCompose)
    "contention profile must execute through Docker Compose"
  rejectWhen (profile.platform.sharedObjectStore ≠ objectStore.component)
    "scenario object store does not match the profile shared object store"
  rejectWhen (profile.platform.warehouseUri ≠ "s3://" ++ objectStore.bucket)
    "scenario object-store bucket does not match the profile warehouse URI"
  let runner ← requireSome (profile.components.find? fun component =>
      component.id = runnerComponentId)
    "profile omits the contention runner component"
  rejectWhen (runner.kind ≠ .benchmarkHarness)
    "contention runner component is not a benchmark harness"
  let store ← requireSome (profile.components.find? fun component =>
      component.id = objectStore.component)
    "profile omits the shared object-store component"
  rejectWhen (store.kind ≠ .objectStore)
    "profile shared object-store component has the wrong kind"
  let service ← requireSome (profile.services.find? fun service =>
      service.component = objectStore.component)
    "profile omits the shared object-store service"
  rejectWhen (service.endpoint ≠ some objectStore.endpoint ||
      service.settings["bucket"]?.bind Json.asStr ≠ some objectStore.bucket ||
      service.settings["region"]?.bind Json.asStr ≠ some objectStore.region ||
      service.settings["path_style_access"]?.bind asBool ≠ some objectStore.pathStyleAccess)
    "profile object-store service does not match the contention policy"
  rejectWhen profile.catalogAdapters.isEmpty "profile has no catalog adapters"
  let catalogs ← profile.catalogAdapters.mapM (validateAdapter profile scenario)
  rejectWhen (parameters.roundPolicy.measuredRounds ≠ catalogs.length)
    ("balanced rotate-left ranking requires one measured round per catalog (" ++
      toString catalogs.length ++ " catalogs, " ++
      toString parameters.roundPolicy.measuredRounds ++ " measured rounds)")
  pure catalogs

-- ════════════════════════════════
-- Plans
-- ════════════════════════════════

/-- The round of an index. -/
def scheduledRound (catalogs : List CatalogRun) (policy : RoundPolicy) (index : ℕ) : RoundPlan :=
  let offset := index % catalogs.length
  { repetition := index + 1
    kind := if index < policy.conditioningRounds then .conditioning else .measured
    catalogs := catalogs.drop offset ++ catalogs.take offset }

def scheduleRounds (catalogs : List CatalogRun) (policy : RoundPolicy) :
    Except PolicyError (List RoundPlan) := do
  rejectWhen catalogs.isEmpty "cannot schedule an empty catalog set"
  let total ← requireSome (checkedAdd 32 policy.conditioningRounds policy.measuredRounds)
    "round count overflows u32"
  pure ((List.range total).map (scheduledRound catalogs policy))

def validateFixtureId (id : String) (maximumBytes : ℕ) : Except PolicyError Unit := do
  rejectWhen (id.isEmpty || decide (maximumBytes < (utf8 id).length))
    ("fixture id must contain 1 to " ++ toString maximumBytes ++ " bytes")
  rejectWhen (!id.toList.all isFixtureChar)
    "fixture id must contain only lowercase ASCII letters, digits, and underscores"

/-- `{repetition:02}`. -/
def twoDigits (repetition : ℕ) : String :=
  if repetition < 10 then "0" ++ toString repetition else toString repetition

/-- `str::replace('-', "_")`. -/
def catalogStem (catalog : ComponentId) : String :=
  catalog.map fun c => if c = '-' then '_' else c

namespace ContentionPlan

def fromContracts (crates : PolicyCrates) (profile : Profile) (scenario : Scenario) :
    Except PolicyError ContentionPlan := do
  validateScenarioShape scenario
  let parameters ← Commit.decodeParameters crates scenario
  validateParameters crates.toCrates parameters
  validateCanonicalScenario crates scenario
  let catalogs ← validateProfile profile scenario parameters
  let rounds ← scheduleRounds catalogs parameters.roundPolicy
  pure ⟨parameters, rounds⟩

/-- The catalog has a turn in the repetition. -/
def isScheduled (plan : ContentionPlan) (catalog : ComponentId) (repetition : ℕ) : Bool :=
  plan.rounds.any fun round =>
    round.repetition = repetition && round.catalogs.any fun entry => entry.catalog = catalog

def fixture (plan : ContentionPlan) (catalog : ComponentId) (fixtureId : String)
    (repetition : ℕ) : Except PolicyError ContentionFixture := do
  validateFixtureId fixtureId plan.parameters.limits.maximumFixtureIdBytes
  rejectWhen (repetition = 0 || !plan.isScheduled catalog repetition)
    ("catalog `" ++ catalog ++ "` is not scheduled in repetition " ++ toString repetition)
  rejectWhen (!(catalogStem catalog).toList.all isFixtureChar)
    ("catalog identifier `" ++ catalog ++ "` is unsafe for an isolated fixture")
  pure
    { id := fixtureId
      «namespace» := plan.parameters.fixturePrefix ++ "_" ++ catalogStem catalog ++ "_" ++
        fixtureId ++ "_r" ++ twoDigits repetition
      table := "same_table_contention" }

end ContentionPlan

end CatalogBench.Commit
