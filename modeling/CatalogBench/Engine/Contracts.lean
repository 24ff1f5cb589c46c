import CatalogBench.Commit.Policy
import CatalogBench.Engine.Reconcile

/-!
# Plans from contracts

`InteroperabilityPlan.fromContracts` selects what a run needs from the profile and the canonical
scenario: the adapter of the catalog, the engine and its connector, the shared object store, the
fixture and the artifacts that have to be in the engine image.
-/

set_option linter.all false

namespace CatalogBench.Engine
open MachineInt CatalogBench.Contract
open CatalogBench.Commit (PolicyError rejectWhen requireSome isFixtureChar asBool)

def engineScenarioId : String := "engine.iceberg.write-read-evolution"
def engineScenarioVersion : ℕ := 2
def engineRunnerComponentId : String := "catalog-bench-engine"
def engineRunnerRole : String := "engine-runner"
def engineRunnerLocation : String := "/usr/local/bin/catalog-bench-engine"
def sparkCatalogName : String := "bench"
def sparkComponentName : String := "Apache Spark"
def icebergConnectorName : String := "Apache Iceberg Java engine runtimes"
def icebergConnectorVersion : String := "1.11.0"
def duckdbConnectorName : String := "DuckDB Iceberg extension stack"
def duckdbConnectorVersion : String := "1.5.3"
def sparkSubmitLocation : String := "/opt/spark/bin/spark-submit"
def flinkCatalogName : String := "bench"
def flinkComponentName : String := "Apache Flink"
def flinkCliLocation : String := "/opt/flink/bin/flink"
def flinkRunnerLocation : String := "/opt/catalog-bench/catalog-bench-flink-runner.jar"
def trinoComponentName : String := "Trino"
def trinoServerLocation : String := "/usr/lib/trino/bin/run-trino"
def trinoLauncherLocation : String := "/usr/lib/trino/bin/launcher"
def trinoNativeLauncherLocation : String := "/usr/lib/trino/bin/linux-arm64/launcher"
def trinoCliLocation : String := "/usr/bin/trino"
def duckdbComponentName : String := "DuckDB"
def duckdbCliLocation : String := "/usr/local/bin/duckdb"
def fixtureTableName : String := "events"

/-- What the plans need besides the contract documents. -/
structure EngineCrates extends ContractCrates where
  /-- `serde_json::from_value::<EngineScenarioParameters>`, or the text of its error. -/
  decodeParameters : StringMap Json → Except String EngineScenarioParameters
  /-- What `parse_contract` makes of the scenario file that is compiled into the runner. -/
  canonicalScenario : Except ParseContractError ContractDocument
  /-- `url::Url::to_string`. -/
  urlText : Url → String
  /-- `url::Url::to_string` after `path_segments_mut`, `pop_if_empty` and a `push` of each segment,
  unless the URL cannot have segments. -/
  pushSegments : Url → List String → Option String
  /-- `serde_json::to_string` of a tuple. -/
  tupleText : List Json → Option String

-- ════════════════════════════════
-- The scenario
-- ════════════════════════════════

def validateCanonicalScenario (crates : EngineCrates) (scenario : Scenario) :
    Except PolicyError Unit := do
  rejectWhen (scenario.id ≠ engineScenarioId)
    ("engine runner requires scenario `" ++ engineScenarioId ++ "`, found `" ++ scenario.id ++ "`")
  rejectWhen (scenario.version ≠ engineScenarioVersion)
    ("engine runner supports scenario version " ++ toString engineScenarioVersion ++ ", found " ++
      toString scenario.version)
  rejectWhen (scenario.family ≠ .clientInteroperability)
    "engine scenario must use the client-interoperability family"
  match crates.canonicalScenario with
  | .error error => .error ("canonical engine scenario is invalid: " ++ error.display)
  | .ok (.scenario canonical) =>
    rejectWhen (scenario ≠ canonical)
      "engine scenario differs from the canonical checked-in contract"
  | .ok _ => .error "canonical engine scenario did not decode as a scenario"

def decodeParameters (crates : EngineCrates) (scenario : Scenario) :
    Except PolicyError EngineScenarioParameters :=
  (crates.decodeParameters scenario.parameters).mapError
    ("invalid engine scenario parameters: " ++ ·)

/-- So many lowercase hexadecimal digits. -/
def isLowerHex (length : ℕ) (value : String) : Bool :=
  (utf8 value).length = length && value.toList.all fun c => c.isDigit || ('a' ≤ c && c ≤ 'f')

def validSha256 (value : String) : Bool := isLowerHex 64 value

def validGitRevision (value : String) : Bool := isLowerHex 40 value

def validateParameters (parameters : EngineScenarioParameters) : Except PolicyError Unit := do
  rejectWhen (parameters.transcriptFormat ≠ engineTranscriptFormat)
    "unexpected engine transcript format"
  rejectWhen (parameters.fixturePrefix.isEmpty ||
      !parameters.fixturePrefix.toList.all isFixtureChar)
    "fixture prefix must contain lowercase ASCII letters, digits, or underscores"
  let fields := parameters.table.schema.fields
  rejectWhen (parameters.table.formatVersion ≠ 2 || parameters.table.schema.schemaId ≠ 0 ||
      fields.isEmpty)
    "engine table policy must define a nonempty format-v2 schema zero"
  rejectWhen ((fields.map (·.id)).eraseDups.length ≠ fields.length ||
      (fields.map (·.name)).eraseDups.length ≠ fields.length ||
      fields.any fun field => field.id ≤ 0)
    "engine table fields require unique positive IDs and unique names"
  let batches := parameters.batches
  rejectWhen (batches.initial.rows = 0 || batches.evolved.rows = 0 ||
      checkedAdd 64 batches.initial.idStart batches.initial.rows ≠ some batches.evolved.idStart)
    "engine row batches must be positive, contiguous, and non-overlapping"
  let reads := parameters.canonicalReads
  rejectWhen (!reads.trailingLf || reads.orderBy ≠ ["id"] || !validSha256 reads.initial.sha256 ||
      !validSha256 reads.afterEvolution.sha256)
    "canonical reads require ID ordering, a final LF, and SHA-256 identities"
  rejectWhen (parameters.objectAudit.minimumMetadataObjects = 0 ||
      parameters.objectAudit.minimumParquetObjects = 0)
    "object-audit minimums must both be positive"

-- ════════════════════════════════
-- The profile
-- ════════════════════════════════

def validateProfilePlatform (profile : Profile) : Except PolicyError Unit := do
  rejectWhen (profile.readiness ≠ .runnable) "engine profile must be runnable"
  let architecture := toAsciiLowercase profile.platform.architecture
  rejectWhen (profile.platform.mode ≠ .dockerCompose ||
      toAsciiLowercase profile.platform.operatingSystem ≠ "linux" ||
      !(architecture = "aarch64" || architecture = "arm64"))
    "engine profile must execute Linux ARM64 through Docker Compose"

def adapter (profile : Profile) (catalog : ComponentId) : Except PolicyError CatalogAdapter :=
  requireSome (profile.catalogAdapters.find? fun adapter => adapter.catalog = catalog)
    ("profile has no adapter for `" ++ catalog ++ "`")

def component (profile : Profile) (id : ComponentId) (kind : ComponentKind) :
    Except PolicyError Component := do
  let component ← requireSome (profile.components.find? fun component => component.id = id)
    ("profile has no component `" ++ id ++ "`")
  rejectWhen (component.kind ≠ kind)
    ("profile component `" ++ id ++ "` has kind " ++ component.kind.debug ++ ", expected " ++
      kind.debug)
  pure component

/-- The only item of a list. -/
def requireOnly {α : Type} (items : List α) (message : String) : Except PolicyError α :=
  match items with
  | [item] => .ok item
  | _ => .error message

def roleComponent (profile : Profile) (role : String) (kind : ComponentKind) :
    Except PolicyError Component := do
  let service ← requireOnly (profile.services.filter fun service => service.role = role)
    ("profile must contain exactly one `" ++ role ++ "` service")
  component profile service.component kind

def selectedRoleComponent (profile : Profile) (role : String) (selected : ComponentId)
    (kind : ComponentKind) : Except PolicyError Component := do
  let service ← requireOnly
    (profile.services.filter fun service => service.role = role && service.component = selected)
    ("profile must select `" ++ selected ++ "` through exactly one `" ++ role ++ "` service")
  component profile service.component kind

def optionalEngineRunner (profile : Profile) : Except PolicyError (Option Component) :=
  match profile.services.filter fun service => service.role = engineRunnerRole with
  | [] => pure none
  | [service] => do
    rejectWhen (service.component ≠ engineRunnerComponentId)
      ("`" ++ engineRunnerRole ++ "` must select `" ++ engineRunnerComponentId ++ "`")
    let runner ← component profile service.component .benchmarkHarness
    let revision ← requireSome (runner.source.map (·.revision))
      "engine runner must declare its source revision"
    rejectWhen (runner.version ≠ revision || !validGitRevision revision)
      "engine runner version and source must be one lowercase 40-character Git revision"
    pure (some runner)
  | _ => .error ("profile must contain at most one `" ++ engineRunnerRole ++ "` service")

def validateSupportedConnector (engine connector : Component) : Except PolicyError Unit :=
  let (expectedName, expectedVersion) :=
    if engine.name = duckdbComponentName && engine.version = duckdbComponentVersion then
      (duckdbConnectorName, duckdbConnectorVersion)
    else (icebergConnectorName, icebergConnectorVersion)
  rejectWhen (connector.name ≠ expectedName || connector.version ≠ expectedVersion)
    ("stock renderer requires " ++ expectedName ++ " " ++ expectedVersion ++ ", found " ++
      connector.name ++ " " ++ connector.version)

/-- An HTTP(S) URL without credentials, query or fragment. -/
def isPlainHttp (url : Url) : Bool := (url.scheme = "http" || url.scheme = "https") && isPlain url

def settingText (service : ServiceBinding) (key : String) : Except PolicyError String :=
  requireSome ((service.settings[key]?.bind Json.asStr).filter fun value => !value.isEmpty)
    ("service setting `" ++ key ++ "` must be a nonempty string")

def settingBool (service : ServiceBinding) (key : String) : Except PolicyError Bool :=
  requireSome (service.settings[key]?.bind asBool)
    ("service setting `" ++ key ++ "` must be a boolean")

def objectStorePlan (crates : Crates) (profile : Profile) : Except PolicyError ObjectStorePlan := do
  let component ← component profile profile.platform.sharedObjectStore .objectStore
  let service ← requireOnly
    (profile.services.filter fun service =>
      service.component = component.id && service.role = "shared-object-store")
    "profile must contain exactly one shared-object-store service for its platform component"
  let endpoint ← requireSome service.endpoint "shared object store has no endpoint"
  let parsed ← (crates.parseUrl endpoint).mapError ("invalid object-store endpoint: " ++ ·)
  rejectWhen (!isPlainHttp parsed)
    "object-store endpoint must be a credential-free HTTP(S) URL"
  let bucket ← settingText service "bucket"
  let region ← settingText service "region"
  let pathStyleAccess ← settingBool service "path_style_access"
  let warehouse ← (crates.parseUrl profile.platform.warehouseUri).mapError
    ("invalid warehouse URI: " ++ ·)
  rejectWhen (warehouse.scheme ≠ "s3" || warehouse.hostStr ≠ some bucket)
    "profile warehouse URI must use the shared object-store bucket"
  pure
    { component := component.id, endpoint, bucket, region, allowHttp := parsed.scheme = "http"
      pathStyleAccess, accessKeyEnv := s3AccessKeyEnv, secretKeyEnv := s3SecretKeyEnv }

-- ════════════════════════════════
-- The fixture
-- ════════════════════════════════

def validateFixtureId (fixtureId : String) : Except PolicyError Unit := do
  rejectWhen (fixtureId.isEmpty || decide (24 < (utf8 fixtureId).length))
    "fixture ID must contain 1 to 24 characters"
  rejectWhen (!fixtureId.toList.all isFixtureChar)
    "fixture ID must contain lowercase ASCII letters, digits, or underscores"

/-- The characters of a catalog in the name of a fixture. -/
def catalogSlug (catalog : ComponentId) : Except PolicyError String := do
  let characters ← catalog.toList.mapM fun c =>
    if c.isLower || c.isDigit then .ok c
    else if c = '-' then .ok '_'
    else .error "catalog identifiers used in fixtures require lowercase ASCII letters, digits, or hyphens"
  pure (String.ofList characters)

def childTableLocation (crates : EngineCrates) (root «namespace» table : String)
    (objectStore : ObjectStorePlan) : Except PolicyError String := do
  let location ← (crates.parseUrl root).mapError ("invalid create-table location: " ++ ·)
  rejectWhen (location.scheme ≠ "s3" || location.hostStr ≠ some objectStore.bucket)
    "create-table location must use the shared object-store bucket"
  requireSome (crates.pushSegments location [«namespace», table])
    "create-table location cannot contain child path segments"

/-- `Option::transpose` of a fallible computation on a value that may be absent. -/
def traverseOption {α β : Type} (value : Option α) (compute : α → Except PolicyError β) :
    Except PolicyError (Option β) :=
  match value with
  | none => .ok none
  | some value => (compute value).map some

def fixture (crates : EngineCrates) (start : String) (catalog : ComponentId) (fixtureId : String)
    (adapter : CatalogAdapter) (objectStore : ObjectStorePlan) : Except PolicyError Fixture := do
  validateFixtureId fixtureId
  let slug ← catalogSlug catalog
  let «namespace» := start ++ "_" ++ slug ++ "_" ++ fixtureId
  let requestedLocation ← traverseOption adapter.endpoint.createTableLocation fun root =>
    childTableLocation crates root «namespace» fixtureTableName objectStore
  pure { «namespace», table := fixtureTableName, requestedLocation }

-- ════════════════════════════════
-- The execution plan
-- ════════════════════════════════

/-- `str::trim_end_matches` of a character. -/
def trimEndMatches (text : String) (c : Char) : String :=
  String.ofList (text.toList.reverse.dropWhile (· = c)).reverse

def endpointUrl (crates : EngineCrates) (baseUrl path : String) : Except PolicyError String := do
  let url ← (crates.parseUrl (trimEndMatches baseUrl '/' ++ path)).mapError
    ("invalid catalog endpoint: " ++ ·)
  rejectWhen (!isPlainHttp url) "catalog endpoint must be a credential-free HTTP(S) URL"
  pure (crates.urlText url)

def authentication (crates : EngineCrates) (adapter : CatalogAdapter) :
    Except PolicyError (EngineCatalogAuthentication × CatalogCredentialSource) :=
  match adapter.authentication with
  | .anonymous => .ok (.anonymous, .anonymous)
  | .oauth2ClientCredentials tokenPath scope clientIdEnv clientSecretEnv => do
    let tokenUrl ← endpointUrl crates adapter.endpoint.baseUrl tokenPath
    pure (.oAuth2ClientCredentials tokenUrl scope,
      .oAuth2ClientCredentials clientIdEnv clientSecretEnv)

def configWarehouse (adapter : CatalogAdapter) : Except PolicyError (Option String) := do
  rejectWhen (adapter.endpoint.config.query.keys.any fun key => key ≠ "warehouse")
    "engine REST binding supports only the standard `warehouse` config query"
  pure adapter.endpoint.config.query["warehouse"]?

def configuredPrefix (adapter : CatalogAdapter) : Option String :=
  match adapter.endpoint.routePrefix with
  | .static value => some value
  | .unprefixed | .negotiated _ => none

def restCatalogPlan (adapter : CatalogAdapter) (name : String)
    (authentication : EngineCatalogAuthentication) : Except PolicyError RestCatalogPlan := do
  let warehouse ← configWarehouse adapter
  pure { name, uri := adapter.endpoint.baseUrl, warehouse, routePrefix := configuredPrefix adapter
         authentication }

def executionPlan (engine : Component) (adapter : CatalogAdapter)
    (authentication : EngineCatalogAuthentication) (objectStore : ObjectStorePlan)
    (fixture : Fixture) (scenario : EngineScenarioParameters) :
    Except PolicyError EngineExecutionPlan :=
  let fileIo : S3FileIoPlan :=
    { implementation := "org.apache.iceberg.aws.s3.S3FileIO", endpoint := objectStore.endpoint
      bucket := objectStore.bucket, region := objectStore.region
      pathStyleAccess := objectStore.pathStyleAccess }
  if engine.name = sparkComponentName && engine.version = sparkComponentVersion then do
    let catalog ← restCatalogPlan adapter sparkCatalogName authentication
    pure (.spark
      { format := sparkPlanFormat, execution := ⟨"local[2]", 1, 1⟩, catalog, fileIo, fixture
        scenario })
  else if engine.name = flinkComponentName && engine.version = flinkComponentVersion then do
    let _ ← restCatalogPlan adapter flinkCatalogName authentication
    pure (.flink fixture scenario)
  else if engine.name = trinoComponentName && engine.version = trinoComponentVersion then do
    let catalog ← restCatalogPlan adapter trinoCatalogName authentication
    pure (.trino
      { format := trinoPlanFormat, execution := ⟨1⟩, catalog
        fileIo := { enabled := true, endpoint := objectStore.endpoint, bucket := objectStore.bucket
                    region := objectStore.region, pathStyleAccess := objectStore.pathStyleAccess }
        fixture, scenario })
  else if engine.name = duckdbComponentName && engine.version = duckdbComponentVersion then do
    let catalog ← restCatalogPlan adapter duckdbCatalogName authentication
    pure (.duckDb { format := duckdbPlanFormat, catalog, fileIo, fixture, scenario })
  else .error ("no stock renderer supports " ++ engine.name ++ " " ++ engine.version)

-- ════════════════════════════════
-- Runtime artifacts
-- ════════════════════════════════

def embeddedArtifacts (component : Component) : Except PolicyError (List ArtifactReference) :=
  match component.artifact with
  | .containerImage _ _ _ _ embeddedArtifacts => .ok embeddedArtifacts
  | .sourceBuild _ | .package _ _ _ _ =>
    .error ("component `" ++ component.id ++ "` must use a container image")

/-- `str::strip_prefix`. -/
def stripPrefix (text start : String) : Option String :=
  if start.toList.isPrefixOf text.toList then
    some (String.ofList (text.toList.drop start.toList.length))
  else none

/-- The components after the root of an absolute path, which skip repeated slashes and `.`; a
component `..` is no name. -/
def isTraversalFree (path : String) : Bool :=
  (path.toList.splitOn '/').all fun component => component ≠ "..".toList

def expectation (artifact : ArtifactReference) (components : List ComponentId) :
    Except PolicyError RuntimeArtifactExpectation := do
  let location ← requireSome (stripPrefix artifact.location "image:")
    ("runtime artifact `" ++ artifact.location ++ "` must use an image path")
  rejectWhen (location.toList.head? ≠ some '/') "runtime artifact image path must be absolute"
  rejectWhen (!isTraversalFree location)
    "runtime artifact image path must be absolute and traversal-free"
  rejectWhen (artifact.digest.algorithm ≠ .sha256 || !validSha256 artifact.digest.value)
    "runtime artifacts require lowercase SHA-256 identities"
  let bytes ← requireSome artifact.bytes "runtime artifact byte count is required"
  pure { location, mediaType := artifact.mediaType, sha256 := artifact.digest.value, bytes
         components }

def sameArtifact (left right : RuntimeArtifactExpectation) : Bool :=
  left.mediaType = right.mediaType && left.sha256 = right.sha256 && left.bytes = right.bytes

/-- The positions of the expectations that match. -/
def matchPositions (expectations : List RuntimeArtifactExpectation)
    (isMatch : RuntimeArtifactExpectation → Bool) : List ℕ :=
  (expectations.zipIdx.filter fun entry => isMatch entry.1).map (·.2)

/-- `slice::sort` and then `Vec::dedup`. -/
def sortDedup (texts : List String) : List String := (texts.insertionSort (· ≤ ·)).eraseDups

/-- The artifact at a position also belongs to the component. -/
def addOwner (expectations : List RuntimeArtifactExpectation) (position : ℕ) (owner : ComponentId) :
    List RuntimeArtifactExpectation :=
  expectations.modify position fun expectation =>
    { expectation with components := sortDedup (expectation.components ++ [owner]) }

/-- The turn of one connector artifact: the expectations and the positions that are taken. -/
def matchConnectorArtifact (connector : ComponentId)
    (state : List RuntimeArtifactExpectation × List ℕ) (artifact : ArtifactReference) :
    Except PolicyError (List RuntimeArtifactExpectation × List ℕ) := do
  let connectorExpectation ← expectation artifact [connector]
  let position ← requireOnly
    (matchPositions state.1 fun expectation => sameArtifact expectation connectorExpectation)
    ("connector artifact `" ++ artifact.location ++
      "` must have exactly one byte-identical copy in the engine image")
  rejectWhen (state.2.contains position)
    ("connector artifact `" ++ artifact.location ++
      "` duplicates another connector artifact identity")
  pure (addOwner state.1 position connector, position :: state.2)

/-- The turn of one runner artifact. -/
def matchRunnerArtifact (runner : ComponentId) (expectations : List RuntimeArtifactExpectation)
    (artifact : ArtifactReference) : Except PolicyError (List RuntimeArtifactExpectation) := do
  let runnerExpectation ← expectation artifact [runner]
  let position ← requireOnly
    (matchPositions expectations fun expectation =>
      expectation.location = runnerExpectation.location &&
        sameArtifact expectation runnerExpectation)
    "each engine runner artifact must have exactly one byte-identical copy at the same path in the engine image"
  pure (addOwner expectations position runner)

/-- What the runner adds to the expectations, if the profile has one. -/
def matchRunnerArtifacts (runner : Option Component)
    (expectations : List RuntimeArtifactExpectation) :
    Except PolicyError (List RuntimeArtifactExpectation) :=
  match runner with
  | none => .ok expectations
  | some runner => do
    let artifacts ← embeddedArtifacts runner
    rejectWhen artifacts.isEmpty "engine runner image must declare at least one embedded artifact"
    artifacts.foldlM (matchRunnerArtifact runner.id) expectations

def runtimeArtifacts (runner : Option Component) (engine connector : Component) :
    Except PolicyError (List RuntimeArtifactExpectation) := do
  let engineArtifacts ← embeddedArtifacts engine
  let connectorArtifacts ← embeddedArtifacts connector
  rejectWhen (engineArtifacts.isEmpty || connectorArtifacts.isEmpty)
    "engine and connector images must declare embedded runtime artifacts"
  let expectations ← engineArtifacts.mapM fun artifact => expectation artifact [engine.id]
  let matched ← connectorArtifacts.foldlM (matchConnectorArtifact connector.id) (expectations, [])
  let expectations ← matchRunnerArtifacts runner matched.1
  pure (expectations.insertionSort fun left right => left.location ≤ right.location)

/-- The only artifact at a location. -/
def artifactAt (artifacts : List RuntimeArtifactExpectation) (runtime location : String) :
    Except PolicyError RuntimeArtifactExpectation :=
  requireOnly (artifacts.filter fun artifact => artifact.location = location)
    (runtime ++ " runtime must contain exactly one `" ++ location ++ "` artifact")

/-- The artifact has the media type and the owners and is not empty. -/
def hasIdentity (artifact : RuntimeArtifactExpectation) (mediaType : String)
    (owners : List ComponentId) : Bool :=
  artifact.mediaType = mediaType && artifact.bytes ≠ 0 && artifact.components = owners

def validateRunnerArtifact (artifacts : List RuntimeArtifactExpectation)
    (runner engine : ComponentId) : Except PolicyError Unit := do
  let artifact ← artifactAt artifacts "engine" engineRunnerLocation
  rejectWhen (!hasIdentity artifact "application/vnd.elf" ([runner, engine].insertionSort (· ≤ ·)))
    "engine runner artifact must be one nonempty runner-and-engine-owned ELF"

/-- The executable of each engine: where it is, what it is called, its media type and the words
for it. -/
def executableOf : EngineExecutionPlan → String × String × String × String
  | .spark _ =>
    (sparkSubmitLocation, "Spark submission", "application/x-shellscript", "shell script")
  | .flink _ _ => (flinkCliLocation, "Flink CLI", "application/x-shellscript", "shell script")
  | .trino _ =>
    (trinoServerLocation, "Trino server launcher", "application/x-shellscript", "shell script")
  | .duckDb _ => (duckdbCliLocation, "DuckDB CLI", "application/vnd.elf", "executable")

def validateFlinkArtifacts (artifacts : List RuntimeArtifactExpectation)
    (runner : Option Component) (engine : ComponentId) : Except PolicyError Unit := do
  let runner ← requireSome runner
    "Flink execution requires a source-bound engine runner component"
  let artifact ← artifactAt artifacts "Flink" flinkRunnerLocation
  rejectWhen
    (!hasIdentity artifact "application/java-archive" ([runner.id, engine].insertionSort (· ≤ ·)))
    "Flink runner must be one nonempty source-bound runner-and-engine-owned JAR"

def validateTrinoArtifacts (artifacts : List RuntimeArtifactExpectation) (engine : ComponentId) :
    Except PolicyError Unit := do
  let launcher ← artifactAt artifacts "Trino" trinoLauncherLocation
  rejectWhen (!hasIdentity launcher "application/x-shellscript" [engine])
    "Trino launcher must be a nonempty engine-owned shell script"
  let nativeLauncher ← artifactAt artifacts "Trino" trinoNativeLauncherLocation
  rejectWhen (!hasIdentity nativeLauncher "application/vnd.elf" [engine])
    "Trino native launcher must be one nonempty engine-owned ELF"
  let cli ← artifactAt artifacts "Trino" trinoCliLocation
  rejectWhen (!hasIdentity cli "application/java-archive" [engine])
    "Trino CLI must be a nonempty engine-owned Java archive"

def validateExecutionArtifact (artifacts : List RuntimeArtifactExpectation)
    (runner : Option Component) (engine : ComponentId) (execution : EngineExecutionPlan) :
    Except PolicyError Unit := do
  let (location, label, mediaType, artifactLabel) := executableOf execution
  let artifact ← artifactAt artifacts "engine" location
  rejectWhen (!hasIdentity artifact mediaType [engine])
    (label ++ " artifact must be a nonempty engine-owned " ++ artifactLabel)
  match execution with
  | .flink _ _ => validateFlinkArtifacts artifacts runner engine
  | .trino _ => validateTrinoArtifacts artifacts engine
  | .spark _ | .duckDb _ => pure ()

-- ════════════════════════════════
-- Plans
-- ════════════════════════════════

def ComponentIdentity.fromComponent (component : Component) : ComponentIdentity where
  id := component.id
  name := component.name
  version := component.version
  sourceRevision := component.source.map (·.revision)

/-- Both sides have one protocol. -/
def CatalogProtocol.ofContract : Contract.CatalogProtocol → CatalogProtocol
  | .icebergRestV1 => .icebergRestV1

namespace InteroperabilityPlan

def fromContractsForEngine (crates : EngineCrates) (profile : Profile) (scenario : Scenario)
    (catalog engine : ComponentId) (fixtureId : String) :
    Except PolicyError InteroperabilityPlan := do
  validateCanonicalScenario crates scenario
  let parameters ← Engine.decodeParameters crates scenario
  validateParameters parameters
  validateProfilePlatform profile
  let adapter ← adapter profile catalog
  rejectWhen (adapter.requestHandling ≠ .protocolNative)
    ("catalog `" ++ catalog ++ "` uses a behavior-changing shim")
  rejectWhen (CatalogProtocol.ofContract adapter.protocol ≠ parameters.catalogProtocol)
    ("catalog `" ++ catalog ++ "` protocol does not match the scenario")
  let catalogComponent ← component profile catalog .catalog
  let runnerComponent ← optionalEngineRunner profile
  let engineComponent ← selectedRoleComponent profile "stock-engine" engine .engine
  let connectorComponent ← roleComponent profile "engine-connector" .connector
  validateSupportedConnector engineComponent connectorComponent
  let objectStore ← objectStorePlan crates.toCrates profile
  let fixture ← Engine.fixture crates parameters.fixturePrefix catalog fixtureId adapter objectStore
  let (authentication, credentialSource) ← authentication crates adapter
  let execution ←
    executionPlan engineComponent adapter authentication objectStore fixture parameters
  let runtimeArtifacts ← Engine.runtimeArtifacts runnerComponent engineComponent connectorComponent
  validateExecutionArtifact runtimeArtifacts runnerComponent engineComponent.id execution
  runnerComponent.forM fun runner =>
    validateRunnerArtifact runtimeArtifacts runner.id engineComponent.id
  pure
    { runner := runnerComponent.map .fromComponent
      catalog := .fromComponent catalogComponent
      engine := .fromComponent engineComponent
      connector := .fromComponent connectorComponent
      credentialSource, objectStore
      runtimePlatform := ⟨profile.platform.operatingSystem, profile.platform.architecture⟩
      runtimeArtifacts, execution }

def fromContracts (crates : EngineCrates) (profile : Profile) (scenario : Scenario)
    (catalog : ComponentId) (fixtureId : String) : Except PolicyError InteroperabilityPlan := do
  let engine ← roleComponent profile "stock-engine" .engine
  fromContractsForEngine crates profile scenario catalog engine.id fixtureId

end InteroperabilityPlan

end CatalogBench.Engine
