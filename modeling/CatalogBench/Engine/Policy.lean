import CatalogBench.Crates
import CatalogBench.Engine.Protocol

/-!
# Interoperability plans

The scenario parameters and the execution plan of each stock engine, as the policy of the
profile hands them to the renderers and to the workflow.
-/

set_option linter.all false

namespace CatalogBench.Engine

abbrev ComponentId := String

def engineTranscriptFormat : String := "catalog-bench/engine-interoperability-transcript/v2"

def sparkPlanFormat : String := "catalog-bench/spark-engine-plan/v1"
def sparkComponentVersion : String := "4.1.3"
def sparkScalaVersion : String := "2.13.17"
def sparkJavaVersion : String := "21.0.11"
def flinkComponentVersion : String := "2.1.3"
def flinkScalaVersion : String := "2.12.20"
def flinkJavaVersion : String := "17.0.20"
def trinoPlanFormat : String := "catalog-bench/trino-engine-plan/v1"
def trinoCatalogName : String := "bench"
def trinoComponentVersion : String := "483"
def trinoJavaVersion : String := "25.0.3"
def duckdbPlanFormat : String := "catalog-bench/duckdb-engine-plan/v1"
def duckdbCatalogName : String := "bench"
def duckdbComponentVersion : String := "1.5.3"

def s3AccessKeyEnv : String := "CATALOG_BENCH_S3_ACCESS_KEY_ID"
def s3SecretKeyEnv : String := "CATALOG_BENCH_S3_SECRET_ACCESS_KEY"

-- ════════════════════════════════
-- Scenario parameters
-- ════════════════════════════════

inductive CatalogProtocol
  | icebergRestV1
  deriving DecidableEq

inductive ForbiddenPolicy
  | forbidden
  deriving DecidableEq

inductive ConnectorPolicy
  | stockProfileComponent
  deriving DecidableEq

inductive SyntaxRenderingPolicy
  | engineSpecificButCatalogNeutral
  deriving DecidableEq

inductive UnsupportedPolicy
  | classifyBeforeMutationWithoutASubstituteRequest
  deriving DecidableEq

structure EnginePolicy where
  catalogSpecificBranches : ForbiddenPolicy
  catalogSpecificShims : ForbiddenPolicy
  connector : ConnectorPolicy
  syntaxRendering : SyntaxRenderingPolicy
  unsupported : UnsupportedPolicy
  deriving DecidableEq

structure IcebergField where
  id : ℤ
  name : String
  required : Bool
  fieldType : IcebergPrimitiveType
  deriving DecidableEq

structure IcebergSchema where
  schemaId : ℤ
  fields : List IcebergField
  deriving DecidableEq

structure TablePolicy where
  formatVersion : ℕ
  properties : StringMap String
  schema : IcebergSchema
  deriving DecidableEq

structure EvolutionField where
  name : String
  required : Bool
  fieldType : IcebergPrimitiveType
  deriving DecidableEq

structure SchemaEvolutionPolicy where
  field : EvolutionField
  preserveExistingFieldIds : Bool
  deriving DecidableEq

inductive IntegerGenerator
  | affine (multiplier offset : ℕ)
  deriving DecidableEq

inductive CategoryGenerator
  | moduloLabel (modulus : ℕ) (label : String)
  deriving DecidableEq

inductive NoteGenerator
  | idLabel (label : String)
  deriving DecidableEq

structure RowGenerator where
  amountCents : IntegerGenerator
  category : CategoryGenerator
  note : NoteGenerator
  deriving DecidableEq

structure BatchPolicy where
  idStart : ℕ
  rows : ℕ
  deriving DecidableEq

structure BatchPolicies where
  initial : BatchPolicy
  evolved : BatchPolicy
  deriving DecidableEq

structure CanonicalRead where
  bytes : ℕ
  columns : List String
  rows : ℕ
  sha256 : String
  deriving DecidableEq

structure CanonicalReads where
  initial : CanonicalRead
  orderBy : List String
  afterEvolution : CanonicalRead
  trailingLf : Bool
  deriving DecidableEq

structure ObjectAuditPolicy where
  minimumMetadataObjects : ℕ
  minimumParquetObjects : ℕ
  deriving DecidableEq

structure EngineScenarioParameters where
  catalogProtocol : CatalogProtocol
  enginePolicy : EnginePolicy
  fixturePrefix : String
  table : TablePolicy
  schemaEvolution : SchemaEvolutionPolicy
  rowGenerator : RowGenerator
  batches : BatchPolicies
  canonicalReads : CanonicalReads
  objectAudit : ObjectAuditPolicy
  transcriptFormat : String
  deriving DecidableEq

-- ════════════════════════════════
-- Execution plans
-- ════════════════════════════════

structure Fixture where
  «namespace» : String
  table : String
  requestedLocation : Option String
  deriving DecidableEq

inductive EngineCatalogAuthentication
  | anonymous
  | oAuth2ClientCredentials (oauth2ServerUri scope : String)
  deriving DecidableEq

structure RestCatalogPlan where
  name : String
  uri : String
  warehouse : Option String
  routePrefix : Option String
  authentication : EngineCatalogAuthentication
  deriving DecidableEq

structure S3FileIoPlan where
  implementation : String
  endpoint : String
  bucket : String
  region : String
  pathStyleAccess : Bool
  deriving DecidableEq

structure SparkExecutionSettings where
  master : String
  shufflePartitions : ℕ
  defaultParallelism : ℕ
  deriving DecidableEq

structure SparkExecutionPlan where
  format : String
  execution : SparkExecutionSettings
  catalog : RestCatalogPlan
  fileIo : S3FileIoPlan
  fixture : Fixture
  scenario : EngineScenarioParameters
  deriving DecidableEq

structure TrinoExecutionSettings where
  taskConcurrency : ℕ
  deriving DecidableEq

structure TrinoS3FileIoPlan where
  enabled : Bool
  endpoint : String
  bucket : String
  region : String
  pathStyleAccess : Bool
  deriving DecidableEq

structure TrinoExecutionPlan where
  format : String
  execution : TrinoExecutionSettings
  catalog : RestCatalogPlan
  fileIo : TrinoS3FileIoPlan
  fixture : Fixture
  scenario : EngineScenarioParameters
  deriving DecidableEq

structure DuckDbExecutionPlan where
  format : String
  catalog : RestCatalogPlan
  fileIo : S3FileIoPlan
  fixture : Fixture
  scenario : EngineScenarioParameters
  deriving DecidableEq

/-- The renderer-specific policy of a run. Of the Flink plan only what every engine shares is read
outside its own renderer. -/
inductive EngineExecutionPlan
  | spark (plan : SparkExecutionPlan)
  | flink (fixture : Fixture) (scenario : EngineScenarioParameters)
  | trino (plan : TrinoExecutionPlan)
  | duckDb (plan : DuckDbExecutionPlan)
  deriving DecidableEq

namespace EngineExecutionPlan

def fixture : EngineExecutionPlan → Fixture
  | .spark plan => plan.fixture
  | .flink fixture _ => fixture
  | .trino plan => plan.fixture
  | .duckDb plan => plan.fixture

def scenario : EngineExecutionPlan → EngineScenarioParameters
  | .spark plan => plan.scenario
  | .flink _ scenario => scenario
  | .trino plan => plan.scenario
  | .duckDb plan => plan.scenario

def runtimeIdentityMatches (plan : EngineExecutionPlan)
    (observation : EngineRuntimeObservation) : Bool :=
  match plan with
  | .spark _ =>
    observation.engineVersion = sparkComponentVersion && observation.dependencies.size = 2 &&
      observation.dependencies["java"]? = some sparkJavaVersion &&
      observation.dependencies["scala"]? = some sparkScalaVersion
  | .flink _ _ =>
    observation.engineVersion = flinkComponentVersion && observation.dependencies.size = 2 &&
      observation.dependencies["java"]? = some flinkJavaVersion &&
      observation.dependencies["scala"]? = some flinkScalaVersion
  | .trino _ =>
    observation.engineVersion = trinoComponentVersion && observation.dependencies.size = 1 &&
      observation.dependencies["java"]? = some trinoJavaVersion
  | .duckDb _ =>
    observation.engineVersion = duckdbComponentVersion && observation.dependencies.size = 3 &&
      ["avro", "httpfs", "iceberg"].all fun name =>
        observation.dependencies[name]? = some "1.5.3"

end EngineExecutionPlan

structure ComponentIdentity where
  id : ComponentId
  name : String
  version : String
  sourceRevision : Option String
  deriving DecidableEq

structure RuntimeArtifactExpectation where
  location : String
  mediaType : String
  sha256 : String
  bytes : ℕ
  components : List ComponentId
  deriving DecidableEq

structure RuntimePlatformExpectation where
  operatingSystem : String
  architecture : String
  deriving DecidableEq

inductive CatalogCredentialSource
  | anonymous
  | oAuth2ClientCredentials (clientIdEnv clientSecretEnv : String)
  deriving DecidableEq

structure ObjectStorePlan where
  component : ComponentId
  endpoint : String
  bucket : String
  region : String
  allowHttp : Bool
  pathStyleAccess : Bool
  accessKeyEnv : String
  secretKeyEnv : String
  deriving DecidableEq

structure InteroperabilityPlan where
  runner : Option ComponentIdentity
  catalog : ComponentIdentity
  engine : ComponentIdentity
  connector : ComponentIdentity
  credentialSource : CatalogCredentialSource
  objectStore : ObjectStorePlan
  runtimePlatform : RuntimePlatformExpectation
  runtimeArtifacts : List RuntimeArtifactExpectation
  execution : EngineExecutionPlan
  deriving DecidableEq

namespace InteroperabilityPlan

def fixture (plan : InteroperabilityPlan) : Fixture := plan.execution.fixture

def scenario (plan : InteroperabilityPlan) : EngineScenarioParameters := plan.execution.scenario

end InteroperabilityPlan

end CatalogBench.Engine
