import CatalogBench.Engine.Sql

/-!
# The Trino renderer

A plan is rendered to eight SQL operations in a fixed order and to the configuration files
of the server.
-/

set_option linter.all false

namespace CatalogBench.Engine

structure TrinoRenderError where
  message : String
  deriving DecidableEq

structure TrinoCatalogSetup where
  name : String
  properties : StringMap String
  authentication : EngineCatalogAuthentication
  deriving DecidableEq

inductive TrinoOperationPurpose
  | createNamespace | createTable | initialAppend | initialRead | addColumn | evolvedAppend
  | evolvedRead | snapshotRead
  deriving DecidableEq

structure TrinoFixtureTarget where
  «namespace» : String
  table : String
  requestedLocation : Option String
  bucket : String
  deriving DecidableEq

structure TrinoObservationPolicy where
  formatVersion : ℕ
  initialSchema : List IcebergField
  evolvedField : EvolutionField
  properties : StringMap String
  deriving DecidableEq

inductive TrinoOperation
  | createNamespace (sql : String)
  | createTable (sql : String)
  | initialAppend (sql : String)
  | initialRead (sql : String) (expected : CanonicalRead)
  | addColumn (sql : String)
  | evolvedAppend (sql : String)
  | evolvedRead (sql : String) (expected : CanonicalRead)
  | snapshotRead (sql : String)
  deriving DecidableEq

namespace TrinoOperation

def purpose : TrinoOperation → TrinoOperationPurpose
  | .createNamespace _ => .createNamespace
  | .createTable _ => .createTable
  | .initialAppend _ => .initialAppend
  | .initialRead _ _ => .initialRead
  | .addColumn _ => .addColumn
  | .evolvedAppend _ => .evolvedAppend
  | .evolvedRead _ _ => .evolvedRead
  | .snapshotRead _ => .snapshotRead

def sql : TrinoOperation → String
  | .createNamespace sql | .createTable sql | .initialAppend sql | .initialRead sql _
  | .addColumn sql | .evolvedAppend sql | .evolvedRead sql _ | .snapshotRead sql => sql

end TrinoOperation

structure TrinoRenderedProgram where
  taskConcurrency : ℕ
  catalog : TrinoCatalogSetup
  fixture : TrinoFixtureTarget
  observation : TrinoObservationPolicy
  operations : List TrinoOperation
  deriving DecidableEq

namespace TrinoRenderedProgram

def identifier (value : String) : Except TrinoRenderError String :=
  if validIdentifier value then .ok (quoted value)
  else .error ⟨"Trino identifier is outside the closed vocabulary"⟩

def validatePlan (crates : Crates) (plan : TrinoExecutionPlan) : Except TrinoRenderError Unit := do
  if plan.format ≠ trinoPlanFormat then throw ⟨"unsupported Trino plan format"⟩
  if plan.execution.taskConcurrency ≠ 1 then throw ⟨"unsupported Trino execution settings"⟩
  if plan.catalog.name ≠ trinoCatalogName || !credentialFreeHttpUrl crates plan.catalog.uri ||
      !plan.fileIo.enabled || !credentialFreeHttpUrl crates plan.fileIo.endpoint ||
      plan.fileIo.bucket.isEmpty || plan.fileIo.region.isEmpty || !plan.fileIo.pathStyleAccess then
    throw ⟨"unsupported Trino catalog or file IO policy"⟩
  if let .some location := plan.fixture.requestedLocation then
    if !validTableLocation crates plan.fileIo.bucket location then
      throw ⟨"invalid Trino table location"⟩
  if !scenarioAuthorizesRenderer plan.scenario plan.fixture then
    throw ⟨"scenario policy does not authorize the Trino renderer"⟩

def catalogProperties (plan : TrinoExecutionPlan) : StringMap String :=
  let properties : StringMap String := .ofList
    [("connector.name", "iceberg"),
      ("iceberg.catalog.type", "rest"),
      ("iceberg.rest-catalog.uri", plan.catalog.uri),
      ("fs.s3.enabled", toString plan.fileIo.enabled),
      ("s3.endpoint", plan.fileIo.endpoint),
      ("s3.region", plan.fileIo.region),
      ("s3.path-style-access", toString plan.fileIo.pathStyleAccess),
      ("iceberg.allowed-extra-properties",
        String.intercalate "," plan.scenario.table.properties.keys)] _
  let properties := match plan.catalog.warehouse with
    | some warehouse => properties.insert "iceberg.rest-catalog.warehouse" warehouse
    | none => properties
  let properties := match plan.catalog.routePrefix with
    | some routePrefix => properties.insert "iceberg.rest-catalog.prefix" routePrefix
    | none => properties
  match plan.catalog.authentication with
  | .anonymous => properties.insert "iceberg.rest-catalog.security" "NONE"
  | .oAuth2ClientCredentials oauth2ServerUri scope =>
    ((properties.insert "iceberg.rest-catalog.security" "OAUTH2").insert
      "iceberg.rest-catalog.oauth2.server-uri" oauth2ServerUri).insert
      "iceberg.rest-catalog.oauth2.scope" scope

/-- The properties of the `WITH` clause of the created table. -/
def tableProperties (plan : TrinoExecutionPlan) : List String :=
  let properties := plan.scenario.table.properties
  ["format = 'PARQUET'", "format_version = " ++ toString plan.scenario.table.formatVersion] ++
    (match plan.fixture.requestedLocation with
      | some location => ["location = " ++ literal location]
      | none => []) ++
    if properties.isEmpty then []
    else ["extra_properties = MAP(ARRAY[" ++ join (properties.keys.map literal) ++ "], ARRAY[" ++
      join (properties.values.map literal) ++ "])"]

def render (crates : Crates) (plan : TrinoExecutionPlan) :
    Except TrinoRenderError TrinoRenderedProgram := do
  validatePlan crates plan
  let «namespace» ← identifier plan.fixture.namespace
  let table ← identifier plan.fixture.table
  let catalog ← identifier plan.catalog.name
  let qualifiedNamespace := catalog ++ "." ++ «namespace»
  let qualifiedTable := qualifiedNamespace ++ "." ++ table
  let scenario := plan.scenario
  let schema ← scenario.table.schema.fields.mapM (renderField identifier)
  let initialColumns ← scenario.table.schema.fields.mapM fun field => identifier field.name
  let evolution := scenario.schemaEvolution.field
  let evolvedColumn ← identifier evolution.name
  let initialValues ← (renderRows scenario false).mapError fun e => ⟨e.message⟩
  let evolvedValues ← (renderRows scenario true).mapError fun e => ⟨e.message⟩
  let reads := scenario.canonicalReads
  let initialRead ← renderRead qualifiedTable reads.initial.columns reads.orderBy identifier
  let evolvedRead ← renderRead qualifiedTable reads.afterEvolution.columns reads.orderBy identifier
  return {
    taskConcurrency := plan.execution.taskConcurrency
    catalog := {
      name := plan.catalog.name
      properties := catalogProperties plan
      authentication := plan.catalog.authentication }
    fixture := {
      «namespace» := plan.fixture.namespace
      table := plan.fixture.table
      requestedLocation := plan.fixture.requestedLocation
      bucket := plan.fileIo.bucket }
    observation := {
      formatVersion := scenario.table.formatVersion
      initialSchema := scenario.table.schema.fields
      evolvedField := evolution
      properties := scenario.table.properties }
    operations := [
      .createNamespace ("CREATE SCHEMA IF NOT EXISTS " ++ qualifiedNamespace),
      .createTable ("CREATE TABLE " ++ qualifiedTable ++ " (" ++ join schema ++ ") WITH (" ++
        join (tableProperties plan) ++ ")"),
      .initialAppend (renderInsert qualifiedTable initialColumns initialValues),
      .initialRead initialRead reads.initial,
      .addColumn ("ALTER TABLE " ++ qualifiedTable ++ " ADD COLUMN " ++ evolvedColumn ++ " " ++
        renderType evolution.fieldType ++ (if evolution.required then " NOT NULL" else "")),
      .evolvedAppend (renderInsert qualifiedTable (initialColumns ++ [evolvedColumn])
        evolvedValues),
      .evolvedRead evolvedRead reads.afterEvolution,
      .snapshotRead ("SELECT * FROM " ++ qualifiedNamespace ++ ".\"" ++ plan.fixture.table ++
        "$snapshots\"")] }

end TrinoRenderedProgram

-- ════════════════════════════════
-- Server configuration
-- ════════════════════════════════

structure TrinoConfigurationFile where
  relativePath : String
  contents : String
  deriving DecidableEq

structure TrinoServerConfiguration where
  files : List TrinoConfigurationFile
  deriving DecidableEq

namespace TrinoServerConfiguration

def trinoJvmConfig : String :=
  "-server\n" ++
  "-agentpath:/usr/lib/trino/bin/libjvmkill.so\n" ++
  "-XX:InitialRAMPercentage=80\n" ++
  "-XX:MaxRAMPercentage=80\n" ++
  "-XX:G1HeapRegionSize=32M\n" ++
  "-XX:+ExplicitGCInvokesConcurrent\n" ++
  "-XX:+HeapDumpOnOutOfMemoryError\n" ++
  "-XX:+ExitOnOutOfMemoryError\n" ++
  "-XX:-OmitStackTraceInFastThrow\n" ++
  "-XX:ReservedCodeCacheSize=256M\n" ++
  "-XX:PerMethodRecompilationCutoff=10000\n" ++
  "-XX:PerBytecodeRecompilationCutoff=10000\n" ++
  "-Djdk.attach.allowAttachSelf=true\n" ++
  "-Djdk.nio.maxCachedBufferSize=2000000\n"

def environmentReference (name : String) : String := "$\x7bENV:" ++ name ++ "\x7d"

def validPropertyKey (value : String) : Bool :=
  !value.isEmpty && value.utf8ByteSize ≤ 256 &&
    value.toList.all fun c => c.isAlphanum || c = '.' || c = '-' || c = '_'

def validPropertyValue (value : String) : Bool :=
  !value.isEmpty && value.utf8ByteSize ≤ 4096 &&
    value.toList.all fun c => ('!' ≤ c && c ≤ '~') || c = ' '

def renderPropertyFile (properties : StringMap String) : Except TrinoRenderError String :=
  properties.toList.foldlM (fun rendered (key, value) =>
    if !validPropertyKey key || !validPropertyValue value then
      throw ⟨"Trino configuration contains an unsafe property"⟩
    else return rendered ++ key ++ "=" ++ value ++ "\n") ""

def render (program : TrinoRenderedProgram) :
    Except TrinoRenderError TrinoServerConfiguration := do
  if program.taskConcurrency ≠ 1 || program.catalog.name ≠ trinoCatalogName then
    throw ⟨"unsupported Trino server configuration input"⟩
  let catalog := (program.catalog.properties.insert "s3.aws-access-key"
    (environmentReference s3AccessKeyEnv)).insert "s3.aws-secret-key"
    (environmentReference s3SecretKeyEnv)
  let catalog := match program.catalog.authentication with
    | .oAuth2ClientCredentials _ _ => catalog.insert "iceberg.rest-catalog.oauth2.credential"
        (environmentReference "CATALOG_BENCH_ENGINE_OAUTH_CREDENTIAL")
    | .anonymous => catalog
  let catalog ← renderPropertyFile catalog
  let config ← renderPropertyFile (.ofList
    [("coordinator", "true"),
      ("node-scheduler.include-coordinator", "true"),
      ("discovery.uri", "http://127.0.0.1:8080"),
      ("catalog.management", "static"),
      ("task.concurrency", toString program.taskConcurrency)] _)
  let node ← renderPropertyFile (.ofList
    [("node.environment", "catalog_bench"),
      ("node.id", environmentReference "CATALOG_BENCH_TRINO_NODE_ID"),
      ("node.data-dir", environmentReference "CATALOG_BENCH_TRINO_DATA_DIR")] _)
  return { files := [
    ⟨"catalog/bench.properties", catalog⟩,
    ⟨"config.properties", config⟩,
    ⟨"jvm.config", trinoJvmConfig⟩,
    ⟨"log.properties", "io.trino=INFO\n"⟩,
    ⟨"node.properties", node⟩] }

end TrinoServerConfiguration

end CatalogBench.Engine
