import CatalogBench.Engine.Reconcile
import CatalogBench.Engine.Trino
import CatalogBench.Library.Interaction

/-!
# The DuckDB renderer and its program

DuckDB runs inside the harness: every query starts a fresh CLI process whose input is the
setup of the catalog followed by one statement. `runDuckDbProgram` is a program over
`DuckDbCall`.
-/

set_option linter.all false

namespace CatalogBench.Engine
open CatalogBench.Commit Interaction Interaction.Prog

inductive DuckDbOperation
  | createNamespace (sql : String)
  | createTable (sql : String)
  | initialAppend (sql : String)
  | initialRead (sql : String) (expected : CanonicalRead)
  | addColumn (sql : String)
  | evolvedAppend (sql : String)
  | evolvedRead (sql : String) (expected : CanonicalRead)
  | snapshotRead
  deriving DecidableEq

def DuckDbOperation.sql : DuckDbOperation → Option String
  | .createNamespace sql | .createTable sql | .initialAppend sql | .initialRead sql _
  | .addColumn sql | .evolvedAppend sql | .evolvedRead sql _ => some sql
  | .snapshotRead => none

structure DuckDbRenderedProgram where
  catalogName : String
  catalogUri : String
  warehouse : Option String
  routePrefix : Option String
  authentication : EngineCatalogAuthentication
  fileIo : S3FileIoPlan
  fixture : TrinoFixtureTarget
  observation : TrinoObservationPolicy
  operations : List DuckDbOperation
  deriving DecidableEq

structure DuckDbRenderError where
  message : String
  deriving DecidableEq

namespace DuckDbRenderedProgram

def identifier (value : String) : Except DuckDbRenderError String :=
  if validIdentifier value then .ok (quoted value)
  else .error ⟨"invalid DuckDB identifier"⟩

def validatePlan (crates : Crates) (plan : DuckDbExecutionPlan) :
    Except DuckDbRenderError Unit := do
  if plan.format ≠ duckdbPlanFormat || plan.catalog.name ≠ duckdbCatalogName ||
      !credentialFreeHttpUrl crates plan.catalog.uri ||
      !credentialFreeHttpUrl crates plan.fileIo.endpoint || plan.fileIo.bucket.isEmpty ||
      plan.fileIo.region.isEmpty || !plan.fileIo.pathStyleAccess ||
      !scenarioAuthorizesRenderer plan.scenario plan.fixture then
    throw ⟨"unsupported DuckDB plan policy"⟩
  if let .some location := plan.fixture.requestedLocation then
    if !validTableLocation crates plan.fileIo.bucket location then
      throw ⟨"invalid DuckDB table location"⟩

/-- The properties of the `WITH` clause of the created table. -/
def tableProperties (plan : DuckDbExecutionPlan) : List String :=
  ["'format-version' = " ++ toString plan.scenario.table.formatVersion] ++
    plan.scenario.table.properties.toList.map (fun (key, value) =>
      literal key ++ " = " ++ literal value) ++
    match plan.fixture.requestedLocation with
    | some location => ["location = " ++ literal location]
    | none => []

def render (crates : Crates) (plan : DuckDbExecutionPlan) :
    Except DuckDbRenderError DuckDbRenderedProgram := do
  validatePlan crates plan
  let «namespace» ← identifier plan.fixture.namespace
  let table ← identifier plan.fixture.table
  let catalog ← identifier plan.catalog.name
  let qualifiedNamespace := catalog ++ "." ++ «namespace»
  let qualifiedTable := qualifiedNamespace ++ "." ++ table
  let scenario := plan.scenario
  let schema ← scenario.table.schema.fields.mapM (renderField identifier)
  let initialColumns ← scenario.table.schema.fields.mapM fun field => identifier field.name
  let evolution := scenario.schemaEvolution.field
  let evolvedColumn ← identifier evolution.name
  let initialValues ← (renderRows scenario false).mapError fun e => ⟨e.message⟩
  let evolvedValues ← (renderRows scenario true).mapError fun e => ⟨e.message⟩
  let reads := scenario.canonicalReads
  let initialRead ← renderRead qualifiedTable reads.initial.columns reads.orderBy identifier
  let evolvedRead ← renderRead qualifiedTable reads.afterEvolution.columns reads.orderBy identifier
  return {
    catalogName := plan.catalog.name
    catalogUri := plan.catalog.uri
    warehouse := plan.catalog.warehouse
    routePrefix := plan.catalog.routePrefix
    authentication := plan.catalog.authentication
    fileIo := plan.fileIo
    fixture := {
      «namespace» := plan.fixture.namespace
      table := plan.fixture.table
      requestedLocation := plan.fixture.requestedLocation
      bucket := plan.fileIo.bucket }
    observation := {
      formatVersion := scenario.table.formatVersion
      initialSchema := scenario.table.schema.fields
      evolvedField := evolution
      properties := scenario.table.properties }
    operations := [
      .createNamespace ("CREATE SCHEMA IF NOT EXISTS " ++ qualifiedNamespace),
      .createTable ("CREATE TABLE " ++ qualifiedTable ++ " (" ++ join schema ++ ") WITH (" ++
        join (tableProperties plan) ++ ")"),
      .initialAppend (renderInsert qualifiedTable initialColumns initialValues),
      .initialRead initialRead reads.initial,
      .addColumn ("ALTER TABLE " ++ qualifiedTable ++ " ADD COLUMN " ++ evolvedColumn ++ " " ++
        renderType evolution.fieldType ++ (if evolution.required then " NOT NULL" else "")),
      .evolvedAppend (renderInsert qualifiedTable (initialColumns ++ [evolvedColumn])
        evolvedValues),
      .evolvedRead evolvedRead reads.afterEvolution,
      .snapshotRead] }

end DuckDbRenderedProgram

-- ════════════════════════════════
-- Effects
-- ════════════════════════════════

/-- What the program asks of the world: a CLI process whose input is the setup, a blank, one
statement and a semicolon; the table as the REST catalog reports it; and the table as its
metadata object describes it. -/
inductive DuckDbCall
  | cli (setup sql : String)
  | loadTable
  | tableObservation

abbrev DuckDbCall.Reply : DuckDbCall → Type
  | .cli _ _ => Except Unit (List Json)
  | .loadTable => Except EngineCatalogFailure EngineTableLoad
  | .tableObservation => Except Unit EngineTableObservation

abbrev DuckDbProg := Prog DuckDbCall DuckDbCall.Reply

structure DuckDbProductionEffects where
  program : DuckDbRenderedProgram
  accessKey : String
  secretKey : String
  oauth : Option (String × String)

/-- `std::env::consts`. -/
structure HostConsts where
  os : String
  arch : String
  deriving DecidableEq

section Effects

variable (crates : Crates) (effects : DuckDbProductionEffects)

def endpointIsHttps (value : String) : Bool :=
  match crates.parseUrl value with
  | .ok url => url.scheme = "https"
  | .error _ => false

def setupSql : Option String := do
  let url ← (crates.parseUrl effects.program.fileIo.endpoint).toOption
  let host ← url.hostStr
  let endpoint := match url.port with
    | some port => host ++ ":" ++ toString port
    | none => host
  let attach := "ATTACH " ++ literal (effects.program.warehouse.getD "") ++ " AS \"" ++
    effects.program.catalogName ++ "\" (TYPE iceberg, ENDPOINT " ++
    literal effects.program.catalogUri ++ ", ACCESS_DELEGATION_MODE 'none'"
  let authorization ← match effects.program.authentication, effects.oauth with
    | .anonymous, none => some ", AUTHORIZATION_TYPE 'none'"
    | .oAuth2ClientCredentials oauth2ServerUri _, some (id, secret) =>
      some (", AUTHORIZATION_TYPE 'oauth2', CLIENT_ID " ++ literal id ++ ", CLIENT_SECRET " ++
        literal secret ++ ", OAUTH2_SERVER_URI " ++ literal oauth2ServerUri)
    | _, _ => none
  let attach := attach ++ authorization ++ ");"
  return "LOAD httpfs; LOAD iceberg; CREATE SECRET catalog_bench_s3 (TYPE s3, PROVIDER config, " ++
    "KEY_ID " ++ literal effects.accessKey ++ ", SECRET " ++ literal effects.secretKey ++
    ", REGION " ++ literal effects.program.fileIo.region ++ ", ENDPOINT " ++ literal endpoint ++
    ", URL_STYLE 'path', USE_SSL " ++
    toString (endpointIsHttps crates effects.program.fileIo.endpoint) ++ "); " ++ attach

def duckdbQuery (sql : String) : DuckDbProg (Except Unit (List Json)) :=
  match setupSql crates effects with
  | none => return .error ()
  | some setup => ask (DuckDbCall.cli setup sql)

def duckdbU64 (rows : List Json) (field : String) : Option ℕ := do
  (← (← rows.head?).get field).asU64

def duckdbExecute (operation : DuckDbOperation) : DuckDbProg (Except Unit Unit) := do
  match operation.sql with
  | none => return .error ()
  | some sql =>
    let rows ← duckdbQuery crates effects sql
    return rows.map fun _ => ()

/-- The canonical bytes of the rows: one array of the expected columns per line. -/
def canonicalRows (columns : List String) : List Json → Except Unit (List UInt8)
  | [] => .ok []
  | row :: rows => do
    if !row.isObject then throw ()
    let values ← columns.mapM fun column =>
      match row.get column with
      | some value => .ok value
      | none => .error ()
    let line ← crates.writeJson values
    return line ++ [lineFeed] ++ (← canonicalRows columns rows)

def duckdbRead (operation : DuckDbOperation) : DuckDbProg (Except Unit RowReadObservation) := do
  match operation with
  | .initialRead sql expected | .evolvedRead sql expected =>
    let .ok rows ← duckdbQuery crates effects sql | return .error ()
    if rows.length ≠ expected.rows then return .error ()
    let .ok canonical := canonicalRows crates expected.columns rows | return .error ()
    let read : RowReadObservation :=
      { rows := expected.rows, bytes := canonical.length, sha256 := crates.sha256Hex canonical }
    let expectedRead : RowReadObservation :=
      { rows := expected.rows, bytes := expected.bytes, sha256 := expected.sha256 }
    if read = expectedRead then return .ok read else return .error ()
  | _ => return .error ()

def duckdbSnapshotCount : DuckDbProg (Except Unit ℕ) := do
  let .ok load ← ask DuckDbCall.loadTable | return .error ()
  let .present _ _ state := load | return .error ()
  let .ok rows ← duckdbQuery crates effects
      ("SELECT count(*) AS snapshots FROM iceberg_snapshots(" ++
        literal state.table.metadataLocation ++ ")")
    | return .error ()
  match duckdbU64 rows "snapshots" with
  | some count => return .ok count
  | none => return .error ()

def fixtureAbsentSql (program : DuckDbRenderedProgram) : String :=
  "SELECT count(*) AS matches FROM information_schema.tables WHERE " ++
    ("table_catalog = " ++ literal program.catalogName ++ " AND table_schema = " ++
      literal program.fixture.namespace ++ " AND table_name = " ++ literal program.fixture.table)

def namespaceListedSql (program : DuckDbRenderedProgram) : String :=
  "SELECT count(*) AS matches FROM information_schema.schemata WHERE " ++
    ("catalog_name = " ++ literal program.catalogName ++ " AND schema_name = " ++
      literal program.fixture.namespace)

/-- The count a query returned, if it returned one. -/
def countedRows (rows : Except Unit (List Json)) : Option ℕ :=
  match rows with
  | .ok rows => duckdbU64 rows "matches"
  | .error _ => none

/-- Exit code and events of a run. -/
abbrev DuckDbRun := ℤ × List EngineEvent

def duckdbFailed (events : List EngineEvent) (stage : EngineStage)
    (category : EngineFailureCategory) : DuckDbRun :=
  (2, events ++ [EngineEvent.failed stage category])

/-- The part of `run_duckdb_program` after the preflight; `none` is the panic of an index. -/
def runDuckDbStages (events : List EngineEvent) : DuckDbProg (Option DuckDbRun) := do
  let operations := effects.program.operations
  let some operation := operations[0]? | return none
  let .ok _ ← duckdbExecute crates effects operation
    | return some (duckdbFailed events .createNamespace .catalog)
  let listed ← duckdbQuery crates effects (namespaceListedSql effects.program)
  if countedRows listed ≠ some 1 then
    return some (duckdbFailed events .createNamespace .catalog)
  let events := events ++ [EngineEvent.namespaceReady true]
  let some operation := operations[1]? | return none
  let .ok _ ← duckdbExecute crates effects operation
    | return some (duckdbFailed events .createTable .connector)
  let .ok table ← ask DuckDbCall.tableObservation
    | return some (duckdbFailed events .createTable .connector)
  let events := events ++ [EngineEvent.tableReady table]
  let some operation := operations[2]? | return none
  let .ok _ ← duckdbExecute crates effects operation
    | return some (duckdbFailed events .appendInitial .data)
  let .ok snapshots ← duckdbSnapshotCount crates effects
    | return some (duckdbFailed events .appendInitial .data)
  let events := events ++ [EngineEvent.initialAppended snapshots]
  let some operation := operations[3]? | return none
  let .ok read ← duckdbRead crates effects operation
    | return some (duckdbFailed events .readInitial .data)
  let events := events ++ [EngineEvent.initialRead read]
  let some operation := operations[4]? | return none
  let .ok _ ← duckdbExecute crates effects operation
    | return some (duckdbFailed events .evolveSchema .connector)
  let .ok table ← ask DuckDbCall.tableObservation
    | return some (duckdbFailed events .evolveSchema .connector)
  let events := events ++ [EngineEvent.schemaEvolved table]
  let some operation := operations[5]? | return none
  let .ok _ ← duckdbExecute crates effects operation
    | return some (duckdbFailed events .appendEvolved .data)
  let .ok snapshots ← duckdbSnapshotCount crates effects
    | return some (duckdbFailed events .appendEvolved .data)
  let events := events ++ [EngineEvent.evolvedAppended snapshots]
  let some operation := operations[6]? | return none
  let .ok read ← duckdbRead crates effects operation
    | return some (duckdbFailed events .readEvolved .data)
  let events := events ++ [EngineEvent.evolvedRead read]
  let .ok table ← ask DuckDbCall.tableObservation
    | return some (duckdbFailed events .observeFinalTable .connector)
  let events := events ++ [EngineEvent.finalTable table]
  return some (0, events ++ [EngineEvent.completed])

/-- The runtime a run reports once the version matches. -/
def duckdbRuntime (host : HostConsts) : EngineRuntimeObservation where
  engineVersion := "1.5.3"
  dependencies := .ofList [("avro", "1.5.3"), ("httpfs", "1.5.3"), ("iceberg", "1.5.3")] _
  operatingSystem := host.os
  architecture := host.arch

def runDuckDbProgram (host : HostConsts) : DuckDbProg (Option DuckDbRun) := do
  let events := []
  let .ok rows ← duckdbQuery crates effects "SELECT version() AS version"
    | return some (duckdbFailed events .verifyRuntime .runtime)
  if ((rows.head?.bind (·.get "version")).bind Json.asStr) ≠ some "v1.5.3" then
    return some (duckdbFailed events .verifyRuntime .runtime)
  let events := events ++ [EngineEvent.runtimeReady (duckdbRuntime host)]
  let events := events ++ [EngineEvent.catalogReady]
  let counted ← duckdbQuery crates effects (fixtureAbsentSql effects.program)
  let absent := decide (countedRows counted = some 0)
  let events := events ++ [EngineEvent.fixturePreflight absent]
  if !absent then return some (3, events)
  runDuckDbStages crates effects events

end Effects

-- ════════════════════════════════
-- Every run settles
-- ════════════════════════════════

section Runs

variable {σ : Type*} {step : σ → (c : DuckDbCall) → c.Reply → σ → Prop}
  {crates : Crates} {effects : DuckDbProductionEffects}

theorem duckdbSettled_failed {k : ℕ} {events : List EngineEvent} {stage : EngineStage}
    (hevents : Progress k events) (hstage : EngineStage.order[k]? = some stage)
    {category : EngineFailureCategory} {run : DuckDbRun}
    (h : some run = some (duckdbFailed events stage category)) : Settled run.1 run.2 := by
  obtain rfl := Option.some.inj h
  exact .failed hstage hevents

theorem runDuckDbStages_settled {events : List EngineEvent} (hevents : Progress 3 events)
    {s s' : σ} {run : DuckDbRun}
    (h : (runDuckDbStages crates effects events).Run step s (some run) s') :
    Settled run.1 run.2 := by
  unfold runDuckDbStages at h
  dsimp only at h
  -- `split` separates the panic of an index from the operation it finds
  split at h
  on_goal 2 => cases h.1
  obtain ⟨_, _, _, h, -⟩ | ⟨_, _, _, h⟩ := run_bind_except h
  · exact duckdbSettled_failed hevents rfl h
  obtain ⟨listed, _, _, h⟩ := run_bind.mp h
  obtain ⟨_, h, -⟩ | ⟨_, h⟩ := run_ite h
  · exact duckdbSettled_failed hevents rfl h
  replace hevents := hevents.push rfl (.namespaceReady true) ⟨rfl, by simp⟩
  split at h
  on_goal 2 => cases h.1
  obtain ⟨_, _, _, h, -⟩ | ⟨_, _, _, h⟩ := run_bind_except h
  · exact duckdbSettled_failed hevents rfl h
  obtain ⟨_, _, _, h, -⟩ | ⟨table, _, _, h⟩ := run_bind_except h
  · exact duckdbSettled_failed hevents rfl h
  replace hevents := hevents.push rfl (.tableReady table) ⟨rfl, by simp⟩
  dsimp only at h
  split at h
  on_goal 2 => cases h.1
  obtain ⟨_, _, _, h, -⟩ | ⟨_, _, _, h⟩ := run_bind_except h
  · exact duckdbSettled_failed hevents rfl h
  obtain ⟨_, _, _, h, -⟩ | ⟨snapshots, _, _, h⟩ := run_bind_except h
  · exact duckdbSettled_failed hevents rfl h
  replace hevents := hevents.push rfl (.initialAppended snapshots) ⟨rfl, by simp⟩
  dsimp only at h
  split at h
  on_goal 2 => cases h.1
  obtain ⟨_, _, _, h, -⟩ | ⟨read, _, _, h⟩ := run_bind_except h
  · exact duckdbSettled_failed hevents rfl h
  replace hevents := hevents.push rfl (.initialRead read) ⟨rfl, by simp⟩
  dsimp only at h
  split at h
  on_goal 2 => cases h.1
  obtain ⟨_, _, _, h, -⟩ | ⟨_, _, _, h⟩ := run_bind_except h
  · exact duckdbSettled_failed hevents rfl h
  obtain ⟨_, _, _, h, -⟩ | ⟨table, _, _, h⟩ := run_bind_except h
  · exact duckdbSettled_failed hevents rfl h
  replace hevents := hevents.push rfl (.schemaEvolved table) ⟨rfl, by simp⟩
  dsimp only at h
  split at h
  on_goal 2 => cases h.1
  obtain ⟨_, _, _, h, -⟩ | ⟨_, _, _, h⟩ := run_bind_except h
  · exact duckdbSettled_failed hevents rfl h
  obtain ⟨_, _, _, h, -⟩ | ⟨snapshots, _, _, h⟩ := run_bind_except h
  · exact duckdbSettled_failed hevents rfl h
  replace hevents := hevents.push rfl (.evolvedAppended snapshots) ⟨rfl, by simp⟩
  dsimp only at h
  split at h
  on_goal 2 => cases h.1
  obtain ⟨_, _, _, h, -⟩ | ⟨read, _, _, h⟩ := run_bind_except h
  · exact duckdbSettled_failed hevents rfl h
  replace hevents := hevents.push rfl (.evolvedRead read) ⟨rfl, by simp⟩
  obtain ⟨_, _, _, h, -⟩ | ⟨table, _, _, h⟩ := run_bind_except h
  · exact duckdbSettled_failed hevents rfl h
  replace hevents := hevents.push rfl (.finalTable table) ⟨rfl, by simp⟩
  obtain rfl := Option.some.inj h.1
  exact .completed hevents

/-- Whatever the world replies, a run that does not panic settles. -/
theorem runDuckDbProgram_settled {host : HostConsts} {s s' : σ} {run : DuckDbRun}
    (h : (runDuckDbProgram crates effects host).Run step s (some run) s') :
    Settled run.1 run.2 := by
  have hevents := Progress.start
  unfold runDuckDbProgram at h
  obtain ⟨_, _, _, h, -⟩ | ⟨rows, _, _, h⟩ := run_bind_except h
  · exact duckdbSettled_failed hevents rfl h
  obtain ⟨_, h, -⟩ | ⟨_, h⟩ := run_ite h
  · exact duckdbSettled_failed hevents rfl h
  obtain ⟨counted, _, _, h⟩ := run_bind.mp h
  replace hevents := hevents.push rfl (.runtimeReady (duckdbRuntime host)) ⟨rfl, by simp⟩
  replace hevents := hevents.push rfl .catalogReady ⟨rfl, by simp⟩
  by_cases habsent : countedRows counted = some 0
  · replace hevents := hevents.push rfl (.fixturePreflight true) ⟨rfl, by simp⟩
    simp only [habsent, decide_true, Bool.not_true, Bool.false_eq_true, if_false] at h
    exact runDuckDbStages_settled hevents h
  · simp only [habsent, decide_false, Bool.not_false, if_true] at h
    obtain rfl := Option.some.inj h.1
    exact .collision

end Runs

end CatalogBench.Engine
