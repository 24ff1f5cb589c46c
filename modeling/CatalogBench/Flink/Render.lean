import CatalogBench.Engine.Sql
import CatalogBench.Flink.Program
import CatalogBench.Library.Interaction

/-!
# The Flink renderer

The Rust side renders a plan to the program that the Flink process runs. `toProgram` is the
program as the process decodes it: `serde_json` writes what Jackson reads, text for text and
number for number.
-/

set_option linter.all false

namespace CatalogBench.Flink
open CatalogBench.Engine Interaction

def flinkPlanFormat : String := "catalog-bench/flink-engine-plan/v1"
def flinkCatalogName : String := "bench"

structure FlinkExecutionSettings where
  parallelism : ℕ
  deriving DecidableEq

structure FlinkExecutionPlan where
  format : String
  execution : FlinkExecutionSettings
  catalog : RestCatalogPlan
  fileIo : S3FileIoPlan
  fixture : Fixture
  scenario : EngineScenarioParameters
  deriving DecidableEq

structure FlinkRenderError where
  message : String
  deriving DecidableEq

structure FlinkObservationPolicy where
  formatVersion : ℕ
  initialSchema : List IcebergField
  evolvedField : EvolutionField
  properties : StringMap String
  deriving DecidableEq

inductive FlinkOperation
  | createNamespace (sql : String)
  | createTable (sql : String)
  | initialAppend (sql : String)
  | initialRead (sql : String) (expected : CanonicalRead)
  | addColumn (sql : String)
  | evolvedAppend (sql : String)
  | evolvedRead (sql : String) (expected : CanonicalRead)
  | snapshotRead (sql : String)
  deriving DecidableEq

structure FlinkRenderedProgram where
  parallelism : ℕ
  catalog : CatalogSetup
  fixture : FixtureTarget
  observation : FlinkObservationPolicy
  operations : List FlinkOperation
  deriving DecidableEq

namespace FlinkRenderedProgram

def identifier (value : String) : Except FlinkRenderError String :=
  if !validIdentifier value then .error ⟨"Flink identifier is outside the closed vocabulary"⟩
  else .ok ("`" ++ value ++ "`")

def renderType : IcebergPrimitiveType → String
  | .long => "BIGINT"
  | .string => "STRING"

def renderField (field : IcebergField) : Except FlinkRenderError String := do
  let name ← identifier field.name
  return name ++ " " ++ renderType field.fieldType ++ (if field.required then " NOT NULL" else "")

def renderProperty (entry : String × String) : String := literal entry.1 ++ "=" ++ literal entry.2

def renderProperties (properties : StringMap String) : String :=
  join (properties.toList.map renderProperty)

/-- The properties of the `WITH` clause of the created table. -/
def tableProperties (plan : FlinkExecutionPlan) : StringMap String :=
  let properties := (plan.scenario.table.properties.insert "format-version"
    (toString plan.scenario.table.formatVersion)).insert "write.format.default" "parquet"
  match plan.fixture.requestedLocation with
  | some location => properties.insert "location" location
  | none => properties

def catalogProperties (plan : FlinkExecutionPlan) : StringMap String :=
  let properties : StringMap String := .ofList
    [("type", "iceberg"), ("catalog-type", "rest"), ("uri", plan.catalog.uri),
      ("io-impl", plan.fileIo.implementation), ("s3.endpoint", plan.fileIo.endpoint),
      ("s3.region", plan.fileIo.region),
      ("s3.path-style-access", toString plan.fileIo.pathStyleAccess)] _
  let properties := match plan.catalog.warehouse with
    | some warehouse => properties.insert "warehouse" warehouse
    | none => properties
  match plan.catalog.routePrefix with
  | some routePrefix => properties.insert "prefix" routePrefix
  | none => properties

def validatePlan (crates : Crates) (plan : FlinkExecutionPlan) : Except FlinkRenderError Unit :=
  if plan.format ≠ flinkPlanFormat then .error ⟨"unsupported Flink plan format"⟩
  else if plan.execution.parallelism ≠ 1 then .error ⟨"unsupported Flink execution settings"⟩
  else if plan.catalog.name ≠ flinkCatalogName || !credentialFreeHttpUrl crates plan.catalog.uri ||
      plan.fileIo.implementation ≠ "org.apache.iceberg.aws.s3.S3FileIO" ||
      !credentialFreeHttpUrl crates plan.fileIo.endpoint || plan.fileIo.bucket.isEmpty ||
      plan.fileIo.region.isEmpty || !plan.fileIo.pathStyleAccess then
    .error ⟨"unsupported Flink catalog or file IO policy"⟩
  else if plan.fixture.requestedLocation.any fun location =>
      !validTableLocation crates plan.fileIo.bucket location then
    .error ⟨"invalid Flink table location"⟩
  else if !scenarioAuthorizesRenderer plan.scenario plan.fixture then
    .error ⟨"scenario policy does not authorize the Flink renderer"⟩
  else .ok ()

def renderSql (crates : Crates) (plan : FlinkExecutionPlan) :
    Except FlinkRenderError (List FlinkOperation) := do
  validatePlan crates plan
  let «namespace» ← identifier plan.fixture.namespace
  let table ← identifier plan.fixture.table
  let qualifiedTable := «namespace» ++ "." ++ table
  let scenario := plan.scenario
  let schema ← scenario.table.schema.fields.mapM renderField
  let initialColumns ← scenario.table.schema.fields.mapM fun field => identifier field.name
  let evolution := scenario.schemaEvolution.field
  let evolvedColumn ← identifier evolution.name
  let initialValues ← (renderRows scenario false).mapError fun e => ⟨e.message⟩
  let evolvedValues ← (renderRows scenario true).mapError fun e => ⟨e.message⟩
  let reads := scenario.canonicalReads
  let initialRead ← renderRead qualifiedTable reads.initial.columns reads.orderBy identifier
  let evolvedRead ← renderRead qualifiedTable reads.afterEvolution.columns reads.orderBy identifier
  return [
    .createNamespace ("CREATE DATABASE IF NOT EXISTS " ++ «namespace»),
    .createTable ("CREATE TABLE " ++ qualifiedTable ++ " (" ++ join schema ++ ") WITH (" ++
      renderProperties (tableProperties plan) ++ ")"),
    .initialAppend (renderInsert qualifiedTable initialColumns initialValues),
    .initialRead initialRead reads.initial,
    .addColumn ("ALTER TABLE " ++ qualifiedTable ++ " ADD " ++ evolvedColumn ++ " " ++
      renderType evolution.fieldType ++ (if evolution.required then " NOT NULL" else "")),
    .evolvedAppend (renderInsert qualifiedTable (initialColumns ++ [evolvedColumn])
      evolvedValues),
    .evolvedRead evolvedRead reads.afterEvolution,
    .snapshotRead ("SELECT * FROM " ++ «namespace» ++ ".`" ++ plan.fixture.table ++
      "$snapshots`")]

def render (crates : Crates) (plan : FlinkExecutionPlan) :
    Except FlinkRenderError FlinkRenderedProgram := do
  let operations ← renderSql crates plan
  return {
    parallelism := plan.execution.parallelism
    catalog := {
      name := plan.catalog.name
      properties := catalogProperties plan
      authentication := plan.catalog.authentication }
    fixture := {
      «namespace» := plan.fixture.namespace
      table := plan.fixture.table
      requestedLocation := plan.fixture.requestedLocation
      bucket := plan.fileIo.bucket }
    observation := {
      formatVersion := plan.scenario.table.formatVersion
      initialSchema := plan.scenario.table.schema.fields
      evolvedField := plan.scenario.schemaEvolution.field
      properties := plan.scenario.table.properties }
    operations := operations }

-- ════════════════════════════════
-- The texts of a rendered program
-- ════════════════════════════════

def backquoted (value : String) : String := "`" ++ value ++ "`"

def fieldText (field : IcebergField) : String :=
  backquoted field.name ++ " " ++ renderType field.fieldType ++
    (if field.required then " NOT NULL" else "")

/-- The values of a generated row, before they are quoted. -/
def rowValues (scenario : EngineScenarioParameters) (evolved : Bool) (id : ℕ) : List String :=
  let .affine multiplier offset := scenario.rowGenerator.amountCents
  let .moduloLabel modulus label := scenario.rowGenerator.category
  let .idLabel note := scenario.rowGenerator.note
  [toString id, literal (label ++ toString (id % modulus)), toString (multiplier * id + offset)] ++
    if evolved then [literal (note ++ toString id)] else []

def rowText (scenario : EngineScenarioParameters) (evolved : Bool) (id : ℕ) : String :=
  "(" ++ join (rowValues scenario evolved id) ++ ")"

/-- The row IDs of a batch. -/
def batchIds (scenario : EngineScenarioParameters) (evolved : Bool) : List ℕ :=
  let batch := if evolved then scenario.batches.evolved else scenario.batches.initial
  (List.range batch.rows).map (batch.idStart + ·)

def qualifiedTable (plan : FlinkExecutionPlan) : String :=
  backquoted plan.fixture.namespace ++ "." ++ backquoted plan.fixture.table

def insertText (plan : FlinkExecutionPlan) (columns : List String) (evolved : Bool) : String :=
  renderInsert (qualifiedTable plan) (columns.map backquoted)
    ((batchIds plan.scenario evolved).map (rowText plan.scenario evolved))

def readText (plan : FlinkExecutionPlan) (columns : List String) : String :=
  "SELECT " ++ join (columns.map backquoted) ++ " FROM " ++ qualifiedTable plan ++ " ORDER BY " ++
    join (plan.scenario.canonicalReads.orderBy.map backquoted)

def initialColumns (plan : FlinkExecutionPlan) : List String :=
  plan.scenario.table.schema.fields.map IcebergField.name

/-- The operations of a plan whose identifiers are in the closed vocabulary. -/
def renderedOperations (plan : FlinkExecutionPlan) : List FlinkOperation :=
  let reads := plan.scenario.canonicalReads
  let evolution := plan.scenario.schemaEvolution.field
  [.createNamespace ("CREATE DATABASE IF NOT EXISTS " ++ backquoted plan.fixture.namespace),
    .createTable ("CREATE TABLE " ++ qualifiedTable plan ++ " (" ++
      join (plan.scenario.table.schema.fields.map fieldText) ++ ") WITH (" ++
      renderProperties (tableProperties plan) ++ ")"),
    .initialAppend (insertText plan (initialColumns plan) false),
    .initialRead (readText plan reads.initial.columns) reads.initial,
    .addColumn ("ALTER TABLE " ++ qualifiedTable plan ++ " ADD " ++ backquoted evolution.name ++
      " " ++ renderType evolution.fieldType ++ (if evolution.required then " NOT NULL" else "")),
    .evolvedAppend (insertText plan (initialColumns plan ++ [evolution.name]) true),
    .evolvedRead (readText plan reads.afterEvolution.columns) reads.afterEvolution,
    .snapshotRead ("SELECT * FROM " ++ backquoted plan.fixture.namespace ++ ".`" ++
      plan.fixture.table ++ "$snapshots`")]

/-- Every name the renderer quotes is in the closed vocabulary. -/
structure NamesValid (plan : FlinkExecutionPlan) : Prop where
  «namespace» : validIdentifier plan.fixture.namespace = true
  table : validIdentifier plan.fixture.table = true
  fields : ∀ column ∈ initialColumns plan, validIdentifier column = true
  evolved : validIdentifier plan.scenario.schemaEvolution.field.name = true
  initialRead : ∀ column ∈ plan.scenario.canonicalReads.initial.columns,
    validIdentifier column = true
  evolvedRead : ∀ column ∈ plan.scenario.canonicalReads.afterEvolution.columns,
    validIdentifier column = true
  orderBy : ∀ column ∈ plan.scenario.canonicalReads.orderBy, validIdentifier column = true

/-- The constants a validated plan holds. -/
structure PlanFixed (plan : FlinkExecutionPlan) : Prop where
  parallelism : plan.execution.parallelism = 1
  name : plan.catalog.name = flinkCatalogName
  implementation : plan.fileIo.implementation = "org.apache.iceberg.aws.s3.S3FileIO"
  region : plan.fileIo.region ≠ ""
  pathStyleAccess : plan.fileIo.pathStyleAccess = true

section Rendering

variable {crates : Crates} {plan : FlinkExecutionPlan}

theorem identifier_ok {value out : String} (h : identifier value = .ok out) :
    validIdentifier value = true ∧ out = backquoted value := by
  unfold identifier at h
  split at h
  · cases h
  · next hvalid => exact ⟨by simpa using hvalid, (Except.ok.inj h).symm⟩

theorem renderField_ok {field : IcebergField} {out : String} (h : renderField field = .ok out) :
    validIdentifier field.name = true ∧ out = fieldText field := by
  obtain ⟨name, hname, h⟩ := except_bind_eq_ok.mp h
  obtain ⟨hvalid, rfl⟩ := identifier_ok hname
  cases h
  exact ⟨hvalid, rfl⟩

theorem renderRow_ok {scenario : EngineScenarioParameters} {evolved : Bool} {id : ℕ}
    {out : String} (h : renderRow scenario evolved id = .ok out) :
    True ∧ out = rowText scenario evolved id := by
  unfold renderRow at h
  dsimp only at h
  split at h
  · next amount hamount =>
    split at h
    · cases h
    · obtain ⟨product, hproduct, hsum⟩ := Option.bind_eq_some_iff.mp hamount
      obtain ⟨rfl, -⟩ := MachineInt.checkedMul_eq_some.mp hproduct
      obtain ⟨rfl, -⟩ := MachineInt.checkedAdd_eq_some.mp hsum
      cases h
      cases evolved
      · exact ⟨trivial, rfl⟩
      · exact ⟨trivial, rfl⟩
  · cases h

theorem renderRows_ok {scenario : EngineScenarioParameters} {evolved : Bool} {out : List String}
    (h : renderRows scenario evolved = .ok out) :
    out = (batchIds scenario evolved).map (rowText scenario evolved) := by
  unfold renderRows at h
  dsimp only at h
  split at h
  · exact (except_mapM_eq_ok (fun _ _ => renderRow_ok) h).2
  · cases h

theorem renderRead_ok {columns orderBy : List String} {table out : String}
    (h : renderRead table columns orderBy identifier = .ok out) :
    (∀ column ∈ columns, validIdentifier column = true) ∧
      (∀ column ∈ orderBy, validIdentifier column = true) ∧
      out = "SELECT " ++ join (columns.map backquoted) ++ " FROM " ++ table ++ " ORDER BY " ++
        join (orderBy.map backquoted) := by
  obtain ⟨quotedColumns, hcolumns, h⟩ := except_bind_eq_ok.mp h
  obtain ⟨quotedOrder, horder, h⟩ := except_bind_eq_ok.mp h
  obtain ⟨hvalid, rfl⟩ := except_mapM_eq_ok (fun _ _ => identifier_ok) hcolumns
  obtain ⟨hvalidOrder, rfl⟩ := except_mapM_eq_ok (fun _ _ => identifier_ok) horder
  cases h
  exact ⟨hvalid, hvalidOrder, rfl⟩

theorem validatePlan_ok (h : validatePlan crates plan = .ok ()) : PlanFixed plan := by
  unfold validatePlan at h
  split at h
  · cases h
  split at h
  · cases h
  next hparallelism =>
  split at h
  · cases h
  next hpolicy =>
  simp only [Bool.or_eq_true, decide_eq_true_eq, Bool.not_eq_true', not_or, not_not,
    Bool.not_eq_false, String.isEmpty_iff] at hparallelism hpolicy
  obtain ⟨⟨⟨⟨⟨⟨hname, -⟩, himplementation⟩, -⟩, -⟩, hregion⟩, hstyle⟩ := hpolicy
  exact ⟨hparallelism, hname, himplementation, hregion, hstyle⟩

theorem renderSql_ok {operations : List FlinkOperation}
    (h : renderSql crates plan = .ok operations) :
    PlanFixed plan ∧ NamesValid plan ∧ operations = renderedOperations plan := by
  obtain ⟨hplan, h⟩ := except_seq_eq_ok.mp h
  obtain ⟨«namespace», hnamespace, h⟩ := except_bind_eq_ok.mp h
  obtain ⟨table, htable, h⟩ := except_bind_eq_ok.mp h
  obtain ⟨schema, hschema, h⟩ := except_bind_eq_ok.mp h
  obtain ⟨columns, hcolumns, h⟩ := except_bind_eq_ok.mp h
  obtain ⟨evolvedColumn, hevolved, h⟩ := except_bind_eq_ok.mp h
  obtain ⟨initialValues, hinitial, h⟩ := except_bind_eq_ok.mp h
  obtain ⟨evolvedValues, hevolvedValues, h⟩ := except_bind_eq_ok.mp h
  obtain ⟨initialRead, hinitialRead, h⟩ := except_bind_eq_ok.mp h
  obtain ⟨evolvedRead, hevolvedRead, h⟩ := except_bind_eq_ok.mp h
  obtain ⟨hnamespaceValid, rfl⟩ := identifier_ok hnamespace
  obtain ⟨htableValid, rfl⟩ := identifier_ok htable
  obtain ⟨hfields, rfl⟩ := except_mapM_eq_ok (fun _ _ => renderField_ok) hschema
  obtain ⟨-, rfl⟩ := except_mapM_eq_ok (fun _ _ => identifier_ok) hcolumns
  obtain ⟨hevolvedValid, rfl⟩ := identifier_ok hevolved
  obtain rfl := renderRows_ok (except_mapError_eq_ok.mp hinitial)
  obtain rfl := renderRows_ok (except_mapError_eq_ok.mp hevolvedValues)
  obtain ⟨hinitialColumns, horder, rfl⟩ := renderRead_ok hinitialRead
  obtain ⟨hevolvedColumns, -, rfl⟩ := renderRead_ok hevolvedRead
  cases h
  refine ⟨validatePlan_ok hplan, ⟨hnamespaceValid, htableValid, ?_, hevolvedValid, hinitialColumns,
    hevolvedColumns, horder⟩, ?_⟩
  · intro column hmem
    obtain ⟨field, hfield, rfl⟩ := List.mem_map.mp hmem
    exact hfields field hfield
  · simp only [renderedOperations, insertText, readText, qualifiedTable, initialColumns,
      List.map_append, List.map_map, List.map_cons, List.map_nil]
    rfl

end Rendering

end FlinkRenderedProgram

-- ════════════════════════════════
-- The program as the process decodes it
-- ════════════════════════════════

def ReadOracle.ofCanonical (read : CanonicalRead) : ReadOracle :=
  ⟨read.bytes, read.columns, read.rows, read.sha256⟩

def FlinkOperation.toOperation : FlinkOperation → Operation
  | .createNamespace sql => .createNamespace sql
  | .createTable sql => .createTable sql
  | .initialAppend sql => .initialAppend sql
  | .initialRead sql expected => .initialRead sql (.ofCanonical expected)
  | .addColumn sql => .addColumn sql
  | .evolvedAppend sql => .evolvedAppend sql
  | .evolvedRead sql expected => .evolvedRead sql (.ofCanonical expected)
  | .snapshotRead sql => .snapshotRead sql

def FlinkRenderedProgram.toProgram (program : FlinkRenderedProgram) : Program where
  parallelism := program.parallelism
  catalog := program.catalog
  fixture := program.fixture
  observation := {
    formatVersion := program.observation.formatVersion
    initialSchema := program.observation.initialSchema
    evolvedField := program.observation.evolvedField
    properties := program.observation.properties }
  operations := program.operations.map FlinkOperation.toOperation

end CatalogBench.Flink
