import CatalogBench.Engine.Canonical
import CatalogBench.Engine.SparkRunner

/-!
# What the Spark runner accepts

The checks of the runner, read as conditions on the plan that the policy writes, and the profiles
whose plans meet them.
-/

set_option linter.all false

namespace CatalogBench.Engine
open Json Interaction

/-- The amount of a row. -/
def IntegerGenerator.amount : IntegerGenerator → ℕ → ℕ
  | affine multiplier offset, id => id * multiplier + offset

namespace SparkRunner

-- ════════════════════════════════
-- Values
-- ════════════════════════════════

/-- An ASCII word with underscores. -/
def IsIdentifier (text : String) : Prop := text ≠ "" ∧ ∀ c ∈ text.toList, isIdentifierChar c = true

@[simp] theorem refuseWhen_eq_ok {violated : Bool} {message : String} {u : Unit} :
    refuseWhen violated message = .ok u ↔ violated = false := by
  cases violated <;> simp [refuseWhen, violation]

@[simp] theorem requireObject_object (fields : Dict) (label : String) :
    requireObject (.object fields) label = .ok fields := rfl

/-- A closed object has the expected keys and no other. -/
@[simp] theorem requireKeys_eq_ok {dict : Dict} {expected : List String} {label : String} {u : Unit} :
    requireKeys dict expected label = .ok u ↔ keys dict ⊆ expected ∧ expected ⊆ keys dict := by
  simp [requireKeys, isSubset, List.subset_def]

@[simp] theorem exists_forM_eq_ok {α : Type} {items : List α} {check : α → Checked Unit} :
    (∃ u, forM items check = .ok u) ↔ ∀ item ∈ items, check item = .ok () :=
  ⟨fun ⟨_, h⟩ => except_forM_eq_ok.mp h, fun h => ⟨(), except_forM_eq_ok.mpr h⟩⟩

/-- A check of an object, and what comes after it. -/
theorem exists_object_and {value : Json} {check : Dict → Checked Unit} {rest : Prop} :
    (∃ fields, value = .object fields ∧ (∃ u, check fields = .ok u) ∧ rest) ↔
      (∃ fields, value = .object fields ∧ check fields = .ok ()) ∧ rest := by
  constructor
  · rintro ⟨fields, hfields, ⟨_, hcheck⟩, hrest⟩
    exact ⟨⟨fields, hfields, hcheck⟩, hrest⟩
  · rintro ⟨⟨fields, hfields, hcheck⟩, hrest⟩
    exact ⟨fields, hfields, ⟨(), hcheck⟩, hrest⟩

@[simp] theorem requireText_eq_ok {text label found : String} :
    requireText (.string text) label = .ok found ↔ text ≠ "" ∧ text = found := by
  by_cases h : text = "" <;> simp [requireText, violation, h]

@[simp] theorem requireUnsigned_ofNat (n : ℕ) (label : String) :
    requireUnsigned (ofNat n) label = .ok n := rfl

@[simp] theorem requireUnsigned_ofInt {id : ℤ} {label : String} {n : ℕ} :
    requireUnsigned (ofInt id) label = .ok n ↔ id = n := by
  cases id with
  | ofNat m => simp [ofInt, requireUnsigned]
  | negSucc m =>
    simp only [ofInt, requireUnsigned, violation, reduceCtorEq]

@[simp] theorem asNumber_ofNat (n : ℕ) : asNumber (ofNat n) = .ok n := rfl

@[simp] theorem requireIdentifier_eq_ok {text label found : String} :
    requireIdentifier (.string text) label = .ok found ↔ IsIdentifier text ∧ text = found := by
  simp only [requireIdentifier, bind, except_bind_eq_ok, requireText_eq_ok, refuseWhen_eq_ok,
    IsIdentifier, pure, Except.pure, Except.ok.injEq, Bool.not_eq_false', List.all_eq_true]
  constructor
  · rintro ⟨_, ⟨hne, rfl⟩, _, hall, rfl⟩
    exact ⟨⟨hne, hall⟩, rfl⟩
  · rintro ⟨⟨hne, hall⟩, rfl⟩
    exact ⟨text, ⟨hne, rfl⟩, (), hall, rfl⟩

@[simp] theorem requireObject_eq_ok {value : Json} {label : String} {fields : Dict} :
    requireObject value label = .ok fields ↔ value = .object fields := by
  cases value <;> simp [requireObject, violation]

-- ════════════════════════════════
-- What is accepted
-- ════════════════════════════════

def AuthenticationAccepted : EngineCatalogAuthentication → Prop
  | .anonymous => True
  | .oAuth2ClientCredentials oauth2ServerUri scope => oauth2ServerUri ≠ "" ∧ scope ≠ ""

@[mk_iff] structure CatalogAccepted (catalog : RestCatalogPlan) : Prop where
  name : IsIdentifier catalog.name
  uri : catalog.uri ≠ ""
  warehouse : ∀ warehouse ∈ catalog.warehouse, warehouse ≠ ""
  routePrefix : ∀ routePrefix ∈ catalog.routePrefix, routePrefix ≠ ""
  authentication : AuthenticationAccepted catalog.authentication

@[mk_iff] structure FileIoAccepted (fileIo : S3FileIoPlan) : Prop where
  implementation : fileIo.implementation = s3FileIo
  endpoint : fileIo.endpoint ≠ ""
  bucket : fileIo.bucket ≠ ""
  region : fileIo.region ≠ ""
  pathStyleAccess : fileIo.pathStyleAccess = true

@[mk_iff] structure FixtureAccepted (fixture : Fixture) : Prop where
  «namespace» : IsIdentifier fixture.namespace
  table : IsIdentifier fixture.table
  requestedLocation : ∀ location ∈ fixture.requestedLocation, location ≠ ""

@[mk_iff] structure FieldAccepted (field : IcebergField) : Prop where
  name : IsIdentifier field.name
  id : 0 < field.id

@[mk_iff] structure TableAccepted (table : TablePolicy) : Prop where
  formatVersion : table.formatVersion = 2
  properties : ∀ property ∈ table.properties.toList, property.1 ≠ "" ∧ property.2 ≠ ""
  schemaId : table.schema.schemaId = 0
  nonempty : table.schema.fields ≠ []
  fields : ∀ field ∈ table.schema.fields, FieldAccepted field
  ids : (table.schema.fields.map (·.id.toNat)).Nodup
  names : (table.schema.fields.map (·.name)).Nodup

def GeneratorAccepted : RowGenerator → Prop
  | ⟨_, .moduloLabel modulus label, .idLabel noteLabel⟩ =>
    modulus ≠ 0 ∧ label ≠ "" ∧ noteLabel ≠ ""

@[mk_iff] structure BatchesAccepted (batches : BatchPolicies) : Prop where
  initialRows : batches.initial.rows ≠ 0
  evolvedRows : batches.evolved.rows ≠ 0
  contiguous : batches.initial.idStart + batches.initial.rows = batches.evolved.idStart
  bounded : batches.initial.rows + batches.evolved.rows ≤ maximumGeneratedRows
  final : batches.evolved.idStart + batches.evolved.rows - 1 ≤ maximumSparkLong

@[mk_iff] structure ReadAccepted (read : CanonicalRead) : Prop where
  nonempty : read.columns ≠ []
  columns : ∀ column ∈ read.columns, IsIdentifier column
  length : read.sha256.toList.length = 64
  digits : ∀ c ∈ read.sha256.toList, isLowerHexDigit c = true

@[mk_iff] structure AuditAccepted (audit : ObjectAuditPolicy) : Prop where
  metadataObjects : audit.minimumMetadataObjects ≠ 0
  parquetObjects : audit.minimumParquetObjects ≠ 0

@[mk_iff] structure RelationsAccepted (scenario : EngineScenarioParameters) : Prop where
  newField : scenario.schemaEvolution.field.name ∉ scenario.table.schema.fields.map (·.name)
  initialColumns : scenario.canonicalReads.initial.columns =
    scenario.table.schema.fields.map (·.name)
  evolvedColumns : scenario.canonicalReads.afterEvolution.columns =
    scenario.table.schema.fields.map (·.name) ++ [scenario.schemaEvolution.field.name]
  initialRows : scenario.canonicalReads.initial.rows = scenario.batches.initial.rows
  evolvedRows : scenario.canonicalReads.afterEvolution.rows =
    scenario.batches.initial.rows + scenario.batches.evolved.rows
  finalAmount : scenario.rowGenerator.amountCents.amount
    (scenario.batches.evolved.idStart + scenario.batches.evolved.rows - 1) ≤ maximumSparkLong

/-- What the scenario of an accepted plan satisfies, given the namespace of the fixture. -/
@[mk_iff] structure ScenarioAccepted (scenario : EngineScenarioParameters) («namespace» : String) : Prop where
  fixturePrefix : IsIdentifier scenario.fixturePrefix
  inPrefix : startsWith «namespace» (scenario.fixturePrefix ++ "_") = true
  table : TableAccepted scenario.table
  evolvedField : IsIdentifier scenario.schemaEvolution.field.name
  preserves : scenario.schemaEvolution.preserveExistingFieldIds = true
  generator : GeneratorAccepted scenario.rowGenerator
  batches : BatchesAccepted scenario.batches
  orderBy : scenario.canonicalReads.orderBy = ["id"]
  trailingLf : scenario.canonicalReads.trailingLf = true
  initialRead : ReadAccepted scenario.canonicalReads.initial
  evolvedRead : ReadAccepted scenario.canonicalReads.afterEvolution
  objectAudit : AuditAccepted scenario.objectAudit
  transcriptFormat : scenario.transcriptFormat = SparkRunner.transcriptFormat
  relations : RelationsAccepted scenario

/-- What an accepted plan satisfies. -/
@[mk_iff] structure PlanAccepted (plan : SparkExecutionPlan) : Prop where
  format : plan.format = planFormat
  execution : plan.execution = ⟨"local[2]", 1, 1⟩
  catalog : CatalogAccepted plan.catalog
  fileIo : FileIoAccepted plan.fileIo
  fixture : FixtureAccepted plan.fixture
  scenario : ScenarioAccepted plan.scenario plan.fixture.namespace

-- ════════════════════════════════
-- The parts of a plan
-- ════════════════════════════════

theorem validateExecution_iff {settings : SparkExecutionSettings} :
    (∃ fields, settings.toJson = .object fields ∧ validateExecution fields = .ok ()) ↔
      settings = ⟨"local[2]", 1, 1⟩ := by
  obtain ⟨master, shufflePartitions, defaultParallelism⟩ := settings
  simp only [SparkExecutionSettings.toJson, Json.object.injEq, exists_eq_left']
  simp [validateExecution, keys, item, List.lookup_cons, bind, except_bind_eq_ok]
  rintro - - rfl
  decide

theorem validateAuthentication_iff {authentication : EngineCatalogAuthentication} :
    (∃ fields, authentication.toJson = .object fields ∧ validateAuthentication fields = .ok ()) ↔
      AuthenticationAccepted authentication := by
  cases authentication with
  | anonymous =>
    simp only [EngineCatalogAuthentication.toJson, Json.object.injEq, exists_eq_left']
    simp [validateAuthentication, keys, AuthenticationAccepted]
  | oAuth2ClientCredentials oauth2ServerUri scope =>
    simp only [EngineCatalogAuthentication.toJson, Json.object.injEq, exists_eq_left']
    simp [validateAuthentication, keys, item, List.lookup_cons, bind,
      except_bind_eq_ok, AuthenticationAccepted, pure, Except.pure]

theorem requireOptionalText_eq_ok {dict : Dict} {key label : String} {text : Option String}
    (h : dict.lookup key = text.map .string) :
    requireOptionalText dict key label = .ok () ↔ ∀ found ∈ text, found ≠ "" := by
  unfold requireOptionalText
  rw [h]
  cases text <;> simp [bind, except_bind_eq_ok, pure, Except.pure]

theorem validateCatalog_iff {catalog : RestCatalogPlan} :
    (∃ fields, catalog.toJson = .object fields ∧ validateCatalog fields = .ok ()) ↔
      CatalogAccepted catalog := by
  obtain ⟨name, uri, warehouse, routePrefix, authentication⟩ := catalog
  simp only [RestCatalogPlan.toJson, Json.object.injEq, exists_eq_left']
  cases warehouse <;> cases routePrefix <;>
    simp [validateCatalog, isSubset, keys, item, List.lookup_cons, bind, except_bind_eq_ok, present,
      requireOptionalText, validateAuthentication_iff, catalogAccepted_iff, pure, Except.pure,
      and_assoc]

theorem validateFileIo_iff {fileIo : S3FileIoPlan} :
    (∃ fields, fileIo.toJson = .object fields ∧ validateFileIo fields = .ok ()) ↔
      FileIoAccepted fileIo := by
  obtain ⟨implementation, endpoint, bucket, region, pathStyleAccess⟩ := fileIo
  simp only [S3FileIoPlan.toJson, Json.object.injEq, exists_eq_left']
  simp [validateFileIo, keys, item, List.lookup_cons, bind, except_bind_eq_ok,
    fileIoAccepted_iff, pure, Except.pure]
  constructor
  · rintro ⟨⟨-, hendpoint, hbucket, hregion⟩, himplementation, hstyle⟩
    exact ⟨himplementation, hendpoint, hbucket, hregion, hstyle⟩
  · rintro ⟨rfl, hendpoint, hbucket, hregion, hstyle⟩
    exact ⟨⟨by decide, hendpoint, hbucket, hregion⟩, rfl, hstyle⟩

theorem validateFixture_iff {fixture : Fixture} {found : String} :
    (∃ fields, fixture.toJson = .object fields ∧ validateFixture fields = .ok found) ↔
      FixtureAccepted fixture ∧ fixture.namespace = found := by
  obtain ⟨«namespace», table, requestedLocation⟩ := fixture
  simp only [Fixture.toJson, Json.object.injEq, exists_eq_left']
  cases requestedLocation <;>
    simp [validateFixture, isSubset, keys, item, List.lookup_cons, bind, except_bind_eq_ok, present,
      requireOptionalText, fixtureAccepted_iff, pure, Except.pure, and_assoc] <;>
    tauto

theorem validateField_iff {field : IcebergField} {found : String × Option ℕ} :
    (∃ fields, field.toJson = .object fields ∧ validateField fields true = .ok found) ↔
      FieldAccepted field ∧ found = (field.name, some field.id.toNat) := by
  obtain ⟨id, name, required, fieldType⟩ := field
  simp only [IcebergField.toJson, Json.object.injEq, exists_eq_left']
  have hid : (∃ n : ℕ, id = n ∧ n ≠ 0 ∧ (name, some n) = found) ↔
      0 < id ∧ found = (name, some id.toNat) := by
    constructor
    · rintro ⟨n, rfl, hn, rfl⟩
      exact ⟨by omega, rfl⟩
    · rintro ⟨hpos, rfl⟩
      exact ⟨id.toNat, by omega, by omega, rfl⟩
  cases fieldType <;>
    simpa [validateField, keys, item, List.lookup_cons, bind, except_bind_eq_ok,
      memberOf, IcebergPrimitiveType.toJson, fieldAccepted_iff, pure, Except.pure, and_assoc]
      using fun _ => hid

/-- The fields are accepted one by one, and no id and no name comes twice. -/
theorem validateFields_eq_ok {seenIds : List (Option ℕ)} {seenNames : List String}
    {fields : List IcebergField} :
    validateFields seenIds seenNames (fields.map IcebergField.toJson) = .ok () ↔
      (∀ field ∈ fields, FieldAccepted field ∧ some field.id.toNat ∉ seenIds ∧
        field.name ∉ seenNames) ∧
      (fields.map (·.id.toNat)).Nodup ∧ (fields.map (·.name)).Nodup := by
  induction fields generalizing seenIds seenNames with
  | nil => simp [validateFields]
  | cons field fields ih =>
    simp only [List.map_cons, validateFields, bind, except_bind_eq_ok, requireObject_eq_ok]
    constructor
    · rintro ⟨dict, hdict, ⟨name, id⟩, hfield, _, hfresh, hrest⟩
      obtain ⟨haccepted, hfound⟩ := validateField_iff.mp ⟨dict, hdict, hfield⟩
      obtain ⟨rfl, rfl⟩ := Prod.mk.inj hfound
      obtain ⟨hfields, hids, hnames⟩ := ih.mp hrest
      simp only [refuseWhen_eq_ok, Bool.or_eq_false_iff, List.contains_eq_mem,
        decide_eq_false_iff_not] at hfresh
      refine ⟨?_, ?_, ?_⟩
      · intro other hother
        rcases List.mem_cons.mp hother with rfl | hmem
        · exact ⟨haccepted, hfresh⟩
        · obtain ⟨hother, hid, hname⟩ := hfields other hmem
          exact ⟨hother, fun h => hid (List.mem_cons_of_mem _ h),
            fun h => hname (List.mem_cons_of_mem _ h)⟩
      · refine List.nodup_cons.mpr ⟨fun hmem => ?_, hids⟩
        obtain ⟨other, hother, heq⟩ := List.mem_map.mp hmem
        exact (hfields other hother).2.1 (by simp [heq])
      · refine List.nodup_cons.mpr ⟨fun hmem => ?_, hnames⟩
        obtain ⟨other, hother, heq⟩ := List.mem_map.mp hmem
        exact (hfields other hother).2.2 (by simp [heq])
    · rintro ⟨hfields, hids, hnames⟩
      obtain ⟨haccepted, hid, hname⟩ := hfields field List.mem_cons_self
      obtain ⟨dict, hdict, hfield⟩ := validateField_iff.mpr ⟨haccepted, rfl⟩
      refine ⟨dict, hdict, _, hfield, (), by simp [hid, hname], ih.mpr ⟨?_, ?_, ?_⟩⟩
      · intro other hother
        obtain ⟨hother', hid', hname'⟩ := hfields other (List.mem_cons_of_mem _ hother)
        refine ⟨hother', ?_, ?_⟩
        · simp only [List.mem_cons, Option.some.injEq, not_or]
          exact ⟨fun h => (List.nodup_cons.mp hids).1 (h ▸ List.mem_map_of_mem hother), hid'⟩
        · simp only [List.mem_cons, not_or]
          exact ⟨fun h => (List.nodup_cons.mp hnames).1 (h ▸ List.mem_map_of_mem hother), hname'⟩
      · exact (List.nodup_cons.mp hids).2
      · exact (List.nodup_cons.mp hnames).2

theorem equalsNumber_ofNat {n m : ℕ} : equalsNumber (ofNat n) m = decide (n = m) := rfl

theorem equalsNumber_ofInt {id : ℤ} : equalsNumber (ofInt id) 0 = decide (id = 0) := by
  cases id with
  | ofNat n => simp [ofInt, equalsNumber]
  | negSucc n => simp [ofInt, equalsNumber]

theorem validateSchema_iff {schema : IcebergSchema} :
    (∃ fields, schema.toJson = .object fields ∧ validateSchema fields = .ok ()) ↔
      schema.schemaId = 0 ∧ schema.fields ≠ [] ∧ (∀ field ∈ schema.fields, FieldAccepted field) ∧
        (schema.fields.map (·.id.toNat)).Nodup ∧ (schema.fields.map (·.name)).Nodup := by
  obtain ⟨schemaId, fields⟩ := schema
  simp only [IcebergSchema.toJson, Json.object.injEq, exists_eq_left']
  have hfields : validateFields [] [] (fields.map IcebergField.toJson) = .ok () ↔
      (∀ field ∈ fields, FieldAccepted field) ∧ (fields.map (·.id.toNat)).Nodup ∧
        (fields.map (·.name)).Nodup := by
    simpa using @validateFields_eq_ok [] [] fields
  cases fields with
  | nil => simp [validateSchema, keys, item, List.lookup_cons, bind,
      except_bind_eq_ok, violation]
  | cons field fields =>
    simp [validateSchema, keys, item, List.lookup_cons, bind, except_bind_eq_ok,
      equalsNumber_ofInt]
    exact fun _ => by simpa using hfields

theorem validateTable_iff {table : TablePolicy} :
    (∃ fields, table.toJson = .object fields ∧ validateTable fields = .ok ()) ↔
      TableAccepted table := by
  obtain ⟨formatVersion, properties, schema⟩ := table
  simp only [TablePolicy.toJson, propertiesToJson, Json.object.injEq, exists_eq_left']
  simp [validateTable, keys, item, List.lookup_cons, bind, except_bind_eq_ok,
    equalsNumber_ofNat, validateSchema_iff, tableAccepted_iff, pure, Except.pure]

theorem validateEvolution_iff {evolution : SchemaEvolutionPolicy} :
    (∃ fields, evolution.toJson = .object fields ∧ validateEvolution fields = .ok ()) ↔
      IsIdentifier evolution.field.name ∧ evolution.preserveExistingFieldIds = true := by
  obtain ⟨⟨name, required, fieldType⟩, preserve⟩ := evolution
  simp only [SchemaEvolutionPolicy.toJson, EvolutionField.toJson, Json.object.injEq,
    exists_eq_left']
  cases fieldType <;>
    simp [validateEvolution, validateField, keys, item, List.lookup_cons, bind,
      except_bind_eq_ok, memberOf, IcebergPrimitiveType.toJson, pure, Except.pure]

theorem validateGenerators_iff {generator : RowGenerator} :
    (∃ fields, generator.toJson = .object fields ∧ validateGenerators fields = .ok ()) ↔
      GeneratorAccepted generator := by
  obtain ⟨⟨multiplier, offset⟩, ⟨modulus, label⟩, ⟨noteLabel⟩⟩ := generator
  simp only [RowGenerator.toJson, IntegerGenerator.toJson, CategoryGenerator.toJson,
    NoteGenerator.toJson, Json.object.injEq, exists_eq_left']
  simp [validateGenerators, keys, item, List.lookup_cons, bind, except_bind_eq_ok, GeneratorAccepted,
    pure, Except.pure]

theorem validateBatches_iff {batches : BatchPolicies} :
    (∃ fields, batches.toJson = .object fields ∧ validateBatches fields = .ok ()) ↔
      BatchesAccepted batches := by
  obtain ⟨⟨initialStart, initialRows⟩, ⟨evolvedStart, evolvedRows⟩⟩ := batches
  simp only [BatchPolicies.toJson, BatchPolicy.toJson, Json.object.injEq, exists_eq_left']
  simp [validateBatches, validateBatch, keys, item, List.lookup_cons, bind,
    except_bind_eq_ok, batchesAccepted_iff, pure, Except.pure, and_assoc]

theorem validateRead_iff {reads : Dict} {name : String} {read : CanonicalRead}
    (h : reads.lookup name = some read.toJson) :
    (∃ u, validateRead reads name = .ok u) ↔ ReadAccepted read := by
  obtain ⟨bytes, columns, rows, sha256⟩ := read
  simp only [validateRead, item, h, CanonicalRead.toJson]
  cases columns with
  | nil => simp [keys, List.lookup_cons, bind, except_bind_eq_ok, readAccepted_iff, violation]
  | cons column columns =>
    simp [keys, List.lookup_cons, bind, except_bind_eq_ok, readAccepted_iff, pure, Except.pure]
    rintro - - hlength - rfl
    cases hlength

theorem validateReads_iff {reads : CanonicalReads} :
    (∃ fields, reads.toJson = .object fields ∧ validateReads fields = .ok ()) ↔
      reads.orderBy = ["id"] ∧ reads.trailingLf = true ∧ ReadAccepted reads.initial ∧
        ReadAccepted reads.afterEvolution := by
  obtain ⟨initial, orderBy, afterEvolution, trailingLf⟩ := reads
  simp only [CanonicalReads.toJson, Json.object.injEq, exists_eq_left']
  simp [validateReads, keys, item, List.lookup_cons, bind, except_bind_eq_ok, pure, Except.pure,
    and_assoc]
  intro _ _
  rw [@validateRead_iff _ "initial" initial rfl,
    @validateRead_iff _ "after_evolution" afterEvolution rfl]

theorem validateObjectAudit_iff {audit : ObjectAuditPolicy} :
    (∃ fields, audit.toJson = .object fields ∧ validateObjectAudit fields = .ok ()) ↔
      AuditAccepted audit := by
  obtain ⟨metadataObjects, parquetObjects⟩ := audit
  simp only [ObjectAuditPolicy.toJson, Json.object.injEq, exists_eq_left']
  simp [validateObjectAudit, keys, item, List.lookup_cons, bind, except_bind_eq_ok, auditAccepted_iff]

-- ════════════════════════════════
-- The scenario
-- ════════════════════════════════

theorem fieldNames_toJson (fields : List IcebergField) :
    fieldNames (.array (fields.map IcebergField.toJson)) =
      .ok (fields.map fun field => .string field.name) := by
  simp only [fieldNames, List.mapM_map]
  exact except_mapM_of_forall fun field _ => rfl

theorem validateScenarioRelations_eq_ok {scenario : EngineScenarioParameters} :
    validateScenarioRelations scenario.toJson = .ok () ↔ RelationsAccepted scenario := by
  obtain ⟨_, _, _, ⟨_, _, ⟨_, fields⟩⟩, ⟨⟨evolvedName, _, _⟩, _⟩, ⟨⟨multiplier, offset⟩, _, _⟩,
    ⟨initial, evolved⟩, ⟨initialRead, _, evolvedRead, _⟩, _, _⟩ := scenario
  simp [validateScenarioRelations, EngineScenarioParameters.toJson, itemAt, item, List.lookup_cons,
    TablePolicy.toJson, IcebergSchema.toJson, SchemaEvolutionPolicy.toJson, EvolutionField.toJson,
    CanonicalReads.toJson, CanonicalRead.toJson, BatchPolicies.toJson, BatchPolicy.toJson,
    RowGenerator.toJson, IntegerGenerator.toJson, bind, except_bind_eq_ok, fieldNames_toJson,
    relationsAccepted_iff, IntegerGenerator.amount]
  have hstrings (xs ys : List String) : xs.map Json.string = ys.map Json.string ↔ xs = ys :=
    (List.map_injective_iff.mpr fun _ _ h => Json.string.inj h).eq_iff
  have hnames : (fields.map fun field => Json.string field.name) =
      (fields.map (·.name)).map Json.string := List.map_map.symm
  have hevolved : initialRead.columns.map Json.string ++ [Json.string evolvedName] =
      (initialRead.columns ++ [evolvedName]).map Json.string := by simp
  have hnew : (∀ field ∈ fields, ¬field.name = evolvedName) ↔
      evolvedName ∉ fields.map (·.name) := by simp
  rw [hnames, hevolved, hstrings, hstrings, hnew]
  constructor
  · rintro ⟨hcolumns, hfresh, hevolvedColumns, hinitialRows, hevolvedRows, hamount⟩
    rw [hcolumns]
    exact ⟨hfresh, rfl, hevolvedColumns, hinitialRows.symm, hinitialRows ▸ hevolvedRows, hamount⟩
  · rintro ⟨hfresh, hcolumns, hevolvedColumns, hinitialRows, hevolvedRows, hamount⟩
    rw [hcolumns]
    exact ⟨rfl, hfresh, hevolvedColumns, hinitialRows.symm, hinitialRows ▸ hevolvedRows, hamount⟩

theorem sameDict_enginePolicy (policy : EnginePolicy) :
    ∃ fields, policy.toJson = .object fields ∧ sameDict fields expectedEnginePolicy = true := by
  obtain ⟨⟨⟩, ⟨⟩, ⟨⟩, ⟨⟩, ⟨⟩⟩ := policy
  exact ⟨_, rfl, by decide⟩

theorem validateScenario_iff {scenario : EngineScenarioParameters} {«namespace» : String} :
    (∃ fields, scenario.toJson = .object fields ∧ validateScenario fields «namespace» = .ok ()) ↔
      ScenarioAccepted scenario «namespace» := by
  obtain ⟨policy, hpolicy, hsame⟩ := sameDict_enginePolicy scenario.enginePolicy
  have hrelations := @validateScenarioRelations_eq_ok scenario
  simp only [EngineScenarioParameters.toJson, CatalogProtocol.toJson, hpolicy] at hrelations
  simp only [EngineScenarioParameters.toJson, Json.object.injEq, exists_eq_left']
  simp [validateScenario, keys, item, List.lookup_cons, bind, except_bind_eq_ok, CatalogProtocol.toJson,
    hpolicy, hsame, exists_object_and, hrelations, validateTable_iff, validateEvolution_iff,
    validateGenerators_iff, validateBatches_iff, validateReads_iff, validateObjectAudit_iff,
    scenarioAccepted_iff, and_assoc]

theorem validatePlan_iff {plan : SparkExecutionPlan} :
    (∃ fields, plan.toJson = .object fields ∧ validatePlan fields = .ok ()) ↔ PlanAccepted plan := by
  simp only [SparkExecutionPlan.toJson, Json.object.injEq, exists_eq_left']
  simp [validatePlan, keys, item, List.lookup_cons, bind, except_bind_eq_ok, exists_object_and,
    validateExecution_iff, validateCatalog_iff, validateFileIo_iff, planAccepted_iff]
  intro _ _ _ _
  constructor
  · rintro ⟨fixture, hfixture, found, hfound, hscenario⟩
    obtain ⟨haccepted, rfl⟩ := validateFixture_iff.mp ⟨fixture, hfixture, hfound⟩
    exact ⟨haccepted, validateScenario_iff.mp hscenario⟩
  · rintro ⟨hfixture, hscenario⟩
    obtain ⟨fixture, hobject, hfound⟩ := validateFixture_iff.mpr ⟨hfixture, rfl⟩
    exact ⟨fixture, hobject, _, hfound, validateScenario_iff.mpr hscenario⟩

end SparkRunner

end CatalogBench.Engine
