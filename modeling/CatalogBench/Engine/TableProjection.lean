import CatalogBench.Engine.Reconcile
import CatalogBench.Library.Interaction

/-!
# The table in a load response

The independent observer loads the table over REST. The answer is read by decoders that `serde`
derives from the structures below, and `TableProjection.project` makes an observation of it.
-/

set_option linter.all false

namespace CatalogBench.Engine
open CatalogBench.Commit

/-- `Uuid::hyphenated` as text: lowercase, in groups of 8, 4, 4, 4 and 12 digits. -/
def hyphenated (uuid : Uuid) : String :=
  let bytes := (List.range 16).map fun i => UInt8.ofNat (uuid >>> (8 * (15 - i))).toNat
  String.intercalate "-"
    [hex (bytes.take 4), hex ((bytes.drop 4).take 2), hex ((bytes.drop 6).take 2),
      hex ((bytes.drop 8).take 2), hex (bytes.drop 10)]

-- ════════════════════════════════
-- Derived decoders
-- ════════════════════════════════

/-- Where a derived decoder finds its fields: by name in an object that repeats none of them, or
by position in an array. -/
def structFields (names : List String) : Json → Option (String → Option Json)
  | .object fields =>
    if names.all fun name => fields.countP (·.1 = name) ≤ 1 then some (fields.lookup ·) else none
  | .array values =>
    if values.length ≤ names.length then some ((names.zip values).lookup ·) else none
  | _ => none

/-- A number without a fraction. -/
def asInteger : Json → Option ℤ
  | .number (.posInt n) => some n
  | .number (.negInt n) => some n
  | _ => none

/-- A signed integer of `bits` bits. -/
def asSigned (bits : ℕ) (value : Json) : Option ℤ :=
  (asInteger value).filter fun n => -2 ^ (bits - 1) ≤ n ∧ n < 2 ^ (bits - 1)

/-- A `u8`. -/
def asByte (value : Json) : Option ℕ := value.asU64.filter (· < 2 ^ 8)

def asBoolean : Json → Option Bool
  | .bool value => some value
  | _ => none

/-- A `Vec`. -/
def asVec {α : Type} (element : Json → Option α) : Json → Option (List α)
  | .array values => values.mapM element
  | _ => none

/-- A `BTreeMap<String, String>`; the last of several values of a key is kept. -/
def asTextMap : Json → Option (StringMap String)
  | .object fields => do
    let entries ← fields.mapM fun (key, value) => return (key, ← value.asStr)
    return .ofList entries _
  | _ => none

structure RestField where
  id : ℤ
  name : String
  required : Bool
  fieldType : Json

def RestField.deserialize (value : Json) : Option RestField := do
  let field ← structFields ["id", "name", "required", "type"] value
  let id ← (field "id").bind (asSigned 32)
  let name ← (field "name").bind Json.asStr
  let required ← (field "required").bind asBoolean
  let fieldType ← field "type"
  return { id, name, required, fieldType }

structure RestSchema where
  schemaId : ℤ
  schemaType : String
  fields : List RestField

def RestSchema.deserialize (value : Json) : Option RestSchema := do
  let field ← structFields ["schema-id", "type", "fields"] value
  let schemaId ← (field "schema-id").bind (asSigned 32)
  let schemaType ← (field "type").bind Json.asStr
  let fields ← (field "fields").bind (asVec RestField.deserialize)
  return { schemaId, schemaType, fields }

structure RestSnapshot where
  snapshotId : ℤ
  deriving DecidableEq

def RestSnapshot.deserialize (value : Json) : Option RestSnapshot := do
  let field ← structFields ["snapshot-id"] value
  let snapshotId ← (field "snapshot-id").bind (asSigned 64)
  return { snapshotId }

structure RestTableMetadata where
  formatVersion : ℕ
  tableUuid : String
  location : String
  lastColumnId : ℤ
  schemas : List RestSchema
  currentSchemaId : ℤ
  snapshots : List RestSnapshot
  properties : StringMap String

/-- A field with `#[serde(default)]`. -/
def defaulted {α : Type} (value : Option Json) (decode : Json → Option α) (absent : α) : Option α :=
  match value with
  | none => some absent
  | some value => decode value

def RestTableMetadata.deserialize (value : Json) : Option RestTableMetadata := do
  let field ← structFields ["format-version", "table-uuid", "location", "last-column-id", "schemas",
    "current-schema-id", "snapshots", "properties"] value
  let formatVersion ← (field "format-version").bind asByte
  let tableUuid ← (field "table-uuid").bind Json.asStr
  let location ← (field "location").bind Json.asStr
  let lastColumnId ← (field "last-column-id").bind (asSigned 32)
  let schemas ← (field "schemas").bind (asVec RestSchema.deserialize)
  let currentSchemaId ← (field "current-schema-id").bind (asSigned 32)
  let snapshots ← defaulted (field "snapshots") (asVec RestSnapshot.deserialize) []
  let properties ← defaulted (field "properties") asTextMap ∅
  return { formatVersion, tableUuid, location, lastColumnId, schemas, currentSchemaId, snapshots,
           properties }

structure LoadTableResponse where
  metadataLocation : Option String
  metadata : RestTableMetadata

def LoadTableResponse.deserialize (value : Json) : Option LoadTableResponse := do
  let field ← structFields ["metadata-location", "metadata"] value
  let metadataLocation ← match field "metadata-location" with
    | none | some .null => some none
    | some value => value.asStr.map some
  let metadata ← (field "metadata").bind RestTableMetadata.deserialize
  return { metadataLocation, metadata }

-- ════════════════════════════════
-- The projection
-- ════════════════════════════════

def EngineCatalogFailure.malformed (httpStatus : ℕ) : EngineCatalogFailure :=
  ⟨.malformedResponse, some httpStatus⟩

/-- `valid_identifier` of the catalog client. -/
def validFieldName (value : String) : Bool :=
  !value.isEmpty && value.toList.all fun c => c.isAlphanum || c = '_'

structure TableProjection where
  bucket : String
  allowedFields : List String
  expectedProperties : StringMap String
  deriving DecidableEq

namespace TableProjection

def fromPlan (plan : InteroperabilityPlan) : TableProjection where
  bucket := plan.objectStore.bucket
  allowedFields :=
    plan.scenario.table.schema.fields.map (·.name) ++ [plan.scenario.schemaEvolution.field.name]
  expectedProperties := plan.scenario.table.properties

/-- One turn of the loop over the current fields, without the sets of what was seen. -/
def projectField (projection : TableProjection) (field : RestField) :
    Option EngineFieldObservation :=
  if field.id ≤ 0 || !validFieldName field.name || !projection.allowedFields.contains field.name
  then none
  else
    match field.fieldType.asStr with
    | some "long" =>
      some { id := field.id, name := field.name, required := field.required, fieldType := .long }
    | some "string" =>
      some { id := field.id, name := field.name, required := field.required, fieldType := .string }
    | _ => none

/-- The loop over the current fields; ids and names may not repeat. -/
def projectFields (projection : TableProjection) (fields : List RestField) :
    Option (List EngineFieldObservation) :=
  if (fields.map (·.id)).Nodup ∧ (fields.map (·.name)).Nodup then
    fields.mapM projection.projectField
  else none

def projectProperties (projection : TableProjection) (observed : StringMap String) :
    StringMap EnginePropertyObservation :=
  projection.expectedProperties.filterMap fun key expected =>
    observed[key]?.map fun value => if value = expected then .match else .mismatch

/-- The only schema with the current id. -/
def currentSchema (metadata : RestTableMetadata) : Option RestSchema :=
  match metadata.schemas.filter (·.schemaId = metadata.currentSchemaId) with
  | [current] => some current
  | _ => none

def project (crates : Crates) (projection : TableProjection) (response : LoadTableResponse)
    (httpStatus : ℕ) : Except EngineCatalogFailure EngineCatalogTable := do
  let malformed := EngineCatalogFailure.malformed httpStatus
  let .some metadataLocation := response.metadataLocation.filter (!·.isEmpty) | throw malformed
  let metadata := response.metadata
  let .some tableUuid := crates.parseUuid metadata.tableUuid | throw malformed
  if tableUuid.isNil || metadata.formatVersion ≠ 2 || metadata.lastColumnId ≤ 0 ||
      metadata.currentSchemaId < 0 then
    throw malformed
  if !(TableRoot.new crates metadata.location metadataLocation projection.bucket).isOk then
    throw malformed
  if ¬(metadata.schemas.map (·.schemaId)).Nodup ||
      metadata.schemas.any (fun schema => schema.schemaId < 0) ||
      (metadata.schemas.flatMap fun schema => schema.fields.map (·.id)).max? ≠
        some metadata.lastColumnId then
    throw malformed
  let .some current := currentSchema metadata | throw malformed
  if current.schemaType ≠ "struct" || current.fields.isEmpty then throw malformed
  let .some fields := projection.projectFields current.fields | throw malformed
  if ¬(metadata.snapshots.map (·.snapshotId)).Nodup then throw malformed
  return {
    currentSchemaId := metadata.currentSchemaId
    table := {
      tableUuid := hyphenated tableUuid
      metadataLocation := metadataLocation
      location := metadata.location
      formatVersion := metadata.formatVersion
      lastColumnId := metadata.lastColumnId
      schema := fields
      snapshots := metadata.snapshots.length
      properties := projection.projectProperties metadata.properties } }

/-- What the client makes of the body of a load answered with status 200. -/
def loadedTable (crates : Crates) (projection : TableProjection) (body : Json) (httpStatus : ℕ) :
    Except EngineCatalogFailure EngineCatalogTable :=
  match LoadTableResponse.deserialize body with
  | none => .error (.malformed httpStatus)
  | some response => projection.project crates response httpStatus

/-- What a projected table was made of. -/
structure Projected (crates : Crates) (projection : TableProjection) (response : LoadTableResponse)
    (state : EngineCatalogTable) : Prop where
  metadataLocation : response.metadataLocation = some state.table.metadataLocation
  tableUuid : ∃ uuid, crates.parseUuid response.metadata.tableUuid = some uuid ∧
    uuid.isNil = false ∧ state.table.tableUuid = hyphenated uuid
  formatVersion : state.table.formatVersion = 2
  location : state.table.location = response.metadata.location
  root : (TableRoot.new crates state.table.location state.table.metadataLocation
    projection.bucket).isOk = true
  lastColumnId : state.table.lastColumnId = response.metadata.lastColumnId
  schema : ∃ current, currentSchema response.metadata = some current ∧
    projection.projectFields current.fields = some state.table.schema
  snapshots : state.table.snapshots = response.metadata.snapshots.length
  properties : state.table.properties = projection.projectProperties response.metadata.properties

theorem projected_of_project {crates : Crates} {projection : TableProjection}
    {response : LoadTableResponse} {httpStatus : ℕ} {state : EngineCatalogTable}
    (h : projection.project crates response httpStatus = .ok state) :
    Projected crates projection response state := by
  unfold project at h
  simp only at h
  cases hlocation : response.metadataLocation.filter (!·.isEmpty) with
  | none => simp [hlocation, throw, throwThe, MonadExceptOf.throw] at h
  | some metadataLocation =>
  cases huuid : crates.parseUuid response.metadata.tableUuid with
  | none => simp [hlocation, huuid, throw, throwThe, MonadExceptOf.throw] at h
  | some uuid =>
  simp only [hlocation, huuid] at h
  split at h
  · cases h
  next hplain =>
  split at h
  · cases h
  next hroot =>
  split at h
  · cases h
  cases hcurrent : currentSchema response.metadata with
  | none => simp [hcurrent, throw, throwThe, MonadExceptOf.throw] at h
  | some current =>
  simp only [hcurrent] at h
  split at h
  · cases h
  cases hfields : projection.projectFields current.fields with
  | none => simp [hfields, throw, throwThe, MonadExceptOf.throw] at h
  | some fields =>
  simp only [hfields] at h
  split at h
  · cases h
  obtain rfl := Except.ok.inj h
  simp only [Bool.or_eq_true, decide_eq_true_eq, not_or, Bool.not_eq_true, not_not] at hplain
  exact {
    metadataLocation := (Option.filter_eq_some_iff.mp hlocation).1
    tableUuid := ⟨uuid, huuid, hplain.1.1.1, rfl⟩
    formatVersion := hplain.1.1.2
    location := rfl
    root := by simpa using hroot
    lastColumnId := rfl
    schema := ⟨current, hcurrent, hfields⟩
    snapshots := rfl
    properties := rfl }

end TableProjection

end CatalogBench.Engine
