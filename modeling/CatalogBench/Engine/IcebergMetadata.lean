import CatalogBench.Engine.Contracts
import CatalogBench.Engine.TableProjection
import CatalogBench.Engine.Trino

/-!
# Iceberg metadata objects

The Trino and DuckDB runners read the metadata object of the table from the object store and decode
it into the observation that the engine reports.
-/

set_option linter.all false

namespace CatalogBench

namespace Json

mutual

/-- Some object of a tree repeats a key. -/
def hasDuplicateKey : Json → Bool
  | .array values => elementsHaveDuplicateKey values
  | .object fields => !decide (fields.map (·.1)).Nodup || fieldsHaveDuplicateKey fields
  | .null | .bool _ | .number _ | .string _ => false

def elementsHaveDuplicateKey : List Json → Bool
  | [] => false
  | value :: values => hasDuplicateKey value || elementsHaveDuplicateKey values

def fieldsHaveDuplicateKey : List (String × Json) → Bool
  | [] => false
  | (_, value) :: fields => hasDuplicateKey value || fieldsHaveDuplicateKey fields

end

theorem hasDuplicateKey_array {values : List Json} :
    (Json.array values).hasDuplicateKey = false ↔
      ∀ value ∈ values, value.hasDuplicateKey = false := by
  rw [hasDuplicateKey]
  induction values with
  | nil => simp [elementsHaveDuplicateKey]
  | cons value values ih =>
    rw [elementsHaveDuplicateKey, Bool.or_eq_false_iff, ih, List.forall_mem_cons]

theorem hasDuplicateKey_object {fields : List (String × Json)} :
    (Json.object fields).hasDuplicateKey = false ↔
      (fields.map (·.1)).Nodup ∧ ∀ field ∈ fields, field.2.hasDuplicateKey = false := by
  have hfields : fieldsHaveDuplicateKey fields = false ↔
      ∀ field ∈ fields, field.2.hasDuplicateKey = false := by
    induction fields with
    | nil => simp [fieldsHaveDuplicateKey]
    | cons field fields ih =>
      rw [fieldsHaveDuplicateKey, Bool.or_eq_false_iff, ih, List.forall_mem_cons]
  rw [hasDuplicateKey, Bool.or_eq_false_iff, hfields]
  simp

end Json

namespace Engine
open MachineInt CatalogBench.Commit
open CatalogBench.Contract (containsText)
open Interaction

-- ════════════════════════════════
-- Strict JSON
-- ════════════════════════════════

inductive StrictJsonError
  | duplicateKey | malformed
  deriving DecidableEq

/-- The libraries under a metadata object. -/
structure MetadataReader where
  /-- `GzDecoder::take` and `read_to_end`: the start of what a member holds. -/
  gunzip : ℕ → List UInt8 → Option (List UInt8)
  /-- What `serde_json::from_slice` shows a visitor, every key of every object included. -/
  parseJson : List UInt8 → Option Json

def decodeStrictJson (reader : MetadataReader) (bytes : List UInt8) : Except StrictJsonError Json :=
  match reader.parseJson bytes with
  | none => .error .malformed
  | some value => if value.hasDuplicateKey then .error .duplicateKey else .ok value

-- ════════════════════════════════
-- The decoder
-- ════════════════════════════════

def maximumIcebergMetadataBytes : ℕ := 4 * 1024 * 1024
def maximumMetadataTextBytes : ℕ := 4096

inductive IcebergMetadataError
  | tooLarge | malformed | unsupportedVersion | invalidIdentity | invalidLocation | invalidSchema
  | invalidSnapshots | invalidProperties
  deriving DecidableEq

/-- `Option::ok_or`. -/
def okOr {α : Type} (value : Option α) (e : IcebergMetadataError) :
    Except IcebergMetadataError α :=
  match value with
  | some value => .ok value
  | none => .error e

@[simp] theorem okOr_eq_ok {α : Type} {value : Option α} {e : IcebergMetadataError} {a : α} :
    okOr value e = .ok a ↔ value = some a := by
  cases value <;> simp [okOr]

def requiredText (object : List (String × Json)) (key : String) :
    Except IcebergMetadataError String :=
  okOr (((object.lookup key).bind Json.asStr).filter (·.utf8ByteSize ≤ maximumMetadataTextBytes))
    .malformed

def requiredU64 (object : List (String × Json)) (key : String) : Except IcebergMetadataError ℕ :=
  okOr ((object.lookup key).bind Json.asU64) .malformed

/-- `i32::try_from` of a `u64`. -/
def toI32 (n : ℕ) : Except IcebergMetadataError ℤ :=
  if n < 2 ^ 31 then .ok n else .error .invalidSchema

def asObject : Json → Option (List (String × Json))
  | .object fields => some fields
  | _ => none

def asArray : Json → Option (List Json)
  | .array values => some values
  | _ => none

theorem asObject_eq_some {value : Json} {fields : List (String × Json)}
    (h : asObject value = some fields) : value = .object fields := by
  cases value <;> simp_all [asObject]

theorem asArray_eq_some {value : Json} {values : List Json} (h : asArray value = some values) :
    value = .array values := by
  cases value <;> simp_all [asArray]

def decodeField (value : Json) : Except IcebergMetadataError EngineFieldObservation := do
  let field ← okOr (asObject value) .invalidSchema
  let id ← toI32 (← requiredU64 field "id")
  if id ≤ 0 then throw .invalidSchema
  let name ← requiredText field "name"
  if name.isEmpty || 256 < name.utf8ByteSize then throw .invalidSchema
  let required ← okOr ((field.lookup "required").bind asBool) .invalidSchema
  let fieldType ← match ← requiredText field "type" with
    | "long" => pure IcebergPrimitiveType.long
    | "string" => pure IcebergPrimitiveType.string
    | _ => throw .invalidSchema
  return { id, name, required, fieldType }

def validateScenarioSchema (observed : List EngineFieldObservation) (lastColumnId : ℤ)
    (policy : TrinoObservationPolicy) : Except IcebergMetadataError Unit := do
  let initial := policy.initialSchema.map engineField
  let lastId := (lastFieldId initial).getD 0
  if observed = initial ∧ lastColumnId = lastId then return ()
  let evolvedId ← okOr (checkedSignedAdd 32 lastId 1) .invalidSchema
  let evolved := initial ++ [{
    id := evolvedId
    name := policy.evolvedField.name
    required := policy.evolvedField.required
    fieldType := policy.evolvedField.fieldType }]
  if observed = evolved ∧ lastColumnId = evolvedId then return ()
  throw .invalidSchema

def validateS3Location (crates : Crates) (value bucket : String) (requireMetadataJson : Bool) :
    Except IcebergMetadataError Unit :=
  match crates.parseUrl value with
  | .error _ => .error .invalidLocation
  | .ok url =>
    if url.scheme ≠ "s3" || url.hostStr ≠ some bucket || !url.username.isEmpty ||
        url.password.isSome || url.query.isSome || url.fragment.isSome ||
        (requireMetadataJson && (!containsText url.path "/metadata/" ||
          !".json".toList.isSuffixOf url.path.toList)) then
      .error .invalidLocation
    else .ok ()

def decodeMetadataBytes (reader : MetadataReader) (bytes : List UInt8) (metadataLocation : String) :
    Except IcebergMetadataError (List UInt8) := do
  if !".gz.metadata.json".toList.isSuffixOf metadataLocation.toList then return bytes
  let decoded ← okOr (reader.gunzip (maximumIcebergMetadataBytes + 1) bytes) .malformed
  if decoded.length > maximumIcebergMetadataBytes then throw .tooLarge
  return decoded

/-- The document in a metadata object. -/
def readMetadataDocument (reader : MetadataReader) (bytes : List UInt8)
    (metadataLocation : String) : Except IcebergMetadataError Json := do
  if bytes.length > maximumIcebergMetadataBytes then throw .tooLarge
  let decoded ← decodeMetadataBytes reader bytes metadataLocation
  (decodeStrictJson reader decoded).mapError fun _ => .malformed

def validateLocations (crates : Crates) (location metadataLocation : String)
    (fixture : TrinoFixtureTarget) : Except IcebergMetadataError Unit := do
  validateS3Location crates location fixture.bucket false
  validateS3Location crates metadataLocation fixture.bucket true
  if !startsWith metadataLocation (trimEndMatches location '/' ++ "/metadata/") then
    throw .invalidLocation
  match fixture.requestedLocation with
  | some expected =>
    if trimEndMatches location '/' ≠ trimEndMatches expected '/' then throw .invalidLocation
  | none => return ()

/-- The schema with the current id that comes first. -/
def findCurrentSchema (schemas : List Json) (currentSchemaId : ℕ) :
    Option (List (String × Json)) :=
  (schemas.filterMap asObject).find? fun schema =>
    (schema.lookup "schema-id").bind Json.asU64 = some currentSchemaId

def countSnapshots : Option Json → Except IcebergMetadataError ℕ
  | none | some .null => .ok 0
  | some (.array snapshots) => .ok snapshots.length
  | some _ => .error .invalidSnapshots

def observeProperties (policy : TrinoObservationPolicy) (properties : List (String × Json)) :
    StringMap EnginePropertyObservation :=
  policy.properties.map fun key expected =>
    if (properties.lookup key).bind Json.asStr = some expected then .match else .mismatch

/-- What `decode_iceberg_table_metadata` makes of the document. -/
def observeDocument (crates : Crates) (document : Json) (metadataLocation : String)
    (fixture : TrinoFixtureTarget) (policy : TrinoObservationPolicy) :
    Except IcebergMetadataError EngineTableObservation := do
  let object ← okOr (asObject document) .malformed
  let formatVersion ← requiredU64 object "format-version"
  if formatVersion ≠ policy.formatVersion ∨ formatVersion ≠ 2 then throw .unsupportedVersion
  let tableUuid ← requiredText object "table-uuid"
  let parsedUuid ← okOr (crates.parseUuid tableUuid) .invalidIdentity
  if hyphenated parsedUuid ≠ tableUuid then throw .invalidIdentity
  let location ← requiredText object "location"
  validateLocations crates location metadataLocation fixture
  let lastColumnId ← toI32 (← requiredU64 object "last-column-id")
  let currentSchemaId ← requiredU64 object "current-schema-id"
  let schemas ← okOr ((object.lookup "schemas").bind asArray) .invalidSchema
  let current ← okOr (findCurrentSchema schemas currentSchemaId) .invalidSchema
  if (current.lookup "type").bind Json.asStr ≠ some "struct" then throw .invalidSchema
  let fields ← okOr ((current.lookup "fields").bind asArray) .invalidSchema
  let schema ← fields.mapM decodeField
  validateScenarioSchema schema lastColumnId policy
  let snapshots ← countSnapshots (object.lookup "snapshots")
  let properties ← okOr ((object.lookup "properties").bind asObject) .invalidProperties
  if properties.any fun property =>
      property.2.asStr.all (maximumMetadataTextBytes < ·.utf8ByteSize) then
    throw .invalidProperties
  return {
    tableUuid, metadataLocation, location, formatVersion := 2, lastColumnId, schema, snapshots
    properties := observeProperties policy properties }

def decodeIcebergTableMetadata (crates : Crates) (reader : MetadataReader) (bytes : List UInt8)
    (metadataLocation : String) (fixture : TrinoFixtureTarget) (policy : TrinoObservationPolicy) :
    Except IcebergMetadataError EngineTableObservation := do
  let document ← readMetadataDocument reader bytes metadataLocation
  observeDocument crates document metadataLocation fixture policy

theorem hasDuplicateKey_of_readMetadataDocument {reader : MetadataReader} {bytes : List UInt8}
    {metadataLocation : String} {document : Json}
    (h : readMetadataDocument reader bytes metadataLocation = .ok document) :
    document.hasDuplicateKey = false := by
  unfold readMetadataDocument at h
  split at h
  · cases h
  obtain ⟨decoded, -, h⟩ := except_bind_eq_ok.mp h
  have hstrict := except_mapError_eq_ok.mp h
  unfold decodeStrictJson at hstrict
  split at hstrict
  · cases hstrict
  split at hstrict
  · cases hstrict
  next hduplicate =>
  obtain rfl := Except.ok.inj hstrict
  simpa using hduplicate

/-- What an observation was made of. -/
structure ObservedIn (crates : Crates) (object : List (String × Json)) (metadataLocation : String)
    (policy : TrinoObservationPolicy) (table : EngineTableObservation) : Prop where
  tableUuid : (object.lookup "table-uuid").bind Json.asStr = some table.tableUuid
  hyphenated : ∃ uuid, crates.parseUuid table.tableUuid = some uuid ∧
    hyphenated uuid = table.tableUuid
  metadataLocation : table.metadataLocation = metadataLocation
  location : (object.lookup "location").bind Json.asStr = some table.location
  formatVersion : table.formatVersion = 2
  lastColumnId : ∃ n : ℕ, (object.lookup "last-column-id").bind Json.asU64 = some n ∧
    table.lastColumnId = n
  schema : ∃ currentSchemaId schemas current fields,
    (object.lookup "current-schema-id").bind Json.asU64 = some currentSchemaId ∧
    (object.lookup "schemas").bind asArray = some schemas ∧
    findCurrentSchema schemas currentSchemaId = some current ∧
    (current.lookup "fields").bind asArray = some fields ∧
    fields.mapM decodeField = .ok table.schema
  snapshots : countSnapshots (object.lookup "snapshots") = .ok table.snapshots
  properties : ∃ properties, (object.lookup "properties").bind asObject = some properties ∧
    table.properties = observeProperties policy properties

theorem requiredText_ok {object : List (String × Json)} {key text : String}
    (h : requiredText object key = .ok text) :
    (object.lookup key).bind Json.asStr = some text :=
  (Option.filter_eq_some_iff.mp (okOr_eq_ok.mp h)).1

theorem requiredU64_ok {object : List (String × Json)} {key : String} {n : ℕ}
    (h : requiredU64 object key = .ok n) : (object.lookup key).bind Json.asU64 = some n :=
  okOr_eq_ok.mp h

theorem toI32_ok {n : ℕ} {i : ℤ} (h : toI32 n = .ok i) : i = n := by
  unfold toI32 at h
  split at h
  · exact (Except.ok.inj h).symm
  · cases h

theorem observedIn_of_observeDocument {crates : Crates} {document : Json}
    {metadataLocation : String} {fixture : TrinoFixtureTarget} {policy : TrinoObservationPolicy}
    {table : EngineTableObservation}
    (h : observeDocument crates document metadataLocation fixture policy = .ok table) :
    ∃ object, document = .object object ∧
      ObservedIn crates object metadataLocation policy table := by
  obtain ⟨object, hobject, h⟩ := except_bind_eq_ok.mp h
  obtain ⟨formatVersion, -, h⟩ := except_bind_eq_ok.mp h
  split at h
  · cases h
  obtain ⟨tableUuid, htableUuid, h⟩ := except_bind_eq_ok.mp h
  obtain ⟨uuid, huuid, h⟩ := except_bind_eq_ok.mp h
  split at h
  · cases h
  next htext =>
  obtain ⟨location, hlocation, h⟩ := except_bind_eq_ok.mp h
  obtain ⟨-, h⟩ := except_seq_eq_ok.mp h
  obtain ⟨last, hlast, h⟩ := except_bind_eq_ok.mp h
  obtain ⟨lastColumnId, hlastColumnId, h⟩ := except_bind_eq_ok.mp h
  obtain ⟨currentSchemaId, hcurrentId, h⟩ := except_bind_eq_ok.mp h
  obtain ⟨schemas, hschemas, h⟩ := except_bind_eq_ok.mp h
  obtain ⟨current, hcurrent, h⟩ := except_bind_eq_ok.mp h
  split at h
  · cases h
  obtain ⟨fields, hfields, h⟩ := except_bind_eq_ok.mp h
  obtain ⟨schema, hschema, h⟩ := except_bind_eq_ok.mp h
  obtain ⟨-, h⟩ := except_seq_eq_ok.mp h
  obtain ⟨snapshots, hsnapshots, h⟩ := except_bind_eq_ok.mp h
  obtain ⟨properties, hproperties, h⟩ := except_bind_eq_ok.mp h
  split at h
  · cases h
  obtain rfl := Except.ok.inj h
  exact ⟨object, asObject_eq_some (okOr_eq_ok.mp hobject), {
    tableUuid := requiredText_ok htableUuid
    hyphenated := ⟨uuid, okOr_eq_ok.mp huuid, not_not.mp htext⟩
    metadataLocation := rfl
    location := requiredText_ok hlocation
    formatVersion := rfl
    lastColumnId := ⟨last, requiredU64_ok hlast, toI32_ok hlastColumnId⟩
    schema := ⟨currentSchemaId, schemas, current, fields, requiredU64_ok hcurrentId,
      okOr_eq_ok.mp hschemas, okOr_eq_ok.mp hcurrent, okOr_eq_ok.mp hfields, hschema⟩
    snapshots := hsnapshots
    properties := ⟨properties, okOr_eq_ok.mp hproperties, rfl⟩ }⟩

end Engine

end CatalogBench
