import CatalogBench.Conformance.Wire
import CatalogBench.Engine.SparkPlan
import CatalogBench.Engine.Sql

/-!
# The plan check of the Spark runner

The runner in the Spark image reads its plan as JSON and refuses it before anything else happens
if it is not exactly what its renderer supports. The checks run over decoded JSON, in Python: an
object is a dictionary, of which only the keys and the value under a key matter, a number may be
written in more than one way, and a value of the wrong kind is either refused or raises.
-/

set_option linter.all false

namespace CatalogBench.Engine.SparkRunner
open Json

def planFormat : String := "catalog-bench/spark-engine-plan/v1"
def transcriptFormat : String := "catalog-bench/engine-interoperability-transcript/v2"
def maximumPlanBytes : ℕ := 256 * 1024
def maximumGeneratedRows : ℕ := 100000
def maximumSparkLong : ℕ := 2 ^ 63 - 1
def s3FileIo : String := "org.apache.iceberg.aws.s3.S3FileIO"

/-- What stops the runner: a plan that it refuses, or an exception of the language. -/
inductive RunnerError
  | planViolation (message : String)
  | keyError (key : String)
  | typeError
  deriving DecidableEq

abbrev Checked (α : Type) := Except RunnerError α

/-- A dictionary, as `json.loads` makes it of an object. -/
abbrev Dict := List (String × Json)

def violation {α : Type} (message : String) : Checked α := .error (.planViolation message)

def refuseWhen (violated : Bool) (message : String) : Checked Unit :=
  if violated then violation message else .ok ()

/-- The value under a key. -/
def item (dict : Dict) (key : String) : Checked Json :=
  match dict.lookup key with
  | some value => .ok value
  | none => .error (.keyError key)

def keys (dict : Dict) : List String := dict.map (·.1)

def isSubset (left right : List String) : Bool := left.all right.contains

-- ════════════════════════════════
-- Values
-- ════════════════════════════════

def requireObject (value : Json) (label : String) : Checked Dict :=
  match value with
  | .object fields => .ok fields
  | _ => violation (label ++ " must be an object")

def requireKeys (value : Dict) (expected : List String) (label : String) : Checked Unit :=
  refuseWhen (!(isSubset (keys value) expected && isSubset expected (keys value)))
    (label ++ " fields do not match the closed schema")

def requireText (value : Json) (label : String) : Checked String :=
  match value with
  | .string text =>
    if text.isEmpty then violation (label ++ " must be a nonempty string") else .ok text
  | _ => violation (label ++ " must be a nonempty string")

/-- An integer; a boolean is none, and neither is a number with a fraction or an exponent. -/
def requireUnsigned (value : Json) (label : String) : Checked ℕ :=
  match value with
  | .number (.posInt n) => .ok n
  | _ => violation (label ++ " must be an unsigned integer")

def isIdentifierChar (c : Char) : Bool := c.isAlphanum || c = '_'

def requireIdentifier (value : Json) (label : String) : Checked String := do
  let identifier ← requireText value label
  refuseWhen (!identifier.toList.all isIdentifierChar)
    (label ++ " contains an unsupported identifier character")
  pure identifier

/-- `==` with a number: a float and a boolean are compared by value. -/
def equalsNumber (value : Json) (n : ℕ) : Bool :=
  match value with
  | .number (.posInt m) => m = n
  | .number (.float q) => q = n
  | .bool flag => (if flag then 1 else 0) = n
  | _ => false

/-- `in` a set of texts. A value that cannot be hashed raises. -/
def memberOf (value : Json) (texts : List String) : Checked Bool :=
  match value with
  | .string text => .ok (texts.contains text)
  | .array _ | .object _ => .error .typeError
  | .null | .bool _ | .number _ => .ok false

-- ════════════════════════════════
-- The parts of a plan
-- ════════════════════════════════

def validateExecution (execution : Dict) : Checked Unit := do
  requireKeys execution ["master", "shuffle_partitions", "default_parallelism"] "execution"
  let master ← requireText (← item execution "master") "execution.master"
  let shufflePartitions ←
    requireUnsigned (← item execution "shuffle_partitions") "shuffle_partitions"
  let defaultParallelism ←
    requireUnsigned (← item execution "default_parallelism") "default_parallelism"
  refuseWhen (master ≠ "local[2]" || shufflePartitions ≠ 1 || defaultParallelism ≠ 1)
    "unsupported Spark execution settings"

def validateAuthentication (authentication : Dict) : Checked Unit :=
  match authentication.lookup "kind" with
  | some (.string "anonymous") => requireKeys authentication ["kind"] "anonymous authentication"
  | some (.string "oauth2-client-credentials") => do
    requireKeys authentication ["kind", "oauth2_server_uri", "scope"] "OAuth2 authentication"
    let _ ← requireText (← item authentication "oauth2_server_uri") "oauth2_server_uri"
    let _ ← requireText (← item authentication "scope") "scope"
  | _ => violation "unsupported catalog authentication kind"

/-- The text under a key that may be missing. -/
def requireOptionalText (dict : Dict) (key label : String) : Checked Unit :=
  match dict.lookup key with
  | some value => do
    let _ ← requireText value label
  | none => .ok ()

def validateCatalog (catalog : Dict) : Checked Unit := do
  let required := ["name", "uri", "authentication"]
  let optional := ["warehouse", "prefix"]
  refuseWhen (!isSubset required (keys catalog) || !isSubset (keys catalog) (required ++ optional))
    "catalog fields do not match the closed schema"
  let _ ← requireIdentifier (← item catalog "name") "catalog.name"
  let _ ← requireText (← item catalog "uri") "catalog.uri"
  optional.forM fun key => requireOptionalText catalog key ("catalog." ++ key)
  validateAuthentication (← requireObject (← item catalog "authentication") "authentication")

def validateFileIo (fileIo : Dict) : Checked Unit := do
  requireKeys fileIo ["implementation", "endpoint", "bucket", "region", "path_style_access"]
    "file_io"
  ["implementation", "endpoint", "bucket", "region"].forM fun key => do
    let _ ← requireText (← item fileIo key) ("file_io." ++ key)
  refuseWhen ((← item fileIo "implementation") ≠ .string s3FileIo) "unsupported Iceberg file IO"
  refuseWhen ((← item fileIo "path_style_access") ≠ .bool true)
    "shared MinIO requires path-style access"

/-- The namespace of the fixture. -/
def validateFixture (fixture : Dict) : Checked String := do
  let required := ["namespace", "table"]
  refuseWhen (!isSubset required (keys fixture) ||
      !isSubset (keys fixture) (required ++ ["requested_location"]))
    "fixture fields do not match the closed schema"
  let «namespace» ← requireIdentifier (← item fixture "namespace") "fixture.namespace"
  let _ ← requireIdentifier (← item fixture "table") "fixture.table"
  requireOptionalText fixture "requested_location" "fixture.requested_location"
  pure «namespace»

/-- The name of the field and its id, if it has to have one. -/
def validateField (field : Dict) (includeId : Bool) : Checked (String × Option ℕ) := do
  requireKeys field (["name", "required", "type"] ++ if includeId then ["id"] else []) "field"
  let name ← requireIdentifier (← item field "name") "field.name"
  match ← item field "required" with
  | .bool _ => pure ()
  | _ => violation "field.required must be a boolean"
  let supported ← memberOf (← item field "type") ["long", "string"]
  refuseWhen (!supported) "unsupported field type"
  if includeId then
    let id ← requireUnsigned (← item field "id") "field.id"
    refuseWhen (id = 0) "field.id must be positive"
    pure (name, some id)
  else pure (name, none)

/-- The fields one by one; an id or a name that was seen is refused. -/
def validateFields (seenIds : List (Option ℕ)) (seenNames : List String) :
    List Json → Checked Unit
  | [] => .ok ()
  | field :: fields => do
    let (name, id) ← validateField (← requireObject field "table field") true
    refuseWhen (seenIds.contains id || seenNames.contains name)
      "table field IDs and names must be unique"
    validateFields (id :: seenIds) (name :: seenNames) fields

def validateSchema (schema : Dict) : Checked Unit := do
  requireKeys schema ["schema-id", "type", "fields"] "table.schema"
  refuseWhen (!equalsNumber (← item schema "schema-id") 0 ||
      (← item schema "type") ≠ .string "struct")
    "renderer requires struct schema zero"
  match ← item schema "fields" with
  | .array (field :: fields) => validateFields [] [] (field :: fields)
  | _ => violation "table fields must be a nonempty array"

def validateTable (table : Dict) : Checked Unit := do
  requireKeys table ["file_format", "format_version", "properties", "schema"] "scenario.table"
  refuseWhen ((← item table "file_format") ≠ .string "parquet" ||
      !equalsNumber (← item table "format_version") 2)
    "renderer supports only format-v2 Parquet tables"
  let properties ← requireObject (← item table "properties") "table.properties"
  properties.forM fun property => do
    let _ ← requireText (.string property.1) "table property key"
    let _ ← requireText property.2 ("table property " ++ property.1)
  validateSchema (← requireObject (← item table "schema") "table.schema")

def validateEvolution (evolution : Dict) : Checked Unit := do
  requireKeys evolution ["field", "preserve_existing_field_ids"] "schema_evolution"
  let _ ← validateField (← requireObject (← item evolution "field") "evolution field") false
  refuseWhen ((← item evolution "preserve_existing_field_ids") ≠ .bool true)
    "renderer requires existing field IDs to be preserved"

def validateGenerators (generators : Dict) : Checked Unit := do
  requireKeys generators ["amount_cents", "category", "note"] "row_generator"
  let amount ← requireObject (← item generators "amount_cents") "amount_cents generator"
  requireKeys amount ["kind", "multiplier", "offset"] "amount_cents generator"
  refuseWhen ((← item amount "kind") ≠ .string "affine") "unsupported amount generator"
  let _ ← requireUnsigned (← item amount "multiplier") "amount multiplier"
  let _ ← requireUnsigned (← item amount "offset") "amount offset"
  let category ← requireObject (← item generators "category") "category generator"
  requireKeys category ["kind", "modulus", "prefix"] "category generator"
  refuseWhen ((← item category "kind") ≠ .string "modulo-label") "unsupported category generator"
  let modulus ← requireUnsigned (← item category "modulus") "category modulus"
  refuseWhen (modulus = 0) "unsupported category generator"
  let _ ← requireText (← item category "prefix") "category prefix"
  let note ← requireObject (← item generators "note") "note generator"
  requireKeys note ["kind", "prefix"] "note generator"
  refuseWhen ((← item note "kind") ≠ .string "id-label") "unsupported note generator"
  let _ ← requireText (← item note "prefix") "note prefix"

/-- The first identifier and the number of rows of a batch. -/
def validateBatch (batches : Dict) (name : String) : Checked (ℕ × ℕ) := do
  let batch ← requireObject (← item batches name) (name ++ " batch")
  requireKeys batch ["id_start", "rows"] (name ++ " batch")
  let start ← requireUnsigned (← item batch "id_start") (name ++ ".id_start")
  let rows ← requireUnsigned (← item batch "rows") (name ++ ".rows")
  refuseWhen (rows = 0) "batch row counts must be positive"
  pure (start, rows)

def validateBatches (batches : Dict) : Checked Unit := do
  requireKeys batches ["initial", "evolved"] "batches"
  let initial ← validateBatch batches "initial"
  let evolved ← validateBatch batches "evolved"
  refuseWhen (initial.1 + initial.2 ≠ evolved.1) "batches must be contiguous"
  refuseWhen (decide (maximumGeneratedRows < initial.2 + evolved.2))
    "generated row count exceeds the renderer limit"
  refuseWhen (decide (maximumSparkLong < evolved.1 + evolved.2 - 1))
    "generated identifier exceeds Spark LONG"

def isLowerHexDigit (c : Char) : Bool := "0123456789abcdef".toList.contains c

def validateRead (reads : Dict) (name : String) : Checked Unit := do
  let identity ← requireObject (← item reads name) (name ++ " read")
  requireKeys identity ["bytes", "columns", "rows", "sha256"] (name ++ " read")
  let _ ← requireUnsigned (← item identity "bytes") (name ++ ".bytes")
  let _ ← requireUnsigned (← item identity "rows") (name ++ ".rows")
  match ← item identity "columns" with
  | .array (column :: columns) => (column :: columns).forM fun column => do
    let _ ← requireIdentifier column (name ++ " column")
  | _ => violation (name ++ ".columns must be a nonempty array")
  let digest ← requireText (← item identity "sha256") (name ++ ".sha256")
  refuseWhen (digest.toList.length ≠ 64 || !digest.toList.all isLowerHexDigit)
    (name ++ ".sha256 must be lowercase SHA-256")

def validateReads (reads : Dict) : Checked Unit := do
  requireKeys reads ["encoding", "initial", "order_by", "after_evolution", "trailing_lf"]
    "canonical_reads"
  refuseWhen ((← item reads "encoding") ≠ .string "compact-rfc8259-json-array-per-row-utf8-lf")
    "unsupported canonical encoding"
  refuseWhen ((← item reads "order_by") ≠ .array [.string "id"] ||
      (← item reads "trailing_lf") ≠ .bool true)
    "canonical reads require ID ordering and a final LF"
  ["initial", "after_evolution"].forM fun name => validateRead reads name

def validateObjectAudit (objectAudit : Dict) : Checked Unit := do
  requireKeys objectAudit ["minimum_metadata_objects", "minimum_parquet_objects", "scope"]
    "object_audit"
  let metadataObjects ← requireUnsigned (← item objectAudit "minimum_metadata_objects")
    "minimum_metadata_objects"
  refuseWhen (metadataObjects = 0) "minimum_metadata_objects must be positive"
  let parquetObjects ← requireUnsigned (← item objectAudit "minimum_parquet_objects")
    "minimum_parquet_objects"
  refuseWhen (parquetObjects = 0) "minimum_parquet_objects must be positive"
  refuseWhen
    ((← item objectAudit "scope") ≠ .string "returned-table-root-in-profile-shared-object-store")
    "unsupported object audit scope"

-- ════════════════════════════════
-- The plan
-- ════════════════════════════════

/-- The value at the end of a path of keys. -/
def itemAt (value : Json) : List String → Checked Json
  | [] => .ok value
  | key :: path =>
    match value with
    | .object fields => do itemAt (← item fields key) path
    | _ => .error .typeError

/-- A number that was checked before. -/
def asNumber : Json → Checked ℕ
  | .number (.posInt n) => .ok n
  | _ => .error .typeError

/-- The names of the fields of a table. -/
def fieldNames (tableFields : Json) : Checked (List Json) :=
  match tableFields with
  | .array fields => fields.mapM fun field => itemAt field ["name"]
  | _ => .error .typeError

def validateScenarioRelations (scenario : Json) : Checked Unit := do
  let tableFields ← fieldNames (← itemAt scenario ["table", "schema", "fields"])
  let evolvedName ← itemAt scenario ["schema_evolution", "field", "name"]
  refuseWhen (tableFields.contains evolvedName) "evolved field must be new"
  refuseWhen ((← itemAt scenario ["canonical_reads", "initial", "columns"]) ≠ .array tableFields)
    "initial read columns do not match the table schema"
  refuseWhen ((← itemAt scenario ["canonical_reads", "after_evolution", "columns"]) ≠
      .array (tableFields ++ [evolvedName]))
    "evolved read columns do not match the evolved schema"
  let initialRows ← asNumber (← itemAt scenario ["batches", "initial", "rows"])
  let evolvedRows ← asNumber (← itemAt scenario ["batches", "evolved", "rows"])
  refuseWhen ((← asNumber (← itemAt scenario ["canonical_reads", "initial", "rows"])) ≠ initialRows)
    "initial read row count does not match its batch"
  refuseWhen ((← asNumber (← itemAt scenario ["canonical_reads", "after_evolution", "rows"])) ≠
      initialRows + evolvedRows)
    "evolved read row count does not match both batches"
  let evolvedStart ← asNumber (← itemAt scenario ["batches", "evolved", "id_start"])
  let multiplier ← asNumber (← itemAt scenario ["row_generator", "amount_cents", "multiplier"])
  let offset ← asNumber (← itemAt scenario ["row_generator", "amount_cents", "offset"])
  refuseWhen (decide (maximumSparkLong < (evolvedStart + evolvedRows - 1) * multiplier + offset))
    "generated amount exceeds Spark LONG"

/-- `EXPECTED_ENGINE_POLICY`. -/
def expectedEnginePolicy : Dict :=
  [("catalog_specific_branches", .string "forbidden"),
    ("catalog_specific_shims", .string "forbidden"),
    ("connector", .string "stock-profile-component"),
    ("syntax_rendering", .string "engine-specific-but-catalog-neutral"),
    ("unsupported", .string "classify-before-mutation-without-a-substitute-request")]

/-- Both dictionaries have the same keys, with the same value under each. -/
def sameDict (left right : Dict) : Bool :=
  isSubset (keys left) (keys right) && isSubset (keys right) (keys left) &&
    (keys right).all fun key => left.lookup key = right.lookup key

def validateScenario (scenario : Dict) («namespace» : String) : Checked Unit := do
  requireKeys scenario ["catalog_protocol", "engine_policy", "fixture_prefix", "table",
    "schema_evolution", "row_generator", "batches", "canonical_reads", "object_audit",
    "transcript_format"] "scenario"
  refuseWhen ((← item scenario "catalog_protocol") ≠ .string "iceberg-rest-v1")
    "unsupported catalog protocol"
  let enginePolicy ← requireObject (← item scenario "engine_policy") "engine_policy"
  refuseWhen (!sameDict enginePolicy expectedEnginePolicy)
    "engine policy does not authorize this renderer"
  let fixturePrefix ← requireIdentifier (← item scenario "fixture_prefix") "fixture_prefix"
  refuseWhen (!startsWith «namespace» (fixturePrefix ++ "_"))
    "fixture namespace is outside the scenario prefix"
  validateTable (← requireObject (← item scenario "table") "scenario.table")
  validateEvolution
    (← requireObject (← item scenario "schema_evolution") "scenario.schema_evolution")
  validateGenerators (← requireObject (← item scenario "row_generator") "scenario.row_generator")
  validateBatches (← requireObject (← item scenario "batches") "scenario.batches")
  validateReads (← requireObject (← item scenario "canonical_reads") "scenario.canonical_reads")
  validateObjectAudit (← requireObject (← item scenario "object_audit") "scenario.object_audit")
  refuseWhen ((← item scenario "transcript_format") ≠ .string transcriptFormat)
    "unsupported transcript format"
  validateScenarioRelations (.object scenario)

def validatePlan (plan : Dict) : Checked Unit := do
  requireKeys plan ["format", "execution", "catalog", "file_io", "fixture", "scenario"] "plan"
  refuseWhen ((← item plan "format") ≠ .string planFormat) "unsupported Spark plan format"
  validateExecution (← requireObject (← item plan "execution") "execution")
  validateCatalog (← requireObject (← item plan "catalog") "catalog")
  validateFileIo (← requireObject (← item plan "file_io") "file_io")
  let «namespace» ← validateFixture (← requireObject (← item plan "fixture") "fixture")
  validateScenario (← requireObject (← item plan "scenario") "scenario") «namespace»

/-- The plan in a file, given what `json.loads` makes of its bytes, or that it raises. -/
def loadPlan (loads : List UInt8 → Option Json) (contents : List UInt8) : Checked Dict := do
  let payload := contents.take (maximumPlanBytes + 1)
  refuseWhen (decide (maximumPlanBytes < payload.length)) "Spark plan exceeds its byte limit"
  match loads payload with
  | none => violation "Spark plan is not valid UTF-8 JSON"
  | some value => do
    let plan ← requireObject value "plan"
    validatePlan plan
    pure plan

-- ════════════════════════════════
-- Rows
-- ════════════════════════════════

/-- A text that was checked before. -/
def asText : Json → Checked String
  | .string text => .ok text
  | _ => .error .typeError

/-- A modulus that was checked not to be zero. -/
def asModulus : Json → Checked ℕ
  | .number (.posInt (n + 1)) => .ok (n + 1)
  | _ => .error .typeError

/-- The values that a row has before the evolution. -/
def baseRow (generators : Json) (identifier : ℕ) : Checked (List Json) := do
  let label ← asText (← itemAt generators ["category", "prefix"])
  let modulus ← asModulus (← itemAt generators ["category", "modulus"])
  let multiplier ← asNumber (← itemAt generators ["amount_cents", "multiplier"])
  let offset ← asNumber (← itemAt generators ["amount_cents", "offset"])
  pure [ofNat identifier, .string (label ++ toString (identifier % modulus)),
    ofNat (identifier * multiplier + offset)]

/-- `range(batch["id_start"], batch["id_start"] + batch["rows"])`. -/
def batchRange (batch : Json) : Checked (List ℕ) := do
  let start ← asNumber (← itemAt batch ["id_start"])
  let rows ← asNumber (← itemAt batch ["rows"])
  pure ((List.range rows).map (start + ·))

/-- The rows that a read of the table should return. -/
def generatedRows (plan : Dict) (includeEvolved : Bool) : Checked (List (List Json)) := do
  let scenario ← item plan "scenario"
  let generators ← itemAt scenario ["row_generator"]
  let initial ← (← batchRange (← itemAt scenario ["batches", "initial"])).mapM fun identifier => do
    pure ((← baseRow generators identifier) ++ if includeEvolved then [Json.null] else [])
  if includeEvolved then
    let evolved ← (← batchRange (← itemAt scenario ["batches", "evolved"])).mapM fun identifier => do
      let row ← baseRow generators identifier
      let label ← asText (← itemAt generators ["note", "prefix"])
      pure (row ++ [Json.string (label ++ toString identifier)])
    pure (initial ++ evolved)
  else pure initial

-- ════════════════════════════════
-- Reads
-- ════════════════════════════════

/-- `canonical_identity`, where `dumps` is `json.dumps` with compact separators and without
escapes of characters beyond ASCII. -/
def canonicalIdentity {α : Type} (dumps : List α → String) (sha256 : List UInt8 → List UInt8)
    (rows : List (List α)) : RowReadObservation :=
  let payload := rows.flatMap fun row => utf8 (dumps row) ++ [lineFeed]
  { rows := payload.count lineFeed, bytes := payload.length, sha256 := hex (sha256 payload) }

end CatalogBench.Engine.SparkRunner
