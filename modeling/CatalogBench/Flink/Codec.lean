import CatalogBench.Flink.Program
import CatalogBench.Engine.Sql
import CatalogBench.Library.Interaction

/-!
# The program codec of the Flink process

`validate` admits a decoded program or throws a violation. The parser of `java.net.URI` and the
lower-casing of a text by the default locale are the parameter `Jdk`.
-/

set_option linter.all false

namespace CatalogBench.Flink
open CatalogBench.Engine Interaction

/-- `MAX_READ_ROWS`, `MAX_READ_BYTES` and `MAX_TEXT_CHARS`. -/
def maxReadRows : ℤ := 10000
def maxReadBytes : ℤ := 16 * 1024 * 1024
def maxTextChars : ℕ := 4096

structure ProgramViolation where
  message : String
  deriving DecidableEq

/-- What the accessors of `java.net.URI` return. -/
structure JavaUri where
  scheme : Option String
  host : Option String
  rawUserInfo : Option String
  rawPath : Option String
  rawQuery : Option String
  rawFragment : Option String
  deriving DecidableEq

/-- The library functions the codec calls. -/
structure Jdk where
  /-- `new URI(text)`, `none` being a `URISyntaxException`. -/
  parseUri : String → Option JavaUri
  /-- `String.toLowerCase`. -/
  toLowerCase : String → String

/-- `String.length`: the number of UTF-16 code units. -/
def javaLength (text : String) : ℕ :=
  (text.toList.map fun c => if c.val.toNat < 0x10000 then 1 else 2).sum

/-- `Character.isISOControl`. No code unit of a surrogate pair is one. -/
def isIsoControl (c : Char) : Bool :=
  c.val.toNat ≤ 0x1F || (0x7F ≤ c.val.toNat && c.val.toNat ≤ 0x9F)

/-- `String.contains`. -/
def containsText (text part : String) : Bool := decide (part.toList <:+: text.toList)

def require (condition : Bool) (message : String) : Except ProgramViolation Unit :=
  if condition then .ok () else .error ⟨message⟩

def boundedText (value label : String) : Except ProgramViolation Unit :=
  require (!value.isEmpty && javaLength value ≤ maxTextChars) (label ++ " is empty or too long")

/-- `IDENTIFIER` is `[a-z0-9_]+`. -/
def identifier (value label : String) : Except ProgramViolation Unit := do
  boundedText value label
  require (validIdentifier value) (label ++ " is outside the closed vocabulary")

/-- `SHA256` is `[0-9a-f]{64}`. -/
def matchesSha256 (value : String) : Bool :=
  value.length = 64 && value.toList.all fun c => c.isDigit || ('a' ≤ c && c ≤ 'f')

def httpUri (jdk : Jdk) (value label : String) : Except ProgramViolation Unit := do
  boundedText value label
  match jdk.parseUri value with
  | none => throw ⟨label ++ " is invalid"⟩
  | some uri =>
    require ((uri.scheme = some "http" || uri.scheme = some "https") && uri.host.isSome &&
        uri.rawUserInfo.isNone && uri.rawQuery.isNone && uri.rawFragment.isNone)
      (label ++ " is not a credential-free HTTP(S) URI")

def requiredCatalogProperties : List String :=
  ["type", "catalog-type", "uri", "io-impl", "s3.endpoint", "s3.region", "s3.path-style-access"]

def optionalCatalogProperties : List String := ["warehouse", "prefix"]

/-- The checks on every entry of a property map; `banned` are the words its key must not hold. -/
def validateProperty (jdk : Jdk) (kind : String) (banned : List String) (message : String)
    (entry : String × String) : Except ProgramViolation Unit := do
  boundedText entry.1 (kind ++ " property name")
  boundedText entry.2 (kind ++ " property value")
  require (banned.all fun word => !containsText (jdk.toLowerCase entry.1) word) message

def validateCatalog (jdk : Jdk) (catalog : CatalogSetup) : Except ProgramViolation Unit := do
  identifier catalog.name "catalog name"
  let properties := catalog.properties
  require (requiredCatalogProperties.all fun key => properties.contains key)
    "catalog properties are incomplete"
  require (properties.keys.all fun key =>
      (requiredCatalogProperties ++ optionalCatalogProperties).contains key)
    "catalog properties are not closed"
  require (properties["type"]? = some "iceberg") "catalog type differs"
  require (properties["catalog-type"]? = some "rest") "Iceberg catalog type differs"
  require (properties["io-impl"]? = some "org.apache.iceberg.aws.s3.S3FileIO") "file IO differs"
  require (properties["s3.path-style-access"]? = some "true") "path style differs"
  httpUri jdk (properties["uri"]?.getD "") "catalog URI"
  httpUri jdk (properties["s3.endpoint"]?.getD "") "S3 endpoint"
  properties.toList.forM (validateProperty jdk "catalog"
    ["credential", "secret", "access-key", "token"] "catalog properties contain credential material")
  match catalog.authentication with
  | .anonymous => return ()
  | .oAuth2ClientCredentials oauth2ServerUri scope =>
    httpUri jdk oauth2ServerUri "OAuth server URI"
    boundedText scope "OAuth scope"

/-- The location lies below the root of the fixture's bucket. -/
def locationInBucket (bucket : String) (location : JavaUri) : Bool :=
  location.scheme = some "s3" && location.host = some bucket && location.rawUserInfo.isNone &&
    location.rawQuery.isNone && location.rawFragment.isNone &&
    location.rawPath.any fun path => path ≠ "/"

def validateFixture (jdk : Jdk) (fixture : FixtureTarget) : Except ProgramViolation Unit := do
  identifier fixture.namespace "fixture namespace"
  identifier fixture.table "fixture table"
  identifier fixture.bucket "fixture bucket"
  match fixture.requestedLocation with
  | none => return ()
  | some requestedLocation =>
    boundedText requestedLocation "requested location"
    match jdk.parseUri requestedLocation with
    | none => throw ⟨"requested location is invalid"⟩
    | some location =>
      require (locationInBucket fixture.bucket location) "requested location leaves the fixture bucket"

/-- The loop over the initial schema, with the names it has seen. -/
def validateFields : List IcebergField → List ℤ → List String →
    Except ProgramViolation (List String)
  | [], _, names => .ok names
  | field :: fields, ids, names => do
    require (field.id > 0 && !ids.contains field.id) "field ID is invalid or duplicated"
    identifier field.name "field name"
    require (!names.contains field.name) "field name is duplicated"
    validateFields fields (field.id :: ids) (field.name :: names)

def validateObservation (jdk : Jdk) (observation : ObservationPolicy) :
    Except ProgramViolation Unit := do
  require (observation.formatVersion = 2) "format version differs"
  require (!observation.initialSchema.isEmpty) "initial schema is empty"
  let names ← validateFields observation.initialSchema [] []
  identifier observation.evolvedField.name "evolved field name"
  require (!names.contains observation.evolvedField.name) "evolved field already exists"
  observation.properties.toList.forM (validateProperty jdk "observation"
    ["credential", "secret", "token"] "observation policy contains credential material")

/-- The loop over the columns of an oracle. -/
def validateColumns : List String → List String → Except ProgramViolation Unit
  | [], _ => .ok ()
  | column :: columns, unique => do
    identifier column "read column"
    require (!unique.contains column) "read column is duplicated"
    validateColumns columns (column :: unique)

def validateOracle (oracle : ReadOracle) (expectedColumns : List String) :
    Except ProgramViolation Unit := do
  require (oracle.rows > 0 && oracle.rows ≤ maxReadRows)
    "read oracle row count is outside the closed bound"
  require (oracle.bytes > 0 && oracle.bytes ≤ maxReadBytes)
    "read oracle byte count is outside the closed bound"
  require (matchesSha256 oracle.sha256) "read oracle SHA-256 is invalid"
  require (!oracle.columns.isEmpty) "read oracle columns are empty"
  validateColumns oracle.columns []
  require (oracle.columns = expectedColumns) "read oracle columns differ from observation schema"

def sqlPrefixes : List String :=
  ["CREATE DATABASE IF NOT EXISTS ", "CREATE TABLE ", "INSERT INTO ", "SELECT ", "ALTER TABLE ",
    "INSERT INTO ", "SELECT ", "SELECT * FROM "]

def validateOperation (operationClass : OperationClass) (operation : Operation) :
    Except ProgramViolation Unit := do
  require (operation.getClass = operationClass) "operation order differs"
  boundedText operation.sql "operation SQL"
  require (operation.sql.toList.all fun c => !isIsoControl c)
    "operation SQL contains a control character"

def validateSqlShapes (operations : List Operation) : Except ProgramViolation Unit := do
  (operations.zip sqlPrefixes).forM fun entry =>
    require (startsWith entry.1.sql entry.2) "operation SQL does not match its tagged effect"
  require (operations[4]?.any fun operation => containsText operation.sql " ADD ")
    "schema operation is not additive"

def validate (jdk : Jdk) (program : Program) : Except ProgramViolation Unit := do
  require (program.parallelism = 1) "parallelism must be exactly one"
  validateCatalog jdk program.catalog
  validateFixture jdk program.fixture
  validateObservation jdk program.observation
  let operations := program.operations
  require (operations.length = operationOrder.length) "operation count differs"
  (operationOrder.zip operations).forM fun entry => validateOperation entry.1 entry.2
  validateSqlShapes operations
  let initialColumns := program.observation.initialSchema.map IcebergField.name
  let evolvedColumns := initialColumns ++ [program.observation.evolvedField.name]
  let some initialOracle := operations[3]?.bind Operation.oracle
    | throw ⟨"program does not match the closed envelope"⟩
  validateOracle initialOracle initialColumns
  let some evolvedOracle := operations[6]?.bind Operation.oracle
    | throw ⟨"program does not match the closed envelope"⟩
  validateOracle evolvedOracle evolvedColumns

-- ════════════════════════════════
-- What each check admits
-- ════════════════════════════════

/-- A text the codec's bound admits. -/
def Bounded (value : String) : Prop := value ≠ "" ∧ javaLength value ≤ maxTextChars

instance (value : String) : Decidable (Bounded value) := inferInstanceAs (Decidable (_ ∧ _))

/-- A text of some bound in the identifier vocabulary. -/
def BoundedIdentifier (value : String) : Prop := Bounded value ∧ validIdentifier value = true

instance (value : String) : Decidable (BoundedIdentifier value) :=
  inferInstanceAs (Decidable (_ ∧ _))

def credentialFreeUri (uri : JavaUri) : Bool :=
  (uri.scheme = some "http" || uri.scheme = some "https") && uri.host.isSome &&
    uri.rawUserInfo.isNone && uri.rawQuery.isNone && uri.rawFragment.isNone

/-- A bounded text that parses to a credential-free URI. -/
def HttpUri (jdk : Jdk) (value : String) : Prop :=
  Bounded value ∧ (jdk.parseUri value).any credentialFreeUri = true

instance (jdk : Jdk) (value : String) : Decidable (HttpUri jdk value) :=
  inferInstanceAs (Decidable (_ ∧ _))

/-- A property whose key holds none of the banned words. -/
def PropertyAdmitted (jdk : Jdk) (banned : List String) (entry : String × String) : Prop :=
  Bounded entry.1 ∧ Bounded entry.2 ∧
    ∀ word ∈ banned, containsText (jdk.toLowerCase entry.1) word = false

instance (jdk : Jdk) (banned : List String) (entry : String × String) :
    Decidable (PropertyAdmitted jdk banned entry) := inferInstanceAs (Decidable (_ ∧ _ ∧ _))

/-- The URI and the scope of a client that authenticates. -/
def AuthenticationAdmitted (jdk : Jdk) : EngineCatalogAuthentication → Prop
  | .anonymous => True
  | .oAuth2ClientCredentials oauth2ServerUri scope => HttpUri jdk oauth2ServerUri ∧ Bounded scope

instance (jdk : Jdk) : (authentication : EngineCatalogAuthentication) →
    Decidable (AuthenticationAdmitted jdk authentication)
  | .anonymous => inferInstanceAs (Decidable True)
  | .oAuth2ClientCredentials _ _ => inferInstanceAs (Decidable (_ ∧ _))

/-- A bounded location below the root of the bucket. -/
def LocationAdmitted (jdk : Jdk) (bucket location : String) : Prop :=
  Bounded location ∧ (jdk.parseUri location).any (locationInBucket bucket) = true

instance (jdk : Jdk) (bucket location : String) : Decidable (LocationAdmitted jdk bucket location) :=
  inferInstanceAs (Decidable (_ ∧ _))

/-- A text without ISO control characters. -/
def ControlFree (text : String) : Prop := ∀ c ∈ text.toList, isIsoControl c = false

instance (text : String) : Decidable (ControlFree text) :=
  List.decidableBAll (fun c => isIsoControl c = false) text.toList

section Checks

variable {jdk : Jdk}

theorem require_eq_ok {condition : Bool} {message : String} :
    require condition message = .ok () ↔ condition = true := by
  cases condition <;> simp [require]

theorem boundedText_eq_ok {value label : String} :
    boundedText value label = .ok () ↔ Bounded value := by
  simp [boundedText, require_eq_ok, Bounded]

theorem identifier_eq_ok {value label : String} :
    identifier value label = .ok () ↔ BoundedIdentifier value := by
  simp only [identifier, except_seq_eq_ok, boundedText_eq_ok, require_eq_ok, BoundedIdentifier]

theorem httpUri_eq_ok {value label : String} :
    httpUri jdk value label = .ok () ↔ HttpUri jdk value := by
  rw [httpUri, except_seq_eq_ok, boundedText_eq_ok, HttpUri]
  refine and_congr_right fun _ => ?_
  cases jdk.parseUri value with
  | none => simp [throw, throwThe, MonadExceptOf.throw]
  | some uri => simp only [require_eq_ok, Option.any_some, credentialFreeUri]

theorem validateProperty_eq_ok {kind message : String} {banned : List String}
    {entry : String × String} :
    validateProperty jdk kind banned message entry = .ok () ↔ PropertyAdmitted jdk banned entry := by
  simp [validateProperty, except_seq_eq_ok, boundedText_eq_ok, require_eq_ok, PropertyAdmitted]

theorem validateFixture_eq_ok {fixture : FixtureTarget} :
    validateFixture jdk fixture = .ok () ↔ BoundedIdentifier fixture.namespace ∧
      BoundedIdentifier fixture.table ∧ BoundedIdentifier fixture.bucket ∧
      ∀ location ∈ fixture.requestedLocation, LocationAdmitted jdk fixture.bucket location := by
  simp only [validateFixture, except_seq_eq_ok, identifier_eq_ok]
  refine and_congr_right fun _ => and_congr_right fun _ => and_congr_right fun _ => ?_
  cases fixture.requestedLocation with
  | none => simp [Pure.pure, Except.pure]
  | some location =>
    simp only [except_seq_eq_ok, boundedText_eq_ok, Option.mem_some_iff, forall_eq',
      LocationAdmitted]
    refine and_congr_right fun _ => ?_
    cases jdk.parseUri location with
    | none => simp [throw, throwThe, MonadExceptOf.throw]
    | some uri => simp only [require_eq_ok, Option.any_some]

/-- The loop admits fields with positive, distinct IDs and distinct bounded names, none of them
seen before. -/
theorem validateFields_eq_ok {fields : List IcebergField} {ids : List ℤ} {names out : List String} :
    validateFields fields ids names = .ok out ↔
      ((∀ field ∈ fields, 0 < field.id ∧ field.id ∉ ids ∧ BoundedIdentifier field.name ∧
          field.name ∉ names) ∧
        (fields.map IcebergField.id).Nodup ∧ (fields.map IcebergField.name).Nodup) ∧
        out = (fields.map IcebergField.name).reverse ++ names := by
  induction fields generalizing ids names with
  | nil => simp [validateFields, eq_comm]
  | cons field fields ih =>
    simp only [validateFields, except_seq_eq_ok, identifier_eq_ok, require_eq_ok, ih]
    simp only [Bool.and_eq_true, Bool.not_eq_true', List.contains_eq_mem, decide_eq_true_eq,
      decide_eq_false_iff_not, List.mem_cons, not_or, List.map_cons, List.nodup_cons, List.mem_map,
      List.reverse_cons, List.append_assoc, List.singleton_append]
    grind

theorem validateObservation_eq_ok {observation : ObservationPolicy} :
    validateObservation jdk observation = .ok () ↔
      observation.formatVersion = 2 ∧ observation.initialSchema ≠ [] ∧
      (∀ field ∈ observation.initialSchema, 0 < field.id ∧ BoundedIdentifier field.name) ∧
      (observation.initialSchema.map IcebergField.id).Nodup ∧
      (observation.initialSchema.map IcebergField.name).Nodup ∧
      BoundedIdentifier observation.evolvedField.name ∧
      observation.evolvedField.name ∉ observation.initialSchema.map IcebergField.name ∧
      ∀ entry ∈ observation.properties.toList,
        PropertyAdmitted jdk ["credential", "secret", "token"] entry := by
  simp only [validateObservation, except_seq_eq_ok, require_eq_ok, decide_eq_true_eq,
    Bool.not_eq_true', List.isEmpty_eq_false_iff]
  refine and_congr_right fun _ => and_congr_right fun _ => ?_
  constructor
  · intro h
    obtain ⟨names, hfields, h⟩ := except_bind_eq_ok.mp h
    obtain ⟨⟨hall, hids, hnames⟩, rfl⟩ := validateFields_eq_ok.mp hfields
    simp only [except_seq_eq_ok, identifier_eq_ok, require_eq_ok, except_forM_eq_ok,
      validateProperty_eq_ok] at h
    obtain ⟨hevolved, hnew, hproperties⟩ := h
    exact ⟨fun field hmem => ⟨(hall field hmem).1, (hall field hmem).2.2.1⟩, hids, hnames, hevolved,
      by simpa using hnew, hproperties⟩
  · rintro ⟨hall, hids, hnames, hevolved, hnew, hproperties⟩
    have hfields := validateFields_eq_ok.mpr ⟨⟨fun field hmem => ⟨(hall field hmem).1,
      List.not_mem_nil, (hall field hmem).2, List.not_mem_nil⟩, hids, hnames⟩, rfl⟩
    refine except_bind_eq_ok.mpr ⟨_, hfields, ?_⟩
    simp only [except_seq_eq_ok, identifier_eq_ok, require_eq_ok, except_forM_eq_ok,
      validateProperty_eq_ok]
    exact ⟨hevolved, by simpa using hnew, hproperties⟩

/-- The loop admits distinct bounded identifiers, none of them seen before. -/
theorem validateColumns_eq_ok {columns unique : List String} :
    validateColumns columns unique = .ok () ↔
      (∀ column ∈ columns, BoundedIdentifier column ∧ column ∉ unique) ∧ columns.Nodup := by
  induction columns generalizing unique with
  | nil => simp [validateColumns]
  | cons column columns ih =>
    simp only [validateColumns, except_seq_eq_ok, identifier_eq_ok, require_eq_ok, ih]
    simp only [Bool.not_eq_true', List.contains_eq_mem, decide_eq_false_iff_not, List.mem_cons,
      not_or, List.nodup_cons]
    grind

/-- What the codec demands of the oracle of a read. -/
def OracleAdmitted (oracle : ReadOracle) (expectedColumns : List String) : Prop :=
  (0 < oracle.rows ∧ oracle.rows ≤ maxReadRows) ∧ (0 < oracle.bytes ∧ oracle.bytes ≤ maxReadBytes) ∧
    matchesSha256 oracle.sha256 = true ∧ oracle.columns ≠ [] ∧
    (∀ column ∈ oracle.columns, BoundedIdentifier column) ∧ oracle.columns.Nodup ∧
    oracle.columns = expectedColumns

theorem validateOracle_eq_ok {oracle : ReadOracle} {expectedColumns : List String} :
    validateOracle oracle expectedColumns = .ok () ↔ OracleAdmitted oracle expectedColumns := by
  simp [validateOracle, except_seq_eq_ok, require_eq_ok, validateColumns_eq_ok, OracleAdmitted,
    and_assoc]

/-- What the codec demands of a catalog. -/
structure CatalogAdmitted (jdk : Jdk) (catalog : CatalogSetup) : Prop where
  name : BoundedIdentifier catalog.name
  complete : ∀ key ∈ requiredCatalogProperties, key ∈ catalog.properties
  closed : ∀ key ∈ catalog.properties,
    key ∈ requiredCatalogProperties ++ optionalCatalogProperties
  type : catalog.properties["type"]? = some "iceberg"
  catalogType : catalog.properties["catalog-type"]? = some "rest"
  fileIo : catalog.properties["io-impl"]? = some "org.apache.iceberg.aws.s3.S3FileIO"
  pathStyle : catalog.properties["s3.path-style-access"]? = some "true"
  uri : HttpUri jdk (catalog.properties["uri"]?.getD "")
  endpoint : HttpUri jdk (catalog.properties["s3.endpoint"]?.getD "")
  properties : ∀ entry ∈ catalog.properties.toList,
    PropertyAdmitted jdk ["credential", "secret", "access-key", "token"] entry
  authentication : AuthenticationAdmitted jdk catalog.authentication

theorem validateCatalog_eq_ok {catalog : CatalogSetup} :
    validateCatalog jdk catalog = .ok () ↔ CatalogAdmitted jdk catalog := by
  have hauthentication : (match catalog.authentication with
      | .anonymous => (return () : Except ProgramViolation Unit)
      | .oAuth2ClientCredentials oauth2ServerUri scope => do
        httpUri jdk oauth2ServerUri "OAuth server URI"
        boundedText scope "OAuth scope") = .ok () ↔
      AuthenticationAdmitted jdk catalog.authentication := by
    cases catalog.authentication with
    | anonymous => simp [AuthenticationAdmitted, Pure.pure, Except.pure]
    | oAuth2ClientCredentials oauth2ServerUri scope =>
      simp only [except_seq_eq_ok, httpUri_eq_ok, boundedText_eq_ok, AuthenticationAdmitted]
  simp only [validateCatalog, except_seq_eq_ok, identifier_eq_ok, require_eq_ok, httpUri_eq_ok,
    except_forM_eq_ok, validateProperty_eq_ok, List.all_eq_true, List.contains_eq_mem,
    decide_eq_true_eq, Std.ExtTreeMap.mem_keys, Std.ExtTreeMap.contains_iff_mem]
  constructor
  · rintro ⟨h₁, h₂, h₃, h₄, h₅, h₆, h₇, h₈, h₉, h₁₀, h₁₁⟩
    exact ⟨h₁, h₂, h₃, h₄, h₅, h₆, h₇, h₈, h₉, h₁₀, hauthentication.mp h₁₁⟩
  · rintro ⟨h₁, h₂, h₃, h₄, h₅, h₆, h₇, h₈, h₉, h₁₀, h₁₁⟩
    exact ⟨h₁, h₂, h₃, h₄, h₅, h₆, h₇, h₈, h₉, h₁₀, hauthentication.mpr h₁₁⟩

theorem validateOperation_eq_ok {operationClass : OperationClass} {operation : Operation} :
    validateOperation operationClass operation = .ok () ↔ operation.getClass = operationClass ∧
      Bounded operation.sql ∧ ControlFree operation.sql := by
  simp [validateOperation, except_seq_eq_ok, boundedText_eq_ok, require_eq_ok, ControlFree]

theorem validateSqlShapes_eq_ok {operations : List Operation} :
    validateSqlShapes operations = .ok () ↔
      (∀ entry ∈ operations.zip sqlPrefixes, startsWith entry.1.sql entry.2 = true) ∧
      (operations[4]?.any fun operation => containsText operation.sql " ADD ") = true := by
  simp only [validateSqlShapes, except_seq_eq_ok, except_forM_eq_ok, require_eq_ok]

theorem validate_eq_ok {program : Program} :
    validate jdk program = .ok () ↔ program.parallelism = 1 ∧ CatalogAdmitted jdk program.catalog ∧
      validateFixture jdk program.fixture = .ok () ∧
      validateObservation jdk program.observation = .ok () ∧
      program.operations.length = operationOrder.length ∧
      (∀ entry ∈ operationOrder.zip program.operations,
        validateOperation entry.1 entry.2 = .ok ()) ∧
      validateSqlShapes program.operations = .ok () ∧
      (∃ oracle ∈ program.operations[3]?.bind Operation.oracle,
        OracleAdmitted oracle (program.observation.initialSchema.map IcebergField.name)) ∧
      ∃ oracle ∈ program.operations[6]?.bind Operation.oracle,
        OracleAdmitted oracle (program.observation.initialSchema.map IcebergField.name ++
          [program.observation.evolvedField.name]) := by
  simp only [validate, except_seq_eq_ok, require_eq_ok, validateCatalog_eq_ok, except_forM_eq_ok,
    decide_eq_true_eq]
  refine and_congr_right fun _ => and_congr_right fun _ => and_congr_right fun _ =>
    and_congr_right fun _ => and_congr_right fun _ => and_congr_right fun _ =>
    and_congr_right fun _ => ?_
  cases program.operations[3]?.bind Operation.oracle with
  | none => simp [throw, throwThe, MonadExceptOf.throw]
  | some initial =>
    simp only [except_seq_eq_ok, validateOracle_eq_ok, Option.mem_some_iff, exists_eq_left']
    refine and_congr_right fun _ => ?_
    cases program.operations[6]?.bind Operation.oracle with
    | none => simp [throw, throwThe, MonadExceptOf.throw]
    | some evolved => simp only [validateOracle_eq_ok, Option.mem_some_iff, exists_eq_left']

end Checks

end CatalogBench.Flink
