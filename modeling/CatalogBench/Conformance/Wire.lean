import CatalogBench.Crates

/-!
# What the conformance probes read off the wire

The response types of the probes and how `serde` decodes them from a JSON value: a structure is
read from an object, whose unknown fields are ignored, or from an array in field order. A `none`
is a decoding error; its text belongs to the library.
-/

set_option linter.all false

namespace CatalogBench

namespace Json

mutual

def decEq : (a b : Json) → Decidable (a = b)
  | .null, .null => isTrue rfl
  | .bool a, .bool b => decidable_of_iff (a = b) (by simp)
  | .number a, .number b => decidable_of_iff (a = b) (by simp)
  | .string a, .string b => decidable_of_iff (a = b) (by simp)
  | .array a, .array b => @decidable_of_iff _ (a = b) (by simp) (decEqList a b)
  | .object a, .object b => @decidable_of_iff _ (a = b) (by simp) (decEqFields a b)
  | .null, .bool _ | .null, .number _ | .null, .string _ | .null, .array _ | .null, .object _
  | .bool _, .null | .bool _, .number _ | .bool _, .string _ | .bool _, .array _
  | .bool _, .object _ | .number _, .null | .number _, .bool _ | .number _, .string _
  | .number _, .array _ | .number _, .object _ | .string _, .null | .string _, .bool _
  | .string _, .number _ | .string _, .array _ | .string _, .object _ | .array _, .null
  | .array _, .bool _ | .array _, .number _ | .array _, .string _ | .array _, .object _
  | .object _, .null | .object _, .bool _ | .object _, .number _ | .object _, .string _
  | .object _, .array _ => isFalse (by simp)

def decEqList : (a b : List Json) → Decidable (a = b)
  | [], [] => isTrue rfl
  | [], _ :: _ | _ :: _, [] => isFalse (by simp)
  | a :: as, b :: bs =>
    @decidable_of_iff _ (a = b ∧ as = bs) (by simp)
      (@instDecidableAnd _ _ (decEq a b) (decEqList as bs))

def decEqFields : (a b : List (String × Json)) → Decidable (a = b)
  | [], [] => isTrue rfl
  | [], _ :: _ | _ :: _, [] => isFalse (by simp)
  | (key, a) :: as, (key', b) :: bs =>
    @decidable_of_iff _ (key = key' ∧ a = b ∧ as = bs) (by simp [and_assoc])
      (@instDecidableAnd _ _ _ (@instDecidableAnd _ _ (decEq a b) (decEqFields as bs)))

end

instance : DecidableEq Json := decEq

/-- `Value::pointer`, by the tokens of the pointer. The tokens the probes use are no indices. -/
def pointer (value : Json) : List String → Option Json
  | [] => some value
  | token :: tokens => (value.get token).bind (pointer · tokens)

end Json

namespace Conformance

/-- What the probes call outside the repository. -/
structure WebCrates extends Crates where
  /-- `serde_json::from_slice::<Value>`. -/
  parseJson : List UInt8 → Option Json
  /-- The text of the error of `serde_json::from_value` for the named type. -/
  fromValueError : String → Json → String
  /-- `Url::parse` and then `Url::to_string`, or the text of the error. -/
  normalizeUrl : String → Except String String
  /-- `Url::cannot_be_a_base`. -/
  cannotBeABase : String → Bool
  /-- `PathSegmentsMut::pop_if_empty`. -/
  popIfEmpty : String → String
  /-- `PathSegmentsMut::push` of each segment. -/
  pushSegments : String → List String → String
  /-- `query_pairs_mut().append_pair` of each pair. -/
  appendPairs : String → List (String × String) → String
  /-- `form_urlencoded::Serializer` over the pairs. -/
  encodeForm : List (String × String) → String
  /-- `form_urlencoded::parse(..).next()`, its value. -/
  firstFormValue : String → Option String
  /-- `Url::query_pairs`. -/
  queryPairs : Url → List (String × String)
  /-- The text of a URL after `set_username`, `set_password` and `set_fragment`, as the flags
  say, and with its query replaced. -/
  rewriteUrl : Url → Bool → Bool → Option (List (String × String)) → String
  /-- `Debug` of a text. -/
  debugStr : String → String

-- ════════════════════════════════
-- Decoding
-- ════════════════════════════════

/-- A structure of `size` fields can be read from the value. -/
def isStruct (size : ℕ) : Json → Bool
  | .object _ => true
  | .array values => values.length ≤ size
  | _ => false

/-- The field of a structure, by name in an object and by position in an array. -/
def structField (name : String) (position : ℕ) : Json → Option Json
  | .object fields => fields.lookup name
  | .array values => values[position]?
  | _ => none

def decodeString : Json → Option String
  | .string value => some value
  | _ => none

def decodeBool : Json → Option Bool
  | .bool value => some value
  | _ => none

/-- An unsigned integer of the given width. -/
def decodeUnsigned (bits : ℕ) : Json → Option ℕ
  | .number (.posInt n) => if n < 2 ^ bits then some n else none
  | _ => none

def decodeI32 : Json → Option ℤ
  | .number (.posInt n) => if n < 2 ^ 31 then some n else none
  | .number (.negInt n) => if -2 ^ 31 ≤ n then some n else none
  | _ => none

def decodeList {α : Type} (decode : Json → Option α) : Json → Option (List α)
  | .array values => values.mapM decode
  | _ => none

def decodeMap : Json → Option (StringMap String)
  | .object fields =>
    (fields.mapM fun field => (decodeString field.2).map (field.1, ·)).map (.ofList · compare)
  | _ => none

/-- An optional value: `null` is absence. -/
def decodeOption {α : Type} (decode : Json → Option α) : Json → Option (Option α)
  | .null => some none
  | value => (decode value).map some

/-- A field that has a default. -/
def withDefault {α : Type} (default : α) (decode : Json → Option α) : Option Json → Option α
  | none => some default
  | some value => decode value

structure IcebergError where
  message : String
  type : String
  code : ℕ
  deriving DecidableEq

structure IcebergErrorResponse where
  error : IcebergError
  deriving DecidableEq

structure NamespaceResponse where
  «namespace» : List String
  properties : Option (StringMap String)

structure ListNamespacesResponse where
  namespaces : List (List String)
  nextPageToken : Option String
  deriving DecidableEq

structure UpdateNamespacePropertiesResponse where
  updated : List String
  removed : List String
  deriving DecidableEq

structure TableField where
  id : ℤ
  name : String
  required : Bool
  fieldType : Json
  deriving DecidableEq

structure TableSchema where
  type : String
  schemaId : Option ℤ
  fields : List TableField
  deriving DecidableEq

structure TableMetadata where
  formatVersion : ℕ
  tableUuid : String
  location : String
  lastColumnId : Option ℤ
  properties : StringMap String
  schemas : List TableSchema
  currentSchemaId : Option ℤ

structure LoadTableResult where
  metadataLocation : Option String
  metadata : TableMetadata

structure WireTableIdentifier where
  «namespace» : List String
  name : String
  deriving DecidableEq

structure ListTablesResponse where
  nextPageToken : Option String
  identifiers : List WireTableIdentifier
  deriving DecidableEq

def decodeIcebergError (value : Json) : Option IcebergError := do
  guard (isStruct 3 value)
  let message ← (structField "message" 0 value).bind decodeString
  let type ← (structField "type" 1 value).bind decodeString
  let code ← (structField "code" 2 value).bind (decodeUnsigned 16)
  return { message, type, code }

def decodeIcebergErrorResponse (value : Json) : Option IcebergErrorResponse := do
  guard (isStruct 1 value)
  let error ← (structField "error" 0 value).bind decodeIcebergError
  return { error }

/-- The response of the namespace probe, whose properties may be absent or `null`. -/
def decodeNamespaceResponse (value : Json) : Option NamespaceResponse := do
  guard (isStruct 2 value)
  let «namespace» ← (structField "namespace" 0 value).bind (decodeList decodeString)
  let properties ← withDefault none (decodeOption decodeMap) (structField "properties" 1 value)
  return { «namespace», properties }

/-- The response the table and commit probes read: the parts of the namespace only. -/
def decodeNamespaceParts (value : Json) : Option (List String) := do
  guard (isStruct 1 value)
  (structField "namespace" 0 value).bind (decodeList decodeString)

def decodeListNamespacesResponse (value : Json) : Option ListNamespacesResponse := do
  guard (isStruct 2 value)
  let namespaces ← (structField "namespaces" 0 value).bind (decodeList (decodeList decodeString))
  let nextPageToken ←
    withDefault none (decodeOption decodeString) (structField "next-page-token" 1 value)
  return { namespaces, nextPageToken }

def decodeUpdateNamespacePropertiesResponse (value : Json) :
    Option UpdateNamespacePropertiesResponse := do
  guard (isStruct 2 value)
  let updated ← (structField "updated" 0 value).bind (decodeList decodeString)
  let removed ← (structField "removed" 1 value).bind (decodeList decodeString)
  return { updated, removed }

def decodeTableField (value : Json) : Option TableField := do
  guard (isStruct 4 value)
  let id ← (structField "id" 0 value).bind decodeI32
  let name ← (structField "name" 1 value).bind decodeString
  let required ← (structField "required" 2 value).bind decodeBool
  let fieldType ← structField "type" 3 value
  return { id, name, required, fieldType }

def decodeTableSchema (value : Json) : Option TableSchema := do
  guard (isStruct 3 value)
  let type ← (structField "type" 0 value).bind decodeString
  let schemaId ← withDefault none (decodeOption decodeI32) (structField "schema-id" 1 value)
  let fields ← (structField "fields" 2 value).bind (decodeList decodeTableField)
  return { type, schemaId, fields }

def decodeTableMetadata (value : Json) : Option TableMetadata := do
  guard (isStruct 7 value)
  let formatVersion ← (structField "format-version" 0 value).bind (decodeUnsigned 8)
  let tableUuid ← (structField "table-uuid" 1 value).bind decodeString
  let location ← (structField "location" 2 value).bind decodeString
  let lastColumnId ← withDefault none (decodeOption decodeI32) (structField "last-column-id" 3 value)
  let properties ← withDefault ∅ decodeMap (structField "properties" 4 value)
  let schemas ← withDefault [] (decodeList decodeTableSchema) (structField "schemas" 5 value)
  let currentSchemaId ←
    withDefault none (decodeOption decodeI32) (structField "current-schema-id" 6 value)
  return { formatVersion, tableUuid, location, lastColumnId, properties, schemas, currentSchemaId }

/-- A missing optional field of an object is absent; in an array every field is positional. -/
def decodeLoadTableResult (value : Json) : Option LoadTableResult := do
  guard (isStruct 2 value)
  let metadataLocation ←
    withDefault none (decodeOption decodeString) (structField "metadata-location" 0 value)
  let metadata ← (structField "metadata" 1 value).bind decodeTableMetadata
  return { metadataLocation, metadata }

def decodeWireTableIdentifier (value : Json) : Option WireTableIdentifier := do
  guard (isStruct 2 value)
  let «namespace» ← (structField "namespace" 0 value).bind (decodeList decodeString)
  let name ← (structField "name" 1 value).bind decodeString
  return { «namespace», name }

def decodeListTablesResponse (value : Json) : Option ListTablesResponse := do
  guard (isStruct 2 value)
  let nextPageToken ←
    withDefault none (decodeOption decodeString) (structField "next-page-token" 0 value)
  let identifiers ←
    withDefault [] (decodeList decodeWireTableIdentifier) (structField "identifiers" 1 value)
  return { nextPageToken, identifiers }

-- ════════════════════════════════
-- Identifiers
-- ════════════════════════════════

structure NamespaceIdentifier where
  parts : List String
  valid : parts ≠ [] ∧ ∀ part ∈ parts, part ≠ ""
  deriving DecidableEq

def NamespaceIdentifier.fromParts (parts : List String) : Except String NamespaceIdentifier :=
  if h : parts ≠ [] ∧ ∀ part ∈ parts, part ≠ "" then .ok ⟨parts, h⟩
  else .error "namespace identifiers must contain nonempty parts"

structure TableIdentifier where
  «namespace» : NamespaceIdentifier
  name : String
  valid : name ≠ "" ∧ '/' ∉ name.toList
  deriving DecidableEq

def TableIdentifier.new («namespace» : NamespaceIdentifier) (name : String) :
    Except String TableIdentifier :=
  if h : name ≠ "" ∧ '/' ∉ name.toList then .ok ⟨«namespace», name, h⟩
  else .error "table names must be nonempty path-segment values"

-- ════════════════════════════════
-- Texts
-- ════════════════════════════════

/-- `str::trim` leaves nothing. -/
def isBlank (text : String) : Bool := text.toList.all isWhiteSpace

def debugList (items : List String) : String := "[" ++ String.intercalate ", " items ++ "]"

def debugSet (items : List String) : String := "\x7b" ++ String.intercalate ", " items ++ "\x7d"

def debugOption (value : Option String) : String :=
  match value with
  | some text => "Some(" ++ text ++ ")"
  | none => "None"

def debugParts (web : WebCrates) (identifier : NamespaceIdentifier) : String :=
  debugList (identifier.parts.map web.debugStr)

def debugNamespace (web : WebCrates) (identifier : NamespaceIdentifier) : String :=
  "NamespaceIdentifier(" ++ debugParts web identifier ++ ")"

def debugTable (web : WebCrates) (identifier : TableIdentifier) : String :=
  "TableIdentifier \x7b namespace: " ++ debugNamespace web identifier.namespace ++ ", name: " ++
    web.debugStr identifier.name ++ " \x7d"

-- ════════════════════════════════
-- A small instance
-- ════════════════════════════════

mutual

/-- The compact text of a value whose numbers are integers and whose texts have nothing to
escape. -/
def compactText : Json → String
  | .null => "null"
  | .bool value => toString value
  | .number (.posInt n) => toString n
  | .number (.negInt n) => toString n
  | .number (.float value) => toString value.num
  | .string value => "\"" ++ value ++ "\""
  | .array values => "[" ++ String.intercalate "," (compactTexts values) ++ "]"
  | .object fields => "\x7b" ++ String.intercalate "," (compactFields fields) ++ "\x7d"

def compactTexts : List Json → List String
  | [] => []
  | value :: values => compactText value :: compactTexts values

def compactFields : List (String × Json) → List String
  | [] => []
  | (key, value) :: fields => ("\"" ++ key ++ "\":" ++ compactText value) :: compactFields fields

end

/-- The URLs of one catalog, beside those the other samples know. -/
def sampleUrl (text : String) : Except String Url :=
  let origin := "http://catalog:8181"
  if origin.toList.isPrefixOf text.toList then
    let path := (text.toList.drop origin.length).takeWhile fun c => c ≠ '?'
    let query := text.toList.drop (origin.length + path.length)
    .ok ⟨"http", some "catalog", some 8181, "", none,
      if query = [] then none else some (String.ofList query.tail), none,
      if path = [] then "/" else String.ofList path⟩
  else sampleCrates.parseUrl text

def samplePairs (query : String) : List (String × String) :=
  (query.splitOn "&").map fun pair =>
    (String.ofList (pair.toList.takeWhile fun c => c ≠ '='),
      String.ofList ((pair.toList.dropWhile fun c => c ≠ '=').drop 1))

def sampleQuery (pairs : List (String × String)) : String :=
  "?" ++ String.intercalate "&" (pairs.map fun pair => pair.1 ++ "=" ++ pair.2)

/-- The library functions on the inputs of the sample runs: the bodies are the given documents,
written compactly. -/
def sampleWeb (documents : List Json) : WebCrates where
  toCrates := { sampleCrates with parseUrl := sampleUrl }
  parseJson bytes := documents.find? fun document => utf8 (compactText document) = bytes
  fromValueError typeName _ := "invalid type: expected struct " ++ typeName
  normalizeUrl text :=
    (sampleUrl text).map fun url => if url.path = "/" then "http://catalog:8181/" else text
  cannotBeABase _ := false
  popIfEmpty url := url
  pushSegments url segments := url ++ String.intercalate "/" segments
  appendPairs url pairs := url ++ sampleQuery pairs
  encodeForm pairs :=
    String.intercalate "&" (pairs.map fun pair => pair.1 ++ "=" ++ pair.2)
  firstFormValue text := if text = "separator=%1F" then some "\x1f" else none
  queryPairs url := (url.query.map samplePairs).getD []
  rewriteUrl url _ _ query :=
    "http://catalog:8181" ++ url.path ++ (query.map sampleQuery).getD ""
  debugStr text := "\"" ++ text ++ "\""

end Conformance

end CatalogBench
