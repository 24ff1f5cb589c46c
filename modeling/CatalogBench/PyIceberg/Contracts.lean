import CatalogBench.Engine.Contracts
import CatalogBench.PyIceberg.Client

/-!
# Contracts of the PyIceberg probe

What the probe reads of a profile and a scenario that were loaded and checked, and the assertions
of the scenario.
-/

set_option linter.all false

namespace CatalogBench.PyIceberg

-- ════════════════════════════════
-- The scenario
-- ════════════════════════════════

def expectedAssertions : List AssertionContract := [
  ⟨"client-runtime-pinned", .verifyClientRuntime, true⟩,
  ⟨"catalog-auth-config-ready", .initializeCatalog, true⟩,
  ⟨"fixture-isolated", .preflightFixture, true⟩,
  ⟨"namespace-round-trip", .namespaceRoundTrip, true⟩,
  ⟨"table-round-trip", .tableRoundTrip, true⟩,
  ⟨"append-scan-exact", .appendScan, true⟩,
  ⟨"property-update-round-trip", .updateProperties, false⟩,
  ⟨"schema-evolution-round-trip", .evolveSchema, false⟩,
  ⟨"row-delete-round-trip", .deleteRows, false⟩,
  ⟨"conflict-recovery-round-trip", .recoverConflict, false⟩,
  ⟨"credential-vending-classified", .observeDelegatedAccess, false⟩,
  ⟨"table-rename-round-trip", .renameTable, false⟩,
  ⟨"table-register-round-trip", .registerTable, false⟩,
  ⟨"view-lifecycle-classified", .classifyViews, false⟩,
  ⟨"pagination-classified", .classifyPagination, false⟩,
  ⟨"fixture-clean", .cleanupFixture, true⟩,
  ⟨"transcript-sanitized", .sanitizeTranscript, true⟩]

-- ════════════════════════════════
-- Profiles
-- ════════════════════════════════

structure RuntimeIdentity where
  python : String
  pyiceberg : String
  pyarrow : String
  s3fs : String
  operatingSystem : String
  architecture : String
  deriving DecidableEq

def RuntimeIdentity.asJson (runtime : RuntimeIdentity) : Json :=
  .object [("python", .string runtime.python), ("pyiceberg", .string runtime.pyiceberg),
    ("pyarrow", .string runtime.pyarrow), ("s3fs", .string runtime.s3fs),
    ("operating_system", .string runtime.operatingSystem),
    ("architecture", .string runtime.architecture)]

inductive Authentication
  | anonymous
  | oauth2ClientCredentials (clientIdEnv clientSecretEnv tokenPath scope : String)
  | other (kind : String)
  deriving DecidableEq

def Authentication.kind : Authentication → String
  | anonymous => "anonymous"
  | oauth2ClientCredentials .. => "oauth2-client-credentials"
  | other kind => kind

structure UnsupportedCapability where
  capability : String
  attributedTo : String
  explanation : String
  upstreamReference : Option String
  deriving DecidableEq

inductive CapabilityCoverage
  | exerciseAll
  | explicit («unsupported» : List UnsupportedCapability)
  deriving DecidableEq

structure Adapter where
  baseUrl : String
  /-- `warehouse` of the configuration query. -/
  warehouse : Option String
  createTableLocation : Option String
  authentication : Authentication
  capabilities : CapabilityCoverage
  deriving DecidableEq

structure ObjectStore where
  endpoint : String
  region : String
  accessKeyEnv : String
  secretKeyEnv : String
  deriving DecidableEq

structure KnownLimitation where
  explanation : String
  upstreamReference : String
  deriving DecidableEq

/-- The parameters of the scenario. -/
structure Parameters where
  fixturePrefix : String
  initialRows : ℕ
  evolvedRows : ℕ
  conflictRowsPerWriter : ℕ
  deleteFilter : String
  namespaceProperties : StringMap String
  initialProperties : StringMap String
  propertyUpdates : StringMap String
  propertyRemovals : List String
  objectStore : ObjectStore
  knownClientLimitations : StringMap KnownLimitation

structure ResolvedContracts where
  /-- The id of the catalog component. -/
  catalog : String
  /-- The versions of the components and the platform of the profile. -/
  pinned : RuntimeIdentity
  adapter : Adapter
  parameters : Parameters

namespace ResolvedContracts

def assertions (_ : ResolvedContracts) : List AssertionContract := expectedAssertions

def adapterLimitation (contracts : ResolvedContracts) (capability : String) : Option Limitation :=
  match contracts.adapter.capabilities with
  | .exerciseAll => none
  | .explicit limitations =>
    (limitations.find? fun limitation => limitation.capability = capability).map fun limitation =>
      ⟨limitation.attributedTo, limitation.explanation, limitation.upstreamReference⟩

def knownClientLimitation (contracts : ResolvedContracts) (capability : String) :
    Option Limitation :=
  contracts.parameters.knownClientLimitations[capability]?.map fun limitation =>
    ⟨"client", limitation.explanation, some limitation.upstreamReference⟩

end ResolvedContracts

/-- `^[a-z0-9_]{1,24}$`. -/
def validFixtureId (value : String) : Bool :=
  1 ≤ value.length && value.length ≤ 24 &&
    value.toList.all fun c => c.isLower || c.isDigit || c = '_'

def validateFixtureId (value : String) : Except PyError Unit :=
  if validFixtureId value then .ok () else .error .contractError

-- ════════════════════════════════
-- Catalog properties
-- ════════════════════════════════

def requiredEnvironment (getenv : String → Option String) (name : String) :
    Except PyError String :=
  match getenv name with
  | none => .error .valueError
  | some value => if value = "" then .error .valueError else .ok value

/-- `text.lstrip(c)`. -/
def trimStart (text : String) (c : Char) : String :=
  .ofList (text.toList.dropWhile (· = c))

/-- What the authentication mode adds to the properties, and its secrets. -/
def authenticationProperties (libraries : PyLibraries) (adapter : Adapter)
    (getenv : String → Option String) : Except PyError (List (String × Json) × List String) :=
  match adapter.authentication with
  | .anonymous => .ok ([("auth", .object [("type", .string "noop")])], [])
  | .oauth2ClientCredentials clientIdEnv clientSecretEnv tokenPath scope => do
    let clientId ← requiredEnvironment getenv clientIdEnv
    let clientSecret ← requiredEnvironment getenv clientSecretEnv
    let credential := clientId ++ ":" ++ clientSecret
    return ([("credential", .string credential),
      ("oauth2-server-uri", .string (libraries.urljoin
        (Engine.trimEndMatches adapter.baseUrl '/' ++ "/") (trimStart tokenPath '/'))),
      ("scope", .string scope)], [clientId, clientSecret, credential])
  | .other _ => .error .valueError

/-- The properties of the client, and the values that must not be published. -/
def catalogProperties (libraries : PyLibraries) (contracts : ResolvedContracts)
    (getenv : String → Option String) : Except PyError (StringMap Json × List String) := do
  let adapter := contracts.adapter
  let objectStore := contracts.parameters.objectStore
  let accessKey ← requiredEnvironment getenv objectStore.accessKeyEnv
  let secretKey ← requiredEnvironment getenv objectStore.secretKeyEnv
  let properties := [("uri", Json.string adapter.baseUrl),
    ("s3.endpoint", .string objectStore.endpoint), ("s3.region", .string objectStore.region),
    ("s3.access-key-id", .string accessKey), ("s3.secret-access-key", .string secretKey)]
  let warehouse := match adapter.warehouse with
    | none => []
    | some warehouse => if warehouse = "" then [] else [("warehouse", Json.string warehouse)]
  let (authentication, secrets) ← authenticationProperties libraries adapter getenv
  return (.ofList (properties ++ warehouse ++ authentication) _,
    [accessKey, secretKey] ++ secrets)

end CatalogBench.PyIceberg
