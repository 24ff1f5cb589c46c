import CatalogBench.Contract.Value

/-!
# Profiles

A profile pins the components of an environment, the services they run and how each catalog is
reached: its adapter. What a runnable profile holds is what the runners and the publisher read.
-/

set_option linter.all false

namespace CatalogBench.Contract

-- ════════════════════════════════
-- Adapters
-- ════════════════════════════════

structure CatalogCapability where
  id : CapabilityId
  description : String
  specification : Option String
  deriving DecidableEq

def CatalogCapability.collectIssues (capability : CatalogCapability) (path : String) :
    List ValidationIssue :=
  requireNonEmpty capability.id (childPath path "id") ++
    requireNonEmpty capability.description (childPath path "description") ++
    (whenSome capability.specification fun specification =>
      requireNonEmpty specification (childPath path "specification"))

inductive CatalogProtocol
  | icebergRestV1
  deriving DecidableEq

structure CatalogConfigRequest where
  path : String
  query : StringMap String

inductive CatalogRoutePrefix
  | unprefixed
  | static (value : String)
  | negotiated (configJsonPointer : String)
  deriving DecidableEq

structure CatalogEndpoint where
  baseUrl : String
  config : CatalogConfigRequest
  routePrefix : CatalogRoutePrefix
  createTableLocation : Option String

inductive CatalogAuthentication
  | anonymous
  | oauth2ClientCredentials (tokenPath scope clientIdEnv clientSecretEnv : String)
  deriving DecidableEq

inductive AdapterRequestHandling
  | protocolNative
  | behaviorChangingShim (component : ComponentId) (description : String)
  deriving DecidableEq

def AdapterRequestHandling.shimComponent : AdapterRequestHandling → Option ComponentId
  | protocolNative => none
  | behaviorChangingShim component _ => some component

inductive CapabilityLimitationSource
  | catalog | adapter
  deriving DecidableEq

structure UnsupportedAdapterCapability where
  capability : CapabilityId
  attributedTo : CapabilityLimitationSource
  explanation : String
  upstreamReference : Option String
  deriving DecidableEq

inductive AdapterCapabilityCoverage
  | exerciseAll
  | explicit (exercise : List CapabilityId) (unsupported : List UnsupportedAdapterCapability)
  deriving DecidableEq

def AdapterCapabilityCoverage.exercises (coverage : AdapterCapabilityCoverage)
    (capability : CapabilityId) : Bool :=
  match coverage with
  | exerciseAll => true
  | explicit exercise _ => exercise.contains capability

/-- The declared limitation of a capability. -/
def AdapterCapabilityCoverage.limitation (coverage : AdapterCapabilityCoverage)
    (capability : CapabilityId) : Option UnsupportedAdapterCapability :=
  match coverage with
  | exerciseAll => none
  | explicit _ unsupported => unsupported.find? fun limitation => limitation.capability = capability

/-- One catalog's complete, profile-pinned harness binding. -/
structure CatalogAdapter where
  catalog : ComponentId
  protocol : CatalogProtocol
  endpoint : CatalogEndpoint
  authentication : CatalogAuthentication
  requestHandling : AdapterRequestHandling
  capabilities : AdapterCapabilityCoverage
  extensions : StringMap Json

def validateCapabilityCoverage (coverage : AdapterCapabilityCoverage) (path : String) :
    List ValidationIssue :=
  match coverage with
  | .exerciseAll => []
  | .explicit exercise unsupported =>
    requireUnique exercise (childPath path "exercise") ++
      requireUnique (unsupported.map (·.capability)) (childPath path "unsupported") ++
      (eachIndexed (childPath path "unsupported") unsupported fun _ limitationPath limitation =>
        requireNonEmpty limitation.capability (childPath limitationPath "capability") ++
          requireNonEmpty limitation.explanation (childPath limitationPath "explanation") ++
          (whenSome limitation.upstreamReference fun reference =>
            requireNonEmpty reference (childPath limitationPath "upstream_reference")) ++
          issueWhen (exercise.contains limitation.capability)
            (childPath limitationPath "capability")
            ("capability `" ++ limitation.capability ++
              "` cannot be both exercised and unsupported"))

def validateRoutePrefix (routePrefix : CatalogRoutePrefix) (path : String) :
    List ValidationIssue :=
  match routePrefix with
  | .unprefixed => []
  | .static value =>
    requireNonEmpty value (childPath path "value") ++
      issueWhen (value.toList.any fun c => isWhiteSpace c || "/?#".toList.contains c)
        (childPath path "value") "must be one unescaped path segment"
  | .negotiated configJsonPointer =>
    requireNonEmpty configJsonPointer (childPath path "config_json_pointer") ++
      issueWhen
        (!(["/defaults/prefix", "/overrides/prefix"].contains configJsonPointer))
        (childPath path "config_json_pointer")
        "must resolve the standard `prefix` property from config defaults or overrides"

def validateRelativePath (value path : String) : List ValidationIssue :=
  requireNonEmpty value path ++
    issueWhen
      (value.toList.head? ≠ some '/' || value.toList.any fun c =>
        c = '?' || c = '#' || isWhiteSpace c)
      path "must be an absolute, query-free path relative to the adapter base URL"

/-- A URL without credentials, query or fragment. -/
def isPlain (url : Url) : Bool :=
  url.hostStr.isSome && url.username.isEmpty && url.password.isNone && url.query.isNone &&
    url.fragment.isNone

def validateHttpBaseUrl (crates : Crates) (value path : String) : List ValidationIssue :=
  match crates.parseUrl value with
  | .ok url =>
    issueWhen
      (!((url.scheme = "http" || url.scheme = "https") && isPlain url &&
        value.toList.getLast? ≠ some '/'))
      path
      "must be an absolute HTTP(S) base URL without credentials, query, fragment, or trailing slash"
  | .error error => [⟨path, "must be a valid absolute URL: " ++ error⟩]

def validateWarehouseUri (crates : Crates) (value path : String) : List ValidationIssue :=
  match crates.parseUrl value with
  | .ok url =>
    issueWhen (!isPlain url) path
      "must be an absolute warehouse URI without credentials, query, or fragment"
  | .error error => [⟨path, "must be a valid absolute warehouse URI: " ++ error⟩]

def validateEnvironmentVariable (value path : String) : List ValidationIssue :=
  let valid := match value.toList with
    | [] => false
    | first :: rest =>
      (first = '_' || first.isAlpha) && rest.all fun c => c = '_' || c.isAlphanum
  requireNonEmpty value path ++
    issueWhen (!valid) path "must be a portable environment-variable name"

def validateAuthentication (authentication : CatalogAuthentication) (path : String) :
    List ValidationIssue :=
  match authentication with
  | .anonymous => []
  | .oauth2ClientCredentials tokenPath scope clientIdEnv clientSecretEnv =>
    validateRelativePath tokenPath (childPath path "authentication.token_path") ++
      requireNonEmpty scope (childPath path "authentication.scope") ++
      validateEnvironmentVariable clientIdEnv (childPath path "authentication.client_id_env") ++
      validateEnvironmentVariable clientSecretEnv
        (childPath path "authentication.client_secret_env") ++
      issueWhen (clientIdEnv = clientSecretEnv) (childPath path "authentication.client_secret_env")
        "must differ from the client-id environment variable"

def CatalogAdapter.collectIssues (crates : Crates) (adapter : CatalogAdapter) (path : String) :
    List ValidationIssue :=
  requireNonEmpty adapter.catalog (childPath path "catalog") ++
    validateHttpBaseUrl crates adapter.endpoint.baseUrl (childPath path "endpoint.base_url") ++
    validateRelativePath adapter.endpoint.config.path (childPath path "endpoint.config.path") ++
    issueWhen (adapter.endpoint.config.path ≠ "/v1/config")
      (childPath path "endpoint.config.path")
      "Iceberg REST v1 config must use `/v1/config` relative to the base URL" ++
    (adapter.endpoint.config.query.toList.flatMap fun (key, value) =>
      requireNonEmpty key (childPath path "endpoint.config.query") ++
        requireNonEmpty value (childPath path "endpoint.config.query")) ++
    rejectSecretLikeKeys adapter.endpoint.config.query.keys
      (childPath path "endpoint.config.query") ++
    validateRoutePrefix adapter.endpoint.routePrefix (childPath path "endpoint.route_prefix") ++
    (whenSome adapter.endpoint.createTableLocation fun location =>
      validateWarehouseUri crates location (childPath path "endpoint.create_table_location")) ++
    validateAuthentication adapter.authentication path ++
    (match adapter.requestHandling with
      | .protocolNative => []
      | .behaviorChangingShim component description =>
        requireNonEmpty component (childPath path "request_handling.component") ++
          requireNonEmpty description (childPath path "request_handling.description")) ++
    validateCapabilityCoverage adapter.capabilities (childPath path "capabilities")

-- ════════════════════════════════
-- Profiles
-- ════════════════════════════════

inductive ProfilePurpose
  | historicalReproduction | currentCandidate | conformance | performance | faultInjection
  deriving DecidableEq

/-- Whether all artifacts needed to execute the profile have immutable identities. -/
inductive ProfileReadiness
  | runnable
  | draft (unresolvedArtifacts : List ComponentId) (explanation : String)
  deriving DecidableEq

inductive ExecutionMode
  | dockerCompose | kubernetes | hostProcesses | mixed
  deriving DecidableEq

structure ExecutionPlatform where
  operatingSystem : String
  architecture : String
  mode : ExecutionMode
  containerRuntime : Option ComponentId
  network : String
  sharedObjectStore : ComponentId
  warehouseUri : String
  extensions : StringMap Json

structure ServiceBinding where
  component : ComponentId
  role : String
  endpoint : Option String
  privateState : Option ComponentId
  settings : StringMap Json
  extensions : StringMap Json

/-- A version-pinned environment recipe. The contract version and the document kind have one
value each. -/
structure Profile where
  id : ProfileId
  title : String
  description : String
  resolvedAt : String
  purpose : ProfilePurpose
  readiness : ProfileReadiness
  platform : ExecutionPlatform
  components : List Component
  services : List ServiceBinding
  catalogCapabilities : List CatalogCapability
  catalogAdapters : List CatalogAdapter
  extensions : StringMap Json

def validateComponentReference (component : ComponentId) (available : List ComponentId)
    (path : String) : List ValidationIssue :=
  requireNonEmpty component path ++
    issueWhen (!available.contains component) path
      ("references unknown component `" ++ component ++ "`")

/-- The components whose artifact has no immutable identity yet. -/
def unresolvedComponents (components : List Component) : List ComponentId :=
  (components.filter fun component =>
    match component.artifact with
    | .sourceBuild executable => executable.isNone
    | .package _ _ _ digest => digest.isNone
    | .containerImage .. => false).map (·.id)

def validateReadiness (readiness : ProfileReadiness) (components : List Component)
    (path : String) : List ValidationIssue :=
  let unresolved := unresolvedComponents components
  match readiness with
  | .runnable =>
    issueWhen (!unresolved.isEmpty) path
      ("runnable profile has unresolved artifacts: " ++
        ", ".intercalate (difference unresolved []))
  | .draft unresolvedArtifacts explanation =>
    requireNonEmpty explanation (childPath path "explanation") ++
      requireUnique unresolvedArtifacts (childPath path "unresolved_artifacts") ++
      (unresolvedArtifacts.flatMap fun component =>
        validateComponentReference component (components.map (·.id))
          (childPath path "unresolved_artifacts")) ++
      ((difference unresolved unresolvedArtifacts).map fun missing =>
        ⟨childPath path "unresolved_artifacts",
          "must declare unresolved component `" ++ missing ++ "`"⟩) ++
      ((difference unresolvedArtifacts unresolved).map fun resolved =>
        ⟨childPath path "unresolved_artifacts",
          "component `" ++ resolved ++ "` already has an immutable artifact"⟩) ++
      issueWhen unresolved.isEmpty path "draft profile must have at least one unresolved artifact"

def validateAdapterService (profile : Profile) (adapter : CatalogAdapter) (path : String) :
    List ValidationIssue :=
  match profile.services.filter fun service => service.component = adapter.catalog with
  | [service] =>
    issueWhen (service.role ≠ "iceberg-rest-catalog") (childPath path "catalog")
      "catalog adapter service role must be `iceberg-rest-catalog`" ++
    issueWhen (service.endpoint ≠ some adapter.endpoint.baseUrl)
      (childPath path "endpoint.base_url") "must exactly match the catalog service endpoint"
  | matching =>
    [⟨childPath path "catalog", "catalog adapter requires exactly one service binding, found " ++
      toString matching.length⟩]

def validateAdapterShim (profile : Profile) (adapter : CatalogAdapter) (path : String) :
    List ValidationIssue :=
  whenSome adapter.requestHandling.shimComponent fun shim =>
    match profile.components.find? fun component => component.id = shim with
    | some component =>
      issueWhen (component.kind ≠ .connector) (childPath path "request_handling.component")
        ("behavior-changing shim `" ++ shim ++ "` must be a connector component")
    | none =>
      [⟨childPath path "request_handling.component",
        "references unknown shim component `" ++ shim ++ "`"⟩]

def validateAdapterCapabilities (adapter : CatalogAdapter) (defined : List CapabilityId)
    (path : String) : List ValidationIssue :=
  match adapter.capabilities with
  | .exerciseAll => []
  | .explicit exercise unsupported =>
    let declared := exercise ++ unsupported.map (·.capability)
    ((difference defined declared).map fun missing =>
      ⟨childPath path "capabilities", "does not classify capability `" ++ missing ++ "`"⟩) ++
    ((difference declared defined).map fun unknown =>
      ⟨childPath path "capabilities", "classifies undefined capability `" ++ unknown ++ "`"⟩)

def validateCatalogAdapters (crates : Crates) (profile : Profile) (path : String) :
    List ValidationIssue :=
  let catalogComponents :=
    (profile.components.filter fun component => component.kind = .catalog).map (·.id)
  let contractIsPresent := !profile.catalogCapabilities.isEmpty || !profile.catalogAdapters.isEmpty
  if (catalogComponents.isEmpty || profile.purpose = .historicalReproduction) &&
      !contractIsPresent then []
  else
    let capabilitiesPath := childPath path "catalog_capabilities"
    let adaptersPath := childPath path "catalog_adapters"
    let adapterCatalogs := profile.catalogAdapters.map (·.catalog)
    issueWhen profile.catalogCapabilities.isEmpty capabilitiesPath
      "must define at least one capability when catalog adapters are required" ++
    requireUnique (profile.catalogCapabilities.map (·.id)) capabilitiesPath ++
    (eachIndexed capabilitiesPath profile.catalogCapabilities fun _ path capability =>
      capability.collectIssues path) ++
    requireUnique adapterCatalogs adaptersPath ++
    ((difference catalogComponents adapterCatalogs).map fun missing =>
      ⟨adaptersPath, "catalog component `" ++ missing ++ "` has no adapter"⟩) ++
    ((difference adapterCatalogs catalogComponents).map fun extra =>
      ⟨adaptersPath, "adapter references non-catalog component `" ++ extra ++ "`"⟩) ++
    (eachIndexed adaptersPath profile.catalogAdapters fun _ adapterPath adapter =>
      adapter.collectIssues crates adapterPath ++
        validateComponentReference adapter.catalog (profile.components.map (·.id))
          (childPath adapterPath "catalog") ++
        validateAdapterService profile adapter adapterPath ++
        validateAdapterShim profile adapter adapterPath ++
        validateAdapterCapabilities adapter (profile.catalogCapabilities.map (·.id)) adapterPath)

namespace Profile

def collectIssues (crates : Crates) (profile : Profile) (path : String) : List ValidationIssue :=
  let componentIds := profile.components.map (·.id)
  let platformPath := childPath path "platform"
  requireNonEmpty profile.id (childPath path "id") ++
    requireNonEmpty profile.title (childPath path "title") ++
    requireNonEmpty profile.description (childPath path "description") ++
    requireNonEmpty profile.resolvedAt (childPath path "resolved_at") ++
    issueWhen profile.components.isEmpty (childPath path "components")
      "must contain at least one component" ++
    requireUnique componentIds (childPath path "components") ++
    (eachIndexed (childPath path "components") profile.components fun _ path component =>
      component.collectIssues path) ++
    validateReadiness profile.readiness profile.components (childPath path "readiness") ++
    requireNonEmpty profile.platform.operatingSystem
      (childPath platformPath "operating_system") ++
    requireNonEmpty profile.platform.architecture (childPath platformPath "architecture") ++
    requireNonEmpty profile.platform.network (childPath platformPath "network") ++
    requireNonEmpty profile.platform.warehouseUri (childPath platformPath "warehouse_uri") ++
    validateComponentReference profile.platform.sharedObjectStore componentIds
      (childPath platformPath "shared_object_store") ++
    (whenSome profile.platform.containerRuntime fun runtime =>
      validateComponentReference runtime componentIds
        (childPath platformPath "container_runtime")) ++
    (eachIndexed (childPath path "services") profile.services fun _ servicePath service =>
      validateComponentReference service.component componentIds
          (childPath servicePath "component") ++
        requireNonEmpty service.role (childPath servicePath "role") ++
        (whenSome service.endpoint fun endpoint =>
          requireNonEmpty endpoint (childPath servicePath "endpoint")) ++
        (whenSome service.privateState fun state =>
          validateComponentReference state componentIds (childPath servicePath "private_state")) ++
        rejectSecretLikeKeys service.settings.keys (childPath servicePath "settings")) ++
    validateCatalogAdapters crates profile path

/-- The components of an accepted profile have distinct ids. -/
theorem nodup_components {crates : Crates} {profile : Profile} {path : String}
    (h : profile.collectIssues crates path = []) : (profile.components.map (·.id)).Nodup := by
  simp only [collectIssues, List.append_eq_nil_iff, requireUnique_eq_nil, and_assoc] at h
  obtain ⟨-, -, -, -, -, hnodup, -⟩ := h
  exact hnodup

/-- The catalogs of an accepted profile have distinct ids. -/
theorem nodup_catalogAdapters {crates : Crates} {profile : Profile} {path : String}
    (h : profile.collectIssues crates path = []) :
    (profile.catalogAdapters.map (·.catalog)).Nodup := by
  have hadapters : validateCatalogAdapters crates profile path = [] := by
    simp only [collectIssues, List.append_eq_nil_iff] at h
    exact h.2
  simp only [validateCatalogAdapters] at hadapters
  split at hadapters
  case isTrue hskip =>
    simp only [Bool.and_eq_true, Bool.not_eq_true', Bool.or_eq_false_iff,
      Bool.not_eq_false', List.isEmpty_iff] at hskip
    simp [hskip.2.2]
  case isFalse hpresent =>
    simp only [List.append_eq_nil_iff, requireUnique_eq_nil, and_assoc] at hadapters
    obtain ⟨-, -, -, hnodup, -⟩ := hadapters
    exact hnodup

/-- Every adapter of an accepted profile is accepted, with the service of its catalog. -/
theorem adapter_accepted {crates : Crates} {profile : Profile} {path : String}
    (h : profile.collectIssues crates path = []) {adapter : CatalogAdapter}
    (hadapter : adapter ∈ profile.catalogAdapters) :
    ∃ adapterPath, adapter.collectIssues crates adapterPath = [] ∧
      validateAdapterService profile adapter adapterPath = [] ∧
      validateAdapterCapabilities adapter (profile.catalogCapabilities.map (·.id)) adapterPath =
        [] := by
  have hadapters : validateCatalogAdapters crates profile path = [] := by
    simp only [collectIssues, List.append_eq_nil_iff] at h
    exact h.2
  simp only [validateCatalogAdapters] at hadapters
  split at hadapters
  case isTrue hskip =>
    simp only [Bool.and_eq_true, Bool.not_eq_true', Bool.or_eq_false_iff,
      Bool.not_eq_false', List.isEmpty_iff] at hskip
    rw [hskip.2.2] at hadapter
    cases hadapter
  case isFalse hpresent =>
    simp only [List.append_eq_nil_iff, and_assoc] at hadapters
    obtain ⟨-, -, -, -, -, -, hissues⟩ := hadapters
    obtain ⟨index, hissues⟩ := eachIndexed_eq_nil hissues hadapter
    simp only [List.append_eq_nil_iff, and_assoc] at hissues
    obtain ⟨haccepted, -, hservice, -, hcapabilities⟩ := hissues
    exact ⟨_, haccepted, hservice, hcapabilities⟩

/-- The endpoint of a service of an accepted profile is not empty. -/
theorem service_endpoint {crates : Crates} {profile : Profile} {path : String}
    (h : profile.collectIssues crates path = []) {service : ServiceBinding}
    (hservice : service ∈ profile.services) {endpoint : String}
    (hendpoint : service.endpoint = some endpoint) : isBlank endpoint = false := by
  simp only [collectIssues, List.append_eq_nil_iff, and_assoc] at h
  obtain ⟨-, -, -, -, -, -, -, -, -, -, -, -, -, -, hservices, -⟩ := h
  obtain ⟨_, hissues⟩ := eachIndexed_eq_nil hservices hservice
  simp only [List.append_eq_nil_iff, hendpoint, whenSome, Option.map_some, Option.getD_some,
    requireNonEmpty_eq_nil] at hissues
  exact hissues.1.1.2

/-- An adapter of an accepted profile declares a capability unsupported exactly if the capability
is one of the profile's and the adapter does not exercise it. -/
theorem limitation_isSome_iff {crates : Crates} {profile : Profile} {path : String}
    (h : profile.collectIssues crates path = []) {adapter : CatalogAdapter}
    (hadapter : adapter ∈ profile.catalogAdapters) (capability : CapabilityId) :
    (adapter.capabilities.limitation capability).isSome = true ↔
      capability ∈ profile.catalogCapabilities.map (·.id) ∧
        adapter.capabilities.exercises capability = false := by
  obtain ⟨adapterPath, haccepted, -, hcapabilities⟩ := adapter_accepted h hadapter
  have hcoverage : validateCapabilityCoverage adapter.capabilities
      (childPath adapterPath "capabilities") = [] := by
    simp only [CatalogAdapter.collectIssues, List.append_eq_nil_iff] at haccepted
    exact haccepted.2
  unfold validateAdapterCapabilities at hcapabilities
  cases hcase : adapter.capabilities with
  | exerciseAll => simp [AdapterCapabilityCoverage.limitation, AdapterCapabilityCoverage.exercises]
  | explicit exercise unsupported =>
    rw [hcase] at hcapabilities hcoverage
    simp only [List.append_eq_nil_iff, List.map_eq_nil_iff, difference_eq_nil] at hcapabilities
    obtain ⟨hexhaustive, hdefined⟩ := hcapabilities
    simp only [validateCapabilityCoverage, List.append_eq_nil_iff] at hcoverage
    have hdisjoint : ∀ limitation ∈ unsupported, limitation.capability ∉ exercise := by
      intro limitation hmem
      obtain ⟨_, hissue⟩ := eachIndexed_eq_nil hcoverage.2 hmem
      simp only [List.append_eq_nil_iff, issueWhen_eq_nil] at hissue
      simpa using hissue.2
    simp only [AdapterCapabilityCoverage.limitation, AdapterCapabilityCoverage.exercises,
      List.find?_isSome, decide_eq_true_eq]
    constructor
    · rintro ⟨limitation, hmem, rfl⟩
      refine ⟨hdefined _ ?_, by simpa using hdisjoint limitation hmem⟩
      exact List.mem_append_right _ (List.mem_map.mpr ⟨limitation, hmem, rfl⟩)
    · rintro ⟨hvocabulary, hidle⟩
      rcases List.mem_append.mp (hexhaustive capability hvocabulary) with hexercised | hdeclared
      · simp [hexercised] at hidle
      · exact List.mem_map.mp hdeclared

end Profile

end CatalogBench.Contract
