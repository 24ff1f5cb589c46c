import CatalogBench.Commit.Schedule
import CatalogBench.Engine.SparkAcceptance
import CatalogBench.Library.Ascii
import CatalogBench.Library.ListRel

/-!
# Spark plans of accepted profiles

When the Spark runner accepts the plan that the policy makes of an accepted profile. Everything
that the runner asks of a text was asked of the profile before; that the object store is addressed
by paths was not.
-/

set_option linter.all false

namespace CatalogBench.Engine
open Interaction ListRel CatalogBench.Contract SparkRunner
open CatalogBench.Commit (isFixtureChar asBool)

theorem ne_empty_of_isBlank {text : String} (h : isBlank text = false) : text ≠ "" := by
  rintro rfl
  cases h

theorem isIdentifier_iff {text : String} :
    IsIdentifier text ↔ text ≠ "" ∧ text.toList.all isIdentifierChar = true := by
  rw [IsIdentifier, List.all_eq_true]

instance (text : String) : Decidable (IsIdentifier text) := decidable_of_iff _ isIdentifier_iff.symm

-- ════════════════════════════════
-- The fixture
-- ════════════════════════════════

theorem isIdentifierChar_of_isFixtureChar {c : Char} (h : isFixtureChar c = true) :
    isIdentifierChar c = true := by
  simp only [isFixtureChar, isIdentifierChar, Bool.or_eq_true, decide_eq_true_eq] at *
  rcases h with (hlower | hdigit) | hunderscore
  · exact .inl (Ascii.isAlphanum_iff.mpr (.inl (Ascii.isAlpha_iff.mpr (.inr hlower))))
  · exact .inl (Ascii.isAlphanum_iff.mpr (.inr hdigit))
  · exact .inr hunderscore

/-- A catalog gives a fixture no character that a name cannot have. -/
theorem catalogSlug_chars {catalog : ComponentId} {slug : String}
    (h : catalogSlug catalog = .ok slug) : ∀ c ∈ slug.toList, isFixtureChar c = true := by
  obtain ⟨characters, hcharacters, h⟩ := except_bind_eq_ok.mp h
  cases h
  intro c hc
  rw [String.toList_ofList] at hc
  obtain ⟨char, -, hchar⟩ := forall₂_mem_right (except_mapM_forall₂ hcharacters) hc
  split_ifs at hchar with hkept
  · cases hchar
    rw [isFixtureChar, hkept, Bool.true_or]
  · cases hchar
    rfl

theorem traverseOption_eq_ok {α β : Type} {value : Option α}
    {compute : α → Except Commit.PolicyError β} {found : Option β}
    (h : traverseOption value compute = .ok found) {b : β} (hb : b ∈ found) :
    ∃ a, compute a = .ok b := by
  cases value with
  | none =>
    cases h
    cases hb
  | some a =>
    refine ⟨a, ?_⟩
    cases hcompute : compute a with
    | error => simp [traverseOption, hcompute, Except.map] at h
    | ok b' =>
      simp only [traverseOption, hcompute, Except.map, Except.ok.injEq] at h
      subst h
      cases hb
      rfl

theorem fixture_accepted {crates : EngineCrates} {start : String} {catalog : ComponentId}
    {fixtureId : String} {adapter : CatalogAdapter} {objectStore : ObjectStorePlan}
    {found : Fixture} (hstart : ∀ c ∈ start.toList, isFixtureChar c = true)
    (hpush : ∀ url segments text, crates.pushSegments url segments = some text → text ≠ "")
    (h : Engine.fixture crates start catalog fixtureId adapter objectStore = .ok found) :
    FixtureAccepted found ∧ startsWith found.namespace (start ++ "_") = true := by
  obtain ⟨hid, h⟩ := except_seq_eq_ok.mp h
  obtain ⟨slug, hslug, h⟩ := except_bind_eq_ok.mp h
  obtain ⟨location, hlocation, h⟩ := except_bind_eq_ok.mp h
  cases h
  have hidChars : ∀ c ∈ fixtureId.toList, isFixtureChar c = true := by
    obtain ⟨-, hid⟩ := except_seq_eq_ok.mp hid
    simpa using hid
  have hunderscore : ∀ c ∈ "_".toList, isFixtureChar c = true := List.all_eq_true.mp (by decide)
  have hname : ∀ c ∈ (start ++ "_" ++ slug ++ "_" ++ fixtureId).toList, isFixtureChar c = true := by
    intro c hc
    simp only [String.toList_append, List.mem_append] at hc
    rcases hc with (((hc | hc) | hc) | hc) | hc
    · exact hstart c hc
    · exact hunderscore c hc
    · exact catalogSlug_chars hslug c hc
    · exact hunderscore c hc
    · exact hidChars c hc
  have htable : IsIdentifier fixtureTableName := by decide
  constructor
  · constructor
    · refine ⟨fun hempty => ?_, fun c hc => isIdentifierChar_of_isFixtureChar (hname c hc)⟩
      simpa using congrArg String.toList hempty
    · exact htable
    · intro text htext
      obtain ⟨root, hroot⟩ := traverseOption_eq_ok hlocation htext
      obtain ⟨url, -, hroot⟩ := except_bind_eq_ok.mp hroot
      obtain ⟨-, hroot⟩ := except_seq_eq_ok.mp hroot
      exact hpush _ _ _ (Commit.requireSome_eq_ok.mp hroot)
  · simp [startsWith, String.toList_append]

-- ════════════════════════════════
-- The catalog and the object store
-- ════════════════════════════════

theorem find?_decide_eq_some {α : Type} {items : List α} {p : α → Prop} [DecidablePred p] {item : α}
    (h : (items.find? fun item => decide (p item)) = some item) : item ∈ items ∧ p item :=
  ⟨List.mem_of_find?_eq_some h, by simpa using List.find?_some h⟩

/-- The base URL of an accepted adapter is the endpoint of a service. -/
theorem baseUrl_ne_empty {crates : Crates} {profile : Profile}
    (hprofile : profile.collectIssues crates "$" = []) {adapter : CatalogAdapter}
    (hadapter : adapter ∈ profile.catalogAdapters) : adapter.endpoint.baseUrl ≠ "" := by
  obtain ⟨adapterPath, -, hservice, -⟩ := Profile.adapter_accepted hprofile hadapter
  unfold validateAdapterService at hservice
  split at hservice
  · next service hfilter =>
    have hmem : service ∈ profile.services :=
      List.mem_of_mem_filter (hfilter ▸ List.mem_singleton_self service)
    simp only [List.append_eq_nil_iff, issueWhen_eq_nil, decide_eq_false_iff_not, ne_eq,
      not_not] at hservice
    exact ne_empty_of_isBlank (Profile.service_endpoint hprofile hmem hservice.2)
  · cases hservice

theorem authentication_accepted {crates : EngineCrates} {adapter : CatalogAdapter} {path : String}
    {authentication : EngineCatalogAuthentication} {credentialSource : CatalogCredentialSource}
    (hurl : ∀ url, crates.urlText url ≠ "")
    (hadapter : adapter.collectIssues crates.toCrates path = [])
    (h : Engine.authentication crates adapter = .ok (authentication, credentialSource)) :
    AuthenticationAccepted authentication := by
  unfold Engine.authentication at h
  cases hcase : adapter.authentication with
  | anonymous =>
    rw [hcase] at h
    cases h
    trivial
  | oauth2ClientCredentials tokenPath scope clientIdEnv clientSecretEnv =>
    rw [hcase] at h
    obtain ⟨tokenUrl, htoken, h⟩ := except_bind_eq_ok.mp h
    cases h
    constructor
    · obtain ⟨url, -, htoken⟩ := except_bind_eq_ok.mp htoken
      obtain ⟨-, htoken⟩ := except_seq_eq_ok.mp htoken
      cases htoken
      exact hurl url
    · simp only [CatalogAdapter.collectIssues, hcase, Contract.validateAuthentication,
        List.append_eq_nil_iff, requireNonEmpty_eq_nil, and_assoc] at hadapter
      obtain ⟨-, -, -, -, -, -, -, -, -, hscope, -⟩ := hadapter
      exact ne_empty_of_isBlank hscope

theorem restCatalogPlan_accepted {crates : Crates} {adapter : CatalogAdapter} {path : String}
    {authentication : EngineCatalogAuthentication} {catalog : RestCatalogPlan}
    (huri : adapter.endpoint.baseUrl ≠ "") (hadapter : adapter.collectIssues crates path = [])
    (hauthentication : AuthenticationAccepted authentication)
    (h : restCatalogPlan adapter sparkCatalogName authentication = .ok catalog) :
    CatalogAccepted catalog := by
  obtain ⟨warehouse, hwarehouse, h⟩ := except_bind_eq_ok.mp h
  cases h
  obtain ⟨-, hwarehouse⟩ := except_seq_eq_ok.mp hwarehouse
  cases hwarehouse
  simp only [CatalogAdapter.collectIssues, List.append_eq_nil_iff, List.flatMap_eq_nil_iff,
    requireNonEmpty_eq_nil, and_assoc] at hadapter
  obtain ⟨-, -, -, -, hquery, -, hroutePrefix, -⟩ := hadapter
  have hname : IsIdentifier sparkCatalogName := by decide
  refine ⟨hname, huri, ?_, ?_, hauthentication⟩
  · intro value hvalue
    have hmem := Std.ExtTreeMap.mem_toList_iff_getElem?_eq_some.mpr hvalue
    exact ne_empty_of_isBlank (hquery _ hmem).2
  · intro value hvalue
    cases hcase : adapter.endpoint.routePrefix with
    | unprefixed => simp [configuredPrefix, hcase] at hvalue
    | negotiated pointer => simp [configuredPrefix, hcase] at hvalue
    | static found =>
      simp only [configuredPrefix, hcase, Option.mem_some] at hvalue
      subst hvalue
      simp only [validateRoutePrefix, hcase, List.append_eq_nil_iff,
        requireNonEmpty_eq_nil] at hroutePrefix
      exact ne_empty_of_isBlank hroutePrefix.1

theorem settingText_ne_empty {service : ServiceBinding} {key value : String}
    (h : settingText service key = .ok value) : value ≠ "" := by
  obtain ⟨_, hvalue⟩ := Option.filter_eq_some_iff.mp (Commit.requireSome_eq_ok.mp h)
  simpa using hvalue

theorem component_eq_ok {profile : Profile} {id : ComponentId} {kind : ComponentKind}
    {found : Component} (h : component profile id kind = .ok found) :
    found ∈ profile.components ∧ found.id = id ∧ found.kind = kind := by
  obtain ⟨_, hfound, h⟩ := except_bind_eq_ok.mp h
  obtain ⟨hkind, h⟩ := except_seq_eq_ok.mp h
  cases h
  obtain ⟨hmem, hid⟩ := find?_decide_eq_some (Commit.requireSome_eq_ok.mp hfound)
  exact ⟨hmem, hid, by simpa using hkind⟩

theorem requireOnly_eq_ok {α : Type} {items : List α} {message : String} {item : α} :
    requireOnly items message = .ok item ↔ items = [item] := by
  unfold requireOnly
  split <;> simp_all

theorem settingBool_eq_ok {service : ServiceBinding} {key : String} {flag : Bool} :
    settingBool service key = .ok flag ↔ service.settings[key]? = some (.bool flag) := by
  rw [settingBool, Commit.requireSome_eq_ok, Option.bind_eq_some_iff]
  constructor
  · rintro ⟨value, hvalue, hflag⟩
    cases value <;> simp_all [asBool]
  · exact fun h => ⟨_, h, rfl⟩

/-- The shared object store of the profile is addressed by paths. -/
def PathStyle (profile : Profile) : Prop :=
  ∀ service ∈ profile.services, service.component = profile.platform.sharedObjectStore →
    service.role = "shared-object-store" → service.settings["path_style_access"]? = some (.bool true)

theorem objectStorePlan_accepted {crates : Crates} {profile : Profile} {plan : ObjectStorePlan}
    (hprofile : profile.collectIssues crates "$" = [])
    (h : objectStorePlan crates profile = .ok plan) :
    plan.endpoint ≠ "" ∧ plan.bucket ≠ "" ∧ plan.region ≠ "" ∧
      (plan.pathStyleAccess = true ↔ PathStyle profile) := by
  obtain ⟨store, hstore, h⟩ := except_bind_eq_ok.mp h
  obtain ⟨service, hservice, h⟩ := except_bind_eq_ok.mp h
  obtain ⟨endpoint, hendpoint, h⟩ := except_bind_eq_ok.mp h
  obtain ⟨parsed, -, h⟩ := except_bind_eq_ok.mp h
  obtain ⟨-, h⟩ := except_seq_eq_ok.mp h
  obtain ⟨bucket, hbucket, h⟩ := except_bind_eq_ok.mp h
  obtain ⟨region, hregion, h⟩ := except_bind_eq_ok.mp h
  obtain ⟨pathStyleAccess, hstyle, h⟩ := except_bind_eq_ok.mp h
  obtain ⟨warehouse, -, h⟩ := except_bind_eq_ok.mp h
  obtain ⟨-, h⟩ := except_seq_eq_ok.mp h
  cases h
  obtain ⟨-, hid, -⟩ := component_eq_ok hstore
  have honly := requireOnly_eq_ok.mp hservice
  have hmem (other : ServiceBinding) : other = service ↔ other ∈ profile.services ∧
      other.component = profile.platform.sharedObjectStore ∧ other.role = "shared-object-store" := by
    rw [← List.mem_singleton, ← honly, List.mem_filter, hid, Bool.and_eq_true, decide_eq_true_eq,
      decide_eq_true_eq]
  obtain ⟨hservice, hcomponent, hrole⟩ := (hmem service).mp rfl
  have hendpoint := Commit.requireSome_eq_ok.mp hendpoint
  refine ⟨ne_empty_of_isBlank (Profile.service_endpoint hprofile hservice hendpoint),
    settingText_ne_empty hbucket, settingText_ne_empty hregion, ?_⟩
  have hsetting := settingBool_eq_ok.mp hstyle
  constructor
  · rintro rfl other hother hcomponent hrole
    rw [(hmem other).mpr ⟨hother, hcomponent, hrole⟩, hsetting]
  · intro hpath
    have hfound := hpath service hservice hcomponent hrole
    rw [hsetting] at hfound
    exact Json.bool.inj (Option.some.inj hfound)

-- ════════════════════════════════
-- The scenario
-- ════════════════════════════════

/-- A text is seen to be hexadecimal by the characters it is written with. -/
theorem isLowerHex_ofList {length : ℕ} {cs : List Char}
    (hlength : (cs.flatMap String.utf8EncodeChar).length = length)
    (hdigits : (cs.all fun c => c.isDigit || ('a' ≤ c && c ≤ 'f')) = true) :
    isLowerHex length (String.ofList cs) = true := by
  rw [isLowerHex, utf8_eq_flatMap, String.toList_ofList, hlength, hdigits]
  simp

/-- The digits of a digest are read off the characters it is written with. -/
theorem hex_ofList {cs : List Char} :
    (cs.length = 64 → (String.ofList cs).toList.length = 64) ∧
      (cs.all isLowerHexDigit = true →
        ∀ c ∈ (String.ofList cs).toList, isLowerHexDigit c = true) := by
  rw [String.toList_ofList]
  exact ⟨id, List.all_eq_true.mp⟩

/-- The parameters of the scenario that is compiled into the runner are accepted for a namespace
under their prefix. -/
theorem canonicalParameters_accepted {«namespace» : String}
    (h : startsWith «namespace» (canonicalParameters.fixturePrefix ++ "_") = true) :
    ScenarioAccepted canonicalParameters «namespace» where
  fixturePrefix := by decide
  inPrefix := h
  table :=
    { formatVersion := rfl, properties := by decide, schemaId := rfl, nonempty := by decide
      fields := by
        simp only [canonicalParameters, List.mem_cons, List.not_mem_nil, or_false]
        rintro field (rfl | rfl | rfl)
        all_goals exact ⟨by decide, by decide⟩
      ids := by decide
      names := by decide }
  evolvedField := by decide
  preserves := rfl
  generator := ⟨by decide, by decide, by decide⟩
  batches := ⟨by decide, by decide, rfl, by decide, by decide⟩
  orderBy := rfl
  trailingLf := rfl
  initialRead := ⟨by decide, by decide, hex_ofList.1 (by decide), hex_ofList.2 (by decide)⟩
  evolvedRead := ⟨by decide, by decide, hex_ofList.1 (by decide), hex_ofList.2 (by decide)⟩
  objectAudit := ⟨by decide, by decide⟩
  transcriptFormat := rfl
  relations := ⟨by decide, rfl, rfl, rfl, rfl, by decide⟩

-- ════════════════════════════════
-- Plans
-- ════════════════════════════════

theorem executionPlan_spark {engine : Component} {adapter : CatalogAdapter}
    {authentication : EngineCatalogAuthentication} {objectStore : ObjectStorePlan}
    {fixture : Fixture} {scenario : EngineScenarioParameters} {spark : SparkExecutionPlan}
    (h : executionPlan engine adapter authentication objectStore fixture scenario =
      .ok (.spark spark)) :
    ∃ catalog, restCatalogPlan adapter sparkCatalogName authentication = .ok catalog ∧
      spark =
        { format := sparkPlanFormat, execution := ⟨"local[2]", 1, 1⟩, catalog
          fileIo := ⟨SparkRunner.s3FileIo, objectStore.endpoint, objectStore.bucket,
            objectStore.region, objectStore.pathStyleAccess⟩
          fixture, scenario } := by
  unfold executionPlan at h
  dsimp only at h
  split_ifs at h
  all_goals
    obtain ⟨catalog, hcatalog, h⟩ := except_bind_eq_ok.mp h
    cases h
  exact ⟨catalog, hcatalog, rfl⟩

/-- A plan is accepted as it is read when its encoding fits and its checks pass. -/
theorem loadPlan_iff {loads : List UInt8 → Option Json} {encode : Json → List UInt8}
    {plan : SparkExecutionPlan} (hloads : loads (encode plan.toJson) = some plan.toJson)
    (hlength : (encode plan.toJson).length ≤ maximumPlanBytes) :
    (∃ accepted, loadPlan loads (encode plan.toJson) = .ok accepted) ↔ PlanAccepted plan := by
  have htake : (encode plan.toJson).take (maximumPlanBytes + 1) = encode plan.toJson :=
    List.take_of_length_le (by omega)
  rw [← validatePlan_iff]
  simp only [loadPlan, htake, hloads, bind, except_bind_eq_ok, refuseWhen_eq_ok, requireObject_eq_ok,
    pure, Except.pure, Except.ok.injEq, decide_eq_false_iff_not, not_lt]
  constructor
  · rintro ⟨_, _, -, fields, hfields, ⟨⟩, hvalid, -⟩
    exact ⟨fields, hfields, hvalid⟩
  · rintro ⟨fields, hfields, hvalid⟩
    exact ⟨fields, (), hlength, fields, hfields, (), hvalid, rfl⟩

/-- **Spark plans of accepted profiles.** The runner accepts the plan that is made of an accepted
profile, whatever its texts are, exactly if the object store is addressed by paths. -/
theorem sparkPlan_accepted_iff {crates : EngineCrates} {loads : List UInt8 → Option Json}
    {encode : Json → List UInt8} {profile : Profile} {scenario : Scenario} {catalog : ComponentId}
    {fixtureId : String} {plan : InteroperabilityPlan} {spark : SparkExecutionPlan}
    (hcanonical : crates.canonicalScenario = .ok (.scenario canonicalScenario))
    (hparameters : crates.decodeParameters canonicalParametersJson = .ok canonicalParameters)
    (hurl : ∀ url, crates.urlText url ≠ "")
    (hpush : ∀ url segments text, crates.pushSegments url segments = some text → text ≠ "")
    (hprofile : profile.collectIssues crates.toCrates "$" = [])
    (hplan : InteroperabilityPlan.fromContracts crates profile scenario catalog fixtureId =
      .ok plan)
    (hspark : plan.execution = .spark spark)
    (hloads : loads (encode spark.toJson) = some spark.toJson)
    (hlength : (encode spark.toJson).length ≤ maximumPlanBytes) :
    (∃ accepted, loadPlan loads (encode spark.toJson) = .ok accepted) ↔ PathStyle profile := by
  obtain ⟨selection, hselected⟩ := InteroperabilityPlan.fromContracts_selected hplan
  obtain rfl := validateCanonicalScenario_eq hcanonical hselected.canonical
  have hdecoded : selection.parameters = canonicalParameters :=
    Except.ok.inj ((decodeParameters_eq_ok.mp hselected.decoded).symm.trans hparameters)
  obtain ⟨restCatalog, hrest, rfl⟩ := executionPlan_spark (hspark ▸ hselected.execution)
  obtain ⟨hendpoint, hbucket, hregion, hstyle⟩ :=
    objectStorePlan_accepted hprofile hselected.objectStore
  rw [loadPlan_iff hloads hlength, ← hstyle]
  constructor
  · exact fun haccepted => haccepted.fileIo.pathStyleAccess
  intro hpath
  obtain ⟨hadapterMem, -⟩ :=
    find?_decide_eq_some (Commit.requireSome_eq_ok.mp hselected.adapter)
  obtain ⟨adapterPath, hadapter, -, -⟩ := Profile.adapter_accepted hprofile hadapterMem
  have hauthentication := authentication_accepted hurl hadapter hselected.authentication
  have hfixture := hselected.fixture
  rw [hdecoded] at hfixture
  obtain ⟨hfixture, hstarts⟩ :=
    fixture_accepted (List.all_eq_true.mp (by decide)) hpush hfixture
  exact
    { format := rfl
      execution := rfl
      catalog := restCatalogPlan_accepted (baseUrl_ne_empty hprofile hadapterMem) hadapter
        hauthentication hrest
      fileIo := ⟨rfl, hendpoint, hbucket, hregion, hpath⟩
      fixture := hfixture
      scenario := hdecoded ▸ canonicalParameters_accepted hstarts }

-- ════════════════════════════════
-- A profile
-- ════════════════════════════════

def sparkArtifact (location mediaType : String) (byte : UInt8) : ArtifactReference :=
  ⟨location, mediaType, ⟨.sha256, hex (List.replicate 32 byte)⟩, some 4096, none, ∅⟩

def sparkComponent (id : ComponentId) (kind : ComponentKind) (name version : String)
    (artifacts : List ArtifactReference) : Component :=
  { id, kind, name, version, source := none, build := none
    artifact := .containerImage id .localImage ⟨.sha256, hex (List.replicate 32 171)⟩ none artifacts
    extensions := ∅ }

def sparkEngine : Component :=
  sparkComponent "spark" .engine "Apache Spark" "4.1.3"
    [sparkArtifact "image:/opt/spark/bin/spark-submit" "application/x-shellscript" 171,
     sparkArtifact "image:/opt/spark/jars/iceberg.jar" "application/java-archive" 205]

def sparkConnector : Component :=
  sparkComponent "iceberg" .connector "Apache Iceberg Java engine runtimes" "1.11.0"
    [sparkArtifact "image:/iceberg.jar" "application/java-archive" 205]

def sparkAdapter : CatalogAdapter where
  catalog := "lakecat"
  protocol := .icebergRestV1
  endpoint := ⟨"http://catalog:8181", ⟨"/v1/config", ∅⟩, .unprefixed, none⟩
  authentication := .anonymous
  requestHandling := .protocolNative
  capabilities := .exerciseAll
  extensions := ∅

/-- A profile with one catalog and one Spark engine, over an object store that is addressed by
paths or by host names. -/
def sparkProfile (pathStyle : Bool) : Profile where
  id := "spark"
  title := "Spark"
  description := "One catalog and one engine over one object store."
  resolvedAt := "2026-08-27"
  purpose := .conformance
  readiness := .runnable
  platform := ⟨"linux", "arm64", .dockerCompose, none, "bridge", "minio", "s3://bench", ∅⟩
  components :=
    [sparkComponent "lakecat" .catalog "LakeCat" "1.0" [], sparkEngine, sparkConnector,
     sparkComponent "minio" .objectStore "MinIO" "1.0" []]
  services :=
    [⟨"lakecat", "iceberg-rest-catalog", some "http://catalog:8181", none, ∅, ∅⟩,
     ⟨"spark", "stock-engine", none, none, ∅, ∅⟩,
     ⟨"iceberg", "engine-connector", none, none, ∅, ∅⟩,
     ⟨"minio", "shared-object-store", some "http://store:9000", none,
       .ofList [("bucket", .string "bench"), ("region", .string "us-east-1"),
         ("path_style_access", .bool pathStyle)] _, ∅⟩]
  catalogCapabilities := canonicalCapabilities.map fun requirement =>
    ⟨requirement.capability, "Required.", none⟩
  catalogAdapters := [sparkAdapter]
  extensions := ∅

/-- The library functions on the sample plan. -/
def sparkCrates : EngineCrates where
  toCrates := sampleCrates
  parseJson _ := .error "expected value at line 1 column 1"
  decodeScenario _ := .error "invalid type"
  decodeResult _ := .error "invalid type"
  decodeProfile _ := .error "invalid type"
  decodeManifest _ := .error "invalid type"
  parseF64 _ := none
  decodeParameters parameters :=
    if parameters = canonicalParametersJson then .ok canonicalParameters
    else .error "missing field `fixture_prefix`"
  canonicalScenario := .ok (.scenario canonicalScenario)
  urlText url := url.scheme ++ "://" ++ url.hostStr.getD "" ++ url.path
  pushSegments url segments :=
    some (url.scheme ++ "://" ++ url.hostStr.getD "" ++ "/" ++ "/".intercalate segments)
  tupleText _ := none

/-- The Spark plan of the sample. -/
def sampleSparkPlan (pathStyle : Bool) : SparkExecutionPlan where
  format := sparkPlanFormat
  execution := ⟨"local[2]", 1, 1⟩
  catalog := ⟨"bench", "http://catalog:8181", none, none, .anonymous⟩
  fileIo := ⟨s3FileIo, "http://store:9000", "bench", "us-east-1", pathStyle⟩
  fixture := ⟨"cb_c201_lakecat_run1", "events", none⟩
  scenario := canonicalParameters

def sampleSpark (pathStyle : Bool) : InteroperabilityPlan where
  runner := none
  catalog := ⟨"lakecat", "LakeCat", "1.0", none⟩
  engine := ⟨"spark", "Apache Spark", "4.1.3", none⟩
  connector := ⟨"iceberg", "Apache Iceberg Java engine runtimes", "1.11.0", none⟩
  credentialSource := .anonymous
  objectStore := ⟨"minio", "http://store:9000", "bench", "us-east-1", true, pathStyle,
    s3AccessKeyEnv, s3SecretKeyEnv⟩
  runtimePlatform := ⟨"linux", "arm64"⟩
  runtimeArtifacts :=
    [⟨"/opt/spark/bin/spark-submit", "application/x-shellscript",
       hex (List.replicate 32 171), 4096, ["spark"]⟩,
     ⟨"/opt/spark/jars/iceberg.jar", "application/java-archive",
       hex (List.replicate 32 205), 4096, ["iceberg", "spark"]⟩]
  execution := .spark (sampleSparkPlan pathStyle)

theorem sparkAdapters_valid (pathStyle : Bool) :
    validateCatalogAdapters sparkCrates.toCrates (sparkProfile pathStyle) "$" = [] := by
  cases pathStyle
  all_goals
    rw [validateCatalogAdapters, if_neg (by decide)]
    simp only [List.append_eq_nil_iff, List.map_eq_nil_iff, difference_eq_nil]
    exact ⟨⟨⟨⟨⟨⟨by decide, by decide⟩, by decide⟩, by decide⟩, by decide⟩, by decide⟩, by decide⟩

theorem sparkProfile_valid (pathStyle : Bool) :
    (sparkProfile pathStyle).collectIssues sparkCrates.toCrates "$" = [] := by
  rw [Profile.collectIssues, List.append_eq_nil_iff]
  exact ⟨by revert pathStyle; decide +kernel, sparkAdapters_valid pathStyle⟩

theorem canonicalParameters_valid : validateParameters canonicalParameters = .ok () := by
  have hinitial : validSha256 canonicalParameters.canonicalReads.initial.sha256 = true :=
    isLowerHex_ofList (by decide) (by decide)
  have hevolved : validSha256 canonicalParameters.canonicalReads.afterEvolution.sha256 = true :=
    isLowerHex_ofList (by decide) (by decide)
  simp only [validateParameters, hinitial, hevolved]
  decide

theorem linux_supported {profile : Profile} (hready : profile.readiness = .runnable)
    (hmode : profile.platform.mode = .dockerCompose)
    (hsystem : profile.platform.operatingSystem = "linux")
    (harchitecture : profile.platform.architecture = "arm64") :
    validateProfilePlatform profile = .ok () := by
  have hlinux : toAsciiLowercase "linux" = "linux" := by
    rw [toAsciiLowercase, ← String.toList_inj, String.toList_map]
    decide
  have harm : toAsciiLowercase "arm64" = "arm64" := by
    rw [toAsciiLowercase, ← String.toList_inj, String.toList_map]
    decide
  simp only [validateProfilePlatform, hready, hmode, hsystem, harchitecture, hlinux, harm]
  rfl

-- The style of the addresses does not matter to the artifacts.
theorem sparkArtifacts_eq (pathStyle : Bool) :
    Engine.runtimeArtifacts none sparkEngine sparkConnector =
      .ok (sampleSpark pathStyle).runtimeArtifacts := by
  change _ = Except.ok (sampleSpark true).runtimeArtifacts
  decide +kernel

/-- The plan of the sample. -/
theorem sampleSpark_eq (pathStyle : Bool) :
    InteroperabilityPlan.fromContracts sparkCrates (sparkProfile pathStyle) canonicalScenario
      "lakecat" "run1" = .ok (sampleSpark pathStyle) := by
  have hcanonical : validateCanonicalScenario sparkCrates canonicalScenario = .ok () := by
    simp [validateCanonicalScenario, sparkCrates, canonicalScenario, Commit.rejectWhen]
    rfl
  have hdecoded : decodeParameters sparkCrates canonicalScenario = .ok canonicalParameters := by
    rw [decodeParameters_eq_ok]
    simp only [sparkCrates, canonicalScenario, if_true]
  have hadapter : Engine.adapter (sparkProfile pathStyle) "lakecat" = .ok sparkAdapter := by rfl
  have hstore : objectStorePlan sparkCrates.toCrates (sparkProfile pathStyle) =
      .ok (sampleSpark pathStyle).objectStore := by
    cases pathStyle <;> decide
  have hfixture : Engine.fixture sparkCrates canonicalParameters.fixturePrefix "lakecat" "run1"
      sparkAdapter (sampleSpark pathStyle).objectStore = .ok (sampleSparkPlan pathStyle).fixture := by
    rfl
  have hexecution : executionPlan sparkEngine sparkAdapter .anonymous
      (sampleSpark pathStyle).objectStore (sampleSparkPlan pathStyle).fixture canonicalParameters =
      .ok (sampleSpark pathStyle).execution := by
    rfl
  have hexecutable : validateExecutionArtifact (sampleSpark pathStyle).runtimeArtifacts none "spark"
      (sampleSpark pathStyle).execution = .ok () := by
    rfl
  have hengine : roleComponent (sparkProfile pathStyle) "stock-engine" .engine = .ok sparkEngine := by
    rfl
  rw [InteroperabilityPlan.fromContracts]
  refine except_bind_eq_ok.mpr ⟨sparkEngine, hengine, ?_⟩
  rw [InteroperabilityPlan.fromContractsForEngine]
  refine except_seq_eq_ok.mpr ⟨hcanonical, ?_⟩
  refine except_bind_eq_ok.mpr ⟨canonicalParameters, hdecoded, ?_⟩
  refine except_seq_eq_ok.mpr ⟨canonicalParameters_valid, ?_⟩
  refine except_seq_eq_ok.mpr ⟨linux_supported rfl rfl rfl rfl, except_bind_eq_ok.mpr ⟨_, hadapter, ?_⟩⟩
  refine except_seq_eq_ok.mpr ⟨rfl, except_seq_eq_ok.mpr ⟨rfl, ?_⟩⟩
  refine except_bind_eq_ok.mpr ⟨_, rfl, except_bind_eq_ok.mpr ⟨none, rfl, ?_⟩⟩
  refine except_bind_eq_ok.mpr ⟨sparkEngine, rfl, except_bind_eq_ok.mpr ⟨sparkConnector, rfl, ?_⟩⟩
  refine except_seq_eq_ok.mpr ⟨rfl, except_bind_eq_ok.mpr ⟨_, hstore, ?_⟩⟩
  refine except_bind_eq_ok.mpr ⟨_, hfixture, except_bind_eq_ok.mpr ⟨_, rfl, ?_⟩⟩
  refine except_bind_eq_ok.mpr ⟨_, hexecution, except_bind_eq_ok.mpr ⟨_, sparkArtifacts_eq pathStyle, ?_⟩⟩
  exact except_seq_eq_ok.mpr ⟨hexecutable, except_seq_eq_ok.mpr ⟨rfl, rfl⟩⟩

/-- What `json.loads` makes of the encoding of one value. -/
def loadsOnly (encode : Json → List UInt8) (value : Json) (bytes : List UInt8) : Option Json :=
  if bytes = encode value then some value else none

def encodeCompact (value : Json) : List UInt8 := utf8 (Conformance.compactText value)

theorem sampleSpark_length (pathStyle : Bool) :
    (encodeCompact (sampleSparkPlan pathStyle).toJson).length ≤ maximumPlanBytes := by
  revert pathStyle
  decide +kernel

/-- An accepted profile whose object store is addressed by host names has a plan, and the runner
refuses it. -/
theorem sparkPlan_refused :
    (sparkProfile false).collectIssues sparkCrates.toCrates "$" = [] ∧
      InteroperabilityPlan.fromContracts sparkCrates (sparkProfile false) canonicalScenario
        "lakecat" "run1" = .ok (sampleSpark false) ∧
      (sampleSpark false).execution = .spark (sampleSparkPlan false) ∧
      (encodeCompact (sampleSparkPlan false).toJson).length ≤ maximumPlanBytes ∧
      ¬∃ accepted, loadPlan (loadsOnly encodeCompact (sampleSparkPlan false).toJson)
        (encodeCompact (sampleSparkPlan false).toJson) = .ok accepted := by
  refine ⟨sparkProfile_valid false, sampleSpark_eq false, rfl, sampleSpark_length false, ?_⟩
  rw [loadPlan_iff (if_pos rfl) (sampleSpark_length false)]
  exact fun haccepted => Bool.false_ne_true haccepted.fileIo.pathStyleAccess

theorem sparkPlan_accepted_iff_sample :
    (∃ accepted, loadPlan (loadsOnly encodeCompact (sampleSparkPlan true).toJson)
      (encodeCompact (sampleSparkPlan true).toJson) = .ok accepted) ↔
      PathStyle (sparkProfile true) :=
  sparkPlan_accepted_iff rfl (by simp only [sparkCrates, if_true])
    (fun url => by simp [sparkCrates]) (fun url segments text htext => by
      cases htext
      simp) (sparkProfile_valid true) (sampleSpark_eq true) rfl (if_pos rfl) (sampleSpark_length true)

end CatalogBench.Engine
