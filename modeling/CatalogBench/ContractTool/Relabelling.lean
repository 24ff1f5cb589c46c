import CatalogBench.ContractTool.Admission

/-!
# Relabelled failures

The classification policy says that a capability is unsupported because the profile declares it so,
and that an observed failure stays a failure. The loader compares a result with its scenario and
with the profile, but it asks neither of these questions.
-/

set_option linter.all false

namespace CatalogBench.ContractTool
open CatalogBench.Contract Interaction

/-- A violated assertion. -/
def isFailed : AssertionOutcome → Bool
  | .fail _ => true
  | .pass | .notEvaluated _ => false

/-- The capability is a prerequisite of the scenario. -/
def requires (scenario : Scenario) (capability : CapabilityId) : Bool :=
  scenario.capabilities.any fun requirement =>
    requirement.capability = capability && requirement.level = .required

/-- What the policy promises of a result of a bundle. -/
structure Classified (bundle : ValidatedBundle) (result : ResultRecord) : Prop where
  observed : isAttempted result.outcome = false →
    ∀ evaluation ∈ result.assertions, isFailed evaluation.outcome = false
  declared : ∀ limitation, result.outcome = .unsupported limitation →
    ∃ scenario ∈ bundle.scenarios, scenario.scenario.id = result.scenario.id ∧
      requires scenario.scenario limitation.capability = true ∧
      ∃ adapter ∈ bundle.profile.catalogAdapters,
        adapter.catalog = result.catalog.profileComponent ∧
          (adapter.capabilities.limitation limitation.capability).isSome = true ∧
          adapter.capabilities.exercises limitation.capability = false

/-- The question that the loader leaves out: whether a result that was not attempted holds no failed
evaluation, and whether what it calls unsupported is a capability of the profile's vocabulary that
the scenario requires and an adapter of the catalog leaves alone. -/
def keepsPolicy (profile : Profile) (scenario : Scenario) (result : ResultRecord) : Bool :=
  let unrefuted := result.assertions.all fun evaluation => !isFailed evaluation.outcome
  match result.outcome with
  | .pass _ | .fail _ => true
  | .notTested _ => unrefuted
  | .unsupported limitation =>
    unrefuted && requires scenario limitation.capability &&
      (profile.catalogCapabilities.map (·.id)).contains limitation.capability &&
      profile.catalogAdapters.any fun adapter =>
        adapter.catalog = result.catalog.profileComponent &&
          !adapter.capabilities.exercises limitation.capability

/-- The document in a referenced file. -/
def documentAt (crates : ContractCrates) (files : Files) (base : String)
    (artifact : ArtifactReference) : Option ContractDocument :=
  match files (join base artifact.location) with
  | .ok bytes => (parseContract crates bytes).toOption
  | .error _ => none

/-- Every result file of a manifest keeps the policy, next to the profile and to the scenario file
that it names. -/
def FilesKeepPolicy (crates : ContractCrates) (files : Files) (manifestPath : String) : Prop :=
  ∀ bytes manifest base profile, files manifestPath = .ok bytes →
    parseContract crates bytes = .ok (.manifest manifest) → parent manifestPath = some base →
    documentAt crates files base manifest.profile = some (.profile profile) →
    ∀ resultFile ∈ manifest.results, ∀ result,
      documentAt crates files base resultFile = some (.result result) →
    ∀ scenarioFile ∈ manifest.scenarios, ∀ scenario,
      documentAt crates files base scenarioFile = some (.scenario scenario) →
      scenario.id = result.scenario.id → keepsPolicy profile scenario result = true

theorem documentAt_eq_some {crates : ContractCrates} {files : Files} {base : String}
    {artifact : ArtifactReference} {document : ContractDocument} :
    documentAt crates files base artifact = some document ↔
      ∃ bytes, files (join base artifact.location) = .ok bytes ∧
        parseContract crates bytes = .ok document := by
  unfold documentAt
  cases files (join base artifact.location) with
  | error e => simp
  | ok bytes => cases hparse : parseContract crates bytes <;> simp [hparse, Except.toOption]

section Bundle

variable {crates : ContractCrates} {files : Files} {base : String} {bundle : ValidatedBundle}

/-- An unsupported result is as the policy wants it if the scenario that it names requires the
capability and an adapter of the catalog, which has to account for it, leaves it alone. -/
theorem declared_iff (hadmitted : bundle.Admitted crates files base)
    {scenario : ValidatedScenario} (hscenario : scenario ∈ bundle.scenarios)
    {result : ResultRecord} (hid : scenario.scenario.id = result.scenario.id)
    (capability : CapabilityId) :
    (∃ scenario ∈ bundle.scenarios, scenario.scenario.id = result.scenario.id ∧
        requires scenario.scenario capability = true ∧
        ∃ adapter ∈ bundle.profile.catalogAdapters,
          adapter.catalog = result.catalog.profileComponent ∧
            (adapter.capabilities.limitation capability).isSome = true ∧
            adapter.capabilities.exercises capability = false) ↔
      requires scenario.scenario capability = true ∧
        capability ∈ bundle.profile.catalogCapabilities.map (·.id) ∧
        ∃ adapter ∈ bundle.profile.catalogAdapters,
          adapter.catalog = result.catalog.profileComponent ∧
            adapter.capabilities.exercises capability = false := by
  obtain ⟨bytes, -, hprofile⟩ := hadmitted.profile
  have hvalid : bundle.profile.collectIssues crates.toCrates "$" = [] :=
    parseContract_valid hprofile
  constructor
  · rintro ⟨other, hother, hsame, hrequired, adapter, hadapter, hcatalog, hdeclared, hidle⟩
    obtain rfl : other = scenario :=
      List.inj_on_of_nodup_map hadmitted.scenarioIds hother hscenario (hsame.trans hid.symm)
    have hvocabulary := ((Profile.limitation_isSome_iff hvalid hadapter capability).mp hdeclared).1
    exact ⟨hrequired, hvocabulary, adapter, hadapter, hcatalog, hidle⟩
  · rintro ⟨hrequired, hvocabulary, adapter, hadapter, hcatalog, hidle⟩
    have hdeclared :=
      (Profile.limitation_isSome_iff hvalid hadapter capability).mpr ⟨hvocabulary, hidle⟩
    exact ⟨scenario, hscenario, hid, hrequired, adapter, hadapter, hcatalog, hdeclared, hidle⟩

theorem classified_iff (hadmitted : bundle.Admitted crates files base)
    {scenario : ValidatedScenario} (hscenario : scenario ∈ bundle.scenarios)
    {result : ResultRecord} (hid : scenario.scenario.id = result.scenario.id) :
    Classified bundle result ↔ keepsPolicy bundle.profile scenario.scenario result = true := by
  have hdeclared := declared_iff hadmitted hscenario hid
  have hunrefuted : (result.assertions.all fun evaluation => !isFailed evaluation.outcome) = true ↔
      ∀ evaluation ∈ result.assertions, isFailed evaluation.outcome = false := by
    simp
  cases houtcome : result.outcome with
  | pass summary =>
    refine iff_of_true ⟨fun h => ?_, fun limitation h => ?_⟩ (by simp [keepsPolicy, houtcome])
    · simp [houtcome, isAttempted] at h
    · cases houtcome.symm.trans h
  | fail failure =>
    refine iff_of_true ⟨fun h => ?_, fun limitation h => ?_⟩ (by simp [keepsPolicy, houtcome])
    · simp [houtcome, isAttempted] at h
    · cases houtcome.symm.trans h
  | notTested reason =>
    simp only [keepsPolicy, houtcome]
    rw [hunrefuted]
    constructor
    · intro h
      exact h.observed (by rw [houtcome]; rfl)
    · exact fun h => ⟨fun _ => h, fun limitation h => by cases houtcome.symm.trans h⟩
  | unsupported limitation =>
    simp only [keepsPolicy, houtcome, Bool.and_eq_true, List.contains_iff_mem, List.any_eq_true,
      decide_eq_true_eq, Bool.not_eq_true', and_assoc]
    rw [hunrefuted, ← hdeclared limitation.capability]
    constructor
    · intro h
      exact ⟨h.observed (by rw [houtcome]; rfl), h.declared limitation houtcome⟩
    · rintro ⟨hobserved, hcapability⟩
      refine ⟨fun _ => hobserved, fun other h => ?_⟩
      obtain rfl : limitation = other := ResultOutcome.unsupported.inj (houtcome.symm.trans h)
      exact hcapability

/-- In an admitted bundle the documents of the files are those of the bundle. -/
theorem filesKeepPolicy_iff {manifestPath : String} (hpath : bundle.manifestPath = manifestPath)
    (hbase : parent manifestPath = some base) (hadmitted : bundle.Admitted crates files base) :
    FilesKeepPolicy crates files manifestPath ↔
      ∀ result ∈ bundle.results, ∀ scenario ∈ bundle.scenarios,
        scenario.scenario.id = result.result.scenario.id →
          keepsPolicy bundle.profile scenario.scenario result.result = true := by
  subst hpath
  obtain ⟨bytes, hread, hparse⟩ := hadmitted.manifest
  have hprofile : documentAt crates files base bundle.manifest.profile =
      some (.profile bundle.profile) := documentAt_eq_some.mpr hadmitted.profile
  have hscenarioFile : ∀ scenario ∈ bundle.scenarios,
      documentAt crates files base scenario.artifact = some (.scenario scenario.scenario) :=
    fun scenario hmem => documentAt_eq_some.mpr (hadmitted.documents.1 scenario hmem)
  have hresultFile : ∀ result ∈ bundle.results,
      documentAt crates files base result.artifact = some (.result result.result) :=
    fun result hmem => documentAt_eq_some.mpr (hadmitted.documents.2 result hmem)
  constructor
  · intro h result hresult scenario hscenario hid
    refine h bytes bundle.manifest base bundle.profile hread hparse hbase hprofile
      result.artifact ?_ result.result (hresultFile result hresult) scenario.artifact ?_ scenario.scenario
      (hscenarioFile scenario hscenario) hid
    · rw [← hadmitted.results]
      exact List.mem_map.mpr ⟨result, hresult, rfl⟩
    · rw [← hadmitted.scenarios]
      exact List.mem_map.mpr ⟨scenario, hscenario, rfl⟩
  · intro h bytes' manifest base' profile hread' hparse' hbase' hprofile' resultFile hresult result
      hresultDocument scenarioFile hscenario scenario hscenarioDocument hid
    obtain rfl : bytes = bytes' := Except.ok.inj (hread.symm.trans hread')
    obtain rfl : bundle.manifest = manifest :=
      ContractDocument.manifest.inj (Except.ok.inj (hparse.symm.trans hparse'))
    obtain rfl : base = base' := Option.some.inj (hbase.symm.trans hbase')
    obtain rfl : bundle.profile = profile :=
      ContractDocument.profile.inj (Option.some.inj (hprofile.symm.trans hprofile'))
    rw [← hadmitted.results] at hresult
    rw [← hadmitted.scenarios] at hscenario
    obtain ⟨loaded, hloaded, rfl⟩ := List.mem_map.mp hresult
    obtain ⟨named, hnamed, rfl⟩ := List.mem_map.mp hscenario
    obtain rfl : loaded.result = result := ContractDocument.result.inj
      (Option.some.inj ((hresultFile loaded hloaded).symm.trans hresultDocument))
    obtain rfl : named.scenario = scenario := ContractDocument.scenario.inj
      (Option.some.inj ((hscenarioFile named hnamed).symm.trans hscenarioDocument))
    exact h loaded hloaded named hnamed hid

end Bundle

/-- An object with one of its fields set. -/
def withField (key : String) (value : Json) : Json → Json
  | .object fields =>
    if fields.any (·.1 = key) then
      .object (fields.map fun field => if field.1 = key then (key, value) else field)
    else .object (fields ++ [(key, value)])
  | other => other

def relabelledScenarioHash : List UInt8 :=
  [65, 81, 230, 108, 74, 201, 5, 244, 205, 100, 73, 136, 58, 233, 248, 230, 68, 190, 103, 254, 58,
    138, 171, 145, 213, 19, 1, 59, 145, 224, 183, 74]

def relabelledProfileHash : List UInt8 :=
  [23, 28, 99, 153, 76, 47, 77, 228, 78, 110, 250, 190, 68, 64, 197, 132, 210, 226, 91, 222, 197,
    96, 115, 118, 21, 13, 104, 189, 126, 227, 28, 17]

def relabelledResultHash : List UInt8 :=
  [87, 246, 207, 14, 197, 8, 101, 234, 124, 13, 201, 66, 98, 183, 76, 216, 78, 231, 204, 134, 135,
    236, 195, 216, 198, 29, 157, 214, 25, 202, 164, 25]

/-- A scenario that requires commits. -/
def relabelledScenario : Scenario :=
  { sampleScenario with capabilities := [⟨"table.commit", .required, "Commit once.", none⟩] }

def relabelledScenarioJson : Json :=
  withField "capabilities"
    (.array [.object [("capability", .string "table.commit"), ("level", .string "required"),
      ("description", .string "Commit once.")]]) scenarioJson

/-- A profile whose only adapter exercises everything. -/
def relabelledProfile : Profile :=
  { sampleProfile with
    purpose := .conformance
    services := [⟨"bench", "iceberg-rest-catalog", some "http://catalog:8181", none, ∅, ∅⟩]
    catalogCapabilities := [⟨"table.commit", "Commit once.", none⟩]
    catalogAdapters := [{
      catalog := "bench"
      protocol := .icebergRestV1
      endpoint := ⟨"http://catalog:8181", ⟨"/v1/config", ∅⟩, .unprefixed, none⟩
      authentication := .anonymous
      requestHandling := .protocolNative
      capabilities := .exerciseAll
      extensions := ∅ }] }

def relabelledProfileJson : Json :=
  withField "catalog_adapters"
    (.array [.object [("catalog", .string "bench"), ("protocol", .string "iceberg-rest-v1"),
      ("endpoint", .object [("base_url", .string "http://catalog:8181"),
        ("config", .object [("path", .string "/v1/config")]),
        ("route_prefix", .object [("kind", .string "unprefixed")])]),
      ("authentication", .object [("kind", .string "anonymous")]),
      ("request_handling", .object [("kind", .string "protocol-native")]),
      ("capabilities", .object [("mode", .string "exercise-all")])]])
  <| withField "catalog_capabilities"
    (.array [.object [("id", .string "table.commit"), ("description", .string "Commit once.")]])
  <| withField "services"
    (.array [.object [("component", .string "bench"), ("role", .string "iceberg-rest-catalog"),
      ("endpoint", .string "http://catalog:8181")]])
  <| withField "purpose" (.string "conformance") profileJson

/-- The only assertion has failed, and the result calls the capability unsupported. -/
def relabelledResult : ResultRecord :=
  { sampleResult with
    scenario := ⟨"commit", 1, sampleDigest relabelledScenarioHash⟩
    profile := ⟨"local", sampleDigest relabelledProfileHash⟩
    outcome := .unsupported ⟨"table.commit", "Commits are not served.", none⟩
    assertions := [⟨"accepted", true, .fail "HTTP 500", []⟩] }

def relabelledResultJson : Json :=
  withField "assertions"
    (.array [.object [("assertion", .string "accepted"), ("required", .bool true),
      ("outcome", .object [("status", .string "fail"), ("explanation", .string "HTTP 500")])]])
  <| withField "outcome"
    (.object [("status", .string "unsupported"),
      ("limitation", .object [("capability", .string "table.commit"),
        ("explanation", .string "Commits are not served.")])])
  <| withField "profile"
    (.object [("id", .string "local"),
      ("digest", digestJson (sampleDigest relabelledProfileHash))])
  <| withField "scenario"
    (.object [("id", .string "commit"), ("version", .number (.posInt 1)),
      ("digest", digestJson (sampleDigest relabelledScenarioHash))]) resultJson

def relabelledManifest : ResultBundleManifest :=
  { sampleManifest with
    profile := sampleArtifact "profile.json" relabelledProfileHash
    scenarios := [sampleArtifact "scenario.json" relabelledScenarioHash]
    results := [sampleArtifact "result.json" relabelledResultHash] }

def relabelledManifestJson : Json :=
  withField "profile" (artifactJson "profile.json" relabelledProfileHash)
  <| withField "scenarios" (.array [artifactJson "scenario.json" relabelledScenarioHash])
  <| withField "results" (.array [artifactJson "result.json" relabelledResultHash]) manifestJson

def relabelledFiles : Files := fun path =>
  match path with
  | "bundle/manifest.json" => .ok (utf8 (compactText relabelledManifestJson))
  | "bundle/profile.json" => .ok (utf8 (compactText relabelledProfileJson))
  | "bundle/scenario.json" => .ok (utf8 (compactText relabelledScenarioJson))
  | "bundle/result.json" => .ok (utf8 (compactText relabelledResultJson))
  | _ => .error "No such file or directory (os error 2)"

/-- The library functions on the files of the relabelled bundle. -/
def relabelledCrates : ContractCrates where
  toCrates := { sampleCrates with
    sha256 := fun bytes =>
      if bytes = utf8 (compactText relabelledProfileJson) then relabelledProfileHash
      else if bytes = utf8 (compactText relabelledScenarioJson) then relabelledScenarioHash
      else if bytes = utf8 (compactText relabelledResultJson) then relabelledResultHash
      else [] }
  parseJson bytes :=
    match [relabelledManifestJson, relabelledProfileJson, relabelledScenarioJson,
        relabelledResultJson].find? fun value => utf8 (compactText value) = bytes with
    | some value => .ok value
    | none => .error "expected value at line 1 column 1"
  decodeScenario value :=
    if value = relabelledScenarioJson then .ok relabelledScenario else .error "invalid type"
  decodeResult value :=
    if value = relabelledResultJson then .ok relabelledResult else .error "invalid type"
  decodeProfile value :=
    if value = relabelledProfileJson then .ok relabelledProfile else .error "invalid type"
  decodeManifest value :=
    if value = relabelledManifestJson then .ok relabelledManifest else .error "invalid type"
  parseF64 _ := none

/-- The relabelled failure is loaded. -/
theorem relabelled_loaded :
    ((loadBundle relabelledCrates relabelledFiles "bundle/manifest.json").toOption.any
      fun bundle => bundle.results.any fun result =>
        !isAttempted result.result.outcome &&
          result.result.assertions.any fun evaluation => isFailed evaluation.outcome) = true := by
  decide +kernel

end CatalogBench.ContractTool
