import CatalogBench.ContractTool.Bundle

/-!
# What a loaded bundle guarantees

Each check of the loader is inverted once. From these a loaded bundle is shown to hold exactly
the referenced bytes, and every result to agree with the profile and with its scenario. That a
passing result has passed what the scenario requires takes both the record's own validation,
over the flags it copied, and the comparison of the flags with the scenario.
-/

set_option linter.all false

namespace CatalogBench.ContractTool
open CatalogBench.Contract Interaction

-- ════════════════════════════════
-- Inversion of the checks
-- ════════════════════════════════

section Checks

variable {α : Type} {message : String}

@[simp] theorem bailWhen_eq_ok {violated : Bool} {done : Unit} :
    bailWhen violated message = .ok done ↔ violated = false := by
  cases violated <;> simp [bailWhen, bail]

@[simp] theorem orBail_eq_ok {value : Option α} {found : α} :
    orBail message value = .ok found ↔ value = some found := by
  cases value <;> simp [orBail, bail]

@[simp] theorem withContext_eq_ok {result : Loading α} {value : α} :
    withContext message result = .ok value ↔ result = .ok value := by
  cases result <;> simp [withContext]

theorem option_forM_eq_ok {check : α → Loading Unit} {value : Option α} :
    value.forM check = .ok () ↔ ∀ a, value = some a → check a = .ok () := by
  cases value <;> simp [Option.forM, pure, Except.pure]

theorem readFile_eq_ok {files : Files} {path : String} {bytes : List UInt8} :
    readFile files path = .ok bytes ↔ files path = .ok bytes := by
  unfold readFile
  cases files path <;> simp

theorem parseAs_eq_ok {crates : ContractCrates} {kind path : String} {bytes : List UInt8}
    {select : ContractDocument → Option α} {value : α}
    (h : parseAs crates kind path bytes select = .ok value) :
    ∃ document, parseContract crates bytes = .ok document ∧ select document = some value := by
  unfold parseAs at h
  split at h
  · cases h
  · next document hparse =>
    split at h
    · next hselect => exact ⟨document, hparse, by rw [hselect, Except.ok.inj h]⟩
    · cases h

end Checks

-- ════════════════════════════════
-- Files
-- ════════════════════════════════

/-- The file an artifact refers to is local and has exactly the referenced content. -/
structure Verified (crates : ContractCrates) (files : Files) (base : String)
    (artifact : ArtifactReference) (bytes : List UInt8) : Prop where
  isLocal : isRemote artifact.location = false
  read : files (join base artifact.location) = .ok bytes
  size : ∀ expected, artifact.bytes = some expected → bytes.length = expected
  digest : crates.sha256Hex bytes = artifact.digest.value

section Files

variable {crates : ContractCrates} {files : Files} {base path : String}
  {artifact : ArtifactReference} {bytes : List UInt8}

theorem readVerifiedArtifact_eq_ok
    (h : readVerifiedArtifact crates files base artifact = .ok (path, bytes)) :
    path = join base artifact.location ∧ Verified crates files base artifact bytes := by
  obtain ⟨hlocal, h⟩ := except_seq_eq_ok.mp h
  obtain ⟨read, hread, h⟩ := except_bind_eq_ok.mp h
  obtain ⟨hsize, h⟩ := except_seq_eq_ok.mp h
  obtain ⟨hdigest, h⟩ := except_seq_eq_ok.mp h
  cases h
  refine ⟨rfl, bailWhen_eq_ok.mp hlocal, readFile_eq_ok.mp hread, ?_, ?_⟩
  · intro expected hexpected
    simpa [verifyBytes] using option_forM_eq_ok.mp hsize expected hexpected
  · rw [withContext_eq_ok, verifyDigest, bailWhen_eq_ok] at hdigest
    cases halgorithm : artifact.digest.algorithm
    simpa [halgorithm] using hdigest

theorem checkArtifact_eq_ok (h : checkArtifact crates files base artifact = .ok ()) :
    ∃ bytes, Verified crates files base artifact bytes := by
  obtain ⟨⟨path, bytes⟩, hread, -⟩ := except_bind_eq_ok.mp h
  exact ⟨bytes, (readVerifiedArtifact_eq_ok hread).2⟩

end Files

-- ════════════════════════════════
-- Links
-- ════════════════════════════════

/-- The component of the profile that an executed component names. -/
def Identifies (profile : Profile) (executed : ExecutedComponent) (kinds : List ComponentKind) :
    Prop :=
  ∃ component ∈ profile.components, component.id = executed.profileComponent ∧
    component.kind ∈ kinds ∧ component.name = executed.name ∧
    component.version = executed.version

/-- Every assertion of the scenario is evaluated once, nothing else is, and the required flags
are those of the scenario. -/
structure EvaluatesAll (result : ResultRecord) (scenario : Scenario) : Prop where
  ids : (result.assertions.map (·.assertion)).Perm (scenario.assertions.map (·.id))
  flags : ∀ evaluation ∈ result.assertions, ∃ assertion ∈ scenario.assertions,
    assertion.id = evaluation.assertion ∧ assertion.required = evaluation.required

/-- How a result of the bundle agrees with the profile and with the scenario it names. -/
structure Linked (manifest : ResultBundleManifest) (profile : Profile)
    (result : ResultRecord) (scenario : ValidatedScenario) : Prop where
  profileId : result.profile.id = profile.id
  profileDigest : result.profile.digest = manifest.profile.digest
  scenarioId : result.scenario.id = scenario.scenario.id
  scenarioVersion : result.scenario.version = scenario.scenario.version
  scenarioDigest : result.scenario.digest = scenario.artifact.digest
  catalog : Identifies profile result.catalog [.catalog]
  client : ∀ client, result.client = some client → Identifies profile client [.client, .engine]
  attempted : isAttempted result.outcome = true → EvaluatesAll result scenario.scenario
  passed : ∀ summary, result.outcome = .pass summary →
    ∀ assertion ∈ scenario.scenario.assertions, assertion.required = true →
      ∃ evaluation ∈ result.assertions,
        evaluation.assertion = assertion.id ∧ evaluation.outcome = .pass

section Links

variable {crates : ContractCrates} {profile : Profile} {result : ResultRecord}
  {executed : ExecutedComponent}

theorem validateComponentIdentity_eq_ok {component : Component}
    (h : validateComponentIdentity executed component = .ok ()) :
    component.name = executed.name ∧ component.version = executed.version := by
  simp only [validateComponentIdentity, bailWhen_eq_ok, Bool.or_eq_false_iff,
    decide_eq_false_iff_not, not_not] at h
  exact ⟨h.1.symm, h.2.symm⟩

theorem validateExecutedComponent_eq_ok (hvalid : profile.collectIssues crates.toCrates "$" = [])
    {kind : ComponentKind}
    (h : validateExecutedComponent executed kind (keyed Component.id profile.components) = .ok ()) :
    Identifies profile executed [kind] := by
  obtain ⟨component, hfound, h⟩ := except_bind_eq_ok.mp h
  obtain ⟨hkind, hidentity⟩ := except_seq_eq_ok.mp h
  obtain ⟨hmem, hid⟩ :=
    (keyed_getElem? (Profile.nodup_components hvalid)).mp (orBail_eq_ok.mp hfound)
  refine ⟨component, hmem, hid, ?_, validateComponentIdentity_eq_ok hidentity⟩
  simpa using hkind

theorem validateClient_eq_ok (hvalid : profile.collectIssues crates.toCrates "$" = [])
    (h : validateClient (keyed Component.id profile.components) executed = .ok ()) :
    Identifies profile executed [.client, .engine] := by
  obtain ⟨component, hfound, h⟩ := except_bind_eq_ok.mp h
  obtain ⟨hkind, hidentity⟩ := except_seq_eq_ok.mp h
  obtain ⟨hmem, hid⟩ :=
    (keyed_getElem? (Profile.nodup_components hvalid)).mp (orBail_eq_ok.mp hfound)
  refine ⟨component, hmem, hid, ?_, validateComponentIdentity_eq_ok hidentity⟩
  rw [bailWhen_eq_ok, Bool.not_eq_false', Bool.or_eq_true] at hkind
  simpa using hkind

variable {scenario : Scenario}

theorem validateEvaluation_eq_ok (hvalid : scenario.collectIssues "$" = [])
    {evaluation : AssertionEvaluation}
    (h : validateEvaluation (keyed AssertionSpec.id scenario.assertions) evaluation = .ok ()) :
    ∃ assertion ∈ scenario.assertions,
      assertion.id = evaluation.assertion ∧ assertion.required = evaluation.required := by
  obtain ⟨assertion, hfound, hflag⟩ := except_bind_eq_ok.mp h
  obtain ⟨hmem, hid⟩ :=
    (keyed_getElem? (Scenario.nodup_assertions hvalid)).mp (orBail_eq_ok.mp hfound)
  refine ⟨assertion, hmem, hid, ?_⟩
  rw [bailWhen_eq_ok, decide_eq_false_iff_not, not_not] at hflag
  exact hflag.symm

theorem requireCompleteAssertions_eq_ok
    (h : requireCompleteAssertions result (keyed AssertionSpec.id scenario.assertions) = .ok ()) :
    ∀ assertion ∈ scenario.assertions, assertion.id ∈ result.assertions.map (·.assertion) := by
  simp only [requireCompleteAssertions, bailWhen_eq_ok, Bool.not_eq_false', List.isEmpty_iff,
    List.filter_eq_nil_iff] at h
  intro assertion hmem
  have hkey : assertion.id ∈ (keyed AssertionSpec.id scenario.assertions).keys := by
    rw [Std.ExtTreeMap.mem_keys, keyed, Std.ExtTreeMap.mem_ofList]
    simpa using ⟨assertion, hmem, rfl⟩
  simpa using h assertion.id hkey

/-- Each evaluated assertion is one of the scenario and each of the scenario is evaluated, so
with distinct ids on both sides the two lists are permutations of each other. -/
theorem evaluatesAll (hscenario : scenario.collectIssues "$" = [])
    (hnodup : (result.assertions.map (·.assertion)).Nodup)
    (hevaluations : ∀ evaluation ∈ result.assertions, ∃ assertion ∈ scenario.assertions,
      assertion.id = evaluation.assertion ∧ assertion.required = evaluation.required)
    (hcomplete : ∀ assertion ∈ scenario.assertions,
      assertion.id ∈ result.assertions.map (·.assertion)) :
    EvaluatesAll result scenario := by
  refine ⟨?_, hevaluations⟩
  rw [List.perm_ext_iff_of_nodup hnodup (Scenario.nodup_assertions hscenario)]
  intro id
  simp only [List.mem_map]
  constructor
  · rintro ⟨evaluation, hmem, rfl⟩
    obtain ⟨assertion, hassertion, hid, -⟩ := hevaluations evaluation hmem
    exact ⟨assertion, hassertion, hid⟩
  · rintro ⟨assertion, hmem, rfl⟩
    exact List.mem_map.mp (hcomplete assertion hmem)

/-- What the scenario requires was marked as required in the record, and so had to pass. -/
theorem passed_of_evaluatesAll (hscenario : scenario.collectIssues "$" = [])
    (haccepted : result.Accepted) (hall : EvaluatesAll result scenario) {summary : Option String}
    (hpass : result.outcome = .pass summary) {assertion : AssertionSpec}
    (hmem : assertion ∈ scenario.assertions) (hrequired : assertion.required = true) :
    ∃ evaluation ∈ result.assertions,
      evaluation.assertion = assertion.id ∧ evaluation.outcome = .pass := by
  obtain ⟨evaluation, hevaluation, hid⟩ : ∃ evaluation ∈ result.assertions,
      evaluation.assertion = assertion.id :=
    List.mem_map.mp (hall.ids.mem_iff.mpr (List.mem_map.mpr ⟨assertion, hmem, rfl⟩))
  obtain ⟨specified, hspecified, hsame, hflag⟩ := hall.flags evaluation hevaluation
  have heq : specified = assertion :=
    List.inj_on_of_nodup_map (Scenario.nodup_assertions hscenario) hspecified hmem
      (hsame.trans hid)
  have hcopied : evaluation.required = true := by rw [← hflag, heq, hrequired]
  exact ⟨evaluation, hevaluation, hid,
    haccepted.required summary hpass evaluation hevaluation hcopied⟩

theorem validateResultLinks_eq_ok {manifest : ResultBundleManifest}
    {scenarios : List ValidatedScenario}
    (hprofile : profile.collectIssues crates.toCrates "$" = [])
    (hscenarios : ∀ scenario ∈ scenarios, scenario.scenario.collectIssues "$" = [])
    (haccepted : result.Accepted)
    (h : validateResultLinks result manifest.profile.digest profile
      (keyed Component.id profile.components) scenarios = .ok ()) :
    ∃ scenario ∈ scenarios, Linked manifest profile result scenario := by
  obtain ⟨hreference, h⟩ := except_seq_eq_ok.mp h
  obtain ⟨hcatalog, h⟩ := except_seq_eq_ok.mp h
  obtain ⟨hclient, h⟩ := except_seq_eq_ok.mp h
  obtain ⟨-, h⟩ := except_seq_eq_ok.mp h
  obtain ⟨scenario, hfound, h⟩ := except_bind_eq_ok.mp h
  obtain ⟨hversion, h⟩ := except_seq_eq_ok.mp h
  obtain ⟨hevaluations, hcomplete⟩ := except_seq_eq_ok.mp h
  rw [orBail_eq_ok] at hfound
  have hmem : scenario ∈ scenarios := List.mem_of_find?_eq_some hfound
  have hid : scenario.scenario.id = result.scenario.id := by
    simpa using List.find?_some hfound
  have hscenario := hscenarios scenario hmem
  have hflags : ∀ evaluation ∈ result.assertions, ∃ assertion ∈ scenario.scenario.assertions,
      assertion.id = evaluation.assertion ∧ assertion.required = evaluation.required :=
    fun evaluation hevaluation => validateEvaluation_eq_ok hscenario
      (except_forM_eq_ok.mp hevaluations evaluation hevaluation)
  have hall : isAttempted result.outcome = true → EvaluatesAll result scenario.scenario := by
    intro hattempted
    rw [if_pos hattempted] at hcomplete
    exact evaluatesAll hscenario haccepted.nodup hflags
      (requireCompleteAssertions_eq_ok hcomplete)
  simp only [bailWhen_eq_ok, Bool.or_eq_false_iff, decide_eq_false_iff_not, not_not]
    at hreference hversion
  refine ⟨scenario, hmem,
    { profileId := hreference.1
      profileDigest := hreference.2
      scenarioId := hid.symm
      scenarioVersion := hversion.1
      scenarioDigest := hversion.2
      catalog := validateExecutedComponent_eq_ok hprofile hcatalog
      client := fun client hsome =>
        validateClient_eq_ok hprofile (option_forM_eq_ok.mp hclient client hsome)
      attempted := hall
      passed := ?_ }⟩
  intro summary hpass assertion hassertion hrequired
  exact passed_of_evaluatesAll hscenario haccepted (hall (by rw [hpass]; rfl)) hpass hassertion
    hrequired

end Links

-- ════════════════════════════════
-- Loops
-- ════════════════════════════════

/-- A scenario of the bundle is the valid document its artifact refers to. -/
structure ScenarioLoaded (crates : ContractCrates) (files : Files) (base : String)
    (scenario : ValidatedScenario) : Prop where
  verified : ∃ bytes, Verified crates files base scenario.artifact bytes ∧
    parseContract crates bytes = .ok (.scenario scenario.scenario)
  valid : scenario.scenario.collectIssues "$" = []

/-- A result of the bundle is the valid document its artifact refers to, its evidence and its
artifacts are in place, and it agrees with one of the scenarios. -/
structure ResultLoaded (crates : ContractCrates) (files : Files) (base : String)
    (manifest : ResultBundleManifest) (profile : Profile) (scenarios : List ValidatedScenario)
    (result : ValidatedResult) : Prop where
  verified : ∃ bytes, Verified crates files base result.artifact bytes ∧
    parseContract crates bytes = .ok (.result result.result)
  linked : ∃ scenario ∈ scenarios, Linked manifest profile result.result scenario
  evidence : ∀ evidence ∈ result.result.evidence,
    ∃ bytes, Verified crates files base evidence.artifact bytes
  artifacts : ∀ artifact ∈ result.result.artifacts,
    ∃ bytes, Verified crates files base artifact bytes

section Loops

variable {crates : ContractCrates} {files : Files} {base : String}
  {artifacts : List ArtifactReference}

theorem loadScenarios_eq_ok {seen : List ScenarioId} {scenarios : List ValidatedScenario}
    (h : loadScenarios crates files base seen artifacts = .ok scenarios) :
    scenarios.map (·.artifact) = artifacts ∧
      (scenarios.map (·.scenario.id)).Nodup ∧
      (∀ id ∈ scenarios.map (·.scenario.id), id ∉ seen) ∧
      ∀ scenario ∈ scenarios, ScenarioLoaded crates files base scenario := by
  induction artifacts generalizing seen scenarios with
  | nil => cases h; simp
  | cons artifact artifacts ih =>
    obtain ⟨⟨path, bytes⟩, hread, h⟩ := except_bind_eq_ok.mp h
    obtain ⟨scenario, hparse, h⟩ := except_bind_eq_ok.mp h
    obtain ⟨hfresh, h⟩ := except_seq_eq_ok.mp h
    obtain ⟨rest, hrest, h⟩ := except_bind_eq_ok.mp h
    cases h
    obtain ⟨hartifacts, hnodup, hunseen, hloaded⟩ := ih hrest
    obtain ⟨document, hdocument, hselect⟩ := parseAs_eq_ok hparse
    obtain rfl := ContractDocument.asScenario_eq_some.mp hselect
    have hhead : ScenarioLoaded crates files base ⟨artifact, path, scenario⟩ :=
      ⟨⟨bytes, (readVerifiedArtifact_eq_ok hread).2, hdocument⟩, parseContract_valid hdocument⟩
    refine ⟨by simp [hartifacts], ?_, ?_, List.forall_mem_cons.mpr ⟨hhead, hloaded⟩⟩
    · refine List.nodup_cons.mpr ⟨fun hmem => ?_, hnodup⟩
      exact hunseen _ hmem List.mem_cons_self
    · refine List.forall_mem_cons.mpr ⟨by simpa using hfresh, fun id hmem hseen => ?_⟩
      exact hunseen id hmem (List.mem_cons_of_mem _ hseen)

theorem loadResults_eq_ok {manifest : ResultBundleManifest} {profile : Profile}
    {scenarios : List ValidatedScenario}
    (hprofile : profile.collectIssues crates.toCrates "$" = [])
    (hscenarios : ∀ scenario ∈ scenarios, scenario.scenario.collectIssues "$" = [])
    {seen : List ResultId} {results : List ValidatedResult}
    (h : loadResults crates files base manifest.profile.digest profile scenarios seen artifacts =
      .ok results) :
    results.map (·.artifact) = artifacts ∧
      (results.map (·.result.id)).Nodup ∧
      (∀ id ∈ results.map (·.result.id), id ∉ seen) ∧
      ∀ result ∈ results,
        ResultLoaded crates files base manifest profile scenarios result := by
  induction artifacts generalizing seen results with
  | nil => cases h; simp
  | cons artifact artifacts ih =>
    obtain ⟨⟨path, bytes⟩, hread, h⟩ := except_bind_eq_ok.mp h
    obtain ⟨result, hparse, h⟩ := except_bind_eq_ok.mp h
    obtain ⟨hfresh, h⟩ := except_seq_eq_ok.mp h
    obtain ⟨hlinks, h⟩ := except_seq_eq_ok.mp h
    obtain ⟨hevidence, h⟩ := except_seq_eq_ok.mp h
    obtain ⟨hartifacts, h⟩ := except_seq_eq_ok.mp h
    obtain ⟨rest, hrest, h⟩ := except_bind_eq_ok.mp h
    cases h
    obtain ⟨hsame, hnodup, hunseen, hloaded⟩ := ih hrest
    obtain ⟨document, hdocument, hselect⟩ := parseAs_eq_ok hparse
    obtain rfl := ContractDocument.asResult_eq_some.mp hselect
    have haccepted : result.Accepted := ResultRecord.accepted (parseContract_valid hdocument)
    have hhead : ResultLoaded crates files base manifest profile scenarios
        ⟨artifact, path, result⟩ :=
      { verified := ⟨bytes, (readVerifiedArtifact_eq_ok hread).2, hdocument⟩
        linked := validateResultLinks_eq_ok hprofile hscenarios haccepted
          (withContext_eq_ok.mp hlinks)
        evidence := fun evidence hmem => checkArtifact_eq_ok
          (withContext_eq_ok.mp (except_forM_eq_ok.mp hevidence evidence hmem))
        artifacts := fun artifact hmem => checkArtifact_eq_ok
          (withContext_eq_ok.mp (except_forM_eq_ok.mp hartifacts artifact hmem)) }
    refine ⟨by simp [hsame], ?_, ?_, List.forall_mem_cons.mpr ⟨hhead, hloaded⟩⟩
    · refine List.nodup_cons.mpr ⟨fun hmem => ?_, hnodup⟩
      exact hunseen _ hmem List.mem_cons_self
    · refine List.forall_mem_cons.mpr ⟨by simpa using hfresh, fun id hmem hseen => ?_⟩
      exact hunseen id hmem (List.mem_cons_of_mem _ hseen)

end Loops

-- ════════════════════════════════
-- The bundle
-- ════════════════════════════════

/-- Every file a bundle refers to. -/
def ValidatedBundle.references (bundle : ValidatedBundle) : List ArtifactReference :=
  bundle.manifest.profile :: bundle.manifest.scenarios ++ bundle.manifest.sourceEvidence ++
    bundle.manifest.results ++
    bundle.results.flatMap fun result =>
      result.result.evidence.map (·.artifact) ++ result.result.artifacts

/-- What a loaded bundle holds. -/
structure ValidatedBundle.Admitted (crates : ContractCrates) (files : Files) (base : String)
    (bundle : ValidatedBundle) : Prop where
  /-- The manifest and the profile are the documents in their files. -/
  manifest : ∃ bytes, files bundle.manifestPath = .ok bytes ∧
    parseContract crates bytes = .ok (.manifest bundle.manifest)
  profile : ∃ bytes, files (join base bundle.manifest.profile.location) = .ok bytes ∧
    parseContract crates bytes = .ok (.profile bundle.profile)
  /-- The scenarios and the results are those of the manifest, in its order. -/
  scenarios : bundle.scenarios.map (·.artifact) = bundle.manifest.scenarios
  results : bundle.results.map (·.artifact) = bundle.manifest.results
  documents : (∀ scenario ∈ bundle.scenarios,
      ∃ bytes, files (join base scenario.artifact.location) = .ok bytes ∧
        parseContract crates bytes = .ok (.scenario scenario.scenario)) ∧
    ∀ result ∈ bundle.results,
      ∃ bytes, files (join base result.artifact.location) = .ok bytes ∧
        parseContract crates bytes = .ok (.result result.result)
  /-- Every file has the referenced digest and, when given, byte count. -/
  files : ∀ artifact ∈ bundle.references, ∃ bytes, Verified crates files base artifact bytes
  scenarioIds : (bundle.scenarios.map (·.scenario.id)).Nodup
  resultIds : (bundle.results.map (·.result.id)).Nodup
  linked : ∀ result ∈ bundle.results, ∃ scenario ∈ bundle.scenarios,
    Linked bundle.manifest bundle.profile result.result scenario

theorem admitted_of_loadBundle {crates : ContractCrates} {files : Files} {manifestPath : String}
    {bundle : ValidatedBundle} (h : loadBundle crates files manifestPath = .ok bundle) :
    bundle.manifestPath = manifestPath ∧
      ∃ base, parent manifestPath = some base ∧ bundle.Admitted crates files base := by
  obtain ⟨manifestBytes, hmanifestRead, h⟩ := except_bind_eq_ok.mp h
  obtain ⟨manifest, hmanifestParse, h⟩ := except_bind_eq_ok.mp h
  obtain ⟨base, hbase, h⟩ := except_bind_eq_ok.mp h
  obtain ⟨⟨profilePath, profileBytes⟩, hprofileRead, h⟩ := except_bind_eq_ok.mp h
  obtain ⟨profile, hprofileParse, h⟩ := except_bind_eq_ok.mp h
  obtain ⟨-, h⟩ := except_seq_eq_ok.mp h
  obtain ⟨scenarios, hscenarios, h⟩ := except_bind_eq_ok.mp h
  obtain ⟨hsources, h⟩ := except_seq_eq_ok.mp h
  obtain ⟨results, hresults, h⟩ := except_bind_eq_ok.mp h
  cases h
  obtain ⟨manifestDocument, hmanifest, hselect⟩ := parseAs_eq_ok hmanifestParse
  obtain rfl := ContractDocument.asManifest_eq_some.mp hselect
  obtain ⟨profileDocument, hprofile, hselect⟩ := parseAs_eq_ok hprofileParse
  obtain rfl := ContractDocument.asProfile_eq_some.mp hselect
  obtain ⟨-, hprofileFile⟩ := readVerifiedArtifact_eq_ok hprofileRead
  obtain ⟨hscenarioArtifacts, hscenarioIds, -, hscenarioLoaded⟩ := loadScenarios_eq_ok hscenarios
  obtain ⟨hresultArtifacts, hresultIds, -, hresultLoaded⟩ :=
    loadResults_eq_ok (parseContract_valid hprofile)
      (fun scenario hmem => (hscenarioLoaded scenario hmem).valid) hresults
  refine ⟨rfl, base, orBail_eq_ok.mp hbase,
    { manifest := ⟨manifestBytes, readFile_eq_ok.mp hmanifestRead, hmanifest⟩
      profile := ⟨profileBytes, hprofileFile.read, hprofile⟩
      scenarios := hscenarioArtifacts
      results := hresultArtifacts
      documents := ⟨?_, ?_⟩
      files := ?_
      scenarioIds := hscenarioIds
      resultIds := hresultIds
      linked := fun result hmem => (hresultLoaded result hmem).linked }⟩
  · intro scenario hmem
    obtain ⟨bytes, hverified, hparse⟩ := (hscenarioLoaded scenario hmem).verified
    exact ⟨bytes, hverified.read, hparse⟩
  · intro result hmem
    obtain ⟨bytes, hverified, hparse⟩ := (hresultLoaded result hmem).verified
    exact ⟨bytes, hverified.read, hparse⟩
  · intro artifact hmem
    simp only [ValidatedBundle.references, List.cons_append, List.mem_cons, List.mem_append,
      List.mem_flatMap, List.mem_map, ← hscenarioArtifacts, ← hresultArtifacts] at hmem
    rcases hmem with rfl | ((hmem | hsource) | hmem) | ⟨result, hmem, hreference⟩
    · exact ⟨profileBytes, hprofileFile⟩
    · obtain ⟨scenario, hscenario, rfl⟩ := hmem
      obtain ⟨bytes, hverified, -⟩ := (hscenarioLoaded scenario hscenario).verified
      exact ⟨bytes, hverified⟩
    · exact checkArtifact_eq_ok (except_forM_eq_ok.mp hsources artifact hsource)
    · obtain ⟨result, hresult, rfl⟩ := hmem
      obtain ⟨bytes, hverified, -⟩ := (hresultLoaded result hresult).verified
      exact ⟨bytes, hverified⟩
    · rcases hreference with ⟨evidence, hevidence, rfl⟩ | hartifact
      · exact (hresultLoaded result hmem).evidence evidence hevidence
      · exact (hresultLoaded result hmem).artifacts artifact hartifact

/-- **Bundle admission soundness.** A loaded bundle holds exactly the referenced bytes; its
scenarios and its results have distinct ids; and every result agrees with the profile and with
its scenario, whose required assertions have all passed where the result does. -/
theorem loadBundle_admitted {crates : ContractCrates} {files : Files} {manifestPath : String}
    {bundle : ValidatedBundle} (h : loadBundle crates files manifestPath = .ok bundle) :
    bundle.manifestPath = manifestPath ∧
      ∃ base, parent manifestPath = some base ∧ bundle.Admitted crates files base :=
  admitted_of_loadBundle h

-- ════════════════════════════════
-- A bundle
-- ════════════════════════════════

mutual

/-- The compact text of a value whose strings need no escapes. -/
def compactText : Json → String
  | .null => "null"
  | .bool value => displayBool value
  | .number (.posInt n) => toString n
  | .number (.negInt n) => toString n
  | .number (.float value) => toString value
  | .string value => "\"" ++ value ++ "\""
  | .array values => "[" ++ ",".intercalate (compactTexts values) ++ "]"
  | .object fields => "\x7b" ++ ",".intercalate (compactFields fields) ++ "\x7d"

def compactTexts : List Json → List String
  | [] => []
  | value :: values => compactText value :: compactTexts values

def compactFields : List (String × Json) → List String
  | [] => []
  | (key, value) :: fields =>
    ("\"" ++ key ++ "\":" ++ compactText value) :: compactFields fields

end

def sampleDigest (hash : List UInt8) : Digest := ⟨.sha256, hex hash⟩

def digestJson (digest : Digest) : Json :=
  .object [("algorithm", .string "sha256"), ("value", .string digest.value)]

def scenarioHash : List UInt8 :=
  [42, 191, 9, 59, 80, 181, 134, 42, 230, 35, 25, 30, 6, 72, 118, 122, 181, 65, 45, 60, 141, 156,
    92, 15, 153, 74, 223, 20, 92, 126, 129, 141]

def profileHash : List UInt8 :=
  [200, 153, 28, 211, 224, 74, 48, 39, 223, 124, 52, 53, 149, 49, 235, 38, 153, 153, 146, 201, 221,
    142, 158, 254, 170, 122, 187, 210, 68, 49, 13, 103]

def resultHash : List UInt8 :=
  [105, 184, 136, 152, 147, 18, 250, 52, 62, 69, 92, 90, 158, 54, 170, 6, 55, 98, 34, 222, 221, 194,
    125, 88, 252, 127, 105, 239, 156, 41, 100, 109]

def packageDigest : Digest := sampleDigest (List.replicate 32 171)

def sampleScenario : Scenario :=
  { id := "commit", version := 1, title := "Commit", description := "One commit."
    family := .concurrency, tags := [], capabilities := [], parameters := ∅
    steps := [⟨"send", .harness, "table.commit", "Commit once.", [], ∅, none⟩]
    assertions := [⟨"accepted", "send", true, "It is accepted.", .noRequestErrors⟩]
    extensions := ∅ }

def scenarioJson : Json :=
  .object [("contract_version", .string "catalog-bench/v1"), ("kind", .string "scenario"),
    ("id", .string "commit"), ("version", .number (.posInt 1)), ("title", .string "Commit"),
    ("description", .string "One commit."), ("family", .string "concurrency"),
    ("classification", .string "strict-v1"),
    ("steps", .array [.object [("id", .string "send"), ("actor", .string "harness"),
      ("operation", .string "table.commit"), ("description", .string "Commit once.")]]),
    ("assertions", .array [.object [("id", .string "accepted"), ("step", .string "send"),
      ("required", .bool true), ("description", .string "It is accepted."),
      ("check", .object [("kind", .string "no-request-errors")])]])]

def sampleProfile : Profile :=
  { id := "local", title := "Local", description := "One catalog.", resolvedAt := "2026-08-08"
    purpose := .historicalReproduction, readiness := .runnable
    platform := ⟨"linux", "arm64", .dockerCompose, none, "bridge", "bench", "s3://bench", ∅⟩
    components := [⟨"bench", .catalog, "Bench", "1.0", none, none,
      .package "cargo" "bench" "1.0" (some packageDigest), ∅⟩]
    services := [], catalogCapabilities := [], catalogAdapters := [], extensions := ∅ }

def profileJson : Json :=
  .object [("contract_version", .string "catalog-bench/v1"), ("kind", .string "profile"),
    ("id", .string "local"), ("title", .string "Local"), ("description", .string "One catalog."),
    ("resolved_at", .string "2026-08-08"), ("purpose", .string "historical-reproduction"),
    ("readiness", .object [("status", .string "runnable")]),
    ("platform", .object [("operating_system", .string "linux"),
      ("architecture", .string "arm64"), ("mode", .string "docker-compose"),
      ("network", .string "bridge"), ("shared_object_store", .string "bench"),
      ("warehouse_uri", .string "s3://bench")]),
    ("components", .array [.object [("id", .string "bench"), ("kind", .string "catalog"),
      ("name", .string "Bench"), ("version", .string "1.0"),
      ("artifact", .object [("kind", .string "package"), ("ecosystem", .string "cargo"),
        ("package", .string "bench"), ("version", .string "1.0"),
        ("digest", digestJson packageDigest)])]]),
    ("services", .array [])]

def sampleResult : ResultRecord :=
  { id := "bench-commit"
    scenario := ⟨"commit", 1, sampleDigest scenarioHash⟩
    profile := ⟨"local", sampleDigest profileHash⟩
    catalog := ⟨"bench", "Bench", "1.0"⟩, client := none, adapters := []
    run := .single "run" "10:00" "10:01" 1 none
    outcome := .pass none
    environment := ⟨"linux", "arm64", .exact "m1", .exact 8, .exact 1024, none, none, "bridge",
      .exact "docker", ∅, ∅⟩
    assertions := [⟨"accepted", true, .pass, []⟩]
    measurements := [], evidence := [], artifacts := [], extensions := ∅ }

def resultJson : Json :=
  let exact (value : Json) : Json := .object [("precision", .string "exact"), ("value", value)]
  .object [("contract_version", .string "catalog-bench/v1"), ("kind", .string "result"),
    ("id", .string "bench-commit"),
    ("scenario", .object [("id", .string "commit"), ("version", .number (.posInt 1)),
      ("digest", digestJson (sampleDigest scenarioHash))]),
    ("profile", .object [("id", .string "local"),
      ("digest", digestJson (sampleDigest profileHash))]),
    ("catalog", .object [("profile_component", .string "bench"), ("name", .string "Bench"),
      ("version", .string "1.0")]),
    ("run", .object [("kind", .string "single"), ("id", .string "run"),
      ("started_at", .string "10:00"), ("finished_at", .string "10:01"),
      ("repetition", .number (.posInt 1))]),
    ("outcome", .object [("status", .string "pass")]),
    ("environment", .object [("operating_system", .string "linux"),
      ("architecture", .string "arm64"), ("cpu_model", exact (.string "m1")),
      ("logical_cpus", exact (.number (.posInt 8))),
      ("memory_bytes", exact (.number (.posInt 1024))), ("network", .string "bridge"),
      ("container_runtime", exact (.string "docker"))]),
    ("assertions", .array [.object [("assertion", .string "accepted"), ("required", .bool true),
      ("outcome", .object [("status", .string "pass")])]])]

def sampleArtifact (location : String) (hash : List UInt8) : ArtifactReference :=
  ⟨location, "application/json", sampleDigest hash, none, none, ∅⟩

def artifactJson (location : String) (hash : List UInt8) : Json :=
  .object [("location", .string location), ("media_type", .string "application/json"),
    ("digest", digestJson (sampleDigest hash))]

def sampleManifest : ResultBundleManifest :=
  { id := "bundle", title := "Bundle", createdAt := "2026-08-08"
    provenance := .fixture "An example."
    profile := sampleArtifact "profile.json" profileHash
    scenarios := [sampleArtifact "scenario.json" scenarioHash]
    results := [sampleArtifact "result.json" resultHash]
    sourceEvidence := [], redaction := ⟨true, "none needed", []⟩, extensions := ∅ }

def manifestJson : Json :=
  .object [("contract_version", .string "catalog-bench/v1"), ("kind", .string "manifest"),
    ("id", .string "bundle"), ("title", .string "Bundle"), ("created_at", .string "2026-08-08"),
    ("provenance", .object [("kind", .string "fixture"), ("explanation", .string "An example.")]),
    ("profile", artifactJson "profile.json" profileHash),
    ("scenarios", .array [artifactJson "scenario.json" scenarioHash]),
    ("results", .array [artifactJson "result.json" resultHash]),
    ("redaction", .object [("reviewed", .bool true), ("policy", .string "none needed")])]

def sampleFiles : Files := fun path =>
  match path with
  | "bundle/manifest.json" => .ok (utf8 (compactText manifestJson))
  | "bundle/profile.json" => .ok (utf8 (compactText profileJson))
  | "bundle/scenario.json" => .ok (utf8 (compactText scenarioJson))
  | "bundle/result.json" => .ok (utf8 (compactText resultJson))
  | _ => .error "No such file or directory (os error 2)"

/-- The library functions on the files of the sample bundle. -/
def bundleCrates : ContractCrates where
  toCrates := { sampleCrates with
    sha256 := fun bytes =>
      if bytes = utf8 (compactText profileJson) then profileHash
      else if bytes = utf8 (compactText scenarioJson) then scenarioHash
      else if bytes = utf8 (compactText resultJson) then resultHash
      else [] }
  parseJson bytes :=
    match [manifestJson, profileJson, scenarioJson, resultJson].find? fun value =>
      utf8 (compactText value) = bytes with
    | some value => .ok value
    | none => .error "expected value at line 1 column 1"
  decodeScenario value := if value = scenarioJson then .ok sampleScenario else .error "invalid type"
  decodeResult value := if value = resultJson then .ok sampleResult else .error "invalid type"
  decodeProfile value := if value = profileJson then .ok sampleProfile else .error "invalid type"
  decodeManifest value := if value = manifestJson then .ok sampleManifest else .error "invalid type"
  parseF64 _ := none

theorem loadBundle_sample :
    ((loadBundle bundleCrates sampleFiles "bundle/manifest.json").toOption.any fun _ => true) =
      true := by
  decide +kernel

theorem loadBundle_admitted_sample : ∃ bundle,
    loadBundle bundleCrates sampleFiles "bundle/manifest.json" = .ok bundle ∧
      ∃ base, parent "bundle/manifest.json" = some base ∧
        bundle.Admitted bundleCrates sampleFiles base := by
  obtain ⟨bundle, hload, -⟩ := except_exists_of_any loadBundle_sample
  exact ⟨bundle, hload, (loadBundle_admitted hload).2⟩

end CatalogBench.ContractTool
