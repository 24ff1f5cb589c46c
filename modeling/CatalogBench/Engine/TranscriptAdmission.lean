import CatalogBench.Engine.ArtifactOwners
import CatalogBench.Engine.RowGenerators
import CatalogBench.Library.Folds

/-!
# What an accepted transcript says

A transcript is read again by whoever publishes it. Its checks are computed anew, from the last
event of every stage, so an accepted transcript says less about its events than the decoder
enforced when they were read. Its string values hold no secret, and its object keys only as far as
the engine chose none as a name.
-/

set_option linter.all false

namespace CatalogBench.Engine
open CatalogBench.Contract CatalogBench.Common Json Interaction Folds

-- ════════════════════════════════
-- What the checks see
-- ════════════════════════════════

/-- The stage was observed. -/
def EventObservations.saw (observations : EventObservations) : EngineStage → Bool
  | .verifyRuntime => observations.runtime.isSome
  | .initializeCatalog => observations.catalogReady
  | .preflightFixture => observations.fixtureAbsent
  | .createNamespace => observations.namespaceListedExactly
  | .createTable => observations.tableReady.isSome
  | .appendInitial => observations.initialSnapshots.isSome
  | .readInitial => observations.initialRead.isSome
  | .evolveSchema => observations.schemaEvolved.isSome
  | .appendEvolved => observations.evolvedSnapshots.isSome
  | .readEvolved => observations.evolvedRead.isSome
  | .observeFinalTable => observations.finalTable.isSome

theorem EventObservations.saw_observe {observations : EventObservations} {event : EngineEvent}
    {stage : EngineStage} (h : (observations.observe event).saw stage = true) :
    observations.saw stage = true ∨ event.successfulStage = some stage := by
  cases event <;> cases stage <;> first | exact .inl h | exact .inr rfl

/-- What a preflight found. -/
def EngineEvent.preflight : EngineEvent → Option Bool
  | .fixturePreflight absent => some absent
  | _ => none

theorem EventObservations.fixtureAbsent_observe (observations : EventObservations)
    (event : EngineEvent) :
    (observations.observe event).fixtureAbsent =
      event.preflight.getD observations.fixtureAbsent := by
  cases event <;> rfl

section Admitted

variable {crates : EngineCrates} {plan : InteroperabilityPlan}

/-- What an accepted transcript that passes says about its process. -/
structure ProcessAdmitted (crates : EngineCrates) (plan : InteroperabilityPlan)
    (process : EngineProcessExecution) (capture : EngineEventCapture) : Prop where
  captured : process.capture = some capture
  exit : process.exitCode = some successExit
  outcome : process.outcome = .completed
  terminal : process.outcome = .fromTerminal process.exitCode capture
  intact : capture.failure = none
  completed : capture.events.getLast? = some .completed
  /-- Every stage succeeded at least once. -/
  stages : ∀ stage ∈ EngineStage.order, ∃ event ∈ capture.events,
    event.successfulStage = some stage
  /-- The last preflight found nothing. -/
  preflight : (capture.events.filterMap EngineEvent.preflight).getLast? = some true
  /-- What the checks see is what they see of a completed run. -/
  observed : ∃ word t₁ t₂ t₃, EventsConform crates.toCrates plan word t₁ t₂ t₃ ∧
    capture.events.foldl EventObservations.observe {} = word.foldl EventObservations.observe {}
  /-- A list of events that keeps to the protocol is that run. -/
  word : EventWord capture.events → ∃ t₁ t₂ t₃,
    EventsConform crates.toCrates plan capture.events t₁ t₂ t₃

theorem fromTerminal_completed {capture : EngineEventCapture} (hintact : capture.failure = none)
    (hlast : capture.events.getLast? = some .completed) :
    EngineProcessOutcome.fromTerminal (some successExit) capture = .completed := by
  have hcompleted : capture.completed = true := by
    simp [EngineEventCapture.completed, hintact, hlast]
  rw [EngineProcessOutcome.fromTerminal, if_pos ⟨rfl, hcompleted⟩]

theorem processAdmitted_of_pass {execution : EngineExecution}
    (hpass : (execution.finalize crates.toCrates plan).classification = .pass) :
    ∃ capture, ProcessAdmitted crates plan execution.process capture := by
  obtain ⟨hpassed, hchecks⟩ := finalize_pass hpass
  obtain ⟨houtcome, hexit, capture, hcapture, hintact, hlast⟩ := (passed_iff _).mp hpassed
  obtain ⟨runtime, t₁, t₂, t₃, n₁, n₂, r₁, r₂, hobs⟩ := observations_of_checks hchecks
  obtain ⟨hconform, -⟩ := conforms_of_observations hobs hchecks
  have hfold : capture.events.foldl EventObservations.observe {} =
      completedObservations runtime t₁ t₂ t₃ n₁ n₂ r₁ r₂ := by
    rw [EventObservations.fromExecution, hcapture] at hobs
    exact hobs
  refine ⟨capture, hcapture, hexit, houtcome, ?_, hintact, hlast, fun stage _ => ?_, ?_,
    ⟨_, t₁, t₂, t₃, hconform, hfold⟩, fun hword => ?_⟩
  · rw [houtcome, hexit, fromTerminal_completed hintact hlast]
  · have hsaw : (capture.events.foldl EventObservations.observe {}).saw stage = true := by
      rw [hfold]
      cases stage <;> rfl
    have hseen := @exists_of_foldl _ _ EventObservations.observe (fun o => o.saw stage = true)
      (fun event => event.successfulStage = some stage)
      (fun _ _ => EventObservations.saw_observe) _ _ hsaw
    refine hseen.resolve_left fun hnone => ?_
    cases stage <;> cases hnone
  · have habsent := foldl_last EventObservations.fixtureAbsent_observe {} capture.events
    rw [hfold] at habsent
    cases hpreflight : (capture.events.filterMap EngineEvent.preflight).getLast? with
    | none =>
      rw [hpreflight] at habsent
      cases habsent
    | some absent =>
      rw [hpreflight] at habsent
      exact congrArg some habsent.symm
  · obtain ⟨t₁, t₂, t₃, hevents, -⟩ := eventsConform_of_checks hcapture hword hlast hchecks
    exact ⟨t₁, t₂, t₃, hevents⟩

end Admitted

/-- The keys of a transcript before those of its evidence. -/
def leadingKeys (components : EngineTranscriptComponents) (fixture : EngineTranscriptFixture) :
    List String :=
  ["format", "scenario", "id", "version", "contract_digests", "profile_sha256", "scenario_sha256",
    "profile", "id", "resolved_at", "components"] ++ components.toJson.keys ++ ["fixture"] ++
    fixture.toJson.keys ++ ["execution"]

/-- The keys of a transcript after those of its evidence. -/
def trailingKeys : List String :=
  ["sanitization", "policy", "negotiation_redactions_observed", "raw_secrets_persisted",
    "raw_engine_rows_persisted", "raw_response_body_persisted",
    "raw_backend_failure_detail_persisted", "transcript_sanitized"]

/-- The keys of a transcript around its evidence: field names, some of them only written if there
is a value. -/
def frameKeys (components : EngineTranscriptComponents) (fixture : EngineTranscriptFixture) :
    List String :=
  leadingKeys components fixture ++ trailingKeys

-- ════════════════════════════════
-- Validation
-- ════════════════════════════════

namespace EngineTranscript

variable {crates : EngineCrates} {contracts : EngineContracts crates}
  {transcript : EngineTranscript}

/-- What a transcript has to be to be accepted under its contracts. -/
structure Accepted (contracts : EngineContracts crates) (transcript : EngineTranscript)
    (plan : InteroperabilityPlan) : Prop where
  format : transcript.format = engineTranscriptFormat
  scenario : transcript.scenario = ⟨contracts.scenario.id, contracts.scenario.version⟩
  digests : transcript.contractDigests = contracts.digests
  profile : transcript.profile = ⟨contracts.profile.id, contracts.profile.resolvedAt⟩
  planned : contracts.plan transcript.components.catalog.id transcript.fixture.id = .ok plan
  components : expectedComponents contracts.profile plan = some transcript.components
  fixture : transcript.fixture = .ofPlan plan transcript.fixture.id
  checks : transcript.execution.checks = evaluateChecks crates.toCrates plan transcript.execution
  classification : transcript.execution.classification =
    (transcript.execution.finalize crates.toCrates plan).classification
  sanitization : transcript.sanitization.passed = true
  redactions : transcript.sanitization.negotiationRedactionsObserved =
    negotiationRedactions transcript.execution
  audit : auditWithPlan crates transcript plan [] = .ok ()

@[simp] theorem failWhen_eq_ok {violated : Bool} {kind : EngineTranscriptValidationFailureKind}
    {u : Unit} : failWhen violated kind = .ok u ↔ violated = false := by
  cases violated <;> simp [failWhen]

theorem isOk_eq_true {ε : Type} {x : Except ε Unit} : x.isOk = true ↔ x = .ok () := by
  cases x <;> simp [Except.isOk, Except.toBool]

theorem validate_eq_ok :
    transcript.validate contracts = .ok () ↔ ∃ plan, Accepted contracts transcript plan := by
  obtain ⟨format, ⟨id, version⟩, digests, ⟨profile, resolvedAt⟩, components, fixture, execution,
    sanitization⟩ := transcript
  simp only [validate, bind, except_bind_eq_ok, except_mapError_eq_ok, failWhen_eq_ok,
    Bool.or_eq_false_iff, decide_eq_false_iff_not, ne_eq, not_not, Bool.not_eq_false',
    isOk_eq_true, exists_const]
  constructor
  · rintro ⟨hformat, ⟨hid, hversion⟩, hdigests, ⟨hprofile, hresolved⟩, plan, hplan, hcomponents,
      hfixture, ⟨hchecks, hclassification⟩, ⟨hpassed, hredactions⟩, haudit⟩
    exact ⟨plan, hformat, by rw [hid, hversion], hdigests, by rw [hprofile, hresolved], hplan,
      hcomponents, hfixture, hchecks, hclassification, hpassed, hredactions, haudit⟩
  · rintro ⟨plan, hformat, hscenario, hdigests, hprofile, hplan, hcomponents, hfixture, hchecks,
      hclassification, hpassed, hredactions, haudit⟩
    cases hscenario
    cases hprofile
    exact ⟨hformat, ⟨rfl, rfl⟩, hdigests, ⟨rfl, rfl⟩, plan, hplan, hcomponents, hfixture,
      ⟨hchecks, hclassification⟩, ⟨hpassed, hredactions⟩, haudit⟩

/-- **Transcript admission.** The process of an accepted transcript that passes ended as it says,
and its checks cannot tell its events from those of a completed run. -/
theorem validate_admits (h : transcript.validate contracts = .ok ())
    (hpass : transcript.execution.classification = .pass) :
    ∃ plan capture,
      contracts.plan transcript.components.catalog.id transcript.fixture.id = .ok plan ∧
        ProcessAdmitted crates plan transcript.execution.process capture := by
  obtain ⟨plan, haccepted⟩ := validate_eq_ok.mp h
  obtain ⟨capture, hadmitted⟩ := processAdmitted_of_pass (haccepted.classification ▸ hpass)
  exact ⟨plan, capture, haccepted.planned, hadmitted⟩

theorem keys_eq (transcript : EngineTranscript) : transcript.toJson.keys =
    leadingKeys transcript.components transcript.fixture ++ transcript.execution.toJson.keys ++
      trailingKeys := by
  simp [toJson, leadingKeys, trailingKeys, EngineTranscriptSanitization.toJson, ofNat]

theorem mem_keys {key : String} : key ∈ transcript.toJson.keys ↔
    key ∈ frameKeys transcript.components transcript.fixture ∨
      key ∈ transcript.execution.toJson.keys := by
  rw [keys_eq, frameKeys, List.mem_append, List.mem_append, List.mem_append]
  exact or_right_comm

/-- **Secrets in transcripts.** A transcript that is returned holds no sensitive value exactly if
none is part of an object key: of a field name, or of a name in a map that the engine filled. -/
theorem fromExecution_excludes_iff {plan : InteroperabilityPlan} {fixtureId : String}
    {execution : EngineExecution} {sensitiveValues : List String}
    (h : fromExecution contracts plan fixtureId execution sensitiveValues = .ok transcript) :
    (Excludes sensitiveValues (transcript.toJson.strings ++ transcript.toJson.keys) ↔
      ∀ components, expectedComponents contracts.profile plan = some components →
        Excludes sensitiveValues
          (frameKeys components (.ofPlan plan fixtureId) ++ execution.toJson.keys)) ∧
    ∀ key ∈ execution.toJson.keys, key ∈ evidenceKeys ∨ key ∈ execution.mapKeys := by
  obtain ⟨components, hcomponents, haudit, -, rfl⟩ := fromExecution_eq_ok.mp h
  obtain ⟨⟨hstrings, -⟩, -⟩ := auditWithPlan_eq_ok.mp haudit
  have hkeys (key : String) :
      key ∈ ((unaudited contracts plan fixtureId execution components).sanitized).toJson.keys ↔
        key ∈ frameKeys components (.ofPlan plan fixtureId) ++ execution.toJson.keys :=
    mem_keys.trans List.mem_append.symm
  refine ⟨?_, fun key hkey => ?_⟩
  · rw [excludes_append, strings_sanitized]
    constructor
    · rintro ⟨-, hexcluded⟩ other hother key hkey
      rw [hcomponents] at hother
      cases hother
      exact hexcluded key ((hkeys key).mpr hkey)
    · intro hexcluded
      exact ⟨hstrings, fun key hkey => hexcluded _ hcomponents key ((hkeys key).mp hkey)⟩
  · have hvocabulary : execution.toJson.KeysIn (evidenceKeys ++ execution.mapKeys) :=
      execution.keysIn (List.subset_append_left _ _) (List.subset_append_right _ _)
    exact List.mem_append.mp (hvocabulary hkey)

end EngineTranscript

-- ════════════════════════════════
-- A transcript
-- ════════════════════════════════

/-- The crates of the Spark sample, with a writer of rows. -/
def rowCrates : EngineCrates :=
  { sparkCrates with tupleText := fun row => some (Conformance.compactText (.array row)) }

/-- The profile of the Spark sample, with the container runtime that stands for the runner. -/
def dockerProfile : Profile :=
  { sparkProfile true with
    platform := { (sparkProfile true).platform with containerRuntime := some "docker" }
    components := (sparkProfile true).components ++
      [sparkComponent "docker" .containerRuntime "Docker" "29.0" []] }

theorem dockerAdapters_valid :
    validateCatalogAdapters rowCrates.toCrates dockerProfile "$" = [] := by
  rw [validateCatalogAdapters, if_neg (by decide)]
  simp only [List.append_eq_nil_iff, List.map_eq_nil_iff, difference_eq_nil]
  exact ⟨⟨⟨⟨⟨⟨by decide, by decide⟩, by decide⟩, by decide⟩, by decide⟩, by decide⟩, by decide⟩

theorem dockerProfile_valid : dockerProfile.collectIssues rowCrates.toCrates "$" = [] := by
  rw [Profile.collectIssues, List.append_eq_nil_iff]
  exact ⟨by decide +kernel, dockerAdapters_valid⟩

/-- A check whose texts are in order. -/
def checkInOrder : AssertionCheck → Bool
  | .custom name _ => !isBlank name && containsText name "/"
  | .dataRead expectation => !isBlank expectation
  | _ => false

theorem containsText_slash {cs : List Char} (h : '/' ∈ cs) :
    containsText (String.ofList cs) "/" = true := by
  obtain ⟨before, after, rfl⟩ := List.append_of_mem h
  rw [containsText, decide_eq_true_eq, String.toList_ofList, String.toList_ofList]
  exact ⟨before, after, List.append_assoc _ _ _⟩

theorem checkInOrder_custom {c : Char} {cs : List Char} {parameters : Json}
    (h : isWhiteSpace c = false) (hslash : '/' ∈ c :: cs) :
    checkInOrder (.custom (String.ofList (c :: cs)) parameters) = true := by
  rw [checkInOrder, isBlank_cons h, containsText_slash hslash]
  rfl

theorem checkInOrder_dataRead {c : Char} {cs : List Char} (h : isWhiteSpace c = false) :
    checkInOrder (.dataRead (String.ofList (c :: cs))) = true := by
  rw [checkInOrder, isBlank_cons h]
  rfl

set_option maxRecDepth 4000 in
theorem canonicalSteps_described : ∀ step ∈ canonicalSteps, isBlank step.description = false := by
  simp only [canonicalSteps, List.forall_mem_cons]
  repeat (first | exact List.forall_mem_nil _ | refine ⟨isBlank_cons (by decide), ?_⟩)

set_option maxRecDepth 4000 in
theorem canonicalAssertions_described :
    ∀ assertion ∈ canonicalAssertions, isBlank assertion.description = false := by
  simp only [canonicalAssertions, List.forall_mem_cons]
  repeat (first | exact List.forall_mem_nil _ | refine ⟨isBlank_cons (by decide), ?_⟩)

set_option maxRecDepth 4000 in
theorem canonicalCapabilities_described :
    ∀ requirement ∈ canonicalCapabilities, isBlank requirement.description = false := by
  simp only [canonicalCapabilities, List.forall_mem_cons]
  repeat (first | exact List.forall_mem_nil _ | refine ⟨isBlank_cons (by decide), ?_⟩)

set_option maxRecDepth 4000 in
theorem canonicalSteps_named : ∀ step ∈ canonicalSteps,
    isBlank step.id = false ∧ isBlank step.operation = false ∧ step.dependsOn.Nodup := by
  simp only [canonicalSteps, List.forall_mem_cons]
  repeat (first
    | exact List.forall_mem_nil _
    | refine ⟨⟨isBlank_cons (by decide), isBlank_cons (by decide), by simp⟩, ?_⟩)

theorem canonicalSteps_ordered : ∀ entry ∈ canonicalSteps.zipIdx,
    ∀ dependency ∈ entry.1.dependsOn,
      (canonicalScenario.stepPositions[dependency]?).any (· < entry.2) = true := by
  decide +kernel

set_option maxRecDepth 4000 in
theorem canonicalAssertions_named : ∀ assertion ∈ canonicalAssertions,
    isBlank assertion.id = false ∧
      (canonicalSteps.map (·.id)).contains assertion.step = true := by
  simp only [canonicalAssertions, List.forall_mem_cons]
  repeat (first
    | exact List.forall_mem_nil _
    | refine ⟨⟨isBlank_cons (by decide), by simp [canonicalSteps]⟩, ?_⟩)

set_option maxRecDepth 4000 in
theorem canonicalAssertions_inOrder :
    ∀ assertion ∈ canonicalAssertions, checkInOrder assertion.check = true := by
  simp only [canonicalAssertions, List.forall_mem_cons]
  repeat (first
    | exact List.forall_mem_nil _
    | with_reducible refine ⟨checkInOrder_custom (by decide) (by simp), ?_⟩
    | refine ⟨checkInOrder_dataRead (by decide), ?_⟩)

theorem canonicalScenario_distinct : (canonicalSteps.map (·.id)).Nodup ∧
    (canonicalAssertions.map (·.id)).Nodup ∧ (canonicalCapabilities.map (·.capability)).Nodup := by
  simp [canonicalSteps, canonicalAssertions, canonicalCapabilities]

set_option maxRecDepth 4000 in
theorem canonicalCapabilities_named :
    ∀ requirement ∈ canonicalCapabilities, isBlank requirement.capability = false := by
  simp only [canonicalCapabilities, List.forall_mem_cons]
  repeat (first | exact List.forall_mem_nil _ | refine ⟨isBlank_cons (by decide), ?_⟩)

theorem dependencyIssues_of_precedes {positions : StringMap ℕ} {index : ℕ} {path : String}
    {dependency : StepId} (h : (positions[dependency]?).any (· < index) = true) :
    Scenario.dependencyIssues positions index path dependency = [] := by
  obtain ⟨position, hposition, hlt⟩ := (Option.any_eq_true _ _).mp h
  simp only [Scenario.dependencyIssues, hposition, issueWhen_eq_nil, hlt, Bool.not_true]

theorem validateCheck_of_inOrder {check : AssertionCheck} (h : checkInOrder check = true)
    (path : String) : validateCheck check path = [] := by
  cases check with
  | custom name parameters =>
    simp only [checkInOrder, Bool.and_eq_true, Bool.not_eq_true'] at h
    simp [validateCheck, issueWhen_eq_nil, h]
  | dataRead expectation =>
    simp only [checkInOrder, Bool.not_eq_true'] at h
    simp [validateCheck, h]
  | _ => cases h

theorem canonicalAssertions_checked (path : String) (assertion : AssertionSpec)
    (hmem : assertion ∈ canonicalAssertions) : validateCheck assertion.check path = [] := by
  have hcheck : checkInOrder assertion.check = true :=
    canonicalAssertions_inOrder assertion hmem
  exact validateCheck_of_inOrder hcheck path

set_option maxRecDepth 4000 in
theorem canonicalScenario_valid : canonicalScenario.collectIssues "$" = [] := by
  have hdistinct := canonicalScenario_distinct
  simp only [Scenario.collectIssues, List.append_eq_nil_iff, requireNonEmpty_eq_nil,
    issueWhen_eq_nil, requireUnique_eq_nil, eachIndexed, List.flatMap_eq_nil_iff]
  refine ⟨⟨⟨⟨⟨⟨⟨⟨⟨⟨⟨isBlank_cons (by decide), rfl⟩, isBlank_cons (by decide)⟩,
    isBlank_cons (by decide)⟩, rfl⟩, rfl⟩, hdistinct.1⟩, hdistinct.2.1⟩, hdistinct.2.2⟩,
    fun entry hentry => ?_⟩, fun entry hentry => ?_⟩, fun entry hentry => ?_⟩
  · obtain ⟨hid, hoperation, hnodup⟩ := canonicalSteps_named _ (List.fst_mem_of_mem_zipIdx hentry)
    refine ⟨⟨⟨⟨hid, hoperation⟩,
      canonicalSteps_described _ (List.fst_mem_of_mem_zipIdx hentry)⟩, hnodup⟩,
      fun dependency hmem => ?_⟩
    exact dependencyIssues_of_precedes (canonicalSteps_ordered entry hentry dependency hmem)
  · obtain ⟨hid, hstep⟩ := canonicalAssertions_named _ (List.fst_mem_of_mem_zipIdx hentry)
    have hstep : (!(canonicalScenario.steps.map (·.id)).contains entry.1.step) = false := by
      rw [Bool.not_eq_false']
      exact hstep
    exact ⟨⟨⟨hid, hstep⟩, canonicalAssertions_described _ (List.fst_mem_of_mem_zipIdx hentry)⟩,
      canonicalAssertions_checked _ _ (List.fst_mem_of_mem_zipIdx hentry)⟩
  · exact ⟨canonicalCapabilities_named _ (List.fst_mem_of_mem_zipIdx hentry),
      canonicalCapabilities_described _ (List.fst_mem_of_mem_zipIdx hentry)⟩

theorem dockerPlan_eq :
    InteroperabilityPlan.fromContracts rowCrates dockerProfile canonicalScenario "lakecat" "run1" =
      .ok (sampleSpark true) := by
  have hcanonical : validateCanonicalScenario rowCrates canonicalScenario = .ok () := by
    simp [validateCanonicalScenario, rowCrates, sparkCrates, canonicalScenario, Commit.rejectWhen]
    rfl
  have hdecoded : decodeParameters rowCrates canonicalScenario = .ok canonicalParameters := by
    rw [decodeParameters_eq_ok]
    simp only [rowCrates, sparkCrates, canonicalScenario, if_true]
  have hstore : objectStorePlan rowCrates.toCrates dockerProfile =
      .ok (sampleSpark true).objectStore := by
    decide
  rw [InteroperabilityPlan.fromContracts]
  refine except_bind_eq_ok.mpr ⟨sparkEngine, rfl, ?_⟩
  rw [InteroperabilityPlan.fromContractsForEngine]
  refine except_seq_eq_ok.mpr ⟨hcanonical, ?_⟩
  refine except_bind_eq_ok.mpr ⟨canonicalParameters, hdecoded, ?_⟩
  refine except_seq_eq_ok.mpr ⟨canonicalParameters_valid, ?_⟩
  refine except_seq_eq_ok.mpr ⟨linux_supported rfl rfl rfl rfl,
    except_bind_eq_ok.mpr ⟨sparkAdapter, rfl, ?_⟩⟩
  refine except_seq_eq_ok.mpr ⟨rfl, except_seq_eq_ok.mpr ⟨rfl, ?_⟩⟩
  refine except_bind_eq_ok.mpr ⟨_, rfl, except_bind_eq_ok.mpr ⟨none, rfl, ?_⟩⟩
  refine except_bind_eq_ok.mpr ⟨sparkEngine, rfl, except_bind_eq_ok.mpr ⟨sparkConnector, rfl, ?_⟩⟩
  refine except_seq_eq_ok.mpr ⟨rfl, except_bind_eq_ok.mpr ⟨_, hstore, ?_⟩⟩
  refine except_bind_eq_ok.mpr ⟨_, rfl, except_bind_eq_ok.mpr ⟨_, rfl, ?_⟩⟩
  refine except_bind_eq_ok.mpr ⟨_, rfl, except_bind_eq_ok.mpr ⟨_, sparkArtifacts_eq true, ?_⟩⟩
  exact except_seq_eq_ok.mpr ⟨rfl, except_seq_eq_ok.mpr ⟨rfl, rfl⟩⟩

def sampleContracts : EngineContracts rowCrates where
  profile := dockerProfile
  scenario := canonicalScenario
  digests := ⟨hex (List.replicate 32 1), hex (List.replicate 32 2)⟩
  profileValid := dockerProfile_valid
  scenarioValid := canonicalScenario_valid

/-- The table after a number of appends. -/
def appendedTable (appends : ℕ) : EngineTableObservation where
  tableUuid := "00000000-0000-4000-8000-000000000001"
  metadataLocation := "s3://bench/events/metadata/" ++ toString appends ++ ".metadata.json"
  location := "s3://bench/events"
  formatVersion := 2
  lastColumnId := if appends = 0 then 3 else 4
  schema := canonicalParameters.table.schema.fields.map engineField ++
    if appends = 0 then [] else [⟨4, "note", false, .string⟩]
  snapshots := appends
  properties := .ofList (canonicalParameters.table.properties.keys.map fun key => (key, .match)) _

def sampleRuntime (dependencies : StringMap String) : EngineRuntimeObservation :=
  ⟨"4.1.3", dependencies, "linux", "aarch64"⟩

def pinnedDependencies : StringMap String :=
  .ofList [("java", sparkJavaVersion), ("scala", sparkScalaVersion)] _

/-- The events of a completed run; the catalog is ready more than once. -/
def sampleEvents (dependencies : StringMap String) (repeated : ℕ) : List EngineEvent :=
  [EngineEvent.runtimeReady (sampleRuntime dependencies)] ++
    List.replicate repeated EngineEvent.catalogReady ++
    [EngineEvent.catalogReady, .fixturePreflight true, .namespaceReady true,
      .tableReady (appendedTable 0), .initialAppended 1,
      .initialRead ⟨16, 346, "e78b526d7e757090a9a90c80802c2a543cbf8166cfac6d6ed48c618926e85a15"⟩,
      .schemaEvolved (appendedTable 1), .evolvedAppended 2,
      .evolvedRead ⟨20, 570, "b2af6f475851e07d1ace3706d8867530c13dd5938bee90cfcc62d3939e01bea2"⟩,
      .finalTable (appendedTable 2), .completed]

/-- What a run with these events leaves behind. -/
def sampleExecution (events : List EngineEvent) : EngineExecution :=
  EngineExecution.finalize rowCrates.toCrates (sampleSpark true)
    { process := .fromInProcessEvents
        ⟨⟨"linux", "linux", true, "arm64", "aarch64", true⟩,
          (sampleSpark true).runtimeArtifacts.map fun artifact =>
            ⟨artifact.location, artifact.mediaType, artifact.components, artifact.bytes,
              artifact.sha256, .match artifact.bytes artifact.sha256⟩⟩ 0 events 1
      catalogConnection := .ready
        { adapter := ⟨"lakecat", "LakeCat", "1.0", .icebergRestV1, .protocolNative⟩
          authentication := ⟨.anonymous, .ready, none⟩
          config := ⟨some 200, some 2, .unprefixed, .default, none⟩
          redactionsObserved := 0 }
      catalogState := .succeeded (.present 200 512 ⟨1, appendedTable 2⟩)
      objectState := .succeeded ⟨"s3://bench/events", 4, 400, 2, 200,
        (appendedTable 2).metadataLocation, true⟩
      cleanup := ⟨.succeeded ⟨204, 0, false⟩, .succeeded (.absent 404 0),
        .succeeded ⟨204, 0, false⟩, .succeeded (.absent 404 0)⟩
      checks := {}
      classification := .fail }

def sampleComponents : EngineTranscriptComponents where
  runner := ⟨"docker", "Docker", "29.0", none⟩
  catalog := ⟨"lakecat", "LakeCat", "1.0", none⟩
  engine := ⟨"spark", "Apache Spark", "4.1.3", none⟩
  connector := ⟨"iceberg", "Apache Iceberg Java engine runtimes", "1.11.0", none⟩
  objectStore := ⟨"minio", "MinIO", "1.0", none⟩

/-- The transcript of a run, before its audit. -/
def sampleTranscript (events : List EngineEvent) : EngineTranscript :=
  .unaudited sampleContracts (sampleSpark true) "run1" (sampleExecution events) sampleComponents

theorem sampleComponents_expected :
    expectedComponents sampleContracts.profile (sampleSpark true) = some sampleComponents := rfl

/-- Every row is written with a bracket. -/
theorem canonicalRows_bracketed :
    ∃ rows, canonicalRowValues rowCrates (sampleSpark true) = some rows ∧
      ∀ row ∈ rows, 91 ∈ utf8 row := by
  have hgenerates : Generates (sampleSpark true).scenario :=
    generates_of_accepted sampleSparkPlan_accepted
  have hrows := canonicalRowValues_eq rowCrates hgenerates
  rw [show (fun row : List RowValue => rowCrates.tupleText (row.map RowValue.toJson)) =
    fun row => pure (Conformance.compactText (.array (row.map RowValue.toJson))) from rfl,
    List.mapM_pure] at hrows
  refine ⟨_, hrows, fun row hrow => ?_⟩
  obtain ⟨values, -, rfl⟩ := List.mem_map.mp (mem_sortDedup.mp hrow)
  rw [utf8_eq_flatMap]
  exact List.mem_flatMap.mpr ⟨'[', by simp [Conformance.compactText], by decide⟩

/-- A byte that a row, a credential or the secret of the sample has: `[`, `B` or `#`. -/
def isTelling (byte : UInt8) : Bool := byte = 91 || byte = 66 || byte = 35

/-- No string value has such a byte. -/
def isClean (transcript : EngineTranscript) : Bool :=
  transcript.toJson.strings.all fun text => (utf8 text).all fun byte => !isTelling byte

theorem utf8_subset_of_inside {text inside : String} (h : inside.toList <:+: text.toList) :
    utf8 inside ⊆ utf8 text := by
  rw [utf8_eq_flatMap, utf8_eq_flatMap]
  intro byte hbyte
  obtain ⟨c, hmem, hbyte⟩ := List.mem_flatMap.mp hbyte
  exact List.mem_flatMap.mpr ⟨c, h.subset hmem, hbyte⟩

theorem excludes_of_isClean {transcript : EngineTranscript} (h : isClean transcript = true)
    {needles : List String}
    (hneedles : ∀ needle ∈ needles, ∃ byte ∈ utf8 needle, isTelling byte = true) :
    Excludes needles transcript.toJson.strings := by
  intro text htext needle hneedle _ hinside
  obtain ⟨byte, hmem, htelling⟩ := hneedles needle hneedle
  have hclean := List.all_eq_true.mp (List.all_eq_true.mp h text htext) byte
    (utf8_subset_of_inside hinside hmem)
  rw [htelling] at hclean
  cases hclean

theorem audited_of_isClean {transcript : EngineTranscript} {sensitiveValues : List String}
    (h : isClean transcript = true)
    (hsecrets : ∀ secret ∈ sensitiveValues, ∃ byte ∈ utf8 secret, isTelling byte = true) :
    EngineTranscript.auditWithPlan rowCrates transcript (sampleSpark true) sensitiveValues =
      .ok () := by
  obtain ⟨rows, hrows, hbracketed⟩ := canonicalRows_bracketed
  have hbearer : ∀ needle ∈ [rawBearerPrefix], ∃ byte ∈ utf8 needle, isTelling byte = true := by
    decide
  exact EngineTranscript.auditWithPlan_eq_ok.mpr
    ⟨⟨excludes_of_isClean h hsecrets, excludes_of_isClean h hbearer⟩, rows, hrows,
      excludes_of_isClean h fun row hrow => ⟨91, hbracketed row hrow, rfl⟩⟩

theorem finalize_finalized (crates : Crates) (plan : InteroperabilityPlan)
    (execution : EngineExecution) :
    (execution.finalize crates plan).finalize crates plan = execution.finalize crates plan := rfl

/-- A clean transcript of the sample is accepted. -/
theorem sampleTranscript_valid {events : List EngineEvent}
    (h : isClean (sampleTranscript events) = true) :
    (sampleTranscript events).sanitized.validate sampleContracts = .ok () := by
  refine EngineTranscript.validate_eq_ok.mpr ⟨sampleSpark true, rfl, rfl, rfl, rfl, ?_,
    sampleComponents_expected, rfl, rfl, ?_, rfl, rfl, ?_⟩
  · exact except_mapError_eq_ok.mpr dockerPlan_eq
  · exact congrArg EngineExecution.classification (finalize_finalized _ _ _).symm
  · have haudited := EngineTranscript.auditWithPlan_eq_ok.mp
      (@audited_of_isClean _ [] h (by simp))
    rw [EngineTranscript.auditWithPlan_eq_ok, EngineTranscript.strings_sanitized]
    exact haudited

theorem sampleTranscript_returned {events : List EngineEvent} {sensitiveValues : List String}
    (h : isClean (sampleTranscript events) = true)
    (hsecrets : ∀ secret ∈ sensitiveValues, ∃ byte ∈ utf8 secret, isTelling byte = true) :
    EngineTranscript.fromExecution sampleContracts (sampleSpark true) "run1"
      (sampleExecution events) sensitiveValues = .ok (sampleTranscript events).sanitized :=
  EngineTranscript.fromExecution_eq_ok.mpr ⟨sampleComponents, sampleComponents_expected,
    audited_of_isClean h hsecrets, sampleTranscript_valid h, rfl⟩

/-- The events of a completed run, but the catalog is ready twice. -/
def repeatedEvents : List EngineEvent := sampleEvents pinnedDependencies 1

theorem repeatedEvents_pass :
    (sampleTranscript repeatedEvents).sanitized.execution.classification = .pass := by
  decide +kernel

/-- A classification that is known need not be computed again. -/
theorem isClean_of_classification {transcript : EngineTranscript}
    {classification : EngineBehaviorClassification}
    (hclass : transcript.execution.classification = classification)
    (h : isClean { transcript with
      execution := { transcript.execution with classification } } = true) :
    isClean transcript = true := by
  subst hclass
  exact h

theorem repeatedEvents_clean : isClean (sampleTranscript repeatedEvents) = true :=
  isClean_of_classification repeatedEvents_pass (by decide +kernel)

/-- A transcript in which an event is repeated is accepted and passes. -/
theorem repeatedEvents_accepted :
    (sampleTranscript repeatedEvents).sanitized.validate sampleContracts = .ok () ∧
      (sampleTranscript repeatedEvents).sanitized.execution.classification = .pass ∧
      (sampleTranscript repeatedEvents).sanitized.execution.process.capture =
        some ⟨repeatedEvents, none, 0⟩ ∧
      repeatedEvents.count .catalogReady = 2 ∧
      ∀ runtime listed t₁ n₁ r₁ t₂ n₂ r₂ t₃,
        repeatedEvents ≠ completedWord runtime listed t₁ n₁ r₁ t₂ n₂ r₂ t₃ := by
  refine ⟨sampleTranscript_valid repeatedEvents_clean, repeatedEvents_pass, rfl, by decide, ?_⟩
  intro runtime listed t₁ n₁ r₁ t₂ n₂ r₂ t₃ heq
  have hlength : repeatedEvents.length = 12 := congrArg List.length heq
  exact absurd hlength (by decide)

theorem validate_admits_repeated :
    ∃ plan capture, ProcessAdmitted rowCrates plan
      (sampleTranscript repeatedEvents).sanitized.execution.process capture := by
  obtain ⟨plan, capture, -, hadmitted⟩ := EngineTranscript.validate_admits
    (sampleTranscript_valid repeatedEvents_clean) repeatedEvents_pass
  exact ⟨plan, capture, hadmitted⟩

/-- An engine that names a dependency like a credential. -/
def leakyEvents : List EngineEvent := sampleEvents (.ofList [("hunter#2", "1.0")] _) 0

theorem leakyEvents_clean : isClean (sampleTranscript leakyEvents) = true := by
  decide +kernel

theorem leakyEvents_returned :
    EngineTranscript.fromExecution sampleContracts (sampleSpark true) "run1"
      (sampleExecution leakyEvents) ["hunter#2"] = .ok (sampleTranscript leakyEvents).sanitized :=
  sampleTranscript_returned leakyEvents_clean (by decide)

/-- The name of a dependency is written down although it is a credential. -/
theorem leakyEvents_written :
    EngineTranscript.fromExecution sampleContracts (sampleSpark true) "run1"
        (sampleExecution leakyEvents) ["hunter#2"] = .ok (sampleTranscript leakyEvents).sanitized ∧
      "hunter#2" ∈ (sampleTranscript leakyEvents).sanitized.toJson.keys :=
  ⟨leakyEvents_returned, by decide⟩

theorem fromExecution_excludes_iff_leaky :
    ∃ transcript, EngineTranscript.fromExecution sampleContracts (sampleSpark true) "run1"
        (sampleExecution leakyEvents) ["hunter#2"] = .ok transcript ∧
      (Excludes ["hunter#2"] (transcript.toJson.strings ++ transcript.toJson.keys) ↔
        ∀ components, expectedComponents sampleContracts.profile (sampleSpark true) =
            some components →
          Excludes ["hunter#2"] (frameKeys components (.ofPlan (sampleSpark true) "run1") ++
            (sampleExecution leakyEvents).toJson.keys)) :=
  ⟨_, leakyEvents_returned, (EngineTranscript.fromExecution_excludes_iff leakyEvents_returned).1⟩

end CatalogBench.Engine
