import CatalogBench.ContractTool.EngineBundle

/-!
# The verdict of an engine result

A run is classified twice: by its transcript, from the checks that are computed anew and the outcome
of the process, and by its result record, from the evaluated assertions. Both say the same, and every
admitted transcript has a valid record.
-/

set_option linter.all false

namespace CatalogBench.ContractTool
open CatalogBench.Contract Interaction
open CatalogBench.Engine hiding ComponentId

-- ════════════════════════════════
-- Values without issues
-- ════════════════════════════════

theorem eachIndexed_of_forall {α : Type} {path : String} {items : List α}
    {collect : ℕ → String → α → List ValidationIssue}
    (h : ∀ item ∈ items, ∀ index path, collect index path item = []) :
    eachIndexed path items collect = [] := by
  refine List.flatMap_eq_nil_iff.mpr fun entry hentry => ?_
  exact h entry.1 (List.fst_mem_of_mem_zipIdx hentry) _ _

theorem profile_component_named {crates : Crates} {profile : Profile} {path : String}
    (h : profile.collectIssues crates path = []) {component : Component}
    (hmem : component ∈ profile.components) :
    isBlank component.id = false ∧ isBlank component.name = false ∧
      isBlank component.version = false := by
  simp only [Profile.collectIssues, List.append_eq_nil_iff, and_assoc] at h
  obtain ⟨-, -, -, -, -, -, hcomponents, -⟩ := h
  obtain ⟨index, hissues⟩ := eachIndexed_eq_nil hcomponents hmem
  simp only [Component.collectIssues, List.append_eq_nil_iff, requireNonEmpty_eq_nil,
    and_assoc] at hissues
  exact ⟨hissues.1, hissues.2.1, hissues.2.2.1⟩

theorem capturedText_valid {captured : Captured String} {path path' : String}
    (h : validateCapturedText captured path = []) : validateCapturedText captured path' = [] := by
  cases captured <;> simpa [validateCapturedText, Captured.collectIssues] using h

theorem capturedPositive_valid {captured : Captured ℕ} {path path' : String}
    (h : validateCapturedPositive captured path = []) :
    validateCapturedPositive captured path' = [] := by
  cases captured with
  | exact value => simpa [validateCapturedPositive, Captured.collectIssues] using h
  | approximate value explanation =>
    cases value with
    | zero => simp [validateCapturedPositive] at h
    | succ value => simpa [validateCapturedPositive, Captured.collectIssues] using h
  | unknown explanation => simpa [validateCapturedPositive, Captured.collectIssues] using h

/-- Where an environment stands does not matter to its validation. -/
theorem environment_valid {environment : EnvironmentManifest} {path path' : String}
    (h : environment.collectIssues path = []) : environment.collectIssues path' = [] := by
  simp only [EnvironmentManifest.collectIssues, List.append_eq_nil_iff, requireNonEmpty_eq_nil,
    and_assoc] at h ⊢
  obtain ⟨hsystem, harchitecture, hmodel, hcpus, hmemory, hnetwork, hruntime, hlimit⟩ := h
  refine ⟨hsystem, harchitecture, capturedText_valid hmodel, capturedPositive_valid hcpus,
    capturedPositive_valid hmemory, hnetwork, capturedText_valid hruntime, ?_⟩
  cases hcase : environment.cpuLimit with
  | none => rfl
  | some limit => simpa [hcase, whenSome, requireFiniteNonNegative] using hlimit

/-- The digits of `hex` are bytes. -/
theorem hexDigit_byte : ∀ n < 16,
    let encoded := String.utf8EncodeChar
      (if n < 10 then Char.ofNat (48 + n) else Char.ofNat (87 + n))
    encoded.length = 1 ∧ encoded.all isAsciiHexdigit = true := by
  decide

theorem utf8_hex (bytes : List UInt8) :
    (utf8 (hex bytes)).length = 2 * bytes.length ∧ (utf8 (hex bytes)).all isAsciiHexdigit = true := by
  rw [utf8_eq_flatMap, hex, String.toList_ofList]
  induction bytes with
  | nil => exact ⟨rfl, rfl⟩
  | cons byte bytes ih =>
    obtain ⟨hlength, hall⟩ := ih
    have hhigh := hexDigit_byte (byte.toNat / 16) (by have := byte.toNat_lt; omega)
    have hlow := hexDigit_byte (byte.toNat % 16) (Nat.mod_lt _ (by omega))
    simp only [List.flatMap_cons, List.flatMap_append, List.flatMap_nil, List.append_nil,
      List.length_append, List.all_append, List.length_cons, Bool.and_eq_true]
    refine ⟨?_, ⟨hhigh.2, hlow.2⟩, hall⟩
    rw [hlength, hhigh.1, hlow.1]
    omega

theorem sha256_digest_valid {crates : Crates} {bytes : List UInt8}
    (h : (crates.sha256 bytes).length = 32) (path : String) :
    (Digest.mk .sha256 (crates.sha256Hex bytes)).collectIssues path = [] := by
  obtain ⟨hlength, hall⟩ := utf8_hex (crates.sha256 bytes)
  rw [Digest.collectIssues, issueWhen_eq_nil, Crates.sha256Hex, hlength, hall, h]
  rfl

-- ════════════════════════════════
-- What an accepted transcript was made of
-- ════════════════════════════════

section Accepted

variable {crates : EngineCrates} {contracts : EngineContracts crates}
  {transcript : EngineTranscript} {plan : InteroperabilityPlan}

theorem accepted_canonical (hcanonical : crates.canonicalScenario = .ok (.scenario canonicalScenario))
    (h : EngineTranscript.Accepted contracts transcript plan) :
    contracts.scenario = canonicalScenario :=
  (InteroperabilityPlan.fromContracts_canonical hcanonical (except_mapError_eq_ok.mp h.planned)).1

/-- The catalog and the engine of a transcript are components of the profile. -/
theorem accepted_components (h : EngineTranscript.Accepted contracts transcript plan) :
    (∃ component ∈ contracts.profile.components,
        transcript.components.catalog = .fromIdentity (.fromComponent component)) ∧
      ∃ component ∈ contracts.profile.components,
        transcript.components.engine = .fromIdentity (.fromComponent component) := by
  obtain ⟨selection, hselected⟩ :=
    InteroperabilityPlan.fromContracts_selected (except_mapError_eq_ok.mp h.planned)
  obtain ⟨-, hcatalog, hengine, -⟩ := hselected.identities
  have hmade : ∃ runner objectStore, transcript.components =
      ⟨runner, .fromIdentity plan.catalog, .fromIdentity plan.engine, .fromIdentity plan.connector,
        objectStore⟩ := by
    have hexpected := h.components
    simp only [expectedComponents, Option.bind_eq_bind, Option.pure_def] at hexpected
    -- a plan without a runner names the container runtime instead
    split at hexpected
    all_goals
      simp only [Option.bind_eq_some_iff, Option.some.injEq] at hexpected
      obtain ⟨runner, -, objectStore, -, hcomponents⟩ := hexpected
      exact ⟨runner, _, hcomponents.symm⟩
  obtain ⟨runner, objectStore, hcomponents⟩ := hmade
  rw [hcomponents, hcatalog, hengine]
  obtain ⟨id, hselectedEngine⟩ := hselected.engine
  obtain ⟨service, -, hfound⟩ := except_bind_eq_ok.mp hselectedEngine
  exact ⟨⟨selection.catalog, (component_eq_ok hselected.catalogComponent).1, rfl⟩,
    selection.engine, (component_eq_ok hfound).1, rfl⟩

theorem accepted_classification (h : EngineTranscript.Accepted contracts transcript plan) :
    transcript.execution.classification =
      if transcript.execution.process.fixtureCollision then .fixtureCollision
      else if transcript.execution.process.passed && transcript.execution.checks.allPassed then .pass
      else .fail := by
  rw [h.checks, h.classification]
  rfl

/-- A process that passed met no collision. -/
theorem not_fixtureCollision_of_passed {process : EngineProcessExecution}
    (h : process.passed = true) : process.fixtureCollision = false := by
  rw [EngineProcessExecution.fixtureCollision, ((passed_iff process).mp h).1]
  rfl

theorem accepted_pass_iff (h : EngineTranscript.Accepted contracts transcript plan) :
    transcript.execution.classification = .pass ↔
      transcript.execution.process.passed = true ∧
        transcript.execution.checks.allPassed = true := by
  rw [accepted_classification h]
  constructor
  · intro hpass
    split_ifs at hpass with hcollision hboth
    rwa [Bool.and_eq_true] at hboth
  · rintro ⟨hpassed, hchecks⟩
    rw [not_fixtureCollision_of_passed hpassed, hpassed, hchecks]
    rfl

end Accepted

namespace EngineBundle

-- ════════════════════════════════
-- Evaluations
-- ════════════════════════════════

section Evaluations

variable {transcript : EngineTranscript}

/-- The value of a check, by the assertion that is named after it. -/
def passes (transcript : EngineTranscript) (id : AssertionId) : Bool :=
  match assertionPassed id transcript with
  | .ok passed => passed
  | .error _ => false

theorem canonicalAssertions_ids : canonicalAssertions.map (·.id) =
    ["engine-runtime-pinned", "stock-rest-catalog-ready", "fixture-isolated",
      "namespace-round-trip", "table-round-trip", "initial-append-committed",
      "initial-read-exact", "schema-evolved", "evolved-append-committed", "evolved-read-exact",
      "catalog-state-correlated", "shared-object-evidence-complete", "fixture-clean",
      "transcript-sanitized"] := rfl

/-- Every assertion of the scenario has its check. -/
theorem assertionPassed_canonical {assertion : AssertionSpec}
    (hmem : assertion ∈ canonicalAssertions) :
    assertionPassed assertion.id transcript = .ok (passes transcript assertion.id) := by
  have hall : ∀ id ∈ canonicalAssertions.map (·.id),
      assertionPassed id transcript = .ok (passes transcript id) := by
    rw [canonicalAssertions_ids]
    simp only [List.forall_mem_cons]
    refine ⟨rfl, rfl, rfl, rfl, rfl, rfl, rfl, rfl, rfl, rfl, rfl, rfl, rfl, rfl, ?_⟩
    exact List.forall_mem_nil _
  exact hall _ (List.mem_map_of_mem hmem)

/-- The assertions are the checks and the sanitization. -/
theorem passes_canonical :
    (∀ assertion ∈ canonicalAssertions, passes transcript assertion.id = true) ↔
      transcript.execution.checks.allPassed = true ∧ transcript.sanitization.passed = true := by
  have hids : (∀ assertion ∈ canonicalAssertions, passes transcript assertion.id = true) ↔
      ∀ id ∈ canonicalAssertions.map (·.id), passes transcript id = true := by
    rw [List.forall_mem_map]
  rw [hids, canonicalAssertions_ids]
  simp only [List.forall_mem_cons, EngineBehaviorChecks.allPassed, Bool.and_eq_true, and_assoc,
    List.not_mem_nil, false_imp_iff, implies_true, and_true]
  rfl

theorem canonicalAssertions_required :
    ∀ assertion ∈ canonicalAssertions, assertion.required = true := by
  decide

/-- The evaluation of an assertion of the scenario. -/
def evaluation (transcript : EngineTranscript) (assertion : AssertionSpec) :
    AssertionEvaluation where
  assertion := assertion.id
  required := assertion.required
  outcome :=
    if transcript.execution.classification = .fixtureCollision then
      .notEvaluated "A pre-existing fixture collision prevented a safe scenario attempt."
    else checkedOutcome assertion.id (passes transcript assertion.id)
  evidence := [transcriptEvidenceId]

def evaluations (transcript : EngineTranscript) : List AssertionEvaluation :=
  canonicalAssertions.map (evaluation transcript)

theorem evaluateAssertion_canonical {assertion : AssertionSpec}
    (hmem : assertion ∈ canonicalAssertions) :
    evaluateAssertion assertion transcript
      (transcript.execution.classification = .fixtureCollision) =
        .ok (evaluation transcript assertion) := by
  rw [evaluateAssertion, evaluation]
  by_cases hcollision : transcript.execution.classification = .fixtureCollision
  · simp only [hcollision, decide_true, if_true]
    rfl
  · simp only [hcollision, decide_false, assertionPassed_canonical hmem, if_false,
      Bool.false_eq_true]
    rfl

@[simp] theorem checkedOutcome_eq_pass {id : AssertionId} {passed : Bool} :
    checkedOutcome id passed = .pass ↔ passed = true := by
  cases passed <;> simp [checkedOutcome]

theorem evaluations_required {assessed : AssertionEvaluation}
    (hmem : assessed ∈ evaluations transcript) : assessed.required = true := by
  obtain ⟨assertion, hassertion, rfl⟩ := List.mem_map.mp hmem
  exact canonicalAssertions_required assertion hassertion

/-- Unless there was a collision every assertion is evaluated, and all of them pass exactly when the
checks do and the transcript is sanitized. -/
theorem evaluations_pass (h : transcript.execution.classification ≠ .fixtureCollision) :
    (∀ assessed ∈ evaluations transcript, assessed.outcome = .pass) ↔
      transcript.execution.checks.allPassed = true ∧ transcript.sanitization.passed = true := by
  rw [← passes_canonical, evaluations, List.forall_mem_map]
  refine forall₂_congr fun assertion hmem => ?_
  rw [evaluation, if_neg h, checkedOutcome_eq_pass]

theorem evaluations_notEvaluated :
    (∀ assessed ∈ evaluations transcript, ∃ reason, assessed.outcome = .notEvaluated reason) ↔
      transcript.execution.classification = .fixtureCollision := by
  constructor
  · intro hall
    by_contra hne
    obtain ⟨assertion, hmem⟩ := List.exists_mem_of_ne_nil canonicalAssertions (by decide)
    obtain ⟨reason, hreason⟩ := hall _ (List.mem_map_of_mem hmem)
    rw [evaluation, if_neg hne, checkedOutcome] at hreason
    split at hreason <;> cases hreason
  · intro hcollision assessed hmem
    obtain ⟨assertion, -, rfl⟩ := List.mem_map.mp hmem
    exact ⟨_, by rw [evaluation, if_pos hcollision]⟩

theorem failedRequired_eq_nil {assertions : List AssertionEvaluation} :
    failedRequired assertions = [] ↔ ∀ assessed ∈ assertions, assessed.required = true →
      ∀ explanation, assessed.outcome ≠ .fail explanation := by
  rw [failedRequired, List.map_eq_nil_iff, List.filter_eq_nil_iff]
  refine forall₂_congr fun assessed _ => ?_
  cases assessed.outcome <;> simp

end Evaluations

-- ════════════════════════════════
-- Outcomes
-- ════════════════════════════════

def isPassed : ResultOutcome → Bool
  | .pass _ => true
  | _ => false

def isFailed : ResultOutcome → Bool
  | .fail _ => true
  | _ => false

def isNotTested : ResultOutcome → Bool
  | .notTested _ => true
  | _ => false

/-- The record says what the transcript was classified as. -/
structure Projects (transcript : EngineTranscript) (result : ResultRecord) : Prop where
  passed : isPassed result.outcome = true ↔ transcript.execution.classification = .pass
  classified : transcript.execution.classification = .pass ↔
    transcript.execution.process.passed = true ∧
      ∀ assessed ∈ result.assertions, assessed.required = true → assessed.outcome = .pass
  notTested : isNotTested result.outcome = true ∧
      (∀ assessed ∈ result.assertions, ∃ reason, assessed.outcome = .notEvaluated reason) ↔
    transcript.execution.classification = .fixtureCollision
  failed : transcript.execution.classification = .fail → ∃ failure,
    result.outcome = .fail failure ∧
      (failedRequired result.assertions ≠ [] → failure.category = .assertion ∧
        failure.detail = "Required assertions failed: " ++
          ", ".intercalate ((failedRequired result.assertions).map fun id => "`" ++ id ++ "`") ++
          ". The transcript retains only bounded failure categories; no deeper cause or " ++
          "retryability claim is inferred.") ∧
      (failedRequired result.assertions = [] → failure.category = .harness)
  /-- The failed assertions are also listed in an extension. -/
  listed : (result.extensions["querygraph/execution"]?).bind
      (·.get "failed_required_assertions") =
    some (.array ((failedRequired result.assertions).map .string))

section Outcome

variable {crates : EngineCrates} {contracts : EngineContracts crates}
  {transcript : EngineTranscript} {plan : InteroperabilityPlan}

/-- The evaluations of a passing transcript pass, so its outcome is never refused. -/
theorem resultOutcome_accepted (h : EngineTranscript.Accepted contracts transcript plan) :
    ∃ outcome, resultOutcome transcript (evaluations transcript)
      (failedRequired (evaluations transcript)) = .ok outcome := by
  rw [resultOutcome]
  cases hclass : transcript.execution.classification with
  | pass =>
    have hne : transcript.execution.classification ≠ .fixtureCollision := by rw [hclass]; decide
    have hpass := (evaluations_pass hne).mpr ⟨((accepted_pass_iff h).mp hclass).2, h.sanitization⟩
    have hfailed : failedRequired (evaluations transcript) = [] := by
      refine failedRequired_eq_nil.mpr fun assessed hmem _ explanation => ?_
      rw [hpass assessed hmem]
      exact fun heq => nomatch heq
    refine ⟨_, except_seq_eq_ok.mpr ⟨bailWhen_eq_ok.mpr ?_, rfl⟩⟩
    rw [hfailed, List.isEmpty_nil, Bool.not_true, Bool.false_or, List.any_eq_false]
    intro assessed hmem
    rw [hpass assessed hmem]
    simp [AssertionOutcome.isPass]
  | fail => exact ⟨_, rfl⟩
  | fixtureCollision => exact ⟨_, rfl⟩

theorem resultOutcome_pass {assertions : List AssertionEvaluation} {outcome : ResultOutcome}
    (hclass : transcript.execution.classification = .pass)
    (h : resultOutcome transcript assertions (failedRequired assertions) = .ok outcome) :
    (∀ assessed ∈ assertions, assessed.required = true → assessed.outcome.isPass = true) ∧
      ∃ summary, outcome = .pass (some summary) ∧ isBlank summary = false := by
  rw [resultOutcome, hclass] at h
  obtain ⟨hpass, h⟩ := except_seq_eq_ok.mp h
  rw [bailWhen_eq_ok, Bool.or_eq_false_iff, List.any_eq_false] at hpass
  cases h
  refine ⟨fun assessed hmem hrequired => ?_, _, rfl, ?_⟩
  · simpa [hrequired] using hpass.2 assessed hmem
  · rw [isBlank_append, isBlank_append, show isBlank "All " = false by decide]
    rfl

theorem resultOutcome_fail {assertions : List AssertionEvaluation} {outcome : ResultOutcome}
    (hclass : transcript.execution.classification = .fail)
    (h : resultOutcome transcript assertions (failedRequired assertions) = .ok outcome) :
    outcome = .fail
      { category := if (failedRequired assertions).isEmpty then .harness else .assertion
        summary := "The stock-engine workflow did not satisfy its publication contract."
        detail := failureDetail transcript (failedRequired assertions)
        retryable := false
        evidence := [transcriptEvidenceId, reviewEvidenceId] } := by
  rw [resultOutcome, hclass] at h
  exact (Except.ok.inj h).symm

theorem resultOutcome_collision {assertions : List AssertionEvaluation} {outcome : ResultOutcome}
    (hclass : transcript.execution.classification = .fixtureCollision)
    (h : resultOutcome transcript assertions (failedRequired assertions) = .ok outcome) :
    ∃ reason : NotTestedReason, outcome = .notTested reason ∧ isBlank reason.explanation = false := by
  rw [resultOutcome, hclass] at h
  refine ⟨_, (Except.ok.inj h).symm, ?_⟩
  rw [isBlank_append, isBlank_cons (by decide)]
  rfl

theorem failureDetail_nonblank (failed : List AssertionId) :
    isBlank (failureDetail transcript failed) = false := by
  rw [failureDetail]
  split
  · rw [isBlank_append, isBlank_append, isBlank_cons (by decide)]
    rfl
  · simp only [isBlank_append]
    rw [isBlank_cons (by decide)]
    rfl

end Outcome

-- ════════════════════════════════
-- Records
-- ════════════════════════════════

section Valid

variable {crates : EngineCrates} {reviewed : ValidatedEngineResultReview crates}

theorem artifact_valid (hsha : ∀ bytes, (crates.sha256 bytes).length = 32) {location : String}
    (hlocation : isBlank location = false) (bytes : List UInt8) (description path : String) :
    (artifact crates location "application/json" bytes description).collectIssues path = [] := by
  rw [ArtifactReference.collectIssues, List.append_eq_nil_iff, List.append_eq_nil_iff]
  refine ⟨⟨requireNonEmpty_eq_nil.mpr hlocation, requireNonEmpty_cons (by decide)⟩, ?_⟩
  exact sha256_digest_valid (hsha bytes) _

theorem executedComponent_valid {component : Component}
    (h : isBlank component.id = false ∧ isBlank component.name = false ∧
      isBlank component.version = false) (path : String) :
    (executedComponent (.fromIdentity (.fromComponent component))).collectIssues path = [] := by
  obtain ⟨hid, hname, hversion⟩ := h
  simp only [ExecutedComponent.collectIssues, List.append_eq_nil_iff, requireNonEmpty_eq_nil]
  exact ⟨⟨hid, hname⟩, hversion⟩

theorem evidenceReference_valid {available : List EvidenceId}
    (h : transcriptEvidenceId ∈ available) (path : String) :
    validateEvidenceReferences [transcriptEvidenceId] available path = [] := by
  simp [validateEvidenceReferences, h]

theorem evaluation_valid {transcript : EngineTranscript} {assertion : AssertionSpec}
    (hmem : assertion ∈ canonicalAssertions) {available : List EvidenceId}
    (h : transcriptEvidenceId ∈ available) (path : String) :
    (evaluation transcript assertion).collectIssues available path = [] := by
  rw [AssertionEvaluation.collectIssues, List.append_eq_nil_iff, List.append_eq_nil_iff]
  refine ⟨⟨requireNonEmpty_eq_nil.mpr (canonicalAssertions_named assertion hmem).1,
    evidenceReference_valid h _⟩, ?_⟩
  rw [evaluation]
  by_cases hcollision : transcript.execution.classification = .fixtureCollision
  · simp only [hcollision, if_true, requireNonEmpty_eq_nil]
    exact isBlank_cons (by decide)
  · simp only [hcollision, if_false, checkedOutcome]
    cases passes transcript assertion.id
    · simp only [Bool.false_eq_true, if_false, requireNonEmpty_eq_nil]
      rw [isBlank_append, isBlank_append, isBlank_cons (by decide)]
      rfl
    · rfl

theorem resultOutcome_valid {transcript : EngineTranscript} {outcome : ResultOutcome}
    (h : resultOutcome transcript (evaluations transcript)
      (failedRequired (evaluations transcript)) = .ok outcome) (path : String) :
    validateResultOutcome outcome (evaluations transcript)
      [transcriptEvidenceId, reviewEvidenceId] path = [] := by
  cases hclass : transcript.execution.classification with
  | pass =>
    obtain ⟨hpass, summary, rfl, hsummary⟩ := resultOutcome_pass hclass h
    rw [validateResultOutcome, List.append_eq_nil_iff, List.append_eq_nil_iff,
      List.flatMap_eq_nil_iff]
    refine ⟨⟨requireNonEmpty_eq_nil.mpr hsummary, rfl⟩, fun assessed hmem => ?_⟩
    rw [List.mem_filter] at hmem
    rw [issueWhen_eq_nil, hpass assessed hmem.1 hmem.2]
    rfl
  | fail =>
    rw [resultOutcome_fail hclass h, validateResultOutcome, List.append_eq_nil_iff,
      List.append_eq_nil_iff]
    refine ⟨⟨requireNonEmpty_cons (by decide),
      requireNonEmpty_eq_nil.mpr (failureDetail_nonblank _)⟩, ?_⟩
    simp [validateEvidenceReferences, transcriptEvidenceId, reviewEvidenceId]
  | fixtureCollision =>
    obtain ⟨reason, rfl, hreason⟩ := resultOutcome_collision hclass h
    exact requireNonEmpty_eq_nil.mpr hreason

/-- Nothing is left for the validation of a record to complain about. -/
theorem resultRecord_valid (hcanonical : crates.canonicalScenario = .ok (.scenario canonicalScenario))
    (hsha : ∀ bytes, (crates.sha256 bytes).length = 32)
    {admitted : ValidatedEngineTranscript reviewed.evidence.contracts} {outcome : ResultOutcome}
    (houtcome : resultOutcome admitted.transcript (evaluations admitted.transcript)
      (failedRequired (evaluations admitted.transcript)) = .ok outcome) :
    (resultRecord reviewed admitted.transcript
      (sourceArtifacts reviewed (transcriptArtifact reviewed admitted))
      (evaluations admitted.transcript) outcome).collectIssues crates.parseF64 "$" = [] := by
  obtain ⟨plan, haccepted⟩ := EngineTranscript.validate_eq_ok.mp admitted.valid
  have hshape := validateReviewShape_eq_ok reviewed.shape
  have hscenario := accepted_canonical hcanonical haccepted
  obtain ⟨⟨catalog, hcatalog, hcatalogEq⟩, engine, hengine, hengineEq⟩ :=
    accepted_components haccepted
  have hnamed (component : Component)
      (hmem : component ∈ reviewed.evidence.contracts.profile.components) :=
    profile_component_named reviewed.evidence.contracts.profileValid hmem
  have hdash (left right : String) : isBlank (left ++ "-" ++ right) = false := by
    rw [isBlank_append, isBlank_append, show isBlank "-" = false by decide, Bool.and_false,
      Bool.false_and]
  have hprofile : isBlank reviewed.evidence.contracts.profile.id = false := by
    have hvalid := reviewed.evidence.contracts.profileValid
    simp only [Profile.collectIssues, List.append_eq_nil_iff, requireNonEmpty_eq_nil,
      and_assoc] at hvalid
    exact hvalid.1
  have hids : ((evaluations admitted.transcript).map (·.assertion)).Nodup := by
    have heq : (evaluations admitted.transcript).map (·.assertion) =
        canonicalAssertions.map (·.id) := by
      rw [evaluations, List.map_map]
      rfl
    rw [heq]
    exact canonicalScenario_distinct.2.1
  have hevidenceIds : (resultEvidence reviewed admitted.transcript
      (sourceArtifacts reviewed (transcriptArtifact reviewed admitted))).map (·.id) =
        [transcriptEvidenceId, reviewEvidenceId] := rfl
  simp only [ResultRecord.collectIssues, List.append_eq_nil_iff, resultRecord, hevidenceIds,
    requireNonEmpty_eq_nil, requireUnique_eq_nil, and_assoc]
  refine ⟨hdash _ _, ?_, ?_, ?_, ?_, ?_, environment_valid hshape.environment, hids, by decide, ?_, ?_,
    resultOutcome_valid houtcome _, rfl, rfl⟩
  · rw [ScenarioReference.collectIssues, hscenario, List.append_eq_nil_iff, List.append_eq_nil_iff]
    exact ⟨⟨requireNonEmpty_eq_nil.mpr (isBlank_cons (by decide) : isBlank engineScenarioId = false),
      rfl⟩, sha256_digest_valid (hsha _) _⟩
  · rw [ProfileReference.collectIssues, List.append_eq_nil_iff]
    exact ⟨requireNonEmpty_eq_nil.mpr hprofile, sha256_digest_valid (hsha _) _⟩
  · rw [hcatalogEq]
    exact executedComponent_valid (hnamed catalog hcatalog) _
  · rw [hengineEq]
    exact executedComponent_valid (hnamed engine hengine) _
  · simp only [RunIdentity.collectIssues, List.append_eq_nil_iff, requireNonEmpty_eq_nil]
    exact ⟨⟨⟨hdash _ _, hshape.startedAt⟩, hshape.completedAt⟩, rfl⟩
  · refine eachIndexed_of_forall fun evidence hmem index path => ?_
    simp only [resultEvidence, List.mem_cons, List.not_mem_nil, or_false] at hmem
    have hlocation : isBlank (transcriptDirectory ++ "/" ++ admitted.catalog ++ ".json") = false := by
      rw [isBlank_append, isBlank_append, isBlank_append,
        show isBlank transcriptDirectory = false by decide]
      rfl
    rcases hmem with rfl | rfl
    · rw [List.append_eq_nil_iff, List.append_eq_nil_iff]
      exact ⟨⟨requireNonEmpty_eq_nil.mpr (show isBlank transcriptEvidenceId = false by decide),
        artifact_valid hsha hlocation _ _ _⟩, rfl⟩
    · rw [List.append_eq_nil_iff, List.append_eq_nil_iff]
      exact ⟨⟨requireNonEmpty_eq_nil.mpr (show isBlank reviewEvidenceId = false by decide),
        artifact_valid hsha (show isBlank reviewCopy = false by decide) _ _ _⟩, rfl⟩
  · refine eachIndexed_of_forall fun assessed hmem index path => ?_
    obtain ⟨assertion, hassertion, rfl⟩ := List.mem_map.mp hmem
    exact evaluation_valid hassertion List.mem_cons_self _

end Valid

-- ════════════════════════════════
-- The two classifications
-- ════════════════════════════════

section Verdict

variable {crates : EngineCrates} {reviewed : ValidatedEngineResultReview crates}

/-- The kind of the outcome is the classification of the transcript. -/
theorem resultOutcome_kind {transcript : EngineTranscript} {assertions : List AssertionEvaluation}
    {outcome : ResultOutcome}
    (h : resultOutcome transcript assertions (failedRequired assertions) = .ok outcome) :
    isPassed outcome = decide (transcript.execution.classification = .pass) ∧
      isFailed outcome = decide (transcript.execution.classification = .fail) ∧
      isNotTested outcome = decide (transcript.execution.classification = .fixtureCollision) := by
  cases hclass : transcript.execution.classification with
  | pass =>
    obtain ⟨-, summary, rfl, -⟩ := resultOutcome_pass hclass h
    exact ⟨rfl, rfl, rfl⟩
  | fail =>
    rw [resultOutcome_fail hclass h]
    exact ⟨rfl, rfl, rfl⟩
  | fixtureCollision =>
    obtain ⟨reason, rfl, -⟩ := resultOutcome_collision hclass h
    exact ⟨rfl, rfl, rfl⟩

/-- A passing transcript is one whose process and whose required assertions passed. -/
theorem classified_iff {contracts : EngineContracts crates} {transcript : EngineTranscript}
    {plan : InteroperabilityPlan} (h : EngineTranscript.Accepted contracts transcript plan) :
    transcript.execution.classification = .pass ↔
      transcript.execution.process.passed = true ∧
        ∀ assessed ∈ evaluations transcript, assessed.required = true → assessed.outcome = .pass := by
  constructor
  · intro hpass
    obtain ⟨hprocess, hchecks⟩ := (accepted_pass_iff h).mp hpass
    have hne : transcript.execution.classification ≠ .fixtureCollision := by rw [hpass]; decide
    exact ⟨hprocess, fun assessed hmem _ =>
      (evaluations_pass hne).mpr ⟨hchecks, h.sanitization⟩ assessed hmem⟩
  · rintro ⟨hprocess, hall⟩
    have hne : transcript.execution.classification ≠ .fixtureCollision := by
      rw [accepted_classification h, not_fixtureCollision_of_passed hprocess,
        if_neg Bool.false_ne_true]
      split_ifs <;> decide
    have hchecks := (evaluations_pass hne).mp fun assessed hmem =>
      hall assessed hmem (evaluations_required hmem)
    exact (accepted_pass_iff h).mpr ⟨hprocess, hchecks.1⟩

theorem resultRecord_projects {admitted : ValidatedEngineTranscript reviewed.evidence.contracts}
    {artifacts : SourceArtifacts} {outcome : ResultOutcome}
    (houtcome : resultOutcome admitted.transcript (evaluations admitted.transcript)
      (failedRequired (evaluations admitted.transcript)) = .ok outcome) :
    Projects admitted.transcript (resultRecord reviewed admitted.transcript artifacts
      (evaluations admitted.transcript) outcome) := by
  obtain ⟨plan, haccepted⟩ := EngineTranscript.validate_eq_ok.mp admitted.valid
  obtain ⟨hpassed, -, hnotTested⟩ := resultOutcome_kind houtcome
  refine ⟨?_, classified_iff haccepted, ?_, fun hclass => ?_, rfl⟩
  · rw [resultRecord, hpassed, decide_eq_true_eq]
  · rw [resultRecord, hnotTested, decide_eq_true_eq, evaluations_notEvaluated, and_self]
  · refine ⟨_, resultOutcome_fail hclass houtcome, fun hne => ?_, fun hnil => ?_⟩
    · have hempty : (failedRequired (evaluations admitted.transcript)).isEmpty = false := by
        rwa [List.isEmpty_eq_false_iff]
      rw [failureDetail, hempty]
      exact ⟨rfl, rfl⟩
    · rw [show failedRequired (evaluations admitted.transcript) = [] from hnil]
      rfl

/-- An admitted transcript has a record. -/
theorem buildResult_admitted (hcanonical : crates.canonicalScenario = .ok (.scenario canonicalScenario))
    (hsha : ∀ bytes, (crates.sha256 bytes).length = 32)
    (admitted : ValidatedEngineTranscript reviewed.evidence.contracts) :
    ∃ outcome,
      resultOutcome admitted.transcript (evaluations admitted.transcript)
        (failedRequired (evaluations admitted.transcript)) = .ok outcome ∧
      buildResult reviewed admitted.transcript
        (sourceArtifacts reviewed (transcriptArtifact reviewed admitted)) =
          .ok (resultRecord reviewed admitted.transcript
            (sourceArtifacts reviewed (transcriptArtifact reviewed admitted))
            (evaluations admitted.transcript) outcome) := by
  obtain ⟨plan, haccepted⟩ := EngineTranscript.validate_eq_ok.mp admitted.valid
  obtain ⟨outcome, houtcome⟩ := resultOutcome_accepted haccepted
  have hevaluated : reviewed.evidence.contracts.scenario.assertions.mapM (fun assertion =>
      evaluateAssertion assertion admitted.transcript
        (admitted.transcript.execution.classification = .fixtureCollision)) =
      .ok (evaluations admitted.transcript) := by
    rw [accepted_canonical hcanonical haccepted]
    exact except_mapM_of_forall fun assertion hmem => evaluateAssertion_canonical hmem
  refine ⟨outcome, houtcome, ?_⟩
  rw [buildResult]
  refine except_bind_eq_ok.mpr ⟨_, hevaluated, except_bind_eq_ok.mpr ⟨_, houtcome, ?_⟩⟩
  exact except_seq_eq_ok.mpr ⟨requireNoIssues_eq_ok.mpr (resultRecord_valid hcanonical hsha houtcome),
    rfl⟩

end Verdict

-- ════════════════════════════════
-- A publication
-- ════════════════════════════════

section Publication

variable {crates : EngineCrates} {reviewed : ValidatedEngineResultReview crates}

/-- The copies of transcripts of different catalogs have different names. -/
theorem foldlM_addTranscriptArtifact
    {admitted : List (ValidatedEngineTranscript reviewed.evidence.contracts)}
    (hnodup : (admitted.map (·.catalog)).Nodup) {artifacts : StringMap ArtifactReference}
    (hfresh : ∀ transcript ∈ admitted, artifacts.contains transcript.catalog = false) :
    ∃ artifacts', admitted.foldlM (addTranscriptArtifact reviewed) artifacts = .ok artifacts' ∧
      (∀ catalog, catalog ∉ admitted.map (·.catalog) → artifacts'[catalog]? = artifacts[catalog]?) ∧
      ∀ transcript ∈ admitted,
        artifacts'[transcript.catalog]? = some (transcriptArtifact reviewed transcript) := by
  induction admitted generalizing artifacts with
  | nil => exact ⟨artifacts, rfl, fun _ _ => rfl, fun _ hmem => absurd hmem List.not_mem_nil⟩
  | cons transcript rest ih =>
    rw [List.map_cons, List.nodup_cons] at hnodup
    obtain ⟨hnew, hnodup⟩ := hnodup
    have hrest : ∀ other ∈ rest, (artifacts.insert transcript.catalog
        (transcriptArtifact reviewed transcript)).contains other.catalog = false := by
      intro other hmem
      have hne : transcript.catalog ≠ other.catalog := fun heq =>
        hnew (heq ▸ List.mem_map_of_mem hmem)
      rw [Std.ExtTreeMap.contains_insert, hfresh other (List.mem_cons_of_mem _ hmem),
        Bool.or_false, beq_eq_false_iff_ne]
      exact fun heq => hne (compare_eq_iff_eq.mp heq)
    obtain ⟨artifacts', hfold, hother, hthese⟩ := ih hnodup hrest
    refine ⟨artifacts', ?_, fun catalog hcatalog => ?_, fun other hmem => ?_⟩
    · rw [List.foldlM_cons, addTranscriptArtifact, hfresh transcript List.mem_cons_self]
      exact hfold
    · rw [List.map_cons, List.mem_cons, not_or] at hcatalog
      rw [hother catalog hcatalog.2, Std.ExtTreeMap.getElem?_insert, if_neg]
      exact fun heq => hcatalog.1 (compare_eq_iff_eq.mp heq).symm
    · rcases List.mem_cons.mp hmem with rfl | hmem
      · rw [hother _ hnew, Std.ExtTreeMap.getElem?_insert_self]
      · exact hthese other hmem

/-- How many transcripts of each classification there are. -/
theorem foldl_count {contracts : EngineContracts crates}
    (admitted : List (ValidatedEngineTranscript contracts)) (summary : EngineEvidenceSummary) :
    admitted.foldl (fun summary admitted =>
        summary.count admitted.transcript.execution.classification) summary =
      let classifications := admitted.map (·.transcript.execution.classification)
      ⟨summary.total, summary.pass + classifications.count .pass,
        summary.fail + classifications.count .fail,
        summary.fixtureCollision + classifications.count .fixtureCollision⟩ := by
  induction admitted generalizing summary with
  | nil => rfl
  | cons transcript rest ih =>
    rw [List.foldl_cons, ih, List.map_cons]
    cases transcript.transcript.execution.classification <;>
      simp [EngineEvidenceSummary.count] <;> omega

theorem Projects.kind {transcript : EngineTranscript} {result : ResultRecord}
    (h : Projects transcript result) :
    isPassed result.outcome = decide (transcript.execution.classification = .pass) ∧
      isFailed result.outcome = decide (transcript.execution.classification = .fail) ∧
      isNotTested result.outcome =
        decide (transcript.execution.classification = .fixtureCollision) := by
  cases hclass : transcript.execution.classification with
  | pass =>
    have hpassed := h.passed.mpr hclass
    cases houtcome : result.outcome <;> simp_all [isPassed, isFailed, isNotTested]
  | fail =>
    obtain ⟨failure, houtcome, -⟩ := h.failed hclass
    rw [houtcome]
    exact ⟨rfl, rfl, rfl⟩
  | fixtureCollision =>
    have hnotTested := (h.notTested.mpr hclass).1
    cases houtcome : result.outcome <;> simp_all [isPassed, isFailed, isNotTested]

/-- Results of one kind are as many as their transcripts. -/
theorem countP_eq_count {contracts : EngineContracts crates}
    {admitted : List (ValidatedEngineTranscript contracts)} {results : List ResultRecord}
    (h : List.Forall₂ (fun admitted result => Projects admitted.transcript result) admitted results)
    {kind : ResultOutcome → Bool} {classification : EngineBehaviorClassification}
    (hkind : ∀ {transcript result}, Projects transcript result →
      kind result.outcome = decide (transcript.execution.classification = classification)) :
    (admitted.map (·.transcript.execution.classification)).count classification =
      results.countP fun result => kind result.outcome := by
  induction h with
  | nil => rfl
  | cons hhead _ ih =>
    rw [List.map_cons, List.count_cons, List.countP_cons, ih, hkind hhead]
    rfl

theorem count_classifications (classifications : List EngineBehaviorClassification) :
    classifications.count .pass + classifications.count .fail +
      classifications.count .fixtureCollision = classifications.length := by
  induction classifications with
  | nil => rfl
  | cons classification rest ih =>
    rw [List.length_cons, ← ih]
    cases classification <;> simp <;> omega

/-- The summary counts the outcomes of the results. -/
structure Counts (summary : EngineEvidenceSummary) (results : List ResultRecord) : Prop where
  total : summary.total = results.length
  pass : summary.pass = results.countP fun result => isPassed result.outcome
  fail : summary.fail = results.countP fun result => isFailed result.outcome
  fixtureCollision : summary.fixtureCollision = results.countP fun result =>
    isNotTested result.outcome
  sum : summary.pass + summary.fail + summary.fixtureCollision = summary.total

/-- **Publication of engine results.** Every transcript of a reviewed evidence set has a result, which
says what the transcript was classified as, and the summary of the set counts the results. -/
theorem generateResults_projects
    (hcanonical : crates.canonicalScenario = .ok (.scenario canonicalScenario))
    (hsha : ∀ bytes, (crates.sha256 bytes).length = 32)
    (reviewed : ValidatedEngineResultReview crates) :
    ∃ results, generateResults reviewed = .ok results ∧
      List.Forall₂ (fun admitted result =>
        buildResult reviewed admitted.transcript
            (sourceArtifacts reviewed (transcriptArtifact reviewed admitted)) = .ok result ∧
          Projects admitted.transcript result) reviewed.evidence.transcripts results ∧
      Counts reviewed.evidence.summary results := by
  obtain ⟨artifacts, hartifacts, -, hthese⟩ :=
    @foldlM_addTranscriptArtifact _ reviewed _ reviewed.evidence.catalogs ∅ (by simp)
  have hbuilt : ∀ admitted ∈ reviewed.evidence.transcripts, ∃ result,
      (do
        let transcript ← orBail "admitted transcript artifact map changed during generation"
          artifacts[admitted.catalog]?
        buildResult reviewed admitted.transcript (sourceArtifacts reviewed transcript)) =
          .ok result ∧
      (buildResult reviewed admitted.transcript
          (sourceArtifacts reviewed (transcriptArtifact reviewed admitted)) = .ok result ∧
        Projects admitted.transcript result) := by
    intro admitted hmem
    obtain ⟨outcome, houtcome, hresult⟩ := buildResult_admitted hcanonical hsha admitted
    refine ⟨_, ?_, hresult, resultRecord_projects houtcome⟩
    exact except_bind_eq_ok.mpr ⟨_, orBail_eq_ok.mpr (hthese admitted hmem), hresult⟩
  obtain ⟨results, hresults, hprojects⟩ := except_mapM_exists hbuilt
  refine ⟨results, except_bind_eq_ok.mpr ⟨artifacts, hartifacts, hresults⟩, hprojects, ?_⟩
  have hprojected := hprojects.imp fun _ _ hresult => hresult.2
  have hsummary := foldl_count reviewed.evidence.transcripts
    ⟨reviewed.evidence.transcripts.length, 0, 0, 0⟩
  simp only [Nat.zero_add, countP_eq_count hprojected fun hresult => hresult.kind.1,
    countP_eq_count hprojected fun hresult => hresult.kind.2.1,
    countP_eq_count hprojected fun hresult => hresult.kind.2.2] at hsummary
  have hsum := count_classifications
    (reviewed.evidence.transcripts.map (·.transcript.execution.classification))
  rw [countP_eq_count hprojected fun hresult => hresult.kind.1,
    countP_eq_count hprojected fun hresult => hresult.kind.2.1,
    countP_eq_count hprojected fun hresult => hresult.kind.2.2, List.length_map] at hsum
  rw [ValidatedEngineEvidenceSet.summary, hsummary]
  exact ⟨hprojects.length_eq, rfl, rfl, rfl, hsum⟩

end Publication

-- ════════════════════════════════
-- A reviewed run
-- ════════════════════════════════

/-- The SHA-256 digest of a line break, which stands for every file of the sample. -/
def lineBreakDigest : List UInt8 :=
  [1, 186, 71, 25, 200, 11, 111, 233, 17, 176, 145, 167,
    192, 81, 36, 182, 78, 238, 206, 150, 78, 9, 192, 88,
    239, 143, 152, 5, 218, 202, 84, 107]

def publishingCrates : EngineCrates := { rowCrates with sha256 := fun _ => lineBreakDigest }

def publishingContracts : EngineContracts publishingCrates where
  profile := dockerProfile
  scenario := canonicalScenario
  digests := sampleContracts.digests
  profileValid := dockerProfile_valid
  scenarioValid := canonicalScenario_valid

-- the validation does not read the digests of files, in which the two contracts differ
theorem repeatedEvents_published :
    (sampleTranscript repeatedEvents).sanitized.validate publishingContracts = .ok () :=
  sampleTranscript_valid repeatedEvents_clean

def lineBreakSource (location : String) : ReviewSource := ⟨location, hex lineBreakDigest, 1⟩

def sampleReview : EngineResultReview where
  format := reviewFormat
  bundle := ⟨"spark-run1", "Spark", "results/v1/spark-run1", "2026-08-27T12:00:00Z"⟩
  run := ⟨"run1", "docker/run-spark-interoperability.sh \"run1\"", "2026-08-27T10:00:00Z",
    "The log.", "2026-08-27T11:00:00Z", "The log."⟩
  profile := lineBreakSource "profiles/v1/spark.json"
  scenario := lineBreakSource "scenarios/v1/engine.json"
  transcripts := [⟨"lakecat", lineBreakSource "results/source/run1/lakecat.json"⟩]
  environment := ⟨"linux", "arm64", .exact "m1", .exact 8, .exact 1024, none, none, "bridge",
    .exact "docker", ∅, ∅⟩
  redaction := ⟨true, "Credentials are removed.", ["credentials"]⟩

theorem sampleReview_shaped : validateReviewShape sampleReview = .ok () := by decide +kernel

def reviewedSample : ValidatedEngineResultReview publishingCrates where
  reviewPath := "results/source/run1/review.json"
  reviewBytes := [10]
  review := sampleReview
  evidence :=
    { contracts := publishingContracts, profileBytes := [10], scenarioBytes := [10]
      fixtureId := "run1"
      transcripts := [⟨"results/source/run1/lakecat.json", [10],
        (sampleTranscript repeatedEvents).sanitized, repeatedEvents_published⟩]
      catalogs := List.nodup_singleton _ }
  shape := sampleReview_shaped

theorem generateResults_projects_sample :
    ∃ results, generateResults reviewedSample = .ok results ∧
      List.Forall₂ (fun admitted result =>
        buildResult reviewedSample admitted.transcript
            (sourceArtifacts reviewedSample (transcriptArtifact reviewedSample admitted)) =
              .ok result ∧
          Projects admitted.transcript result) reviewedSample.evidence.transcripts results ∧
      Counts reviewedSample.evidence.summary results :=
  generateResults_projects rfl (fun _ => rfl) reviewedSample

end EngineBundle

end CatalogBench.ContractTool
