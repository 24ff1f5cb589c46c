import CatalogBench.Contract.Value

/-!
# Results

One result record evaluates the assertions of one scenario for one catalog. Its validation keeps
the evaluations and the evidence distinct and lets a result pass only when every assertion it
marks as required has passed.
-/

set_option linter.all false

namespace CatalogBench.Contract

structure ScenarioReference where
  id : ScenarioId
  version : ℕ
  digest : Digest
  deriving DecidableEq

structure ProfileReference where
  id : ProfileId
  digest : Digest
  deriving DecidableEq

/-- Component identity repeated at the result boundary. -/
structure ExecutedComponent where
  profileComponent : ComponentId
  name : String
  version : String
  deriving DecidableEq

inductive RunIdentity
  | single (id startedAt finishedAt : String) (repetition : ℕ) (randomSeed : Option ℕ)
  | aggregate (id period : String) (includedRepetitions excludedRepetitions : List ℕ)
    (aggregation : String)
  deriving DecidableEq

/-- A captured environment value with explicit precision. -/
inductive Captured (α : Type)
  | exact (value : α)
  | approximate (value : α) (explanation : String)
  | unknown (explanation : String)
  deriving DecidableEq

structure EnvironmentManifest where
  operatingSystem : String
  architecture : String
  cpuModel : Captured String
  logicalCpus : Captured ℕ
  memoryBytes : Captured ℕ
  cpuLimit : Option ℚ
  memoryLimitBytes : Option ℕ
  network : String
  containerRuntime : Captured String
  runtimeFlags : StringMap String
  extensions : StringMap Json

inductive FailureCategory
  | assertion | transport | catalog | client | harness | environment
  deriving DecidableEq

structure Failure where
  category : FailureCategory
  summary : String
  detail : String
  retryable : Bool
  evidence : List EvidenceId
  deriving DecidableEq

structure UnsupportedCapability where
  capability : CapabilityId
  explanation : String
  upstreamReference : Option String
  deriving DecidableEq

structure NotTestedReason where
  explanation : String
  blockingDependency : Option String
  deriving DecidableEq

/-- Exhaustive result classification. -/
inductive ResultOutcome
  | pass (summary : Option String)
  | fail (failure : Failure)
  | unsupported (limitation : UnsupportedCapability)
  | notTested (reason : NotTestedReason)
  deriving DecidableEq

inductive AssertionOutcome
  | pass
  | fail (explanation : String)
  | notEvaluated (reason : String)
  deriving DecidableEq

structure AssertionEvaluation where
  assertion : AssertionId
  required : Bool
  outcome : AssertionOutcome
  evidence : List EvidenceId
  deriving DecidableEq

inductive EvidenceKind
  | httpTranscript | log | objectAudit | queryOutput | catalogState | lineage | policyReceipt
  | graphProof | other
  deriving DecidableEq

structure Evidence where
  id : EvidenceId
  kind : EvidenceKind
  artifact : ArtifactReference
  sanitized : Bool
  redactions : List String
  extensions : StringMap Json

/-- Distribution summary. Quantile keys use `p<number>`. -/
structure Distribution where
  samples : ℕ
  minimum : ℚ
  maximum : ℚ
  mean : Option ℚ
  standardDeviation : Option ℚ
  quantiles : StringMap ℚ

inductive MetricValue
  | scalar (value : ℚ)
  | counter (value : ℕ)
  | ratio (numerator denominator : ℕ)
  | distribution (distribution : Distribution)

structure Metric where
  name : String
  unit : String
  value : MetricValue

structure MeasuredPhase where
  name : String
  elapsedMs : ℚ
  operations : Option ℕ
  latencyMs : Option Distribution
  metrics : List Metric

/-- One independently auditable scenario execution. The contract version and the document kind
have one value each. -/
structure ResultRecord where
  id : ResultId
  scenario : ScenarioReference
  profile : ProfileReference
  catalog : ExecutedComponent
  client : Option ExecutedComponent
  adapters : List ComponentId
  run : RunIdentity
  outcome : ResultOutcome
  environment : EnvironmentManifest
  assertions : List AssertionEvaluation
  measurements : List MeasuredPhase
  evidence : List Evidence
  artifacts : List ArtifactReference
  extensions : StringMap Json

-- ════════════════════════════════
-- Validation
-- ════════════════════════════════

def ScenarioReference.collectIssues (reference : ScenarioReference) (path : String) :
    List ValidationIssue :=
  requireNonEmpty reference.id (childPath path "id") ++
    issueWhen (reference.version = 0) (childPath path "version") "must be greater than zero" ++
    reference.digest.collectIssues (childPath path "digest")

def ProfileReference.collectIssues (reference : ProfileReference) (path : String) :
    List ValidationIssue :=
  requireNonEmpty reference.id (childPath path "id") ++
    reference.digest.collectIssues (childPath path "digest")

def ExecutedComponent.collectIssues (component : ExecutedComponent) (path : String) :
    List ValidationIssue :=
  requireNonEmpty component.profileComponent (childPath path "profile_component") ++
    requireNonEmpty component.name (childPath path "name") ++
    requireNonEmpty component.version (childPath path "version")

def RunIdentity.collectIssues (run : RunIdentity) (path : String) : List ValidationIssue :=
  match run with
  | single id startedAt finishedAt repetition _ =>
    requireNonEmpty id (childPath path "id") ++
      requireNonEmpty startedAt (childPath path "started_at") ++
      requireNonEmpty finishedAt (childPath path "finished_at") ++
      issueWhen (repetition = 0) (childPath path "repetition") "must be greater than zero"
  | aggregate id period includedRepetitions excludedRepetitions aggregation =>
    requireNonEmpty id (childPath path "id") ++
      requireNonEmpty period (childPath path "period") ++
      requireNonEmpty aggregation (childPath path "aggregation") ++
      issueWhen includedRepetitions.isEmpty (childPath path "included_repetitions")
        "must contain at least one repetition" ++
      requireUnique (includedRepetitions.map toString) (childPath path "included_repetitions") ++
      requireUnique (excludedRepetitions.map toString) (childPath path "excluded_repetitions") ++
      ((includedRepetitions ++ excludedRepetitions).flatMap fun repetition =>
        issueWhen (repetition = 0) path "repetition numbers must be greater than zero") ++
      (includedRepetitions.flatMap fun repetition =>
        issueWhen (excludedRepetitions.contains repetition) path
          ("repetition " ++ toString repetition ++ " cannot be both included and excluded"))

/-- The explanation an inexact value comes with, and the check of the value it holds. -/
def Captured.collectIssues {α : Type} (captured : Captured α) (path : String)
    (checkExact checkApproximate : α → String → List ValidationIssue) : List ValidationIssue :=
  match captured with
  | exact value => checkExact value (childPath path "value")
  | approximate value explanation =>
    checkApproximate value (childPath path "value") ++
      requireNonEmpty explanation (childPath path "explanation")
  | unknown explanation => requireNonEmpty explanation (childPath path "explanation")

def validateCapturedText (captured : Captured String) (path : String) : List ValidationIssue :=
  captured.collectIssues path requireNonEmpty requireNonEmpty

/-- An approximate zero is reported without a look at its explanation. -/
def validateCapturedPositive (captured : Captured ℕ) (path : String) : List ValidationIssue :=
  match captured with
  | .approximate 0 _ => [⟨childPath path "value", "must be greater than zero"⟩]
  | _ =>
    captured.collectIssues path
      (fun value path => issueWhen (value = 0) path "must be greater than zero") (fun _ _ => [])

def validateCapturedPositiveU32 (captured : Captured ℕ) (path : String) : List ValidationIssue :=
  validateCapturedPositive captured path

def validateCapturedPositiveU64 (captured : Captured ℕ) (path : String) : List ValidationIssue :=
  validateCapturedPositive captured path

def EnvironmentManifest.collectIssues (environment : EnvironmentManifest) (path : String) :
    List ValidationIssue :=
  requireNonEmpty environment.operatingSystem (childPath path "operating_system") ++
    requireNonEmpty environment.architecture (childPath path "architecture") ++
    validateCapturedText environment.cpuModel (childPath path "cpu_model") ++
    validateCapturedPositiveU32 environment.logicalCpus (childPath path "logical_cpus") ++
    validateCapturedPositiveU64 environment.memoryBytes (childPath path "memory_bytes") ++
    requireNonEmpty environment.network (childPath path "network") ++
    validateCapturedText environment.containerRuntime (childPath path "container_runtime") ++
    (whenSome environment.cpuLimit fun cpuLimit =>
      requireFiniteNonNegative cpuLimit (childPath path "cpu_limit") ++
        issueWhen (cpuLimit = 0) (childPath path "cpu_limit")
          "must be greater than zero when present")

def validateEvidenceReferences (references available : List EvidenceId) (path : String) :
    List ValidationIssue :=
  requireUnique references path ++
    references.flatMap fun reference =>
      issueWhen (!available.contains reference) path
        ("references unknown evidence `" ++ reference ++ "`")

def AssertionOutcome.isPass : AssertionOutcome → Bool
  | pass => true
  | _ => false

def validateResultOutcome (outcome : ResultOutcome) (assertions : List AssertionEvaluation)
    (evidenceIds : List EvidenceId) (path : String) : List ValidationIssue :=
  match outcome with
  | .pass summary =>
    (whenSome summary fun summary => requireNonEmpty summary (childPath path "summary")) ++
      issueWhen assertions.isEmpty (childPath path "status")
        "pass requires at least one assertion evaluation" ++
      ((assertions.filter (·.required)).flatMap fun evaluation =>
        issueWhen (!evaluation.outcome.isPass) (childPath path "status")
          ("pass requires required assertion `" ++ evaluation.assertion ++ "` to pass"))
  | .fail failure =>
    requireNonEmpty failure.summary (childPath path "failure.summary") ++
      requireNonEmpty failure.detail (childPath path "failure.detail") ++
      validateEvidenceReferences failure.evidence evidenceIds (childPath path "failure.evidence")
  | .unsupported limitation =>
    requireNonEmpty limitation.capability (childPath path "limitation.capability") ++
      requireNonEmpty limitation.explanation (childPath path "limitation.explanation")
  | .notTested reason => requireNonEmpty reason.explanation (childPath path "reason.explanation")

/-- `parse_percentile`, over the decimal texts `str::parse::<f64>` reads. -/
def parsePercentile (parseF64 : String → Option ℚ) (name : String) : Option ℚ :=
  match name.toList with
  | 'p' :: rest =>
    (parseF64 (String.ofList rest)).filter fun value => 0 ≤ value && value ≤ 100
  | _ => none

/-- `f64::total_cmp` of two percentiles, with their values and names: the negative zero, which only a
minus sign gives, comes before zero. -/
def totalLe (left right : ℚ × ℚ × String) : Bool :=
  let negative (name : String) : Bool := name.toList[1]? = some '-'
  left.1 < right.1 || (left.1 = right.1 && (negative left.2.2 || !negative right.2.2))

/-- Neighbouring quantiles have to grow. -/
def quantileOrderIssues (path : String) : List (ℚ × ℚ × String) → List ValidationIssue
  | (_, value, name) :: (percentile', value', name') :: rest =>
    issueWhen (value > value') (childPath path "quantiles") (name ++ " must not exceed " ++ name') ++
      quantileOrderIssues path ((percentile', value', name') :: rest)
  | _ => []

def Distribution.collectIssues (parseF64 : String → Option ℚ) (distribution : Distribution)
    (path : String) : List ValidationIssue :=
  let outside (value : ℚ) := value < distribution.minimum || value > distribution.maximum
  issueWhen (distribution.samples = 0) (childPath path "samples") "must be greater than zero" ++
    requireFiniteNonNegative distribution.minimum (childPath path "minimum") ++
    requireFiniteNonNegative distribution.maximum (childPath path "maximum") ++
    issueWhen (distribution.minimum > distribution.maximum) path
      "minimum must not exceed maximum" ++
    (whenSome distribution.mean fun mean =>
      requireFiniteNonNegative mean (childPath path "mean") ++
        issueWhen (outside mean) (childPath path "mean") "must be between minimum and maximum") ++
    (whenSome distribution.standardDeviation fun deviation =>
      requireFiniteNonNegative deviation (childPath path "standard_deviation")) ++
    (distribution.quantiles.toList.flatMap fun (name, value) =>
      match parsePercentile parseF64 name with
      | none =>
        [⟨childPath path "quantiles",
          "invalid quantile `" ++ name ++ "`; expected p0 through p100"⟩]
      | some _ =>
        requireFiniteNonNegative value (path ++ ".quantiles." ++ name) ++
          issueWhen (outside value) (path ++ ".quantiles." ++ name)
            "must be between minimum and maximum") ++
    quantileOrderIssues path
      ((distribution.quantiles.toList.filterMap fun (name, value) =>
        (parsePercentile parseF64 name).map fun percentile =>
          (percentile, value, name)).mergeSort totalLe)

def MetricValue.collectIssues (parseF64 : String → Option ℚ) (value : MetricValue)
    (metricPath : String) : List ValidationIssue :=
  match value with
  | scalar value => requireFiniteNonNegative value (childPath metricPath "value.value")
  | counter _ => []
  | ratio _ denominator =>
    issueWhen (denominator = 0) (childPath metricPath "value.denominator")
      "must be greater than zero"
  | distribution summary =>
    summary.collectIssues parseF64 (childPath metricPath "value.distribution")

def MeasuredPhase.collectIssues (parseF64 : String → Option ℚ) (phase : MeasuredPhase)
    (path : String) : List ValidationIssue :=
  requireNonEmpty phase.name (childPath path "name") ++
    requireFiniteNonNegative phase.elapsedMs (childPath path "elapsed_ms") ++
    (whenSome phase.latencyMs fun distribution =>
      distribution.collectIssues parseF64 (childPath path "latency_ms")) ++
    requireUnique (phase.metrics.map (·.name)) (childPath path "metrics") ++
    (eachIndexed (childPath path "metrics") phase.metrics fun _ metricPath metric =>
      requireNonEmpty metric.name (childPath metricPath "name") ++
        requireNonEmpty metric.unit (childPath metricPath "unit") ++
        metric.value.collectIssues parseF64 metricPath)

def AssertionEvaluation.collectIssues (evaluation : AssertionEvaluation)
    (evidenceIds : List EvidenceId) (assertionPath : String) : List ValidationIssue :=
  requireNonEmpty evaluation.assertion (childPath assertionPath "assertion") ++
    validateEvidenceReferences evaluation.evidence evidenceIds
      (childPath assertionPath "evidence") ++
    (match evaluation.outcome with
      | .pass => []
      | .fail explanation =>
        requireNonEmpty explanation (childPath assertionPath "outcome.explanation")
      | .notEvaluated reason => requireNonEmpty reason (childPath assertionPath "outcome.reason"))

namespace ResultRecord

def collectIssues (parseF64 : String → Option ℚ) (result : ResultRecord) (path : String) :
    List ValidationIssue :=
  let evidenceIds := result.evidence.map (·.id)
  requireNonEmpty result.id (childPath path "id") ++
    result.scenario.collectIssues (childPath path "scenario") ++
    result.profile.collectIssues (childPath path "profile") ++
    result.catalog.collectIssues (childPath path "catalog") ++
    (whenSome result.client fun client => client.collectIssues (childPath path "client")) ++
    result.run.collectIssues (childPath path "run") ++
    result.environment.collectIssues (childPath path "environment") ++
    requireUnique (result.assertions.map (·.assertion)) (childPath path "assertions") ++
    requireUnique evidenceIds (childPath path "evidence") ++
    (eachIndexed (childPath path "evidence") result.evidence fun _ evidencePath evidence =>
      requireNonEmpty evidence.id (childPath evidencePath "id") ++
        evidence.artifact.collectIssues (childPath evidencePath "artifact") ++
        issueWhen (!evidence.sanitized) (childPath evidencePath "sanitized")
          "must be true for a publishable result") ++
    (eachIndexed (childPath path "assertions") result.assertions
      fun _ assertionPath evaluation => evaluation.collectIssues evidenceIds assertionPath) ++
    validateResultOutcome result.outcome result.assertions evidenceIds
      (childPath path "outcome") ++
    (eachIndexed (childPath path "measurements") result.measurements fun _ path phase =>
      phase.collectIssues parseF64 path) ++
    validateArtifacts result.artifacts (childPath path "artifacts")

/-- What an accepted result guarantees about its evaluations. -/
structure Accepted (result : ResultRecord) : Prop where
  nodup : (result.assertions.map (·.assertion)).Nodup
  required : ∀ summary, result.outcome = .pass summary →
    ∀ evaluation ∈ result.assertions, evaluation.required = true → evaluation.outcome = .pass

theorem accepted {parseF64 : String → Option ℚ} {result : ResultRecord} {path : String}
    (h : result.collectIssues parseF64 path = []) : result.Accepted := by
  simp only [collectIssues, List.append_eq_nil_iff, requireUnique_eq_nil, and_assoc] at h
  obtain ⟨-, -, -, -, -, -, -, hnodup, -, -, -, houtcome, -⟩ := h
  refine ⟨hnodup, ?_⟩
  intro summary hpass evaluation hmem hrequired
  rw [hpass] at houtcome
  simp only [validateResultOutcome, List.append_eq_nil_iff, List.flatMap_eq_nil_iff] at houtcome
  have hissue := houtcome.2 evaluation (List.mem_filter.mpr ⟨hmem, hrequired⟩)
  rw [issueWhen_eq_nil] at hissue
  cases hcase : evaluation.outcome with
  | pass => rfl
  | fail explanation => simp [hcase, AssertionOutcome.isPass] at hissue
  | notEvaluated reason => simp [hcase, AssertionOutcome.isPass] at hissue

end ResultRecord

end CatalogBench.Contract
