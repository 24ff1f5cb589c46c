import CatalogBench.ContractTool.Bundle
import CatalogBench.Commit.Aggregate

/-!
# Contention results

The rounds of a sweep become one result record for each catalog. The aggregates and the ranking
of the transcript have to be the ones that its rounds give.
-/

set_option linter.all false

namespace CatalogBench.ContractTool
open CatalogBench.Contract CatalogBench.Commit MachineInt

-- ════════════════════════════════
-- Reviews
-- ════════════════════════════════

structure RunReview where
  startedAt : String
  completedAt : String
  deriving DecidableEq

structure FailureReview where
  catalog : ComponentId
  category : FailureCategory
  summary : String
  detail : String
  retryable : Bool
  deriving DecidableEq

/-- What a reviewer adds to a transcript. -/
structure ResultReview where
  run : RunReview
  environment : EnvironmentManifest
  failures : List FailureReview
  redaction : RedactionStatement

structure ResultBuildContext where
  transcript : ContentionTranscript
  review : ResultReview
  profile : Profile
  profileArtifact : ArtifactReference
  scenario : Scenario
  scenarioArtifact : ArtifactReference
  transcriptArtifact : ArtifactReference
  reviewArtifact : ArtifactReference

/-- What the publisher needs from outside the repository. -/
structure PublisherCrates extends ContractCrates where
  /-- `Display` of an `f64`. -/
  displayF64 : ℚ → String
  /-- `Debug` of a metric value. -/
  debugMetricValue : MetricValue → String

def bundleId : String := "contention-2026-08-27-c110"
def transcriptEvidenceId : String := "contention-transcript"
def reviewEvidenceId : String := "materialization-review"

-- ════════════════════════════════
-- Decimal texts
-- ════════════════════════════════

/-- The nearest integer of a number that is not negative; of two, the even one. -/
def roundHalfEven (value : ℚ) : ℕ :=
  let floor := ⌊value⌋₊
  if value - floor < 1 / 2 then floor
  else if 1 / 2 < value - floor then floor + 1
  else floor + floor % 2

/-- `{:.precision$}`. -/
def toFixed (precision : ℕ) (value : ℚ) : String :=
  let scaled := roundHalfEven (|value| * 10 ^ precision)
  let fraction := toString (scaled % 10 ^ precision)
  (if value < 0 then "-" else "") ++ toString (scaled / 10 ^ precision) ++
    (if precision = 0 then ""
      else "." ++ String.ofList (List.replicate (precision - fraction.length) '0') ++ fraction)

-- ════════════════════════════════
-- Rounds
-- ════════════════════════════════

def roundLabel (round : CatalogRoundTranscript) : String :=
  let kind := match round.kind with
    | .conditioning => "conditioning"
    | .measured => "measured"
  kind ++ " repetition " ++ toString round.repetition

def operationOutput {α : Type} (operation : OperationEvidence α) (name : String) : Loading α :=
  match operation with
  | .succeeded output => .ok output
  | .failed _ => bail (name ++ " operation failed")
  | .notAttempted _ => bail (name ++ " operation was not attempted")

def phase (round : CatalogRoundTranscript)
    (select : RoundExecution → OperationEvidence PhaseEvidence) (name : String) :
    Loading PhaseEvidence := do
  let execution ← orBail (roundLabel round ++ " has no execution") round.execution
  operationOutput (select execution) name

def sumPhaseCount (rounds : List CatalogRoundTranscript) (select : PhaseEvidence → ℕ) :
    Loading ℕ :=
  rounds.foldlM (fun total round => do
    let phase ← phase round (·.concurrent) "concurrent"
    orBail "request count overflowed" (checkedAdd 64 total (select phase))) 0

-- ════════════════════════════════
-- Assertions
-- ════════════════════════════════

inductive AssertionObservation
  | pass
  | fail (explanation : String)
  deriving DecidableEq

def AssertionObservation.outcome : AssertionObservation → AssertionOutcome
  | pass => .pass
  | fail explanation => .fail explanation

def observeGlobal (passed : Bool) (explanation : String) : AssertionObservation :=
  if passed then .pass else .fail explanation

def observeRounds (rounds : List CatalogRoundTranscript) (passed : CatalogRoundTranscript → Bool)
    (explanation : List String → String) : AssertionObservation :=
  let failed := (rounds.filter fun round => !passed round).map roundLabel
  if failed.isEmpty then .pass else .fail (explanation failed)

def observeCheck (rounds : List CatalogRoundTranscript) (check : RoundChecks → Bool) :
    AssertionObservation :=
  observeRounds rounds (fun round => round.execution.any fun execution => check execution.checks)
    fun failed => "The check failed in " ++ ", ".intercalate failed ++ "."

def negotiationReady (round : CatalogRoundTranscript) : Bool :=
  round.outcome.execution.isSome &&
    round.negotiation.adapter.catalog = round.catalog.catalog &&
    round.negotiation.adapter.name = round.catalog.name &&
    round.negotiation.adapter.version = round.catalog.version &&
    round.negotiation.authentication.outcome = .ready &&
    round.negotiation.config.response.any fun response =>
      200 ≤ response.status && response.status < 300

/-- The observation behind an assertion. -/
def observeAssertion (assertion : AssertionSpec) (transcript : ContentionTranscript)
    (rounds : List CatalogRoundTranscript) : Loading AssertionObservation :=
  match assertion.id with
  | "runner-runtime-pinned" =>
    .ok (observeGlobal
      (transcript.runner.passed && transcript.runner.component = runnerComponentId)
      "The runner runtime or source identity did not match the selected profile.")
  | "catalog-auth-config-ready" =>
    .ok (observeRounds rounds negotiationReady fun failed =>
      "Authentication, config, or profile-native routing was not ready in " ++
        ", ".intercalate failed ++ ".")
  | "fixture-isolated" => .ok (observeCheck rounds (·.fixtureIsolated))
  | "setup-succeeded" => .ok (observeCheck rounds (·.setupSucceeded))
  | "warmup-accounted" => .ok (observeCheck rounds (·.warmupAccounted))
  | "sequential-accounted" => .ok (observeCheck rounds (·.sequentialAccounted))
  | "sequential-latency-complete" => .ok (observeCheck rounds (·.sequentialLatencyComplete))
  | "all-requests-accounted" => .ok (observeCheck rounds (·.allRequestsAccounted))
  | "zero-request-errors" =>
    match observeCheck rounds (·.zeroRequestErrors) with
    | .pass => .ok .pass
    | .fail _ => do
      let errors ← sumPhaseCount rounds (·.counts.errors)
      pure (.fail (toString errors ++ " non-conflict request errors occurred across " ++
        "conditioning and measured repetitions."))
  | "concurrent-progress" => .ok (observeCheck rounds (·.concurrentProgress))
  | "final-state-accounted" => .ok (observeCheck rounds (·.finalStateAccounted))
  | "metadata-persisted" => .ok (observeCheck rounds (·.metadataPersisted))
  | "fixture-clean" => .ok (observeCheck rounds (·.fixtureClean))
  | "transcript-sanitized" =>
    .ok (observeGlobal
      (transcript.sanitization.policy = "catalog-bench/value-safe-contention-v1" &&
        !transcript.sanitization.rawSecretsPersisted &&
        !transcript.sanitization.rawResponseBodyPersisted &&
        !transcript.sanitization.rawRequestIdentitiesPersisted &&
        transcript.sanitization.writeMode = "create-new")
      "The transcript sanitization or create-new policy was not satisfied.")
  | unknown => bail ("contention result materializer does not implement assertion `" ++ unknown ++ "`")

def evaluateAssertion (assertion : AssertionSpec) (transcript : ContentionTranscript)
    (rounds : List CatalogRoundTranscript) : Loading AssertionEvaluation := do
  let observation ← observeAssertion assertion transcript rounds
  pure ⟨assertion.id, assertion.required, observation.outcome, [transcriptEvidenceId]⟩

-- ════════════════════════════════
-- Measurements
-- ════════════════════════════════

/-- The summary as the contract writes it. -/
def contractDistribution (distribution : Commit.Distribution) : Contract.Distribution where
  samples := distribution.samples
  minimum := distribution.minimum
  maximum := distribution.maximum
  mean := distribution.mean
  standardDeviation := distribution.standardDeviation
  quantiles := distribution.quantiles

/-- `nonnegative_distribution` of the publisher. -/
def summarizeValues (crates : Crates) (values : List ℚ) : Loading Contract.Distribution :=
  match nonnegativeDistribution crates values with
  | .ok distribution => .ok (contractDistribution distribution)
  | .error error => bail error.display

def distributionMetric (crates : Crates) (name unit : String) (values : List ℚ) :
    Loading Metric := do
  let distribution ← summarizeValues crates values
  pure ⟨name, unit, .distribution distribution⟩

def phaseQuantile (quantile : String) (phase : PhaseEvidence) : Loading ℚ := do
  let distribution ← orBail "phase has no complete latency distribution" phase.latencyMs.all
  orBail ("phase latency has no `" ++ quantile ++ "` quantile") distribution.quantiles[quantile]?

def quantileMetric (crates : Crates) (name : String) (phases : List PhaseEvidence)
    (quantile : String) : Loading Metric := do
  let values ← phases.mapM (phaseQuantile quantile)
  distributionMetric crates name "ms" values

def counterMetric (name : String) (value : ℕ) : Metric := ⟨name, "count", .counter value⟩

def distributionMedian (distribution : Contract.Distribution) : Loading ℚ :=
  orBail "distribution has no p50" distribution.quantiles["p50"]?

/-- `median` of the publisher. -/
def publishedMedian (crates : Crates) (values : List ℚ) : Loading ℚ := do
  let distribution ← summarizeValues crates values
  distributionMedian distribution

/-- The sum of counts that were converted to `f64`; the conversion back saturates. -/
def sum (crates : PublisherCrates) (values : List ℚ) : Loading ℕ :=
  values.foldlM (fun total value => do
    bailWhen (!value.isInt || value < 0 || value > 2 ^ 64)
      ("count distribution contains non-integral value " ++ crates.displayF64 value)
    orBail "count total overflowed" (checkedAdd 64 total (min ⌊value⌋₊ (2 ^ 64 - 1)))) 0

def roundGrowth (round : CatalogRoundTranscript) : Loading ℚ := do
  let execution ← orBail "measured round has no execution" round.execution
  let growth ← operationOutput execution.metadataGrowth "metadata growth"
  let observed ← orBail "metadata object count decreased" growth.observedGrowth
  pure observed

/-- The phase of the serial requests. -/
def sequentialPhase (crates : PublisherCrates) (sequential : List PhaseEvidence)
    (operations : Option ℕ) : Loading MeasuredPhase := do
  let elapsed ← publishedMedian crates.toCrates (sequential.map (·.elapsedMs))
  let metrics ← [
    distributionMetric crates.toCrates "successful-throughput" "operations/s"
      (sequential.map (·.acceptedThroughputPerSecond)),
    quantileMetric crates.toCrates "p50-latency" sequential "p50",
    quantileMetric crates.toCrates "p95-latency" sequential "p95",
    quantileMetric crates.toCrates "p99-latency" sequential "p99"].mapM id
  pure ⟨"sequential", elapsed, operations, none, metrics⟩

/-- The phase of the concurrent requests. -/
def concurrentPhase (crates : PublisherCrates) (concurrent : List PhaseEvidence)
    (growth : List ℚ) (validRounds measuredRounds : ℕ) : Loading MeasuredPhase := do
  let attempts := concurrent.map fun phase => (phase.counts.attempts : ℚ)
  let accepted := concurrent.map fun phase => (phase.counts.accepted : ℚ)
  let conflicts := concurrent.map fun phase => (phase.counts.conflicts : ℚ)
  let errors := concurrent.map fun phase => (phase.counts.errors : ℚ)
  let elapsed ← publishedMedian crates.toCrates (concurrent.map (·.elapsedMs))
  let metrics ← [
    distributionMetric crates.toCrates "successful-throughput" "operations/s"
      (concurrent.map (·.acceptedThroughputPerSecond)),
    distributionMetric crates.toCrates "attempted-throughput" "operations/s"
      (concurrent.map (·.attemptedThroughputPerSecond)),
    quantileMetric crates.toCrates "p50-latency" concurrent "p50",
    quantileMetric crates.toCrates "p95-latency" concurrent "p95",
    quantileMetric crates.toCrates "p99-latency" concurrent "p99",
    distributionMetric crates.toCrates "request-attempts-per-round" "requests/round" attempts,
    distributionMetric crates.toCrates "successful-commits" "commits/round" accepted,
    distributionMetric crates.toCrates "conflicts-per-round" "conflicts/round" conflicts,
    distributionMetric crates.toCrates "errors-per-round" "errors/round" errors,
    distributionMetric crates.toCrates "conflict-rate" "percent"
      (concurrent.map (·.conflictRate * 100)),
    distributionMetric crates.toCrates "error-rate" "percent" (concurrent.map (·.errorRate * 100)),
    distributionMetric crates.toCrates "metadata-object-growth" "objects/round" growth,
    (counterMetric "request-attempts" ·) <$> sum crates attempts,
    (counterMetric "accepted-commits" ·) <$> sum crates accepted,
    (counterMetric "conflicts" ·) <$> sum crates conflicts,
    (counterMetric "request-errors" ·) <$> sum crates errors,
    .ok (counterMetric "valid-rounds" validRounds),
    .ok (counterMetric "measured-rounds" measuredRounds)].mapM id
  pure ⟨"concurrent", elapsed, none, none, metrics⟩

def measurements (crates : PublisherCrates) (rounds : List CatalogRoundTranscript)
    (validRounds : ℕ) : Loading (List MeasuredPhase) := do
  bailWhen rounds.isEmpty "contention result requires measured rounds"
  let sequential ← rounds.mapM fun round => phase round (·.sequential) "sequential"
  let concurrent ← rounds.mapM fun round => phase round (·.concurrent) "concurrent"
  let growth ← rounds.mapM roundGrowth
  let sequentialPhase ← sequentialPhase crates sequential
    (sequential.head?.map (·.counts.attempts))
  let concurrentPhase ← concurrentPhase crates concurrent growth validRounds rounds.length
  pure [sequentialPhase, concurrentPhase]

-- ════════════════════════════════
-- Results
-- ════════════════════════════════

def resultEvidence (context : ResultBuildContext) : List Evidence :=
  [{ id := transcriptEvidenceId
     kind := .httpTranscript
     artifact := context.transcriptArtifact
     sanitized := true
     redactions := context.transcript.sanitization.redactions
     extensions := .ofList [("querygraph/transcript-format", .string context.transcript.format)] _ },
   { id := reviewEvidenceId
     kind := .log
     artifact := context.reviewArtifact
     sanitized := true
     redactions := context.review.redaction.removedFields
     extensions := .ofList [("querygraph/reviewed", .bool context.review.redaction.reviewed)] _ }]

def RoundTally.toJson (tally : RoundTally) : Json :=
  .object [("executed", .number (.posInt tally.executed)),
    ("passed", .number (.posInt tally.passed)), ("scheduled", .number (.posInt tally.scheduled))]

def MedianRange.toJson (range : MedianRange) : Json :=
  .object [("maximum", .number (.float range.maximum)), ("median", .number (.float range.median)),
    ("minimum", .number (.float range.minimum)), ("samples", .number (.posInt range.samples))]

def RankingDisposition.toJson : RankingDisposition → Json
  | .ranked rank score =>
    .object [("rank", .number (.posInt rank)), ("score", MedianRange.toJson score),
      ("status", .string "ranked")]
  | .notRanked reasons =>
    .object [("reasons", .array (reasons.map .string)), ("status", .string "not-ranked")]

/-- The outcome of a catalog that met the required assertions, or of one that did not. -/
def resultOutcome (catalogId : ComponentId) (failedRequired : List AssertionId)
    (failureReview : Option FailureReview) (disposition : RankingDisposition) :
    Loading ResultOutcome :=
  if failedRequired.isEmpty then do
    bailWhen failureReview.isSome
      ("passing catalog `" ++ catalogId ++ "` unexpectedly has a failure review")
    match disposition with
    | .ranked _ score =>
      pure (.pass (some ("Conditioning repetition 1 and all five measured repetitions passed " ++
        "every required assertion; median concurrent accepted throughput was " ++
        toFixed 6 score.median ++ " operations/s.")))
    | .notRanked _ => bail ("passing catalog `" ++ catalogId ++ "` is not ranked")
  else do
    let failureReview ← orBail
      ("failed catalog `" ++ catalogId ++ "` has no reviewed failure attribution") failureReview
    match disposition with
    | .notRanked _ =>
      pure (.fail ⟨failureReview.category, failureReview.summary, failureReview.detail,
        failureReview.retryable, [transcriptEvidenceId, reviewEvidenceId]⟩)
    | .ranked _ _ => bail ("failed catalog `" ++ catalogId ++ "` is unexpectedly ranked")

def catalogRounds (transcript : ContentionTranscript) (catalog : ComponentId) :
    List CatalogRoundTranscript :=
  transcript.rounds.filter fun round => round.catalog.catalog = catalog

/-- `Validate::validate`. -/
def validateResult (crates : PublisherCrates) (result : ResultRecord) : Loading Unit :=
  let issues := result.collectIssues crates.parseF64 "$"
  bailWhen (!issues.isEmpty)
    ("; ".intercalate (issues.map fun issue => issue.path ++ ": " ++ issue.message))

def buildResult (crates : PublisherCrates) (context : ResultBuildContext) (component : Component)
    (aggregate : CatalogAggregate) (failureReview : Option FailureReview) :
    Loading ResultRecord := do
  let rounds := catalogRounds context.transcript component.id
  let measuredRounds := rounds.filter (·.kind = .measured)
  let assertions ← context.scenario.assertions.mapM fun assertion =>
    evaluateAssertion assertion context.transcript rounds
  let failedRequired := (assertions.filter fun evaluation =>
    evaluation.required && evaluation.outcome matches .fail _).map (·.assertion)
  let measurements ← measurements crates measuredRounds aggregate.measured.passed
  let rankingEntry ← orBail ("ranking has no `" ++ component.id ++ "` entry")
    (context.transcript.ranking.entries.find? (·.catalog.catalog = component.id))
  let outcome ← resultOutcome component.id failedRequired failureReview rankingEntry.disposition
  let totalErrors ← sumPhaseCount measuredRounds (·.counts.errors)
  let result : ResultRecord := {
    id := bundleId ++ "-" ++ component.id
    scenario := ⟨context.scenario.id, context.scenario.version, context.scenarioArtifact.digest⟩
    profile := ⟨context.profile.id, context.profileArtifact.digest⟩
    catalog := ⟨component.id, component.name, component.version⟩
    client := none
    adapters := []
    run := .aggregate (context.transcript.fixtureId ++ "-" ++ component.id ++ "-measured")
      (context.review.run.startedAt ++ "/" ++ context.review.run.completedAt) [2, 3, 4, 5, 6] [1]
      ("Performance distributions use measured repetitions 2 through 6 with full range, " ++
        "population moments, and deterministic quantiles. Strict classification additionally " ++
        "requires conditioning repetition 1 and every measured repetition to pass.")
    outcome
    environment := context.review.environment
    assertions
    measurements
    evidence := resultEvidence context
    artifacts := []
    extensions := .ofList [
      ("querygraph/rounds",
        .object [("conditioning", RoundTally.toJson aggregate.conditioning),
          ("failed_required_assertions", .array (failedRequired.map .string)),
          ("measured", RoundTally.toJson aggregate.measured)]),
      ("querygraph/ranking-disposition", RankingDisposition.toJson rankingEntry.disposition),
      ("querygraph/request-handling",
        .object [("behavior_changing_shim", .bool false),
          ("protocol", .string "iceberg-rest-v1")]),
      ("querygraph/measured-request-errors", .number (.posInt totalErrors))] _ }
  validateResult crates result
  pure result

/-- The aggregation of the publisher; the transcript has to agree with it. -/
def recomputeAggregates (plan : ContentionPlan) (transcript : ContentionTranscript) :
    Loading (List CatalogAggregate) :=
  match aggregateContention plan transcript.rounds with
  | .error error =>
    .error ["failed to independently aggregate transcript rounds", error.display]
  | .ok (aggregates, ranking, classification) => do
    bailWhen (transcript.aggregates ≠ aggregates || transcript.ranking ≠ ranking ||
        transcript.classification ≠ classification)
      "transcript aggregates, ranking, or sweep classification do not recompute exactly"
    pure aggregates

/-- The results that `generate` writes, in the order of the manifest. -/
def generateResults (crates : PublisherCrates) (plan : ContentionPlan)
    (context : ResultBuildContext) : Loading (List ResultRecord) := do
  let aggregates ← recomputeAggregates plan context.transcript
  let components := keyed Component.id context.profile.components
  let failureReviews := keyed FailureReview.catalog context.review.failures
  aggregates.mapM fun aggregate => do
    let component ← orBail ("profile has no `" ++ aggregate.catalog.catalog ++ "` component")
      components[aggregate.catalog.catalog]?
    buildResult crates context component aggregate failureReviews[aggregate.catalog.catalog]?

end CatalogBench.ContractTool
