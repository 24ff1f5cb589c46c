import CatalogBench.Commit.Transcript
import CatalogBench.Library.SortBy

/-!
# Aggregation

The rounds of a sweep are checked against its plan, gathered for each catalog and ranked. Only a
catalog that passed all its rounds has measurements and takes part in the ranking.
-/

set_option linter.all false

namespace CatalogBench.Commit
open MachineInt SortBy

inductive AggregationError
  | emptySchedule
  | countOverflow
  | scheduleLength (expected actual : ℕ)
  | scheduleMismatch (index : ℕ)
  | missingExecution
  | failedRoundInPassingAggregate
  | missingMeasurement
  | invalidAggregate
  | statistics (error : StatisticsError)
  deriving DecidableEq

def AggregationError.display : AggregationError → String
  | .emptySchedule => "cannot aggregate an empty schedule"
  | .countOverflow => "aggregate count overflowed"
  | .scheduleLength expected actual =>
    "round transcript count is " ++ toString actual ++ ", expected " ++ toString expected
  | .scheduleMismatch index =>
    "round transcript " ++ toString index ++ " does not match the schedule"
  | .missingExecution => "passing aggregate contains a negotiation failure"
  | .failedRoundInPassingAggregate => "passing aggregate contains a failed round"
  | .missingMeasurement => "passing round is missing required measurements"
  | .invalidAggregate => "aggregate classification is invalid"
  | .statistics error => error.display

/-- `Option::ok_or`. -/
def okOr {α : Type} (error : AggregationError) : Option α → Except AggregationError α
  | some value => .ok value
  | none => .error error

/-- `u32::try_from`. -/
def tryU32 (n : ℕ) : Except AggregationError ℕ :=
  if n < 2 ^ 32 then .ok n else .error .countOverflow

-- ════════════════════════════════
-- The schedule
-- ════════════════════════════════

structure ScheduledTurn where
  round : RoundPlan
  position : ℕ
  catalog : CatalogRun
  deriving DecidableEq

/-- The turns of a plan, in the order in which they are taken. -/
def ContentionPlan.turns (plan : ContentionPlan) : List ScheduledTurn :=
  plan.rounds.flatMap fun round =>
    round.catalogs.zipIdx.map fun (catalog, position) => ⟨round, position, catalog⟩

/-- The descriptor of an execution is the one of its turn. -/
def RoundDescriptor.fits (descriptor : RoundDescriptor) (turn : ScheduledTurn) : Bool :=
  descriptor.catalog = turn.catalog.catalog && descriptor.repetition = turn.round.repetition &&
    descriptor.kind = turn.round.kind

def validateTurn (turn : ScheduledTurn) (observed : CatalogRoundTranscript) (index : ℕ) :
    Except AggregationError Unit := do
  let expectedPosition ← tryU32 (turn.position + 1)
  if observed.repetition ≠ turn.round.repetition || observed.kind ≠ turn.round.kind ||
      observed.position ≠ expectedPosition || observed.catalog ≠ turn.catalog ||
      observed.execution.any fun execution => !execution.descriptor.fits turn then
    .error (.scheduleMismatch index)
  else pure ()

def validateSchedule (plan : ContentionPlan) (actual : List CatalogRoundTranscript) :
    Except AggregationError Unit := do
  let expectedCount ← okOr .countOverflow
    (plan.rounds.foldlM (fun count round => checkedAdd 64 count round.catalogs.length) 0)
  if actual.length ≠ expectedCount then .error (.scheduleLength expectedCount actual.length)
  else
    (plan.turns.zip actual).zipIdx.forM fun ((turn, observed), index) =>
      validateTurn turn observed index

-- ════════════════════════════════
-- Measurements
-- ════════════════════════════════

structure RoundMetrics where
  sequentialLatencyP50Ms : ℚ
  sequentialLatencyP95Ms : ℚ
  sequentialLatencyP99Ms : ℚ
  sequentialAcceptedThroughputPerSecond : ℚ
  concurrentLatencyP50Ms : ℚ
  concurrentLatencyP95Ms : ℚ
  concurrentLatencyP99Ms : ℚ
  concurrentAttemptedThroughputPerSecond : ℚ
  concurrentAcceptedThroughputPerSecond : ℚ
  concurrentConflictRate : ℚ
  concurrentErrorRate : ℚ
  concurrentAttempts : ℚ
  concurrentAccepted : ℚ
  concurrentConflicts : ℚ
  metadataObjectGrowth : ℚ

/-- The output of a step that succeeded; `phase` and `growth` of the source. -/
def measuredOutput {α : Type} (evidence : OperationEvidence α) : Except AggregationError α :=
  match evidence with
  | .succeeded output => .ok output
  | .failed _ | .notAttempted _ => .error .missingMeasurement

def quantile (phase : PhaseEvidence) (name : String) : Except AggregationError ℚ :=
  okOr .missingMeasurement (phase.latencyMs.all.bind fun distribution => distribution.quantiles[name]?)

def RoundMetrics.fromExecution (execution : RoundExecution) :
    Except AggregationError RoundMetrics := do
  if !execution.passed then .error .failedRoundInPassingAggregate
  else
    let sequential ← measuredOutput execution.sequential
    let concurrent ← measuredOutput execution.concurrent
    let growth ← measuredOutput execution.metadataGrowth
    let sequentialP50 ← quantile sequential "p50"
    let sequentialP95 ← quantile sequential "p95"
    let sequentialP99 ← quantile sequential "p99"
    let concurrentP50 ← quantile concurrent "p50"
    let concurrentP95 ← quantile concurrent "p95"
    let concurrentP99 ← quantile concurrent "p99"
    let observedGrowth ← okOr .missingMeasurement growth.observedGrowth
    pure {
      sequentialLatencyP50Ms := sequentialP50
      sequentialLatencyP95Ms := sequentialP95
      sequentialLatencyP99Ms := sequentialP99
      sequentialAcceptedThroughputPerSecond := sequential.acceptedThroughputPerSecond
      concurrentLatencyP50Ms := concurrentP50
      concurrentLatencyP95Ms := concurrentP95
      concurrentLatencyP99Ms := concurrentP99
      concurrentAttemptedThroughputPerSecond := concurrent.attemptedThroughputPerSecond
      concurrentAcceptedThroughputPerSecond := concurrent.acceptedThroughputPerSecond
      concurrentConflictRate := concurrent.conflictRate
      concurrentErrorRate := concurrent.errorRate
      concurrentAttempts := concurrent.counts.attempts
      concurrentAccepted := concurrent.counts.accepted
      concurrentConflicts := concurrent.counts.conflicts
      metadataObjectGrowth := observedGrowth }

def metric (rounds : List RoundMetrics) (select : RoundMetrics → ℚ) :
    Except AggregationError MedianRange :=
  (medianWithRange (rounds.map select)).mapError AggregationError.statistics

def ContentionMeasurements.fromRounds (rounds : List RoundMetrics) :
    Except AggregationError ContentionMeasurements := do
  pure {
    sequentialLatencyP50Ms := ← metric rounds (·.sequentialLatencyP50Ms)
    sequentialLatencyP95Ms := ← metric rounds (·.sequentialLatencyP95Ms)
    sequentialLatencyP99Ms := ← metric rounds (·.sequentialLatencyP99Ms)
    sequentialAcceptedThroughputPerSecond :=
      ← metric rounds (·.sequentialAcceptedThroughputPerSecond)
    concurrentLatencyP50Ms := ← metric rounds (·.concurrentLatencyP50Ms)
    concurrentLatencyP95Ms := ← metric rounds (·.concurrentLatencyP95Ms)
    concurrentLatencyP99Ms := ← metric rounds (·.concurrentLatencyP99Ms)
    concurrentAttemptedThroughputPerSecond :=
      ← metric rounds (·.concurrentAttemptedThroughputPerSecond)
    concurrentAcceptedThroughputPerSecond :=
      ← metric rounds (·.concurrentAcceptedThroughputPerSecond)
    concurrentConflictRate := ← metric rounds (·.concurrentConflictRate)
    concurrentErrorRate := ← metric rounds (·.concurrentErrorRate)
    concurrentAttempts := ← metric rounds (·.concurrentAttempts)
    concurrentAccepted := ← metric rounds (·.concurrentAccepted)
    concurrentConflicts := ← metric rounds (·.concurrentConflicts)
    metadataObjectGrowth := ← metric rounds (·.metadataObjectGrowth) }

-- ════════════════════════════════
-- Catalogs
-- ════════════════════════════════

/-- Count one round. -/
def tallyRound (tally : RoundTally) (outcome : CatalogRoundOutcome) :
    Except AggregationError RoundTally := do
  let add (count : ℕ) (counted : Bool) : Except AggregationError ℕ :=
    if counted then okOr .countOverflow (checkedAdd 32 count 1) else .ok count
  let scheduled ← add tally.scheduled true
  let executed ← add tally.executed outcome.execution.isSome
  let passed ← add tally.passed outcome.passed
  pure ⟨scheduled, executed, passed⟩

def tally (rounds : List CatalogRoundTranscript) (kind : RoundKind) :
    Except AggregationError RoundTally :=
  (rounds.filter (·.kind = kind)).foldlM (fun tally round => tallyRound tally round.outcome) ⟨0, 0, 0⟩

/-- Why the rounds of a kind do not count. -/
def shortfall (kind : String) (tally : RoundTally) (expected : ℕ) : List String :=
  if tally.scheduled ≠ expected || tally.executed ≠ expected || tally.passed ≠ expected then
    [kind ++ " rounds passed " ++ toString tally.passed ++ "/" ++ toString expected ++ " (" ++
      toString tally.executed ++ " executed)"]
  else []

/-- The metrics of one round. -/
def outcomeMetrics (outcome : CatalogRoundOutcome) : Except AggregationError RoundMetrics := do
  let execution ← okOr .missingExecution outcome.execution
  RoundMetrics.fromExecution execution

def aggregateCatalog (plan : ContentionPlan) (rounds : List CatalogRoundTranscript)
    (catalog : CatalogRun) : Except AggregationError CatalogAggregate := do
  let catalogRounds := rounds.filter fun round => round.catalog.catalog = catalog.catalog
  let conditioning ← tally catalogRounds .conditioning
  let measured ← tally catalogRounds .measured
  let policy := plan.parameters.roundPolicy
  let reasons := shortfall "conditioning" conditioning policy.conditioningRounds ++
    shortfall "measured" measured policy.measuredRounds
  if reasons.isEmpty then do
    let metrics ← (catalogRounds.filter (·.kind = .measured)).mapM fun round =>
      outcomeMetrics round.outcome
    let measurements ← ContentionMeasurements.fromRounds metrics
    pure ⟨catalog, conditioning, measured, .pass, some measurements⟩
  else pure ⟨catalog, conditioning, measured, .fail reasons, none⟩

-- ════════════════════════════════
-- The ranking
-- ════════════════════════════════

/-- An aggregate with its score and its latency. -/
abbrev RankedCatalog := CatalogAggregate × MedianRange × MedianRange

/-- The greater throughput comes first, then the smaller latency, then the smaller id. -/
def compareRanked : RankedCatalog → RankedCatalog → Ordering :=
  compareStanding (fun ranked => ranked.2.1.median) (fun ranked => ranked.2.2.median)
    (fun ranked => ranked.1.catalog.catalog)

def rankable (aggregates : List CatalogAggregate) : List RankedCatalog :=
  aggregates.filterMap fun aggregate => aggregate.measurements.map fun measurements =>
    (aggregate, measurements.concurrentAcceptedThroughputPerSecond,
      measurements.sequentialLatencyP50Ms)

def rankedEntry (ranked : RankedCatalog × ℕ) : Except AggregationError RankingEntry := do
  let rank ← tryU32 (ranked.2 + 1)
  pure ⟨ranked.1.1.catalog, .ranked rank ranked.1.2.1⟩

def notRankedEntry (aggregate : CatalogAggregate) : Except AggregationError RankingEntry :=
  match aggregate.classification with
  | .fail reasons => .ok ⟨aggregate.catalog, .notRanked reasons⟩
  | .pass => .error .invalidAggregate

def rankCatalogs (aggregates : List CatalogAggregate) : Except AggregationError ContentionRanking := do
  let ranked ← (sortBy compareRanked (rankable aggregates)).zipIdx.mapM rankedEntry
  let notRanked ← (aggregates.filter fun aggregate => !aggregate.passed).mapM notRankedEntry
  pure {
    basis := .concurrentAcceptedThroughputPerSecond
    tieBreakers := [.sequentialLatencyP50Ascending, .catalogIdAscending]
    entries := ranked ++ notRanked }

def aggregateContention (plan : ContentionPlan) (rounds : List CatalogRoundTranscript) :
    Except AggregationError
      (List CatalogAggregate × ContentionRanking × SweepClassification) := do
  validateSchedule plan rounds
  let first ← okOr .emptySchedule plan.rounds.head?
  let aggregates ← first.catalogs.mapM (aggregateCatalog plan rounds)
  let ranking ← rankCatalogs aggregates
  let failedCatalogs := (aggregates.filter fun aggregate => !aggregate.passed).map (·.catalog.catalog)
  pure (aggregates, ranking, if failedCatalogs.isEmpty then .pass else .fail failedCatalogs)

end CatalogBench.Commit
