import CatalogBench.Contract.Quantiles
import CatalogBench.ContractTool.PublishedMetrics

/-!
# The order of the matrix

The ranking is computed twice: from the rounds of a transcript, and again from the metrics that
the published results carry. Both sort the same standings.
-/

set_option linter.all false

namespace CatalogBench.ContractTool.Matrix
open CatalogBench.Contract CatalogBench.Commit Interaction SortBy ListRel

-- ════════════════════════════════
-- Results
-- ════════════════════════════════

section Results

variable {crates : PublisherCrates} {plan : ContentionPlan} {context : ResultBuildContext}
  {results : List ResultRecord}

/-- A catalog with a rank has a result only if it passes. -/
theorem resultOutcome_ranked {catalogId : ComponentId} {failedRequired : List AssertionId}
    {failureReview : Option FailureReview} {rank : ℕ} {score : MedianRange} {outcome : ResultOutcome}
    (h : resultOutcome catalogId failedRequired failureReview (.ranked rank score) = .ok outcome) :
    isPass outcome = true := by
  unfold resultOutcome at h
  split at h
  · obtain ⟨-, h⟩ := except_seq_eq_ok.mp h
    obtain rfl := Except.ok.inj h
    rfl
  · obtain ⟨_, -, h⟩ := except_bind_eq_ok.mp h
    cases h

/-- What the result of a catalog is built from. -/
theorem buildResult_ok {component : Component} {aggregate : CatalogAggregate}
    {failureReview : Option FailureReview} {result : ResultRecord}
    (h : buildResult crates context component aggregate failureReview = .ok result) :
    result.catalog.profileComponent = component.id ∧
      measurements crates (measuredRounds context.transcript.rounds component.id)
        aggregate.measured.passed = .ok result.measurements ∧
      ∃ entry ∈ context.transcript.ranking.entries, ∃ failedRequired,
        resultOutcome component.id failedRequired failureReview entry.disposition =
          .ok result.outcome := by
  obtain ⟨assertions, -, h⟩ := except_bind_eq_ok.mp h
  obtain ⟨phases, hphases, h⟩ := except_bind_eq_ok.mp h
  obtain ⟨entry, hentry, h⟩ := except_bind_eq_ok.mp h
  obtain ⟨outcome, houtcome, h⟩ := except_bind_eq_ok.mp h
  obtain ⟨totalErrors, -, h⟩ := except_bind_eq_ok.mp h
  obtain ⟨-, h⟩ := except_seq_eq_ok.mp h
  obtain rfl := Except.ok.inj h
  exact ⟨rfl, hphases, entry, List.mem_of_find?_eq_some (orBail_eq_ok.mp hentry), _, houtcome⟩

theorem recomputeAggregates_ok {transcript : ContentionTranscript}
    {aggregates : List CatalogAggregate} (h : recomputeAggregates plan transcript = .ok aggregates) :
    ∃ classification,
      aggregateContention plan transcript.rounds =
        .ok (aggregates, transcript.ranking, classification) := by
  unfold recomputeAggregates at h
  split at h
  · cases h
  · next found ranking classification hfound =>
    obtain ⟨hsame, h⟩ := except_seq_eq_ok.mp h
    obtain rfl := Except.ok.inj h
    rw [bailWhen_eq_ok] at hsame
    simp only [ne_eq, Bool.or_eq_false_iff, decide_eq_false_iff_not, not_not] at hsame
    exact ⟨classification, hsame.1.2 ▸ hfound⟩

/-- What the publisher makes of an aggregate whose catalog has a rank. -/
structure PublishesAggregate (crates : PublisherCrates) (rounds : List CatalogRoundTranscript)
    (aggregate : CatalogAggregate) (result : ResultRecord) : Prop where
  catalog : result.catalog.profileComponent = aggregate.catalog.catalog
  pass : isPass result.outcome = true
  rounds : ∃ s c sequential concurrent,
    PublishesRounds crates.toCrates (measuredRounds rounds aggregate.catalog.catalog) result s c
      sequential concurrent

theorem generateResults_ok (h : generateResults crates plan context = .ok results)
    (hranked : ∀ entry ∈ context.transcript.ranking.entries, entry.isRanked = true) :
    ∃ aggregates classification,
      aggregateContention plan context.transcript.rounds =
        .ok (aggregates, context.transcript.ranking, classification) ∧
      List.Forall₂ (PublishesAggregate crates context.transcript.rounds) aggregates results := by
  obtain ⟨aggregates, haggregates, h⟩ := except_bind_eq_ok.mp h
  obtain ⟨classification, haggregates⟩ := recomputeAggregates_ok haggregates
  refine ⟨aggregates, classification, haggregates, (except_mapM_forall₂ h).imp ?_⟩
  intro aggregate result hresult
  obtain ⟨component, hcomponent, hresult⟩ := except_bind_eq_ok.mp hresult
  have hid := key_of_getElem?_keyed (orBail_eq_ok.mp hcomponent)
  obtain ⟨hcatalog, hmeasurements, entry, hentry, failedRequired, houtcome⟩ := buildResult_ok hresult
  have hpass : isPass result.outcome = true := by
    have hentry := hranked entry hentry
    cases hdisposition : entry.disposition with
    | ranked rank score =>
      rw [hdisposition] at houtcome
      exact resultOutcome_ranked houtcome
    | notRanked reasons => simp [RankingEntry.isRanked, hdisposition] at hentry
  refine ⟨hcatalog.trans hid, hpass, ?_⟩
  rw [← hid]
  exact measurements_ok hmeasurements

/-- The results of ranked catalogs are sorted by the standings of the ranking. -/
theorem passRows_eq {rounds : List CatalogRoundTranscript} {aggregates : List CatalogAggregate}
    (h : List.Forall₂ (PublishesAggregate crates rounds) aggregates results)
    (hodd : ∀ aggregate ∈ aggregates,
      Odd (measuredRounds rounds aggregate.catalog.catalog).length) :
    ∃ rows, passRows crates results = .ok rows ∧ rows.Perm results ∧
      rows.map (·.catalog.profileComponent) =
        (sortBy compareStandings (aggregates.map fun aggregate =>
          standing rounds aggregate.catalog.catalog)).map (·.2.2) := by
  let row : ResultRecord → PassRow := fun result =>
    (result, medianThroughput rounds result.catalog.profileComponent,
      medianLatency rounds result.catalog.profileComponent)
  have hpass : results.filter (isPass ·.outcome) = results := by
    refine List.filter_eq_self.mpr fun result hmem => ?_
    obtain ⟨aggregate, -, hresult⟩ := forall₂_mem_right h hmem
    exact hresult.pass
  have hrows : results.mapM (passRow crates) = .ok (results.map row) := by
    refine except_mapM_of_forall fun result hmem => ?_
    obtain ⟨aggregate, haggregate, hresult⟩ := forall₂_mem_right h hmem
    obtain ⟨s, c, sequential, concurrent, hrounds⟩ := hresult.rounds
    rw [passRow_eq hrounds (hodd aggregate haggregate)]
    simp only [row, medianThroughput, medianLatency, measuredExecutions, List.filterMap_filterMap,
      hresult.catalog]
    rfl
  have hstandings : (results.map row).map
      (fun row => (row.2.1, row.2.2, row.1.catalog.profileComponent)) =
        aggregates.map fun aggregate => standing rounds aggregate.catalog.catalog := by
    rw [List.map_map]
    refine forall₂_map_eq h fun aggregate result hresult => ?_
    simp only [Function.comp_apply, row, standing, hresult.catalog]
  refine ⟨(sortBy comparePassRows (results.map row)).map (·.1), ?_, ?_, ?_⟩
  · exact except_bind_eq_ok.mpr ⟨_, hpass.symm ▸ hrows, rfl⟩
  · have hperm := (sortBy_perm comparePassRows (results.map row)).map (·.1)
    rwa [List.map_map, show ((·.1) ∘ row) = id from rfl, List.map_id] at hperm
  · have hsorted : (sortBy comparePassRows (results.map row)).map
        (fun row => (row.2.1, row.2.2, row.1.catalog.profileComponent)) =
          sortBy compareStandings ((results.map row).map fun row =>
            (row.2.1, row.2.2, row.1.catalog.profileComponent)) :=
      map_sortBy fun _ _ _ _ => rfl
    rw [← hstandings, ← hsorted, List.map_map, List.map_map]
    rfl

/-- **The order of the matrix.** If every catalog of a transcript is ranked and the number of
measured rounds is odd, the matrix of the results that the publisher makes of it lists all of
them, in the order of the ranks that the aggregation gives. -/
theorem renderCommitMatrix_ranks {bundle : ValidatedBundle} {scenario : ValidatedScenario}
    (hgenerate : generateResults crates plan context = .ok results)
    (hranked : ∀ entry ∈ context.transcript.ranking.entries, entry.isRanked = true)
    (hodd : Odd plan.parameters.roundPolicy.measuredRounds)
    (hscenarios : bundle.scenarios = [scenario])
    (hresults : bundle.results.map (·.result) = results) :
    ∃ aggregates ranking classification,
      aggregateContention plan context.transcript.rounds =
        .ok (aggregates, ranking, classification) ∧
      ∃ (rows : List ResultRecord) (lines : List String), rows.Perm results ∧
        rows.map (·.catalog.profileComponent) = ranking.entries.map (·.catalog.catalog) ∧
        (∀ (index : ℕ) (entry : RankingEntry), ranking.entries[index]? = some entry →
          ∃ score, entry.disposition = .ranked (index + 1) score) ∧
        rows.zipIdx.mapM (fun (result, index) =>
          writeRow crates (toString (index + 1)) true result) = .ok lines ∧
        renderCommitMatrix crates bundle = .ok (matrixHead bundle scenario.scenario ++
          String.join lines ++ matrixTail bundle []) := by
  obtain ⟨aggregates, classification, haggregate, hpublished⟩ := generateResults_ok hgenerate hranked
  obtain ⟨haggregates, hranking⟩ := aggregateContention_ok haggregate
  obtain ⟨hpassed, hentries⟩ := rankCatalogs_allRanked hranking hranked
  have hcount : ∀ aggregate ∈ aggregates,
      Odd (measuredRounds context.transcript.rounds aggregate.catalog.catalog).length := by
    intro aggregate hmem
    obtain ⟨run, hrun⟩ := haggregates aggregate hmem
    obtain ⟨-, hsome, hplaced⟩ := aggregateCatalog_ok hrun
    rw [hpassed aggregate hmem] at hsome
    obtain ⟨measurements, hmeasurements⟩ := Option.isSome_iff_exists.mp hsome.symm
    rwa [(hplaced measurements hmeasurements).count]
  obtain ⟨rows, hrows, hperm, hnames⟩ := passRows_eq hpublished hcount
  have hnonPass : nonPassRows results = [] := by
    have hfilter : (results.filter fun result => !isPass result.outcome) = [] := by
      refine List.filter_eq_nil_iff.mpr fun result hmem => ?_
      obtain ⟨aggregate, -, hresult⟩ := forall₂_mem_right hpublished hmem
      simp [hresult.pass]
    rw [nonPassRows, hfilter, sortBy, List.mergeSort_nil]
  have hlines : ∃ lines, rows.zipIdx.mapM (fun (result, index) =>
      writeRow crates (toString (index + 1)) true result) = .ok lines := by
    refine except_mapM_of_exists ?_
    rintro ⟨result, index⟩ hmem
    obtain ⟨aggregate, -, hresult⟩ :=
      forall₂_mem_right hpublished (hperm.mem_iff.mp (List.fst_mem_of_mem_zipIdx hmem))
    obtain ⟨s, c, sequential, concurrent, hrounds⟩ := hresult.rounds
    exact writeRow_ok hrounds (toString (index + 1))
  obtain ⟨lines, hlines⟩ := hlines
  refine ⟨aggregates, _, classification, haggregate, rows, lines, hperm, ?_, ?_, hlines, ?_⟩
  · exact hnames.trans (map_entries_allRanked haggregate hranked).symm
  · intro index entry hentry
    rw [hentries, rankedEntries, List.getElem?_map, List.getElem?_zipIdx, Nat.zero_add] at hentry
    obtain ⟨⟨ranked, _⟩, hranked, rfl⟩ := Option.map_eq_some_iff.mp hentry
    obtain ⟨_, -, heq⟩ := Option.map_eq_some_iff.mp hranked
    obtain ⟨rfl, rfl⟩ := Prod.mk.inj heq
    exact ⟨_, rfl⟩
  · unfold renderCommitMatrix
    rw [hscenarios]
    dsimp only
    rw [hresults, hrows, hnonPass]
    refine except_bind_eq_ok.mpr ⟨rows, rfl, except_bind_eq_ok.mpr ⟨lines, hlines, ?_⟩⟩
    refine except_bind_eq_ok.mpr ⟨[], rfl, ?_⟩
    rw [List.append_nil]
    rfl

end Results

-- ════════════════════════════════
-- A published sweep
-- ════════════════════════════════

/-- The library functions on the published sweep. -/
def publisherCrates : PublisherCrates where
  toContractCrates := { sweepCrates.toContractCrates with
    parseF64 := fun text =>
      if text = "50" then some 50
      else if text = "95" then some 95
      else if text = "99" then some 99
      else none }
  displayF64 value := toString value.num
  debugMetricValue _ := "MetricValue"

/-- The summary of one sample. -/
def singleSummary (value : ℚ) : Commit.Distribution :=
  ⟨1, value, value, some value, some 0, .ofList [("p50", value), ("p95", value), ("p99", value)] _⟩

theorem nonnegativeDistribution_single {value : ℚ} (h : 0 ≤ value) :
    nonnegativeDistribution publisherCrates.toCrates [value] = .ok (singleSummary value) := by
  have hrank (probability : ℚ) : nearestRank [value] probability = value := by
    simp [nearestRank]
  have hmoments : populationMoments publisherCrates.toCrates [value] = (value, 0) := by
    have hsqrt : publisherCrates.sqrt 0 = 0 := rfl
    simp [populationMoments, hsqrt]
  rw [nonnegativeDistribution, sortedNonnegative_eq (by simp) (by simpa using h)]
  simp [Except.map, summarize, hmoments, hrank, quantiles, singleSummary]

theorem medianWithRange_single {value : ℚ} (h : 0 ≤ value) :
    medianWithRange [value] = .ok ⟨1, value, value, value⟩ := by
  rw [medianWithRange_eq (by simp) (by simpa using h)]
  simp [MedianRange.ofSorted, middle]

theorem singleSummary_valid {value : ℚ} (h : 0 ≤ value) (path : String) :
    (contractDistribution (singleSummary value)).collectIssues publisherCrates.parseF64 path = [] := by
  have hparse : ReadsPercentiles publisherCrates.parseF64 := ⟨rfl, rfl, rfl⟩
  exact summary_accepted hparse rfl Nat.one_pos h le_rfl le_rfl le_rfl le_rfl rfl le_rfl le_rfl rfl
    le_rfl path

/-- Two catalogs, not in the order of their ids. -/
def publishedCatalogs : List CatalogRun :=
  [⟨"polaris", "polaris", "1.0"⟩, ⟨"nessie", "nessie", "1.0"⟩]

def publishedPlan : ContentionPlan where
  parameters := { canonicalParameters with
    roundPolicy := { canonicalParameters.roundPolicy with measuredRounds := 1 } }
  rounds := [⟨1, .conditioning, publishedCatalogs⟩, ⟨2, .measured, publishedCatalogs.reverse⟩]

def publishedPhase : PhaseEvidence where
  elapsedMs := 100
  counts := ⟨1, 1, 0, 0⟩
  latencyMs := ⟨some (singleSummary 5), some (singleSummary 5), none, none⟩
  attemptedThroughputPerSecond := 10
  acceptedThroughputPerSecond := 10
  conflictRate := 0
  errorRate := 0
  errorCounts := []

/-- A round that passed, with one request in each phase. -/
def publishedExecution (turn : ScheduledTurn) : RoundExecution where
  descriptor := ⟨turn.catalog.catalog, turn.round.repetition, turn.round.kind,
    ⟨"run1", "namespace", "same_table_contention"⟩⟩
  workload := ⟨1, 1, 1, 100, "commit-id"⟩
  classification := .pass
  preflight := .succeeded ⟨404, .absent⟩
  createNamespace := .succeeded ⟨200⟩
  createTable := .succeeded ⟨2, "uuid", "s3://warehouse/table", "s3://warehouse/table/1.json", none⟩
  baselineObjectAudit := .succeeded
    ⟨"s3://warehouse/table", 1, 100, "s3://warehouse/table/1.json", true⟩
  warmup := .succeeded publishedPhase
  sequential := .succeeded publishedPhase
  concurrent := .succeeded publishedPhase
  finalTable := .succeeded ⟨2, "uuid", "s3://warehouse/table/4.json", true, true,
    ⟨true, none, true, true⟩⟩
  finalObjectAudit := .succeeded
    ⟨"s3://warehouse/table", 4, 400, "s3://warehouse/table/4.json", true⟩
  metadataGrowth := .succeeded ⟨1, 4, some 3, 3, true⟩
  cleanup := ⟨.succeeded ⟨204⟩, .succeeded ⟨404, .absent⟩, .succeeded ⟨204⟩,
    .succeeded ⟨404, .absent⟩⟩
  checks := ⟨true, true, true, true, true, true, true, true, true, true, true⟩

def publishedRound (turn : ScheduledTurn) : CatalogRoundTranscript where
  repetition := turn.round.repetition
  kind := turn.round.kind
  position := turn.position + 1
  catalog := turn.catalog
  negotiation :=
    { adapter := ⟨turn.catalog.catalog, turn.catalog.name, turn.catalog.version, .icebergRestV1,
        .protocolNative⟩
      authentication := ⟨"anonymous", .ready, none, none, none⟩
      config := ⟨⟨"GET", "http://catalog:8181/v1/config", ∅⟩,
        some ⟨200, ∅, 2, none, .json (.object [])⟩, .unprefixed, .notEvaluated "", none⟩
      redactions := [] }
  outcome := .executed (publishedExecution turn)

def publishedRange (value : ℚ) : MedianRange := ⟨1, value, value, value⟩

def publishedMeasurements : ContentionMeasurements where
  sequentialLatencyP50Ms := publishedRange 5
  sequentialLatencyP95Ms := publishedRange 5
  sequentialLatencyP99Ms := publishedRange 5
  sequentialAcceptedThroughputPerSecond := publishedRange 10
  concurrentLatencyP50Ms := publishedRange 5
  concurrentLatencyP95Ms := publishedRange 5
  concurrentLatencyP99Ms := publishedRange 5
  concurrentAttemptedThroughputPerSecond := publishedRange 10
  concurrentAcceptedThroughputPerSecond := publishedRange 10
  concurrentConflictRate := publishedRange 0
  concurrentErrorRate := publishedRange 0
  concurrentAttempts := publishedRange 1
  concurrentAccepted := publishedRange 1
  concurrentConflicts := publishedRange 0
  metadataObjectGrowth := publishedRange 3

def publishedAggregate (catalog : CatalogRun) : CatalogAggregate :=
  ⟨catalog, ⟨1, 1, 1⟩, ⟨1, 1, 1⟩, .pass, some publishedMeasurements⟩

def publishedRounds : List CatalogRoundTranscript := publishedPlan.turns.map publishedRound

/-- The measured rounds of a catalog. -/
theorem measuredRounds_published : ∀ catalog ∈ publishedCatalogs, ∃ turn : ScheduledTurn,
    measuredRounds publishedRounds catalog.catalog = [publishedRound turn] := by
  have hrounds : ∀ catalog ∈ publishedCatalogs, ∃ position ∈ [0, 1],
      measuredRounds publishedRounds catalog.catalog =
        [publishedRound ⟨⟨2, .measured, publishedCatalogs.reverse⟩, position, catalog⟩] := by
    decide
  intro catalog hmem
  obtain ⟨position, -, hrounds⟩ := hrounds catalog hmem
  exact ⟨_, hrounds⟩

def publishedMetrics : RoundMetrics where
  sequentialLatencyP50Ms := 5
  sequentialLatencyP95Ms := 5
  sequentialLatencyP99Ms := 5
  sequentialAcceptedThroughputPerSecond := 10
  concurrentLatencyP50Ms := 5
  concurrentLatencyP95Ms := 5
  concurrentLatencyP99Ms := 5
  concurrentAttemptedThroughputPerSecond := 10
  concurrentAcceptedThroughputPerSecond := 10
  concurrentConflictRate := 0
  concurrentErrorRate := 0
  concurrentAttempts := 1
  concurrentAccepted := 1
  concurrentConflicts := 0
  metadataObjectGrowth := 3

theorem aggregateCatalog_published : ∀ catalog ∈ publishedCatalogs,
    aggregateCatalog publishedPlan publishedRounds catalog = .ok (publishedAggregate catalog) := by
  intro catalog hmem
  have htally : ∀ catalog ∈ publishedCatalogs, ∀ kind ∈ [RoundKind.conditioning, .measured],
      tally (publishedRounds.filter (·.catalog.catalog = catalog.catalog)) kind =
        .ok ⟨1, 1, 1⟩ := by
    decide
  have hmetric (select : RoundMetrics → ℚ) (h : 0 ≤ select publishedMetrics) :
      Commit.metric [publishedMetrics] select = .ok (publishedRange (select publishedMetrics)) := by
    rw [Commit.metric, List.map_singleton, medianWithRange_single h]
    rfl
  have hfrom : ContentionMeasurements.fromRounds [publishedMetrics] = .ok publishedMeasurements := by
    have hnonneg : publishedMetrics.Nonneg := by
      simp [RoundMetrics.Nonneg, RoundMetrics.fields, publishedMetrics]
    simp only [RoundMetrics.Nonneg, RoundMetrics.fields, List.mem_cons, List.not_mem_nil, or_false,
      forall_eq_or_imp, forall_eq] at hnonneg
    simp only [ContentionMeasurements.fromRounds, hmetric _ _, hnonneg]
    rfl
  obtain ⟨turn, hturn⟩ := measuredRounds_published catalog hmem
  have hmetrics : (measuredRounds publishedRounds catalog.catalog).mapM
      (fun round => outcomeMetrics round.outcome) = .ok [publishedMetrics] := by
    rw [hturn]
    rfl
  refine except_bind_eq_ok.mpr ⟨_, htally catalog hmem _ (by simp), ?_⟩
  refine except_bind_eq_ok.mpr ⟨_, htally catalog hmem _ (by simp), ?_⟩
  exact except_bind_eq_ok.mpr ⟨_, hmetrics, except_bind_eq_ok.mpr ⟨_, hfrom, rfl⟩⟩

def publishedRanking : ContentionRanking where
  basis := .concurrentAcceptedThroughputPerSecond
  tieBreakers := [.sequentialLatencyP50Ascending, .catalogIdAscending]
  entries :=
    [⟨⟨"nessie", "nessie", "1.0"⟩, .ranked 1 (publishedRange 10)⟩,
      ⟨⟨"polaris", "polaris", "1.0"⟩, .ranked 2 (publishedRange 10)⟩]

theorem aggregateContention_published :
    aggregateContention publishedPlan publishedRounds =
      .ok (publishedCatalogs.map publishedAggregate, publishedRanking, .pass) := by
  let row (catalog : CatalogRun) : RankedCatalog :=
    (publishedAggregate catalog, publishedRange 10, publishedRange 5)
  have hsorted : sortBy compareRanked (publishedCatalogs.map row) =
      publishedCatalogs.reverse.map row := by
    have hdistinct : Distinguishes compareRanked (publishedCatalogs.map row) :=
      distinguishes_compareStanding (by decide)
    rw [hdistinct.sortBy_eq ((List.reverse_perm publishedCatalogs).symm.map row)]
    refine List.mergeSort_of_pairwise ?_
    decide
  have haggregates : publishedCatalogs.mapM (aggregateCatalog publishedPlan publishedRounds) =
      .ok (publishedCatalogs.map publishedAggregate) :=
    except_mapM_of_forall aggregateCatalog_published
  have hranking : rankCatalogs (publishedCatalogs.map publishedAggregate) = .ok publishedRanking := by
    have hrankable : rankable (publishedCatalogs.map publishedAggregate) =
        publishedCatalogs.map row := rfl
    have hentries : (publishedCatalogs.reverse.map row).zipIdx.mapM rankedEntry =
        .ok publishedRanking.entries := by decide
    rw [← hsorted, ← hrankable] at hentries
    exact except_bind_eq_ok.mpr ⟨_, hentries, except_bind_eq_ok.mpr ⟨[], rfl, rfl⟩⟩
  have hschedule : validateSchedule publishedPlan publishedRounds = .ok () := by decide
  refine except_seq_eq_ok.mpr ⟨hschedule, except_bind_eq_ok.mpr ⟨_, rfl, ?_⟩⟩
  exact except_bind_eq_ok.mpr ⟨_, haggregates, except_bind_eq_ok.mpr ⟨_, hranking, rfl⟩⟩

def singleMetric (name unit : String) (value : ℚ) : Metric :=
  ⟨name, unit, .distribution (contractDistribution (singleSummary value))⟩

theorem distributionMetric_single {value : ℚ} (name unit : String) (h : 0 ≤ value) :
    ContractTool.distributionMetric publisherCrates.toCrates name unit [value] =
      .ok (singleMetric name unit value) := by
  refine except_bind_eq_ok.mpr ⟨contractDistribution (singleSummary value), ?_, rfl⟩
  rw [summarizeValues, nonnegativeDistribution_single h]

theorem quantileMetric_single (name : String) {quantile : String}
    (h : quantile ∈ ["p50", "p95", "p99"]) :
    quantileMetric publisherCrates.toCrates name [publishedPhase] quantile =
      .ok (singleMetric name "ms" 5) := by
  have hquantile : ∀ quantile ∈ ["p50", "p95", "p99"],
      phaseQuantile quantile publishedPhase = .ok 5 := by
    decide
  refine except_bind_eq_ok.mpr ⟨[5], ?_, distributionMetric_single name "ms" (by norm_num)⟩
  rw [List.mapM_cons, hquantile quantile h]
  rfl

theorem publishedMedian_single {value : ℚ} (h : 0 ≤ value) :
    publishedMedian publisherCrates.toCrates [value] = .ok value := by
  refine except_bind_eq_ok.mpr ⟨contractDistribution (singleSummary value), ?_, ?_⟩
  · rw [summarizeValues, nonnegativeDistribution_single h]
  · rw [distributionMedian, orBail_eq_ok]
    rfl
/-- Metrics by their names and units, and counts by their names. -/
def singleMetrics (summaries : List (String × String × ℚ)) (counts : List (String × ℕ)) :
    List Metric :=
  (summaries.map fun (name, unit, value) => singleMetric name unit value) ++
    counts.map fun (name, count) => counterMetric name count

def publishedSequential : MeasuredPhase where
  name := "sequential"
  elapsedMs := 100
  operations := some 1
  latencyMs := none
  metrics := singleMetrics
    [("successful-throughput", "operations/s", 10), ("p50-latency", "ms", 5),
      ("p95-latency", "ms", 5), ("p99-latency", "ms", 5)] []

def publishedConcurrent : MeasuredPhase where
  name := "concurrent"
  elapsedMs := 100
  operations := none
  latencyMs := none
  metrics := singleMetrics
    [("successful-throughput", "operations/s", 10), ("attempted-throughput", "operations/s", 10),
      ("p50-latency", "ms", 5), ("p95-latency", "ms", 5), ("p99-latency", "ms", 5),
      ("request-attempts-per-round", "requests/round", 1), ("successful-commits", "commits/round", 1),
      ("conflicts-per-round", "conflicts/round", 0), ("errors-per-round", "errors/round", 0),
      ("conflict-rate", "percent", 0), ("error-rate", "percent", 0),
      ("metadata-object-growth", "objects/round", 3)]
    [("request-attempts", 1), ("accepted-commits", 1), ("conflicts", 0), ("request-errors", 0),
      ("valid-rounds", 1), ("measured-rounds", 1)]

theorem measurements_published (turn : ScheduledTurn) :
    measurements publisherCrates [publishedRound turn] 1 =
      .ok [publishedSequential, publishedConcurrent] := by
  have hsummary (name unit : String) (value : ℚ) (h : 0 ≤ value) :=
    distributionMetric_single name unit h
  have hmedian : publishedMedian publisherCrates.toCrates ([publishedPhase].map (·.elapsedMs)) =
      .ok 100 :=
    publishedMedian_single (by norm_num : (0 : ℚ) ≤ 100)
  have hsequential : sequentialPhase publisherCrates [publishedPhase] (some 1) =
      .ok publishedSequential := by
    unfold sequentialPhase
    refine except_bind_eq_ok.mpr ⟨100, hmedian, ?_⟩
    refine except_bind_eq_ok.mpr ⟨publishedSequential.metrics, except_mapM_of_forall₂ ?_, rfl⟩
    exact .cons (hsummary _ _ 10 (by norm_num)) (.cons (quantileMetric_single _ (by simp))
      (.cons (quantileMetric_single _ (by simp)) (.cons (quantileMetric_single _ (by simp)) .nil)))
  have hconcurrent : concurrentPhase publisherCrates [publishedPhase] [3] 1 1 =
      .ok publishedConcurrent := by
    have hcount (name : String) (value : ℚ) (count : ℕ)
        (h : sum publisherCrates [value] = .ok count) :
        (counterMetric name ·) <$> sum publisherCrates [value] = .ok (counterMetric name count) := by
      rw [h]
      rfl
    have hone : sum publisherCrates [1] = .ok 1 := by decide
    have hzero : sum publisherCrates [0] = .ok 0 := by decide
    have hconflict : ([publishedPhase].map (·.conflictRate * 100)) = [0] := by simp [publishedPhase]
    have herror : ([publishedPhase].map (·.errorRate * 100)) = [0] := by simp [publishedPhase]
    unfold concurrentPhase
    dsimp only
    rw [hconflict, herror]
    refine except_bind_eq_ok.mpr ⟨100, hmedian, ?_⟩
    refine except_bind_eq_ok.mpr ⟨publishedConcurrent.metrics, except_mapM_of_forall₂ ?_, rfl⟩
    exact .cons (hsummary _ _ 10 (by norm_num)) (.cons (hsummary _ _ 10 (by norm_num))
      (.cons (quantileMetric_single _ (by simp)) (.cons (quantileMetric_single _ (by simp))
      (.cons (quantileMetric_single _ (by simp)) (.cons (hsummary _ _ 1 (by norm_num))
      (.cons (hsummary _ _ 1 (by norm_num)) (.cons (hsummary _ _ 0 (by norm_num))
      (.cons (hsummary _ _ 0 (by norm_num)) (.cons (hsummary _ _ 0 (by norm_num))
      (.cons (hsummary _ _ 0 (by norm_num)) (.cons (hsummary _ _ 3 (by norm_num))
      (.cons (hcount _ 1 1 hone) (.cons (hcount _ 1 1 hone) (.cons (hcount _ 0 0 hzero)
      (.cons (hcount _ 0 0 hzero) (.cons rfl (.cons rfl .nil)))))))))))))))))
  refine except_seq_eq_ok.mpr ⟨rfl, except_bind_eq_ok.mpr ⟨[publishedPhase], rfl, ?_⟩⟩
  refine except_bind_eq_ok.mpr ⟨[publishedPhase], rfl, except_bind_eq_ok.mpr ⟨[3], rfl, ?_⟩⟩
  exact except_bind_eq_ok.mpr ⟨_, hsequential, except_bind_eq_ok.mpr ⟨_, hconcurrent, rfl⟩⟩

theorem singleMetrics_valid {summaries : List (String × String × ℚ)} {counts : List (String × ℕ)}
    (hsummaries : ∀ entry ∈ summaries,
      isBlank entry.1 = false ∧ isBlank entry.2.1 = false ∧ 0 ≤ entry.2.2)
    (hcounts : ∀ entry ∈ counts, isBlank entry.1 = false) :
    ∀ m ∈ singleMetrics summaries counts, isBlank m.name = false ∧ isBlank m.unit = false ∧
      ∀ path, m.value.collectIssues publisherCrates.parseF64 path = [] := by
  refine List.forall_mem_append.mpr ⟨List.forall_mem_map.mpr ?_, List.forall_mem_map.mpr ?_⟩
  · intro entry hmem
    obtain ⟨hname, hunit, hvalue⟩ := hsummaries entry hmem
    exact ⟨hname, hunit, fun path => singleSummary_valid hvalue _⟩
  · intro entry hmem
    exact ⟨hcounts entry hmem, (by decide : isBlank "count" = false), fun path => rfl⟩

theorem measuredPhase_valid {published : MeasuredPhase} (hname : isBlank published.name = false)
    (helapsed : 0 ≤ published.elapsedMs) (hlatency : published.latencyMs = none)
    (hnames : (published.metrics.map (·.name)).Nodup)
    (hmetrics : ∀ m ∈ published.metrics, isBlank m.name = false ∧ isBlank m.unit = false ∧
      ∀ path, m.value.collectIssues publisherCrates.parseF64 path = []) (path : String) :
    published.collectIssues publisherCrates.parseF64 path = [] := by
  simp only [MeasuredPhase.collectIssues, List.append_eq_nil_iff, requireUnique_eq_nil, eachIndexed,
    List.flatMap_eq_nil_iff, requireNonEmpty, requireFiniteNonNegative, issueWhen_eq_nil, hname,
    decide_eq_false_iff_not, hlatency]
  refine ⟨⟨⟨⟨trivial, not_lt.mpr helapsed⟩, rfl⟩, hnames⟩, ?_⟩
  rintro ⟨m, index⟩ hmem
  obtain ⟨hname, hunit, hvalue⟩ := hmetrics m (List.fst_mem_of_mem_zipIdx hmem)
  exact ⟨⟨hname, hunit⟩, hvalue _⟩

/-- The published phases are valid. -/
theorem measurements_valid (path : String) :
    (eachIndexed path [publishedSequential, publishedConcurrent] fun _ path phase =>
      phase.collectIssues publisherCrates.parseF64 path) = [] := by
  have hphases : ∀ published ∈ [publishedSequential, publishedConcurrent], ∀ path,
      published.collectIssues publisherCrates.parseF64 path = [] := by
    simp only [List.forall_mem_cons, List.not_mem_nil, false_imp_iff, implies_true, and_true]
    refine ⟨measuredPhase_valid (isBlank_cons (by decide)) (by norm_num [publishedSequential]) rfl
        (by simp [publishedSequential, singleMetrics, singleMetric]) (singleMetrics_valid ?_ ?_),
      measuredPhase_valid (isBlank_cons (by decide)) (by norm_num [publishedConcurrent]) rfl
        (by simp [publishedConcurrent, singleMetrics, singleMetric, counterMetric])
        (singleMetrics_valid ?_ ?_)⟩
    all_goals
      repeat (first
        | exact List.forall_mem_nil _
        | refine List.forall_mem_cons.mpr ⟨isBlank_cons (by decide), ?_⟩
        | refine List.forall_mem_cons.mpr
            ⟨⟨isBlank_cons (by decide), isBlank_cons (by decide), by norm_num⟩, ?_⟩)
  refine List.flatMap_eq_nil_iff.mpr ?_
  rintro ⟨published, index⟩ hmem
  exact hphases published (List.fst_mem_of_mem_zipIdx hmem) _

def publishedArtifact (location : String) (byte : UInt8) : ArtifactReference :=
  ⟨location, "application/json", ⟨.sha256, hex (List.replicate 32 byte)⟩, none, none, ∅⟩

def publishedContext : ResultBuildContext where
  transcript :=
    { format := contentionTranscriptFormat
      runner := ⟨runnerComponentId, true, true⟩
      fixtureId := "run1"
      rounds := publishedRounds
      aggregates := publishedCatalogs.map publishedAggregate
      ranking := publishedRanking
      classification := .pass
      sanitization :=
        ⟨"catalog-bench/value-safe-contention-v1", [], false, false, false, "create-new"⟩ }
  review :=
    { run := ⟨"2026-08-27T10:00:00Z", "2026-08-27T11:00:00Z"⟩
      environment :=
        { operatingSystem := "linux", architecture := "arm64", cpuModel := .exact "m1"
          logicalCpus := .exact 8, memoryBytes := .exact 17179869184, cpuLimit := none
          memoryLimitBytes := none, network := "bridge", containerRuntime := .exact "docker"
          runtimeFlags := ∅, extensions := ∅ }
      failures := []
      redaction := ⟨true, "No secrets were captured.", []⟩ }
  profile := sweepProfile
  profileArtifact := publishedArtifact "profile.json" 1
  scenario := canonicalScenario
  scenarioArtifact := publishedArtifact "scenario.json" 2
  transcriptArtifact := publishedArtifact "transcript.json" 3
  reviewArtifact := publishedArtifact "review.json" 4

def publishedEvaluations : List AssertionEvaluation :=
  canonicalScenario.assertions.map fun assertion =>
    ⟨assertion.id, assertion.required, .pass, [transcriptEvidenceId]⟩

/-- Both catalogs get their results. -/
theorem buildResult_published : ∀ catalog ∈ publishedCatalogs, ∃ result,
    buildResult publisherCrates publishedContext (sweepComponent catalog.catalog .catalog)
      (publishedAggregate catalog) none = .ok result := by
  intro catalog hmem
  have hevaluations : ∀ catalog ∈ publishedCatalogs,
      canonicalScenario.assertions.mapM (fun assertion =>
        evaluateAssertion assertion publishedContext.transcript
          (catalogRounds publishedContext.transcript catalog.catalog)) =
        .ok publishedEvaluations := by
    decide
  obtain ⟨turn, hturn⟩ := measuredRounds_published catalog hmem
  have hentry : ∀ catalog ∈ publishedCatalogs, ∃ rank ∈ [1, 2],
      publishedRanking.entries.find? (·.catalog.catalog = catalog.catalog) =
        some ⟨catalog, .ranked rank (publishedRange 10)⟩ := by
    decide
  obtain ⟨rank, -, hentry⟩ := hentry catalog hmem
  obtain ⟨summary, houtcome, hsummary⟩ : ∃ summary,
      resultOutcome catalog.catalog [] none (.ranked rank (publishedRange 10)) =
        .ok (.pass (some summary)) ∧ isBlank summary = false :=
    ⟨_, rfl, by rw [isBlank_append, isBlank_append, isBlank_append, isBlank_cons (by decide)]; rfl⟩
  have herrors : sumPhaseCount [publishedRound turn] (·.counts.errors) = .ok 0 := rfl
  refine except_bind_exists (hevaluations catalog hmem) ?_
  refine except_bind_exists (a := [publishedSequential, publishedConcurrent]) ?_ ?_
  · change measurements publisherCrates (measuredRounds publishedRounds catalog.catalog) 1 = _
    rw [hturn]
    exact measurements_published turn
  refine except_bind_exists (orBail_eq_ok.mpr hentry) ?_
  refine except_bind_exists houtcome ?_
  refine except_bind_exists (a := 0) ?_ ?_
  · change sumPhaseCount (measuredRounds publishedRounds catalog.catalog) _ = _
    rw [hturn]
    exact herrors
  dsimp only
  refine except_bind_exists (a := ()) ?_ ⟨_, rfl⟩
  rw [validateResult, bailWhen_eq_ok]
  simp only [Bool.not_eq_false', List.isEmpty_iff, ResultRecord.collectIssues, List.append_eq_nil_iff]
  have htexts : ∀ catalog ∈ publishedCatalogs,
      requireNonEmpty (bundleId ++ "-" ++ catalog.catalog) (childPath "$" "id") = [] ∧
        (ExecutedComponent.mk catalog.catalog catalog.catalog "1.0").collectIssues
          (childPath "$" "catalog") = [] ∧
        requireNonEmpty ("run1-" ++ catalog.catalog ++ "-measured")
          (childPath (childPath "$" "run") "id") = [] := by
    decide
  obtain ⟨hid, hcatalog, hrun⟩ := htexts catalog hmem
  have houtcome : validateResultOutcome (.pass (some summary)) publishedEvaluations
      [transcriptEvidenceId, reviewEvidenceId] (childPath "$" "outcome") = [] := by
    simp only [validateResultOutcome, List.append_eq_nil_iff, whenSome, Option.map_some,
      Option.getD_some, requireNonEmpty, issueWhen_eq_nil, hsummary, true_and]
    decide
  refine ⟨⟨⟨⟨⟨⟨⟨⟨⟨⟨⟨⟨⟨hid, by decide⟩, by decide⟩, hcatalog⟩, rfl⟩, ?_⟩,
    by decide⟩, by decide⟩, by decide⟩, by decide⟩,
    by decide⟩, houtcome⟩, measurements_valid _⟩, rfl⟩
  simp only [RunIdentity.collectIssues, List.append_eq_nil_iff]
  refine ⟨⟨⟨⟨⟨⟨⟨hrun, ?_⟩, ?_⟩, ?_⟩, ?_⟩, ?_⟩, ?_⟩, ?_⟩
  · rw [requireNonEmpty_eq_nil, isBlank_append, isBlank_append, show isBlank "/" = false by decide,
      Bool.and_false, Bool.false_and]
  · rw [requireNonEmpty_eq_nil, isBlank_append, isBlank_append, isBlank_cons (by decide),
      Bool.false_and, Bool.false_and]
  all_goals decide

def publishedBundle (results : List ResultRecord) : ValidatedBundle where
  manifestPath := "results/v1/2026-08-27/manifest.json"
  manifest :=
    { id := bundleId
      title := "Contention"
      createdAt := "2026-08-27T12:00:00Z"
      provenance := .liveRun runnerComponentId "cargo run" "2026-08-27T10:00:00Z"
        "2026-08-27T11:00:00Z"
      profile := publishedContext.profileArtifact
      scenarios := [publishedContext.scenarioArtifact]
      results := []
      sourceEvidence := [publishedContext.transcriptArtifact, publishedContext.reviewArtifact]
      redaction := publishedContext.review.redaction
      extensions := ∅ }
  profilePath := "profile.json"
  profile := sweepProfile
  scenarios := [⟨publishedContext.scenarioArtifact, "scenario.json", canonicalScenario⟩]
  results := results.map fun result => ⟨publishedContext.scenarioArtifact, "result.json", result⟩

/-- Two catalogs with the same medians are listed in the order of their ids. -/
theorem renderCommitMatrix_ranks_published :
    ∃ (results rows : List ResultRecord) (lines : List String),
      generateResults publisherCrates publishedPlan publishedContext = .ok results ∧
      rows.Perm results ∧
      rows.map (·.catalog.profileComponent) = ["nessie", "polaris"] ∧
      renderCommitMatrix publisherCrates (publishedBundle results) =
        .ok (matrixHead (publishedBundle results) canonicalScenario ++ String.join lines ++
          matrixTail (publishedBundle results) []) := by
  have haggregates : recomputeAggregates publishedPlan publishedContext.transcript =
      .ok (publishedCatalogs.map publishedAggregate) := by
    have hsame : publishedContext.transcript.rounds = publishedRounds := rfl
    unfold recomputeAggregates
    rw [hsame, aggregateContention_published]
    exact except_seq_eq_ok.mpr ⟨by decide, rfl⟩
  have hresults : ∃ results, generateResults publisherCrates publishedPlan publishedContext =
      .ok results := by
    have hcomponents : ∀ catalog ∈ publishedCatalogs,
        (keyed Component.id sweepProfile.components)[catalog.catalog]? =
          some (sweepComponent catalog.catalog .catalog) := by
      intro catalog hmem
      refine (keyed_getElem? (by decide)).mpr ⟨?_, rfl⟩
      have hhosts : ∀ catalog ∈ publishedCatalogs, catalog.catalog ∈ sweepHosts.map (·.1) := by
        decide
      obtain ⟨host, hhost, hname⟩ := List.mem_map.mp (hhosts catalog hmem)
      rw [← hname]
      exact List.mem_cons_of_mem _ (List.mem_cons_of_mem _ (List.mem_map_of_mem hhost))
    refine except_bind_exists haggregates (except_mapM_of_exists (List.forall_mem_map.mpr ?_))
    intro catalog hmem
    exact except_bind_exists (orBail_eq_ok.mpr (hcomponents catalog hmem))
      (buildResult_published catalog hmem)
  obtain ⟨results, hresults⟩ := hresults
  have hscenarios : (publishedBundle results).scenarios =
      [⟨publishedContext.scenarioArtifact, "scenario.json", canonicalScenario⟩] := rfl
  have hbundle : (publishedBundle results).results.map (·.result) = results := by
    rw [publishedBundle, List.map_map]
    exact List.map_id results
  obtain ⟨_, ranking, _, haggregate, rows, lines, hperm, hnames, -, -, hrender⟩ :=
    renderCommitMatrix_ranks hresults (by decide) ⟨0, rfl⟩ hscenarios hbundle
  obtain ⟨-, rfl, -⟩ := Except.ok.inj (aggregateContention_published.symm.trans haggregate)
  exact ⟨results, rows, lines, hresults, hperm, hnames, hrender⟩

end CatalogBench.ContractTool.Matrix
