import CatalogBench.Commit.Ranking

/-!
# Sweeps in which every catalog is ranked

What an aggregation that succeeded says when no catalog is left out of its ranking: the entries
are the aggregates, sorted by the medians of their measured rounds.
-/

set_option linter.all false

namespace CatalogBench.Commit
open MachineInt Interaction SortBy ListRel CatalogBench.Contract

-- ════════════════════════════════
-- Aggregates
-- ════════════════════════════════

/-- The measured rounds of a catalog. -/
def measuredRounds (rounds : List CatalogRoundTranscript) (catalog : ComponentId) :
    List CatalogRoundTranscript :=
  (rounds.filter (·.catalog.catalog = catalog)).filter (·.kind = .measured)

/-- An aggregate with measurements: the medians of its measured rounds, and their number. -/
structure Placed (plan : ContentionPlan) (rounds : List CatalogRoundTranscript)
    (aggregate : CatalogAggregate) (measurements : ContentionMeasurements) : Prop where
  throughput : measurements.concurrentAcceptedThroughputPerSecond.median =
    medianThroughput rounds aggregate.catalog.catalog
  latency : measurements.sequentialLatencyP50Ms.median =
    medianLatency rounds aggregate.catalog.catalog
  count : (measuredRounds rounds aggregate.catalog.catalog).length =
    plan.parameters.roundPolicy.measuredRounds

section Placed

variable {plan : ContentionPlan} {rounds : List CatalogRoundTranscript} {run : CatalogRun}
  {aggregate : CatalogAggregate}

theorem okOr_eq_ok {α : Type} {error : AggregationError} {value : Option α} {found : α} :
    okOr error value = .ok found ↔ value = some found := by
  cases value <;> simp [okOr]

theorem foldlM_tallyRound_scheduled {rounds : List CatalogRoundTranscript}
    {start counted : RoundTally}
    (h : rounds.foldlM (fun tally round => tallyRound tally round.outcome) start = .ok counted) :
    counted.scheduled = start.scheduled + rounds.length := by
  induction rounds generalizing start with
  | nil =>
    obtain rfl := Except.ok.inj h
    rfl
  | cons round rounds ih =>
    rw [List.foldlM_cons] at h
    obtain ⟨next, hnext, h⟩ := except_bind_eq_ok.mp h
    obtain ⟨scheduled, hscheduled, hnext⟩ := except_bind_eq_ok.mp hnext
    obtain ⟨executed, -, hnext⟩ := except_bind_eq_ok.mp hnext
    obtain ⟨passed, -, hnext⟩ := except_bind_eq_ok.mp hnext
    obtain rfl := Except.ok.inj hnext
    have hadd := (checkedAdd_eq_some.mp (okOr_eq_ok.mp hscheduled)).1
    rw [ih h, List.length_cons]
    dsimp only
    omega

/-- What the metrics of the measured rounds say about the medians. -/
theorem outcomeMetrics_medians {catalog : ComponentId} {metrics : List RoundMetrics}
    (h : (measuredRounds rounds catalog).mapM (fun round => outcomeMetrics round.outcome) =
      .ok metrics) :
    median (metrics.map (·.concurrentAcceptedThroughputPerSecond)) =
        medianThroughput rounds catalog ∧
      median (metrics.map (·.sequentialLatencyP50Ms)) = medianLatency rounds catalog := by
  have hround : ∀ (round : CatalogRoundTranscript) (m : RoundMetrics),
      outcomeMetrics round.outcome = .ok m →
        round.execution.bind acceptedThroughput = some m.concurrentAcceptedThroughputPerSecond ∧
          round.execution.bind sequentialP50 = some m.sequentialLatencyP50Ms := by
    intro round m hmetrics
    obtain ⟨execution, hexecution, hmetrics⟩ := except_bind_eq_ok.mp hmetrics
    rw [CatalogRoundTranscript.execution, okOr_eq_ok.mp hexecution]
    exact RoundMetrics.fromExecution_ok hmetrics
  have hrel := except_mapM_forall₂ h
  constructor
  · rw [medianThroughput, measuredExecutions, List.filterMap_filterMap]
    exact congrArg median (forall₂_filterMap_eq hrel fun round m hm => (hround round m hm).1).symm
  · rw [medianLatency, measuredExecutions, List.filterMap_filterMap]
    exact congrArg median (forall₂_filterMap_eq hrel fun round m hm => (hround round m hm).2).symm

theorem metric_ok {rounds : List RoundMetrics} {select : RoundMetrics → ℚ} {range : MedianRange}
    (h : metric rounds select = .ok range) : range.median = median (rounds.map select) :=
  medianWithRange_ok (except_mapError_eq_ok.mp h)

theorem ContentionMeasurements.fromRounds_ok {rounds : List RoundMetrics}
    {measurements : ContentionMeasurements} (h : fromRounds rounds = .ok measurements) :
    measurements.concurrentAcceptedThroughputPerSecond.median =
        median (rounds.map (·.concurrentAcceptedThroughputPerSecond)) ∧
      measurements.sequentialLatencyP50Ms.median =
        median (rounds.map (·.sequentialLatencyP50Ms)) := by
  unfold fromRounds at h
  obtain ⟨_, hlatency, h⟩ := except_bind_eq_ok.mp h
  obtain ⟨_, -, h⟩ := except_bind_eq_ok.mp h
  obtain ⟨_, -, h⟩ := except_bind_eq_ok.mp h
  obtain ⟨_, -, h⟩ := except_bind_eq_ok.mp h
  obtain ⟨_, -, h⟩ := except_bind_eq_ok.mp h
  obtain ⟨_, -, h⟩ := except_bind_eq_ok.mp h
  obtain ⟨_, -, h⟩ := except_bind_eq_ok.mp h
  obtain ⟨_, -, h⟩ := except_bind_eq_ok.mp h
  obtain ⟨_, hthroughput, h⟩ := except_bind_eq_ok.mp h
  obtain ⟨_, -, h⟩ := except_bind_eq_ok.mp h
  obtain ⟨_, -, h⟩ := except_bind_eq_ok.mp h
  obtain ⟨_, -, h⟩ := except_bind_eq_ok.mp h
  obtain ⟨_, -, h⟩ := except_bind_eq_ok.mp h
  obtain ⟨_, -, h⟩ := except_bind_eq_ok.mp h
  obtain ⟨_, -, h⟩ := except_bind_eq_ok.mp h
  obtain rfl := Except.ok.inj h
  exact ⟨metric_ok hthroughput, metric_ok hlatency⟩

/-- An aggregate is that of its catalog; it passed exactly if it has measurements. -/
theorem aggregateCatalog_ok (h : aggregateCatalog plan rounds run = .ok aggregate) :
    aggregate.catalog = run ∧ aggregate.passed = aggregate.measurements.isSome ∧
      ∀ measurements, aggregate.measurements = some measurements →
        Placed plan rounds aggregate measurements := by
  unfold aggregateCatalog at h
  obtain ⟨conditioning, -, h⟩ := except_bind_eq_ok.mp h
  obtain ⟨measured, hmeasured, h⟩ := except_bind_eq_ok.mp h
  dsimp only at h
  split at h
  · next hreasons =>
    obtain ⟨metrics, hmetrics, h⟩ := except_bind_eq_ok.mp h
    obtain ⟨measurements, hmeasurements, h⟩ := except_bind_eq_ok.mp h
    obtain rfl := Except.ok.inj h
    refine ⟨rfl, rfl, ?_⟩
    rintro _ ⟨⟩
    obtain ⟨hthroughput, hlatency⟩ := ContentionMeasurements.fromRounds_ok hmeasurements
    obtain ⟨hthroughput', hlatency'⟩ := outcomeMetrics_medians hmetrics
    have hcount : measured.scheduled = plan.parameters.roundPolicy.measuredRounds := by
      rw [List.isEmpty_iff, List.append_eq_nil_iff] at hreasons
      exact (shortfall_eq_nil.mp hreasons.2).1
    unfold tally at hmeasured
    have hscheduled := foldlM_tallyRound_scheduled hmeasured
    rw [Nat.zero_add] at hscheduled
    exact ⟨hthroughput.trans hthroughput', hlatency.trans hlatency', hscheduled.symm.trans hcount⟩
  · obtain rfl := Except.ok.inj h
    refine ⟨rfl, by simp [CatalogAggregate.passed], ?_⟩
    rintro _ ⟨⟩

end Placed

-- ════════════════════════════════
-- The ranking
-- ════════════════════════════════

/-- The numbers and the name that decide the place of a catalog. -/
abbrev Standing := ℚ × ℚ × ComponentId

def standing (rounds : List CatalogRoundTranscript) (catalog : ComponentId) : Standing :=
  (medianThroughput rounds catalog, medianLatency rounds catalog, catalog)

def compareStandings : Standing → Standing → Ordering :=
  compareStanding (·.1) (·.2.1) (·.2.2)

section Ranked

variable {plan : ContentionPlan} {rounds : List CatalogRoundTranscript}
  {aggregates : List CatalogAggregate} {ranking : ContentionRanking}
  {classification : SweepClassification}

theorem aggregateContention_ok
    (h : aggregateContention plan rounds = .ok (aggregates, ranking, classification)) :
    (∀ aggregate ∈ aggregates, ∃ run, aggregateCatalog plan rounds run = .ok aggregate) ∧
      rankCatalogs aggregates = .ok ranking := by
  obtain ⟨-, h⟩ := except_seq_eq_ok.mp h
  obtain ⟨first, -, h⟩ := except_bind_eq_ok.mp h
  obtain ⟨_, haggregates, h⟩ := except_bind_eq_ok.mp h
  obtain ⟨_, hranking, h⟩ := except_bind_eq_ok.mp h
  obtain ⟨rfl, rfl, -⟩ := Except.ok.inj h
  refine ⟨fun aggregate hmem => ?_, hranking⟩
  obtain ⟨run, -, hrun⟩ := forall₂_mem_right (except_mapM_forall₂ haggregates) hmem
  exact ⟨run, hrun⟩

theorem rankedEntry_ok {ranked : RankedCatalog × ℕ} {entry : RankingEntry}
    (h : rankedEntry ranked = .ok entry) :
    entry = ⟨ranked.1.1.catalog, .ranked (ranked.2 + 1) ranked.1.2.1⟩ := by
  obtain ⟨rank, hrank, h⟩ := except_bind_eq_ok.mp h
  obtain rfl := Except.ok.inj h
  rw [(except_ite_eq_ok hrank).2]

theorem notRankedEntry_ok {aggregate : CatalogAggregate} {entry : RankingEntry}
    (h : notRankedEntry aggregate = .ok entry) : entry.isRanked = false := by
  unfold notRankedEntry at h
  split at h
  · obtain rfl := Except.ok.inj h
    rfl
  · cases h

/-- If every entry has a rank, every catalog passed, and the entries are the sorted catalogs. -/
theorem rankCatalogs_allRanked (h : rankCatalogs aggregates = .ok ranking)
    (hranked : ∀ entry ∈ ranking.entries, entry.isRanked = true) :
    (∀ aggregate ∈ aggregates, aggregate.passed = true) ∧
      ranking.entries = rankedEntries (sortBy compareRanked (rankable aggregates)) := by
  obtain ⟨entries, hentries, h⟩ := except_bind_eq_ok.mp h
  obtain ⟨notRanked, hnotRanked, h⟩ := except_bind_eq_ok.mp h
  obtain rfl := Except.ok.inj h
  have hnil : notRanked = [] := by
    refine List.eq_nil_iff_forall_not_mem.mpr fun entry hmem => ?_
    obtain ⟨aggregate, -, hentry⟩ := forall₂_mem_right (except_mapM_forall₂ hnotRanked) hmem
    have hentry' := hranked entry (List.mem_append_right _ hmem)
    rw [notRankedEntry_ok hentry] at hentry'
    cases hentry'
  have hlength := (except_mapM_forall₂ hnotRanked).length_eq
  rw [hnil, List.length_nil, List.length_eq_zero_iff, List.filter_eq_nil_iff] at hlength
  refine ⟨fun aggregate hmem => by simpa using hlength aggregate hmem, ?_⟩
  dsimp only
  rw [hnil, List.append_nil]
  exact (except_mapM_eq_ok (p := fun _ => True)
    (fun ranked entry hentry => ⟨trivial, rankedEntry_ok hentry⟩) hentries).2

/-- The catalogs in the order of their ranks are the catalogs sorted by their standing. -/
theorem map_entries_allRanked
    (h : aggregateContention plan rounds = .ok (aggregates, ranking, classification))
    (hranked : ∀ entry ∈ ranking.entries, entry.isRanked = true) :
    ranking.entries.map (·.catalog.catalog) =
      (sortBy compareStandings (aggregates.map fun aggregate =>
        standing rounds aggregate.catalog.catalog)).map (·.2.2) := by
  obtain ⟨haggregates, hranking⟩ := aggregateContention_ok h
  obtain ⟨hpassed, hentries⟩ := rankCatalogs_allRanked hranking hranked
  let key : RankedCatalog → Standing := fun ranked =>
    (ranked.2.1.median, ranked.2.2.median, ranked.1.catalog.catalog)
  have hkeys : (rankable aggregates).map key = aggregates.map fun aggregate =>
      standing rounds aggregate.catalog.catalog := by
    rw [rankable, List.map_filterMap, ← List.filterMap_eq_map]
    refine List.filterMap_congr fun aggregate hmem => ?_
    obtain ⟨run, hrun⟩ := haggregates aggregate hmem
    obtain ⟨-, hsome, hplaced⟩ := aggregateCatalog_ok hrun
    rw [hpassed aggregate hmem] at hsome
    obtain ⟨measurements, hmeasurements⟩ := Option.isSome_iff_exists.mp hsome.symm
    obtain ⟨hthroughput, hlatency, -⟩ := hplaced measurements hmeasurements
    rw [hmeasurements]
    simp only [Option.map_some, Function.comp_apply, key, standing, hthroughput, hlatency]
  have hnames := congrArg (List.map CatalogRun.catalog)
    (map_rankedEntries (sortBy compareRanked (rankable aggregates)))
  rw [← hentries, List.map_map, List.map_map] at hnames
  have hsorted : (sortBy compareRanked (rankable aggregates)).map key =
      sortBy compareStandings ((rankable aggregates).map key) :=
    map_sortBy fun _ _ _ _ => rfl
  rw [← hkeys, ← hsorted, List.map_map]
  exact hnames

end Ranked

end CatalogBench.Commit
