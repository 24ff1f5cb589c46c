import CatalogBench.ContractTool.Matrix
import CatalogBench.ContractTool.Admission
import CatalogBench.Commit.Standing

/-!
# Published metrics

A result publishes the phases of the measured rounds of its catalog under fixed names. A row of
the matrix reads them back: over an odd number of rounds their p50 is the median of the rounds.
-/

set_option linter.all false

namespace CatalogBench.ContractTool.Matrix
open CatalogBench.Contract CatalogBench.Commit Interaction SortBy ListRel

-- ════════════════════════════════
-- Metrics by name
-- ════════════════════════════════

/-- Whatever metric is computed has this name. -/
def Named (name : String) (entry : Loading Metric) : Prop :=
  ∀ m, entry = .ok m → m.name = name

/-- A metric with a name of its own is found by it. -/
theorem find?_of_mapM {names : List String} {entries : List (Loading Metric)}
    {metrics : List Metric} (hnames : List.Forall₂ Named names entries) (hdistinct : names.Nodup)
    (h : entries.mapM id = .ok metrics) {index : ℕ} {name : String} {entry : Loading Metric}
    (hname : names[index]? = some name) (hentry : entries[index]? = some entry) :
    ∃ m, entry = .ok m ∧ metrics.find? (·.name = name) = some m := by
  induction hnames generalizing metrics index with
  | nil => cases hname
  | @cons first head names entries hfirst _ ih =>
    rw [List.mapM_cons] at h
    obtain ⟨m, hm, h⟩ := except_bind_eq_ok.mp h
    obtain ⟨rest, hrest, h⟩ := except_bind_eq_ok.mp h
    obtain rfl := Except.ok.inj h
    obtain ⟨hfresh, hdistinct⟩ := List.nodup_cons.mp hdistinct
    cases index with
    | zero =>
      obtain rfl := Option.some.inj hname
      obtain rfl := Option.some.inj hentry
      exact ⟨m, hm, List.find?_cons_of_pos (by simpa using hfirst m hm)⟩
    | succ index =>
      rw [List.getElem?_cons_succ] at hname hentry
      obtain ⟨found, hfound, hfind⟩ := ih hdistinct hrest hname hentry
      refine ⟨found, hfound, ?_⟩
      have hne : first ≠ name := fun heq => hfresh (heq ▸ List.mem_of_getElem? hname)
      rwa [List.find?_cons_of_neg (by simpa [hfirst m hm] using hne)]

section Entries

variable {crates : Crates} {name unit : String} {values : List ℚ} {m : Metric}

/-- The metric summarises these values. -/
def Summarizes (crates : Crates) (values : List ℚ) (m : Metric) : Prop :=
  ∃ distribution, nonnegativeDistribution crates values = .ok distribution ∧
    m.value = .distribution (contractDistribution distribution)

theorem distributionMetric_ok
    (h : ContractTool.distributionMetric crates name unit values = .ok m) :
    m.name = name ∧ Summarizes crates values m := by
  obtain ⟨distribution, hdistribution, h⟩ := except_bind_eq_ok.mp h
  obtain rfl := Except.ok.inj h
  unfold summarizeValues at hdistribution
  cases hvalues : nonnegativeDistribution crates values with
  | error error => rw [hvalues] at hdistribution; cases hdistribution
  | ok summary =>
    rw [hvalues] at hdistribution
    obtain rfl := Except.ok.inj hdistribution
    exact ⟨rfl, summary, hvalues, rfl⟩

theorem quantileMetric_ok {phases : List PhaseEvidence} {quantile : String}
    (h : quantileMetric crates name phases quantile = .ok m) :
    m.name = name ∧ ∃ values, phases.mapM (phaseQuantile quantile) = .ok values ∧
      Summarizes crates values m := by
  obtain ⟨values, hvalues, h⟩ := except_bind_eq_ok.mp h
  obtain ⟨hname, hsummarizes⟩ := distributionMetric_ok h
  exact ⟨hname, values, hvalues, hsummarizes⟩

theorem named_distributionMetric (crates : Crates) (name unit : String) (values : List ℚ) :
    Named name (ContractTool.distributionMetric crates name unit values) :=
  fun _ h => (distributionMetric_ok h).1

theorem named_quantileMetric (crates : Crates) (name : String) (phases : List PhaseEvidence)
    (quantile : String) : Named name (quantileMetric crates name phases quantile) :=
  fun _ h => (quantileMetric_ok h).1

/-- The metric is a count. -/
def Counts (m : Metric) : Prop := ∃ count, m.value = .counter count

theorem counterMetric_ok {value : Loading ℕ} (h : (counterMetric name ·) <$> value = .ok m) :
    m.name = name ∧ Counts m := by
  cases value with
  | error chain => cases h
  | ok count =>
    obtain rfl := Except.ok.inj h
    exact ⟨rfl, count, rfl⟩

theorem count_ok {count : ℕ} (h : (.ok (counterMetric name count) : Loading Metric) = .ok m) :
    m.name = name ∧ Counts m := by
  obtain rfl := Except.ok.inj h
  exact ⟨rfl, count, rfl⟩

theorem named_counterMetric (name : String) (value : Loading ℕ) :
    Named name ((counterMetric name ·) <$> value) :=
  fun _ h => (counterMetric_ok h).1

theorem named_count (name : String) (count : ℕ) : Named name (.ok (counterMetric name count)) :=
  fun _ h => (count_ok h).1

end Entries

-- ════════════════════════════════
-- The metrics of a result
-- ════════════════════════════════

/-- The metric of this name is there and has the property. -/
def Publishes (metrics : List Metric) (name : String) (p : Metric → Prop) : Prop :=
  ∃ m, metrics.find? (·.name = name) = some m ∧ p m

section Phases

variable {crates : PublisherCrates} {phases : List PhaseEvidence} {published : MeasuredPhase}

/-- The quantiles of the phases were found and summarised. -/
def SummarizesQuantile (crates : Crates) (phases : List PhaseEvidence) (quantile : String)
    (m : Metric) : Prop :=
  ∃ values, phases.mapM (phaseQuantile quantile) = .ok values ∧ Summarizes crates values m

structure PublishesSequential (crates : Crates) (sequential : List PhaseEvidence)
    (published : MeasuredPhase) : Prop where
  name : published.name = "sequential"
  throughput : Publishes published.metrics "successful-throughput"
    (Summarizes crates (sequential.map (·.acceptedThroughputPerSecond)))
  p50 : Publishes published.metrics "p50-latency" (SummarizesQuantile crates sequential "p50")
  p99 : Publishes published.metrics "p99-latency" (SummarizesQuantile crates sequential "p99")

structure PublishesConcurrent (crates : Crates) (concurrent : List PhaseEvidence)
    (published : MeasuredPhase) : Prop where
  name : published.name = "concurrent"
  throughput : Publishes published.metrics "successful-throughput"
    (Summarizes crates (concurrent.map (·.acceptedThroughputPerSecond)))
  conflictRate : Publishes published.metrics "conflict-rate"
    (Summarizes crates (concurrent.map (·.conflictRate * 100)))
  errorRate : Publishes published.metrics "error-rate"
    (Summarizes crates (concurrent.map (·.errorRate * 100)))
  requestErrors : Publishes published.metrics "request-errors" Counts
  validRounds : Publishes published.metrics "valid-rounds" Counts
  measuredRounds : Publishes published.metrics "measured-rounds" Counts

/-- The metric at an index of the list that was computed. -/
theorem publishes_of_mapM {names : List String} {entries : List (Loading Metric)}
    {metrics : List Metric} (h : entries.mapM id = .ok metrics) (hdistinct : names.Nodup)
    (hnames : List.Forall₂ Named names entries) (index : ℕ) {name : String}
    {entry : Loading Metric} (hname : names[index]? = some name)
    (hentry : entries[index]? = some entry) {p : Metric → Prop} (hp : ∀ m, entry = .ok m → p m) :
    Publishes metrics name p := by
  obtain ⟨m, hm, hfind⟩ := find?_of_mapM hnames hdistinct h hname hentry
  exact ⟨m, hfind, hp m hm⟩

theorem sequentialPhase_ok {operations : Option ℕ}
    (h : sequentialPhase crates phases operations = .ok published) :
    PublishesSequential crates.toCrates phases published := by
  obtain ⟨elapsed, -, h⟩ := except_bind_eq_ok.mp h
  obtain ⟨metrics, hmetrics, h⟩ := except_bind_eq_ok.mp h
  obtain rfl := Except.ok.inj h
  have hdistinct : ["successful-throughput", "p50-latency", "p95-latency", "p99-latency"].Nodup := by
    decide
  have hpublishes := publishes_of_mapM hmetrics hdistinct
    (.cons (named_distributionMetric _ _ _ _) (.cons (named_quantileMetric _ _ _ _)
      (.cons (named_quantileMetric _ _ _ _) (.cons (named_quantileMetric _ _ _ _) .nil))))
  exact {
    name := rfl
    throughput := hpublishes 0 rfl rfl fun _ hm => (distributionMetric_ok hm).2
    p50 := hpublishes 1 rfl rfl fun _ hm => (quantileMetric_ok hm).2
    p99 := hpublishes 3 rfl rfl fun _ hm => (quantileMetric_ok hm).2 }

theorem concurrentPhase_ok {growth : List ℚ} {validRounds measuredRounds : ℕ}
    (h : concurrentPhase crates phases growth validRounds measuredRounds = .ok published) :
    PublishesConcurrent crates.toCrates phases published := by
  obtain ⟨elapsed, -, h⟩ := except_bind_eq_ok.mp h
  obtain ⟨metrics, hmetrics, h⟩ := except_bind_eq_ok.mp h
  obtain rfl := Except.ok.inj h
  have hsummary (name unit : String) (values : List ℚ) :=
    named_distributionMetric crates.toCrates name unit values
  have hquantile (name quantile : String) :=
    named_quantileMetric crates.toCrates name phases quantile
  have hdistinct : ["successful-throughput", "attempted-throughput", "p50-latency", "p95-latency",
      "p99-latency", "request-attempts-per-round", "successful-commits", "conflicts-per-round",
      "errors-per-round", "conflict-rate", "error-rate", "metadata-object-growth",
      "request-attempts", "accepted-commits", "conflicts", "request-errors", "valid-rounds",
      "measured-rounds"].Nodup := by
    decide
  have hpublishes := publishes_of_mapM hmetrics hdistinct
    (.cons (hsummary _ _ _) (.cons (hsummary _ _ _) (.cons (hquantile _ _) (.cons (hquantile _ _)
      (.cons (hquantile _ _) (.cons (hsummary _ _ _) (.cons (hsummary _ _ _) (.cons (hsummary _ _ _)
      (.cons (hsummary _ _ _) (.cons (hsummary _ _ _) (.cons (hsummary _ _ _)
      (.cons (hsummary _ _ _) (.cons (named_counterMetric _ _) (.cons (named_counterMetric _ _)
      (.cons (named_counterMetric _ _) (.cons (named_counterMetric _ _) (.cons (named_count _ _)
      (.cons (named_count _ _) .nil))))))))))))))))))
  exact {
    name := rfl
    throughput := hpublishes 0 rfl rfl fun _ hm => (distributionMetric_ok hm).2
    conflictRate := hpublishes 9 rfl rfl fun _ hm => (distributionMetric_ok hm).2
    errorRate := hpublishes 10 rfl rfl fun _ hm => (distributionMetric_ok hm).2
    requestErrors := hpublishes 15 rfl rfl fun _ hm => (counterMetric_ok hm).2
    validRounds := hpublishes 16 rfl rfl fun _ hm => (count_ok hm).2
    measuredRounds := hpublishes 17 rfl rfl fun _ hm => (count_ok hm).2 }

end Phases

/-- The result publishes the phases of these rounds. -/
structure PublishesRounds (crates : Crates) (rounds : List CatalogRoundTranscript)
    (result : ResultRecord) (s c : MeasuredPhase) (sequential concurrent : List PhaseEvidence) :
    Prop where
  measurements : result.measurements = [s, c]
  publishesSequential : PublishesSequential crates sequential s
  publishesConcurrent : PublishesConcurrent crates concurrent c
  sequentialPhases : rounds.mapM (fun round => phase round (·.sequential) "sequential") =
    .ok sequential
  concurrentPhases : rounds.mapM (fun round => phase round (·.concurrent) "concurrent") =
    .ok concurrent

theorem measurements_ok {crates : PublisherCrates} {rounds : List CatalogRoundTranscript}
    {validRounds : ℕ} {result : ResultRecord}
    (h : measurements crates rounds validRounds = .ok result.measurements) :
    ∃ s c sequential concurrent,
      PublishesRounds crates.toCrates rounds result s c sequential concurrent := by
  obtain ⟨-, h⟩ := except_seq_eq_ok.mp h
  obtain ⟨sequential, hsequential, h⟩ := except_bind_eq_ok.mp h
  obtain ⟨concurrent, hconcurrent, h⟩ := except_bind_eq_ok.mp h
  obtain ⟨growth, -, h⟩ := except_bind_eq_ok.mp h
  obtain ⟨s, hs, h⟩ := except_bind_eq_ok.mp h
  obtain ⟨c, hc, h⟩ := except_bind_eq_ok.mp h
  exact ⟨s, c, sequential, concurrent, (Except.ok.inj h).symm, sequentialPhase_ok hs,
    concurrentPhase_ok hc, hsequential, hconcurrent⟩

-- ════════════════════════════════
-- Rows
-- ════════════════════════════════

section Rows

variable {crates : PublisherCrates} {rounds : List CatalogRoundTranscript} {result : ResultRecord}
  {s c : MeasuredPhase} {sequential concurrent : List PhaseEvidence}

theorem phase_ok {round : CatalogRoundTranscript}
    {select : RoundExecution → OperationEvidence PhaseEvidence} {name : String}
    {found : PhaseEvidence} (h : phase round select name = .ok found) :
    ∃ execution, round.execution = some execution ∧ (select execution).output = some found := by
  obtain ⟨execution, hexecution, h⟩ := except_bind_eq_ok.mp h
  refine ⟨execution, orBail_eq_ok.mp hexecution, ?_⟩
  cases houtput : select execution with
  | succeeded output =>
    rw [houtput] at h
    exact congrArg some (Except.ok.inj h)
  | failed failure => rw [houtput] at h; cases h
  | notAttempted reason => rw [houtput] at h; cases h

theorem phaseQuantile_ok {quantile : String} {found : PhaseEvidence} {value : ℚ}
    (h : phaseQuantile quantile found = .ok value) :
    (found.latencyMs.all.bind fun distribution => distribution.quantiles[quantile]?) = some value := by
  obtain ⟨distribution, hdistribution, h⟩ := except_bind_eq_ok.mp h
  rw [orBail_eq_ok.mp hdistribution]
  exact orBail_eq_ok.mp h

namespace PublishesRounds

theorem metric_sequential
    (h : PublishesRounds crates.toCrates rounds result s c sequential concurrent) (name : String) :
    metric result "sequential" name = s.metrics.find? (·.name = name) := by
  simp [metric, h.measurements, h.publishesSequential.name]

theorem metric_concurrent
    (h : PublishesRounds crates.toCrates rounds result s c sequential concurrent) (name : String) :
    metric result "concurrent" name = c.metrics.find? (·.name = name) := by
  simp [metric, h.measurements, h.publishesSequential.name, h.publishesConcurrent.name]

end PublishesRounds

/-- A metric that summarises an odd number of values has their median. -/
theorem distributionMetric_median {phase name : String} {m : Metric} {values : List ℚ}
    (hmetric : metric result phase name = some m) (hm : Summarizes crates.toCrates values m)
    (hodd : Odd values.length) :
    ∃ distribution, distributionMetric crates result phase name = .ok distribution ∧
      distributionMedian distribution = .ok (median values) := by
  obtain ⟨distribution, hdistribution, hvalue⟩ := hm
  refine ⟨contractDistribution distribution, ?_, ?_⟩
  · simp [distributionMetric, optionalDistributionMetric, hmetric, hvalue, orBail, bind, Except.bind]
  · rw [distributionMedian, orBail_eq_ok]
    exact nonnegativeDistribution_p50 hdistribution hodd

/-- A result that publishes an odd number of rounds stands by their medians. -/
theorem passRow_eq (h : PublishesRounds crates.toCrates rounds result s c sequential concurrent)
    (hodd : Odd rounds.length) :
    passRow crates result = .ok (result,
      median (rounds.filterMap fun round => round.execution.bind acceptedThroughput),
      median (rounds.filterMap fun round => round.execution.bind Commit.sequentialP50)) := by
  have hsequential := except_mapM_forall₂ h.sequentialPhases
  have hconcurrent := except_mapM_forall₂ h.concurrentPhases
  obtain ⟨m, hfind, hm⟩ := h.publishesConcurrent.throughput
  obtain ⟨m', hfind', values, hvalues, hm'⟩ := h.publishesSequential.p50
  have hquantiles := except_mapM_forall₂ hvalues
  have hthroughputs : (rounds.filterMap fun round => round.execution.bind acceptedThroughput) =
      concurrent.map (·.acceptedThroughputPerSecond) := by
    refine forall₂_filterMap_eq hconcurrent fun round found hround => ?_
    obtain ⟨execution, hexecution, houtput⟩ := phase_ok hround
    rw [hexecution, Option.bind_some, acceptedThroughput, houtput, Option.map_some]
  have hphases : rounds.filterMap (fun round =>
      round.execution.bind fun execution => execution.sequential.output) = sequential.map id := by
    refine forall₂_filterMap_eq hsequential fun round found hround => ?_
    obtain ⟨execution, hexecution, houtput⟩ := phase_ok hround
    rw [hexecution, Option.bind_some, houtput, id]
  have hlatencies : (rounds.filterMap fun round => round.execution.bind Commit.sequentialP50) =
      values := by
    have hfound := forall₂_filterMap_eq hquantiles fun _ _ hvalue => phaseQuantile_ok hvalue
    rw [← List.map_id sequential, ← hphases, List.filterMap_filterMap] at hfound
    refine (List.filterMap_congr fun round _ => ?_).trans (hfound.trans (List.map_id values))
    cases round.execution <;> rfl
  have hlength : Odd (concurrent.map (·.acceptedThroughputPerSecond)).length := by
    rwa [List.length_map, ← hconcurrent.length_eq]
  have hlength' : Odd values.length := by rwa [← hquantiles.length_eq, ← hsequential.length_eq]
  obtain ⟨distribution, hdistribution, hmedian⟩ := distributionMetric_median
    ((h.metric_concurrent _).trans hfind) hm hlength
  obtain ⟨distribution', hdistribution', hmedian'⟩ := distributionMetric_median
    ((h.metric_sequential _).trans hfind') hm' hlength'
  rw [hthroughputs, hlatencies]
  refine except_bind_eq_ok.mpr ⟨_, except_bind_eq_ok.mpr ⟨_, hdistribution, hmedian⟩, ?_⟩
  exact except_bind_eq_ok.mpr ⟨_, except_bind_eq_ok.mpr ⟨_, hdistribution', hmedian'⟩, rfl⟩

theorem formatDistributionMetric_ok {phase name : String} {m : Metric} {values : List ℚ}
    (hmetric : metric result phase name = some m) (hm : Summarizes crates.toCrates values m)
    (suffix : String) (precision : ℕ) :
    ∃ cell, formatDistributionMetric crates result phase name suffix precision true = .ok cell := by
  obtain ⟨distribution, hdistribution, hvalue⟩ := hm
  have hp50 : ("p50", 1 / 2) ∈ quantiles := List.mem_cons_self
  have hmedian := summarize_quantile crates.toCrates (values.mergeSort (· ≤ ·)) hp50
  rw [← nonnegativeDistribution_ok hdistribution] at hmedian
  have hfound : optionalDistributionMetric crates result phase name =
      .ok (some (contractDistribution distribution)) := by
    simp [optionalDistributionMetric, hmetric, hvalue]
  exact except_bind_exists hfound (except_bind_exists (orBail_eq_ok.mpr hmedian) ⟨_, rfl⟩)

theorem optionalCounterMetric_ok (crates : PublisherCrates) {phase name : String} {m : Metric}
    (hmetric : metric result phase name = some m) (hm : Counts m) :
    ∃ count, optionalCounterMetric crates result phase name = .ok (some count) := by
  obtain ⟨count, hvalue⟩ := hm
  exact ⟨count, by simp [optionalCounterMetric, hmetric, hvalue]⟩

/-- The row of a published result is complete. -/
theorem writeRow_ok (h : PublishesRounds crates.toCrates rounds result s c sequential concurrent)
    (rank : String) : ∃ line, writeRow crates rank true result = .ok line := by
  have hsequential (name : String) := h.metric_sequential name
  have hconcurrent (name : String) := h.metric_concurrent name
  obtain ⟨_, hfind, hm⟩ := h.publishesConcurrent.throughput
  obtain ⟨cell, hcell⟩ := formatDistributionMetric_ok ((hconcurrent _).trans hfind) hm "/s" 1
  obtain ⟨_, hfind, hm⟩ := h.publishesSequential.throughput
  obtain ⟨cell', hcell'⟩ := formatDistributionMetric_ok ((hsequential _).trans hfind) hm "/s" 1
  obtain ⟨_, hfind, _, _, hm⟩ := h.publishesSequential.p50
  obtain ⟨p50, hp50⟩ := formatDistributionMetric_ok ((hsequential _).trans hfind) hm " ms" 3
  obtain ⟨_, hfind, _, _, hm⟩ := h.publishesSequential.p99
  obtain ⟨p99, hp99⟩ := formatDistributionMetric_ok ((hsequential _).trans hfind) hm " ms" 3
  obtain ⟨_, hfind, hm⟩ := h.publishesConcurrent.conflictRate
  obtain ⟨conflict, hconflict⟩ := formatDistributionMetric_ok ((hconcurrent _).trans hfind) hm "%" 3
  obtain ⟨_, hfind, hm⟩ := h.publishesConcurrent.errorRate
  obtain ⟨errorRate, herrorRate⟩ :=
    formatDistributionMetric_ok ((hconcurrent _).trans hfind) hm "%" 3
  obtain ⟨_, hfind, hm⟩ := h.publishesConcurrent.validRounds
  obtain ⟨valid, hvalid⟩ := optionalCounterMetric_ok crates ((hconcurrent _).trans hfind) hm
  obtain ⟨_, hfind, hm⟩ := h.publishesConcurrent.measuredRounds
  obtain ⟨measured, hmeasured⟩ := optionalCounterMetric_ok crates ((hconcurrent _).trans hfind) hm
  obtain ⟨_, hfind, hm⟩ := h.publishesConcurrent.requestErrors
  obtain ⟨errors, herrors⟩ := optionalCounterMetric_ok crates ((hconcurrent _).trans hfind) hm
  have hrounds : formatValidRounds crates result true =
      .ok (toString valid ++ " / " ++ toString measured) := by
    simp [formatValidRounds, hvalid, hmeasured, bind, Except.bind, pure, Except.pure]
  have hcount : formatCounterMetric crates result "concurrent" "request-errors" true =
      .ok (toString errors) := by
    simp [formatCounterMetric, herrors, bind, Except.bind, pure, Except.pure]
  refine except_bind_exists hcell (except_bind_exists hcell' ?_)
  refine except_bind_exists hp50 (except_bind_exists hp99 ?_)
  refine except_bind_exists hconflict (except_bind_exists herrorRate ?_)
  exact except_bind_exists hrounds (except_bind_exists hcount ⟨_, rfl⟩)

end Rows

end CatalogBench.ContractTool.Matrix
