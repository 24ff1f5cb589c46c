import CatalogBench.Commit.Aggregate
import CatalogBench.Commit.Fixture
import CatalogBench.Commit.Verdict

/-!
# The ranking of a sweep

Aggregating the rounds of a complete sweep never fails. The ranking lists every catalog once, the
catalogs that passed all their rounds first, in the order of their medians.
-/

set_option linter.all false

namespace CatalogBench.Commit
open MachineInt Interaction SortBy ListRel CatalogBench.Contract

-- ════════════════════════════════
-- Measurements of a passed round
-- ════════════════════════════════

/-- The numbers an aggregate summarises. -/
def RoundMetrics.fields : List (RoundMetrics → ℚ) :=
  [(·.sequentialLatencyP50Ms), (·.sequentialLatencyP95Ms), (·.sequentialLatencyP99Ms),
    (·.sequentialAcceptedThroughputPerSecond), (·.concurrentLatencyP50Ms),
    (·.concurrentLatencyP95Ms), (·.concurrentLatencyP99Ms),
    (·.concurrentAttemptedThroughputPerSecond), (·.concurrentAcceptedThroughputPerSecond),
    (·.concurrentConflictRate), (·.concurrentErrorRate), (·.concurrentAttempts),
    (·.concurrentAccepted), (·.concurrentConflicts), (·.metadataObjectGrowth)]

def RoundMetrics.Nonneg (metrics : RoundMetrics) : Prop :=
  ∀ select ∈ RoundMetrics.fields, 0 ≤ select metrics

theorem metric_eq {rounds : List RoundMetrics} (hne : rounds ≠ [])
    (hnonneg : ∀ metrics ∈ rounds, metrics.Nonneg) :
    ∀ select ∈ RoundMetrics.fields,
      metric rounds select = .ok (.ofSorted ((rounds.map select).mergeSort (· ≤ ·))) := by
  intro select hselect
  have hsamples : ∀ sample ∈ rounds.map select, 0 ≤ sample :=
    List.forall_mem_map.mpr fun metrics hmem => hnonneg metrics hmem select hselect
  rw [metric, medianWithRange_eq (by simpa using hne) hsamples]
  rfl

/-- Measured rounds can be summarised. -/
theorem ContentionMeasurements.fromRounds_eq {rounds : List RoundMetrics} (hne : rounds ≠ [])
    (hnonneg : ∀ metrics ∈ rounds, metrics.Nonneg) :
    ∃ measurements, fromRounds rounds = .ok measurements ∧
      measurements.concurrentAcceptedThroughputPerSecond.median =
        median (rounds.map (·.concurrentAcceptedThroughputPerSecond)) ∧
      measurements.sequentialLatencyP50Ms.median =
        median (rounds.map (·.sequentialLatencyP50Ms)) := by
  have hmetric := metric_eq hne hnonneg
  simp only [RoundMetrics.fields, List.mem_cons, List.not_mem_nil, or_false, forall_eq_or_imp,
    forall_eq] at hmetric
  simp only [fromRounds, hmetric]
  exact ⟨_, rfl, rfl, rfl⟩

section Measured

variable {crates : Crates} {config : RoundExecutionConfig} {requestedLocation : Option String}
  {tr calls : RoundTrace} {execution gathered : RoundExecution}

theorem Attempt.descriptor (h : Attempt crates config requestedLocation execution calls gathered) :
    gathered.descriptor = execution.descriptor := by
  cases h with
  | phases _ _ hphases => cases hphases <;> rfl
  | _ => rfl

/-- An execution is described by its configuration. -/
theorem runContentionRound_descriptor
    (h : (runContentionRound crates config requestedLocation).Run (roundStep crates config) []
      execution tr) :
    execution.descriptor = ⟨config.catalog, config.repetition, config.kind, config.fixture⟩ := by
  obtain ⟨failure, -, rfl⟩ | ⟨observation, -, -, rfl⟩ |
      ⟨observation, calls, gathered, -, hattempt, -, replies, -, rfl⟩ := runContentionRound_cases h
  · rfl
  · rfl
  · exact hattempt.descriptor

/-- A phase with an accepted commit has a latency summary if its samples are complete. -/
theorem latency_of_progress {phase : PhaseEvidence} {records : List RequestRecord}
    (hcounts : phase.counts = recordedCounts records) (hprogress : phase.madeProgress = true)
    (hsamples : (phase.latencyMs.all.map (·.samples)).getD 0 = phase.counts.attempts) :
    ∃ distribution, phase.latencyMs.all = some distribution := by
  cases hall : phase.latencyMs.all with
  | some distribution => exact ⟨distribution, rfl⟩
  | none =>
    obtain ⟨record, hmem, -⟩ := progress_of_counts hcounts hprogress
    rw [hall, hcounts] at hsamples
    have hpos : 0 < records.length := List.length_pos_of_mem hmem
    have hzero : 0 = records.length := hsamples
    omega

theorem latency_of_complete {phase : PhaseEvidence} {expected : ℕ}
    (h : latencyComplete phase expected = true) :
    ∃ distribution, phase.latencyMs.all = some distribution := by
  cases hall : phase.latencyMs.all with
  | some distribution => exact ⟨distribution, rfl⟩
  | none => simp [latencyComplete, hall] at h

/-- A measured phase with a latency summary has every quantile. -/
theorem quantile_of_measured {phase : PhaseEvidence} (hmeasured : phase.Measured)
    (hall : ∃ distribution, phase.latencyMs.all = some distribution) :
    (∃ p50, quantile phase "p50" = .ok p50 ∧ 0 ≤ p50) ∧
      (∃ p95, quantile phase "p95" = .ok p95 ∧ 0 ≤ p95) ∧
      ∃ p99, quantile phase "p99" = .ok p99 ∧ 0 ≤ p99 := by
  obtain ⟨distribution, hall⟩ := hall
  have hquantile : ∀ entry ∈ quantiles, ∃ value, quantile phase entry.1 = .ok value ∧ 0 ≤ value := by
    intro entry hentry
    obtain ⟨value, hvalue, hnonneg⟩ := hmeasured.latency distribution hall entry hentry
    refine ⟨value, ?_, hnonneg⟩
    rw [quantile, hall, Option.bind_some, hvalue]
    rfl
  simp only [quantiles, List.mem_cons, List.not_mem_nil, or_false, forall_eq_or_imp,
    forall_eq] at hquantile
  exact hquantile

theorem RoundMetrics.fromExecution_eq (hpass : execution.passed = true)
    {sequential concurrent : PhaseEvidence} {growth : MetadataGrowthEvidence} {observed : ℕ}
    (hsequential : execution.sequential = .succeeded sequential) (hs : sequential.Measured)
    (hall : ∃ distribution, sequential.latencyMs.all = some distribution)
    (hconcurrent : execution.concurrent = .succeeded concurrent) (hc : concurrent.Measured)
    (hall' : ∃ distribution, concurrent.latencyMs.all = some distribution)
    (hgrowth : execution.metadataGrowth = .succeeded growth)
    (hobserved : growth.observedGrowth = some observed) :
    ∃ metrics, fromExecution execution = .ok metrics ∧ metrics.Nonneg := by
  obtain ⟨⟨p50, hp50, hp50'⟩, ⟨p95, hp95, hp95'⟩, p99, hp99, hp99'⟩ := quantile_of_measured hs hall
  obtain ⟨⟨q50, hq50, hq50'⟩, ⟨q95, hq95, hq95'⟩, q99, hq99, hq99'⟩ := quantile_of_measured hc hall'
  simp only [fromExecution, hpass, Bool.not_true, Bool.false_eq_true, if_false, bind, Except.bind,
    hsequential, hconcurrent, hgrowth, measuredOutput, hobserved, okOr, hp50, hp95, hp99, hq50, hq95,
    hq99]
  refine ⟨_, rfl, ?_⟩
  simp only [Nonneg, fields, List.mem_cons, List.not_mem_nil, or_false, forall_eq_or_imp, forall_eq]
  exact ⟨hp50', hp95', hp99', hs.acceptedThroughput, hq50', hq95', hq99', hc.attemptedThroughput,
    hc.acceptedThroughput, hc.conflictRate, hc.errorRate, Nat.cast_nonneg _, Nat.cast_nonneg _,
    Nat.cast_nonneg _, Nat.cast_nonneg _⟩

theorem growthEvidence_output {baseline : ObjectAuditSnapshot}
    (h : (growthEvidence execution baseline).output.any (·.sufficient) = true) :
    ∃ growth observed, growthEvidence execution baseline = .succeeded growth ∧
      growth.observedGrowth = some observed := by
  unfold growthEvidence at h ⊢
  split at h
  · next w s c audit hw hs hc haudit =>
    cases hgrowth : MetadataGrowthEvidence.evaluate baseline.metadataObjects audit.metadataObjects
        [w.counts, s.counts, c.counts] with
    | error error => simp [hgrowth, OperationEvidence.harnessFailure, OperationEvidence.output] at h
    | ok growth =>
      simp only [hgrowth, OperationEvidence.output, Option.any_some] at h
      unfold MetadataGrowthEvidence.evaluate at hgrowth
      split at hgrowth
      · cases hgrowth
      · obtain rfl := Except.ok.inj hgrowth
        obtain ⟨observed, hobserved, -⟩ := (Option.any_eq_true _ _).mp h
        exact ⟨_, observed, rfl, hobserved⟩
  · cases h

/-- A round that passed has all its metrics. -/
theorem runContentionRound_metrics
    (h : (runContentionRound crates config requestedLocation).Run (roundStep crates config) []
      execution tr) (hpass : execution.passed = true) :
    ∃ metrics, RoundMetrics.fromExecution execution = .ok metrics ∧ metrics.Nonneg := by
  have hclassification : execution.classification = .pass := by
    rw [RoundExecution.passed, Bool.and_eq_true] at hpass
    exact of_decide_eq_true hpass.1
  obtain ⟨failure, -, rfl⟩ | ⟨observation, -, -, rfl⟩ |
      ⟨observation, calls, gathered, habsent, hattempt, -, replies, rfl, rfl⟩ :=
    runContentionRound_cases h
  · cases (finalize_pass hclassification).2
  · cases (finalize_pass hclassification).1
  have hchecks := (finalize_pass hclassification).2
  simp only [RoundChecks.allPassed, evaluateChecks, Bool.and_eq_true] at hchecks
  obtain ⟨⟨⟨⟨⟨⟨⟨⟨⟨-, -⟩, -⟩, hlatency⟩, hrequests⟩, -⟩, hprogress⟩, hfinal⟩, hgrowth, -⟩, -⟩ :=
    hchecks
  cases hattempt with
  | @phases receipt created root baseline _ _ hroot _ hphases =>
    cases hphases with
    | @observed warmup sequential concurrent w s c accepted final reply hw hs hc haccepted =>
      obtain ⟨growth, observed, hgrowth, hobserved⟩ := growthEvidence_output hgrowth
      have hrequests := (Bool.and_eq_true _ _).mp hrequests
      refine RoundMetrics.fromExecution_eq hpass rfl hs.measured (latency_of_complete hlatency) rfl
        hc.measured ?_ hgrowth hobserved
      exact latency_of_progress hc.counts hprogress (of_decide_eq_true hrequests.2)
    | _ => cases hfinal
  | _ => cases hfinal

end Measured

-- ════════════════════════════════
-- Complete sweeps
-- ════════════════════════════════

/-- The turn was taken: the negotiation failed, or the round ran and returned its execution. -/
structure TakesTurn (crates : Crates) (turn : ScheduledTurn) (observed : CatalogRoundTranscript) :
    Prop where
  repetition : observed.repetition = turn.round.repetition
  kind : observed.kind = turn.round.kind
  position : observed.position = turn.position + 1
  catalog : observed.catalog = turn.catalog
  executed : ∀ execution, observed.outcome = .executed execution →
    ∃ config requestedLocation tr, config.catalog = turn.catalog.catalog ∧
      config.repetition = turn.round.repetition ∧ config.kind = turn.round.kind ∧
      (runContentionRound crates config requestedLocation).Run (roundStep crates config) []
        execution tr

/-- Every turn of the plan was taken, in order. -/
def Complete (crates : Crates) (plan : ContentionPlan) (rounds : List CatalogRoundTranscript) : Prop :=
  List.Forall₂ (TakesTurn crates) plan.turns rounds

section Schedule

variable {crates : Crates} {plan : ContentionPlan} {catalogs : List CatalogRun}
  {rounds : List CatalogRoundTranscript}

theorem execution_eq_some {outcome : CatalogRoundOutcome} {execution : RoundExecution} :
    outcome.execution = some execution ↔ outcome = .executed execution := by
  cases outcome <;> simp [CatalogRoundOutcome.execution]

theorem TakesTurn.validateTurn_ok {turn : ScheduledTurn} {observed : CatalogRoundTranscript}
    (h : TakesTurn crates turn observed) (hposition : turn.position + 1 < 2 ^ 32) (index : ℕ) :
    validateTurn turn observed index = .ok () := by
  have hfits : observed.execution.any (fun execution => !execution.descriptor.fits turn) = false := by
    rw [Option.any_eq_false]
    intro execution hexecution
    obtain ⟨config, requestedLocation, tr, hcatalog, hrepetition, hkind, hrun⟩ :=
      h.executed execution (execution_eq_some.mp hexecution)
    simp [runContentionRound_descriptor hrun, RoundDescriptor.fits, hcatalog, hrepetition, hkind]
  refine except_bind_eq_ok.mpr ⟨turn.position + 1, if_pos hposition, ?_⟩
  simp only [h.repetition, h.kind, h.position, h.catalog, hfits, ne_eq, not_true_eq_false,
    decide_false, Bool.or_self, Bool.false_eq_true, if_false]
  rfl

namespace ContentionPlan.Made

/-- Every round has a turn for every catalog. -/
theorem perm (h : plan.Made catalogs) {round : RoundPlan} (hround : round ∈ plan.rounds) :
    round.catalogs.Perm catalogs := by
  rw [h.rounds] at hround
  obtain ⟨index, -, rfl⟩ := List.mem_map.mp hround
  exact scheduledRound_perm index

theorem length_lt (h : plan.Made catalogs) : catalogs.length < 2 ^ 32 := by
  obtain ⟨-, -, hlt⟩ := validateRounds_eq_ok h.policy
  have hbalanced := h.balanced
  omega

theorem turn_position (h : plan.Made catalogs) {turn : ScheduledTurn} (hturn : turn ∈ plan.turns) :
    turn.position + 1 < 2 ^ 32 := by
  obtain ⟨round, hround, hturn⟩ := List.mem_flatMap.mp hturn
  obtain ⟨⟨catalog, position⟩, hmem, rfl⟩ := List.mem_map.mp hturn
  have hposition := (List.mem_zipIdx' hmem).1
  rw [(h.perm hround).length_eq] at hposition
  exact Nat.lt_of_le_of_lt hposition h.length_lt

theorem count_turns (h : plan.Made catalogs) :
    plan.rounds.foldlM (fun count round => checkedAdd 64 count round.catalogs.length) 0 =
      some plan.turns.length := by
  have hlengths : plan.rounds.map (·.catalogs.length) =
      List.replicate plan.rounds.length catalogs.length := by
    refine List.eq_replicate_iff.mpr ⟨by simp, List.forall_mem_map.mpr fun round hround => ?_⟩
    exact (h.perm hround).length_eq
  have hsum : (plan.rounds.map (·.catalogs.length)).sum = plan.turns.length := by
    simp [ContentionPlan.turns, List.length_flatMap]
  have hrounds : plan.rounds.length < 2 ^ 32 := by
    rw [h.rounds, List.length_map, List.length_range]
    exact (validateRounds_eq_ok h.policy).2.2
  have hlt : (plan.rounds.map (·.catalogs.length)).sum < 2 ^ 64 := by
    rw [hlengths, List.sum_replicate_nat]
    calc plan.rounds.length * catalogs.length
      _ < 2 ^ 32 * 2 ^ 32 := Nat.mul_lt_mul'' hrounds h.length_lt
      _ = 2 ^ 64 := by norm_num
  rw [foldlM_checkedAdd_of_lt (by simpa using hlt), Nat.zero_add, hsum]

end ContentionPlan.Made

/-- A complete sweep follows the schedule of its plan. -/
theorem Complete.validateSchedule_ok (h : Complete crates plan rounds) (hmade : plan.Made catalogs) :
    validateSchedule plan rounds = .ok () := by
  refine except_bind_eq_ok.mpr ⟨plan.turns.length, by rw [hmade.count_turns]; rfl, ?_⟩
  rw [if_neg (by simp [h.length_eq])]
  refine except_forM_eq_ok.mpr ?_
  rintro ⟨⟨turn, observed⟩, index⟩ hmem
  have hzip := List.fst_mem_of_mem_zipIdx hmem
  have hturn := (List.forall₂_iff_zip.mp h).2 hzip
  exact hturn.validateTurn_ok (hmade.turn_position (List.of_mem_zip hzip).1) index

end Schedule

-- ════════════════════════════════
-- The rounds of a catalog
-- ════════════════════════════════

/-- What came of the turns of a catalog. -/
def catalogOutcomes (rounds : List CatalogRoundTranscript) (catalog : ComponentId) :
    List (RoundKind × CatalogRoundOutcome) :=
  (rounds.filter (·.catalog.catalog = catalog)).map fun round => (round.kind, round.outcome)

section Outcomes

variable {crates : Crates} {plan : ContentionPlan} {catalogs : List CatalogRun}
  {rounds : List CatalogRoundTranscript} {catalog : CatalogRun}

/-- Every catalog has one turn in every round. -/
theorem ContentionPlan.Made.catalogTurns (h : plan.Made catalogs) (hmem : catalog ∈ catalogs) :
    (plan.turns.filter (·.catalog.catalog = catalog.catalog)).map (·.round.kind) =
      plan.rounds.map (·.kind) := by
  have hround : ∀ round ∈ plan.rounds,
      ((round.catalogs.zipIdx.map fun entry => ScheduledTurn.mk round entry.2 entry.1).filter
        (·.catalog.catalog = catalog.catalog)).map (·.round.kind) = [round.kind] := by
    intro round hround
    have hcount : (round.catalogs.map (·.catalog)).count catalog.catalog = 1 :=
      List.count_eq_one_of_mem (((h.perm hround).map _).nodup_iff.mpr h.distinct)
        (List.mem_map_of_mem ((h.perm hround).mem_iff.mpr hmem))
    have hcatalogs : round.catalogs.countP (·.catalog = catalog.catalog) = 1 := by
      rw [← hcount, List.count, List.countP_map]
      rfl
    change _ = List.replicate 1 round.kind
    refine List.eq_replicate_iff.mpr ⟨?_, ?_⟩
    · rw [List.length_map, ← List.countP_eq_length_filter, List.countP_map, ← hcatalogs]
      conv_rhs => rw [← List.zipIdx_map_fst 0 round.catalogs, List.countP_map]
      rfl
    · refine List.forall_mem_map.mpr fun turn hturn => ?_
      obtain ⟨entry, -, rfl⟩ := List.mem_map.mp (List.mem_of_mem_filter hturn)
      rfl
  rw [ContentionPlan.turns, List.filter_flatMap, List.map_flatMap, List.map_eq_flatMap]
  exact List.flatMap_congr hround

theorem Complete.catalogKinds (h : Complete crates plan rounds) (hmade : plan.Made catalogs)
    (hmem : catalog ∈ catalogs) :
    (catalogOutcomes rounds catalog.catalog).map Prod.fst = plan.rounds.map (·.kind) := by
  have hturns : rounds.map (fun round => (round.catalog, round.kind)) =
      plan.turns.map fun turn => (turn.catalog, turn.round.kind) :=
    forall₂_map_eq h fun turn observed hturn => by rw [hturn.catalog, hturn.kind]
  rw [← hmade.catalogTurns hmem, catalogOutcomes, List.map_map]
  have hfiltered := congrArg (fun entries => (entries.filter
    (fun entry : CatalogRun × RoundKind => entry.1.catalog = catalog.catalog)).map Prod.snd) hturns
  simpa only [List.filter_map, List.map_map, Function.comp_def] using hfiltered

/-- The rounds of one kind that the policy asks for. -/
def RoundPolicy.roundsOf (policy : RoundPolicy) : RoundKind → ℕ
  | .conditioning => policy.conditioningRounds
  | .measured => policy.measuredRounds

theorem Complete.length_kind (h : Complete crates plan rounds) (hmade : plan.Made catalogs)
    (hmem : catalog ∈ catalogs) (kind : RoundKind) :
    ((rounds.filter (·.catalog.catalog = catalog.catalog)).filter (·.kind = kind)).length =
      plan.parameters.roundPolicy.roundsOf kind := by
  have hkinds := h.catalogKinds hmade hmem
  rw [hmade.rounds, kinds_schedule, catalogOutcomes, List.map_map] at hkinds
  have hcount := congrArg (List.countP (· = kind)) hkinds
  rw [List.countP_map, List.countP_eq_length_filter, List.countP_append, List.countP_replicate,
    List.countP_replicate] at hcount
  cases kind with
  | conditioning => simpa [Function.comp_def, RoundPolicy.roundsOf] using hcount
  | measured => simpa [Function.comp_def, RoundPolicy.roundsOf] using hcount

end Outcomes

-- ════════════════════════════════
-- Tallies
-- ════════════════════════════════

section Tallies

variable {rounds : List CatalogRoundTranscript}

theorem tallyRound_eq {counted : RoundTally} {outcome : CatalogRoundOutcome}
    (hexecuted : counted.executed ≤ counted.scheduled) (hpassed : counted.passed ≤ counted.scheduled)
    (hlt : counted.scheduled + 1 < 2 ^ 32) :
    tallyRound counted outcome = .ok ⟨counted.scheduled + 1,
      counted.executed + (if outcome.execution.isSome then 1 else 0),
      counted.passed + if outcome.passed then 1 else 0⟩ := by
  have hadd (count : ℕ) (hle : count ≤ counted.scheduled) :
      okOr .countOverflow (checkedAdd 32 count 1) = .ok (count + 1) := by
    rw [checkedAdd_of_lt (by omega)]
    rfl
  cases hexecution : outcome.execution.isSome <;> cases hpass : outcome.passed <;>
    simp only [tallyRound, hexecution, hpass, hadd _ le_rfl, hadd _ hexecuted, hadd _ hpassed,
      if_true, Bool.false_eq_true, if_false, Nat.add_zero] <;>
    rfl

/-- The rounds are counted without overflow. -/
theorem foldlM_tallyRound {counted : RoundTally} (hexecuted : counted.executed ≤ counted.scheduled)
    (hpassed : counted.passed ≤ counted.scheduled)
    (hlt : counted.scheduled + rounds.length < 2 ^ 32) :
    rounds.foldlM (fun tally round => tallyRound tally round.outcome) counted =
      .ok ⟨counted.scheduled + rounds.length,
        counted.executed + rounds.countP (·.outcome.execution.isSome),
        counted.passed + rounds.countP (·.outcome.passed)⟩ := by
  induction rounds generalizing counted with
  | nil => rfl
  | cons round rounds ih =>
    rw [List.length_cons] at hlt
    rw [List.foldlM_cons, tallyRound_eq hexecuted hpassed (by omega)]
    refine (ih ?_ ?_ ?_).trans ?_
    · dsimp only
      split <;> omega
    · dsimp only
      split <;> omega
    · dsimp only
      omega
    · simp only [List.countP_cons, List.length_cons, Nat.add_assoc, Nat.add_comm 1,
        Nat.add_comm (ite _ _ _)]

theorem execution_of_passed {outcome : CatalogRoundOutcome} (h : outcome.passed = true) :
    ∃ execution, outcome = .executed execution ∧ execution.passed = true := by
  cases outcome with
  | executed execution => exact ⟨execution, rfl, h⟩
  | negotiationFailed failure => cases h

theorem shortfall_eq_nil {name : String} {counted : RoundTally} {expected : ℕ} :
    shortfall name counted expected = [] ↔ counted.scheduled = expected ∧
      counted.executed = expected ∧ counted.passed = expected := by
  simp only [shortfall, ite_eq_right_iff, List.cons_ne_nil, imp_false, Bool.or_eq_true,
    decide_eq_true_eq, not_or, not_not, and_assoc, ne_eq]

/-- No round of a kind falls short exactly if all of them passed. -/
theorem tally_shortfall {kind : RoundKind} (name : String) {expected : ℕ}
    (hlength : (rounds.filter (·.kind = kind)).length = expected) (hlt : expected < 2 ^ 32) :
    ∃ counted, tally rounds kind = .ok counted ∧
      (shortfall name counted expected = [] ↔
        ∀ round ∈ rounds, round.kind = kind → round.passed = true) := by
  refine ⟨_, foldlM_tallyRound le_rfl le_rfl (by simpa [hlength] using hlt), ?_⟩
  rw [shortfall_eq_nil]
  dsimp only
  rw [Nat.zero_add, Nat.zero_add, Nat.zero_add, ← hlength, List.countP_eq_length,
    List.countP_eq_length, and_iff_right rfl]
  constructor
  · rintro ⟨-, hpassed⟩ round hmem hkind
    exact hpassed round (List.mem_filter.mpr ⟨hmem, by simpa using hkind⟩)
  · intro hall
    have hpassed : ∀ round ∈ rounds.filter (·.kind = kind), round.outcome.passed = true := by
      intro round hmem
      obtain ⟨hround, hkind⟩ := List.mem_filter.mp hmem
      exact hall round hround (of_decide_eq_true hkind)
    refine ⟨fun round hmem => ?_, hpassed⟩
    obtain ⟨execution, hexecution, -⟩ := execution_of_passed (hpassed round hmem)
    rw [hexecution]
    rfl

end Tallies

-- ════════════════════════════════
-- Aggregates
-- ════════════════════════════════

def acceptedThroughput (execution : RoundExecution) : Option ℚ :=
  execution.concurrent.output.map (·.acceptedThroughputPerSecond)

def sequentialP50 (execution : RoundExecution) : Option ℚ :=
  execution.sequential.output.bind fun phase =>
    phase.latencyMs.all.bind fun distribution => distribution.quantiles["p50"]?

/-- The executions of the measured rounds of a catalog. -/
def measuredExecutions (rounds : List CatalogRoundTranscript) (catalog : ComponentId) :
    List RoundExecution :=
  ((rounds.filter (·.catalog.catalog = catalog)).filter (·.kind = .measured)).filterMap (·.execution)

/-- The median of the accepted throughput of a catalog. -/
def medianThroughput (rounds : List CatalogRoundTranscript) (catalog : ComponentId) : ℚ :=
  median ((measuredExecutions rounds catalog).filterMap acceptedThroughput)

/-- The median of the sequential latency of a catalog. -/
def medianLatency (rounds : List CatalogRoundTranscript) (catalog : ComponentId) : ℚ :=
  median ((measuredExecutions rounds catalog).filterMap sequentialP50)

/-- Every round of the catalog was executed and passed. -/
def PassedEveryRound (rounds : List CatalogRoundTranscript) (catalog : ComponentId) : Prop :=
  ∀ round ∈ rounds, round.catalog.catalog = catalog →
    ∃ execution, round.outcome = .executed execution ∧ execution.passed = true

/-- What the aggregate of a catalog says about its rounds. -/
structure Aggregated (rounds : List CatalogRoundTranscript) (run : CatalogRun)
    (aggregate : CatalogAggregate) : Prop where
  catalog : aggregate.catalog = run
  passed : aggregate.passed = true ↔ PassedEveryRound rounds run.catalog
  measurements : ∀ measurements, aggregate.measurements = some measurements →
    aggregate.passed = true ∧
      measurements.concurrentAcceptedThroughputPerSecond.median =
        medianThroughput rounds run.catalog ∧
      measurements.sequentialLatencyP50Ms.median = medianLatency rounds run.catalog
  failed : aggregate.passed = false → ∃ reasons, aggregate.classification = .fail reasons

section Aggregates

variable {crates : Crates} {plan : ContentionPlan} {catalogs : List CatalogRun}
  {rounds : List CatalogRoundTranscript} {catalog : CatalogRun}

/-- The metrics of a round hold what the medians are about. -/
theorem RoundMetrics.fromExecution_ok {execution : RoundExecution} {metrics : RoundMetrics}
    (h : fromExecution execution = .ok metrics) :
    acceptedThroughput execution = some metrics.concurrentAcceptedThroughputPerSecond ∧
      sequentialP50 execution = some metrics.sequentialLatencyP50Ms := by
  unfold fromExecution at h
  split at h
  · cases h
  obtain ⟨sequential, hsequential, h⟩ := except_bind_eq_ok.mp h
  obtain ⟨concurrent, hconcurrent, h⟩ := except_bind_eq_ok.mp h
  obtain ⟨_, -, h⟩ := except_bind_eq_ok.mp h
  obtain ⟨p50, hp50, h⟩ := except_bind_eq_ok.mp h
  obtain ⟨_, -, h⟩ := except_bind_eq_ok.mp h
  obtain ⟨_, -, h⟩ := except_bind_eq_ok.mp h
  obtain ⟨_, -, h⟩ := except_bind_eq_ok.mp h
  obtain ⟨_, -, h⟩ := except_bind_eq_ok.mp h
  obtain ⟨_, -, h⟩ := except_bind_eq_ok.mp h
  obtain ⟨_, -, h⟩ := except_bind_eq_ok.mp h
  obtain rfl := Except.ok.inj h
  have houtput {α : Type} {evidence : OperationEvidence α} {output : α}
      (hmeasured : measuredOutput evidence = .ok output) : evidence.output = some output := by
    cases evidence <;> cases hmeasured
    rfl
  have hok {value : Option ℚ} {found : ℚ} (hvalue : okOr .missingMeasurement value = .ok found) :
      value = some found := by
    cases value <;> cases hvalue
    rfl
  refine ⟨?_, ?_⟩
  · rw [acceptedThroughput, houtput hconcurrent]
    rfl
  · rw [sequentialP50, houtput hsequential]
    exact hok hp50

/-- The rounds of a catalog that passed can be measured. -/
theorem Complete.metrics (h : Complete crates plan rounds)
    (hpassed : PassedEveryRound rounds catalog.catalog) :
    ∃ metrics, ((rounds.filter (·.catalog.catalog = catalog.catalog)).filter
        (·.kind = .measured)).mapM (fun round => outcomeMetrics round.outcome) = .ok metrics ∧
      metrics.length = ((rounds.filter (·.catalog.catalog = catalog.catalog)).filter
        (·.kind = .measured)).length ∧
      (∀ m ∈ metrics, m.Nonneg) ∧
      median (metrics.map (·.concurrentAcceptedThroughputPerSecond)) =
        medianThroughput rounds catalog.catalog ∧
      median (metrics.map (·.sequentialLatencyP50Ms)) = medianLatency rounds catalog.catalog := by
  have hround : ∀ round ∈ (rounds.filter (·.catalog.catalog = catalog.catalog)).filter
      (·.kind = .measured), ∃ metrics, outcomeMetrics round.outcome = .ok metrics ∧
        ∃ execution, round.execution = some execution ∧
          RoundMetrics.fromExecution execution = .ok metrics ∧ metrics.Nonneg := by
    intro round hmem
    obtain ⟨hround, hcatalog⟩ := List.mem_filter.mp (List.mem_of_mem_filter hmem)
    obtain ⟨execution, hexecuted, hpass⟩ := hpassed round hround (of_decide_eq_true hcatalog)
    obtain ⟨turn, -, hturn⟩ := forall₂_mem_right h hround
    obtain ⟨config, requestedLocation, tr, -, -, -, hrun⟩ := hturn.executed execution hexecuted
    obtain ⟨metrics, hmetrics, hnonneg⟩ := runContentionRound_metrics hrun hpass
    refine ⟨metrics, ?_, execution, execution_eq_some.mpr hexecuted, hmetrics, hnonneg⟩
    rw [hexecuted]
    exact hmetrics
  obtain ⟨metrics, hmetrics, hrel⟩ := except_mapM_exists hround
  refine ⟨metrics, hmetrics, hrel.length_eq.symm, fun m hm => ?_, ?_, ?_⟩
  · obtain ⟨round, -, execution, -, -, hnonneg⟩ := forall₂_mem_right hrel hm
    exact hnonneg
  · rw [medianThroughput, measuredExecutions, List.filterMap_filterMap]
    refine congrArg median (forall₂_filterMap_eq hrel fun round m hround => ?_).symm
    obtain ⟨execution, hexecution, hmetrics, -⟩ := hround
    rw [hexecution, Option.bind_some, (RoundMetrics.fromExecution_ok hmetrics).1]
  · rw [medianLatency, measuredExecutions, List.filterMap_filterMap]
    refine congrArg median (forall₂_filterMap_eq hrel fun round m hround => ?_).symm
    obtain ⟨execution, hexecution, hmetrics, -⟩ := hround
    rw [hexecution, Option.bind_some, (RoundMetrics.fromExecution_ok hmetrics).2]

/-- The aggregate of a scheduled catalog. -/
theorem Complete.aggregateCatalog_eq (h : Complete crates plan rounds)
    (hmade : plan.Made catalogs) (hmem : catalog ∈ catalogs) :
    ∃ aggregate, aggregateCatalog plan rounds catalog = .ok aggregate ∧
      Aggregated rounds catalog aggregate := by
  obtain ⟨-, hpositive, hlt⟩ := validateRounds_eq_ok hmade.policy
  obtain ⟨conditioning, hconditioning, hconditioned⟩ := tally_shortfall "conditioning"
    (h.length_kind hmade hmem .conditioning) (by simp only [RoundPolicy.roundsOf]; omega)
  obtain ⟨measured, hmeasured, hmeasures⟩ := tally_shortfall "measured"
    (h.length_kind hmade hmem .measured) (by simp only [RoundPolicy.roundsOf]; omega)
  have hreasons : shortfall "conditioning" conditioning plan.parameters.roundPolicy.conditioningRounds ++
      shortfall "measured" measured plan.parameters.roundPolicy.measuredRounds = [] ↔
      PassedEveryRound rounds catalog.catalog := by
    rw [List.append_eq_nil_iff]
    refine (and_congr hconditioned hmeasures).trans ⟨fun hall round hround hcatalog => ?_, fun hall => ?_⟩
    · have hfiltered : round ∈ rounds.filter (·.catalog.catalog = catalog.catalog) :=
        List.mem_filter.mpr ⟨hround, decide_eq_true hcatalog⟩
      cases hkind : round.kind with
      | conditioning => exact execution_of_passed (hall.1 round hfiltered hkind)
      | measured => exact execution_of_passed (hall.2 round hfiltered hkind)
    · have hpassed : ∀ round ∈ rounds.filter (·.catalog.catalog = catalog.catalog),
          round.passed = true := by
        intro round hround
        obtain ⟨hround, hcatalog⟩ := List.mem_filter.mp hround
        obtain ⟨execution, hexecuted, hpass⟩ := hall round hround (of_decide_eq_true hcatalog)
        rw [CatalogRoundTranscript.passed, hexecuted]
        exact hpass
      exact ⟨fun round hround _ => hpassed round hround, fun round hround _ => hpassed round hround⟩
  by_cases hpassed : PassedEveryRound rounds catalog.catalog
  · obtain ⟨metrics, hmetrics, hlength, hnonneg, hthroughput, hlatency⟩ := h.metrics hpassed
    have hne : metrics ≠ [] := by
      rintro rfl
      have hzero := hlength.trans (h.length_kind hmade hmem .measured)
      simp only [List.length_nil, RoundPolicy.roundsOf] at hzero
      omega
    obtain ⟨measurements, hfrom, hthroughput', hlatency'⟩ :=
      ContentionMeasurements.fromRounds_eq hne hnonneg
    refine ⟨⟨catalog, conditioning, measured, .pass, some measurements⟩, ?_, ?_⟩
    · refine except_bind_eq_ok.mpr ⟨_, hconditioning, except_bind_eq_ok.mpr ⟨_, hmeasured, ?_⟩⟩
      dsimp only
      rw [hreasons.mpr hpassed, List.isEmpty_nil, if_pos rfl]
      exact except_bind_eq_ok.mpr ⟨_, hmetrics, except_bind_eq_ok.mpr ⟨_, hfrom, rfl⟩⟩
    · exact {
        catalog := rfl
        passed := iff_of_true rfl hpassed
        measurements := by
          rintro _ ⟨⟩
          exact ⟨rfl, hthroughput'.trans hthroughput, hlatency'.trans hlatency⟩
        failed := by
          intro hfailed
          cases hfailed }
  · refine ⟨⟨catalog, conditioning, measured, .fail
      (shortfall "conditioning" conditioning plan.parameters.roundPolicy.conditioningRounds ++
        shortfall "measured" measured plan.parameters.roundPolicy.measuredRounds), none⟩, ?_, ?_⟩
    · refine except_bind_eq_ok.mpr ⟨_, hconditioning, except_bind_eq_ok.mpr ⟨_, hmeasured, ?_⟩⟩
      dsimp only
      rw [if_neg (by simpa using mt hreasons.mp hpassed)]
      rfl
    · exact {
        catalog := rfl
        passed := iff_of_false (by simp [CatalogAggregate.passed]) hpassed
        measurements := by
          rintro _ ⟨⟩
        failed := fun _ => ⟨_, rfl⟩ }

end Aggregates

-- ════════════════════════════════
-- The law of the ranking
-- ════════════════════════════════

def RankingEntry.isRanked (entry : RankingEntry) : Bool :=
  match entry.disposition with
  | .ranked _ _ => true
  | .notRanked _ => false

/-- The entries with a rank. -/
def ContentionRanking.ranked (ranking : ContentionRanking) : List RankingEntry :=
  ranking.entries.filter (·.isRanked)

/-- The one catalog comes before the other: by its throughput, then by its latency, then by its
id. -/
def RanksBefore (rounds : List CatalogRoundTranscript) (first second : ComponentId) : Prop :=
  medianThroughput rounds second < medianThroughput rounds first ∨
    medianThroughput rounds first = medianThroughput rounds second ∧
      (medianLatency rounds first < medianLatency rounds second ∨
        medianLatency rounds first = medianLatency rounds second ∧ first < second)

/-- What a ranking says about the rounds of a sweep. -/
structure RankingLaw (plan : ContentionPlan) (rounds : List CatalogRoundTranscript)
    (ranking : ContentionRanking) (classification : SweepClassification) : Prop where
  permutation : ∀ round ∈ plan.rounds, (ranking.entries.map (·.catalog)).Perm round.catalogs
  ranked_iff : ∀ entry ∈ ranking.entries,
    entry.isRanked = true ↔ PassedEveryRound rounds entry.catalog.catalog
  ranked_first : ranking.entries =
    ranking.ranked ++ ranking.entries.filter fun entry => !entry.isRanked
  ranks : ∀ (index : ℕ) (entry : RankingEntry), ranking.ranked[index]? = some entry →
    ∃ score, entry.disposition = .ranked (index + 1) score ∧
      score.median = medianThroughput rounds entry.catalog.catalog
  sorted : (ranking.ranked.map (·.catalog.catalog)).Pairwise (RanksBefore rounds)
  classification : classification = .pass ↔ ∀ entry ∈ ranking.entries, entry.isRanked = true

instance : Std.TransCmp compareRanked := by
  unfold compareRanked
  infer_instance

section Ranking

variable {rounds : List CatalogRoundTranscript} {catalogs : List CatalogRun}
  {aggregates : List CatalogAggregate}

/-- The entries of the ranked catalogs. -/
def rankedEntries (sorted : List RankedCatalog) : List RankingEntry :=
  sorted.zipIdx.map fun (ranked, index) => ⟨ranked.1.catalog, .ranked (index + 1) ranked.2.1⟩

def CatalogAggregate.reasons (aggregate : CatalogAggregate) : List String :=
  match aggregate.classification with
  | .fail reasons => reasons
  | .pass => []

/-- The entries of the catalogs that failed. -/
def failedEntries (aggregates : List CatalogAggregate) : List RankingEntry :=
  (aggregates.filter fun aggregate => !aggregate.passed).map fun aggregate =>
    ⟨aggregate.catalog, .notRanked aggregate.reasons⟩

theorem length_rankable_le : (rankable aggregates).length ≤ aggregates.length :=
  List.length_filterMap_le _ _

/-- Ranking never fails as long as the ranks fit. -/
theorem rankCatalogs_eq (h : List.Forall₂ (Aggregated rounds) catalogs aggregates)
    (hlt : catalogs.length < 2 ^ 32) :
    rankCatalogs aggregates = .ok ⟨.concurrentAcceptedThroughputPerSecond,
      [.sequentialLatencyP50Ascending, .catalogIdAscending],
      rankedEntries (sortBy compareRanked (rankable aggregates)) ++ failedEntries aggregates⟩ := by
  have hranked : (sortBy compareRanked (rankable aggregates)).zipIdx.mapM rankedEntry =
      .ok (rankedEntries (sortBy compareRanked (rankable aggregates))) := by
    refine except_mapM_of_forall ?_
    rintro ⟨ranked, index⟩ hmem
    have hindex := (List.mem_zipIdx' hmem).1
    have hlength : (rankable aggregates).length ≤ aggregates.length := length_rankable_le
    rw [length_sortBy] at hindex
    rw [← h.length_eq] at hlength
    exact except_bind_eq_ok.mpr ⟨index + 1, if_pos (by omega), rfl⟩
  have hfailed : (aggregates.filter fun aggregate => !aggregate.passed).mapM notRankedEntry =
      .ok (failedEntries aggregates) := by
    refine except_mapM_of_forall fun aggregate hmem => ?_
    obtain ⟨hmem, hnot⟩ := List.mem_filter.mp hmem
    obtain ⟨catalog, -, haggregated⟩ := forall₂_mem_right h hmem
    obtain ⟨reasons, hreasons⟩ := haggregated.failed (by simpa using hnot)
    simp only [notRankedEntry, CatalogAggregate.reasons, hreasons]
  exact except_bind_eq_ok.mpr ⟨_, hranked, except_bind_eq_ok.mpr ⟨_, hfailed, rfl⟩⟩

/-- The catalogs with measurements are those that passed. -/
theorem map_rankable (h : List.Forall₂ (Aggregated rounds) catalogs aggregates) :
    (rankable aggregates).map (·.1) = aggregates.filter (·.passed) := by
  rw [rankable, List.map_filterMap, ← List.filterMap_eq_filter]
  refine List.filterMap_congr fun aggregate hmem => ?_
  obtain ⟨catalog, -, haggregated⟩ := forall₂_mem_right h hmem
  cases hmeasurements : aggregate.measurements with
  | none => simp [CatalogAggregate.passed, Option.guard, hmeasurements]
  | some measurements =>
    simp [Option.guard, (haggregated.measurements measurements hmeasurements).1]

theorem map_rankedEntries (sorted : List RankedCatalog) :
    (rankedEntries sorted).map (·.catalog) = sorted.map (·.1.catalog) := by
  rw [rankedEntries, List.map_map]
  conv_rhs => rw [← List.zipIdx_map_fst 0 sorted, List.map_map]
  rfl

theorem rankedEntries_isRanked (sorted : List RankedCatalog) :
    ∀ entry ∈ rankedEntries sorted, entry.isRanked = true :=
  List.forall_mem_map.mpr fun _ _ => rfl

theorem failedEntries_isRanked (aggregates : List CatalogAggregate) :
    ∀ entry ∈ failedEntries aggregates, entry.isRanked = false :=
  List.forall_mem_map.mpr fun _ _ => rfl

/-- The entries with a rank are those of the sorted catalogs. -/
theorem filter_isRanked (sorted : List RankedCatalog) (aggregates : List CatalogAggregate) :
    (rankedEntries sorted ++ failedEntries aggregates).filter (·.isRanked) = rankedEntries sorted ∧
      ((rankedEntries sorted ++ failedEntries aggregates).filter fun entry => !entry.isRanked) =
        failedEntries aggregates := by
  have hranked := rankedEntries_isRanked sorted
  have hfailed := failedEntries_isRanked aggregates
  constructor
  · rw [List.filter_append, List.filter_eq_self.mpr hranked,
      List.filter_eq_nil_iff.mpr fun entry hmem => by simp [hfailed entry hmem], List.append_nil]
  · rw [List.filter_append, List.filter_eq_nil_iff.mpr fun entry hmem => by simp [hranked entry hmem],
      List.filter_eq_self.mpr fun entry hmem => by simp [hfailed entry hmem], List.nil_append]

/-- A catalog that is sorted by its medians. -/
theorem rankable_medians (h : List.Forall₂ (Aggregated rounds) catalogs aggregates)
    {ranked : RankedCatalog} (hmem : ranked ∈ rankable aggregates) :
    ranked.2.1.median = medianThroughput rounds ranked.1.catalog.catalog ∧
      ranked.2.2.median = medianLatency rounds ranked.1.catalog.catalog := by
  obtain ⟨aggregate, haggregate, hmap⟩ := List.mem_filterMap.mp hmem
  obtain ⟨measurements, hmeasurements, rfl⟩ := Option.map_eq_some_iff.mp hmap
  obtain ⟨run, -, haggregated⟩ := forall₂_mem_right h haggregate
  obtain ⟨-, hthroughput, hlatency⟩ := haggregated.measurements measurements hmeasurements
  rw [haggregated.catalog]
  exact ⟨hthroughput, hlatency⟩

theorem map_catalog (h : List.Forall₂ (Aggregated rounds) catalogs aggregates) :
    aggregates.map (·.catalog) = catalogs := by
  have hmap := forall₂_map_eq h fun _ _ haggregated => haggregated.catalog
  simpa using hmap

/-- No two catalogs compare equal. -/
theorem distinguishes_rankable (h : List.Forall₂ (Aggregated rounds) catalogs aggregates)
    (hdistinct : (catalogs.map (·.catalog)).Nodup) :
    Distinguishes compareRanked (rankable aggregates) := by
  refine distinguishes_compareStanding ?_
  have hnames : (rankable aggregates).map (fun ranked => ranked.1.catalog.catalog) =
      ((aggregates.filter (·.passed)).map (·.catalog)).map (·.catalog) := by
    rw [← map_rankable h, List.map_map, List.map_map]
    rfl
  rw [hnames]
  refine hdistinct.sublist ?_
  rw [← map_catalog h]
  exact (List.filter_sublist.map _).map _

theorem entries_perm (h : List.Forall₂ (Aggregated rounds) catalogs aggregates) :
    ((rankedEntries (sortBy compareRanked (rankable aggregates)) ++ failedEntries aggregates).map
      (·.catalog)).Perm catalogs := by
  have hsorted : ((sortBy compareRanked (rankable aggregates)).map (·.1.catalog)).Perm
      ((aggregates.filter (·.passed)).map (·.catalog)) := by
    rw [← map_rankable h, List.map_map]
    exact (sortBy_perm compareRanked _).map _
  have hfailed : (failedEntries aggregates).map (·.catalog) =
      (aggregates.filter fun aggregate => !aggregate.passed).map (·.catalog) := by
    rw [failedEntries, List.map_map]
    rfl
  rw [List.map_append, map_rankedEntries, hfailed]
  refine (hsorted.append_right _).trans ?_
  rw [← List.map_append, ← map_catalog h]
  exact (List.filter_append_perm _ aggregates).map _

/-- The ranked catalogs are sorted by the medians of their rounds. -/
theorem sorted_ranksBefore (h : List.Forall₂ (Aggregated rounds) catalogs aggregates)
    (hdistinct : (catalogs.map (·.catalog)).Nodup) :
    ((rankedEntries (sortBy compareRanked (rankable aggregates))).map (·.catalog.catalog)).Pairwise
      (RanksBefore rounds) := by
  have hcatalogs : (rankedEntries (sortBy compareRanked (rankable aggregates))).map
      (·.catalog.catalog) = (sortBy compareRanked (rankable aggregates)).map (·.1.catalog.catalog) := by
    have hmap := congrArg (List.map fun run : CatalogRun => run.catalog)
      (map_rankedEntries (sortBy compareRanked (rankable aggregates)))
    simpa only [List.map_map, Function.comp_def] using hmap
  rw [hcatalogs, List.pairwise_map]
  refine (distinguishes_rankable h hdistinct).pairwise_sortBy.imp_of_mem fun {a b} ha hb hlt => ?_
  obtain ⟨hthroughput, hlatency⟩ := rankable_medians h (mem_sortBy.mp ha)
  obtain ⟨hthroughput', hlatency'⟩ := rankable_medians h (mem_sortBy.mp hb)
  have hname (name name' : String) : compare name name' = .lt ↔ name < name' :=
    compareOfLessAndEq_eq_lt
  rw [compareRanked, compareStanding_eq_lt, hthroughput, hlatency, hthroughput', hlatency',
    compare_lt_iff_lt, compare_lt_iff_lt, hname] at hlt
  exact hlt

/-- The ranking of aggregated rounds. -/
theorem rankingLaw (plan : ContentionPlan)
    (h : List.Forall₂ (Aggregated rounds) catalogs aggregates)
    (hdistinct : (catalogs.map (·.catalog)).Nodup)
    (hplan : ∀ round ∈ plan.rounds, catalogs.Perm round.catalogs) :
    RankingLaw plan rounds ⟨.concurrentAcceptedThroughputPerSecond,
      [.sequentialLatencyP50Ascending, .catalogIdAscending],
      rankedEntries (sortBy compareRanked (rankable aggregates)) ++ failedEntries aggregates⟩
      (if ((aggregates.filter fun aggregate => !aggregate.passed).map
          (·.catalog.catalog)).isEmpty then .pass
        else .fail ((aggregates.filter fun aggregate => !aggregate.passed).map
          (·.catalog.catalog))) := by
  obtain ⟨hfilter, hfilter'⟩ :=
    filter_isRanked (sortBy compareRanked (rankable aggregates)) aggregates
  constructor
  case permutation => exact fun round hround => (entries_perm h).trans (hplan round hround)
  case ranked_iff =>
    intro entry hentry
    rcases List.mem_append.mp hentry with hranked | hfailed
    · refine iff_of_true (rankedEntries_isRanked _ entry hranked) ?_
      obtain ⟨⟨ranked, index⟩, hindex, rfl⟩ := List.mem_map.mp hranked
      have hmem := mem_sortBy.mp (List.fst_mem_of_mem_zipIdx hindex)
      have hpassed : ranked.1 ∈ aggregates.filter (·.passed) := by
        rw [← map_rankable h]
        exact List.mem_map_of_mem hmem
      obtain ⟨hmem, hpassed⟩ := List.mem_filter.mp hpassed
      obtain ⟨run, -, haggregated⟩ := forall₂_mem_right h hmem
      change PassedEveryRound rounds ranked.1.catalog.catalog
      rw [haggregated.catalog]
      exact haggregated.passed.mp hpassed
    · refine iff_of_false (by simp [failedEntries_isRanked _ entry hfailed]) fun hpassed => ?_
      obtain ⟨aggregate, hmem, rfl⟩ := List.mem_map.mp hfailed
      obtain ⟨hmem, hnot⟩ := List.mem_filter.mp hmem
      obtain ⟨run, -, haggregated⟩ := forall₂_mem_right h hmem
      rw [haggregated.catalog] at hpassed
      simp [haggregated.passed.mpr hpassed] at hnot
  case ranked_first => rw [ContentionRanking.ranked, hfilter, hfilter']
  case ranks =>
    intro index entry hentry
    rw [ContentionRanking.ranked, hfilter, rankedEntries, List.getElem?_map, List.getElem?_zipIdx,
      Nat.zero_add] at hentry
    obtain ⟨⟨ranked, _⟩, hranked, rfl⟩ := Option.map_eq_some_iff.mp hentry
    obtain ⟨_, hsorted, heq⟩ := Option.map_eq_some_iff.mp hranked
    obtain ⟨rfl, rfl⟩ := Prod.mk.inj heq
    have hmem := mem_sortBy.mp (List.mem_of_getElem? hsorted)
    exact ⟨_, rfl, (rankable_medians h hmem).1⟩
  case sorted =>
    rw [ContentionRanking.ranked, hfilter]
    exact sorted_ranksBefore h hdistinct
  case classification =>
    have hpass : (∀ entry ∈ rankedEntries (sortBy compareRanked (rankable aggregates)) ++
        failedEntries aggregates, entry.isRanked = true) ↔
        (aggregates.filter fun aggregate => !aggregate.passed) = [] := by
      constructor
      · intro hall
        have hnil : failedEntries aggregates = [] := by
          refine List.eq_nil_iff_forall_not_mem.mpr fun entry hfailed => ?_
          have hranked := hall entry (List.mem_append_right _ hfailed)
          rw [failedEntries_isRanked aggregates entry hfailed] at hranked
          cases hranked
        exact List.map_eq_nil_iff.mp hnil
      · intro hnil
        rw [failedEntries, hnil, List.map_nil, List.append_nil]
        exact rankedEntries_isRanked _
    rw [hpass]
    split
    · next hempty => exact iff_of_true rfl (by simpa using hempty)
    · next hnonempty => exact iff_of_false nofun (by simpa using hnonempty)

end Ranking

section Sweep

variable {crates : Crates} {plan plan' : ContentionPlan} {catalogs catalogs' : List CatalogRun}
  {rounds rounds' : List CatalogRoundTranscript}

/-- A complete sweep is aggregated: its ranking comes from the aggregates of its catalogs. -/
theorem Complete.aggregateContention_eq (h : Complete crates plan rounds)
    (hmade : plan.Made catalogs) :
    ∃ first aggregates ranking classification,
      aggregateContention plan rounds = .ok (aggregates, ranking, classification) ∧
      first.Perm catalogs ∧ first.mapM (aggregateCatalog plan rounds) = .ok aggregates ∧
      List.Forall₂ (Aggregated rounds) first aggregates ∧
      ranking.ranked = rankedEntries (sortBy compareRanked (rankable aggregates)) ∧
      RankingLaw plan rounds ranking classification := by
  obtain ⟨hpositive, -, -⟩ := validateRounds_eq_ok hmade.policy
  obtain ⟨first, hfirst⟩ : ∃ first, plan.rounds.head? = some first := by
    rw [hmade.rounds, List.head?_map, List.head?_range, if_neg (by omega)]
    exact ⟨_, rfl⟩
  have hperm := hmade.perm (List.mem_of_head? hfirst)
  obtain ⟨aggregates, haggregates, haggregated⟩ := except_mapM_exists (l := first.catalogs)
    fun run hrun => h.aggregateCatalog_eq hmade (hperm.mem_iff.mp hrun)
  have hdistinct : (first.catalogs.map (·.catalog)).Nodup :=
    (hperm.map _).nodup_iff.mpr hmade.distinct
  have hlt : first.catalogs.length < 2 ^ 32 := hperm.length_eq ▸ hmade.length_lt
  refine ⟨first.catalogs, aggregates, _, _, ?_, hperm, haggregates, haggregated, ?_,
    rankingLaw plan haggregated hdistinct fun round hround =>
      hperm.trans (hmade.perm hround).symm⟩
  · refine except_seq_eq_ok.mpr ⟨h.validateSchedule_ok hmade, ?_⟩
    refine except_bind_eq_ok.mpr ⟨first, by rw [hfirst]; rfl, ?_⟩
    refine except_bind_eq_ok.mpr ⟨aggregates, haggregates, ?_⟩
    exact except_bind_eq_ok.mpr ⟨_, rankCatalogs_eq haggregated hlt, rfl⟩
  · exact (filter_isRanked _ _).1

theorem tally_outcomes (run : CatalogRun) (kind : RoundKind) :
    tally (rounds.filter (·.catalog.catalog = run.catalog)) kind =
      ((catalogOutcomes rounds run.catalog).filter (·.1 = kind)).foldlM
        (fun tally outcome => tallyRound tally outcome.2) ⟨0, 0, 0⟩ := by
  rw [catalogOutcomes, List.filter_map, List.foldlM_map]
  rfl

theorem metrics_outcomes (run : CatalogRun) :
    ((rounds.filter (·.catalog.catalog = run.catalog)).filter (·.kind = .measured)).mapM
        (fun round => outcomeMetrics round.outcome) =
      ((catalogOutcomes rounds run.catalog).filter (·.1 = .measured)).mapM
        fun outcome => outcomeMetrics outcome.2 := by
  rw [catalogOutcomes, List.filter_map, List.mapM_map]
  rfl

/-- An aggregate depends on the policy and on what came of the turns of its catalog. -/
theorem aggregateCatalog_congr (hparameters : plan'.parameters = plan.parameters) {run : CatalogRun}
    (houtcomes : catalogOutcomes rounds' run.catalog = catalogOutcomes rounds run.catalog) :
    aggregateCatalog plan' rounds' run = aggregateCatalog plan rounds run := by
  simp only [aggregateCatalog, tally_outcomes, metrics_outcomes, hparameters, houtcomes]

/-- Two sweeps over the same catalogs in which every catalog fared the same rank them the same. -/
theorem ranked_congr (h : Complete crates plan rounds) (hmade : plan.Made catalogs)
    (h' : Complete crates plan' rounds') (hmade' : plan'.Made catalogs')
    (hparameters : plan'.parameters = plan.parameters) (hcatalogs : catalogs'.Perm catalogs)
    (houtcomes : ∀ catalog, catalogOutcomes rounds' catalog = catalogOutcomes rounds catalog)
    {aggregates aggregates' : List CatalogAggregate} {ranking ranking' : ContentionRanking}
    {classification classification' : SweepClassification}
    (heq : aggregateContention plan rounds = .ok (aggregates, ranking, classification))
    (heq' : aggregateContention plan' rounds' = .ok (aggregates', ranking', classification')) :
    ranking'.ranked = ranking.ranked := by
  obtain ⟨first, _, _, _, hok, hfirst, hmap, haggregated, hranked, -⟩ :=
    h.aggregateContention_eq hmade
  obtain ⟨first', _, _, _, hok', hfirst', hmap', -, hranked', -⟩ := h'.aggregateContention_eq hmade'
  cases hok.symm.trans heq
  cases hok'.symm.trans heq'
  have hsame : aggregateCatalog plan' rounds' = aggregateCatalog plan rounds :=
    funext fun run => aggregateCatalog_congr hparameters (houtcomes run.catalog)
  rw [hsame] at hmap'
  rw [hranked, hranked']
  refine congrArg rankedEntries (Distinguishes.sortBy_eq ?_ ?_).symm
  · exact distinguishes_rankable haggregated ((hfirst.map _).nodup_iff.mpr hmade.distinct)
  · have hperm : first.Perm first' := hfirst.trans (hcatalogs.symm.trans hfirst'.symm)
    exact (except_mapM_perm hperm hmap hmap').filterMap _

end Sweep

/-- **The ranking of a sweep.** The rounds of a complete sweep are aggregated without an error.
Every scheduled catalog has one entry; it is ranked exactly if all its rounds passed; the ranked
entries come first, in the order of their medians; and the sweep passes exactly if all are ranked.
For the same outcomes another order of the adapters in the profile gives the same ranks. -/
theorem aggregateContention_ranks {crates : PolicyCrates} {profile : Profile} {scenario : Scenario}
    {plan : ContentionPlan} {rounds : List CatalogRoundTranscript}
    (hprofile : profile.collectIssues crates.toCrates "$" = [])
    (hplan : ContentionPlan.fromContracts crates profile scenario = .ok plan)
    (hrounds : Complete crates.toCrates plan rounds) :
    ∃ aggregates ranking classification,
      aggregateContention plan rounds = .ok (aggregates, ranking, classification) ∧
      RankingLaw plan rounds ranking classification ∧
      ∀ (adapters : List CatalogAdapter) (plan' : ContentionPlan)
        (rounds' : List CatalogRoundTranscript), adapters.Perm profile.catalogAdapters →
        ContentionPlan.fromContracts crates { profile with catalogAdapters := adapters } scenario =
          .ok plan' →
        Complete crates.toCrates plan' rounds' →
        (∀ catalog, catalogOutcomes rounds' catalog = catalogOutcomes rounds catalog) →
        ∃ aggregates' ranking' classification',
          aggregateContention plan' rounds' = .ok (aggregates', ranking', classification') ∧
          ranking'.ranked = ranking.ranked := by
  obtain ⟨catalogs, -, hmade⟩ := ContentionPlan.fromContracts_made hprofile hplan
  obtain ⟨first, aggregates, ranking, classification, hok, -, -, -, -, hlaw⟩ :=
    hrounds.aggregateContention_eq hmade
  refine ⟨aggregates, ranking, classification, hok, hlaw, ?_⟩
  intro adapters plan' rounds' hperm hplan' hrounds' houtcomes
  obtain ⟨catalogs, catalogs', hmade, hmade', hcatalogs, hparameters⟩ :=
    ContentionPlan.fromContracts_reordered hprofile hperm hplan hplan'
  obtain ⟨first', aggregates', ranking', classification', hok', -, -, -, -, -⟩ :=
    hrounds'.aggregateContention_eq hmade'
  exact ⟨aggregates', ranking', classification', hok',
    ranked_congr hrounds hmade hrounds' hmade' hparameters hcatalogs houtcomes hok hok'⟩

/-- Every call is answered, but no writer gets to start. -/
def idleAnswer (tr : RoundTrace) : (c : RoundCall) → c.Reply × RoundTrace
  | .port method => (sampleReply tr method, tr ++ [⟨method, sampleReply tr method⟩])
  | .now => (tr.length, tr)
  | .concurrentPhase _ => (.error .deadlineOverflow, tr)

theorem roundStep_idle (config : RoundExecutionConfig) (tr : RoundTrace) (c : RoundCall) :
    roundStep sweepCrates.toCrates config tr c (idleAnswer tr c).1 (idleAnswer tr c).2 := by
  cases c with
  | port method => rfl
  | now => rfl
  | concurrentPhase tableUuid => exact ⟨[], (List.append_nil tr).symm, .deadlineOverflow⟩

def sweepConfig (turn : ScheduledTurn) : RoundExecutionConfig where
  catalog := turn.catalog.catalog
  repetition := turn.round.repetition
  kind := turn.round.kind
  fixture := ⟨"run1", "namespace", "same_table_contention"⟩
  workload := ⟨1, 1, 1, 1, "commit-id"⟩
  objectStoreBucket := "warehouse"

/-- One catalog cannot be reached, the others answer. -/
def sweepRound (turn : ScheduledTurn) : CatalogRoundTranscript where
  repetition := turn.round.repetition
  kind := turn.round.kind
  position := turn.position + 1
  catalog := turn.catalog
  negotiation :=
    { adapter := ⟨turn.catalog.catalog, turn.catalog.name, turn.catalog.version, .icebergRestV1,
        .protocolNative⟩
      authentication := ⟨"anonymous", .ready, none, none, none⟩
      config := ⟨⟨"GET", "http://catalog:8181/v1/config", ∅⟩, none, .unprefixed,
        .notEvaluated "config response has no captured JSON body", none⟩
      redactions := [] }
  outcome :=
    if turn.catalog.catalog = "nessie" then
      .negotiationFailed ⟨.config, "no config response was received"⟩
    else
      .executed ((runContentionRound sweepCrates.toCrates (sweepConfig turn) none).exec idleAnswer
        []).1

theorem sweepRounds_complete :
    Complete sweepCrates.toCrates sweepPlan (sweepPlan.turns.map sweepRound) := by
  refine List.forall₂_map_right_iff.mpr (List.forall₂_same.mpr fun turn _ => ?_)
  refine ⟨rfl, rfl, rfl, rfl, fun execution hexecuted => ?_⟩
  dsimp only [sweepRound] at hexecuted
  split at hexecuted
  · cases hexecuted
  · obtain rfl := CatalogRoundOutcome.executed.inj hexecuted
    exact ⟨sweepConfig turn, none, _, rfl, rfl, rfl,
      Prog.run_exec idleAnswer (roundStep_idle (sweepConfig turn)) _ _⟩

theorem aggregateContention_ranks_sweep :
    ∃ aggregates ranking classification,
      aggregateContention sweepPlan (sweepPlan.turns.map sweepRound) =
        .ok (aggregates, ranking, classification) ∧
      RankingLaw sweepPlan (sweepPlan.turns.map sweepRound) ranking classification := by
  obtain ⟨aggregates, ranking, classification, hok, hlaw, -⟩ :=
    aggregateContention_ranks sweepProfile_valid sweepPlan_eq sweepRounds_complete
  exact ⟨aggregates, ranking, classification, hok, hlaw⟩

end CatalogBench.Commit
