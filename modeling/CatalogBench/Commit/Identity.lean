import CatalogBench.Commit.RoundTrace
import CatalogBench.Commit.Schedule
import CatalogBench.Library.Decimal
import Mathlib.Order.CompletePartialOrder

/-!
# Request identities

The identity of a request is a text of slashed segments: the catalog, the fixture id, the
repetition, the phase, in the concurrent phase the writer, and the number of the request. The
catalog and the fixture id may hold slashes themselves, so the text is read from the right.
-/

set_option linter.all false

namespace CatalogBench.Commit
open MachineInt Interaction Interaction.Prog CatalogBench.Contract Decimal

-- ════════════════════════════════
-- Labels
-- ════════════════════════════════

/-- What tells the requests of a round apart. -/
inductive RequestLabel
  | warmup (sequence : ℕ)
  | sequential (sequence : ℕ)
  | concurrent (writer sequence : ℕ)
  deriving DecidableEq

/-- What the identities of a round start with. -/
def requestRoot (config : RoundExecutionConfig) : String :=
  config.catalog ++ "/" ++ config.fixture.id ++ "/" ++ toString config.repetition

namespace RequestLabel

def text (config : RoundExecutionConfig) : RequestLabel → String
  | warmup sequence => requestRoot config ++ "/" ++ "warmup" ++ "/" ++ toString sequence
  | sequential sequence => requestRoot config ++ "/" ++ "sequential" ++ "/" ++ toString sequence
  | concurrent writer sequence =>
    requestRoot config ++ "/" ++ "concurrent" ++ "/" ++ toString writer ++ "/" ++ toString sequence

theorem isEmpty_text (config : RoundExecutionConfig) (label : RequestLabel) :
    (label.text config).isEmpty = false := by
  cases label <;> simp [text]

/-- The identity of the request with this label. -/
def identity (config : RoundExecutionConfig) (label : RequestLabel) : RequestIdentity :=
  ⟨label.text config, label.isEmpty_text config⟩

end RequestLabel

theorem RequestIdentity.eq_of_value {identity identity' : RequestIdentity}
    (h : identity.value = identity'.value) : identity = identity' := by
  cases identity
  cases identity'
  cases h
  rfl

section Values

variable {config config' : RoundExecutionConfig} {phase : String} {sequence : ℕ}
  {identity : RequestIdentity}

theorem requestIdentity_serial (h : requestIdentity config phase none sequence = .ok identity) :
    identity.value = requestRoot config ++ "/" ++ phase ++ "/" ++ toString sequence := by
  unfold requestIdentity RequestIdentity.new at h
  dsimp only at h
  split_ifs at h
  · cases h
    simp [requestRoot]
  · cases h

theorem requestIdentity_writer {writer : ℕ}
    (h : requestIdentity config phase (some writer) sequence = .ok identity) :
    identity.value =
      requestRoot config ++ "/" ++ phase ++ "/" ++ toString writer ++ "/" ++ toString sequence := by
  unfold requestIdentity RequestIdentity.new at h
  dsimp only at h
  split_ifs at h
  · cases h
    simp [requestRoot, String.append_assoc]
  · cases h

/-- A text without digits is no number. -/
theorem toString_ne {text : String} {c : Char} (hc : c ∈ text.toList) (hdigit : c.isDigit = false)
    (n : ℕ) : toString n ≠ text := by
  rintro rfl
  rw [isDigit_of_mem_toString hc] at hdigit
  cases hdigit

/-- With the fixture id the text determines the catalog and the repetition. -/
theorem requestRoot_inj (hid : config.fixture.id = config'.fixture.id)
    (h : requestRoot config = requestRoot config') :
    config.catalog = config'.catalog ∧ config.repetition = config'.repetition := by
  obtain ⟨hfront, hrepetition⟩ := slash_number_inj h
  refine ⟨?_, hrepetition⟩
  rw [hid, String.append_left_inj, String.append_left_inj] at hfront
  exact hfront

/-- The text of a label determines where it starts and the label. -/
theorem RequestLabel.text_inj {label label' : RequestLabel}
    (h : label.text config = label'.text config') :
    requestRoot config = requestRoot config' ∧ label = label' := by
  have hwarmup : '/' ∉ "warmup".toList := by decide
  have hsequential : '/' ∉ "sequential".toList := by decide
  have hconcurrent : '/' ∉ "concurrent".toList := by decide
  cases label with
  | warmup sequence =>
    cases label' with
    | warmup sequence' =>
      obtain ⟨hphase, rfl⟩ := slash_number_inj h
      exact ⟨(slash_segment_inj hwarmup hwarmup hphase).1, rfl⟩
    | sequential sequence' =>
      obtain ⟨hphase, -⟩ := slash_number_inj h
      exact absurd (slash_segment_inj hwarmup hsequential hphase).2 (by decide)
    | concurrent writer' sequence' =>
      obtain ⟨hphase, -⟩ := slash_number_inj h
      have hwriter := (slash_segment_inj hwarmup (slash_notMem_toString writer') hphase).2
      exact absurd hwriter.symm (toString_ne (c := 'w') (by decide) (by decide) writer')
  | sequential sequence =>
    cases label' with
    | warmup sequence' =>
      obtain ⟨hphase, -⟩ := slash_number_inj h
      exact absurd (slash_segment_inj hsequential hwarmup hphase).2 (by decide)
    | sequential sequence' =>
      obtain ⟨hphase, rfl⟩ := slash_number_inj h
      exact ⟨(slash_segment_inj hsequential hsequential hphase).1, rfl⟩
    | concurrent writer' sequence' =>
      obtain ⟨hphase, -⟩ := slash_number_inj h
      have hwriter := (slash_segment_inj hsequential (slash_notMem_toString writer') hphase).2
      exact absurd hwriter.symm (toString_ne (c := 's') (by decide) (by decide) writer')
  | concurrent writer sequence =>
    cases label' with
    | warmup sequence' =>
      obtain ⟨hphase, -⟩ := slash_number_inj h
      have hwriter := (slash_segment_inj (slash_notMem_toString writer) hwarmup hphase).2
      exact absurd hwriter (toString_ne (c := 'w') (by decide) (by decide) writer)
    | sequential sequence' =>
      obtain ⟨hphase, -⟩ := slash_number_inj h
      have hwriter := (slash_segment_inj (slash_notMem_toString writer) hsequential hphase).2
      exact absurd hwriter (toString_ne (c := 's') (by decide) (by decide) writer)
    | concurrent writer' sequence' =>
      obtain ⟨hphase, rfl⟩ := slash_number_inj h
      obtain ⟨hwriter, rfl⟩ := slash_number_inj hphase
      exact ⟨(slash_segment_inj hconcurrent hconcurrent hwriter).1, rfl⟩

/-- The requests of a round are told apart by their identities. -/
theorem RequestLabel.identity_injective (config : RoundExecutionConfig) :
    Function.Injective (RequestLabel.identity config) := fun _ _ h =>
  (text_inj (congrArg RequestIdentity.value h)).2

/-- Rounds with one fixture id that differ in their catalog or repetition share no identity. -/
theorem disjoint_identities (hid : config.fixture.id = config'.fixture.id)
    (hne : (config.catalog, config.repetition) ≠ (config'.catalog, config'.repetition)) :
    Disjoint (Set.range (RequestLabel.identity config))
      (Set.range (RequestLabel.identity config')) := by
  rw [Set.disjoint_range_iff]
  intro label label' h
  obtain ⟨hroot, -⟩ := RequestLabel.text_inj (congrArg RequestIdentity.value h)
  obtain ⟨hcatalog, hrepetition⟩ := requestRoot_inj hid hroot
  exact hne (by rw [hcatalog, hrepetition])

end Values

-- ════════════════════════════════
-- One round
-- ════════════════════════════════

section Round

variable {crates : Crates} {config : RoundExecutionConfig}

theorem requestIdentity_ok (config : RoundExecutionConfig) (phase : String) (writer : Option ℕ)
    (sequence : ℕ) : ∃ identity, requestIdentity config phase writer sequence = .ok identity := by
  unfold requestIdentity RequestIdentity.new
  dsimp only
  rw [dif_pos (by simp)]
  exact ⟨_, rfl⟩

/-- A phase, and in it a writer, never takes one identity for two numbers. -/
theorem requestIdentity_inj {phase : String} {writer : Option ℕ} {sequence sequence' : ℕ}
    (h : requestIdentity config phase writer sequence =
      requestIdentity config phase writer sequence') : sequence = sequence' := by
  obtain ⟨identity, hidentity⟩ := requestIdentity_ok config phase writer sequence
  rw [hidentity] at h
  cases writer with
  | none =>
    exact (slash_number_inj
      ((requestIdentity_serial hidentity).symm.trans (requestIdentity_serial h.symm))).2
  | some writer =>
    exact (slash_number_inj
      ((requestIdentity_writer hidentity).symm.trans (requestIdentity_writer h.symm))).2

/-- Records with gapless numbers have distinct identities. -/
theorem NumberedFrom.nodup {phase : String} {writer : Option ℕ} {first : ℕ}
    {records : List RequestRecord} (h : NumberedFrom config phase writer first records) :
    (records.map (·.identity)).Nodup := by
  refine List.Nodup.of_map (Except.ok (ε := WorkflowError)) ?_
  rw [List.map_map]
  have hnumbers := (List.nodup_range' (s := first) (n := records.length)).map
    (f := requestIdentity config phase writer) fun _ _ heq => requestIdentity_inj heq
  rwa [← h] at hnumbers

/-- The identity of a warm-up, sequential or concurrent request. -/
theorem identity_warmup {sequence : ℕ} {identity : RequestIdentity}
    (h : requestIdentity config "warmup" none sequence = .ok identity) :
    RequestLabel.identity config (.warmup sequence) = identity :=
  RequestIdentity.eq_of_value (requestIdentity_serial h).symm

theorem identity_sequential {sequence : ℕ} {identity : RequestIdentity}
    (h : requestIdentity config "sequential" none sequence = .ok identity) :
    RequestLabel.identity config (.sequential sequence) = identity :=
  RequestIdentity.eq_of_value (requestIdentity_serial h).symm

theorem identity_concurrent {writer sequence : ℕ} {identity : RequestIdentity}
    (h : requestIdentity config "concurrent" (some writer) sequence = .ok identity) :
    RequestLabel.identity config (.concurrent writer sequence) = identity :=
  RequestIdentity.eq_of_value (requestIdentity_writer h).symm

/-- Every identity of the writers is that of a concurrent request. -/
theorem WritersNumbered.labels {writers : List (List RequestRecord)}
    (h : WritersNumbered config writers) {writer : ℕ} {records : List RequestRecord}
    (hrecords : writers[writer]? = some records) {identity : RequestIdentity}
    (hmem : identity ∈ records.map (·.identity)) :
    ∃ sequence, RequestLabel.identity config (.concurrent writer sequence) = identity := by
  obtain ⟨record, hrecord, rfl⟩ := List.mem_map.mp hmem
  obtain ⟨sequence, hsequence⟩ := (h writer records hrecords).issued record hrecord
  exact ⟨sequence, identity_concurrent hsequence⟩

/-- Writers that number their commits never share an identity. -/
theorem WritersNumbered.nodup {writers : List (List RequestRecord)}
    (h : WritersNumbered config writers) : (writers.flatten.map (·.identity)).Nodup := by
  rw [List.map_flatten, List.nodup_flatten, List.pairwise_map, List.pairwise_iff_getElem]
  refine ⟨?_, fun i j hi hj hij => ?_⟩
  · rw [List.forall_mem_map]
    intro records hmem
    obtain ⟨writer, hlt, rfl⟩ := List.mem_iff_getElem.mp hmem
    exact (h writer _ (List.getElem?_eq_getElem hlt)).nodup
  · intro identity hleft hright
    obtain ⟨sequence, rfl⟩ := h.labels (List.getElem?_eq_getElem hi) hleft
    obtain ⟨sequence', heq⟩ := h.labels (List.getElem?_eq_getElem hj) hright
    have hlabels := RequestLabel.identity_injective config heq
    injection hlabels with hwriters
    omega

/-- The identities of a round are distinct, and each is that of a label. -/
theorem IssuedByPhases.nodup {calls : RoundTrace} {execution : RoundExecution}
    (h : IssuedByPhases crates config calls execution) :
    (issuedIdentities calls).Nodup ∧
      ∀ identity ∈ issuedIdentities calls, identity ∈ Set.range (RequestLabel.identity config) := by
  obtain ⟨warmup, sequential, concurrent, writers, hissued, hwarmup, hsequential, hperm, hwriters⟩ :=
    h.identities
  have hw : ∀ identity ∈ warmup.map (·.identity), ∃ sequence,
      RequestLabel.identity config (.warmup sequence) = identity := by
    rw [List.forall_mem_map]
    intro record hmem
    obtain ⟨sequence, hsequence⟩ := NumberedFrom.issued hwarmup record hmem
    exact ⟨sequence, identity_warmup hsequence⟩
  have hs : ∀ identity ∈ sequential.map (·.identity), ∃ sequence,
      RequestLabel.identity config (.sequential sequence) = identity := by
    rw [List.forall_mem_map]
    intro record hmem
    obtain ⟨sequence, hsequence⟩ := NumberedFrom.issued hsequential record hmem
    exact ⟨sequence, identity_sequential hsequence⟩
  have hc : ∀ identity ∈ concurrent.map (·.identity), ∃ writer sequence,
      RequestLabel.identity config (.concurrent writer sequence) = identity := by
    rw [List.forall_mem_map]
    intro record hmem
    obtain ⟨records, hrecords, hrecord⟩ := List.mem_flatten.mp (hperm.mem_iff.mp hmem)
    obtain ⟨writer, hlt, rfl⟩ := List.mem_iff_getElem.mp hrecords
    exact ⟨writer, hwriters.labels (List.getElem?_eq_getElem hlt) (List.mem_map_of_mem hrecord)⟩
  rw [hissued, List.map_append, List.map_append]
  refine ⟨?_, fun identity hmem => ?_⟩
  · refine (List.nodup_append.mpr ⟨List.nodup_append.mpr ⟨NumberedFrom.nodup hwarmup,
      NumberedFrom.nodup hsequential, ?_⟩, (hperm.map _).nodup_iff.mpr hwriters.nodup, ?_⟩)
    · rintro _ hleft _ hright rfl
      obtain ⟨sequence, rfl⟩ := hw _ hleft
      obtain ⟨sequence', heq⟩ := hs _ hright
      exact nomatch RequestLabel.identity_injective config heq
    · rintro _ hleft _ hright rfl
      obtain ⟨writer, sequence, rfl⟩ := hc _ hright
      rcases List.mem_append.mp hleft with hleft | hleft
      · obtain ⟨sequence', heq⟩ := hw _ hleft
        exact nomatch RequestLabel.identity_injective config heq
      · obtain ⟨sequence', heq⟩ := hs _ hleft
        exact nomatch RequestLabel.identity_injective config heq
  · rcases List.mem_append.mp hmem with hmem | hmem
    · rcases List.mem_append.mp hmem with hmem | hmem
      · obtain ⟨sequence, rfl⟩ := hw _ hmem
        exact ⟨_, rfl⟩
      · obtain ⟨sequence, rfl⟩ := hs _ hmem
        exact ⟨_, rfl⟩
    · obtain ⟨writer, sequence, rfl⟩ := hc _ hmem
      exact ⟨_, rfl⟩

/-- What a run of a round issues, phase by phase. -/
theorem runContentionRound_issued {requestedLocation : Option String} {execution : RoundExecution}
    {tr : RoundTrace}
    (h : (runContentionRound crates config requestedLocation).Run (roundStep crates config) []
      execution tr) : IssuedByPhases crates config tr execution := by
  obtain ⟨failure, rfl, rfl⟩ | ⟨observation, -, rfl, rfl⟩ |
      ⟨observation, calls, gathered, -, -, hissued, replies, rfl, rfl⟩ :=
    runContentionRound_cases h
  · exact .of_none rfl rfl rfl rfl
  · exact .of_none rfl rfl rfl rfl
  · exact {
      identities := by
        simpa [issuedIdentities, CleanupReplies.calls] using hissued.identities
      duplicate := by
        simpa [issuedIdentities, CleanupReplies.calls, RoundExecution.finalize] using
          hissued.duplicate }

/-- The digests tell the identities of a trace apart. -/
def DigestsDistinguish (crates : Crates) (tr : RoundTrace) : Prop :=
  Set.InjOn (RequestIdentity.digest crates) { identity | identity ∈ issuedIdentities tr }

theorem DigestsDistinguish.nodup {tr : RoundTrace} (h : DigestsDistinguish crates tr)
    (hnodup : (issuedIdentities tr).Nodup) :
    ((issuedIdentities tr).map (RequestIdentity.digest crates)).Nodup :=
  List.Nodup.map_on (fun _ hleft _ hright heq => h hleft hright heq) hnodup

/-- No phase of a round reports a duplicate. -/
theorem IssuedByPhases.never_duplicate {tr : RoundTrace} {execution : RoundExecution}
    (h : IssuedByPhases crates config tr execution) (hdigests : DigestsDistinguish crates tr) :
    execution.warmup ≠ duplicateReported ∧ execution.sequential ≠ duplicateReported ∧
      execution.concurrent ≠ duplicateReported := by
  have hnodup := hdigests.nodup h.nodup.1
  refine ⟨fun hreported => ?_, fun hreported => ?_, fun hreported => ?_⟩
  · exact h.duplicate (.inl hreported) hnodup
  · exact h.duplicate (.inr (.inl hreported)) hnodup
  · exact h.duplicate (.inr (.inr hreported)) hnodup

/-- Recording never fails on a duplicate in a serial phase. -/
theorem runSerialPhase_never_duplicate {phase tableUuid : String} {attempts : ℕ}
    {result : Except WorkflowError (PhaseEvidence × AcceptedRequests)} {tr : RoundTrace}
    (h : (runSerialPhase crates config phase tableUuid attempts).Run (roundStep crates config) []
      result tr) (hdigests : DigestsDistinguish crates tr) :
    result ≠ .error (.model .duplicateRequestIdentity) := by
  obtain ⟨records, rfl, hnumbered, -, herror⟩ :=
    runSerialPhase_run (records_roundStep crates config) h
  rintro rfl
  refine herror _ rfl (isDuplicate_model.mpr rfl) ?_
  have hnodup := hdigests.nodup (by simpa using NumberedFrom.nodup hnumbered)
  simpa [Function.comp_def] using hnodup

/-- Recording never fails on a duplicate in a writer, and merging never does, in whatever order
the writers are joined. -/
theorem writers_never_duplicate {tableUuid : String} {deadline : Duration}
    {results order : List (Except WorkflowError RequestLedger)} {traces : List RoundTrace}
    {calls : RoundTrace} (hlength : results.length = traces.length)
    (hwriters : ∀ writer result trace, results[writer]? = some result →
      traces[writer]? = some trace →
      WriterRun crates config tableUuid deadline writer result trace)
    (horder : order.Perm results) (hcalls : Interleaving traces calls)
    (hdigests : DigestsDistinguish crates calls) :
    (∀ result ∈ results, result ≠ .error (.model .duplicateRequestIdentity)) ∧
      ∀ joined ledger rest, order = joined ++ .ok ledger :: rest →
        ((joinWriters joined).1.tryMerge ledger).1 ≠ .error .duplicateRequestIdentity := by
  obtain ⟨writers, hrecorded, rfl, hnumbered⟩ := writers_records hlength hwriters
  obtain ⟨ordered, hordered, hperm⟩ := List.perm_comp_forall₂ horder hrecorded
  have hissued : (issuedIdentities calls).Perm (writers.flatten.map (·.identity)) := by
    have hcommits : issuedIdentities (writers.map (commitCalls config tableUuid)).flatten =
        writers.flatten.map (·.identity) := by
      rw [← issuedIdentities_commitCalls config tableUuid, commitCalls, List.map_flatten]
      rfl
    rw [← hcommits]
    exact hcalls.perm.filterMap _
  have hnodup : (writers.flatten.map (·.identity.digest crates)).Nodup := by
    have hdistinct := hdigests.nodup (hissued.nodup_iff.mpr hnumbered.nodup)
    rw [(hissued.map _).nodup_iff, List.map_map] at hdistinct
    exact hdistinct
  refine ⟨fun result hmem => ?_, ?_⟩
  · rintro rfl
    obtain ⟨writer, hlt, hresult⟩ := List.mem_iff_getElem.mp hmem
    have hlt' := hrecorded.length_eq ▸ hlt
    have hwriter := hrecorded.get hlt hlt'
    have hsublist := List.sublist_flatten_of_mem (List.getElem_mem hlt')
    refine (hwriter [] (.default crates)).2 _ hresult (isDuplicate_model.mpr rfl) ?_
    exact hnodup.sublist (hsublist.map _)
  · refine (foldl_joinWriter_duplicate (.default crates) hordered ?_).2
    exact (hperm.flatten.map _).nodup_iff.mpr hnodup

end Round

-- ════════════════════════════════
-- A sweep
-- ════════════════════════════════

/-- The turns of a schedule, each with its repetition. -/
def turns (rounds : List RoundPlan) : List (ℕ × CatalogRun) :=
  rounds.flatMap fun round => round.catalogs.map fun run => (round.repetition, run)

/-- The round that is executed in a turn. -/
def ExecutesTurn (config : RoundExecutionConfig) (turn : ℕ × CatalogRun) : Prop :=
  config.repetition = turn.1 ∧ config.catalog = turn.2.catalog

/-- Every catalog has one turn in a repetition. -/
theorem pairwise_turns {catalogs : List CatalogRun} {policy : RoundPolicy} {rounds : List RoundPlan}
    (hids : (catalogs.map (·.catalog)).Nodup)
    (hrounds : scheduleRounds catalogs policy = .ok rounds) :
    (turns rounds).Pairwise fun turn turn' =>
      (turn.2.catalog, turn.1) ≠ (turn'.2.catalog, turn'.1) := by
  obtain ⟨-, -, rfl⟩ := scheduleRounds_eq_ok.mp hrounds
  rw [turns, List.flatMap_map, List.pairwise_flatMap]
  refine ⟨fun index _ => ?_, ?_⟩
  · rw [List.pairwise_map]
    have hperm := (@scheduledRound_perm catalogs policy index).map
      (·.catalog)
    refine (List.pairwise_map.mp (hperm.nodup_iff.mpr hids)).imp fun hne heq => ?_
    exact hne (Prod.mk.inj heq).1
  · refine (List.nodup_range (n := policy.conditioningRounds + policy.measuredRounds)).imp ?_
    intro index index' hne turn hturn turn' hturn' heq
    obtain ⟨run, -, rfl⟩ := List.mem_map.mp hturn
    obtain ⟨run', -, rfl⟩ := List.mem_map.mp hturn'
    exact hne (Nat.succ.inj (Prod.mk.inj heq).2)

/-- Different turns of a schedule share no identity under one fixture id. -/
theorem disjoint_turns {catalogs : List CatalogRun} {policy : RoundPolicy} {rounds : List RoundPlan}
    (hids : (catalogs.map (·.catalog)).Nodup)
    (hrounds : scheduleRounds catalogs policy = .ok rounds) :
    (turns rounds).Pairwise fun turn turn' => ∀ config config' : RoundExecutionConfig,
      ExecutesTurn config turn → ExecutesTurn config' turn' →
      config.fixture.id = config'.fixture.id →
      Disjoint (Set.range (RequestLabel.identity config))
        (Set.range (RequestLabel.identity config')) := by
  refine (pairwise_turns hids hrounds).imp fun hne config config' hturn hturn' hid => ?_
  refine disjoint_identities hid ?_
  rwa [hturn.1, hturn.2, hturn'.1, hturn'.2]

/-- **Request identities never collide.** The labels of a round have distinct identities, and so
have the commits of every run of it. As long as digests tell these apart, no phase reports a
duplicate: recording and merging never find one. The rounds of a sweep share no identity. -/
theorem requestIdentities_unique (crates : Crates) (config : RoundExecutionConfig) :
    Function.Injective (RequestLabel.identity config) ∧
    (∀ requestedLocation execution tr,
      (runContentionRound crates config requestedLocation).Run (roundStep crates config) []
        execution tr →
      (issuedIdentities tr).Nodup ∧
      (∀ identity ∈ issuedIdentities tr, identity ∈ Set.range (RequestLabel.identity config)) ∧
      (DigestsDistinguish crates tr → execution.warmup ≠ duplicateReported ∧
        execution.sequential ≠ duplicateReported ∧ execution.concurrent ≠ duplicateReported)) ∧
    (∀ phase tableUuid attempts result tr,
      (runSerialPhase crates config phase tableUuid attempts).Run (roundStep crates config) [] result
        tr →
      DigestsDistinguish crates tr → result ≠ .error (.model .duplicateRequestIdentity)) ∧
    (∀ tableUuid deadline results traces order calls, results.length = traces.length →
      (∀ writer result trace, results[writer]? = some result → traces[writer]? = some trace →
        WriterRun crates config tableUuid deadline writer result trace) →
      order.Perm results → Interleaving traces calls → DigestsDistinguish crates calls →
      (∀ result ∈ results, result ≠ .error (.model .duplicateRequestIdentity)) ∧
        ∀ joined ledger rest, order = joined ++ .ok ledger :: rest →
          ((joinWriters joined).1.tryMerge ledger).1 ≠ .error .duplicateRequestIdentity) ∧
    ∀ catalogs policy rounds, (catalogs.map CatalogRun.catalog).Nodup →
      scheduleRounds catalogs policy = .ok rounds →
      (turns rounds).Pairwise fun turn turn' => ∀ config config' : RoundExecutionConfig,
        ExecutesTurn config turn → ExecutesTurn config' turn' →
        config.fixture.id = config'.fixture.id →
        Disjoint (Set.range (RequestLabel.identity config))
          (Set.range (RequestLabel.identity config')) := by
  refine ⟨RequestLabel.identity_injective config, fun requestedLocation execution tr hrun => ?_,
    fun _ _ _ _ _ hrun hdigests => runSerialPhase_never_duplicate hrun hdigests,
    fun _ _ _ _ _ _ hlength hwriters horder hcalls hdigests =>
      writers_never_duplicate hlength hwriters horder hcalls hdigests,
    fun _ _ _ hids hrounds => disjoint_turns hids hrounds⟩
  have hissued := runContentionRound_issued hrun
  exact ⟨hissued.nodup.1, hissued.nodup.2, hissued.never_duplicate⟩

/-- The three commits of the sample round, and two catalogs whose ids hold slashes. -/
theorem requestIdentities_unique_sample :
    (issuedIdentities sampleRun.2).length = 3 ∧ (issuedIdentities sampleRun.2).Nodup ∧
      sampleRun.1.concurrent ≠ duplicateReported ∧
      ∃ rounds, scheduleRounds [⟨"a/b", "A", "1"⟩, ⟨"a/b/1", "B", "1"⟩]
          ⟨1, 2, .rotateLeft, .medianWithMinMax, true⟩ = .ok rounds ∧
        (turns rounds).Pairwise fun turn turn' => ∀ config config' : RoundExecutionConfig,
          ExecutesTurn config turn → ExecutesTurn config' turn' →
          config.fixture.id = config'.fixture.id →
          Disjoint (Set.range (RequestLabel.identity config))
            (Set.range (RequestLabel.identity config')) := by
  obtain ⟨-, hround, -, -, hsweep⟩ := requestIdentities_unique sampleCrates sampleConfig
  obtain ⟨hnodup, -, hnever⟩ := hround none _ _ sampleRun_run
  have hdigests : DigestsDistinguish sampleCrates sampleRun.2 := by
    have hall : ∀ a ∈ issuedIdentities sampleRun.2, ∀ b ∈ issuedIdentities sampleRun.2,
        a.digest sampleCrates = b.digest sampleCrates → a = b := by decide +kernel
    exact fun a ha b hb => hall a ha b hb
  have hrounds := (@scheduleRounds_eq_ok [⟨"a/b", "A", "1"⟩, ⟨"a/b/1", "B", "1"⟩]
    ⟨1, 2, .rotateLeft, .medianWithMinMax, true⟩ _).mpr ⟨by decide, by decide, rfl⟩
  exact ⟨by decide +kernel, hnodup, (hnever hdigests).2.2, _, hrounds,
    hsweep _ _ _ (by decide) hrounds⟩

end CatalogBench.Commit
