import CatalogBench.Commit.RoundTrace

/-!
# What a passed round stands for

The verdict is computed from booleans over evidence. Here each of them is traced back to the
calls and replies it came from.
-/

set_option linter.all false

namespace CatalogBench.Commit
open MachineInt Interaction Interaction.Prog

/-- The texts of one call whose digests a round compares: the identity it issued or the property
of the table it loaded. -/
def hashedTexts (config : RoundExecutionConfig) : Answered PortCall PortCall.Reply → List String
  | ⟨.commit _ _ identity, _⟩ => [identity.value]
  | ⟨.loadTable, .ok final⟩ => final.properties[config.workload.commitProperty]?.toList
  | _ => []

/-- The trace of a round that may pass: what was called, what was replied and how the replies
fit together. -/
structure PassedRound (crates : Crates) (config : RoundExecutionConfig) (tr : RoundTrace) where
  observation : PresenceObservation
  receipt : MutationReceipt
  created : TableSnapshot
  root : TableRoot
  baseline : ObjectAuditSnapshot
  warmup : List RequestRecord
  sequential : List RequestRecord
  concurrent : List RequestRecord
  final : TableSnapshot
  audit : ObjectAuditSnapshot
  replies : CleanupReplies
  trace : tr = ⟨.namespacePresence, .ok observation⟩ :: ⟨.createNamespace, .ok receipt⟩ ::
    ⟨.createTable, .ok created⟩ :: ⟨.audit root created.metadataLocation, .ok baseline⟩ ::
    (commitCalls config created.tableUuid (warmup ++ sequential ++ concurrent) ++
      ⟨.loadTable, .ok final⟩ :: ⟨.audit root final.metadataLocation, .ok audit⟩ :: replies.calls)
  root_new : TableRoot.new crates created.location created.metadataLocation
    config.objectStoreBucket = .ok root
  preflight_absent : observation.presence = .absent
  warmup_issued : SerialIdentities config "warmup" warmup
  warmup_length : warmup.length = config.workload.warmupCommits
  warmup_accepted : ∀ record ∈ warmup, record.outcome = .accepted
  sequential_issued : SerialIdentities config "sequential" sequential
  sequential_length : sequential.length = config.workload.sequentialCommits
  sequential_accepted : ∀ record ∈ sequential, record.outcome = .accepted
  concurrent_issued : ConcurrentIdentities config concurrent
  concurrent_no_error : ∀ record ∈ concurrent, ∀ error, record.outcome ≠ .error error
  concurrent_progress : ∃ record ∈ concurrent, record.outcome = .accepted
  final_tableUuid : final.tableUuid = created.tableUuid
  final_location : final.location = created.location
  final_property : ∃ record ∈ warmup ++ sequential ++ concurrent, record.outcome = .accepted ∧
    final.properties[config.workload.commitProperty]? = some record.identity.value
  metadata_growth : baseline.metadataObjects +
    (warmup ++ sequential ++ concurrent).countP (·.outcome.isAccepted) ≤ audit.metadataObjects
  metadata_exists : audit.referencedMetadataExists = true
  metadata_within_root : root.containsMetadataLocation crates final.metadataLocation = true
  table_absent : Observed replies.verifyTableAbsent .absent
  namespace_absent : Observed replies.verifyNamespaceAbsent .absent

section Checks

variable {crates : Crates} {config : RoundExecutionConfig} {records : List RequestRecord}
  {phase : PhaseEvidence}

theorem isAccepted_iff {outcome : RequestOutcome} :
    outcome.isAccepted = true ↔ outcome = .accepted := by
  cases outcome <;> simp [RequestOutcome.isAccepted]

/-- A serial phase is accounted for only if every commit was accepted. -/
theorem accepted_of_serialAccounted {expected : ℕ} (hcounts : phase.counts = recordedCounts records)
    (h : serialAccounted phase expected = true) :
    ∀ record ∈ records, record.outcome = .accepted := by
  unfold serialAccounted at h
  rw [Bool.and_eq_true, decide_eq_true_eq, hcounts] at h
  have hlength : records.length = expected := congrArg RequestCounts.attempts h.1
  have haccepted : records.countP (·.outcome.isAccepted) = expected :=
    congrArg RequestCounts.accepted h.1
  rw [← hlength, List.countP_eq_length] at haccepted
  intro record hmem
  exact isAccepted_iff.mp (haccepted record hmem)

theorem no_error_of_counts (hcounts : phase.counts = recordedCounts records)
    (h : phase.counts.errors = 0) :
    ∀ record ∈ records, ∀ error, record.outcome ≠ .error error := by
  rw [hcounts] at h
  intro record hmem error herror
  have hnone := List.countP_eq_zero.mp h record hmem
  rw [herror] at hnone
  simp [RequestOutcome.error?] at hnone

theorem progress_of_counts (hcounts : phase.counts = recordedCounts records)
    (h : phase.madeProgress = true) : ∃ record ∈ records, record.outcome = .accepted := by
  have hpos : 0 < records.countP (·.outcome.isAccepted) := by
    rw [PhaseEvidence.madeProgress, hcounts] at h
    exact of_decide_eq_true h
  obtain ⟨record, hmem, haccepted⟩ := List.countP_pos_iff.mp hpos
  exact ⟨record, hmem, isAccepted_iff.mp haccepted⟩

theorem foldlM_checkedAdd {counts : List RequestCounts} {start total : ℕ}
    (h : counts.foldlM (fun total counts => checkedAdd 64 total counts.accepted) start =
      some total) : total = start + (counts.map (·.accepted)).sum := by
  induction counts generalizing start with
  | nil => exact (Option.some.inj h).symm
  | cons head counts ih =>
    obtain ⟨next, hnext, hrest⟩ := Option.bind_eq_some_iff.mp h
    obtain ⟨rfl, -⟩ := checkedAdd_eq_some.mp hnext
    rw [ih hrest, List.map_cons, List.sum_cons, Nat.add_assoc]

/-- Sufficient growth covers the accepted commits of every phase. -/
theorem MetadataGrowthEvidence.le_of_sufficient {baseline final : ℕ} {counts : List RequestCounts}
    {growth : MetadataGrowthEvidence} (h : evaluate baseline final counts = .ok growth)
    (hsufficient : growth.sufficient = true) :
    baseline + (counts.map (·.accepted)).sum ≤ final := by
  unfold evaluate at h
  split at h
  · cases h
  next total htotal =>
  obtain rfl := Except.ok.inj h
  rw [Option.any_eq_true] at hsufficient
  obtain ⟨observed, hobserved, hle⟩ := hsufficient
  obtain ⟨hbaseline, hgrowth⟩ := checkedSub_eq_some.mp hobserved
  have hsum := foldlM_checkedAdd htotal
  have hle : total ≤ observed := of_decide_eq_true hle
  omega

/-- The property of the loaded table has the digest of an accepted commit. -/
theorem attributed_of_passed {property : Option String} {accepted : AcceptedRequests}
    {within : Bool} (haccepted : accepted.requests = digests crates (·.isAccepted) records)
    (h : (FinalStateAttribution.evaluate crates property accepted within).passed = true) :
    within = true ∧ ∃ value, property = some value ∧
      ∃ record ∈ records, record.outcome = .accepted ∧
        textDigest crates record.identity.value = textDigest crates value := by
  unfold FinalStateAttribution.passed at h
  rw [Bool.and_eq_true, Bool.and_eq_true] at h
  obtain ⟨⟨-, hbelongs⟩, hwithin⟩ := h
  refine ⟨hwithin, ?_⟩
  have hbelongs : property.any (accepted.containsValue crates) = true := hbelongs
  rw [Option.any_eq_true] at hbelongs
  obtain ⟨value, hvalue, hcontains⟩ := hbelongs
  have hmem : textDigest crates value ∈ accepted.requests := of_decide_eq_true hcontains
  rw [haccepted, digests, List.mem_toFinset, List.mem_map] at hmem
  obtain ⟨record, hrecord, hdigest⟩ := hmem
  obtain ⟨hrecord, houtcome⟩ := List.mem_filter.mp hrecord
  exact ⟨value, hvalue, record, hrecord, isAccepted_iff.mp houtcome, hdigest⟩

theorem finalEvidence_passed {created final : TableSnapshot} {root : TableRoot}
    {accepted : AcceptedRequests}
    (h : (finalEvidence crates config created root accepted final).passed = true) :
    final.tableUuid = created.tableUuid ∧ final.location = created.location ∧
      (finalEvidence crates config created root accepted final).attribution.passed = true := by
  unfold FinalTableEvidence.passed at h
  simp only [Bool.and_eq_true] at h
  obtain ⟨⟨⟨-, huuid⟩, hlocation⟩, hattribution⟩ := h
  exact ⟨of_decide_eq_true huuid, of_decide_eq_true hlocation, hattribution⟩

/-- A growth that was evaluated and found sufficient. -/
theorem growthEvidence_sufficient {execution : RoundExecution} {baseline audit : ObjectAuditSnapshot}
    {w s c : PhaseEvidence}
    (h : (growthEvidence execution baseline).output.any (·.sufficient) = true)
    (hw : execution.warmup = .succeeded w) (hs : execution.sequential = .succeeded s)
    (hc : execution.concurrent = .succeeded c)
    (haudit : execution.finalObjectAudit = .succeeded audit) :
    baseline.metadataObjects + (w.counts.accepted + s.counts.accepted + c.counts.accepted) ≤
      audit.metadataObjects := by
  unfold growthEvidence at h
  rw [hw, hs, hc, haudit] at h
  dsimp only [OperationEvidence.output] at h
  cases hgrowth : MetadataGrowthEvidence.evaluate baseline.metadataObjects audit.metadataObjects
      [w.counts, s.counts, c.counts] with
  | error error =>
    rw [hgrowth] at h
    cases h
  | ok growth =>
    rw [hgrowth] at h
    have hle := MetadataGrowthEvidence.le_of_sufficient hgrowth h
    simpa [Nat.add_assoc] using hle

theorem observed_absent {reply : Except CatalogFailure PresenceObservation}
    (h : (OperationEvidence.ofCatalog reply).output.any (·.presence = .absent) = true) :
    Observed reply .absent := by
  cases reply with
  | error failure => cases h
  | ok observation => exact ⟨observation, rfl, of_decide_eq_true h⟩

theorem cleanup_observed {replies : CleanupReplies} (h : replies.evidence.passed = true) :
    Observed replies.verifyTableAbsent .absent ∧ Observed replies.verifyNamespaceAbsent .absent := by
  unfold CleanupEvidence.passed at h
  simp only [Bool.and_eq_true] at h
  obtain ⟨⟨⟨-, htable⟩, -⟩, hnamespace⟩ := h
  exact ⟨observed_absent htable, observed_absent hnamespace⟩

end Checks

theorem finalize_pass {execution : RoundExecution} {collision : Bool}
    (h : (execution.finalize collision).classification = .pass) :
    collision = false ∧ (evaluateChecks execution).allPassed = true := by
  dsimp only [RoundExecution.finalize] at h
  split_ifs at h with hcollision hchecks
  exact ⟨by simpa using hcollision, hchecks⟩

section Pass

variable {crates : Crates} {config : RoundExecutionConfig} {tr : RoundTrace}

/-- Two texts that were hashed in this round are told apart by their digests. -/
theorem value_of_digest
    (hinjective : Set.InjOn (textDigest crates) { text | text ∈ tr.flatMap (hashedTexts config) })
    {tableUuid property value : String} {identity : RequestIdentity} {outcome : RequestOutcome}
    {final : TableSnapshot} (hissued : ⟨.commit tableUuid property identity, outcome⟩ ∈ tr)
    (hload : ⟨.loadTable, .ok final⟩ ∈ tr)
    (hvalue : final.properties[config.workload.commitProperty]? = some value)
    (hdigest : textDigest crates identity.value = textDigest crates value) :
    identity.value = value := by
  have hleft : identity.value ∈ tr.flatMap (hashedTexts config) :=
    List.mem_flatMap.mpr ⟨_, hissued, List.mem_singleton_self _⟩
  have hright : value ∈ tr.flatMap (hashedTexts config) :=
    List.mem_flatMap.mpr ⟨_, hload, by simp [hashedTexts, hvalue]⟩
  exact hinjective hleft hright hdigest

theorem countP_accepted {warmup sequential concurrent : List RequestRecord} {w s c : PhaseEvidence}
    {attempts attempts' : ℕ} {phase phase' : String}
    (hw : SerialRecorded config phase attempts warmup w)
    (hs : SerialRecorded config phase' attempts' sequential s)
    (hc : ConcurrentRecorded config concurrent c) :
    (warmup ++ sequential ++ concurrent).countP (·.outcome.isAccepted) =
      w.counts.accepted + s.counts.accepted + c.counts.accepted := by
  rw [hw.counts, hs.counts, hc.counts, List.countP_append, List.countP_append]
  rfl

/-- The calls and replies behind a pass. -/
theorem PassedRound.of_run {requestedLocation : Option String} {execution : RoundExecution}
    (h : (runContentionRound crates config requestedLocation).Run (roundStep crates config) []
      execution tr)
    (hpass : execution.classification = .pass)
    (hinjective : Set.InjOn (textDigest crates) { text | text ∈ tr.flatMap (hashedTexts config) }) :
    Nonempty (PassedRound crates config tr) := by
  obtain ⟨failure, -, rfl⟩ | ⟨observation, -, -, rfl⟩ |
      ⟨observation, calls, gathered, habsent, hattempt, -, replies, rfl, rfl⟩ :=
    runContentionRound_cases h
  · -- an unanswered preflight does not count as isolation
    have hchecks := (finalize_pass hpass).2
    cases hchecks
  · cases (finalize_pass hpass).1
  have hchecks := (finalize_pass hpass).2
  simp only [RoundChecks.allPassed, evaluateChecks, Bool.and_eq_true] at hchecks
  obtain ⟨⟨⟨⟨⟨⟨⟨⟨⟨-, hwarmup⟩, hsequential⟩, -⟩, -⟩, herrors⟩, hprogress⟩, hfinal⟩,
    hgrowth, haudit⟩, hclean⟩ := hchecks
  obtain ⟨htable, hnamespace⟩ := cleanup_observed hclean
  cases hattempt with
  | @phases receipt created root baseline _ _ hroot _ hphases =>
    cases hphases with
    | @observed warmup sequential concurrent w s c accepted final reply hw hs hc haccepted =>
      cases reply with
      | error failure => cases haudit
      | ok audit =>
        obtain ⟨huuid, hlocation, hattribution⟩ := finalEvidence_passed hfinal
        obtain ⟨hwithin, value, hvalue, record, hrecord, houtcome, hdigest⟩ :=
          attributed_of_passed haccepted hattribution
        have hissued : ⟨.commit created.tableUuid config.workload.commitProperty record.identity,
            record.outcome⟩ ∈ commitCalls config created.tableUuid
              (warmup ++ sequential ++ concurrent) := mem_commitCalls.mpr ⟨record, hrecord, rfl⟩
        have hidentity : record.identity.value = value := by
          refine @value_of_digest _ _ _ hinjective created.tableUuid config.workload.commitProperty
            value record.identity record.outcome final ?_ ?_ hvalue hdigest
          · simp only [List.cons_append, List.mem_cons, List.mem_append, hissued, true_or, or_true]
          · simp
        dsimp only at hgrowth
        have hle := growthEvidence_sufficient hgrowth rfl rfl rfl rfl
        exact ⟨{
          observation := observation
          receipt := receipt
          created := created
          root := root
          baseline := baseline
          warmup := warmup
          sequential := sequential
          concurrent := concurrent
          final := final
          audit := audit
          replies := replies
          trace := by simp
          root_new := hroot
          preflight_absent := habsent
          warmup_issued := hw.identities
          warmup_length := hw.length
          warmup_accepted := accepted_of_serialAccounted hw.counts hwarmup
          sequential_issued := hs.identities
          sequential_length := hs.length
          sequential_accepted := accepted_of_serialAccounted hs.counts hsequential
          concurrent_issued := hc.identities
          concurrent_no_error := no_error_of_counts hc.counts (of_decide_eq_true herrors)
          concurrent_progress := progress_of_counts hc.counts hprogress
          final_tableUuid := huuid
          final_location := hlocation
          final_property := ⟨record, hrecord, houtcome, hidentity ▸ hvalue⟩
          metadata_growth := by rwa [countP_accepted hw hs hc]
          metadata_exists := haudit
          metadata_within_root := hwithin
          table_absent := htable
          namespace_absent := hnamespace }⟩
    | _ => cases hfinal
  | _ => cases hfinal

end Pass

/-- A round that passes is backed by its trace, as long as no two of the texts it compares by
digest collide. -/
theorem runContentionRound_pass (crates : Crates) (config : RoundExecutionConfig)
    (requestedLocation : Option String) (execution : RoundExecution) (tr : RoundTrace)
    (h : (runContentionRound crates config requestedLocation).Run (roundStep crates config) []
      execution tr)
    (hpass : execution.classification = .pass)
    (hinjective : Set.InjOn (textDigest crates) { text | text ∈ tr.flatMap (hashedTexts config) }) :
    Nonempty (PassedRound crates config tr) :=
  PassedRound.of_run h hpass hinjective

theorem runContentionRound_pass_sample :
    Nonempty (PassedRound sampleCrates sampleConfig sampleRun.2) := by
  have hdigests : ∀ a ∈ sampleRun.2.flatMap (hashedTexts sampleConfig),
      ∀ b ∈ sampleRun.2.flatMap (hashedTexts sampleConfig),
        textDigest sampleCrates a = textDigest sampleCrates b → a = b := by decide +kernel
  exact runContentionRound_pass sampleCrates sampleConfig none sampleRun.1 sampleRun.2
    sampleRun_run (by decide +kernel) fun a ha b hb => hdigests a ha b hb

end CatalogBench.Commit
