import CatalogBench.Commit.Phases

/-!
# The trace of a round

`runContentionRound_cases` says once what a round can do: it gives up at the preflight, or it
makes an attempt that ends with one cleanup. The relations `PhasesRun` and `Attempt` list the
places where an attempt can end, each with its calls and the evidence gathered by then.
-/

set_option linter.all false

namespace CatalogBench.Commit
open Interaction Interaction.Prog

namespace OperationEvidence

variable {α : Type}

@[simp] theorem passed_succeeded (output : α) : (succeeded output).passed = true := rfl

@[simp] theorem passed_skipped : (skipped : OperationEvidence α).passed = false := rfl

@[simp] theorem passed_catalogFailure (failure : CatalogFailure) :
    (catalogFailure failure : OperationEvidence α).passed = false := rfl

@[simp] theorem passed_harnessFailure (detail : String) :
    (harnessFailure detail : OperationEvidence α).passed = false := rfl

@[simp] theorem succeeded_ne_skipped (output : α) : succeeded output ≠ skipped := nofun

@[simp] theorem catalogFailure_ne_skipped (failure : CatalogFailure) :
    (catalogFailure failure : OperationEvidence α) ≠ skipped := nofun

@[simp] theorem objectStoreFailure_ne_skipped (failure : ObjectStoreFailure) :
    (objectStoreFailure failure : OperationEvidence α) ≠ skipped := nofun

@[simp] theorem harnessFailure_ne_skipped (detail : String) :
    (harnessFailure detail : OperationEvidence α) ≠ skipped := nofun

@[simp] theorem ofCatalog_ne_skipped (reply : Except CatalogFailure α) :
    ofCatalog reply ≠ skipped := by
  cases reply <;> nofun

@[simp] theorem ofStore_ne_skipped (reply : Except ObjectStoreFailure α) :
    ofStore reply ≠ skipped := by
  cases reply <;> nofun

end OperationEvidence

/-- What the four calls of a cleanup returned. -/
structure CleanupReplies where
  dropTableWithoutPurge : Except CatalogFailure MutationReceipt
  verifyTableAbsent : Except CatalogFailure PresenceObservation
  dropNamespace : Except CatalogFailure MutationReceipt
  verifyNamespaceAbsent : Except CatalogFailure PresenceObservation

namespace CleanupReplies

def calls (replies : CleanupReplies) : RoundTrace :=
  [⟨.dropTableWithoutPurge, replies.dropTableWithoutPurge⟩,
    ⟨.tablePresence, replies.verifyTableAbsent⟩,
    ⟨.dropNamespace, replies.dropNamespace⟩,
    ⟨.namespacePresence, replies.verifyNamespaceAbsent⟩]

def evidence (replies : CleanupReplies) : CleanupEvidence where
  dropTableWithoutPurge := .ofCatalog replies.dropTableWithoutPurge
  verifyTableAbsent := .ofCatalog replies.verifyTableAbsent
  dropNamespace := .ofCatalog replies.dropNamespace
  verifyNamespaceAbsent := .ofCatalog replies.verifyNamespaceAbsent

@[simp] theorem evidence_ne_skipped (replies : CleanupReplies) : replies.evidence ≠ .skipped :=
  fun h => OperationEvidence.ofCatalog_ne_skipped _ (congrArg CleanupEvidence.dropTableWithoutPurge h)

end CleanupReplies

/-- The round ends with a cleanup after this trace and this evidence. -/
def Concluded (tr : RoundTrace) (gathered execution : RoundExecution) (tr' : RoundTrace) : Prop :=
  ∃ replies : CleanupReplies, tr' = tr ++ replies.calls ∧
    execution = { gathered with cleanup := replies.evidence }.finalize false

/-- A serial phase that was recorded. -/
structure SerialRecorded (config : RoundExecutionConfig) (phase : String) (attempts : ℕ)
    (records : List RequestRecord) (evidence : PhaseEvidence) : Prop where
  identities : SerialIdentities config phase records
  length : records.length = attempts
  counts : evidence.counts = recordedCounts records
  measured : evidence.Measured

/-- The concurrent phase, recorded. -/
structure ConcurrentRecorded (config : RoundExecutionConfig) (records : List RequestRecord)
    (evidence : PhaseEvidence) : Prop where
  identities : ConcurrentIdentities config records
  counts : evidence.counts = recordedCounts records
  measured : evidence.Measured

/-- The identities of the commits of a trace, in order. -/
def issuedIdentities (tr : RoundTrace) : List RequestIdentity :=
  tr.filterMap fun answered => match answered.call with
    | .commit _ _ identity => some identity
    | _ => none

@[simp] theorem issuedIdentities_append (tr tr' : RoundTrace) :
    issuedIdentities (tr ++ tr') = issuedIdentities tr ++ issuedIdentities tr' :=
  List.filterMap_append

@[simp] theorem issuedIdentities_commitCalls (config : RoundExecutionConfig) (tableUuid : String)
    (records : List RequestRecord) :
    issuedIdentities (commitCalls config tableUuid records) = records.map (·.identity) := by
  simp [issuedIdentities, commitCalls]

/-- The evidence of a phase that reports a request identity for the second time. -/
def duplicateReported : OperationEvidence PhaseEvidence :=
  .harnessFailure ModelError.duplicateRequestIdentity.display

/-- The commits of a round are numbered by its phases, and a phase reports a duplicate only if two
of them have the same digest. -/
structure IssuedByPhases (crates : Crates) (config : RoundExecutionConfig) (calls : RoundTrace)
    (execution : RoundExecution) : Prop where
  identities : ∃ warmup sequential concurrent writers,
    issuedIdentities calls = (warmup ++ sequential ++ concurrent).map (·.identity) ∧
      SerialIdentities config "warmup" warmup ∧ SerialIdentities config "sequential" sequential ∧
      concurrent.Perm writers.flatten ∧ WritersNumbered config writers
  duplicate : execution.warmup = duplicateReported ∨ execution.sequential = duplicateReported ∨
      execution.concurrent = duplicateReported →
    ¬((issuedIdentities calls).map (RequestIdentity.digest crates)).Nodup

namespace IssuedByPhases

variable {crates : Crates} {config : RoundExecutionConfig} {calls : RoundTrace}
  {execution : RoundExecution}

/-- Without a phase there is nothing to number. -/
theorem of_none (hissued : issuedIdentities calls = []) (hwarmup : execution.warmup = .skipped)
    (hsequential : execution.sequential = .skipped)
    (hconcurrent : execution.concurrent = .skipped) :
    IssuedByPhases crates config calls execution where
  identities := ⟨[], [], [], [], hissued, rfl, rfl, .refl _, fun _ _ hrecords => by
    simp at hrecords⟩
  duplicate := by
    rw [hwarmup, hsequential, hconcurrent]
    rintro (hreported | hreported | hreported) <;> cases hreported

/-- Calls before the phases issue nothing. -/
theorem setup (h : IssuedByPhases crates config calls execution) (before : RoundTrace)
    (hbefore : issuedIdentities before = []) :
    IssuedByPhases crates config (before ++ calls) execution where
  identities := by simpa [hbefore] using h.identities
  duplicate := by simpa [hbefore] using h.duplicate

end IssuedByPhases

/-- The evidence of a final table that was loaded. -/
def finalEvidence (crates : Crates) (config : RoundExecutionConfig) (created : TableSnapshot)
    (root : TableRoot) (accepted : AcceptedRequests) (final : TableSnapshot) :
    FinalTableEvidence where
  formatVersion := final.formatVersion
  tableUuid := final.tableUuid
  metadataLocation := final.metadataLocation
  tableUuidMatchesSetup := final.tableUuid = created.tableUuid
  tableLocationMatchesSetup := final.location = created.location
  attribution := FinalStateAttribution.evaluate crates
    final.properties[config.workload.commitProperty]? accepted
    (root.containsMetadataLocation crates final.metadataLocation)

section Attempts

variable (crates : Crates) (config : RoundExecutionConfig)

/-- How the phases of a round can end before the cleanup. -/
inductive PhasesRun (created : TableSnapshot) (root : TableRoot) (baseline : ObjectAuditSnapshot)
    (execution : RoundExecution) : RoundTrace → RoundExecution → Prop
  | warmupFailed {warmup detail} : SerialIdentities config "warmup" warmup →
      PhasesRun created root baseline execution (commitCalls config created.tableUuid warmup)
        { execution with warmup := .harnessFailure detail }
  | sequentialFailed {warmup sequential w detail} :
      SerialRecorded config "warmup" config.workload.warmupCommits warmup w →
      SerialIdentities config "sequential" sequential →
      PhasesRun created root baseline execution
        (commitCalls config created.tableUuid (warmup ++ sequential))
        { execution with warmup := .succeeded w, sequential := .harnessFailure detail }
  | concurrentFailed {warmup sequential concurrent w s detail} :
      SerialRecorded config "warmup" config.workload.warmupCommits warmup w →
      SerialRecorded config "sequential" config.workload.sequentialCommits sequential s →
      ConcurrentIdentities config concurrent →
      PhasesRun created root baseline execution
        (commitCalls config created.tableUuid (warmup ++ sequential ++ concurrent))
        { execution with
          warmup := .succeeded w, sequential := .succeeded s
          concurrent := .harnessFailure detail }
  | loadFailed {warmup sequential concurrent w s c failure} :
      SerialRecorded config "warmup" config.workload.warmupCommits warmup w →
      SerialRecorded config "sequential" config.workload.sequentialCommits sequential s →
      ConcurrentRecorded config concurrent c →
      PhasesRun created root baseline execution
        (commitCalls config created.tableUuid (warmup ++ sequential ++ concurrent) ++
          [⟨.loadTable, .error failure⟩])
        { execution with
          warmup := .succeeded w, sequential := .succeeded s, concurrent := .succeeded c
          finalTable := .catalogFailure failure }
  | observed {warmup sequential concurrent w s c accepted final audit} :
      SerialRecorded config "warmup" config.workload.warmupCommits warmup w →
      SerialRecorded config "sequential" config.workload.sequentialCommits sequential s →
      ConcurrentRecorded config concurrent c →
      accepted.requests =
        digests crates (·.isAccepted) (warmup ++ sequential ++ concurrent) →
      PhasesRun created root baseline execution
        (commitCalls config created.tableUuid (warmup ++ sequential ++ concurrent) ++
          [⟨.loadTable, .ok final⟩, ⟨.audit root final.metadataLocation, audit⟩])
        { execution with
          warmup := .succeeded w, sequential := .succeeded s, concurrent := .succeeded c
          finalTable := .succeeded (finalEvidence crates config created root accepted final)
          finalObjectAudit := .ofStore audit
          metadataGrowth := growthEvidence { execution with
            warmup := .succeeded w, sequential := .succeeded s, concurrent := .succeeded c
            finalObjectAudit := .ofStore audit } baseline }

/-- How an attempt can end before the cleanup. -/
inductive Attempt (requestedLocation : Option String) (execution : RoundExecution) :
    RoundTrace → RoundExecution → Prop
  | namespaceFailed {failure} :
      Attempt requestedLocation execution [⟨.createNamespace, .error failure⟩]
        { execution with createNamespace := .catalogFailure failure }
  | tableFailed {receipt failure} :
      Attempt requestedLocation execution
        [⟨.createNamespace, .ok receipt⟩, ⟨.createTable, .error failure⟩]
        { execution with
          createNamespace := .succeeded receipt, createTable := .catalogFailure failure }
  | rootFailed {receipt created failure} :
      Attempt requestedLocation execution
        [⟨.createNamespace, .ok receipt⟩, ⟨.createTable, .ok created⟩]
        { execution with
          createNamespace := .succeeded receipt
          createTable := .succeeded (.fromSnapshot created requestedLocation)
          baselineObjectAudit := .objectStoreFailure failure }
  | auditFailed {receipt created root failure} :
      Attempt requestedLocation execution
        [⟨.createNamespace, .ok receipt⟩, ⟨.createTable, .ok created⟩,
          ⟨.audit root created.metadataLocation, .error failure⟩]
        { execution with
          createNamespace := .succeeded receipt
          createTable := .succeeded (.fromSnapshot created requestedLocation)
          baselineObjectAudit := .objectStoreFailure failure }
  | auditUnusable {receipt created root baseline} : usableAudit baseline = false →
      Attempt requestedLocation execution
        [⟨.createNamespace, .ok receipt⟩, ⟨.createTable, .ok created⟩,
          ⟨.audit root created.metadataLocation, .ok baseline⟩]
        { execution with
          createNamespace := .succeeded receipt
          createTable := .succeeded (.fromSnapshot created requestedLocation)
          baselineObjectAudit := .succeeded baseline }
  | phases {receipt created root baseline calls gathered} :
      TableRoot.new crates created.location created.metadataLocation config.objectStoreBucket =
        .ok root →
      usableAudit baseline = true →
      PhasesRun crates config created root baseline
        { execution with
          createNamespace := .succeeded receipt
          createTable := .succeeded (.fromSnapshot created requestedLocation)
          baselineObjectAudit := .succeeded baseline } calls gathered →
      Attempt requestedLocation execution
        (⟨.createNamespace, .ok receipt⟩ :: ⟨.createTable, .ok created⟩ ::
          ⟨.audit root created.metadataLocation, .ok baseline⟩ :: calls) gathered

end Attempts

section Cases

variable {crates : Crates} {config : RoundExecutionConfig} {tr tr' : RoundTrace}
  {execution execution' : RoundExecution}

theorem conclude_run
    (h : (conclude execution).Run (roundStep crates config) tr execution' tr') :
    Concluded tr execution execution' tr' := by
  obtain ⟨evidence, tr₁, hcleanup, hreturn⟩ := run_bind.mp h
  obtain ⟨dropTableWithoutPurge, tr₂, hdrop, hcleanup⟩ := run_ask_bind.mp hcleanup
  obtain ⟨verifyTableAbsent, tr₃, hverify, hcleanup⟩ := run_ask_bind.mp hcleanup
  obtain ⟨dropNamespace, tr₄, hdrop', hcleanup⟩ := run_ask_bind.mp hcleanup
  obtain ⟨verifyNamespaceAbsent, tr₅, hverify', hcleanup⟩ := run_ask_bind.mp hcleanup
  have hstep := records_roundStep crates config
  refine ⟨⟨dropTableWithoutPurge, verifyTableAbsent, dropNamespace, verifyNamespaceAbsent⟩, ?_, ?_⟩
  · rw [(run_pure.mp hreturn).2, (run_pure.mp hcleanup).2, hstep.port hverify', hstep.port hdrop',
      hstep.port hverify, hstep.port hdrop]
    simp [CleanupReplies.calls]
  · rw [(run_pure.mp hreturn).1, (run_pure.mp hcleanup).1]
    rfl

/-- A phase is recorded or ends the round. -/
theorem recordPhase_cases (accepted : AcceptedRequests)
    (result : Except WorkflowError (PhaseEvidence × AcceptedRequests)) :
    (∃ detail, recordPhase accepted result = (.harnessFailure detail, none)) ∨
      ∃ phase phaseAccepted accepted', result = .ok (phase, phaseAccepted) ∧
        accepted'.requests = accepted.requests ∪ phaseAccepted.requests ∧
        recordPhase accepted result = (.succeeded phase, some accepted') := by
  match result with
  | .error error => exact .inl ⟨_, rfl⟩
  | .ok (phase, phaseAccepted) =>
    cases hextend : accepted.tryExtend phaseAccepted with
    | error error =>
      refine .inl ⟨error.display, ?_⟩
      simp only [recordPhase, hextend]
    | ok accepted' =>
      refine .inr ⟨phase, phaseAccepted, accepted', rfl, ?_, ?_⟩
      · unfold AcceptedRequests.tryExtend at hextend
        split at hextend
        · exact congrArg _ (Except.ok.inj hextend).symm
        · cases hextend
      · simp only [recordPhase, hextend]

/-- A phase reports a duplicate only if there is one among its requests and those before. -/
theorem recordPhase_duplicate {accepted : AcceptedRequests} (before : List RequestRecord)
    {records : List RequestRecord}
    {result : Except WorkflowError (PhaseEvidence × AcceptedRequests)} {rest : Option AcceptedRequests}
    (haccepted : accepted.requests = digests crates (·.isAccepted) before)
    (hok : ∀ phase phaseAccepted, result = .ok (phase, phaseAccepted) →
      Reports crates records phase phaseAccepted)
    (herror : ∀ error, result = .error error → error.IsDuplicate →
      ¬(records.map (·.identity.digest crates)).Nodup)
    (h : recordPhase accepted result = (duplicateReported, rest)) :
    ¬((before ++ records).map (·.identity.digest crates)).Nodup := by
  intro hnodup
  match result with
  | .error error =>
    obtain ⟨hdisplay, -⟩ := Prod.mk.inj h
    have hduplicate : error.display = ModelError.duplicateRequestIdentity.display := by
      simpa [OperationEvidence.harnessFailure, duplicateReported] using hdisplay
    exact herror error rfl hduplicate (hnodup.sublist ((List.sublist_append_right _ _).map _))
  | .ok (phase, phaseAccepted) =>
    have hdisjoint : Disjoint accepted.requests phaseAccepted.requests := by
      rw [haccepted, (hok phase phaseAccepted rfl).requests]
      refine Disjoint.mono (digests_subset_all _ _ _) (digests_subset_all _ _ _) ?_
      rw [Finset.disjoint_left]
      intro digest hleft hright
      rw [List.map_append, List.nodup_append] at hnodup
      exact hnodup.2.2 _ (mem_digests_all.mp hleft) _ (mem_digests_all.mp hright) rfl
    rw [recordPhase, AcceptedRequests.tryExtend, if_pos hdisjoint] at h
    cases h

section Phases

variable {created : TableSnapshot} {root : TableRoot} {baseline : ObjectAuditSnapshot}

/-- After the last phase the table is loaded and, if that worked, audited once more. -/
theorem observeFinalState_run {accepted : AcceptedRequests}
    (h : (observeFinalState crates config created root baseline accepted execution).Run
      (roundStep crates config) tr execution' tr') :
    (∃ failure, Concluded (tr ++ [⟨.loadTable, .error failure⟩])
      { execution with finalTable := .catalogFailure failure } execution' tr') ∨
    ∃ final audit,
      Concluded (tr ++ [⟨.loadTable, .ok final⟩, ⟨.audit root final.metadataLocation, audit⟩])
        { execution with
          finalTable := .succeeded (finalEvidence crates config created root accepted final)
          finalObjectAudit := .ofStore audit
          metadataGrowth := growthEvidence { execution with
            finalTable := .succeeded (finalEvidence crates config created root accepted final)
            finalObjectAudit := .ofStore audit } baseline } execution' tr' := by
  have hstep := records_roundStep crates config
  obtain ⟨failure, tr₁, hload, hrest⟩ | ⟨final, tr₁, hload, hrest⟩ := run_bind_except h
  · obtain rfl := hstep.port (run_ask.mp hload)
    exact .inl ⟨failure, conclude_run hrest⟩
  · obtain ⟨audit, tr₂, haudit, hconclude⟩ := run_ask_bind.mp hrest
    obtain rfl := hstep.port (run_ask.mp hload)
    obtain rfl := hstep.port haudit
    refine .inr ⟨final, audit, ?_⟩
    have hconcluded := conclude_run hconclude
    rwa [List.append_assoc] at hconcluded

/-- What the three phases and the final observations do. -/
theorem runPhases_run
    (h : (runPhases crates config created root baseline execution).Run (roundStep crates config) tr
      execution' tr') :
    ∃ calls gathered, PhasesRun crates config created root baseline execution calls gathered ∧
      (execution.sequential = .skipped → execution.concurrent = .skipped →
        IssuedByPhases crates config calls gathered) ∧
      Concluded (tr ++ calls) gathered execution' tr' := by
  have hstep := records_roundStep crates config
  have hnone : WritersNumbered config [] := fun writer records hrecords => by simp at hrecords
  obtain ⟨result, tr₁, hwarmup, hrest⟩ := run_bind.mp h
  obtain ⟨warmup, rfl, hidentities, hok, herror⟩ := runSerialPhase_run hstep hwarmup
  obtain ⟨detail, hrecord⟩ | ⟨w, wAccepted, accepted, rfl, haccepted, hrecord⟩ :=
    recordPhase_cases {} result
  · simp only [hrecord] at hrest
    refine ⟨_, _, .warmupFailed hidentities, fun hsequential hconcurrent => ⟨?_, ?_⟩,
      conclude_run hrest⟩
    · exact ⟨warmup, [], [], [], by simp, hidentities, rfl, .refl _, hnone⟩
    · rintro (hreported | hskipped | hskipped)
      · rw [issuedIdentities_commitCalls, List.map_map]
        exact recordPhase_duplicate [] rfl (fun phase accepted hresult =>
          (hok phase accepted hresult).2) herror (hrecord.trans (congrArg (·, none) hreported))
      · rw [hsequential] at hskipped
        cases hskipped
      · rw [hconcurrent] at hskipped
        cases hskipped
  obtain ⟨hlength, hreports⟩ := hok w wAccepted rfl
  have hw : SerialRecorded config "warmup" config.workload.warmupCommits warmup w :=
    ⟨hidentities, hlength, hreports.counts, hreports.measured⟩
  rw [hreports.requests, Finset.empty_union] at haccepted
  simp only [hrecord] at hrest
  obtain ⟨result, tr₂, hsequential, hrest'⟩ := run_bind.mp hrest
  obtain ⟨sequential, rfl, hidentities', hok', herror'⟩ := runSerialPhase_run hstep hsequential
  obtain ⟨detail, hrecord'⟩ | ⟨s, sAccepted, accepted', rfl, haccepted', hrecord'⟩ :=
    recordPhase_cases accepted result
  · simp only [hrecord'] at hrest'
    have hconcluded := conclude_run hrest'
    rw [List.append_assoc, ← commitCalls_append] at hconcluded
    refine ⟨_, _, .sequentialFailed hw hidentities', fun _ hconcurrent => ⟨?_, ?_⟩, hconcluded⟩
    · exact ⟨warmup, sequential, [], [], by simp, hidentities, hidentities', .refl _, hnone⟩
    · rintro (hreported | hreported | hskipped)
      · cases hreported
      · rw [issuedIdentities_commitCalls, List.map_map]
        exact recordPhase_duplicate warmup haccepted (fun phase accepted hresult =>
          (hok' phase accepted hresult).2) herror' (hrecord'.trans (congrArg (·, none) hreported))
      · rw [hconcurrent] at hskipped
        cases hskipped
  obtain ⟨hlength', hreports'⟩ := hok' s sAccepted rfl
  have hs : SerialRecorded config "sequential" config.workload.sequentialCommits sequential s :=
    ⟨hidentities', hlength', hreports'.counts, hreports'.measured⟩
  rw [haccepted, hreports'.requests, ← digests_append] at haccepted'
  simp only [hrecord'] at hrest'
  obtain ⟨result, tr₃, ⟨calls, rfl, hphase⟩, hrest''⟩ := run_ask_bind.mp hrest'
  obtain ⟨concurrent, writers, rfl, hperm, hnumbered, hidentities'', hok'', herror''⟩ :=
    hphase.records
  have htrace : tr ++ commitCalls config created.tableUuid warmup ++
      commitCalls config created.tableUuid sequential ++
      commitCalls config created.tableUuid concurrent =
      tr ++ commitCalls config created.tableUuid (warmup ++ sequential ++ concurrent) := by
    rw [commitCalls_append, commitCalls_append, List.append_assoc, List.append_assoc,
      List.append_assoc]
  have hissued (rest : RoundTrace) (hrest : issuedIdentities rest = []) :
      ∃ first second third writers,
        issuedIdentities (commitCalls config created.tableUuid (warmup ++ sequential ++ concurrent) ++
          rest) = (first ++ second ++ third).map (·.identity) ∧
        SerialIdentities config "warmup" first ∧ SerialIdentities config "sequential" second ∧
        third.Perm writers.flatten ∧ WritersNumbered config writers :=
    ⟨warmup, sequential, concurrent, writers, by simp [hrest], hidentities, hidentities', hperm,
      hnumbered⟩
  obtain ⟨detail, hrecord''⟩ | ⟨c, cAccepted, accepted'', rfl, haccepted'', hrecord''⟩ :=
    recordPhase_cases accepted' result
  · simp only [hrecord''] at hrest''
    rw [htrace] at hrest''
    refine ⟨_, _, .concurrentFailed hw hs hidentities'', fun _ _ => ⟨?_, ?_⟩, conclude_run hrest''⟩
    · exact ⟨warmup, sequential, concurrent, writers, by simp, hidentities, hidentities', hperm,
        hnumbered⟩
    · rintro (hreported | hreported | hreported)
      · cases hreported
      · cases hreported
      · rw [issuedIdentities_commitCalls, List.map_map]
        exact recordPhase_duplicate _ haccepted' hok'' herror''
          (hrecord''.trans (congrArg (·, none) hreported))
  have hreports'' := hok'' c cAccepted rfl
  have hc : ConcurrentRecorded config concurrent c := ⟨hidentities'', hreports''.counts,
    hreports''.measured⟩
  have hrequests : accepted''.requests =
      digests crates (·.isAccepted) (warmup ++ sequential ++ concurrent) := by
    rw [haccepted'', haccepted', hreports''.requests, digests_append _ _ (warmup ++ sequential)]
  simp only [hrecord''] at hrest''
  rw [htrace] at hrest''
  have hdone {gathered : RoundExecution} (hwarmup : gathered.warmup = .succeeded w)
      (hsequential : gathered.sequential = .succeeded s)
      (hconcurrent : gathered.concurrent = .succeeded c) :
      ¬(gathered.warmup = duplicateReported ∨ gathered.sequential = duplicateReported ∨
        gathered.concurrent = duplicateReported) := by
    rw [hwarmup, hsequential, hconcurrent]
    rintro (hreported | hreported | hreported) <;> cases hreported
  obtain ⟨failure, hconcluded⟩ | ⟨final, audit, hconcluded⟩ := observeFinalState_run hrest''
  · rw [List.append_assoc] at hconcluded
    exact ⟨_, _, .loadFailed hw hs hc, fun _ _ => ⟨hissued [⟨.loadTable, .error failure⟩] rfl,
      fun hreported => absurd hreported (hdone rfl rfl rfl)⟩, hconcluded⟩
  · rw [List.append_assoc] at hconcluded
    exact ⟨_, _, .observed hw hs hc hrequests, fun _ _ => ⟨hissued
      [⟨.loadTable, .ok final⟩, ⟨.audit root final.metadataLocation, audit⟩] rfl,
      fun hreported => absurd hreported (hdone rfl rfl rfl)⟩, hconcluded⟩

end Phases

/-- What a round can do. -/
theorem runContentionRound_cases {requestedLocation : Option String}
    (h : (runContentionRound crates config requestedLocation).Run (roundStep crates config) []
      execution tr) :
    (∃ failure, tr = [⟨.namespacePresence, .error failure⟩] ∧
      execution = { RoundExecution.pending config with
        preflight := .catalogFailure failure }.finalize false) ∨
    (∃ observation, observation.presence = .present ∧
      tr = [⟨.namespacePresence, .ok observation⟩] ∧
      execution = { RoundExecution.pending config with
        preflight := .succeeded observation }.finalize true) ∨
    ∃ observation calls gathered, observation.presence = .absent ∧
      Attempt crates config requestedLocation
        { RoundExecution.pending config with preflight := .succeeded observation } calls
        gathered ∧
      IssuedByPhases crates config calls gathered ∧
      Concluded (⟨.namespacePresence, .ok observation⟩ :: calls) gathered execution tr := by
  have hstep := records_roundStep crates config
  obtain ⟨failure, tr₁, hpreflight, hrest⟩ | ⟨observation, tr₁, hpreflight, hrest⟩ :=
    run_bind_except h
  · obtain ⟨rfl, rfl⟩ := run_pure.mp hrest
    exact .inl ⟨failure, hstep.port (run_ask.mp hpreflight), rfl⟩
  obtain rfl := hstep.port (run_ask.mp hpreflight)
  obtain ⟨hpresent, hreturn⟩ | ⟨habsent, hattempt⟩ := run_ite hrest
  · obtain ⟨rfl, rfl⟩ := run_pure.mp hreturn
    exact .inr (.inl ⟨observation, hpresent, rfl, rfl⟩)
  have habsent : observation.presence = .absent := by
    cases hpresence : observation.presence with
    | present => exact absurd hpresence habsent
    | absent => rfl
  refine .inr (.inr ⟨observation, ?_⟩)
  obtain ⟨failure, tr₂, hnamespace, hrest₂⟩ | ⟨receipt, tr₂, hnamespace, hrest₂⟩ :=
    run_bind_except hattempt
  · obtain rfl := hstep.port (run_ask.mp hnamespace)
    exact ⟨_, _, habsent, .namespaceFailed, .of_none rfl rfl rfl rfl, conclude_run hrest₂⟩
  obtain rfl := hstep.port (run_ask.mp hnamespace)
  obtain ⟨failure, tr₃, htable, hrest₃⟩ | ⟨created, tr₃, htable, hrest₃⟩ := run_bind_except hrest₂
  · obtain rfl := hstep.port (run_ask.mp htable)
    exact ⟨_, _, habsent, .tableFailed, .of_none rfl rfl rfl rfl, conclude_run hrest₃⟩
  obtain rfl := hstep.port (run_ask.mp htable)
  dsimp only at hrest₃
  split at hrest₃
  · exact ⟨_, _, habsent, .rootFailed, .of_none rfl rfl rfl rfl, conclude_run hrest₃⟩
  next root hroot =>
  obtain ⟨failure, tr₄, haudit, hrest₄⟩ | ⟨baseline, tr₄, haudit, hrest₄⟩ := run_bind_except hrest₃
  · obtain rfl := hstep.port (run_ask.mp haudit)
    exact ⟨_, _, habsent, .auditFailed, .of_none rfl rfl rfl rfl, conclude_run hrest₄⟩
  obtain rfl := hstep.port (run_ask.mp haudit)
  obtain ⟨hunusable, hrest₅⟩ | ⟨husable, hrest₅⟩ := run_ite hrest₄
  · exact ⟨_, _, habsent, .auditUnusable (by simpa using hunusable), .of_none rfl rfl rfl rfl,
      conclude_run hrest₅⟩
  obtain ⟨calls, gathered, hphases, hissued, hconcluded⟩ := runPhases_run hrest₅
  exact ⟨_, _, habsent, .phases hroot (by simpa using husable) hphases,
    (hissued rfl rfl).setup [_, _, _] rfl, hconcluded⟩

end Cases

-- ════════════════════════════════
-- The law of the trace
-- ════════════════════════════════

/-- The calls that only a preflight or a cleanup issues. -/
def PortCall.isCleanup : PortCall → Bool
  | .dropTableWithoutPurge | .tablePresence | .dropNamespace | .namespacePresence => true
  | _ => false

/-- The probe answered, and this is what it found. -/
def Observed (reply : Except CatalogFailure PresenceObservation) (presence : ResourcePresence) :
    Prop :=
  ∃ observation, reply = .ok observation ∧ observation.presence = presence

/-- Evidence is skipped exactly for the steps that were not reached. A serial phase may issue no
commit at all, so a phase is reached when its predecessor is recorded. -/
structure SkipsUnreached (tr : RoundTrace) (execution : RoundExecution) : Prop where
  createNamespace : execution.createNamespace = .skipped ↔ ∀ reply, ⟨.createNamespace, reply⟩ ∉ tr
  createTable : execution.createTable = .skipped ↔ ∀ reply, ⟨.createTable, reply⟩ ∉ tr
  baselineObjectAudit : execution.baselineObjectAudit = .skipped ↔
    ∀ created, ⟨.createTable, .ok created⟩ ∉ tr
  warmup : execution.warmup = .skipped ↔
    ∀ root location audit, ⟨.audit root location, .ok audit⟩ ∈ tr → usableAudit audit = false
  sequential : execution.sequential = .skipped ↔ execution.warmup.passed = false
  concurrent : execution.concurrent = .skipped ↔ execution.sequential.passed = false
  loadTable : execution.concurrent.passed = false ↔ ∀ reply, ⟨.loadTable, reply⟩ ∉ tr
  finalTable : execution.finalTable = .skipped ↔ ∀ reply, ⟨.loadTable, reply⟩ ∉ tr
  finalObjectAudit : execution.finalObjectAudit = .skipped ↔
    ∀ final, ⟨.loadTable, .ok final⟩ ∉ tr
  metadataGrowth : execution.metadataGrowth = .skipped ↔ execution.finalObjectAudit.passed = false
  cleanup : execution.cleanup = .skipped ↔ ∀ reply, ⟨.dropTableWithoutPurge, reply⟩ ∉ tr

section Law

variable {crates : Crates} {config : RoundExecutionConfig} {requestedLocation : Option String}
  {tr calls : RoundTrace} {execution gathered : RoundExecution}

theorem mem_commitCalls {tableUuid : String} {records : List RequestRecord}
    {answered : Answered PortCall PortCall.Reply} :
    answered ∈ commitCalls config tableUuid records ↔ ∃ record ∈ records,
      answered =
        ⟨.commit tableUuid config.workload.commitProperty record.identity, record.outcome⟩ := by
  simp only [commitCalls, List.mem_map, eq_comm]

theorem Attempt.starts (h : Attempt crates config requestedLocation execution calls gathered) :
    ∃ reply middle, calls = ⟨.createNamespace, reply⟩ :: middle := by
  cases h <;> exact ⟨_, _, rfl⟩

theorem PhasesRun.not_cleanup {created : TableSnapshot} {root : TableRoot}
    {baseline : ObjectAuditSnapshot}
    (h : PhasesRun crates config created root baseline execution calls gathered) :
    ∀ answered ∈ calls, answered.call.isCleanup = false := by
  intro answered hmem
  cases h <;> simp only [List.mem_append, mem_commitCalls, List.mem_cons, List.not_mem_nil,
    or_false] at hmem
  case warmupFailed | sequentialFailed | concurrentFailed =>
    obtain ⟨record, -, rfl⟩ := hmem
    rfl
  case loadFailed =>
    obtain ⟨record, -, rfl⟩ | rfl := hmem
    · rfl
    · rfl
  case observed =>
    obtain ⟨record, -, rfl⟩ | rfl | rfl := hmem
    · rfl
    · rfl
    · rfl

/-- Nothing is dropped or probed before the cleanup. -/
theorem Attempt.not_cleanup
    (h : Attempt crates config requestedLocation execution calls gathered) :
    ∀ answered ∈ calls, answered.call.isCleanup = false := by
  cases h with
  | phases _ _ hphases =>
    rintro answered (_ | ⟨_, _ | ⟨_, _ | ⟨_, hmem⟩⟩⟩)
    · rfl
    · rfl
    · rfl
    · exact hphases.not_cleanup answered hmem
  | _ => simp [PortCall.isCleanup]

/-- Only the phases commit, and they come after a complete setup. -/
theorem Attempt.setup_of_commit
    (h : Attempt crates config requestedLocation execution calls gathered)
    {tableUuid property : String} {identity : RequestIdentity} {outcome : RequestOutcome}
    (hmem : ⟨.commit tableUuid property identity, outcome⟩ ∈ calls) :
    ∃ receipt created root baseline rest,
      calls = ⟨.createNamespace, .ok receipt⟩ :: ⟨.createTable, .ok created⟩ ::
        ⟨.audit root created.metadataLocation, .ok baseline⟩ :: rest ∧
      TableRoot.new crates created.location created.metadataLocation config.objectStoreBucket =
        .ok root ∧
      usableAudit baseline = true := by
  cases h with
  | phases hroot husable _ => exact ⟨_, _, _, _, _, rfl, hroot, husable⟩
  | _ => simp at hmem

/-- The growth is left out only if the final audit failed. -/
theorem growthEvidence_skipped {baseline : ObjectAuditSnapshot} {w s c : PhaseEvidence}
    (hw : execution.warmup = .succeeded w) (hs : execution.sequential = .succeeded s)
    (hc : execution.concurrent = .succeeded c) :
    growthEvidence execution baseline = .skipped ↔ execution.finalObjectAudit.passed = false := by
  unfold growthEvidence
  rw [hw, hs, hc]
  cases execution.finalObjectAudit with
  | succeeded audit =>
    dsimp only [OperationEvidence.output]
    split <;> simp
  | failed failure => simp [OperationEvidence.output, OperationEvidence.passed]
  | notAttempted reason => simp [OperationEvidence.output, OperationEvidence.passed]

/-- The evidence of an attempt that starts from nothing but its preflight. -/
theorem Attempt.skips {observation : PresenceObservation} (replies : CleanupReplies)
    (h : Attempt crates config requestedLocation
      { RoundExecution.pending config with preflight := .succeeded observation } calls gathered) :
    SkipsUnreached (⟨.namespacePresence, .ok observation⟩ :: calls ++ replies.calls)
      ({ gathered with cleanup := replies.evidence }.finalize false) := by
  cases h with
  | phases hroot husable hphases =>
    cases hphases with
    | observed =>
      constructor
      case warmup =>
        refine iff_of_false (OperationEvidence.succeeded_ne_skipped _) fun hnone => ?_
        -- there are two audits now, and the first of them was usable
        have hunusable := hnone _ _ _ (List.mem_append_left _ (.tail _ (.tail _ (.tail _ (.head _)))))
        rw [husable] at hunusable
        cases hunusable
      case metadataGrowth => exact growthEvidence_skipped rfl rfl rfl
      all_goals
        simp [RoundExecution.finalize, RoundExecution.pending, CleanupReplies.calls,
          mem_commitCalls]
    | _ =>
      constructor <;>
        simp [RoundExecution.finalize, RoundExecution.pending, CleanupReplies.calls,
          mem_commitCalls, husable]
  | @auditUnusable _ _ _ baseline hunusable =>
    constructor <;>
      simp [RoundExecution.finalize, RoundExecution.pending, CleanupReplies.calls]
    rintro _ _ _ rfl _ rfl
    exact hunusable
  | _ =>
    constructor <;> simp [RoundExecution.finalize, RoundExecution.pending, CleanupReplies.calls]

theorem eq_cons_of_append {α : Type*} {before after rest : List α} {a b : α}
    (h : b :: rest = before ++ a :: after) (hne : b ≠ a) :
    ∃ before', before = b :: before' ∧ rest = before' ++ a :: after := by
  cases before with
  | nil => exact absurd (List.cons.inj h).1 hne
  | cons head before' =>
    obtain ⟨rfl, hrest⟩ := List.cons.inj h
    exact ⟨before', rfl, hrest⟩

/-- No commit comes before its table, its table root and a usable baseline. -/
theorem Attempt.commit_after_setup {observation : PresenceObservation} {replies : CleanupReplies}
    (h : Attempt crates config requestedLocation execution calls gathered)
    {before after : RoundTrace} {tableUuid property : String} {identity : RequestIdentity}
    {outcome : RequestOutcome}
    (htr : ⟨.namespacePresence, .ok observation⟩ :: calls ++ replies.calls =
      before ++ ⟨.commit tableUuid property identity, outcome⟩ :: after) :
    ∃ created root baseline, ⟨.createTable, .ok created⟩ ∈ before ∧
      TableRoot.new crates created.location created.metadataLocation config.objectStoreBucket =
        .ok root ∧
      ⟨.audit root created.metadataLocation, .ok baseline⟩ ∈ before ∧
      usableAudit baseline = true := by
  have hmem : ⟨.commit tableUuid property identity, outcome⟩ ∈ calls := by
    have hcommit : ⟨.commit tableUuid property identity, outcome⟩ ∈
        (⟨.namespacePresence, .ok observation⟩ :: calls ++ replies.calls : RoundTrace) := by
      rw [htr]
      simp
    simpa [CleanupReplies.calls] using hcommit
  obtain ⟨receipt, created, root, baseline, rest, rfl, hroot, husable⟩ := h.setup_of_commit hmem
  simp only [List.cons_append] at htr
  obtain ⟨before₁, rfl, htr₁⟩ := eq_cons_of_append htr nofun
  obtain ⟨before₂, rfl, htr₂⟩ := eq_cons_of_append htr₁ nofun
  obtain ⟨before₃, rfl, htr₃⟩ := eq_cons_of_append htr₂ nofun
  obtain ⟨before₄, rfl, -⟩ := eq_cons_of_append htr₃ nofun
  exact ⟨created, root, baseline, by simp, hroot, by simp, husable⟩

theorem finalize_ne_fixtureCollision (execution : RoundExecution) :
    (execution.finalize false).classification ≠ .fixtureCollision := by
  dsimp only [RoundExecution.finalize]
  rw [if_neg Bool.false_ne_true]
  split <;> simp

/-- A round that ends at its preflight has reached nothing else. -/
theorem skips_of_preflight (config : RoundExecutionConfig)
    (reply : Except CatalogFailure PresenceObservation)
    (evidence : OperationEvidence PresenceObservation) (collision : Bool) :
    SkipsUnreached [⟨.namespacePresence, reply⟩]
      ({ RoundExecution.pending config with preflight := evidence }.finalize collision) := by
  constructor <;> simp [RoundExecution.finalize, RoundExecution.pending]

theorem preflight_ne_commit {reply : Except CatalogFailure PresenceObservation}
    {before after : RoundTrace} {tableUuid property : String} {identity : RequestIdentity}
    {outcome : RequestOutcome} :
    [⟨.namespacePresence, reply⟩] ≠
      before ++ ⟨.commit tableUuid property identity, outcome⟩ :: after := by
  intro htr
  obtain ⟨before', -, hnil⟩ := eq_cons_of_append htr nofun
  simp at hnil

/-- The law of every round: a preflight, and if it found nothing an attempt to set the fixture up
that is followed by exactly one cleanup. -/
theorem runContentionRound_trace (crates : Crates) (config : RoundExecutionConfig)
    (requestedLocation : Option String) (execution : RoundExecution) (tr : RoundTrace)
    (h : (runContentionRound crates config requestedLocation).Run (roundStep crates config) []
      execution tr) :
    ∃ (preflight : Except CatalogFailure PresenceObservation) (rest : RoundTrace),
      tr = ⟨.namespacePresence, preflight⟩ :: rest ∧
      (¬Observed preflight .absent → rest = []) ∧
      (Observed preflight .absent → ∃ reply middle replies,
        rest = ⟨.createNamespace, reply⟩ :: middle ++ CleanupReplies.calls replies ∧
        ∀ answered ∈ middle, answered.call.isCleanup = false) ∧
      (∀ before tableUuid property identity outcome after,
        tr = before ++ ⟨.commit tableUuid property identity, outcome⟩ :: after →
        ∃ created root baseline, ⟨.createTable, .ok created⟩ ∈ before ∧
          TableRoot.new crates created.location created.metadataLocation
            config.objectStoreBucket = .ok root ∧
          ⟨.audit root created.metadataLocation, .ok baseline⟩ ∈ before ∧
          usableAudit baseline = true) ∧
      SkipsUnreached tr execution ∧
      (execution.classification = .fixtureCollision ↔ Observed preflight .present) := by
  obtain ⟨failure, rfl, rfl⟩ | ⟨observation, hpresent, rfl, rfl⟩ |
      ⟨observation, calls, gathered, habsent, hattempt, -, replies, rfl, rfl⟩ :=
    runContentionRound_cases h
  · refine ⟨.error failure, [], rfl, fun _ => rfl, by simp [Observed], ?_,
      skips_of_preflight _ _ _ _, ?_⟩
    · intro before tableUuid property identity outcome after htr
      exact absurd htr preflight_ne_commit
    · exact iff_of_false (finalize_ne_fixtureCollision _) (by simp [Observed])
  · refine ⟨.ok observation, [], rfl, fun _ => rfl, by simp [Observed, hpresent], ?_,
      skips_of_preflight _ _ _ _, ?_⟩
    · intro before tableUuid property identity outcome after htr
      exact absurd htr preflight_ne_commit
    · exact iff_of_true rfl ⟨observation, rfl, hpresent⟩
  · obtain ⟨reply, middle, rfl⟩ := hattempt.starts
    refine ⟨.ok observation, _, rfl, fun hnot => absurd ⟨observation, rfl, habsent⟩ hnot, fun _ => ?_,
      fun before tableUuid property identity outcome after htr => hattempt.commit_after_setup htr,
      hattempt.skips replies, ?_⟩
    · refine ⟨reply, middle, replies, rfl, fun answered hmem => ?_⟩
      exact hattempt.not_cleanup answered (List.mem_cons_of_mem _ hmem)
    · refine iff_of_false (finalize_ne_fixtureCollision _) ?_
      rintro ⟨_, hok, hpresent⟩
      obtain rfl := Except.ok.inj hok
      rw [habsent] at hpresent
      cases hpresent

end Law

/-- One commit in every phase. -/
def sampleConfig : RoundExecutionConfig where
  catalog := "bench"
  repetition := 1
  kind := .measured
  fixture := ⟨"fixture", "namespace", "table"⟩
  workload := ⟨1, 1, 1, 1, "commit-id"⟩
  objectStoreBucket := "bench"

def sampleTable (commits : StringMap String) (metadata : String) : TableSnapshot where
  formatVersion := 2
  tableUuid := "00000000-0000-4000-8000-000000000001"
  location := "s3://bench/table"
  metadataLocation := "s3://bench/table/metadata/" ++ metadata ++ ".metadata.json"
  properties := commits

/-- A catalog that takes every commit, and a store that keeps every metadata object. -/
def sampleReply (tr : RoundTrace) : (method : PortCall) → method.Reply
  | .namespacePresence | .tablePresence => .ok ⟨404, .absent⟩
  | .createNamespace | .dropTableWithoutPurge | .dropNamespace => .ok ⟨204⟩
  | .createTable => .ok (sampleTable ∅ "0")
  | .loadTable =>
    .ok (sampleTable ((∅ : StringMap String).insert "commit-id" "bench/fixture/1/concurrent/0/0") "3")
  | .commit _ _ _ => .accepted
  | .audit root location => .ok ⟨root.location, tr.length, tr.length * 512, location, true⟩

/-- The only commit of the only writer. -/
def sampleRecord : RequestRecord := ⟨⟨"bench/fixture/1/concurrent/0/0", by decide⟩, 1, .accepted⟩

/-- The clock advances by a nanosecond with every call. -/
def sampleAnswer (tr : RoundTrace) : (c : RoundCall) → c.Reply × RoundTrace
  | .port method => (sampleReply tr method, tr ++ [⟨method, sampleReply tr method⟩])
  | .now => (tr.length, tr)
  | .concurrentPhase tableUuid =>
    (joinedPhase sampleCrates [.ok (recordAll sampleCrates [sampleRecord]).2] 1,
      tr ++ commitCalls sampleConfig tableUuid [sampleRecord])

def sampleRun : RoundExecution × RoundTrace :=
  (runContentionRound sampleCrates sampleConfig none).exec sampleAnswer []

/-- The writer commits once, at the start of its window, and then finds the window closed. -/
theorem writerRun_sample (tableUuid : String) :
    WriterRun sampleCrates sampleConfig tableUuid 1 0
      (.ok (recordAll sampleCrates [sampleRecord]).2)
      (commitCalls sampleConfig tableUuid [sampleRecord]) := by
  have hidentity : requestIdentity sampleConfig "concurrent" (some 0) 0 =
      .ok sampleRecord.identity := by decide
  have hidentity' : requestIdentity sampleConfig "concurrent" (some 0) 1 =
      .ok ⟨"bench/fixture/1/concurrent/0/1", by decide⟩ := by decide
  have hfirst : (writerTurn sampleCrates sampleConfig tableUuid 0 1 (0, {})).Run clockedStep []
      (.inl (1, (recordAll sampleCrates [sampleRecord]).2))
      (commitCalls sampleConfig tableUuid [sampleRecord]) := by
    unfold writerTurn
    dsimp only
    rw [hidentity]
    exact ⟨(0 : Duration), [], rfl, .accepted, _, rfl, (1 : Duration), _, rfl, rfl, rfl⟩
  have hsecond : (writerTurn sampleCrates sampleConfig tableUuid 0 1
      (1, (recordAll sampleCrates [sampleRecord]).2)).Run clockedStep
      (commitCalls sampleConfig tableUuid [sampleRecord])
      (.inr (.ok (recordAll sampleCrates [sampleRecord]).2))
      (commitCalls sampleConfig tableUuid [sampleRecord]) := by
    unfold writerTurn
    dsimp only
    rw [hidentity']
    exact ⟨(1 : Duration), _, rfl, rfl, rfl⟩
  exact .returned (.next hfirst (.done hsecond))

theorem roundStep_sample (tr : RoundTrace) (c : RoundCall) :
    roundStep sampleCrates sampleConfig tr c (sampleAnswer tr c).1 (sampleAnswer tr c).2 := by
  cases c with
  | port method => rfl
  | now => rfl
  | concurrentPhase tableUuid =>
    have hwriters : ∀ writer result trace,
        [Except.ok (recordAll sampleCrates [sampleRecord]).2][writer]? = some result →
        [commitCalls sampleConfig tableUuid [sampleRecord]][writer]? = some trace →
        WriterRun sampleCrates sampleConfig tableUuid 1 writer result trace := by
      intro writer result trace hresult htrace
      cases writer with
      | zero =>
        obtain rfl := Option.some.inj hresult
        obtain rfl := Option.some.inj htrace
        exact writerRun_sample tableUuid
      | succ writer => simp at hresult
    exact ⟨_, rfl, .joined Nat.one_pos rfl rfl hwriters (.refl _) (.singleton _)⟩

/-- The round runs against its ports and its clock. -/
theorem sampleRun_run :
    (runContentionRound sampleCrates sampleConfig none).Run (roundStep sampleCrates sampleConfig) []
      sampleRun.1 sampleRun.2 :=
  run_exec sampleAnswer roundStep_sample _ _

theorem runContentionRound_trace_sample :
    sampleRun.2.length = 13 ∧ SkipsUnreached sampleRun.2 sampleRun.1 ∧
      ∃ preflight rest, sampleRun.2 = ⟨.namespacePresence, preflight⟩ :: rest ∧
        ¬Observed preflight .present := by
  obtain ⟨preflight, rest, htr, -, -, -, hskips, hcollision⟩ :=
    runContentionRound_trace sampleCrates sampleConfig none sampleRun.1 sampleRun.2 sampleRun_run
  have hclassification : sampleRun.1.classification ≠ .fixtureCollision := by decide +kernel
  exact ⟨by decide +kernel, hskips, preflight, rest, htr, mt hcollision.mpr hclassification⟩

end CatalogBench.Commit
