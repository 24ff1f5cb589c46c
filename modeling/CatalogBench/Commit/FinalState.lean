import CatalogBench.Commit.Identity
import CatalogBench.Commit.Verdict

/-!
# The final state of a round

A round that passes has found its final property among the commits that were accepted in it. The
accepted requests of the three phases are kept together, so the property may be older than the
concurrent phase.
-/

set_option linter.all false

namespace CatalogBench.Commit
open Interaction Interaction.Prog

/-- The final property of every passed round was committed by a writer. -/
def WrittenConcurrently (crates : Crates) (config : RoundExecutionConfig) : Prop :=
  ∀ requestedLocation execution tr,
    (runContentionRound crates config requestedLocation).Run (roundStep crates config) [] execution
      tr →
    execution.classification = .pass →
    Set.InjOn (textDigest crates) { text | text ∈ tr.flatMap (hashedTexts config) } →
    ∀ final, ⟨.loadTable, .ok final⟩ ∈ tr →
      ∃ tableUuid writer sequence,
        ⟨.commit tableUuid config.workload.commitProperty
          (RequestLabel.identity config (.concurrent writer sequence)), .accepted⟩ ∈ tr ∧
        final.properties[config.workload.commitProperty]? =
          some (RequestLabel.text config (.concurrent writer sequence))

section Pass

variable {crates : Crates} {config : RoundExecutionConfig} {tr : RoundTrace}

/-- Every accepted record of a passed round has a label. -/
theorem PassedRound.label (h : PassedRound crates config tr) {record : RequestRecord}
    (hmem : record ∈ h.warmup ++ h.sequential ++ h.concurrent) :
    ∃ label, RequestLabel.identity config label = record.identity := by
  simp only [List.mem_append] at hmem
  rcases hmem with (hmem | hmem) | hmem
  · obtain ⟨sequence, hsequence⟩ := NumberedFrom.issued h.warmup_issued record hmem
    exact ⟨_, identity_warmup hsequence⟩
  · obtain ⟨sequence, hsequence⟩ := NumberedFrom.issued h.sequential_issued record hmem
    exact ⟨_, identity_sequential hsequence⟩
  · obtain ⟨writer, sequence, -, hsequence⟩ := h.concurrent_issued record hmem
    exact ⟨_, identity_concurrent hsequence⟩

/-- **The final state of a passed round.** The final table is loaded after the last commit, and
its property is the identity of a commit that was accepted in the warm-up, the sequential or the
concurrent phase of this round. At least one commit of a writer was accepted. -/
theorem runContentionRound_final {requestedLocation : Option String} {execution : RoundExecution}
    (h : (runContentionRound crates config requestedLocation).Run (roundStep crates config) []
      execution tr)
    (hpass : execution.classification = .pass)
    (hinjective : Set.InjOn (textDigest crates) { text | text ∈ tr.flatMap (hashedTexts config) }) :
    ∃ before final after tableUuid label writer sequence,
      tr = before ++ ⟨.loadTable, .ok final⟩ :: after ∧ issuedIdentities after = [] ∧
      ⟨.commit tableUuid config.workload.commitProperty (RequestLabel.identity config label),
        .accepted⟩ ∈ before ∧
      final.properties[config.workload.commitProperty]? = some (RequestLabel.text config label) ∧
      ⟨.commit tableUuid config.workload.commitProperty
        (RequestLabel.identity config (.concurrent writer sequence)), .accepted⟩ ∈ before := by
  obtain ⟨passed⟩ := PassedRound.of_run h hpass hinjective
  obtain ⟨record, hrecord, haccepted, hproperty⟩ := passed.final_property
  obtain ⟨progress, hprogress, hprogressed⟩ := passed.concurrent_progress
  obtain ⟨label, hlabel⟩ := passed.label hrecord
  obtain ⟨writer, sequence, -, hsequence⟩ := passed.concurrent_issued progress hprogress
  have hmem {record : RequestRecord}
      (hrecord : record ∈ passed.warmup ++ passed.sequential ++ passed.concurrent)
      (haccepted : record.outcome = .accepted) :
      ⟨.commit passed.created.tableUuid config.workload.commitProperty record.identity, .accepted⟩ ∈
        commitCalls config passed.created.tableUuid
          (passed.warmup ++ passed.sequential ++ passed.concurrent) :=
    mem_commitCalls.mpr ⟨record, hrecord, by rw [haccepted]⟩
  refine ⟨⟨.namespacePresence, .ok passed.observation⟩ ::
      ⟨.createNamespace, .ok passed.receipt⟩ :: ⟨.createTable, .ok passed.created⟩ ::
      ⟨.audit passed.root passed.created.metadataLocation, .ok passed.baseline⟩ ::
      commitCalls config passed.created.tableUuid
        (passed.warmup ++ passed.sequential ++ passed.concurrent), passed.final,
    ⟨.audit passed.root passed.final.metadataLocation, .ok passed.audit⟩ :: passed.replies.calls,
    passed.created.tableUuid, label, writer, sequence, ?_, rfl, ?_, ?_, ?_⟩
  · exact passed.trace.trans (by simp)
  · rw [hlabel]
    exact .tail _ (.tail _ (.tail _ (.tail _ (hmem hrecord haccepted))))
  · rw [hproperty, ← hlabel]
    rfl
  · rw [identity_concurrent hsequence]
    exact .tail _ (.tail _ (.tail _ (.tail _
      (hmem (List.mem_append_right _ hprogress) hprogressed))))

end Pass

-- ════════════════════════════════
-- A round with a lost update
-- ════════════════════════════════

/-- A catalog that takes every commit but keeps the last sequential one. -/
def staleReply (tr : RoundTrace) : (method : PortCall) → method.Reply
  | .loadTable =>
    .ok (sampleTable ((∅ : StringMap String).insert "commit-id" "bench/fixture/1/sequential/0") "3")
  | method => sampleReply tr method

def staleAnswer (tr : RoundTrace) : (c : RoundCall) → c.Reply × RoundTrace
  | .port method => (staleReply tr method, tr ++ [⟨method, staleReply tr method⟩])
  | c => sampleAnswer tr c

def staleRun : RoundExecution × RoundTrace :=
  (runContentionRound sampleCrates sampleConfig none).exec staleAnswer []

theorem roundStep_stale (tr : RoundTrace) (c : RoundCall) :
    roundStep sampleCrates sampleConfig tr c (staleAnswer tr c).1 (staleAnswer tr c).2 := by
  cases c with
  | port method => rfl
  | now => exact roundStep_sample tr .now
  | concurrentPhase tableUuid => exact roundStep_sample tr (.concurrentPhase tableUuid)

/-- The round runs against the catalog that loses the update. -/
theorem staleRun_run :
    (runContentionRound sampleCrates sampleConfig none).Run (roundStep sampleCrates sampleConfig) []
      staleRun.1 staleRun.2 :=
  run_exec staleAnswer roundStep_stale _ _

theorem staleRun_pass : staleRun.1.classification = .pass := by decide +kernel

theorem staleRun_distinguished :
    Set.InjOn (textDigest sampleCrates)
      { text | text ∈ staleRun.2.flatMap (hashedTexts sampleConfig) } := by
  have hdigests : ∀ a ∈ staleRun.2.flatMap (hashedTexts sampleConfig),
      ∀ b ∈ staleRun.2.flatMap (hashedTexts sampleConfig),
        textDigest sampleCrates a = textDigest sampleCrates b → a = b := by decide +kernel
  exact fun a ha b hb => hdigests a ha b hb

/-- The property of this table is the identity of the sequential commit. -/
def loadsSequential : Answered PortCall PortCall.Reply → Bool
  | ⟨.loadTable, .ok final⟩ =>
    final.properties["commit-id"]? = some (RequestLabel.text sampleConfig (.sequential 0))
  | _ => false

theorem exists_of_loadsSequential {answered : Answered PortCall PortCall.Reply}
    (h : loadsSequential answered = true) :
    ∃ final, answered = ⟨.loadTable, .ok final⟩ ∧ final.properties["commit-id"]? =
      some (RequestLabel.text sampleConfig (.sequential 0)) := by
  unfold loadsSequential at h
  split at h
  · exact ⟨_, rfl, of_decide_eq_true h⟩
  · cases h

/-- The lost update is not noticed. -/
theorem writtenConcurrently_stale : ¬WrittenConcurrently sampleCrates sampleConfig := by
  intro hwritten
  have hloads : staleRun.2.any loadsSequential = true := by decide +kernel
  obtain ⟨answered, hmem, hloaded⟩ := List.any_eq_true.mp hloads
  obtain ⟨final, rfl, hsequential⟩ := exists_of_loadsSequential hloaded
  obtain ⟨tableUuid, writer, sequence, -, hconcurrent⟩ :=
    hwritten none _ _ staleRun_run staleRun_pass staleRun_distinguished final hmem
  have htexts := Option.some.inj (hsequential.symm.trans hconcurrent)
  exact nomatch (RequestLabel.text_inj htexts).2

theorem runContentionRound_final_stale :
    ∃ before final after tableUuid label writer sequence,
      staleRun.2 = before ++ ⟨.loadTable, .ok final⟩ :: after ∧ issuedIdentities after = [] ∧
      ⟨.commit tableUuid "commit-id" (RequestLabel.identity sampleConfig label), .accepted⟩ ∈
        before ∧
      final.properties["commit-id"]? = some (RequestLabel.text sampleConfig label) ∧
      ⟨.commit tableUuid "commit-id"
        (RequestLabel.identity sampleConfig (.concurrent writer sequence)), .accepted⟩ ∈ before :=
  runContentionRound_final staleRun_run staleRun_pass staleRun_distinguished

end CatalogBench.Commit
