import CatalogBench.Commit.Join

/-!
# What the phases issue

Every phase is a sequence of commits, and what it reports is read off their replies. The serial
loop and the writers are followed commit by commit against any environment that records methods
and leaves the trace alone when the clock is read.
-/

set_option linter.all false

namespace CatalogBench.Commit
open MachineInt Interaction Interaction.Prog

/-- The calls behind the records of a ledger. -/
def commitCalls (config : RoundExecutionConfig) (tableUuid : String)
    (records : List RequestRecord) : RoundTrace :=
  records.map fun record =>
    ⟨.commit tableUuid config.workload.commitProperty record.identity, record.outcome⟩

/-- A serial phase numbers its commits from zero on. -/
def SerialIdentities (config : RoundExecutionConfig) (phase : String)
    (records : List RequestRecord) : Prop :=
  records.map (fun record => Except.ok record.identity) =
    (List.range' 0 records.length).map (requestIdentity config phase none)

/-- The commits of the concurrent phase are numbered by each writer. -/
def ConcurrentIdentities (config : RoundExecutionConfig) (records : List RequestRecord) : Prop :=
  ∀ record ∈ records, ∃ writer sequence, writer < config.workload.concurrentWriters ∧
    requestIdentity config "concurrent" (some writer) sequence = .ok record.identity

/-- The outcomes of these records, counted. -/
def recordedCounts (records : List RequestRecord) : RequestCounts where
  attempts := records.length
  accepted := records.countP (·.outcome.isAccepted)
  conflicts := records.countP (·.outcome.isConflict)
  errors := records.countP (·.outcome.error?.isSome)

/-- The evidence measures and counts these records, and the accepted ones are handed out. -/
structure Reports (crates : Crates) (records : List RequestRecord) (phase : PhaseEvidence)
    (accepted : AcceptedRequests) : Prop where
  counts : phase.counts = recordedCounts records
  requests : accepted.requests = digests crates (·.isAccepted) records
  measured : phase.Measured

theorem length_latencies (p : RequestOutcome → Bool) (records : List RequestRecord) :
    (latencies p records).length = records.countP (p ·.outcome) := by
  rw [latencies, List.length_map, List.countP_eq_length_filter]

theorem Accounts.reports {crates : Crates} {records : List RequestRecord} {ledger : RequestLedger}
    (h : Accounts crates records ledger) {elapsed : Duration} {phase : PhaseEvidence}
    {accepted : AcceptedRequests} (hfinish : ledger.finish crates elapsed = .ok (phase, accepted)) :
    Reports crates records phase accepted := by
  obtain ⟨hcounts, rfl, hmeasured⟩ := RequestLedger.finish_ok hfinish
  refine ⟨?_, h.acceptedRequests, hmeasured⟩
  rw [hcounts, h.length_all, h.accepted, h.conflicts, h.errors, length_latencies,
    length_latencies, length_latencies, recordedCounts]

theorem Reports.perm {crates : Crates} {records records' : List RequestRecord}
    {phase : PhaseEvidence} {accepted : AcceptedRequests}
    (h : Reports crates records phase accepted) (hperm : records.Perm records') :
    Reports crates records' phase accepted := by
  have hdigests : digests crates (·.isAccepted) records = digests crates (·.isAccepted) records' :=
    List.toFinset_eq_of_perm _ _ ((hperm.filter _).map _)
  refine ⟨?_, h.requests.trans hdigests, h.measured⟩
  rw [h.counts, recordedCounts, recordedCounts, hperm.length_eq, hperm.countP_eq, hperm.countP_eq,
    hperm.countP_eq]

/-- The records are numbered without a gap, from `first` on. -/
def NumberedFrom (config : RoundExecutionConfig) (phase : String) (writer : Option ℕ) (first : ℕ)
    (records : List RequestRecord) : Prop :=
  records.map (fun record => Except.ok record.identity) =
    (List.range' first records.length).map (requestIdentity config phase writer)

namespace NumberedFrom

variable {config : RoundExecutionConfig} {phase : String} {writer : Option ℕ} {first : ℕ}

theorem nil : NumberedFrom config phase writer first [] := rfl

theorem singleton {record : RequestRecord}
    (h : requestIdentity config phase writer first = .ok record.identity) :
    NumberedFrom config phase writer first [record] := by
  simp [NumberedFrom, h]

theorem append {records records' : List RequestRecord}
    (h : NumberedFrom config phase writer first records)
    (h' : NumberedFrom config phase writer (first + records.length) records') :
    NumberedFrom config phase writer first (records ++ records') := by
  unfold NumberedFrom at h h' ⊢
  rw [List.map_append, h, h', List.length_append, ← List.range'_append_1, List.map_append]

/-- Every record has a number. -/
theorem issued {records : List RequestRecord} (h : NumberedFrom config phase writer first records) :
    ∀ record ∈ records,
      ∃ sequence, requestIdentity config phase writer sequence = .ok record.identity := by
  intro record hmem
  have hok := List.mem_map_of_mem (f := fun record : RequestRecord =>
    (Except.ok record.identity : Except WorkflowError RequestIdentity)) hmem
  rw [h] at hok
  obtain ⟨sequence, -, hsequence⟩ := List.mem_map.mp hok
  exact ⟨sequence, hsequence⟩

end NumberedFrom

/-- The failure is the one that reports a request identity for the second time. -/
def WorkflowError.IsDuplicate (error : WorkflowError) : Prop :=
  error.display = ModelError.duplicateRequestIdentity.display

/-- No other failure of the accounts reads like it. -/
theorem isDuplicate_model {error : ModelError} :
    (WorkflowError.model error).IsDuplicate ↔ error = .duplicateRequestIdentity := by
  refine ⟨fun h => ?_, fun h => h ▸ rfl⟩
  have hhead := congrArg (·.toList.head?) h
  cases error with
  | duplicateRequestIdentity => rfl
  | statistics cause =>
    cases cause <;>
      simp [WorkflowError.display, ModelError.display, StatisticsError.display] at hhead
  | _ => simp [WorkflowError.IsDuplicate, WorkflowError.display, ModelError.display] at h

/-- Recording these requests, one after the other, gave this result: a ledger that holds them, or
a failure, which is about a duplicate only if there is one. -/
def RecordedInto (crates : Crates) (ledger : RequestLedger) (records : List RequestRecord)
    (result : Except WorkflowError RequestLedger) : Prop :=
  ∀ before, Accounts crates before ledger →
    (∀ ledger', result = .ok ledger' → Accounts crates (before ++ records) ledger') ∧
    ∀ error, result = .error error → error.IsDuplicate →
      ¬((before ++ records).map (·.identity.digest crates)).Nodup

namespace RecordedInto

variable {crates : Crates} {ledger ledger' : RequestLedger} {records records' : List RequestRecord}
  {result : Except WorkflowError RequestLedger}

theorem nil : RecordedInto crates ledger [] (.ok ledger) := by
  intro before hbefore
  refine ⟨fun ledger' hok => ?_, fun error herror => (nomatch herror)⟩
  rw [List.append_nil, ← Except.ok.inj hok]
  exact hbefore

/-- A failure about something else says nothing about the records. -/
theorem error {error : WorkflowError} (h : ¬error.IsDuplicate) :
    RecordedInto crates ledger records (.error error) := by
  intro before _
  refine ⟨fun ledger' hok => (nomatch hok), fun error' herror hduplicate => ?_⟩
  rw [← Except.error.inj herror] at hduplicate
  exact absurd hduplicate h

theorem trans (h : RecordedInto crates ledger records (.ok ledger'))
    (h' : RecordedInto crates ledger' records' result) :
    RecordedInto crates ledger (records ++ records') result := by
  intro before hbefore
  have hnext := h' _ ((h before hbefore).1 ledger' rfl)
  rwa [List.append_assoc] at hnext

theorem accounts (h : RecordedInto crates {} records (.ok ledger)) :
    Accounts crates records ledger := (h [] (.default crates)).1 ledger rfl

end RecordedInto

-- ════════════════════════════════
-- Serial phases
-- ════════════════════════════════

/-- The environment records methods and nothing else. -/
structure Records (step : RoundTrace → (c : RoundCall) → c.Reply → RoundTrace → Prop) : Prop where
  port : ∀ {tr method r tr'}, step tr (.port method) r tr' → tr' = tr ++ [⟨method, r⟩]
  now : ∀ {tr r tr'}, step tr .now r tr' → tr' = tr

theorem records_clockedStep : Records clockedStep := ⟨id, id⟩

theorem records_roundStep (crates : Crates) (config : RoundExecutionConfig) :
    Records (roundStep crates config) := ⟨id, id⟩

section Serial

variable {crates : Crates} {config : RoundExecutionConfig} {phase tableUuid : String}
  {step : RoundTrace → (c : RoundCall) → c.Reply → RoundTrace → Prop} {tr tr' : RoundTrace}

theorem record_duplicate {ledger : RequestLedger} (record : RequestRecord) {error : ModelError}
    (h : (ledger.record crates record.identity record.latency record.outcome).1 = .error error) :
    error = .duplicateRequestIdentity ∧ record.identity.digest crates ∈ ledger.seenRequests ∨
      error = .countOverflow := by
  obtain ⟨identity, latency, outcome⟩ := record
  unfold RequestLedger.record at h
  split at h
  · next hseen => exact .inl ⟨(Except.error.inj h).symm, hseen⟩
  · cases outcome with
    | accepted => cases h
    | conflict => cases h
    | error error =>
      dsimp only at h
      split at h
      · cases h
      · exact .inr (Except.error.inj h).symm

/-- One commit is issued, and its reply is recorded. -/
theorem recordedCommit_run (hstep : Records step) {identity : RequestIdentity} {started : Duration}
    {ledger : RequestLedger} {result : Except WorkflowError RequestLedger}
    (h : (recordedCommit crates config tableUuid identity started ledger).Run step tr result tr') :
    ∃ record : RequestRecord, record.identity = identity ∧
      tr' = tr ++ commitCalls config tableUuid [record] ∧
      RecordedInto crates ledger [record] result := by
  obtain ⟨outcome, tr₁, hcommit, h⟩ := run_ask_bind.mp h
  obtain ⟨finished, tr₂, hnow, h⟩ := run_ask_bind.mp h
  obtain rfl := hstep.port hcommit
  obtain rfl := hstep.now hnow
  refine ⟨⟨identity, finished - started, outcome⟩, rfl, ?_⟩
  split at h
  · next hrecord =>
    obtain ⟨rfl, rfl⟩ := run_pure.mp h
    refine ⟨rfl, fun before hbefore => ⟨fun ledger' hok => ?_, fun error herror => (nomatch herror)⟩⟩
    rw [← Except.ok.inj hok]
    exact hbefore.record_ok ⟨identity, finished - started, outcome⟩ hrecord
  · next error _ hrecord =>
    obtain ⟨rfl, rfl⟩ := run_pure.mp h
    refine ⟨rfl, fun before hbefore => ⟨fun ledger' hok => (nomatch hok), fun error' herror => ?_⟩⟩
    rw [← Except.error.inj herror]
    intro hduplicate hnodup
    obtain ⟨-, hseen⟩ | rfl := record_duplicate
      ⟨identity, finished - started, outcome⟩ (congrArg Prod.fst hrecord)
    · rw [hbefore.seenRequests, mem_digests_all] at hseen
      rw [List.map_append, List.nodup_append] at hnodup
      exact hnodup.2.2 _ hseen _ (List.mem_singleton_self _) rfl
    · exact absurd (isDuplicate_model.mp hduplicate) nofun

theorem requestIdentity_error {writer : Option ℕ} {sequence : ℕ} {error : WorkflowError}
    (h : requestIdentity config phase writer sequence = .error error) : ¬error.IsDuplicate := by
  unfold requestIdentity RequestIdentity.new at h
  dsimp only at h
  split_ifs at h
  · cases h
  · cases h
    exact fun hduplicate => nomatch isDuplicate_model.mp hduplicate

/-- The loop issues its commits in order and stops early only on a failure. -/
theorem runSerialCommits_run (hstep : Records step) {remaining sequence : ℕ}
    {ledger : RequestLedger} {result : Except WorkflowError RequestLedger}
    (h : (runSerialCommits crates config phase tableUuid remaining sequence ledger).Run step tr
      result tr') :
    ∃ records : List RequestRecord, tr' = tr ++ commitCalls config tableUuid records ∧
      NumberedFrom config phase none sequence records ∧
      (∀ ledger', result = .ok ledger' → records.length = remaining) ∧
      RecordedInto crates ledger records result := by
  induction remaining generalizing sequence ledger tr with
  | zero =>
    obtain ⟨rfl, rfl⟩ := run_pure.mp h
    exact ⟨[], (List.append_nil tr').symm, .nil, fun _ _ => rfl, .nil⟩
  | succ remaining ih =>
    unfold runSerialCommits at h
    split at h
    · next herror =>
      obtain ⟨rfl, rfl⟩ := run_pure.mp h
      exact ⟨[], (List.append_nil tr').symm, .nil, fun ledger' hok => (nomatch hok),
        .error (requestIdentity_error herror)⟩
    next identity hidentity =>
    obtain ⟨started, tr₁, hnow, hbody⟩ := run_ask_bind.mp h
    obtain rfl := hstep.now hnow
    obtain ⟨error, tr₂, hcommit, hrest⟩ | ⟨ledger₁, tr₂, hcommit, hrest⟩ := run_bind_except hbody
    · obtain ⟨record, rfl, rfl, hrecord⟩ := recordedCommit_run hstep hcommit
      obtain ⟨rfl, rfl⟩ := run_pure.mp hrest
      exact ⟨[record], rfl, .singleton hidentity, fun ledger' hok => (nomatch hok), hrecord⟩
    · obtain ⟨record, rfl, rfl, hrecord⟩ := recordedCommit_run hstep hcommit
      obtain ⟨records, rfl, hnumbered, hlength, hrecords⟩ := ih hrest
      refine ⟨record :: records, ?_, (NumberedFrom.singleton hidentity).append hnumbered, ?_,
        hrecord.trans hrecords⟩
      · simp [commitCalls]
      · intro ledger' hok
        rw [List.length_cons, hlength ledger' hok]

theorem finish_error {ledger : RequestLedger} {elapsed : Duration} {error : ModelError}
    (h : ledger.finish crates elapsed = .error error) :
    ¬(WorkflowError.model error).IsDuplicate := by
  rw [isDuplicate_model]
  obtain rfl | ⟨cause, rfl⟩ | ⟨rfl, -⟩ := RequestLedger.finish_error h
  · nofun
  · nofun
  · nofun

/-- What a serial phase issued, and what it reports if it went through. -/
theorem runSerialPhase_run (hstep : Records step) {attempts : ℕ}
    {result : Except WorkflowError (PhaseEvidence × AcceptedRequests)}
    (h : (runSerialPhase crates config phase tableUuid attempts).Run step tr result tr') :
    ∃ records : List RequestRecord, tr' = tr ++ commitCalls config tableUuid records ∧
      SerialIdentities config phase records ∧
      (∀ evidence accepted, result = .ok (evidence, accepted) →
        records.length = attempts ∧ Reports crates records evidence accepted) ∧
      ∀ error, result = .error error → error.IsDuplicate →
        ¬(records.map (·.identity.digest crates)).Nodup := by
  obtain ⟨started, tr₁, hnow, hbody⟩ := run_ask_bind.mp h
  obtain rfl := hstep.now hnow
  obtain ⟨error, tr₂, hcommits, hrest⟩ | ⟨ledger, tr₂, hcommits, hrest⟩ := run_bind_except hbody
  · obtain ⟨records, rfl, hnumbered, -, hrecorded⟩ := runSerialCommits_run hstep hcommits
    obtain ⟨rfl, rfl⟩ := run_pure.mp hrest
    refine ⟨records, rfl, hnumbered, fun _ _ hok => (nomatch hok), fun error' herror => ?_⟩
    rw [← Except.error.inj herror]
    exact (hrecorded [] (.default crates)).2 error rfl
  · obtain ⟨records, rfl, hnumbered, hlength, hrecorded⟩ := runSerialCommits_run hstep hcommits
    obtain ⟨finished, tr₃, hfinished, hreturn⟩ := run_ask_bind.mp hrest
    obtain rfl := hstep.now hfinished
    obtain ⟨rfl, rfl⟩ := run_pure.mp hreturn
    refine ⟨records, rfl, hnumbered, fun evidence accepted hfinish => ⟨hlength ledger rfl, ?_⟩,
      fun error herror hduplicate => ?_⟩
    · exact hrecorded.accounts.reports (except_mapError_eq_ok.mp hfinish)
    · cases hfinish : ledger.finish crates (finished - started) with
      | ok report => rw [hfinish] at herror; cases herror
      | error cause =>
        rw [hfinish] at herror
        cases herror
        exact absurd hduplicate (finish_error hfinish)

end Serial

-- ════════════════════════════════
-- The concurrent phase
-- ════════════════════════════════

section Concurrent

variable {crates : Crates} {config : RoundExecutionConfig} {tableUuid : String}
  {deadline : Duration} {writer : ℕ} {tr tr' : RoundTrace}

/-- The commits of one writer. -/
def WriterRecords (config : RoundExecutionConfig) (writer : ℕ) (records : List RequestRecord) :
    Prop :=
  ∀ record ∈ records,
    ∃ sequence, requestIdentity config "concurrent" (some writer) sequence = .ok record.identity

/-- Every commit of a writer has a number. -/
theorem NumberedFrom.writerRecords {first : ℕ} {records : List RequestRecord}
    (h : NumberedFrom config "concurrent" (some writer) first records) :
    WriterRecords config writer records := h.issued

/-- One turn of a writer issues at most one commit, under its next number. -/
theorem writerTurn_run {sequence : ℕ} {ledger : RequestLedger}
    {result : (ℕ × RequestLedger) ⊕ Except WorkflowError RequestLedger}
    (h : (writerTurn crates config tableUuid writer deadline (sequence, ledger)).Run clockedStep tr
      result tr') :
    ∃ records, tr' = tr ++ commitCalls config tableUuid records ∧
      NumberedFrom config "concurrent" (some writer) sequence records ∧
      (∀ sequence' ledger', result = .inl (sequence', ledger') →
        sequence' = sequence + records.length ∧
          RecordedInto crates ledger records (.ok ledger')) ∧
      ∀ returned, result = .inr returned → RecordedInto crates ledger records returned := by
  unfold writerTurn at h
  dsimp only at h
  split at h
  · next herror =>
    obtain ⟨rfl, rfl⟩ := run_pure.mp h
    refine ⟨[], (List.append_nil tr').symm, .nil, fun _ _ hnext => (nomatch hnext), ?_⟩
    rintro _ ⟨⟩
    exact .error (requestIdentity_error herror)
  next identity hidentity =>
  obtain ⟨started, tr₁, hnow, hbody⟩ := run_ask_bind.mp h
  obtain rfl := records_clockedStep.now hnow
  obtain ⟨-, hreturn⟩ | ⟨-, hturn⟩ := run_ite hbody
  · obtain ⟨rfl, rfl⟩ := run_pure.mp hreturn
    refine ⟨[], (List.append_nil tr').symm, .nil, fun _ _ hnext => (nomatch hnext), ?_⟩
    rintro _ ⟨⟩
    exact .nil
  obtain ⟨error, tr₂, hcommit, hrest⟩ | ⟨ledger₁, tr₂, hcommit, hrest⟩ := run_bind_except hturn
  · obtain ⟨record, rfl, rfl, hrecord⟩ := recordedCommit_run records_clockedStep hcommit
    obtain ⟨rfl, rfl⟩ := run_pure.mp hrest
    refine ⟨[record], rfl, .singleton hidentity, fun _ _ hnext => (nomatch hnext), ?_⟩
    rintro _ ⟨⟩
    exact hrecord
  · obtain ⟨record, rfl, rfl, hrecord⟩ := recordedCommit_run records_clockedStep hcommit
    dsimp only at hrest
    split at hrest
    · next sequence₁ hsequence =>
      obtain ⟨rfl, rfl⟩ := run_pure.mp hrest
      refine ⟨[record], rfl, .singleton hidentity, ?_, fun _ hdone => (nomatch hdone)⟩
      rintro _ _ ⟨⟩
      exact ⟨(checkedAdd_eq_some.mp hsequence).1.symm, hrecord⟩
    · obtain ⟨rfl, rfl⟩ := run_pure.mp hrest
      refine ⟨[record], rfl, .singleton hidentity, fun _ _ hnext => (nomatch hnext), ?_⟩
      rintro _ ⟨⟩
      exact .error (by simp [WorkflowError.IsDuplicate, WorkflowError.display, ModelError.display])

theorem commitCalls_append (records records' : List RequestRecord) :
    commitCalls config tableUuid (records ++ records') =
      commitCalls config tableUuid records ++ commitCalls config tableUuid records' :=
  List.map_append

/-- A writer numbers its commits, and what it returns is about all of them. -/
theorem iterate_writerTurn {state : ℕ × RequestLedger} {result : Except WorkflowError RequestLedger}
    (h : Iterate clockedStep (writerTurn crates config tableUuid writer deadline) tr state result
      tr') :
    ∃ records, tr' = tr ++ commitCalls config tableUuid records ∧
      NumberedFrom config "concurrent" (some writer) state.1 records ∧
      RecordedInto crates state.2 records result := by
  induction h with
  | done hturn =>
    obtain ⟨records, htrace, hnumbered, -, hreturned⟩ := writerTurn_run hturn
    exact ⟨records, htrace, hnumbered, hreturned _ rfl⟩
  | @next _ state state' _ _ _ hturn _ ih =>
    obtain ⟨sequence, ledger⟩ := state
    obtain ⟨sequence', ledger'⟩ := state'
    obtain ⟨records, rfl, hnumbered, hnext, -⟩ := writerTurn_run hturn
    obtain ⟨rfl, hrecorded⟩ := hnext sequence' ledger' rfl
    obtain ⟨records', rfl, hnumbered', hrecorded'⟩ := ih
    refine ⟨records ++ records', ?_, hnumbered.append hnumbered', hrecorded.trans hrecorded'⟩
    rw [commitCalls_append, List.append_assoc]

theorem interrupted_writerTurn {state : ℕ × RequestLedger}
    (h : Interrupted clockedStep (writerTurn crates config tableUuid writer deadline) tr state
      tr') :
    ∃ records, tr' = tr ++ commitCalls config tableUuid records ∧
      NumberedFrom config "concurrent" (some writer) state.1 records := by
  induction h with
  | here => exact ⟨[], (List.append_nil _).symm, .nil⟩
  | @next _ state state' _ _ hturn _ ih =>
    obtain ⟨sequence, ledger⟩ := state
    obtain ⟨sequence', ledger'⟩ := state'
    obtain ⟨records, rfl, hnumbered, hnext, -⟩ := writerTurn_run hturn
    obtain ⟨rfl, -⟩ := hnext sequence' ledger' rfl
    obtain ⟨records', rfl, hnumbered'⟩ := ih
    refine ⟨records ++ records', ?_, hnumbered.append hnumbered'⟩
    rw [commitCalls_append, List.append_assoc]

/-- A task that ended without a result does not report a duplicate. -/
theorem not_isDuplicate_writerTask (detail : String) :
    ¬(WorkflowError.writerTask ("concurrent writer task failed: " ++ detail)).IsDuplicate := by
  intro hduplicate
  have hhead := congrArg (·.toList.head?) hduplicate
  simp [WorkflowError.display, ModelError.display] at hhead

/-- The records of a writer, whether or not it returned. -/
theorem WriterRun.records {result : Except WorkflowError RequestLedger} {calls : RoundTrace}
    (h : WriterRun crates config tableUuid deadline writer result calls) :
    ∃ records, RecordedInto crates {} records result ∧
      calls = commitCalls config tableUuid records ∧
      NumberedFrom config "concurrent" (some writer) 0 records := by
  cases h with
  | returned hiterate =>
    obtain ⟨records, htrace, hnumbered, hrecorded⟩ := iterate_writerTurn hiterate
    exact ⟨records, hrecorded, htrace, hnumbered⟩
  | @failed detail _ hinterrupted =>
    obtain ⟨records, htrace, hnumbered⟩ := interrupted_writerTurn hinterrupted
    exact ⟨records, .error (not_isDuplicate_writerTask detail), htrace, hnumbered⟩

/-- The writers number their commits, each on its own. -/
def WritersNumbered (config : RoundExecutionConfig) (writers : List (List RequestRecord)) : Prop :=
  ∀ writer records, writers[writer]? = some records →
    NumberedFrom config "concurrent" (some writer) 0 records

theorem WritersNumbered.identities {writers : List (List RequestRecord)}
    (h : WritersNumbered config writers)
    (hlength : writers.length ≤ config.workload.concurrentWriters) :
    ConcurrentIdentities config writers.flatten := by
  intro record hmem
  obtain ⟨records, hrecords, hrecord⟩ := List.mem_flatten.mp hmem
  obtain ⟨writer, hlt, rfl⟩ := List.mem_iff_getElem.mp hrecords
  obtain ⟨sequence, hidentity⟩ :=
    (h writer _ (List.getElem?_eq_getElem hlt)).writerRecords record hrecord
  exact ⟨writer, sequence, hlt.trans_le hlength, hidentity⟩

/-- The records of each writer, beside its result and behind its calls. -/
theorem writers_records {results : List (Except WorkflowError RequestLedger)}
    {traces : List RoundTrace} (hlength : results.length = traces.length)
    (hwriters : ∀ writer result trace, results[writer]? = some result →
      traces[writer]? = some trace →
      WriterRun crates config tableUuid deadline writer result trace) :
    ∃ writers, List.Forall₂ (fun result records => RecordedInto crates {} records result) results
        writers ∧
      traces = writers.map (commitCalls config tableUuid) ∧ WritersNumbered config writers := by
  have hruns (writer : Fin results.length) := (hwriters writer _ _
    (List.getElem?_eq_getElem writer.isLt)
    (List.getElem?_eq_getElem (hlength ▸ writer.isLt))).records
  choose records hrecorded hcalls hnumbered using hruns
  refine ⟨List.ofFn records, ?_, ?_, ?_⟩
  · refine List.forall₂_of_length_eq_of_get (by simp) fun writer hresult hrecords => ?_
    simpa using hrecorded ⟨writer, hresult⟩
  · refine List.ext_getElem (by simp [hlength]) fun writer htrace hrecords => ?_
    simpa using hcalls ⟨writer, hlength ▸ htrace⟩
  · intro writer written hwritten
    obtain ⟨hlt, rfl⟩ := List.getElem?_eq_some_iff.mp hwritten
    simpa using hnumbered ⟨writer, by simpa using hlt⟩

/-- Joining one writer keeps what was joined, and fails on a duplicate only if there is one. -/
theorem joinWriter_records {before records : List RequestRecord} {ledger : RequestLedger}
    (first : Option WorkflowError) {result : Except WorkflowError RequestLedger}
    (hbefore : Accounts crates before ledger) (hresult : RecordedInto crates {} records result)
    (hnodup : ((before ++ records).map (·.identity.digest crates)).Nodup) :
    (∃ held, held.Sublist (before ++ records) ∧
      Accounts crates held (joinWriter (ledger, first) result).1) ∧
    ∀ error, (joinWriter (ledger, first) result).2 = some error → error.IsDuplicate →
      first = some error := by
  have hrecords := hnodup.sublist ((List.sublist_append_right before records).map _)
  cases result with
  | error error =>
    refine ⟨⟨before, List.sublist_append_left _ _, hbefore⟩, fun error' herror hduplicate => ?_⟩
    cases first with
    | some _ => exact herror
    | none =>
      obtain rfl := Option.some.inj herror
      exact absurd hrecords ((hresult [] (.default crates)).2 _ rfl hduplicate)
  | ok other =>
    have hother := hresult.accounts
    unfold joinWriter
    cases hmerge : ledger.tryMerge other with
    | mk outcome merged =>
      dsimp only
      rw [hmerge]
      cases outcome with
      | ok _ =>
        exact ⟨⟨_, List.Sublist.refl _, hbefore.tryMerge_ok hother hmerge⟩,
          fun error herror _ => herror⟩
      | error cause =>
        refine ⟨⟨before, List.sublist_append_left _ _, ?_⟩, fun error herror hduplicate => ?_⟩
        · rw [tryMerge_error hmerge]
          exact hbefore
        · cases first with
          | some _ => exact herror
          | none =>
            obtain rfl := Option.some.inj herror
            rw [isDuplicate_model] at hduplicate
            subst hduplicate
            exact absurd hnodup (hbefore.tryMerge_duplicate hother (congrArg Prod.fst hmerge))

/-- No merge reports a duplicate if there is none. -/
theorem foldl_joinWriter_duplicate {before : List RequestRecord} {ledger : RequestLedger}
    {first : Option WorkflowError} {results : List (Except WorkflowError RequestLedger)}
    {records : List (List RequestRecord)} (hbefore : Accounts crates before ledger)
    (hresults : List.Forall₂ (fun result records => RecordedInto crates {} records result) results
      records)
    (hnodup : ((before ++ records.flatten).map (·.identity.digest crates)).Nodup) :
    (∀ error, (results.foldl joinWriter (ledger, first)).2 = some error → error.IsDuplicate →
      first = some error) ∧
    ∀ joined other rest, results = joined ++ .ok other :: rest →
      ((joined.foldl joinWriter (ledger, first)).1.tryMerge other).1 ≠
        .error .duplicateRequestIdentity := by
  induction hresults generalizing before ledger first with
  | nil => exact ⟨fun error herror _ => herror, fun joined other rest hsplit => by simp at hsplit⟩
  | @cons result head results records hhead _ ih =>
    rw [List.flatten_cons, ← List.append_assoc] at hnodup
    have hboth := hnodup.sublist ((List.sublist_append_left _ records.flatten).map _)
    obtain ⟨⟨held, hsublist, hheld⟩, hfirst⟩ := joinWriter_records first hbefore hhead hboth
    obtain ⟨herrors, hmerges⟩ := ih hheld (hnodup.sublist ((hsublist.append_right _).map _))
    refine ⟨fun error herror hduplicate => ?_, fun joined other rest hsplit => ?_⟩
    · exact hfirst error (herrors error herror hduplicate) hduplicate
    · cases joined with
      | nil =>
        obtain ⟨rfl, -⟩ := List.cons.inj hsplit
        exact fun hmerge => hbefore.tryMerge_duplicate hhead.accounts hmerge hboth
      | cons joined₁ joined =>
        obtain ⟨rfl, rfl⟩ := List.cons.inj hsplit
        exact hmerges joined other rest rfl

/-- A phase without a failure joined ledgers that hold the records of all writers, and a phase
that reports a duplicate has one. -/
theorem joinedPhase_reports {results : List (Except WorkflowError RequestLedger)}
    {records : List (List RequestRecord)} (elapsed : Duration)
    (hresults : List.Forall₂ (fun result records => RecordedInto crates {} records result) results
      records) :
    (∀ phase accepted, joinedPhase crates results elapsed = .ok (phase, accepted) →
      Reports crates records.flatten phase accepted) ∧
    ∀ error, joinedPhase crates results elapsed = .error error → error.IsDuplicate →
      ¬(records.flatten.map (·.identity.digest crates)).Nodup := by
  unfold joinedPhase
  split
  · next error hjoin =>
    refine ⟨fun _ _ hok => (nomatch hok), fun error' herror hduplicate hnodup => ?_⟩
    obtain rfl := Except.error.inj herror
    have hnone := (foldl_joinWriter_duplicate (.default crates) hresults hnodup).1 error
      (congrArg Prod.snd hjoin) hduplicate
    cases hnone
  · next merged hjoin =>
    refine ⟨fun phase accepted hok => ?_, fun error herror hduplicate => ?_⟩
    · have haccounts := (foldl_joinWriter_accounts (.default crates)
        (hresults.imp fun _ _ hrecorded ledger hok => (hok ▸ hrecorded).accounts) hjoin).1
      exact haccounts.reports (except_mapError_eq_ok.mp hok)
    · cases hfinish : merged.finish crates elapsed with
      | ok report => rw [hfinish] at herror; cases herror
      | error cause =>
        rw [hfinish] at herror
        cases herror
        exact absurd hduplicate (finish_error hfinish)

/-- What the concurrent phase issued, and what it reports. -/
theorem ConcurrentPhase.records
    {result : Except WorkflowError (PhaseEvidence × AcceptedRequests)} {calls : RoundTrace}
    (h : ConcurrentPhase crates config tableUuid result calls) :
    ∃ records writers, calls = commitCalls config tableUuid records ∧
      records.Perm writers.flatten ∧ WritersNumbered config writers ∧
      ConcurrentIdentities config records ∧
      (∀ phase accepted, result = .ok (phase, accepted) → Reports crates records phase accepted) ∧
      ∀ error, result = .error error → error.IsDuplicate →
        ¬(records.map (·.identity.digest crates)).Nodup := by
  have hnone : WritersNumbered config [] := fun writer records hrecords => by simp at hrecords
  cases h with
  | deadlineOverflow =>
    refine ⟨[], [], rfl, .refl _, hnone, by simp [ConcurrentIdentities],
      fun _ _ hok => (nomatch hok), ?_⟩
    rintro _ ⟨⟩ hduplicate
    simp [WorkflowError.IsDuplicate, WorkflowError.display, ModelError.display] at hduplicate
  | noWriters _ =>
    refine ⟨[], [], rfl, .refl _, hnone, by simp [ConcurrentIdentities],
      fun _ _ hok => (nomatch hok), ?_⟩
    rintro _ ⟨⟩ hduplicate
    simp [WorkflowError.IsDuplicate, WorkflowError.display, ModelError.display] at hduplicate
  | @joined deadline elapsed results order traces _ _ hresults htraces hwriters horder hcalls =>
    obtain ⟨writers, hrecorded, rfl, hnumbered⟩ :=
      writers_records (hresults.trans htraces.symm) hwriters
    obtain ⟨ordered, hordered, hperm⟩ := List.perm_comp_forall₂ horder hrecorded
    have hcallsPerm : calls.Perm (commitCalls config tableUuid writers.flatten) := by
      rw [commitCalls, List.map_flatten]
      exact hcalls.perm
    -- the same records, in the order in which the writers' calls came
    obtain ⟨issued, rfl, hissuedPerm⟩ :=
      (congrFun (congrFun (List.eq_map_comp_perm _) calls) writers.flatten).mpr hcallsPerm
    have hidentities := hnumbered.identities (by rw [← hrecorded.length_eq, hresults])
    obtain ⟨hreports, hduplicate⟩ := joinedPhase_reports elapsed hordered
    refine ⟨issued, writers, rfl, hissuedPerm, hnumbered,
      fun record hmem => hidentities record (hissuedPerm.mem_iff.mp hmem), ?_, ?_⟩
    · intro phase accepted hok
      exact (hreports phase accepted hok).perm (hperm.flatten.trans hissuedPerm.symm)
    · intro error herror hdup hnodup
      refine hduplicate error herror hdup ?_
      exact ((hperm.flatten.trans hissuedPerm.symm).map _).nodup_iff.mpr hnodup

end Concurrent

end CatalogBench.Commit
