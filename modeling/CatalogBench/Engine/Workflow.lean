import CatalogBench.Engine.Reconcile
import CatalogBench.Engine.Sql
import CatalogBench.Library.Interaction

/-!
# The engine workflow

`runEngineWorkflow` lets the runner execute the plan and then, only if the run owns its
fixture, connects to the catalog, loads the table, audits the object store and drops what the
engine created. It is a program over `WorkflowCall`; a trace of it is a run of the
environment `recording`.
-/

set_option linter.all false

namespace CatalogBench.Engine
open CatalogBench.Commit Interaction Interaction.Prog

inductive EngineCatalogConnection
  | ready (negotiation : EngineCatalogNegotiationEvidence)
  | failed (negotiation : Option EngineCatalogNegotiationEvidence)
      (failure : EngineCatalogConnectionFailure)
  deriving DecidableEq

/-- The methods of the runner, the connectors, the catalog and the object store. -/
inductive WorkflowCall
  | execute
  | connectCatalog
  | loadTable
  | dropTableWithoutPurge
  | tablePresence
  | dropNamespace
  | namespacePresence
  | connectStore
  | auditTable (root : TableRoot) (metadataLocation : String)
  deriving DecidableEq

namespace WorkflowCall

/-- What each method returns. -/
abbrev Reply : WorkflowCall → Type
  | .execute => EngineProcessExecution
  | .connectCatalog => EngineCatalogConnection
  | .loadTable => Except EngineCatalogFailure EngineTableLoad
  | .dropTableWithoutPurge | .dropNamespace => Except EngineCatalogFailure EngineCleanupReceipt
  | .tablePresence | .namespacePresence => Except EngineCatalogFailure EngineResourcePresence
  | .connectStore => Except ObjectStoreFailure Unit
  | .auditTable _ _ => Except ObjectStoreFailure TableObjectAuditSnapshot

/-- The methods of `EngineCatalog`. -/
def isCatalog : WorkflowCall → Bool
  | .loadTable | .dropTableWithoutPurge | .tablePresence | .dropNamespace
  | .namespacePresence => true
  | _ => false

end WorkflowCall

abbrev WorkflowProg := Prog WorkflowCall WorkflowCall.Reply

/-- The calls a workflow made and the replies it got. -/
abbrev WorkflowTrace := List (Answered WorkflowCall WorkflowCall.Reply)

namespace EngineExecution

def pending (process : EngineProcessExecution) : EngineExecution :=
  let reason := if process.fixtureCollision then EngineSkipReason.fixtureCollision
    else .processDidNotOwnFixture
  { process := process
    catalogConnection := .notAttempted reason
    catalogState := .skipped reason
    objectState := .skipped reason
    cleanup := .skipped reason
    checks := {}
    classification := .fail }

def finalize (crates : Crates) (plan : InteroperabilityPlan) (execution : EngineExecution) :
    EngineExecution :=
  let checks := evaluateChecks crates plan execution
  { execution with
    checks := checks
    classification :=
      if execution.process.fixtureCollision then .fixtureCollision
      else if execution.process.passed && checks.allPassed then .pass
      else .fail }

end EngineExecution

section Workflow

variable (crates : Crates) (plan : InteroperabilityPlan)

def auditObjectState (catalogState : Option EngineTableLoad) :
    WorkflowProg (EngineOperationEvidence TableObjectAuditSnapshot) :=
  match catalogState with
  | some (.present _ _ state) =>
    match TableRoot.new crates state.table.location state.table.metadataLocation
        plan.objectStore.bucket with
    | .error failure => return .ofObjectStore (.error failure)
    | .ok root => do
      match ← ask WorkflowCall.connectStore with
      | .error failure => return .ofObjectStore (.error failure)
      | .ok _ =>
        let audit ← ask (WorkflowCall.auditTable root state.table.metadataLocation)
        return .ofObjectStore audit
  | _ => return .skipped .tableUnavailable

def cleanupFixture : WorkflowProg EngineCleanupEvidence := do
  let dropTableWithoutPurge ← ask WorkflowCall.dropTableWithoutPurge
  let verifyTableAbsent ← ask WorkflowCall.tablePresence
  let dropNamespace ← ask WorkflowCall.dropNamespace
  let verifyNamespaceAbsent ← ask WorkflowCall.namespacePresence
  return {
    dropTableWithoutPurge := .ofCatalog dropTableWithoutPurge
    verifyTableAbsent := .ofCatalog verifyTableAbsent
    dropNamespace := .ofCatalog dropNamespace
    verifyNamespaceAbsent := .ofCatalog verifyNamespaceAbsent }

def runEngineWorkflow : WorkflowProg EngineExecution := do
  let process ← ask WorkflowCall.execute
  let execution := EngineExecution.pending process
  if !process.cleanupAuthorized then
    return execution.finalize crates plan
  match ← ask WorkflowCall.connectCatalog with
  | .failed negotiation failure =>
    let execution := { execution with
      catalogConnection := .failed negotiation failure
      catalogState := .skipped .catalogUnavailable
      objectState := .skipped .catalogUnavailable
      cleanup := .skipped .catalogUnavailable }
    return execution.finalize crates plan
  | .ready negotiation =>
    let execution := { execution with catalogConnection := .ready negotiation }
    let load ← ask WorkflowCall.loadTable
    let execution := { execution with catalogState := .ofCatalog load }
    let objectState ← auditObjectState crates plan execution.catalogState.output
    let execution := { execution with objectState := objectState }
    let cleanup ← cleanupFixture
    let execution := { execution with cleanup := cleanup }
    return execution.finalize crates plan

end Workflow

-- ════════════════════════════════
-- Traces
-- ════════════════════════════════

section Traces

variable {crates : Crates} {plan : InteroperabilityPlan}

/-- The store calls of an audit, and what the audit says. -/
inductive AuditTrace (crates : Crates) (plan : InteroperabilityPlan) :
    Option EngineTableLoad → EngineOperationEvidence TableObjectAuditSnapshot →
    WorkflowTrace → Prop
  | unavailable {load} : (∀ a b state, load ≠ some (.present a b state)) →
      AuditTrace crates plan load (.skipped .tableUnavailable) []
  | badRoot {a b state failure} :
      TableRoot.new crates state.table.location state.table.metadataLocation
        plan.objectStore.bucket = .error failure →
      AuditTrace crates plan (some (.present a b state)) (.failed (.objectStore failure.kind)) []
  | noStore {a b state failure} :
      AuditTrace crates plan (some (.present a b state)) (.failed (.objectStore failure.kind))
        [⟨.connectStore, .error failure⟩]
  | audited {a b state root reply} :
      TableRoot.new crates state.table.location state.table.metadataLocation
        plan.objectStore.bucket = .ok root →
      AuditTrace crates plan (some (.present a b state)) (.ofObjectStore reply)
        [⟨.connectStore, .ok ()⟩, ⟨.auditTable root state.table.metadataLocation, reply⟩]

theorem auditObjectState_trace {load : Option EngineTableLoad}
    {evidence : EngineOperationEvidence TableObjectAuditSnapshot} {tr tr' : WorkflowTrace}
    (h : (auditObjectState crates plan load).Run recording tr evidence tr') :
    ∃ calls, tr' = tr ++ calls ∧ AuditTrace crates plan load evidence calls := by
  unfold auditObjectState at h
  split at h
  · next a b state =>
    split at h
    · next failure hroot =>
      obtain ⟨rfl, rfl⟩ := h
      exact ⟨[], by simp, .badRoot hroot⟩
    · next root hroot =>
      obtain ⟨reply, _, rfl, h⟩ := run_ask_bind.mp h
      cases reply with
      | error failure =>
        obtain ⟨rfl, rfl⟩ := h
        exact ⟨_, rfl, .noStore⟩
      | ok _ =>
        obtain ⟨audit, _, rfl, rfl, rfl⟩ := run_ask_bind.mp h
        exact ⟨_, by rw [List.append_assoc]; rfl, .audited hroot⟩
  · next hload =>
    obtain ⟨rfl, rfl⟩ := h
    exact ⟨[], by simp, .unavailable fun a b state he => hload a b state he⟩

/-- The four cleanup calls with their replies. -/
def cleanupCalls (dropTable : Except EngineCatalogFailure EngineCleanupReceipt)
    (table : Except EngineCatalogFailure EngineResourcePresence)
    (dropNamespace : Except EngineCatalogFailure EngineCleanupReceipt)
    («namespace» : Except EngineCatalogFailure EngineResourcePresence) : WorkflowTrace :=
  [⟨.dropTableWithoutPurge, dropTable⟩, ⟨.tablePresence, table⟩, ⟨.dropNamespace, dropNamespace⟩,
    ⟨.namespacePresence, «namespace»⟩]

theorem cleanupFixture_trace {cleanup : EngineCleanupEvidence} {tr tr' : WorkflowTrace}
    (h : cleanupFixture.Run recording tr cleanup tr') :
    ∃ dropTable table dropNamespace presence,
      tr' = tr ++ cleanupCalls dropTable table dropNamespace presence ∧
      cleanup = ⟨.ofCatalog dropTable, .ofCatalog table, .ofCatalog dropNamespace,
        .ofCatalog presence⟩ := by
  obtain ⟨dropTable, _, rfl, h⟩ := run_ask_bind.mp h
  obtain ⟨table, _, rfl, h⟩ := run_ask_bind.mp h
  obtain ⟨dropNamespace, _, rfl, h⟩ := run_ask_bind.mp h
  obtain ⟨presence, _, rfl, rfl, rfl⟩ := run_ask_bind.mp h
  exact ⟨dropTable, table, dropNamespace, presence, by simp [cleanupCalls], rfl⟩

/-- Everything a workflow can do. -/
inductive WorkflowRun (crates : Crates) (plan : InteroperabilityPlan) :
    EngineExecution → WorkflowTrace → Prop
  /-- The process does not own the fixture. -/
  | unowned {process} : process.cleanupAuthorized = false →
      WorkflowRun crates plan ((EngineExecution.pending process).finalize crates plan)
        [⟨.execute, process⟩]
  /-- The catalog cannot be reached. -/
  | unreachable {process negotiation failure} : process.cleanupAuthorized = true →
      WorkflowRun crates plan
        (EngineExecution.finalize crates plan { EngineExecution.pending process with
          catalogConnection := .failed negotiation failure
          catalogState := .skipped .catalogUnavailable
          objectState := .skipped .catalogUnavailable
          cleanup := .skipped .catalogUnavailable })
        [⟨.execute, process⟩, ⟨.connectCatalog, .failed negotiation failure⟩]
  /-- The table is loaded and audited and the fixture dropped. -/
  | cleaned {process negotiation load objectState calls dropTable table dropNamespace presence} :
      process.cleanupAuthorized = true →
      AuditTrace crates plan (EngineOperationEvidence.ofCatalog load).output objectState calls →
      WorkflowRun crates plan
        (EngineExecution.finalize crates plan { EngineExecution.pending process with
          catalogConnection := .ready negotiation
          catalogState := .ofCatalog load
          objectState := objectState
          cleanup := ⟨.ofCatalog dropTable, .ofCatalog table, .ofCatalog dropNamespace,
            .ofCatalog presence⟩ })
        (⟨.execute, process⟩ :: ⟨.connectCatalog, .ready negotiation⟩ :: ⟨.loadTable, load⟩ ::
          calls ++ cleanupCalls dropTable table dropNamespace presence)

theorem runEngineWorkflow_cases {execution : EngineExecution} {tr : WorkflowTrace}
    (h : (runEngineWorkflow crates plan).Run recording [] execution tr) :
    WorkflowRun crates plan execution tr := by
  obtain ⟨process, _, rfl, h⟩ := run_ask_bind.mp h
  obtain ⟨hauth, rfl, rfl⟩ | ⟨hauth, h⟩ := run_ite h
  · exact .unowned (by simpa using hauth)
  have hauth : process.cleanupAuthorized = true := by simpa using hauth
  obtain ⟨connection, _, rfl, h⟩ := run_ask_bind.mp h
  cases connection with
  | failed negotiation failure =>
    obtain ⟨rfl, rfl⟩ := h
    exact .unreachable hauth
  | ready negotiation =>
    obtain ⟨load, _, rfl, h⟩ := run_ask_bind.mp h
    obtain ⟨objectState, _, haudit, h⟩ := run_bind.mp h
    obtain ⟨cleanup, _, hcleanup, rfl, rfl⟩ := run_bind.mp h
    obtain ⟨calls, rfl, hcalls⟩ := auditObjectState_trace haudit
    obtain ⟨dropTable, table, dropNamespace, presence, rfl, rfl⟩ := cleanupFixture_trace hcleanup
    exact .cleaned hauth hcalls

-- ════════════════════════════════
-- Who may clean up
-- ════════════════════════════════

/-- The engine saw that the fixture was absent before it created anything. -/
def Owns (process : EngineProcessExecution) : Prop :=
  (∃ capture, process.capture = some capture ∧ .fixturePreflight true ∈ capture.events) ∧
    process.outcome ≠ .fixtureCollision

theorem cleanupAuthorized_iff (process : EngineProcessExecution) :
    process.cleanupAuthorized = true ↔ Owns process := by
  unfold EngineProcessExecution.cleanupAuthorized Owns EngineEventCapture.cleanupAuthorized
  simp only [Bool.and_eq_true, decide_eq_true_eq, Option.any_eq_true, List.any_eq_true,
    exists_eq_right]
  exact and_comm

/-- Both state fields and all four cleanup fields were skipped for the same reason. -/
def EngineExecution.Skipped (execution : EngineExecution) (reason : EngineSkipReason) : Prop :=
  execution.catalogState = .skipped reason ∧ execution.objectState = .skipped reason ∧
    execution.cleanup = .skipped reason

theorem AuditTrace.store_only {load : Option EngineTableLoad}
    {evidence : EngineOperationEvidence TableObjectAuditSnapshot} {calls : WorkflowTrace}
    (h : AuditTrace crates plan load evidence calls) :
    ∀ a ∈ calls, a.call.isCatalog = false ∧ a.call ≠ .connectCatalog := by
  cases h <;> simp [WorkflowCall.isCatalog]

theorem EventWord.preflight_exclusive {w : List EngineEvent} (h : EventWord w)
    (hmem : .fixturePreflight true ∈ w) : w.getLast? ≠ some (.fixturePreflight false) := by
  cases h with
  | completed _ => simp
  | failed _ _ => simp
  | collision => simp at hmem

/-- The catalog is asked for exactly when the run owns its fixture, and then all five calls are
made in their order; otherwise everything after the process is skipped for one reason. -/
theorem runEngineWorkflow_authorised :
    (∀ execution tr, (runEngineWorkflow crates plan).Run recording [] execution tr →
      ∃ process rest, tr = ⟨.execute, process⟩ :: rest ∧
        ((∃ a ∈ tr, a.call = .connectCatalog) ↔ Owns process) ∧
        ((∃ a ∈ tr, a.call.isCatalog = true) ↔
          Owns process ∧ ∃ negotiation, ⟨.connectCatalog, .ready negotiation⟩ ∈ tr) ∧
        ((∃ a ∈ tr, a.call.isCatalog = true) →
          (tr.map (·.call)).filter WorkflowCall.isCatalog =
            [.loadTable, .dropTableWithoutPurge, .tablePresence, .dropNamespace,
              .namespacePresence]) ∧
        ((¬∃ a ∈ tr, a.call.isCatalog = true) → ∃ reason, execution.Skipped reason)) ∧
    ∀ decode chunks, (EngineEventDecoder.capture decode chunks).failure = none →
      ¬((EngineEventDecoder.capture decode chunks).cleanupAuthorized = true ∧
        (EngineEventDecoder.capture decode chunks).fixtureCollision = true) := by
  constructor
  · intro execution tr h
    cases runEngineWorkflow_cases h with
    | @unowned process hauth =>
      have hown : ¬Owns process := by simp [← cleanupAuthorized_iff, hauth]
      refine ⟨process, [], rfl, ?_, ?_, ?_, fun _ => ⟨_, rfl, rfl, rfl⟩⟩
      · simp [hown]
      · simp [hown, WorkflowCall.isCatalog]
      · simp [WorkflowCall.isCatalog]
    | @unreachable process negotiation failure hauth =>
      have hown := (cleanupAuthorized_iff process).mp hauth
      refine ⟨process, _, rfl, ?_, ?_, ?_, fun _ => ⟨_, rfl, rfl, rfl⟩⟩
      · simp [hown]
      · simp [WorkflowCall.isCatalog]
      · simp [WorkflowCall.isCatalog]
    | @cleaned process negotiation load objectState calls dropTable table dropNamespace presence
        hauth haudit =>
      have hown := (cleanupAuthorized_iff process).mp hauth
      have hcalls : (calls.map (·.call)).filter WorkflowCall.isCatalog = [] := by
        rw [List.filter_eq_nil_iff]
        intro c hc
        obtain ⟨a, ha, rfl⟩ := List.mem_map.mp hc
        simp [(haudit.store_only a ha).1]
      refine ⟨process, _, rfl, ?_, ?_, fun _ => ?_, fun hnone => ?_⟩
      · simp [hown]
      · simp [hown, WorkflowCall.isCatalog]
      · simp only [List.map_append, List.map_cons, List.filter_append, List.filter_cons, hcalls]
        rfl
      · exact absurd ⟨⟨.loadTable, load⟩, by simp, rfl⟩ hnone
  · rintro decode chunks hok ⟨hclean, hcollision⟩
    have hword := EngineEventDecoder.capture_word decode hok
    simp only [EngineEventCapture.cleanupAuthorized, List.any_eq_true, decide_eq_true_eq,
      exists_eq_right] at hclean
    simp only [EngineEventCapture.fixtureCollision, Bool.and_eq_true, decide_eq_true_eq]
      at hcollision
    exact hword.preflight_exclusive hclean hcollision.2

end Traces

-- ════════════════════════════════
-- A small scenario
-- ════════════════════════════════

def sampleScenario : EngineScenarioParameters where
  catalogProtocol := .icebergRestV1
  enginePolicy := ⟨.forbidden, .forbidden, .stockProfileComponent,
    .engineSpecificButCatalogNeutral, .classifyBeforeMutationWithoutASubstituteRequest⟩
  fixturePrefix := "interop"
  table := {
    formatVersion := 2
    properties := .ofList [("owner", "bench")] _
    schema := { schemaId := 0, fields := [⟨1, "id", true, .long⟩, ⟨2, "category", true, .string⟩,
      ⟨3, "amount_cents", true, .long⟩] } }
  schemaEvolution := { field := ⟨"note", false, .string⟩, preserveExistingFieldIds := true }
  rowGenerator := ⟨.affine 100 1, .moduloLabel 2 "c", .idLabel "n"⟩
  batches := ⟨⟨1, 1⟩, ⟨2, 1⟩⟩
  canonicalReads := {
    initial := { bytes := 13, columns := ["id", "category", "amount_cents"], rows := 1,
                 sha256 := "initial" }
    orderBy := ["id"]
    afterEvolution := { bytes := 36, columns := ["id", "category", "amount_cents", "note"],
                        rows := 2, sha256 := "evolved" }
    trailingLf := true }
  objectAudit := ⟨1, 1⟩
  transcriptFormat := engineTranscriptFormat

def sampleTrinoPlan : TrinoExecutionPlan where
  format := trinoPlanFormat
  execution := ⟨1⟩
  catalog := { name := "bench", uri := "http://catalog:8181", warehouse := none,
               routePrefix := none, authentication := .anonymous }
  fileIo := { enabled := true, endpoint := "http://store:9000", bucket := "bench",
              region := "local", pathStyleAccess := true }
  fixture := { «namespace» := "interop_run", table := "events", requestedLocation := none }
  scenario := sampleScenario

def samplePlan : InteroperabilityPlan where
  runner := none
  catalog := ⟨"catalog", "Catalog", "1", none⟩
  engine := ⟨"trino", "Trino", trinoComponentVersion, none⟩
  connector := ⟨"iceberg-java", "Apache Iceberg Java engine runtimes", "1.11.0", none⟩
  credentialSource := .anonymous
  objectStore := { component := "minio", endpoint := "http://store:9000", bucket := "bench"
                   region := "local", allowHttp := true, pathStyleAccess := true
                   accessKeyEnv := s3AccessKeyEnv, secretKeyEnv := s3SecretKeyEnv }
  runtimePlatform := ⟨"linux", "arm64"⟩
  runtimeArtifacts := []
  execution := .trino sampleTrinoPlan

/-- A process that never started. -/
def unstartedProcess : EngineProcessExecution :=
  .beforeProcess ⟨⟨"linux", "linux", true, "arm64", "aarch64", true⟩, []⟩ .spawnFailed

theorem runEngineWorkflow_authorised_unstarted :
    ∃ execution, (runEngineWorkflow sampleCrates samplePlan).Run recording [] execution
        [⟨.execute, unstartedProcess⟩] ∧
      ¬Owns unstartedProcess ∧ ∃ reason, execution.Skipped reason := by
  let execution := (EngineExecution.pending unstartedProcess).finalize sampleCrates samplePlan
  have hrun : (runEngineWorkflow sampleCrates samplePlan).Run recording [] execution
      [⟨.execute, unstartedProcess⟩] := ⟨unstartedProcess, _, rfl, rfl, rfl⟩
  obtain ⟨process, rest, htr, hconnect, -, -, hskip⟩ :=
    runEngineWorkflow_authorised.1 execution _ hrun
  obtain ⟨rfl, rfl⟩ : process = unstartedProcess ∧ rest = [] := by
    simpa [eq_comm] using htr
  exact ⟨execution, hrun, fun hown => by simpa using hconnect.mpr hown,
    hskip (by simp [WorkflowCall.isCatalog])⟩

end CatalogBench.Engine
