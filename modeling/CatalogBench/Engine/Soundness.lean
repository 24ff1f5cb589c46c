import CatalogBench.Engine.DuckDb
import CatalogBench.Engine.TrinoChild
import CatalogBench.Engine.Workflow

/-!
# What a passing engine run proves

The classification is a conjunction of booleans over a fold of the events. Here each check is
read back as a statement about the events, the catalog replies and the object audit, and
`runEngineWorkflow_pass_sound` assembles them.
-/

set_option linter.all false

namespace CatalogBench.Engine
open CatalogBench.Commit Interaction Interaction.Prog MachineInt

/-- Where the capture of a process can come from: there is none, the decoder read the output of
a child process, or a child ran inside the harness. -/
inductive CaptureSource (crates : Crates) : Option EngineEventCapture → Prop
  | absent : CaptureSource crates none
  | decoded (decode : List UInt8 → Option EngineEvent) (chunks : List (List UInt8)) :
      CaptureSource crates (some (EngineEventDecoder.capture decode chunks))
  | trino {σ : Type} {step : σ → (c : TrinoCall) → c.Reply → σ → Prop}
      {program : TrinoRenderedProgram} {s s' : σ} {run : TrinoChildRun} :
      (runTrinoChild program).Run step s (some run) s' →
      CaptureSource crates (some ⟨run.events, none, 0⟩)
  | duckDb {σ : Type} {step : σ → (c : DuckDbCall) → c.Reply → σ → Prop}
      {effects : DuckDbProductionEffects} {host : HostConsts} {s s' : σ} {run : DuckDbRun} :
      (runDuckDbProgram crates effects host).Run step s (some run) s' →
      CaptureSource crates (some ⟨run.2, none, 0⟩)

theorem CaptureSource.word {crates : Crates} {capture : EngineEventCapture}
    (h : CaptureSource crates (some capture)) (hok : capture.failure = none) :
    EventWord capture.events := by
  cases h with
  | decoded decode chunks => exact EngineEventDecoder.capture_word decode hok
  | trino hrun =>
    obtain ⟨run, hsome, hsettled⟩ := runTrinoChild_settled hrun
    obtain rfl := Option.some.inj hsome
    exact hsettled.eventWord
  | duckDb hrun => exact (runDuckDbProgram_settled hrun).eventWord

/-- The word of a completed run. -/
def completedWord (runtime : EngineRuntimeObservation) (listed : Bool)
    (t₁ : EngineTableObservation) (n₁ : ℕ) (r₁ : RowReadObservation)
    (t₂ : EngineTableObservation) (n₂ : ℕ) (r₂ : RowReadObservation)
    (t₃ : EngineTableObservation) : List EngineEvent :=
  [.runtimeReady runtime, .catalogReady, .fixturePreflight true, .namespaceReady listed,
    .tableReady t₁, .initialAppended n₁, .initialRead r₁, .schemaEvolved t₂, .evolvedAppended n₂,
    .evolvedRead r₂, .finalTable t₃, .completed]

theorem EventWord.of_completed {w : List EngineEvent} (h : EventWord w)
    (hlast : w.getLast? = some .completed) :
    ∃ runtime listed t₁ n₁ r₁ t₂ n₂ r₂ t₃,
      w = completedWord runtime listed t₁ n₁ r₁ t₂ n₂ r₂ t₃ := by
  cases h with
  | failed _ _ => simp at hlast
  | collision => simp at hlast
  | completed hs =>
    simp only [EngineStage.order, List.forall₂_cons_left_iff, List.forall₂_nil_left_iff] at hs
    obtain ⟨e₁, _, h₁, ⟨e₂, _, h₂, ⟨e₃, _, h₃, ⟨e₄, _, h₄, ⟨e₅, _, h₅, ⟨e₆, _, h₆, ⟨e₇, _, h₇,
      ⟨e₈, _, h₈, ⟨e₉, _, h₉, ⟨e₁₀, _, h₁₀, ⟨e₁₁, _, h₁₁, rfl, rfl⟩, rfl⟩, rfl⟩, rfl⟩, rfl⟩, rfl⟩,
      rfl⟩, rfl⟩, rfl⟩, rfl⟩, rfl⟩ := hs
    cases e₁ <;> cases h₁.1
    cases e₂ <;> cases h₂.1
    cases e₃ <;> cases h₃.1
    cases e₄ <;> cases h₄.1
    cases e₅ <;> cases h₅.1
    cases e₆ <;> cases h₆.1
    cases e₇ <;> cases h₇.1
    cases e₈ <;> cases h₈.1
    cases e₉ <;> cases h₉.1
    cases e₁₀ <;> cases h₁₀.1
    cases e₁₁ <;> cases h₁₁.1
    next absent _ _ _ _ _ _ _ _ =>
    cases absent with
    | false => exact absurd rfl h₃.2
    | true => exact ⟨_, _, _, _, _, _, _, _, _, rfl⟩

/-- What the checks see of a completed run. -/
theorem foldl_observe_completedWord (runtime : EngineRuntimeObservation) (listed : Bool)
    (t₁ : EngineTableObservation) (n₁ : ℕ) (r₁ : RowReadObservation)
    (t₂ : EngineTableObservation) (n₂ : ℕ) (r₂ : RowReadObservation)
    (t₃ : EngineTableObservation) :
    (completedWord runtime listed t₁ n₁ r₁ t₂ n₂ r₂ t₃).foldl EventObservations.observe {} =
      { runtime := some runtime, catalogReady := true, fixtureAbsent := true,
        namespaceListedExactly := listed, tableReady := some t₁, initialSnapshots := some n₁,
        initialRead := some r₁, schemaEvolved := some t₂, evolvedSnapshots := some n₂,
        evolvedRead := some r₂, finalTable := some t₃ } := rfl

-- ════════════════════════════════
-- The checks, one by one
-- ════════════════════════════════

section Checks

variable {crates : Crates} {plan : InteroperabilityPlan}

/-- The table has the given fields and snapshots and is otherwise what the plan demands. -/
structure TableShape (crates : Crates) (plan : InteroperabilityPlan)
    (table : EngineTableObservation) (fields : List EngineFieldObservation)
    (snapshots : ℕ) : Prop where
  formatVersion : table.formatVersion = 2
  schema : table.schema = fields
  lastColumnId : (fields.map (·.id)).max? = some table.lastColumnId
  snapshots : table.snapshots = snapshots
  properties : ∀ key : String, table.properties[key]? =
    if key ∈ plan.scenario.table.properties then some .match else none
  uuid : ∃ uuid, crates.parseUuid table.tableUuid = some uuid ∧ uuid.isNil = false
  root : ∃ root, TableRoot.new crates table.location table.metadataLocation
    plan.objectStore.bucket = .ok root
  requested : ∀ location, plan.fixture.requestedLocation = some location →
    table.location = location

theorem expectedProperties_getElem? (plan : InteroperabilityPlan) (key : String) :
    (expectedProperties plan)[key]? =
      if key ∈ plan.scenario.table.properties then some .match else none := by
  unfold expectedProperties
  split_ifs with hkey
  · apply Std.ExtTreeMap.getElem?_ofList_of_mem (k := key) Std.ReflCmp.compare_self
    · exact List.pairwise_map.mpr plan.scenario.table.properties.distinct_keys
    · exact List.mem_map.mpr ⟨key, Std.ExtTreeMap.mem_keys.mpr hkey, rfl⟩
  · apply Std.ExtTreeMap.getElem?_ofList_of_contains_eq_false
    simpa [Function.comp_def] using hkey

theorem exists_ok_of_isOk {ε α : Type} {e : Except ε α} (h : e.isOk = true) : ∃ a, e = .ok a := by
  cases e with
  | ok a => exact ⟨a, rfl⟩
  | error _ => cases h

theorem tableShape_of_matches {table : EngineTableObservation}
    {fields : List EngineFieldObservation} {lastId : ℤ} {snapshots : ℕ}
    (hlast : lastFieldId fields = some lastId)
    (h : tableMatchesShape crates plan table fields lastId snapshots = true) :
    TableShape crates plan table fields snapshots := by
  simp only [tableMatchesShape, Bool.and_eq_true, decide_eq_true_eq, Option.any_eq_true,
    Bool.not_eq_true'] at h
  obtain ⟨⟨⟨⟨⟨⟨⟨hversion, hid⟩, hschema⟩, hsnapshots⟩, hproperties⟩, huuid⟩, hroot⟩, hrequested⟩ := h
  refine ⟨hversion, hschema, by rw [hid]; exact hlast, hsnapshots, fun key => ?_, huuid,
    exists_ok_of_isOk hroot, fun location hlocation => ?_⟩
  · rw [hproperties, expectedProperties_getElem?]
  · rw [hlocation] at hrequested
    simpa [eq_comm] using hrequested

theorem snapshotSequence_some {table : EngineTableObservation} {sequence : ℕ × ℕ × ℕ}
    (h : snapshotSequence (some table) = some sequence) :
    sequence = (table.snapshots, table.snapshots + 1, table.snapshots + 2) := by
  simp only [snapshotSequence, Option.bind_eq_bind, Option.bind_some, Option.bind_eq_some_iff,
    Option.pure_def, Option.some.injEq] at h
  obtain ⟨initial, hinitial, evolved, hevolved, rfl⟩ := h
  obtain ⟨rfl, -⟩ := checkedAdd_eq_some.mp hinitial
  obtain ⟨rfl, -⟩ := checkedAdd_eq_some.mp hevolved
  rfl

/-- The fields after the evolution: one more, numbered after the largest. -/
theorem expectedEvolvedFields_some {fields : List EngineFieldObservation}
    (h : expectedEvolvedFields plan = some fields) :
    ∃ id, ((expectedInitialFields plan).map (·.id)).max? = some id ∧
      fields = expectedInitialFields plan ++ [⟨id + 1, plan.scenario.schemaEvolution.field.name,
        plan.scenario.schemaEvolution.field.required,
        plan.scenario.schemaEvolution.field.fieldType⟩] := by
  simp only [expectedEvolvedFields, Option.bind_eq_bind, Option.bind_eq_some_iff,
    Option.pure_def, Option.some.injEq] at h
  obtain ⟨id, hid, next, hnext, rfl⟩ := h
  exact ⟨id, hid, by rw [checkedSignedAdd_eq hnext]⟩

theorem evolvedTableMatches_shape {events : EventObservations} {select : ℕ × ℕ × ℕ → ℕ}
    {initial table : EngineTableObservation} (hready : events.tableReady = some initial)
    (h : evolvedTableMatches crates plan events select table = true) :
    ∃ fields, expectedEvolvedFields plan = some fields ∧
      TableShape crates plan table fields
        (select (initial.snapshots, initial.snapshots + 1, initial.snapshots + 2)) := by
  simp only [evolvedTableMatches, Option.any_eq_true] at h
  obtain ⟨fields, hfields, lastId, hlast, sequence, hsequence, hshape⟩ := h
  rw [hready] at hsequence
  obtain rfl := snapshotSequence_some hsequence
  exact ⟨fields, hfields, tableShape_of_matches hlast hshape⟩

theorem tableIdentityPreserved_iff {previous current : EngineTableObservation} :
    tableIdentityPreserved previous current = true ↔
      previous.tableUuid = current.tableUuid ∧ previous.location = current.location ∧
        previous.metadataLocation ≠ current.metadataLocation := by
  simp [tableIdentityPreserved, and_assoc]

theorem readMatches_iff {read : RowReadObservation} {expected : CanonicalRead} :
    readMatches read expected = true ↔ read = ⟨expected.rows, expected.bytes, expected.sha256⟩ := by
  cases read
  simp [readMatches, and_assoc]

theorem cleanupPassed_iff
    {dropTable dropNamespace : Except EngineCatalogFailure EngineCleanupReceipt}
    {table presence : Except EngineCatalogFailure EngineResourcePresence} :
    (EngineCleanupEvidence.mk (.ofCatalog dropTable) (.ofCatalog table) (.ofCatalog dropNamespace)
      (.ofCatalog presence)).passed = true ↔
      (∃ receipt, dropTable = .ok receipt) ∧ (∃ a b, table = .ok (.absent a b)) ∧
        (∃ receipt, dropNamespace = .ok receipt) ∧ ∃ a b, presence = .ok (.absent a b) := by
  have hdone : ∀ {r : Except EngineCatalogFailure EngineCleanupReceipt},
      (EngineOperationEvidence.ofCatalog r).passed = true ↔ ∃ receipt, r = .ok receipt := by
    rintro (_ | _) <;> simp [EngineOperationEvidence.ofCatalog, EngineOperationEvidence.passed]
  have hgone : ∀ {r : Except EngineCatalogFailure EngineResourcePresence},
      (EngineOperationEvidence.ofCatalog r).output.any EngineResourcePresence.isAbsent = true ↔
        ∃ a b, r = .ok (.absent a b) := by
    rintro (_ | _ | _) <;> simp [EngineOperationEvidence.ofCatalog,
      EngineOperationEvidence.output, EngineResourcePresence.isAbsent]
  simp only [EngineCleanupEvidence.passed, Bool.and_eq_true, hdone, hgone, and_assoc]

/-- The audit of a table that the object check accepts. -/
structure AuditComplete (plan : InteroperabilityPlan) (table : EngineTableObservation)
    (audit : TableObjectAuditSnapshot) : Prop where
  tableRoot : audit.tableRoot = table.location
  referenced : audit.referencedMetadataLocation = table.metadataLocation
  referencedExists : audit.referencedMetadataExists = true
  metadataObjects : plan.scenario.objectAudit.minimumMetadataObjects ≤ audit.metadataObjects
  metadataBytes : 0 < audit.metadataBytes
  parquetObjects : plan.scenario.objectAudit.minimumParquetObjects ≤ audit.parquetObjects
  parquetBytes : 0 < audit.parquetBytes

theorem objectEvidenceComplete_audited {a b : ℕ} {state : EngineCatalogTable}
    {evidence : EngineOperationEvidence TableObjectAuditSnapshot} {calls : WorkflowTrace}
    (htrace : AuditTrace crates plan (some (.present a b state)) evidence calls)
    (h : objectEvidenceComplete plan (some (.present a b state)) evidence = true) :
    ∃ root audit, TableRoot.new crates state.table.location state.table.metadataLocation
        plan.objectStore.bucket = .ok root ∧
      ⟨.auditTable root state.table.metadataLocation, .ok audit⟩ ∈ calls ∧
      AuditComplete plan state.table audit := by
  cases htrace with
  | unavailable hload => exact absurd rfl (hload a b state)
  | badRoot _ => simp [objectEvidenceComplete, EngineOperationEvidence.output] at h
  | noStore => simp [objectEvidenceComplete, EngineOperationEvidence.output] at h
  | @audited _ _ _ root reply hroot =>
    cases reply with
    | error failure =>
      simp [objectEvidenceComplete, EngineOperationEvidence.output,
        EngineOperationEvidence.ofObjectStore] at h
    | ok audit =>
      simp only [objectEvidenceComplete, EngineOperationEvidence.output,
        EngineOperationEvidence.ofObjectStore, Bool.and_eq_true, decide_eq_true_eq] at h
      obtain ⟨⟨⟨⟨⟨⟨hroot', href⟩, hexists⟩, hmeta⟩, hmetaBytes⟩, hparquet⟩, hparquetBytes⟩ := h
      exact ⟨root, audit, hroot, by simp, hroot', href, hexists, hmeta, hmetaBytes, hparquet,
        hparquetBytes⟩

theorem catalogStateMatches_present {events : EventObservations} {table : EngineTableObservation}
    {load : Except EngineCatalogFailure EngineTableLoad} (hfinal : events.finalTable = some table)
    (h : catalogStateMatches events (EngineOperationEvidence.ofCatalog load).output = true) :
    ∃ a b, load = .ok (.present a b ⟨1, table⟩) := by
  unfold catalogStateMatches at h
  rw [hfinal] at h
  rcases load with failure | ⟨a, b, ⟨schemaId, loaded⟩⟩ | ⟨a, b⟩
  · cases h
  · simp only [EngineOperationEvidence.ofCatalog, EngineOperationEvidence.output,
      Bool.and_eq_true, decide_eq_true_eq] at h
    exact ⟨a, b, by rw [h.1, h.2]⟩
  · cases h

theorem finalize_pass {execution : EngineExecution}
    (h : (execution.finalize crates plan).classification = .pass) :
    execution.process.passed = true ∧ (evaluateChecks crates plan execution).allPassed = true := by
  unfold EngineExecution.finalize at h
  dsimp only at h
  split_ifs at h with hcollision hpass
  simpa using hpass

theorem passed_iff (process : EngineProcessExecution) :
    process.passed = true ↔ process.outcome = .completed ∧ process.exitCode = some successExit ∧
      ∃ capture, process.capture = some capture ∧ capture.failure = none ∧
        capture.events.getLast? = some .completed := by
  simp only [EngineProcessExecution.passed, EngineEventCapture.completed, Bool.and_eq_true,
    decide_eq_true_eq, Option.any_eq_true, Option.isNone_iff_eq_none, and_assoc]

/-- A run that did not clean up does not pass. -/
theorem not_allPassed_of_skipped {execution : EngineExecution} {reason : EngineSkipReason}
    (hskip : execution.cleanup = .skipped reason) :
    (evaluateChecks crates plan execution).allPassed = false := by
  have hclean : (evaluateChecks crates plan execution).fixtureClean = false := by
    change execution.cleanup.passed = false
    rw [hskip]
    rfl
  simp [EngineBehaviorChecks.allPassed, hclean]

end Checks

-- ════════════════════════════════
-- A passing run
-- ════════════════════════════════

section Pass

variable {crates : Crates} {plan : InteroperabilityPlan}

/-- Two observations of one table before and after a commit. -/
structure SameTable (previous current : EngineTableObservation) : Prop where
  uuid : previous.tableUuid = current.tableUuid
  location : previous.location = current.location
  metadata : previous.metadataLocation ≠ current.metadataLocation

/-- What the events of a passing run say. -/
structure EventsConform (crates : Crates) (plan : InteroperabilityPlan)
    (events : List EngineEvent) (t₁ t₂ t₃ : EngineTableObservation) : Prop where
  /-- All stages in order, with the snapshots counted up by the appends and the reads exact. -/
  word : ∃ runtime, events = completedWord runtime true t₁ (t₁.snapshots + 1)
    ⟨plan.scenario.canonicalReads.initial.rows, plan.scenario.canonicalReads.initial.bytes,
      plan.scenario.canonicalReads.initial.sha256⟩
    t₂ (t₁.snapshots + 2)
    ⟨plan.scenario.canonicalReads.afterEvolution.rows,
      plan.scenario.canonicalReads.afterEvolution.bytes,
      plan.scenario.canonicalReads.afterEvolution.sha256⟩ t₃
  evolved : SameTable t₁ t₂
  final : SameTable t₂ t₃
  /-- The shapes, the evolved ones with one more field numbered after the largest. -/
  shapes : ∃ id, ((expectedInitialFields plan).map (·.id)).max? = some id ∧
    let fields := expectedInitialFields plan ++ [⟨id + 1, plan.scenario.schemaEvolution.field.name,
      plan.scenario.schemaEvolution.field.required,
      plan.scenario.schemaEvolution.field.fieldType⟩]
    TableShape crates plan t₁ (expectedInitialFields plan) t₁.snapshots ∧
      TableShape crates plan t₂ fields (t₁.snapshots + 1) ∧
      TableShape crates plan t₃ fields (t₁.snapshots + 2)

/-- The observations of a completed run. -/
def completedObservations (runtime : EngineRuntimeObservation) (t₁ t₂ t₃ : EngineTableObservation)
    (n₁ n₂ : ℕ) (r₁ r₂ : RowReadObservation) : EventObservations where
  runtime := some runtime
  catalogReady := true
  fixtureAbsent := true
  namespaceListedExactly := true
  tableReady := some t₁
  initialSnapshots := some n₁
  initialRead := some r₁
  schemaEvolved := some t₂
  evolvedSnapshots := some n₂
  evolvedRead := some r₂
  finalTable := some t₃

/-- Checks that pass have seen everything. -/
theorem observations_of_checks {execution : EngineExecution}
    (hchecks : (evaluateChecks crates plan execution).allPassed = true) :
    ∃ runtime t₁ t₂ t₃ n₁ n₂ r₁ r₂, EventObservations.fromExecution execution.process =
      completedObservations runtime t₁ t₂ t₃ n₁ n₂ r₁ r₂ := by
  simp only [evaluateChecks, EngineBehaviorChecks.allPassed, Bool.and_eq_true] at hchecks
  obtain ⟨⟨⟨⟨⟨⟨⟨⟨⟨⟨⟨⟨hpinned, hready⟩, habsent⟩, hlisted⟩, hround⟩, happend⟩, hread⟩, hevolved⟩,
    happend'⟩, hread'⟩, ⟨hfinal, -⟩⟩, -⟩, -⟩ := hchecks
  obtain ⟨runtime, hruntime, -⟩ := (Option.any_eq_true _ _).mp hpinned.2
  obtain ⟨t₁, htable, -⟩ := (Option.any_eq_true _ _).mp hround
  obtain ⟨t₂, hschema, -⟩ := (Option.any_eq_true _ _).mp hevolved
  obtain ⟨t₃, hlast, -⟩ := (Option.any_eq_true _ _).mp hfinal
  obtain ⟨r₁, hinitial, -⟩ := (Option.any_eq_true _ _).mp hread
  obtain ⟨r₂, hsecond, -⟩ := (Option.any_eq_true _ _).mp hread'
  obtain ⟨sequence, -, hcount⟩ := (Option.any_eq_true _ _).mp happend
  obtain ⟨sequence', -, hcount'⟩ := (Option.any_eq_true _ _).mp happend'
  refine ⟨runtime, t₁, t₂, t₃, sequence.2.1, sequence'.2.2, r₁, r₂, ?_⟩
  rw [decide_eq_true_eq] at hcount hcount'
  obtain ⟨observations, hobs⟩ : ∃ observations,
    EventObservations.fromExecution execution.process = observations := ⟨_, rfl⟩
  rw [hobs] at hruntime hready habsent hlisted htable hcount hinitial hschema hcount' hsecond hlast
  rw [hobs]
  obtain ⟨_, _, _, _, _, _, _, _, _, _, _⟩ := observations
  cases hruntime; cases hready.1; cases habsent; cases hlisted; cases htable; cases hcount
  cases hinitial; cases hschema; cases hcount'; cases hsecond; cases hlast
  rfl

/-- What passed checks say about the observations of a completed run. -/
theorem conforms_of_observations {execution : EngineExecution} {runtime : EngineRuntimeObservation}
    {t₁ t₂ t₃ : EngineTableObservation} {n₁ n₂ : ℕ} {r₁ r₂ : RowReadObservation}
    (hobs : EventObservations.fromExecution execution.process =
      completedObservations runtime t₁ t₂ t₃ n₁ n₂ r₁ r₂)
    (hchecks : (evaluateChecks crates plan execution).allPassed = true) :
    EventsConform crates plan (completedWord runtime true t₁ n₁ r₁ t₂ n₂ r₂ t₃) t₁ t₂ t₃ ∧
      catalogStateMatches { finalTable := some t₃ } execution.catalogState.output = true := by
  simp only [evaluateChecks, hobs, completedObservations, EngineBehaviorChecks.allPassed,
    Bool.and_eq_true] at hchecks
  obtain ⟨⟨⟨⟨⟨⟨⟨⟨⟨⟨⟨⟨-, -⟩, -⟩, -⟩, hround⟩, happend⟩, hread⟩, hevolved⟩, happend'⟩, hread'⟩,
    ⟨hfinal, hstate⟩⟩, -⟩, -⟩ := hchecks
  refine ⟨?_, hstate⟩
  simp only [tableRoundTrip, Option.any_some, Option.any_eq_true] at hround
  obtain ⟨lastId, hlastId, hshape⟩ := hround
  simp only [schemaEvolvedMatches, Option.any_some, Bool.and_eq_true] at hevolved
  simp only [finalTableMatches, Option.any_some, Bool.and_eq_true] at hfinal
  obtain ⟨fields, hfields, hshape₂⟩ := evolvedTableMatches_shape rfl hevolved.1
  obtain ⟨fields', hfields', hshape₃⟩ := evolvedTableMatches_shape rfl hfinal.1
  obtain rfl : fields = fields' := Option.some.inj (hfields.symm.trans hfields')
  obtain ⟨id, hid, rfl⟩ := expectedEvolvedFields_some hfields
  simp only [Option.any_eq_true, decide_eq_true_eq, Option.some.injEq] at happend happend'
  obtain ⟨sequence, hsequence, rfl⟩ := happend
  obtain ⟨sequence', hsequence', rfl⟩ := happend'
  obtain rfl := snapshotSequence_some hsequence
  obtain rfl := snapshotSequence_some hsequence'
  obtain rfl := readMatches_iff.mp (by simpa using hread)
  obtain rfl := readMatches_iff.mp (by simpa using hread')
  obtain ⟨huuid, hlocation, hmetadata⟩ := tableIdentityPreserved_iff.mp hevolved.2
  obtain ⟨huuid', hlocation', hmetadata'⟩ := tableIdentityPreserved_iff.mp hfinal.2.1
  exact ⟨⟨runtime, rfl⟩, ⟨huuid, hlocation, hmetadata⟩, ⟨huuid', hlocation', hmetadata'⟩, id, hid,
    tableShape_of_matches hlastId hshape, hshape₂, hshape₃⟩

theorem eventsConform_of_checks {execution : EngineExecution} {capture : EngineEventCapture}
    (hcapture : execution.process.capture = some capture) (hword : EventWord capture.events)
    (hlast : capture.events.getLast? = some .completed)
    (hchecks : (evaluateChecks crates plan execution).allPassed = true) :
    ∃ t₁ t₂ t₃, EventsConform crates plan capture.events t₁ t₂ t₃ ∧
      catalogStateMatches { finalTable := some t₃ } execution.catalogState.output = true := by
  obtain ⟨runtime, listed, t₁, n₁, r₁, t₂, n₂, r₂, t₃, hevents⟩ := hword.of_completed hlast
  obtain ⟨_, _, _, _, _, _, _, _, hobs⟩ := observations_of_checks hchecks
  obtain ⟨hconform, hstate⟩ := conforms_of_observations hobs hchecks
  rw [EventObservations.fromExecution, hcapture] at hobs
  dsimp only at hobs
  rw [hevents, foldl_observe_completedWord] at hobs
  cases hobs
  exact ⟨t₁, t₂, t₃, by rwa [hevents], hstate⟩

/-- A run is only classified as passing if the engine did everything the scenario asks for, the
catalog and the object store agree with it, and the fixture is gone. -/
theorem runEngineWorkflow_pass_sound {execution : EngineExecution} {tr : WorkflowTrace}
    (h : (runEngineWorkflow crates plan).Run recording [] execution tr)
    (hsource : CaptureSource crates execution.process.capture)
    (hpass : execution.classification = .pass) :
    execution.process.outcome = .completed ∧ execution.process.exitCode = some 0 ∧
    ⟨.execute, execution.process⟩ ∈ tr ∧
    ∃ capture t₁ t₂ t₃,
      execution.process.capture = some capture ∧ capture.failure = none ∧
      EventsConform crates plan capture.events t₁ t₂ t₃ ∧
      (∃ a b, ⟨.loadTable, .ok (.present a b ⟨1, t₃⟩)⟩ ∈ tr) ∧
      (∃ root audit, TableRoot.new crates t₃.location t₃.metadataLocation
          plan.objectStore.bucket = .ok root ∧
        ⟨.auditTable root t₃.metadataLocation, .ok audit⟩ ∈ tr ∧ AuditComplete plan t₃ audit) ∧
      (∃ receipt, ⟨.dropTableWithoutPurge, .ok receipt⟩ ∈ tr) ∧
      (∃ a b, ⟨.tablePresence, .ok (.absent a b)⟩ ∈ tr) ∧
      (∃ receipt, ⟨.dropNamespace, .ok receipt⟩ ∈ tr) ∧
      ∃ a b, ⟨.namespacePresence, .ok (.absent a b)⟩ ∈ tr := by
  cases runEngineWorkflow_cases h with
  | unowned _ =>
    have hchecks := (finalize_pass hpass).2
    rw [not_allPassed_of_skipped rfl] at hchecks
    cases hchecks
  | unreachable _ =>
    have hchecks := (finalize_pass hpass).2
    rw [not_allPassed_of_skipped rfl] at hchecks
    cases hchecks
  | @cleaned process negotiation load objectState calls dropTable table dropNamespace presence
      hauth haudit =>
    obtain ⟨hpassed, hchecks⟩ := finalize_pass hpass
    obtain ⟨houtcome, hexit, capture, hcapture, hok, hlast⟩ := (passed_iff _).mp hpassed
    have hcapture : process.capture = some capture := hcapture
    have hsource : CaptureSource crates process.capture := hsource
    rw [hcapture] at hsource
    obtain ⟨t₁, t₂, t₃, hconform, hstate⟩ :=
      eventsConform_of_checks hcapture (hsource.word hok) hlast hchecks
    obtain ⟨a, b, rfl⟩ := catalogStateMatches_present rfl hstate
    simp only [EngineBehaviorChecks.allPassed, Bool.and_eq_true] at hchecks
    obtain ⟨⟨-, hobject⟩, hclean⟩ := hchecks
    obtain ⟨root, audit, hroot, hmem, hcomplete⟩ :=
      objectEvidenceComplete_audited haudit ((Bool.and_eq_true _ _).mp hobject).2
    obtain ⟨⟨receipt, rfl⟩, ⟨c, d, rfl⟩, ⟨receipt', rfl⟩, e, f, rfl⟩ := cleanupPassed_iff.mp hclean
    refine ⟨houtcome, hexit, by simp [EngineExecution.finalize, EngineExecution.pending], capture,
      t₁, t₂, t₃, hcapture, hok, hconform, ⟨a, b, by simp⟩, ⟨root, audit, hroot, by simp [hmem],
      hcomplete⟩, ⟨receipt, by simp [cleanupCalls]⟩, ⟨c, d, by simp [cleanupCalls]⟩,
      ⟨receipt', by simp [cleanupCalls]⟩, e, f, by simp [cleanupCalls]⟩

end Pass

-- ════════════════════════════════
-- A small scenario that passes
-- ════════════════════════════════

/-- The table after `n` observations of it. -/
def sampleTable (n : ℕ) : EngineTableObservation where
  tableUuid := "00000000-0000-4000-8000-000000000001"
  metadataLocation := "s3://bench/events/metadata/" ++ toString n ++ ".metadata.json"
  location := "s3://bench/events"
  formatVersion := 2
  lastColumnId := if n = 0 then 3 else 4
  schema := (sampleScenario.table.schema.fields.map engineField) ++
    if n = 0 then [] else [⟨4, "note", false, .string⟩]
  snapshots := n
  properties := .ofList [("owner", .match)] _

/-- A Trino runtime that does what it is told; the state counts the observations. -/
def sampleEffects (n : ℕ) : (c : TrinoCall) → c.Reply × ℕ
  | .runtimeObservation => (.ok ⟨"483", .ofList [("java", "25.0.3")] _, "linux", "aarch64"⟩, n)
  | .initializeCatalog _ _ => (.ok (), n)
  | .fixtureAbsent _ => (.ok true, n)
  | .execute _ => (.ok (), n)
  | .namespaceListedExactly _ => (.ok true, n)
  | .observeTable _ _ => (.ok (sampleTable n), n + 1)
  | .read operation => (.ok ((expectedRead operation).getD ⟨0, 0, ""⟩), n)
  | .snapshotCount _ => (.ok n, n)

def sampleProgram : TrinoRenderedProgram :=
  ((TrinoRenderedProgram.render sampleCrates sampleTrinoPlan).toOption).getD idleTrinoProgram

/-- What the child reports when the runtime does what it is told. -/
def sampleRun : TrinoChildRun where
  exitCode := 0
  events := completedWord ⟨"483", .ofList [("java", "25.0.3")] _, "linux", "aarch64"⟩ true
    (sampleTable 0) 1 ⟨1, 13, "initial"⟩ (sampleTable 1) 2 ⟨2, 36, "evolved"⟩ (sampleTable 2)

theorem sampleProgram_configured :
    ∃ configuration, TrinoServerConfiguration.render sampleProgram = .ok configuration := by
  have hok : (TrinoServerConfiguration.render sampleProgram).isOk = true := by decide +kernel
  cases hrender : TrinoServerConfiguration.render sampleProgram with
  | error _ => rw [hrender] at hok; cases hok
  | ok configuration => exact ⟨configuration, rfl⟩

theorem sampleRun_eq : ((runTrinoChild sampleProgram).exec sampleEffects 0).1 = some sampleRun := by
  decide +kernel

def sampleStep (n : ℕ) (c : TrinoCall) (r : c.Reply) (n' : ℕ) : Prop := (r, n') = sampleEffects n c

theorem sampleRun_run : (runTrinoChild sampleProgram).Run sampleStep 0 (some sampleRun)
    ((runTrinoChild sampleProgram).exec sampleEffects 0).2 := by
  have hobeys : ∀ n c, sampleStep n c (sampleEffects n c).1 (sampleEffects n c).2 := fun _ _ => rfl
  have hrun := run_exec sampleEffects hobeys (runTrinoChild sampleProgram) 0
  rwa [sampleRun_eq] at hrun

def sampleNegotiation : EngineCatalogNegotiationEvidence where
  adapter := ⟨"catalog", "Catalog", "1", .icebergRestV1, .protocolNative⟩
  authentication := ⟨.anonymous, .ready, none⟩
  config := ⟨some 200, some 2, .unprefixed, .default, none⟩
  redactionsObserved := 0

/-- A runner, a catalog and a store that agree with each other. -/
def sampleReplies : (c : WorkflowCall) → c.Reply
  | .execute => .fromInProcessEvents
      ⟨⟨"linux", "linux", true, "arm64", "aarch64", true⟩, []⟩ sampleRun.exitCode sampleRun.events 1
  | .connectCatalog => .ready sampleNegotiation
  | .loadTable => .ok (.present 200 512 ⟨1, sampleTable 2⟩)
  | .dropTableWithoutPurge => .ok ⟨204, 0, false⟩
  | .tablePresence => .ok (.absent 404 0)
  | .dropNamespace => .ok ⟨204, 0, false⟩
  | .namespacePresence => .ok (.absent 404 0)
  | .connectStore => .ok ()
  | .auditTable root metadataLocation =>
      .ok ⟨root.location, 3, 300, 2, 200, metadataLocation, true⟩

def sampleOutcome : EngineExecution × WorkflowTrace :=
  (runEngineWorkflow sampleCrates samplePlan).exec
    (fun tr c => (sampleReplies c, tr ++ [⟨c, sampleReplies c⟩])) []

theorem runEngineWorkflow_pass_sound_sample :
    sampleOutcome.1.classification = .pass ∧
    ∃ t₁ t₂ t₃, EventsConform sampleCrates samplePlan sampleRun.events t₁ t₂ t₃ := by
  have hrun : (runEngineWorkflow sampleCrates samplePlan).Run recording [] sampleOutcome.1
      sampleOutcome.2 := run_exec _ (fun _ _ => rfl) _ _
  have hcapture : sampleOutcome.1.process.capture = some ⟨sampleRun.events, none, 0⟩ := by
    decide +kernel
  have hpass : sampleOutcome.1.classification = .pass := by decide +kernel
  obtain ⟨-, -, -, capture, t₁, t₂, t₃, hsome, -, hconform, -⟩ :=
    runEngineWorkflow_pass_sound hrun (hcapture ▸ .trino sampleRun_run) hpass
  obtain rfl := Option.some.inj (hcapture.symm.trans hsome)
  exact ⟨hpass, t₁, t₂, t₃, hconform⟩

end CatalogBench.Engine
