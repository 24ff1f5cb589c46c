import CatalogBench.Engine.TrinoScript

/-!
# One stage protocol, two engines

`runDuckDbProgram` and `runTrinoChild` write the same orchestration out twice. `StageOutcomes`
assigns an outcome to every abstract stage; `TrinoObeys` and `DuckDbObeys` say that the replies
of a run have these outcomes. The engines report the same skeleton under one assignment, except
that DuckDB reads an unanswered preflight as a fixture that exists.
-/

set_option linter.all false

namespace CatalogBench.Engine
open CatalogBench.Commit Interaction Interaction.Prog

-- ════════════════════════════════
-- Skeletons
-- ════════════════════════════════

inductive EventKind
  | runtimeReady | catalogReady | fixturePreflight | namespaceReady | tableReady | initialAppended
  | initialRead | schemaEvolved | evolvedAppended | evolvedRead | finalTable | completed | failed
  deriving DecidableEq

/-- What an event says apart from observed values. -/
structure EventSkeleton where
  kind : EventKind
  failure : Option (EngineStage × EngineFailureCategory) := none
  absent : Option Bool := none
  deriving DecidableEq

def EngineEvent.skeleton : EngineEvent → EventSkeleton
  | .runtimeReady _ => { kind := .runtimeReady }
  | .catalogReady => { kind := .catalogReady }
  | .fixturePreflight absent => { kind := .fixturePreflight, absent := some absent }
  | .namespaceReady _ => { kind := .namespaceReady }
  | .tableReady _ => { kind := .tableReady }
  | .initialAppended _ => { kind := .initialAppended }
  | .initialRead _ => { kind := .initialRead }
  | .schemaEvolved _ => { kind := .schemaEvolved }
  | .evolvedAppended _ => { kind := .evolvedAppended }
  | .evolvedRead _ => { kind := .evolvedRead }
  | .finalTable _ => { kind := .finalTable }
  | .completed => { kind := .completed }
  | .failed stage category => { kind := .failed, failure := some (stage, category) }

def skeletons (events : List EngineEvent) : List EventSkeleton := events.map EngineEvent.skeleton

-- ════════════════════════════════
-- Outcomes
-- ════════════════════════════════

/-- An outcome for every abstract stage. A flag says whether the stage succeeded; `none` is a
stage that failed or whose answer could not be read. -/
structure StageOutcomes where
  /-- the runtime answered with the pinned version -/
  runtime : Bool
  /-- how many tables with the name of the fixture there are -/
  preflight : Option ℕ
  createNamespace : Bool
  /-- how many namespaces with the name of the fixture there are -/
  listing : Option ℕ
  createTable : Bool
  created : Option EngineTableObservation
  initialAppend : Bool
  initialSnapshots : Option ℕ
  initialRead : Option RowReadObservation
  addColumn : Bool
  evolved : Option EngineTableObservation
  evolvedAppend : Bool
  evolvedSnapshots : Option ℕ
  evolvedRead : Option RowReadObservation
  final : Option EngineTableObservation

/-- The stage of each observation and of each count, by the number of calls the child has made. -/
def StageOutcomes.trinoObservation (o : StageOutcomes) : ℕ → Option EngineTableObservation
  | 6 => o.created
  | 11 => o.evolved
  | _ => o.final

def StageOutcomes.trinoSnapshots (o : StageOutcomes) : ℕ → Option ℕ
  | 8 => o.initialSnapshots
  | _ => o.evolvedSnapshots

def StageOutcomes.executed (o : StageOutcomes) : TrinoOperationPurpose → Bool
  | .createNamespace => o.createNamespace
  | .createTable => o.createTable
  | .initialAppend => o.initialAppend
  | .addColumn => o.addColumn
  | _ => o.evolvedAppend

def StageOutcomes.read (o : StageOutcomes) : TrinoOperationPurpose → Option RowReadObservation
  | .initialRead => o.initialRead
  | _ => o.evolvedRead

/-- The reply to the next call of a child that has made `n` calls has the outcome of its stage.
The catalog is initialised. -/
def TrinoReplies (o : StageOutcomes) (n : ℕ) : (c : TrinoCall) → c.Reply → Prop
  | .runtimeObservation, r => r.isOk = o.runtime
  | .initializeCatalog _ _, r => r = .ok ()
  | .fixtureAbsent _, r => r.toOption = o.preflight.map fun count => count == 0
  | .execute operation, r => r.isOk = o.executed operation.purpose
  | .namespaceListedExactly _, r => r.toOption = o.listing.map fun count => count == 1
  | .observeTable _ _, r => r.toOption = o.trinoObservation n
  | .read operation, r => r.toOption = o.read operation.purpose
  | .snapshotCount _, r => r.toOption = o.trinoSnapshots n

def TrinoObeys (o : StageOutcomes) (n : ℕ) (c : TrinoCall) (r : c.Reply) (n' : ℕ) : Prop :=
  n' = n + 1 ∧ TrinoReplies o n c r

section DuckDb

variable (crates : Crates) (effects : DuckDbProductionEffects) (host : HostConsts)
  (ops : OrderedOperations CanonicalRead)

/-- The runtime query answered with the pinned version. -/
def versionAnswered (rows : Except Unit (List Json)) : Bool :=
  match rows with
  | .ok rows => ((rows.head?.bind (·.get "version")).bind Json.asStr) = some "v1.5.3"
  | .error _ => false

/-- The snapshots a query counted, if it counted any. -/
def countedSnapshots (rows : Except Unit (List Json)) : Option ℕ :=
  match rows with
  | .ok rows => duckdbU64 rows "snapshots"
  | .error _ => none

/-- What a query read, in canonical form. -/
def canonicalRead (columns : List String) (rows : Except Unit (List Json)) :
    Option RowReadObservation :=
  match rows with
  | .ok rows =>
    match canonicalRows crates columns rows with
    | .ok canonical =>
      some { rows := rows.length, bytes := canonical.length, sha256 := crates.sha256Hex canonical }
    | .error _ => none
  | .error _ => none

def StageOutcomes.duckDbObservation (o : StageOutcomes) : ℕ → Option EngineTableObservation
  | 5 => o.created
  | 11 => o.evolved
  | _ => o.final

def StageOutcomes.duckDbSnapshots (o : StageOutcomes) : ℕ → Option ℕ
  | 7 | 8 => o.initialSnapshots
  | _ => o.evolvedSnapshots

/-- The reply to the next call of a program that has made `n` calls has the outcome of its
stage. A count of snapshots takes two calls: it fails when the table is not there, and is what
the query counts otherwise. -/
def DuckDbReplies (o : StageOutcomes) (n : ℕ) : (c : DuckDbCall) → c.Reply → Prop
  | .tableObservation, r => r.toOption = o.duckDbObservation n
  | .loadTable, r => (∃ a b state, r = .ok (.present a b state)) ∨ o.duckDbSnapshots n = none
  | .cli _ _, rows =>
    match n with
    | 0 => versionAnswered rows = o.runtime
    | 1 => countedRows rows = o.preflight
    | 2 => rows.isOk = o.createNamespace
    | 3 => countedRows rows = o.listing
    | 4 => rows.isOk = o.createTable
    | 6 => rows.isOk = o.initialAppend
    | 9 => canonicalRead crates ops.initialExpected.columns rows = o.initialRead
    | 10 => rows.isOk = o.addColumn
    | 12 => rows.isOk = o.evolvedAppend
    | 15 => canonicalRead crates ops.evolvedExpected.columns rows = o.evolvedRead
    | _ => countedSnapshots rows = o.duckDbSnapshots n

def DuckDbObeys (o : StageOutcomes) (n : ℕ) (c : DuckDbCall) (r : c.Reply) (n' : ℕ) : Prop :=
  n' = n + 1 ∧ DuckDbReplies crates ops o n c r

-- ════════════════════════════════
-- The DuckDB program as stages
-- ════════════════════════════════

abbrev DuckDbStage := Stage DuckDbCall DuckDbCall.Reply (List EngineEvent) (Option DuckDbRun)

def duckDbStage {ρ : Type} (body : DuckDbProg ρ) (stage : EngineStage)
    (category : EngineFailureCategory)
    (accept : List EngineEvent → ρ → Option (List EngineEvent)) : DuckDbStage where
  Reply := ρ
  body := body
  next events reply :=
    match accept events reply with
    | some events => .ok events
    | none => .error (some (duckdbFailed events stage category))

/-- The catalog is attached by the setup of every query. -/
def attachedStage : DuckDbStage where
  Reply := Unit
  body := .pure ()
  next events _ := .ok (events ++ [EngineEvent.catalogReady])

/-- Anything but a count of zero is a fixture that exists. -/
def countedPreflightStage : DuckDbStage where
  Reply := Except Unit (List Json)
  body := duckdbQuery crates effects (fixtureAbsentSql effects.program)
  next events counted :=
    if countedRows counted = some 0 then .ok (events ++ [EngineEvent.fixturePreflight true])
    else .error (some (3, events ++ [EngineEvent.fixturePreflight false]))

def versionAccepted (events : List EngineEvent) (rows : Except Unit (List Json)) :
    Option (List EngineEvent) :=
  if versionAnswered rows then some (events ++ [EngineEvent.runtimeReady (duckdbRuntime host)]) else none

def listingAccepted (events : List EngineEvent) (rows : Except Unit (List Json)) :
    Option (List EngineEvent) :=
  if countedRows rows ≠ some 1 then none else some (events ++ [EngineEvent.namespaceReady true])

def duckDbOperations : List DuckDbOperation :=
  [.createNamespace ops.createNamespace, .createTable ops.createTable,
    .initialAppend ops.initialAppend, .initialRead ops.initialRead ops.initialExpected,
    .addColumn ops.addColumn, .evolvedAppend ops.evolvedAppend,
    .evolvedRead ops.evolvedRead ops.evolvedExpected, .snapshotRead]

def duckDbStages : List DuckDbStage :=
  [duckDbStage (duckdbQuery crates effects "SELECT version() AS version") .verifyRuntime .runtime
      (versionAccepted host),
    attachedStage,
    countedPreflightStage crates effects,
    duckDbStage (duckdbExecute crates effects (.createNamespace ops.createNamespace))
      .createNamespace .catalog silently,
    duckDbStage (duckdbQuery crates effects (namespaceListedSql effects.program)) .createNamespace
      .catalog listingAccepted,
    duckDbStage (duckdbExecute crates effects (.createTable ops.createTable)) .createTable
      .connector silently,
    duckDbStage (ask DuckDbCall.tableObservation) .createTable .connector (reporting .tableReady),
    duckDbStage (duckdbExecute crates effects (.initialAppend ops.initialAppend)) .appendInitial
      .data silently,
    duckDbStage (duckdbSnapshotCount crates effects) .appendInitial .data
      (reporting .initialAppended),
    duckDbStage (duckdbRead crates effects (.initialRead ops.initialRead ops.initialExpected))
      .readInitial .data (reporting .initialRead),
    duckDbStage (duckdbExecute crates effects (.addColumn ops.addColumn)) .evolveSchema .connector
      silently,
    duckDbStage (ask DuckDbCall.tableObservation) .evolveSchema .connector
      (reporting .schemaEvolved),
    duckDbStage (duckdbExecute crates effects (.evolvedAppend ops.evolvedAppend)) .appendEvolved
      .data silently,
    duckDbStage (duckdbSnapshotCount crates effects) .appendEvolved .data
      (reporting .evolvedAppended),
    duckDbStage (duckdbRead crates effects (.evolvedRead ops.evolvedRead ops.evolvedExpected))
      .readEvolved .data (reporting .evolvedRead),
    duckDbStage (ask DuckDbCall.tableObservation) .observeFinalTable .connector
      (reporting .finalTable)]

def duckDbFinish (events : List EngineEvent) : Option DuckDbRun :=
  some (0, events ++ [EngineEvent.completed])

variable {crates effects host ops}

theorem bind_eq_duckDbStages {ρ : Type} {body : DuckDbProg ρ} {stage : EngineStage}
    {category : EngineFailureCategory}
    {accept : List EngineEvent → ρ → Option (List EngineEvent)} {rest : List DuckDbStage}
    {events : List EngineEvent} {f : ρ → DuckDbProg (Option DuckDbRun)}
    (hnone : ∀ r, accept events r = none → f r = pure (some (duckdbFailed events stage category)))
    (hsome : ∀ r events', accept events r = some events' →
      f r = stages duckDbFinish rest events') :
    (body >>= f) = stages duckDbFinish (duckDbStage body stage category accept :: rest) events := by
  refine @bind_eq_stages _ _ _ _ _ (duckDbStage body stage category accept) _ _ _ ?_
  intro r
  simp only [duckDbStage]
  cases haccept : accept events r with
  | some events' => exact hsome r events' haccept
  | none => exact hnone r haccept

theorem execute_eq_duckDbStages {operation : DuckDbOperation} {stage : EngineStage}
    {category : EngineFailureCategory} {rest : List DuckDbStage} {events : List EngineEvent}
    {f : Except Unit Unit → DuckDbProg (Option DuckDbRun)}
    (herror : ∀ e, f (.error e) = pure (some (duckdbFailed events stage category)))
    (hok : f (.ok ()) = stages duckDbFinish rest events) :
    (duckdbExecute crates effects operation >>= f) = stages duckDbFinish
      (duckDbStage (duckdbExecute crates effects operation) stage category silently :: rest)
      events := by
  apply bind_eq_duckDbStages
  · intro r h
    obtain ⟨e, rfl⟩ := silently_eq_none h
    exact herror e
  · intro r events' h
    obtain ⟨⟨_, rfl⟩, rfl⟩ := silently_eq_some h
    exact hok

theorem reporting_eq_duckDbStages {α : Type} {body : DuckDbProg (Except Unit α)}
    {event : α → EngineEvent} {stage : EngineStage} {category : EngineFailureCategory}
    {rest : List DuckDbStage} {events : List EngineEvent}
    {f : Except Unit α → DuckDbProg (Option DuckDbRun)}
    (herror : ∀ e, f (.error e) = pure (some (duckdbFailed events stage category)))
    (hok : ∀ a, f (.ok a) = stages duckDbFinish rest (events ++ [event a])) :
    (body >>= f) = stages duckDbFinish
      (duckDbStage body stage category (reporting event) :: rest) events := by
  apply bind_eq_duckDbStages
  · intro r h
    obtain ⟨e, rfl⟩ := reporting_eq_none h
    exact herror e
  · intro r events' h
    obtain ⟨a, rfl, rfl⟩ := reporting_eq_some h
    exact hok a

theorem runDuckDbStages_eq_stages (hops : effects.program.operations = duckDbOperations ops)
    (events : List EngineEvent) : runDuckDbStages crates effects events =
      stages duckDbFinish ((duckDbStages crates effects host ops).drop 3) events := by
  unfold runDuckDbStages
  rw [hops]
  refine execute_eq_duckDbStages (fun _ => rfl) ?_
  refine bind_eq_duckDbStages (fun r h => ?_) fun r events' h => ?_
  · rw [listingAccepted] at h
    split at h
    · next hne =>
      simp only [if_pos hne]
      rfl
    · cases h
  rw [listingAccepted] at h
  split at h
  · cases h
  next hlisted =>
  obtain rfl := Option.some.inj h
  simp only [if_neg hlisted]
  refine execute_eq_duckDbStages (fun _ => rfl) ?_
  refine reporting_eq_duckDbStages (fun _ => rfl) fun table => ?_
  refine execute_eq_duckDbStages (fun _ => rfl) ?_
  refine reporting_eq_duckDbStages (fun _ => rfl) fun snapshots => ?_
  refine reporting_eq_duckDbStages (fun _ => rfl) fun read => ?_
  refine execute_eq_duckDbStages (fun _ => rfl) ?_
  refine reporting_eq_duckDbStages (fun _ => rfl) fun table => ?_
  refine execute_eq_duckDbStages (fun _ => rfl) ?_
  refine reporting_eq_duckDbStages (fun _ => rfl) fun snapshots => ?_
  refine reporting_eq_duckDbStages (fun _ => rfl) fun read => ?_
  exact reporting_eq_duckDbStages (fun _ => rfl) fun table => rfl

theorem runDuckDbProgram_eq_stages (hops : effects.program.operations = duckDbOperations ops) :
    runDuckDbProgram crates effects host =
      stages duckDbFinish (duckDbStages crates effects host ops) [] := by
  unfold runDuckDbProgram
  refine bind_eq_duckDbStages (fun r h => ?_) fun r events' h => ?_
  · rw [versionAccepted] at h
    split at h
    · cases h
    next hversion =>
    cases r with
    | error _ => rfl
    | ok rows =>
      have hne : ¬((rows.head?.bind (·.get "version")).bind Json.asStr) = some "v1.5.3" := by
        simpa [versionAnswered] using hversion
      simp only [if_pos hne]
      rfl
  rw [versionAccepted] at h
  split at h
  on_goal 2 => cases h
  next hversion =>
  obtain rfl := Option.some.inj h
  cases r with
  | error _ => cases hversion
  | ok rows =>
    have hanswered : ((rows.head?.bind (·.get "version")).bind Json.asStr) = some "v1.5.3" := by
      simpa [versionAnswered] using hversion
    simp only [hanswered, ne_eq, not_true, if_false]
    refine @bind_eq_stages _ _ _ _ _ (countedPreflightStage crates effects) _ _ _ ?_
    intro counted
    simp only [countedPreflightStage]
    by_cases hcounted : countedRows counted = some 0
    · simp only [hcounted, decide_true, Bool.not_true, Bool.false_eq_true, if_false, if_true]
      exact @runDuckDbStages_eq_stages crates effects host ops hops _
    · simp only [hcounted, decide_false, Bool.not_false, if_true, if_false]
      rfl

-- ════════════════════════════════
-- What a stage of DuckDB replies
-- ════════════════════════════════

section Replies

variable {o : StageOutcomes} {n n' : ℕ} {setup : String}
  (hsetup : setupSql crates effects = some setup)
include hsetup

theorem run_duckdbQuery {sql : String} {rows : Except Unit (List Json)}
    (h : (duckdbQuery crates effects sql).Run (DuckDbObeys crates ops o) n rows n') :
    n' = n + 1 ∧ DuckDbReplies crates ops o n (.cli setup sql) rows := by
  rw [duckdbQuery, hsetup] at h
  exact run_ask.mp h

theorem run_duckdbExecute {operation : DuckDbOperation} {sql : String}
    (hsql : operation.sql = some sql) {r : Except Unit Unit}
    (h : (duckdbExecute crates effects operation).Run (DuckDbObeys crates ops o) n r n') :
    n' = n + 1 ∧ ∃ rows, DuckDbReplies crates ops o n (.cli setup sql) rows ∧ r.isOk = rows.isOk := by
  rw [duckdbExecute, hsql] at h
  obtain ⟨rows, n₁, hrows, rfl, rfl⟩ := run_bind.mp h
  obtain ⟨rfl, hreplies⟩ := run_duckdbQuery hsetup hrows
  exact ⟨rfl, rows, hreplies, by cases rows <;> rfl⟩

/-- A read is accepted exactly when it made the expected observation. -/
theorem run_duckdbRead {operation : DuckDbOperation} {sql : String} {expected : CanonicalRead}
    (hoperation : operation = .initialRead sql expected ∨ operation = .evolvedRead sql expected)
    {r : Except Unit RowReadObservation}
    (h : (duckdbRead crates effects operation).Run (DuckDbObeys crates ops o) n r n') :
    n' = n + 1 ∧ ∃ rows, DuckDbReplies crates ops o n (.cli setup sql) rows ∧
      r = if canonicalRead crates expected.columns rows = some expected.observation
        then .ok expected.observation else .error () := by
  have hbody : duckdbRead crates effects operation =
      duckdbRead crates effects (.initialRead sql expected) := by
    rcases hoperation with rfl | rfl <;> rfl
  rw [hbody, duckdbRead] at h
  obtain ⟨e, n₁, hrows, rfl, rfl⟩ | ⟨rows, n₁, hrows, h⟩ := run_bind_except h
  · obtain ⟨rfl, hreplies⟩ := run_duckdbQuery hsetup hrows
    exact ⟨rfl, _, hreplies, by simp [canonicalRead]⟩
  obtain ⟨rfl, hreplies⟩ := run_duckdbQuery hsetup hrows
  obtain ⟨hlength, rfl, rfl⟩ | ⟨hlength, h⟩ := run_ite h
  · refine ⟨rfl, _, hreplies, (if_neg fun hread => hlength ?_).symm⟩
    simp only [canonicalRead] at hread
    split at hread
    · exact congrArg RowReadObservation.rows (Option.some.inj hread)
    · cases hread
  · cases hcanonical : canonicalRows crates expected.columns rows with
    | error _ =>
      rw [hcanonical] at h
      obtain ⟨rfl, rfl⟩ := h
      exact ⟨rfl, _, hreplies, by simp [canonicalRead, hcanonical]⟩
    | ok canonical =>
      rw [hcanonical] at h
      have hrows : rows.length = expected.rows := not_not.mp hlength
      have hread : canonicalRead crates expected.columns (.ok rows) =
          some ⟨expected.rows, canonical.length, crates.sha256Hex canonical⟩ := by
        simp only [canonicalRead, hcanonical, hrows]
      obtain ⟨heq, rfl, rfl⟩ | ⟨hne, rfl, rfl⟩ := run_ite h
      · replace heq : (⟨expected.rows, canonical.length, crates.sha256Hex canonical⟩ :
            RowReadObservation) = expected.observation := heq
        refine ⟨rfl, _, hreplies, ?_⟩
        rw [hread, heq, if_pos rfl]
      · replace hne : (⟨expected.rows, canonical.length, crates.sha256Hex canonical⟩ :
            RowReadObservation) ≠ expected.observation := hne
        refine ⟨rfl, _, hreplies, ?_⟩
        rw [hread, if_neg fun hsome => hne (Option.some.inj hsome)]

theorem run_duckdbSnapshotCount {r : Except Unit ℕ} (hn : n = 7 ∨ n = 13)
    (h : (duckdbSnapshotCount crates effects).Run (DuckDbObeys crates ops o) n r n') :
    r.toOption = o.duckDbSnapshots n ∧ (r.isOk = true → n' = n + 2) := by
  rw [duckdbSnapshotCount] at h
  obtain ⟨e, n₁, hload, rfl, rfl⟩ | ⟨load, n₁, hload, h⟩ := run_bind_except h
  · obtain ⟨rfl, hpresent⟩ := run_ask.mp hload
    obtain ⟨_, _, _, hpresent⟩ | hnone := hpresent
    · cases hpresent
    · exact ⟨hnone.symm, nofun⟩
  obtain ⟨rfl, hpresent⟩ := run_ask.mp hload
  cases load with
  | absent a b =>
    obtain ⟨rfl, rfl⟩ := h
    obtain ⟨_, _, _, hpresent⟩ | hnone := hpresent
    · cases hpresent
    · exact ⟨hnone.symm, nofun⟩
  | present a b state =>
    -- the query is at position eight or fourteen, which `DuckDbReplies` reads as a count
    have hcounted : ∀ sql rows, DuckDbReplies crates ops o (n + 1) (.cli setup sql) rows →
        countedSnapshots rows = o.duckDbSnapshots n := by
      rcases hn with rfl | rfl <;> exact fun _ _ h => h
    obtain ⟨e, n₂, hrows, rfl, rfl⟩ | ⟨rows, n₂, hrows, h⟩ := run_bind_except h
    · obtain ⟨rfl, hreplies⟩ := run_duckdbQuery hsetup hrows
      exact ⟨hcounted _ _ hreplies, nofun⟩
    · obtain ⟨rfl, hreplies⟩ := run_duckdbQuery hsetup hrows
      have hsnapshots := hcounted _ _ hreplies
      simp only [countedSnapshots] at hsnapshots
      dsimp only at h
      cases hcount : duckdbU64 rows "snapshots" with
      | none =>
        rw [hcount] at h hsnapshots
        obtain ⟨rfl, rfl⟩ := h
        exact ⟨hsnapshots, nofun⟩
      | some count =>
        rw [hcount] at h hsnapshots
        obtain ⟨rfl, rfl⟩ := h
        exact ⟨hsnapshots, fun _ => rfl⟩

end Replies

end DuckDb

-- ════════════════════════════════
-- Lockstep
-- ════════════════════════════════

section Lockstep

variable {crates : Crates} {effects : DuckDbProductionEffects} {host : HostConsts}
  {program : TrinoRenderedProgram} {configuration : TrinoServerConfiguration}
  {tops dops : OrderedOperations CanonicalRead} {o : StageOutcomes}

/-- Between two stages: where each engine is, and the same skeleton so far. -/
def Abreast (n m : ℕ) (trino duckDb : ℕ) (events events' : List EngineEvent) : Prop :=
  trino = n ∧ duckDb = m ∧ skeletons events = skeletons events'

/-- The same skeleton and the same exit code. -/
def SameEnding (r : Option TrinoChildRun) (r' : Option DuckDbRun) : Prop :=
  ∃ run run', r = some run ∧ r' = some run' ∧ run.exitCode = run'.1 ∧
    skeletons run.events = skeletons run'.2

theorem skeletons_append (events events' : List EngineEvent) :
    skeletons (events ++ events') = skeletons events ++ skeletons events' := List.map_append

/-- Replies that agree as options both failed or carry the same value. -/
theorem sameReport {ε ε' α : Type} {r : Except ε α} {r' : Except ε' α}
    (h : r'.toOption = r.toOption) :
    ((∃ e, r = .error e) ∧ ∃ e, r' = .error e) ∨ ∃ a, r = .ok a ∧ r' = .ok a := by
  cases r with
  | error e =>
    cases r' with
    | error e' => exact .inl ⟨⟨e, rfl⟩, e', rfl⟩
    | ok _ => cases h
  | ok a =>
    cases r' with
    | error _ => cases h
    | ok a' =>
      obtain rfl := Option.some.inj h
      exact .inr ⟨a', rfl, rfl⟩

/-- Both engines under one assignment, from stages with `n` and `m` calls made. -/
def StagesAgree (crates : Crates) (dops : OrderedOperations CanonicalRead) (o : StageOutcomes)
    (n m : ℕ)
    (trino : List (Stage TrinoCall TrinoCall.Reply (List EngineEvent) (Option TrinoChildRun)))
    (duckDb : List DuckDbStage) : Prop :=
  Lockstep (TrinoObeys o) (DuckDbObeys crates dops o) trinoFinish duckDbFinish
    (fun _ _ => SameEnding) (Abreast n m) trino duckDb

namespace StagesAgree

variable {n m m' : ℕ} {stage : EngineStage} {category : EngineFailureCategory}
  {rest : List (Stage TrinoCall TrinoCall.Reply (List EngineEvent) (Option TrinoChildRun))}
  {rest' : List DuckDbStage}

theorem finished : StagesAgree crates dops o n m [] [] := by
  refine .nil ?_
  rintro _ _ events events' ⟨-, -, hsame⟩
  exact ⟨_, _, rfl, rfl, rfl, by rw [skeletons_append, skeletons_append, hsame]⟩

/-- Both engines turn the outcome of a stage down, or both take it with events of one kind. -/
theorem step {c : TrinoCall} {accept : List EngineEvent → c.Reply → Option (List EngineEvent)}
    {ρ : Type} {body : DuckDbProg ρ} {accept' : List EngineEvent → ρ → Option (List EngineEvent)}
    (hagree : ∀ r r' m₁, TrinoReplies o n c r → body.Run (DuckDbObeys crates dops o) m r' m₁ →
      (∀ events events', accept events r = none ∧ accept' events' r' = none) ∨
      (m₁ = m' ∧ ∃ new new', skeletons new = skeletons new' ∧ ∀ events events',
        accept events r = some (events ++ new) ∧ accept' events' r' = some (events' ++ new')))
    (hrest : StagesAgree crates dops o (n + 1) m' rest rest') :
    StagesAgree crates dops o n m ((trinoStep c stage category accept).toStage :: rest)
      (duckDbStage body stage category accept' :: rest') := by
  refine .cons (Abreast (n + 1) m') ?_ hrest
  rintro _ _ events events' r r' n₁ m₁ ⟨rfl, rfl, hsame⟩ htrino hduckDb
  obtain ⟨rfl, hreply⟩ := run_ask.mp htrino
  simp only [ScriptStep.toStage, trinoStep, duckDbStage]
  obtain hnone | ⟨rfl, new, new', hnew, hsome⟩ := hagree r r' m₁ hreply hduckDb
  · rw [(hnone events events').1, (hnone events events').2]
    refine ⟨_, _, rfl, rfl, rfl, ?_⟩
    simp only [trinoFailed, duckdbFailed, skeletons_append, hsame]
  · rw [(hsome events events').1, (hsome events events').2]
    exact ⟨rfl, rfl, by rw [skeletons_append, skeletons_append, hsame, hnew]⟩

variable {setup : String} (hsetup : setupSql crates effects = some setup)
include hsetup

theorem execute {operation : TrinoOperation} {operation' : DuckDbOperation} {sql : String}
    (hsql : operation'.sql = some sql)
    (hflag : ∀ rows, DuckDbReplies crates dops o m (.cli setup sql) rows →
      rows.isOk = o.executed operation.purpose)
    (hrest : StagesAgree crates dops o (n + 1) (m + 1) rest rest') :
    StagesAgree crates dops o n m
      ((trinoStep (.execute operation) stage category silently).toStage :: rest)
      (duckDbStage (duckdbExecute crates effects operation') stage category silently :: rest') := by
  refine step (fun r r' m₁ hreply hrun => ?_) hrest
  obtain ⟨rfl, rows, hrows, hok⟩ := run_duckdbExecute hsetup hsql hrun
  have hsame : r'.isOk = r.isOk := by rw [hok, hflag rows hrows, hreply]
  cases r with
  | error _ =>
    cases r' with
    | error _ => exact .inl fun _ _ => ⟨rfl, rfl⟩
    | ok _ => cases hsame
  | ok _ =>
    cases r' with
    | error _ => cases hsame
    | ok _ => exact .inr ⟨rfl, [], [], rfl, fun _ _ => ⟨by simp [silently], by simp [silently]⟩⟩

theorem snapshotCount {operation : TrinoOperation} (hm : m = 7 ∨ m = 13)
    (hoccasion : o.duckDbSnapshots m = o.trinoSnapshots n) {event : ℕ → EngineEvent}
    (hrest : StagesAgree crates dops o (n + 1) (m + 2) rest rest') :
    StagesAgree crates dops o n m
      ((trinoStep (.snapshotCount operation) stage category (reporting event)).toStage :: rest)
      (duckDbStage (duckdbSnapshotCount crates effects) stage category (reporting event) ::
        rest') := by
  refine step (fun r r' m₁ hreply hrun => ?_) hrest
  obtain ⟨hcount, hposition⟩ := run_duckdbSnapshotCount hsetup hm hrun
  have hsame : r'.toOption = r.toOption := by rw [hcount, hoccasion, hreply]
  rcases sameReport hsame with ⟨⟨e, rfl⟩, e', rfl⟩ | ⟨k, rfl, rfl⟩
  · exact .inl fun _ _ => ⟨rfl, rfl⟩
  · exact .inr ⟨hposition rfl, [event k], [event k], rfl, fun _ _ => ⟨rfl, rfl⟩⟩

theorem read {operation : TrinoOperation} {operation' : DuckDbOperation} {sql : String}
    {expected : CanonicalRead}
    (hoperation : operation' = .initialRead sql expected ∨ operation' = .evolvedRead sql expected)
    (hread : ∀ rows, DuckDbReplies crates dops o m (.cli setup sql) rows →
      canonicalRead crates expected.columns rows = o.read operation.purpose)
    {event : RowReadObservation → EngineEvent}
    (hrest : StagesAgree crates dops o (n + 1) (m + 1) rest rest') :
    StagesAgree crates dops o n m
      ((trinoStep (.read operation) stage category
        (expecting expected.observation (event expected.observation))).toStage :: rest)
      (duckDbStage (duckdbRead crates effects operation') stage category (reporting event) ::
        rest') := by
  refine step (fun r r' m₁ hreply hrun => ?_) hrest
  obtain ⟨rfl, rows, hrows, rfl⟩ := run_duckdbRead hsetup hoperation hrun
  rw [hread rows hrows, ← show r.toOption = _ from hreply]
  cases r with
  | error _ =>
    rw [if_neg (by simp [Except.toOption])]
    exact .inl fun _ _ => ⟨rfl, rfl⟩
  | ok observed =>
    by_cases hobserved : observed = expected.observation
    · subst hobserved
      rw [if_pos (by simp [Except.toOption])]
      exact .inr ⟨rfl, [event expected.observation], [event expected.observation], rfl,
        fun _ _ => ⟨by simp [expecting], rfl⟩⟩
    · rw [if_neg (by simpa [Except.toOption] using hobserved)]
      exact .inl fun _ _ => ⟨by simp [expecting, hobserved], rfl⟩

theorem listing {fixture : TrinoFixtureTarget} {sql : String}
    (hrest : StagesAgree crates dops o (n + 1) 4 rest rest') :
    StagesAgree crates dops o n 3
      ((trinoStep (.namespaceListedExactly fixture) stage category
        (expecting true (.namespaceReady true))).toStage :: rest)
      (duckDbStage (duckdbQuery crates effects sql) stage category listingAccepted :: rest') := by
  refine step (fun r rows m₁ hreply hrun => ?_) hrest
  obtain ⟨rfl, hrows⟩ := run_duckdbQuery hsetup hrun
  replace hrows : countedRows rows = o.listing := hrows
  replace hreply : r.toOption = o.listing.map fun count => count == 1 := hreply
  by_cases hlisted : o.listing = some 1
  · rw [hlisted] at hrows hreply
    obtain rfl : r = .ok true := by
      cases r with
      | error _ => cases hreply
      | ok listed => exact congrArg Except.ok (Option.some.inj hreply)
    exact .inr ⟨rfl, [.namespaceReady true], [.namespaceReady true], rfl,
      fun _ _ => ⟨by simp [expecting], by simp [listingAccepted, hrows]⟩⟩
  · refine .inl fun events events' => ⟨?_, by simp [listingAccepted, hrows, hlisted]⟩
    cases r with
    | error _ => rfl
    | ok listed =>
      have hfalse : listed ≠ true := by
        rintro rfl
        cases hcount : o.listing with
        | none => rw [hcount] at hreply; cases hreply
        | some count =>
          rw [hcount] at hreply
          have hone : (count == 1) = true := (Option.some.inj hreply).symm
          exact hlisted (by rw [hcount, beq_iff_eq.mp hone])
      simp [expecting, hfalse]

theorem runtime {sql : String} (hrest : StagesAgree crates dops o (n + 1) 1 rest rest') :
    StagesAgree crates dops o n 0
      ((trinoStep .runtimeObservation stage category (reporting .runtimeReady)).toStage :: rest)
      (duckDbStage (duckdbQuery crates effects sql) stage category (versionAccepted host) ::
        rest') := by
  refine step (fun r rows m₁ hreply hrun => ?_) hrest
  obtain ⟨rfl, hrows⟩ := run_duckdbQuery hsetup hrun
  replace hrows : versionAnswered rows = o.runtime := hrows
  have hsame : versionAnswered rows = r.isOk := by rw [hrows, hreply]
  cases r with
  | error _ =>
    replace hsame : versionAnswered rows = false := hsame
    exact .inl fun _ _ => ⟨rfl, by simp [versionAccepted, hsame]⟩
  | ok runtime =>
    replace hsame : versionAnswered rows = true := hsame
    exact .inr ⟨rfl, [.runtimeReady runtime], [.runtimeReady (duckdbRuntime host)], rfl,
      fun _ _ => ⟨rfl, by simp [versionAccepted, hsame]⟩⟩

/-- A preflight that was answered is read alike. -/
theorem preflight {count : ℕ} (hcount : o.preflight = some count)
    (hrest : StagesAgree crates dops o (n + 1) 2 rest rest') :
    StagesAgree crates dops o n 1 ((preflightStep program.fixture).toStage :: rest)
      (countedPreflightStage crates effects :: rest') := by
  refine .cons (Abreast (n + 1) 2) ?_ hrest
  rintro _ _ events events' r rows n₁ m₁ ⟨rfl, rfl, hsame⟩ htrino hduckDb
  obtain ⟨rfl, hreply⟩ := run_ask.mp htrino
  obtain ⟨rfl, hrows⟩ := run_duckdbQuery hsetup hduckDb
  replace hrows : countedRows rows = o.preflight := hrows
  replace hreply : r.toOption = o.preflight.map fun count => count == 0 := hreply
  rw [hcount] at hrows hreply
  obtain rfl : r = .ok (count == 0) := by
    cases r with
    | error _ => cases hreply
    | ok absent => exact congrArg Except.ok (Option.some.inj hreply)
  simp only [ScriptStep.toStage, preflightStep, countedPreflightStage, hrows]
  by_cases hzero : count = 0
  · subst hzero
    exact ⟨rfl, rfl, by rw [skeletons_append, skeletons_append, hsame]⟩
  · have hfalse : (count == 0) = false := by simpa using hzero
    rw [hfalse, if_neg (by simpa using hzero)]
    exact ⟨_, _, rfl, rfl, rfl, by rw [skeletons_append, skeletons_append, hsame]⟩

omit hsetup

theorem observeTable {fixture : TrinoFixtureTarget} {policy : TrinoObservationPolicy}
    (hoccasion : o.duckDbObservation m = o.trinoObservation n)
    {event : EngineTableObservation → EngineEvent}
    (hrest : StagesAgree crates dops o (n + 1) (m + 1) rest rest') :
    StagesAgree crates dops o n m
      ((trinoStep (.observeTable fixture policy) stage category (reporting event)).toStage :: rest)
      (duckDbStage (ask DuckDbCall.tableObservation) stage category (reporting event) ::
        rest') := by
  refine step (fun r r' m₁ hreply hrun => ?_) hrest
  obtain ⟨rfl, hrows⟩ := run_ask.mp hrun
  have hsame : r'.toOption = r.toOption := by
    rw [show r'.toOption = _ from hrows, hoccasion, show r.toOption = _ from hreply]
  rcases sameReport hsame with ⟨⟨e, rfl⟩, e', rfl⟩ | ⟨table, rfl, rfl⟩
  · exact .inl fun _ _ => ⟨rfl, rfl⟩
  · exact .inr ⟨rfl, [event table], [event table], rfl, fun _ _ => ⟨rfl, rfl⟩⟩

theorem initializeCatalog {catalog : TrinoCatalogSetup}
    (hrest : StagesAgree crates dops o (n + 1) m rest rest') :
    StagesAgree crates dops o n m
      ((trinoStep (.initializeCatalog catalog configuration) stage category
        (reporting fun _ => .catalogReady)).toStage :: rest) (attachedStage :: rest') := by
  refine .cons (Abreast (n + 1) m) ?_ hrest
  rintro _ _ events events' r _ n₁ m₁ ⟨rfl, rfl, hsame⟩ htrino ⟨-, rfl⟩
  obtain ⟨rfl, hreply⟩ := run_ask.mp htrino
  obtain rfl : r = .ok () := hreply
  exact ⟨rfl, rfl, by rw [skeletons_append, skeletons_append, hsame]⟩

end StagesAgree

/-- An answered preflight keeps the two engines in lockstep. -/
theorem stagesAgree_of_preflight {setup : String} (hsetup : setupSql crates effects = some setup)
    (hinitial : dops.initialExpected = tops.initialExpected)
    (hevolved : dops.evolvedExpected = tops.evolvedExpected) {count : ℕ}
    (hcount : o.preflight = some count) :
    StagesAgree crates dops o 0 0
      ((trinoScript program configuration tops).map ScriptStep.toStage)
      (duckDbStages crates effects host dops) := by
  have hreadInitial : ∀ rows, DuckDbReplies crates dops o 9 (.cli setup dops.initialRead) rows →
      canonicalRead crates tops.initialExpected.columns rows = o.initialRead := by
    rw [← hinitial]
    exact fun _ h => h
  have hreadEvolved : ∀ rows, DuckDbReplies crates dops o 15 (.cli setup dops.evolvedRead) rows →
      canonicalRead crates tops.evolvedExpected.columns rows = o.evolvedRead := by
    rw [← hevolved]
    exact fun _ h => h
  refine .runtime hsetup ?_
  refine .initializeCatalog ?_
  refine .preflight hsetup hcount ?_
  refine .execute hsetup rfl (fun _ h => h) ?_
  refine .listing hsetup ?_
  refine .execute hsetup rfl (fun _ h => h) ?_
  refine .observeTable rfl ?_
  refine .execute hsetup rfl (fun _ h => h) ?_
  refine .snapshotCount hsetup (.inl rfl) rfl ?_
  refine .read hsetup (.inl (by rw [hinitial])) hreadInitial ?_
  refine .execute hsetup rfl (fun _ h => h) ?_
  refine .observeTable rfl ?_
  refine .execute hsetup rfl (fun _ h => h) ?_
  refine .snapshotCount hsetup (.inr rfl) rfl ?_
  refine .read hsetup (.inr (by rw [hevolved])) hreadEvolved ?_
  exact .observeTable rfl .finished

end Lockstep

/-- The two engines run one scenario: both have their operations in the required order, the
reads expect the same rows, and both are ready for their catalog. -/
structure SameScenario (crates : Crates) (program : TrinoRenderedProgram)
    (effects : DuckDbProductionEffects) (tops dops : OrderedOperations CanonicalRead) : Prop where
  trino : program.operations = tops.operations
  duckDb : effects.program.operations = duckDbOperations dops
  initialRead : dops.initialExpected = tops.initialExpected
  evolvedRead : dops.evolvedExpected = tops.evolvedExpected
  configured : ∃ configuration, TrinoServerConfiguration.render program = .ok configuration
  attached : ∃ setup, setupSql crates effects = some setup

section Protocols

variable {crates : Crates} {effects : DuckDbProductionEffects} {host : HostConsts}
  {program : TrinoRenderedProgram} {tops dops : OrderedOperations CanonicalRead}
  {o : StageOutcomes}

/-- The row of a runtime query that was answered with the pinned version. -/
def versionRows : List Json := [.object [("version", .string "v1.5.3")]]

theorem trino_unanswered_preflight (hsame : SameScenario crates program effects tops dops)
    (hruntime : o.runtime = true) (hpreflight : o.preflight = none)
    (runtime : EngineRuntimeObservation) :
    (runTrinoChild program).Run (TrinoObeys o) 0
      (some (trinoFailed [.runtimeReady runtime, .catalogReady] .preflightFixture .catalog)) 3 := by
  obtain ⟨configuration, hrender⟩ := hsame.configured
  have hreply : TrinoReplies o 2 (.fixtureAbsent program.fixture) (.error ⟨⟩) := by
    simp [TrinoReplies, hpreflight, Except.toOption]
  rw [runTrinoChild_eq_stages hsame.trino hrender]
  exact ⟨.ok runtime, 1, ⟨rfl, hruntime.symm⟩, .ok (), 2, ⟨rfl, rfl⟩, .error ⟨⟩, 3,
    ⟨rfl, hreply⟩, rfl, rfl⟩

theorem duckDb_unanswered_preflight (hsame : SameScenario crates program effects tops dops)
    (hruntime : o.runtime = true) (hpreflight : o.preflight = none) :
    (runDuckDbProgram crates effects host).Run (DuckDbObeys crates dops o) 0
      (some (3, [.runtimeReady (duckdbRuntime host), .catalogReady, .fixturePreflight false])) 2 := by
  obtain ⟨setup, hsetup⟩ := hsame.attached
  rw [runDuckDbProgram_eq_stages hsame.duckDb]
  simp only [duckDbStages, duckDbStage, countedPreflightStage, duckdbQuery, hsetup]
  exact ⟨.ok versionRows, 1, ⟨rfl, hruntime.symm⟩, .error (), 2, ⟨rfl, hpreflight.symm⟩, rfl, rfl⟩

/-- A runtime that is not the pinned one ends both engines alike. -/
theorem sameEnding_of_runtime (hsame : SameScenario crates program effects tops dops)
    (hruntime : o.runtime = false) {r : Option TrinoChildRun} {r' : Option DuckDbRun} {n n' : ℕ}
    (htrino : (runTrinoChild program).Run (TrinoObeys o) 0 r n)
    (hduckDb : (runDuckDbProgram crates effects host).Run (DuckDbObeys crates dops o) 0 r' n') :
    SameEnding r r' := by
  obtain ⟨configuration, hrender⟩ := hsame.configured
  obtain ⟨setup, hsetup⟩ := hsame.attached
  rw [runTrinoChild_eq_stages hsame.trino hrender] at htrino
  rw [runDuckDbProgram_eq_stages hsame.duckDb] at hduckDb
  obtain ⟨runtime, n₁, hcall, hnext⟩ := run_stages_cons htrino
  obtain ⟨rows, n₁', hquery, hnext'⟩ := run_stages_cons hduckDb
  obtain ⟨rfl, hreply⟩ := run_ask.mp hcall
  obtain ⟨rfl, hrows⟩ := run_duckdbQuery hsetup hquery
  replace hreply : runtime.isOk = false := hreply.trans hruntime
  replace hrows : versionAnswered rows = false := Eq.trans hrows hruntime
  have hstop : r = some (trinoFailed [] .verifyRuntime .runtime) := by
    cases runtime with
    | ok _ => cases hreply
    | error _ =>
      rcases hnext with ⟨_, hnext, -⟩ | ⟨hnext, -⟩
      · cases hnext
      · exact (Except.error.inj hnext).symm
  have hstop' : r' = some (duckdbFailed [] .verifyRuntime .runtime) := by
    simp only [duckDbStage, versionAccepted, hrows] at hnext'
    rcases hnext' with ⟨_, hnext', -⟩ | ⟨hnext', -⟩
    · cases hnext'
    · exact (Except.error.inj hnext').symm
  exact ⟨_, _, hstop, hstop', rfl, rfl⟩

end Protocols

/-- Operations both engines understand, for the fixture of the sample scenario. -/
def sampleOperations : OrderedOperations CanonicalRead where
  createNamespace := "CREATE SCHEMA IF NOT EXISTS bench.interop_run"
  createTable := "CREATE TABLE bench.interop_run.events (id BIGINT NOT NULL)"
  initialAppend := "INSERT INTO bench.interop_run.events (id) VALUES (1)"
  initialRead := "SELECT id FROM bench.interop_run.events ORDER BY id"
  initialExpected := sampleScenario.canonicalReads.initial
  addColumn := "ALTER TABLE bench.interop_run.events ADD COLUMN note VARCHAR"
  evolvedAppend := "INSERT INTO bench.interop_run.events (id, note) VALUES (2, 'n2')"
  evolvedRead := "SELECT id, note FROM bench.interop_run.events ORDER BY id"
  evolvedExpected := sampleScenario.canonicalReads.afterEvolution
  snapshotRead := "SELECT * FROM bench.interop_run.\"events$snapshots\""

def sampleOrderedProgram : TrinoRenderedProgram :=
  { sampleProgram with operations := sampleOperations.operations }

def sampleDuckDbEffects : DuckDbProductionEffects where
  program :=
    { catalogName := "bench"
      catalogUri := "http://catalog:8181"
      warehouse := none
      routePrefix := none
      authentication := .anonymous
      fileIo := { implementation := "", endpoint := "http://store:9000", bucket := "bench",
                  region := "local", pathStyleAccess := true }
      fixture := sampleProgram.fixture
      observation := sampleProgram.observation
      operations := duckDbOperations sampleOperations }
  accessKey := "access"
  secretKey := "secret"
  oauth := none

theorem sampleScenario_same : SameScenario sampleCrates sampleOrderedProgram sampleDuckDbEffects
    sampleOperations sampleOperations where
  trino := rfl
  duckDb := rfl
  initialRead := rfl
  evolvedRead := rfl
  configured := sampleProgram_configured
  attached := by
    have hsome : (setupSql sampleCrates sampleDuckDbEffects).isSome = true := by decide
    exact Option.isSome_iff_exists.mp hsome

/-- Every stage fails but the runtime query; the preflight is not answered. -/
def unansweredOutcomes : StageOutcomes where
  runtime := true
  preflight := none
  createNamespace := false
  listing := none
  createTable := false
  created := none
  initialAppend := false
  initialSnapshots := none
  initialRead := none
  addColumn := false
  evolved := none
  evolvedAppend := false
  evolvedSnapshots := none
  evolvedRead := none
  final := none

def sampleHost : HostConsts := ⟨"linux", "x86_64"⟩

def unansweredTrinoRun : TrinoChildRun where
  exitCode := 2
  events := [.runtimeReady (duckdbRuntime sampleHost), .catalogReady,
    .failed .preflightFixture .catalog]

def unansweredDuckDbRun : DuckDbRun :=
  (3, [.runtimeReady (duckdbRuntime sampleHost), .catalogReady, .fixturePreflight false])

end CatalogBench.Engine
