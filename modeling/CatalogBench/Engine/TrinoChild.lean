import CatalogBench.Engine.Execution
import CatalogBench.Engine.Trino
import CatalogBench.Library.Interaction

/-!
# The Trino child

`runTrinoChild` drives the effects of a Trino runtime through the stages of the scenario. It
is a program over `TrinoCall`: what an effect does and replies is up to whoever runs it, so a
statement about every run is a statement about every behaviour of the effects.
-/

set_option linter.all false

namespace CatalogBench.Engine
open Interaction Interaction.Prog

def trinoSuccessExit : ℤ := 0
def trinoFailureExit : ℤ := 2
def trinoFixtureCollisionExit : ℤ := 3

structure TrinoEffectFailure where
  deriving DecidableEq

/-- The methods of `TrinoEffects`. -/
inductive TrinoCall
  | runtimeObservation
  | initializeCatalog (catalog : TrinoCatalogSetup) (configuration : TrinoServerConfiguration)
  | fixtureAbsent (fixture : TrinoFixtureTarget)
  | execute (operation : TrinoOperation)
  | namespaceListedExactly (fixture : TrinoFixtureTarget)
  | observeTable (fixture : TrinoFixtureTarget) (policy : TrinoObservationPolicy)
  | read (operation : TrinoOperation)
  | snapshotCount (operation : TrinoOperation)

/-- What each method returns. -/
abbrev TrinoCall.Reply : TrinoCall → Type
  | .runtimeObservation => Except TrinoEffectFailure EngineRuntimeObservation
  | .initializeCatalog _ _ => Except TrinoEffectFailure Unit
  | .fixtureAbsent _ => Except TrinoEffectFailure Bool
  | .execute _ => Except TrinoEffectFailure Unit
  | .namespaceListedExactly _ => Except TrinoEffectFailure Bool
  | .observeTable _ _ => Except TrinoEffectFailure EngineTableObservation
  | .read _ => Except TrinoEffectFailure RowReadObservation
  | .snapshotCount _ => Except TrinoEffectFailure ℕ

abbrev TrinoProg := Prog TrinoCall TrinoCall.Reply

structure TrinoChildRun where
  exitCode : ℤ
  events : List EngineEvent
  deriving DecidableEq

def trinoFailed (events : List EngineEvent) (stage : EngineStage)
    (category : EngineFailureCategory) : TrinoChildRun where
  exitCode := trinoFailureExit
  events := events ++ [EngineEvent.failed stage category]

def validOperationOrder (operations : List TrinoOperation) : Bool :=
  operations.map TrinoOperation.purpose =
    [.createNamespace, .createTable, .initialAppend, .initialRead, .addColumn, .evolvedAppend,
      .evolvedRead, .snapshotRead]

/-- `none` is the panic of `unreachable!`. -/
def expectedRead : TrinoOperation → Option RowReadObservation
  | .initialRead _ expected | .evolvedRead _ expected =>
    some { rows := expected.rows, bytes := expected.bytes, sha256 := expected.sha256 }
  | _ => none

/-- The part of `run_trino_child` after the preflight. The operations are those of the program
at the indices zero to seven; a program without them panics, which is `none`. -/
def runTrinoStages (program : TrinoRenderedProgram) (events : List EngineEvent) :
    TrinoProg (Option TrinoChildRun) := do
  let [createNamespace, createTable, initialAppend, initialRead, addColumn, evolvedAppend,
      evolvedRead, snapshotRead] := program.operations
    | return none
  let .ok _ ← ask (TrinoCall.execute createNamespace)
    | return some (trinoFailed events .createNamespace .catalog)
  let .ok true ← ask (TrinoCall.namespaceListedExactly program.fixture)
    | return some (trinoFailed events .createNamespace .catalog)
  let events := events ++ [EngineEvent.namespaceReady true]
  let .ok _ ← ask (TrinoCall.execute createTable)
    | return some (trinoFailed events .createTable .connector)
  let .ok table ← ask (TrinoCall.observeTable program.fixture program.observation)
    | return some (trinoFailed events .createTable .connector)
  let events := events ++ [EngineEvent.tableReady table]
  let .ok _ ← ask (TrinoCall.execute initialAppend)
    | return some (trinoFailed events .appendInitial .data)
  let .ok snapshots ← ask (TrinoCall.snapshotCount snapshotRead)
    | return some (trinoFailed events .appendInitial .data)
  let events := events ++ [EngineEvent.initialAppended snapshots]
  let some expected := expectedRead initialRead | return none
  let .ok read ← ask (TrinoCall.read initialRead)
    | return some (trinoFailed events .readInitial .data)
  if read ≠ expected then return some (trinoFailed events .readInitial .data)
  let events := events ++ [EngineEvent.initialRead expected]
  let .ok _ ← ask (TrinoCall.execute addColumn)
    | return some (trinoFailed events .evolveSchema .connector)
  let .ok table ← ask (TrinoCall.observeTable program.fixture program.observation)
    | return some (trinoFailed events .evolveSchema .connector)
  let events := events ++ [EngineEvent.schemaEvolved table]
  let .ok _ ← ask (TrinoCall.execute evolvedAppend)
    | return some (trinoFailed events .appendEvolved .data)
  let .ok snapshots ← ask (TrinoCall.snapshotCount snapshotRead)
    | return some (trinoFailed events .appendEvolved .data)
  let events := events ++ [EngineEvent.evolvedAppended snapshots]
  let some expected := expectedRead evolvedRead | return none
  let .ok read ← ask (TrinoCall.read evolvedRead)
    | return some (trinoFailed events .readEvolved .data)
  if read ≠ expected then return some (trinoFailed events .readEvolved .data)
  let events := events ++ [EngineEvent.evolvedRead expected]
  let .ok table ← ask (TrinoCall.observeTable program.fixture program.observation)
    | return some (trinoFailed events .observeFinalTable .connector)
  let events := events ++ [EngineEvent.finalTable table]
  return some { exitCode := trinoSuccessExit, events := events ++ [EngineEvent.completed] }

def runTrinoChild (program : TrinoRenderedProgram) : TrinoProg (Option TrinoChildRun) := do
  let events := []
  let .ok runtime ← ask TrinoCall.runtimeObservation
    | return some (trinoFailed events .verifyRuntime .runtime)
  let events := events ++ [EngineEvent.runtimeReady runtime]
  if !validOperationOrder program.operations then
    return some (trinoFailed events .initializeCatalog .connector)
  let .ok configuration := TrinoServerConfiguration.render program
    | return some (trinoFailed events .initializeCatalog .connector)
  let .ok _ ← ask (TrinoCall.initializeCatalog program.catalog configuration)
    | return some (trinoFailed events .initializeCatalog .connector)
  let events := events ++ [EngineEvent.catalogReady]
  let .ok absent ← ask (TrinoCall.fixtureAbsent program.fixture)
    | return some (trinoFailed events .preflightFixture .catalog)
  let events := events ++ [EngineEvent.fixturePreflight absent]
  if !absent then
    return some { exitCode := trinoFixtureCollisionExit, events := events }
  runTrinoStages program events

-- ════════════════════════════════
-- Every run settles
-- ════════════════════════════════

/-- A finished run of the child: it did not panic and what it returned settles. -/
def TrinoSettled (r : Option TrinoChildRun) : Prop :=
  ∃ run, r = some run ∧ Settled run.exitCode run.events

theorem trinoSettled_failed {k : ℕ} {events : List EngineEvent} {stage : EngineStage}
    (hevents : Progress k events) (hstage : EngineStage.order[k]? = some stage)
    (category : EngineFailureCategory) : TrinoSettled (some (trinoFailed events stage category)) :=
  ⟨_, rfl, .failed hstage hevents⟩

/-- A valid order fixes the kind of each operation. -/
theorem validOperationOrder_cases {operations : List TrinoOperation}
    (h : validOperationOrder operations = true) :
    ∃ s₀ s₁ s₂ s₃ e₃ s₄ s₅ s₆ e₆ s₇, operations =
      [.createNamespace s₀, .createTable s₁, .initialAppend s₂, .initialRead s₃ e₃, .addColumn s₄,
        .evolvedAppend s₅, .evolvedRead s₆ e₆, .snapshotRead s₇] := by
  simp only [validOperationOrder, decide_eq_true_eq, List.map_eq_cons_iff, List.map_eq_nil_iff] at h
  obtain ⟨o₀, _, rfl, h₀, o₁, _, rfl, h₁, o₂, _, rfl, h₂, o₃, _, rfl, h₃, o₄, _, rfl, h₄,
    o₅, _, rfl, h₅, o₆, _, rfl, h₆, o₇, _, rfl, h₇, rfl⟩ := h
  cases o₀ <;> cases h₀
  cases o₁ <;> cases h₁
  cases o₂ <;> cases h₂
  cases o₃ <;> cases h₃
  cases o₄ <;> cases h₄
  cases o₅ <;> cases h₅
  cases o₆ <;> cases h₆
  cases o₇ <;> cases h₇
  exact ⟨_, _, _, _, _, _, _, _, _, _, rfl⟩

section Runs

variable {σ : Type*} {step : σ → (c : TrinoCall) → c.Reply → σ → Prop}

theorem runTrinoStages_settled {program : TrinoRenderedProgram} {events : List EngineEvent}
    (horder : validOperationOrder program.operations = true) (hevents : Progress 3 events)
    {s s' : σ} {r : Option TrinoChildRun}
    (h : (runTrinoStages program events).Run step s r s') : TrinoSettled r := by
  obtain ⟨_, _, _, _, e₃, _, _, _, e₆, _, hops⟩ := validOperationOrder_cases horder
  unfold runTrinoStages at h
  rw [hops] at h
  obtain ⟨_, _, _, rfl, -⟩ | ⟨_, _, _, h⟩ := run_bind_except h
  · exact trinoSettled_failed hevents rfl _
  obtain ⟨_, _, _, rfl, -⟩ | ⟨listed, _, _, h⟩ := run_bind_except h
  · exact trinoSettled_failed hevents rfl _
  cases listed with
  | false =>
    obtain ⟨rfl, -⟩ := h
    exact trinoSettled_failed hevents rfl _
  | true =>
  replace hevents := hevents.push rfl (.namespaceReady true) ⟨rfl, by simp⟩
  obtain ⟨_, _, _, rfl, -⟩ | ⟨_, _, _, h⟩ := run_bind_except h
  · exact trinoSettled_failed hevents rfl _
  obtain ⟨_, _, _, rfl, -⟩ | ⟨table, _, _, h⟩ := run_bind_except h
  · exact trinoSettled_failed hevents rfl _
  replace hevents := hevents.push rfl (.tableReady table) ⟨rfl, by simp⟩
  obtain ⟨_, _, _, rfl, -⟩ | ⟨_, _, _, h⟩ := run_bind_except h
  · exact trinoSettled_failed hevents rfl _
  obtain ⟨_, _, _, rfl, -⟩ | ⟨snapshots, _, _, h⟩ := run_bind_except h
  · exact trinoSettled_failed hevents rfl _
  replace hevents := hevents.push rfl (.initialAppended snapshots) ⟨rfl, by simp⟩
  obtain ⟨_, _, _, rfl, -⟩ | ⟨read, _, _, h⟩ := run_bind_except h
  · exact trinoSettled_failed hevents rfl _
  obtain ⟨_, rfl, -⟩ | ⟨_, h⟩ := run_ite h
  · exact trinoSettled_failed hevents rfl _
  replace hevents := hevents.push rfl (.initialRead ⟨e₃.rows, e₃.bytes, e₃.sha256⟩) ⟨rfl, by simp⟩
  obtain ⟨_, _, _, rfl, -⟩ | ⟨_, _, _, h⟩ := run_bind_except h
  · exact trinoSettled_failed hevents rfl _
  obtain ⟨_, _, _, rfl, -⟩ | ⟨table, _, _, h⟩ := run_bind_except h
  · exact trinoSettled_failed hevents rfl _
  replace hevents := hevents.push rfl (.schemaEvolved table) ⟨rfl, by simp⟩
  obtain ⟨_, _, _, rfl, -⟩ | ⟨_, _, _, h⟩ := run_bind_except h
  · exact trinoSettled_failed hevents rfl _
  obtain ⟨_, _, _, rfl, -⟩ | ⟨snapshots, _, _, h⟩ := run_bind_except h
  · exact trinoSettled_failed hevents rfl _
  replace hevents := hevents.push rfl (.evolvedAppended snapshots) ⟨rfl, by simp⟩
  obtain ⟨_, _, _, rfl, -⟩ | ⟨read, _, _, h⟩ := run_bind_except h
  · exact trinoSettled_failed hevents rfl _
  obtain ⟨_, rfl, -⟩ | ⟨_, h⟩ := run_ite h
  · exact trinoSettled_failed hevents rfl _
  replace hevents := hevents.push rfl (.evolvedRead ⟨e₆.rows, e₆.bytes, e₆.sha256⟩) ⟨rfl, by simp⟩
  obtain ⟨_, _, _, rfl, -⟩ | ⟨table, _, _, h⟩ := run_bind_except h
  · exact trinoSettled_failed hevents rfl _
  replace hevents := hevents.push rfl (.finalTable table) ⟨rfl, by simp⟩
  obtain ⟨rfl, -⟩ := h
  exact ⟨_, rfl, .completed hevents⟩

/-- Whatever the effects do, the child does not panic and settles. -/
theorem runTrinoChild_settled {program : TrinoRenderedProgram} {s s' : σ}
    {r : Option TrinoChildRun} (h : (runTrinoChild program).Run step s r s') :
    TrinoSettled r := by
  have hevents := Progress.start
  unfold runTrinoChild at h
  obtain ⟨_, _, _, rfl, -⟩ | ⟨runtime, _, _, h⟩ := run_bind_except h
  · exact trinoSettled_failed hevents rfl _
  replace hevents := hevents.push rfl (.runtimeReady runtime) ⟨rfl, by simp⟩
  obtain ⟨_, rfl, -⟩ | ⟨horder, h⟩ := run_ite h
  · exact trinoSettled_failed hevents rfl _
  cases hrender : TrinoServerConfiguration.render program with
  | error _ =>
    rw [hrender] at h
    obtain ⟨rfl, -⟩ := h
    exact trinoSettled_failed hevents rfl _
  | ok configuration =>
  rw [hrender] at h
  obtain ⟨_, _, _, rfl, -⟩ | ⟨_, _, _, h⟩ := run_bind_except h
  · exact trinoSettled_failed hevents rfl _
  replace hevents := hevents.push rfl .catalogReady ⟨rfl, by simp⟩
  obtain ⟨_, _, _, rfl, -⟩ | ⟨absent, _, _, h⟩ := run_bind_except h
  · exact trinoSettled_failed hevents rfl _
  cases absent with
  | false =>
    obtain ⟨rfl, -⟩ := h
    exact ⟨_, rfl, .collision⟩
  | true =>
    replace hevents := hevents.push rfl (.fixturePreflight true) ⟨rfl, by simp⟩
    exact runTrinoStages_settled (by simpa using horder) hevents h

/-- The output of a child: the lines that carry `events`, between unprefixed lines. -/
structure ChildOutput (encode : EngineEvent → List UInt8) (events : List EngineEvent)
    (lines : List (List UInt8)) : Prop where
  carries : lines.filter engineEventPrefix.isPrefixOf =
    events.map (engineEventPrefix ++ encode ·)
  fits : ∀ e ∈ events, (engineEventPrefix ++ encode e).length ≤ maximumEngineEventBytes
  noise : ∀ l ∈ lines, engineEventPrefix.isPrefixOf l = false →
    lineFeed ∉ l ∧ l.length ≤ maximumEngineEventBytes

theorem ChildOutput.legal {encode : EngineEvent → List UInt8} {events : List EngineEvent}
    {lines : List (List UInt8)} (h : ChildOutput encode events lines)
    (hencode : ∀ e ∈ events, lineFeed ∉ encode e) :
    ∀ l ∈ lines, lineFeed ∉ l ∧ l.length ≤ maximumEngineEventBytes := by
  intro l hl
  cases hstarts : engineEventPrefix.isPrefixOf l with
  | false => exact h.noise l hl hstarts
  | true =>
    have hmem : l ∈ lines.filter engineEventPrefix.isPrefixOf := List.mem_filter.mpr ⟨hl, hstarts⟩
    rw [h.carries] at hmem
    obtain ⟨e, he, rfl⟩ := List.mem_map.mp hmem
    refine ⟨?_, h.fits e he⟩
    rw [List.mem_append, not_or]
    exact ⟨by decide, hencode e he⟩

theorem ChildOutput.payloads {encode : EngineEvent → List UInt8} {events : List EngineEvent}
    {lines : List (List UInt8)} (h : ChildOutput encode events lines) :
    eventPayloads (lines ++ [[]]) = events.map encode := by
  have hempty : engineEventPrefix.isPrefixOf ([] : List UInt8) = false := by decide
  simp [eventPayloads, h.carries, hempty, Function.comp_def]

theorem mapM_decode_encode {encode : EngineEvent → List UInt8}
    {decode : List UInt8 → Option EngineEvent} {events : List EngineEvent}
    (h : ∀ e ∈ events, decode (encode e) = some e) :
    (events.map encode).mapM decode = some events := by
  induction events with
  | nil => rfl
  | cons e events ih =>
    rw [List.forall_mem_cons] at h
    simp only [List.map_cons, List.mapM_cons, h.1, ih h.2]
    rfl

/-- What the child emits is what the decoder captures, and the classification of the process
agrees with the child's last event. -/
theorem trinoChild_captured {program : TrinoRenderedProgram} {s s' : σ}
    {r : Option TrinoChildRun} (h : (runTrinoChild program).Run step s r s')
    (encode : EngineEvent → List UInt8) (decode : List UInt8 → Option EngineEvent) :
    ∃ run, r = some run ∧
      ∀ lines chunks : List (List UInt8),
        (∀ e ∈ run.events, lineFeed ∉ encode e) →
        (∀ e ∈ run.events, decode (encode e) = some e) →
        ChildOutput encode run.events lines →
        chunks.flatten = lines.flatMap (· ++ [lineFeed]) →
        chunks.flatten.length ≤ maximumEngineStdoutBytes →
        let capture := EngineEventDecoder.capture decode chunks
        capture.failure = none ∧ capture.events = run.events ∧
          ∃ last, run.events.getLast? = some last ∧
            Verdict last (.fromTerminal (some run.exitCode) capture) := by
  obtain ⟨run, rfl, hsettled⟩ := runTrinoChild_settled h
  refine ⟨run, rfl, fun lines chunks hencode hdecode hout hchunks htotal => ?_⟩
  have hlegal := hout.legal hencode
  have hsplit : chunks.flatten.splitOn lineFeed = lines ++ [[]] := by
    rw [hchunks, List.splitOn_flatMap_terminated fun l hl => (hlegal l hl).1]
  have hlines : ∀ l ∈ chunks.flatten.splitOn lineFeed, l.length ≤ maximumEngineEventBytes := by
    rw [hsplit]
    intro l hl
    rcases List.mem_append.mp hl with hl | hl
    · exact (hlegal l hl).2
    · simp [List.mem_singleton.mp hl]
  have hdecoded : (eventPayloads (chunks.flatten.splitOn lineFeed)).mapM decode =
      some run.events := by
    rw [hsplit, hout.payloads]
    exact mapM_decode_encode hdecode
  obtain ⟨hok, hevents⟩ :=
    EngineEventDecoder.capture_of_word decode htotal hlines hdecoded hsettled.eventWord
  exact ⟨hok, hevents, hsettled.fromTerminal hevents hok⟩

end Runs

/-- A program whose runtime check fails before any operation is looked at. -/
def idleTrinoProgram : TrinoRenderedProgram where
  taskConcurrency := 1
  catalog := { name := trinoCatalogName, properties := ∅, authentication := .anonymous }
  fixture := { «namespace» := "interop_run", table := "events", requestedLocation := none,
               bucket := "bench" }
  observation := { formatVersion := 2, initialSchema := [],
                   evolvedField := { name := "note", required := false, fieldType := .string },
                   properties := ∅ }
  operations := []

/-- A runtime that cannot be observed. -/
def unobservable (_ : Unit) (c : TrinoCall) (r : c.Reply) (_ : Unit) : Prop :=
  match c, r with
  | .runtimeObservation, r => r = .error ⟨⟩
  | _, _ => False

/-- The line of a failed runtime check between two lines of a log. -/
def runtimeFailureLines : List (List UInt8) :=
  [utf8 "INFO starting", engineEventPrefix ++ EngineEventDecoder.runtimeFailurePayload,
    utf8 "INFO stopped"]

theorem trinoChild_captured_runtime_failure :
    let capture := EngineEventDecoder.capture EngineEventDecoder.decodeRuntimeFailure
      [runtimeFailureLines.flatMap (· ++ [lineFeed])]
    capture.failure = none ∧ capture.events = [.failed .verifyRuntime .runtime] ∧
      EngineProcessOutcome.fromTerminal (some trinoFailureExit) capture =
        .engineFailed .verifyRuntime .runtime := by
  have hrun : (runTrinoChild idleTrinoProgram).Run unobservable ()
      (some (trinoFailed [] .verifyRuntime .runtime)) () :=
    ⟨.error ⟨⟩, (), rfl, rfl, rfl⟩
  obtain ⟨run, hsome, hall⟩ := trinoChild_captured hrun
    (fun _ => EngineEventDecoder.runtimeFailurePayload) EngineEventDecoder.decodeRuntimeFailure
  obtain rfl := Option.some.inj hsome
  obtain ⟨hok, hevents, last, hlast, hverdict⟩ := hall runtimeFailureLines
    [runtimeFailureLines.flatMap (· ++ [lineFeed])] (by decide) (by decide)
    ⟨by decide, by decide, by decide⟩ (by simp) (by decide)
  obtain rfl : EngineEvent.failed .verifyRuntime .runtime = last := Option.some.inj hlast
  exact ⟨hok, hevents, hverdict⟩

end CatalogBench.Engine
