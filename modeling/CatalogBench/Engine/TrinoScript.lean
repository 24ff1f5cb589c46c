import CatalogBench.Engine.Soundness
import CatalogBench.Library.Stages

/-!
# The Trino child as a script

A program whose operations are in the required order drives sixteen effect calls, and every
reply either lets the child go on or ends it. `runTrinoChild_eq_stages` says so once; what a
run may call, and when it completes, follows from the script.
-/

set_option linter.all false

namespace CatalogBench.Engine
open Interaction Interaction.Prog

/-- Eight operations in the required order, the two reads with what they must find. -/
structure OrderedOperations (ρ : Type) where
  createNamespace : String
  createTable : String
  initialAppend : String
  initialRead : String
  initialExpected : ρ
  addColumn : String
  evolvedAppend : String
  evolvedRead : String
  evolvedExpected : ρ
  snapshotRead : String

def OrderedOperations.operations (ops : OrderedOperations CanonicalRead) : List TrinoOperation :=
  [.createNamespace ops.createNamespace, .createTable ops.createTable,
    .initialAppend ops.initialAppend, .initialRead ops.initialRead ops.initialExpected,
    .addColumn ops.addColumn, .evolvedAppend ops.evolvedAppend,
    .evolvedRead ops.evolvedRead ops.evolvedExpected, .snapshotRead ops.snapshotRead]

theorem validOperationOrder_iff {operations : List TrinoOperation} :
    validOperationOrder operations = true ↔ 
      ∃ ops : OrderedOperations CanonicalRead, operations = ops.operations := by
  constructor
  · intro h
    obtain ⟨s₀, s₁, s₂, s₃, e₃, s₄, s₅, s₆, e₆, s₇, rfl⟩ := validOperationOrder_cases h
    exact ⟨⟨s₀, s₁, s₂, s₃, e₃, s₄, s₅, s₆, e₆, s₇⟩, rfl⟩
  · rintro ⟨ops, rfl⟩
    simp [validOperationOrder, OrderedOperations.operations, TrinoOperation.purpose]

/-- The observation a read must make. -/
def CanonicalRead.observation (expected : CanonicalRead) : RowReadObservation :=
  { rows := expected.rows, bytes := expected.bytes, sha256 := expected.sha256 }

abbrev TrinoStep := ScriptStep TrinoCall TrinoCall.Reply (List EngineEvent) (Option TrinoChildRun)

/-- A call whose reply is taken by `accept` or fails the stage. -/
def trinoStep (call : TrinoCall) (stage : EngineStage) (category : EngineFailureCategory)
    (accept : List EngineEvent → call.Reply → Option (List EngineEvent)) : TrinoStep where
  call := call
  next events reply :=
    match accept events reply with
    | some events => .ok events
    | none => .error (some (trinoFailed events stage category))

/-- Go on without an event. -/
def silently {ε α : Type} (events : List EngineEvent) : Except ε α → Option (List EngineEvent)
  | .ok _ => some events
  | .error _ => none

/-- Go on with an event made of the reply. -/
def reporting {ε α : Type} (event : α → EngineEvent) (events : List EngineEvent) :
    Except ε α → Option (List EngineEvent)
  | .ok a => some (events ++ [event a])
  | .error _ => none

/-- Go on when the reply is the wanted one. -/
def expecting {ε α : Type} [DecidableEq α] (wanted : α) (event : EngineEvent)
    (events : List EngineEvent) : Except ε α → Option (List EngineEvent)
  | .ok a => if a ≠ wanted then none else some (events ++ [event])
  | .error _ => none

/-- The preflight: a fixture that exists ends the run with its own exit code. -/
def preflightStep (fixture : TrinoFixtureTarget) : TrinoStep where
  call := .fixtureAbsent fixture
  next events reply :=
    match reply with
    | .ok true => .ok (events ++ [EngineEvent.fixturePreflight true])
    | .ok false => .error (some
        { exitCode := trinoFixtureCollisionExit
          events := events ++ [EngineEvent.fixturePreflight false] })
    | .error _ => .error (some (trinoFailed events .preflightFixture .catalog))

/-- The calls behind the preflight. -/
def stagesScript (program : TrinoRenderedProgram) (ops : OrderedOperations CanonicalRead) : List TrinoStep :=
  [trinoStep (.execute (.createNamespace ops.createNamespace)) .createNamespace .catalog silently,
    trinoStep (.namespaceListedExactly program.fixture) .createNamespace .catalog
      (expecting true (.namespaceReady true)),
    trinoStep (.execute (.createTable ops.createTable)) .createTable .connector silently,
    trinoStep (.observeTable program.fixture program.observation) .createTable .connector
      (reporting .tableReady),
    trinoStep (.execute (.initialAppend ops.initialAppend)) .appendInitial .data silently,
    trinoStep (.snapshotCount (.snapshotRead ops.snapshotRead)) .appendInitial .data
      (reporting .initialAppended),
    trinoStep (.read (.initialRead ops.initialRead ops.initialExpected)) .readInitial .data
      (expecting ops.initialExpected.observation (.initialRead ops.initialExpected.observation)),
    trinoStep (.execute (.addColumn ops.addColumn)) .evolveSchema .connector silently,
    trinoStep (.observeTable program.fixture program.observation) .evolveSchema .connector
      (reporting .schemaEvolved),
    trinoStep (.execute (.evolvedAppend ops.evolvedAppend)) .appendEvolved .data silently,
    trinoStep (.snapshotCount (.snapshotRead ops.snapshotRead)) .appendEvolved .data
      (reporting .evolvedAppended),
    trinoStep (.read (.evolvedRead ops.evolvedRead ops.evolvedExpected)) .readEvolved .data
      (expecting ops.evolvedExpected.observation (.evolvedRead ops.evolvedExpected.observation)),
    trinoStep (.observeTable program.fixture program.observation) .observeFinalTable .connector
      (reporting .finalTable)]

/-- Every call of the child, in order. -/
def trinoScript (program : TrinoRenderedProgram) (configuration : TrinoServerConfiguration)
    (ops : OrderedOperations CanonicalRead) : List TrinoStep :=
  [trinoStep .runtimeObservation .verifyRuntime .runtime (reporting .runtimeReady),
    trinoStep (.initializeCatalog program.catalog configuration) .initializeCatalog .connector
      (reporting fun _ => .catalogReady),
    preflightStep program.fixture] ++ stagesScript program ops

def trinoFinish (events : List EngineEvent) : Option TrinoChildRun :=
  some { exitCode := trinoSuccessExit, events := events ++ [EngineEvent.completed] }

/-- One call of the child is one entry of the script. -/
theorem ask_eq_stages {call : TrinoCall} {stage : EngineStage} {category : EngineFailureCategory}
    {accept : List EngineEvent → call.Reply → Option (List EngineEvent)} {rest : List TrinoStep}
    {events : List EngineEvent} {f : call.Reply → TrinoProg (Option TrinoChildRun)}
    (hsome : ∀ r events', accept events r = some events' →
      f r = stages trinoFinish (rest.map ScriptStep.toStage) events')
    (hnone : ∀ r, accept events r = none →
      f r = pure (some (trinoFailed events stage category))) :
    (ask call >>= f) = stages trinoFinish
      ((trinoStep call stage category accept :: rest).map ScriptStep.toStage) events := by
  refine @bind_eq_stages _ _ _ _ _ (trinoStep call stage category accept).toStage _ _ _ ?_
  intro r
  simp only [ScriptStep.toStage, trinoStep]
  cases haccept : accept events r with
  | some events' => exact hsome r events' haccept
  | none => exact hnone r haccept

section Replies

variable {ε α : Type} {events events' : List EngineEvent} {r : Except ε α}

theorem silently_eq_some (h : silently events r = some events') :
    (∃ a, r = .ok a) ∧ events' = events := by
  cases r with
  | error _ => cases h
  | ok a => exact ⟨⟨a, rfl⟩, (Option.some.inj h).symm⟩

theorem silently_eq_none (h : silently events r = none) : ∃ e, r = .error e := by
  cases r with
  | error e => exact ⟨e, rfl⟩
  | ok _ => cases h

theorem reporting_eq_some {event : α → EngineEvent} (h : reporting event events r = some events') :
    ∃ a, r = .ok a ∧ events' = events ++ [event a] := by
  cases r with
  | error _ => cases h
  | ok a => exact ⟨a, rfl, (Option.some.inj h).symm⟩

theorem reporting_eq_none {event : α → EngineEvent} (h : reporting event events r = none) :
    ∃ e, r = .error e := by
  cases r with
  | error e => exact ⟨e, rfl⟩
  | ok _ => cases h

variable [DecidableEq α] {wanted : α} {event : EngineEvent}

theorem expecting_eq_some (h : expecting wanted event events r = some events') :
    r = .ok wanted ∧ events' = events ++ [event] := by
  cases r with
  | error _ => cases h
  | ok a =>
    rw [expecting] at h
    split at h
    · cases h
    · next hwanted => exact ⟨by rw [not_not.mp hwanted], (Option.some.inj h).symm⟩

theorem expecting_eq_none (h : expecting wanted event events r = none) :
    (∃ e, r = .error e) ∨ ∃ a, a ≠ wanted ∧ r = .ok a := by
  cases r with
  | error e => exact .inl ⟨e, rfl⟩
  | ok a =>
    rw [expecting] at h
    split at h
    · next hwanted => exact .inr ⟨a, hwanted, rfl⟩
    · cases h

end Replies

section Steps

variable {stage : EngineStage} {category : EngineFailureCategory} {rest : List TrinoStep}
  {events : List EngineEvent}

theorem ask_execute_eq_stages {operation : TrinoOperation}
    {f : Except TrinoEffectFailure Unit → TrinoProg (Option TrinoChildRun)}
    (herror : ∀ e, f (.error e) = pure (some (trinoFailed events stage category)))
    (hok : f (.ok ()) = stages trinoFinish (rest.map ScriptStep.toStage) events) :
    (ask (TrinoCall.execute operation) >>= f) = stages trinoFinish
      ((trinoStep (.execute operation) stage category silently :: rest).map ScriptStep.toStage)
      events := by
  apply ask_eq_stages
  · intro r events' h
    obtain ⟨⟨_, rfl⟩, rfl⟩ := silently_eq_some h
    exact hok
  · intro r h
    obtain ⟨e, rfl⟩ := silently_eq_none h
    exact herror e

theorem ask_snapshotCount_eq_stages {operation : TrinoOperation} {event : ℕ → EngineEvent}
    {f : Except TrinoEffectFailure ℕ → TrinoProg (Option TrinoChildRun)}
    (herror : ∀ e, f (.error e) = pure (some (trinoFailed events stage category)))
    (hok : ∀ n, f (.ok n) = stages trinoFinish (rest.map ScriptStep.toStage) (events ++ [event n])) :
    (ask (TrinoCall.snapshotCount operation) >>= f) = stages trinoFinish
      ((trinoStep (.snapshotCount operation) stage category (reporting event) :: rest).map
        ScriptStep.toStage) events := by
  apply ask_eq_stages
  · intro r events' h
    obtain ⟨n, rfl, rfl⟩ := reporting_eq_some h
    exact hok n
  · intro r h
    obtain ⟨e, rfl⟩ := reporting_eq_none h
    exact herror e

theorem ask_observeTable_eq_stages {fixture : TrinoFixtureTarget} {policy : TrinoObservationPolicy}
    {event : EngineTableObservation → EngineEvent}
    {f : Except TrinoEffectFailure EngineTableObservation → TrinoProg (Option TrinoChildRun)}
    (herror : ∀ e, f (.error e) = pure (some (trinoFailed events stage category)))
    (hok : ∀ table, f (.ok table) =
      stages trinoFinish (rest.map ScriptStep.toStage) (events ++ [event table])) :
    (ask (TrinoCall.observeTable fixture policy) >>= f) = stages trinoFinish
      ((trinoStep (.observeTable fixture policy) stage category (reporting event) :: rest).map
        ScriptStep.toStage) events := by
  apply ask_eq_stages
  · intro r events' h
    obtain ⟨table, rfl, rfl⟩ := reporting_eq_some h
    exact hok table
  · intro r h
    obtain ⟨e, rfl⟩ := reporting_eq_none h
    exact herror e

theorem ask_read_eq_stages {operation : TrinoOperation} {wanted : RowReadObservation}
    {event : EngineEvent}
    {f : Except TrinoEffectFailure RowReadObservation → TrinoProg (Option TrinoChildRun)}
    {k : TrinoProg (Option TrinoChildRun)}
    (herror : ∀ e, f (.error e) = pure (some (trinoFailed events stage category)))
    (hread : ∀ read, f (.ok read) =
      if read ≠ wanted then pure (some (trinoFailed events stage category)) else k)
    (hk : k = stages trinoFinish (rest.map ScriptStep.toStage) (events ++ [event])) :
    (ask (TrinoCall.read operation) >>= f) = stages trinoFinish
      ((trinoStep (.read operation) stage category (expecting wanted event) :: rest).map
        ScriptStep.toStage) events := by
  apply ask_eq_stages
  · intro r events' h
    obtain ⟨rfl, rfl⟩ := expecting_eq_some h
    rw [hread, if_neg (by simp), hk]
  · intro r h
    obtain ⟨e, rfl⟩ | ⟨read, hne, rfl⟩ := expecting_eq_none h
    · exact herror e
    · rw [hread, if_pos hne]

end Steps

theorem runTrinoStages_eq_stages {program : TrinoRenderedProgram} {ops : OrderedOperations CanonicalRead}
    (hops : program.operations = ops.operations) (events : List EngineEvent) :
    runTrinoStages program events =
      stages trinoFinish ((stagesScript program ops).map ScriptStep.toStage) events := by
  unfold runTrinoStages
  rw [hops]
  refine ask_execute_eq_stages (fun _ => rfl) ?_
  refine ask_eq_stages (fun r _ h => ?_) fun r h => ?_
  on_goal 2 =>
    obtain ⟨e, rfl⟩ | ⟨listed, hlisted, rfl⟩ := expecting_eq_none h
    · rfl
    · obtain rfl := Bool.eq_false_of_not_eq_true hlisted
      rfl
  obtain ⟨rfl, rfl⟩ := expecting_eq_some h
  refine ask_execute_eq_stages (fun _ => rfl) ?_
  refine ask_observeTable_eq_stages (fun _ => rfl) fun table => ?_
  refine ask_execute_eq_stages (fun _ => rfl) ?_
  refine ask_snapshotCount_eq_stages (fun _ => rfl) fun snapshots => ?_
  refine ask_read_eq_stages (fun _ => rfl) (fun _ => rfl) ?_
  refine ask_execute_eq_stages (fun _ => rfl) ?_
  refine ask_observeTable_eq_stages (fun _ => rfl) fun table => ?_
  refine ask_execute_eq_stages (fun _ => rfl) ?_
  refine ask_snapshotCount_eq_stages (fun _ => rfl) fun snapshots => ?_
  refine ask_read_eq_stages (fun _ => rfl) (fun _ => rfl) ?_
  exact ask_observeTable_eq_stages (fun _ => rfl) fun table => rfl

/-- With its operations in order and its configuration rendered, the child is its script. -/
theorem runTrinoChild_eq_stages {program : TrinoRenderedProgram} {ops : OrderedOperations CanonicalRead}
    {configuration : TrinoServerConfiguration} (hops : program.operations = ops.operations)
    (hrender : TrinoServerConfiguration.render program = .ok configuration) :
    runTrinoChild program = stages trinoFinish
      ((trinoScript program configuration ops).map ScriptStep.toStage) [] := by
  have horder : validOperationOrder program.operations = true :=
    validOperationOrder_iff.mpr ⟨ops, hops⟩
  unfold runTrinoChild
  refine ask_eq_stages (fun r _ h => ?_) fun r h => ?_
  on_goal 2 =>
    obtain ⟨e, rfl⟩ := reporting_eq_none h
    rfl
  obtain ⟨runtime, rfl, rfl⟩ := reporting_eq_some h
  simp only [horder, Bool.not_true, Bool.false_eq_true, if_false, hrender]
  refine ask_eq_stages (fun r _ h => ?_) fun r h => ?_
  on_goal 2 =>
    obtain ⟨e, rfl⟩ := reporting_eq_none h
    rfl
  obtain ⟨_, rfl, rfl⟩ := reporting_eq_some h
  refine @bind_eq_stages _ _ _ _ _ (preflightStep program.fixture).toStage _ _ _ ?_
  intro r
  match r with
  | .error _ => rfl
  | .ok false => rfl
  | .ok true => exact runTrinoStages_eq_stages hops _

-- ════════════════════════════════
-- The trace of a run
-- ════════════════════════════════

abbrev TrinoTrace := List (Answered TrinoCall TrinoCall.Reply)

/-- A reply with which the child goes on. -/
def TrinoAccepted : Answered TrinoCall TrinoCall.Reply → Prop
  | ⟨.runtimeObservation, reply⟩ => ∃ runtime, reply = .ok runtime
  | ⟨.initializeCatalog _ _, reply⟩ => reply = .ok ()
  | ⟨.fixtureAbsent _, reply⟩ => reply = .ok true
  | ⟨.execute _, reply⟩ => reply = .ok ()
  | ⟨.namespaceListedExactly _, reply⟩ => reply = .ok true
  | ⟨.observeTable _ _, reply⟩ => ∃ table, reply = .ok table
  | ⟨.read operation, reply⟩ => ∃ expected, expectedRead operation = some expected ∧ reply = .ok expected
  | ⟨.snapshotCount _, reply⟩ => ∃ snapshots, reply = .ok snapshots

/-- The operation a call executes. -/
def TrinoCall.executes : TrinoCall → Option TrinoOperation
  | .execute operation => some operation
  | _ => none

/-- The operations a run executed, in order. -/
def executed (tr : TrinoTrace) : List TrinoOperation := tr.filterMap (·.call.executes)

/-- Everything a completed run needs. -/
structure TrinoPassed (program : TrinoRenderedProgram) (tr : TrinoTrace) : Prop where
  order : validOperationOrder program.operations = true
  configured : ∃ configuration, TrinoServerConfiguration.render program = .ok configuration
  succeeded : ∀ a ∈ tr, TrinoAccepted a
  absent : ⟨.fixtureAbsent program.fixture, .ok true⟩ ∈ tr
  listed : ⟨.namespaceListedExactly program.fixture, .ok true⟩ ∈ tr
  reads : ∀ i ∈ [3, 6], ∀ operation, program.operations[i]? = some operation →
    ∃ expected, expectedRead operation = some expected ∧ ⟨.read operation, .ok expected⟩ ∈ tr

/-- What the events of an unfinished run look like. -/
def Unfinished (events : List EngineEvent) : Prop := EngineEvent.completed ∉ events

theorem unfinished_append {events : List EngineEvent} {event : EngineEvent}
    (h : Unfinished events) (hevent : event ≠ .completed) : Unfinished (events ++ [event]) := by
  rw [Unfinished, List.mem_append, not_or]
  exact ⟨h, by simpa using hevent.symm⟩

def Completed (r : Option TrinoChildRun) : Prop := ∃ run ∈ r, EngineEvent.completed ∈ run.events

def Stopped (r : Option TrinoChildRun) : Prop := ∃ run ∈ r, EngineEvent.completed ∉ run.events

theorem stopped_failed {events : List EngineEvent} (h : Unfinished events) (stage : EngineStage)
    (category : EngineFailureCategory) : Stopped (some (trinoFailed events stage category)) :=
  ⟨_, rfl, unfinished_append h (by simp)⟩

/-- A step keeps the run unfinished exactly on the replies it accepts. -/
structure SoundStep (entry : TrinoStep) : Prop where
  ok : ∀ events r events', Unfinished events → entry.next events r = .ok events' →
    TrinoAccepted ⟨entry.call, r⟩ ∧ Unfinished events'
  error : ∀ events r b, Unfinished events → entry.next events r = .error b →
    ¬TrinoAccepted ⟨entry.call, r⟩ ∧ Stopped b

namespace SoundStep

theorem of_accept {call : TrinoCall} {stage : EngineStage} {category : EngineFailureCategory}
    {accept : List EngineEvent → call.Reply → Option (List EngineEvent)}
    (hsome : ∀ events r events', Unfinished events → accept events r = some events' →
      TrinoAccepted ⟨call, r⟩ ∧ Unfinished events')
    (hnone : ∀ events r, accept events r = none → ¬TrinoAccepted ⟨call, r⟩) :
    SoundStep (trinoStep call stage category accept) where
  ok events r events' hevents h := by
    simp only [trinoStep] at h
    split at h
    · next haccept =>
      obtain rfl := Except.ok.inj h
      exact hsome events r _ hevents haccept
    · cases h
  error events r b hevents h := by
    simp only [trinoStep] at h
    split at h
    · cases h
    · next haccept =>
      obtain rfl := Except.error.inj h
      exact ⟨hnone events r haccept, stopped_failed hevents stage category⟩

variable {stage : EngineStage} {category : EngineFailureCategory}

theorem runtimeObservation :
    SoundStep (trinoStep .runtimeObservation stage category (reporting .runtimeReady)) := by
  apply of_accept
  · intro events r events' hevents h
    obtain ⟨runtime, rfl, rfl⟩ := reporting_eq_some h
    exact ⟨⟨runtime, rfl⟩, unfinished_append hevents (by simp)⟩
  · intro events r h
    obtain ⟨e, rfl⟩ := reporting_eq_none h
    exact nofun

theorem initializeCatalog (catalog : TrinoCatalogSetup) (configuration : TrinoServerConfiguration) :
    SoundStep (trinoStep (.initializeCatalog catalog configuration) stage category
      (reporting fun _ => .catalogReady)) := by
  apply of_accept
  · intro events r events' hevents h
    obtain ⟨_, rfl, rfl⟩ := reporting_eq_some h
    exact ⟨rfl, unfinished_append hevents (by simp)⟩
  · intro events r h
    obtain ⟨e, rfl⟩ := reporting_eq_none h
    exact nofun

theorem preflight (fixture : TrinoFixtureTarget) : SoundStep (preflightStep fixture) where
  ok events r events' hevents h := by
    match r, h with
    | .ok true, h =>
      obtain rfl := Except.ok.inj h
      exact ⟨rfl, unfinished_append hevents (by simp)⟩
  error events r b hevents h := by
    match r, h with
    | .ok false, h =>
      obtain rfl := Except.error.inj h
      exact ⟨nofun, _, rfl, unfinished_append hevents (by simp)⟩
    | .error _, h =>
      obtain rfl := Except.error.inj h
      exact ⟨nofun, stopped_failed hevents _ _⟩

theorem execute (operation : TrinoOperation) :
    SoundStep (trinoStep (.execute operation) stage category silently) := by
  apply of_accept
  · intro events r events' hevents h
    obtain ⟨⟨_, rfl⟩, rfl⟩ := silently_eq_some h
    exact ⟨rfl, hevents⟩
  · intro events r h
    obtain ⟨e, rfl⟩ := silently_eq_none h
    exact nofun

theorem namespaceListedExactly (fixture : TrinoFixtureTarget) :
    SoundStep (trinoStep (.namespaceListedExactly fixture) stage category
      (expecting true (.namespaceReady true))) := by
  apply of_accept
  · intro events r events' hevents h
    obtain ⟨rfl, rfl⟩ := expecting_eq_some h
    exact ⟨rfl, unfinished_append hevents (by simp)⟩
  · intro events r h
    obtain ⟨e, rfl⟩ | ⟨listed, hlisted, rfl⟩ := expecting_eq_none h
    · exact nofun
    · exact fun haccepted => hlisted (Except.ok.inj haccepted)

theorem observeTable (fixture : TrinoFixtureTarget) (policy : TrinoObservationPolicy)
    {event : EngineTableObservation → EngineEvent} (hevent : ∀ table, event table ≠ .completed) :
    SoundStep (trinoStep (.observeTable fixture policy) stage category (reporting event)) := by
  apply of_accept
  · intro events r events' hevents h
    obtain ⟨table, rfl, rfl⟩ := reporting_eq_some h
    exact ⟨⟨table, rfl⟩, unfinished_append hevents (hevent table)⟩
  · intro events r h
    obtain ⟨e, rfl⟩ := reporting_eq_none h
    exact nofun

theorem snapshotCount (operation : TrinoOperation) {event : ℕ → EngineEvent}
    (hevent : ∀ n, event n ≠ .completed) :
    SoundStep (trinoStep (.snapshotCount operation) stage category (reporting event)) := by
  apply of_accept
  · intro events r events' hevents h
    obtain ⟨n, rfl, rfl⟩ := reporting_eq_some h
    exact ⟨⟨n, rfl⟩, unfinished_append hevents (hevent n)⟩
  · intro events r h
    obtain ⟨e, rfl⟩ := reporting_eq_none h
    exact nofun

theorem read {operation : TrinoOperation} {expected : RowReadObservation} {event : EngineEvent}
    (hexpected : expectedRead operation = some expected) (hevent : event ≠ .completed) :
    SoundStep (trinoStep (.read operation) stage category (expecting expected event)) := by
  apply of_accept
  · intro events r events' hevents h
    obtain ⟨rfl, rfl⟩ := expecting_eq_some h
    exact ⟨⟨expected, hexpected, rfl⟩, unfinished_append hevents hevent⟩
  · intro events r h
    rintro ⟨wanted, hwanted, rfl⟩
    obtain rfl : expected = wanted := Option.some.inj (hexpected.symm.trans hwanted)
    obtain ⟨e, h⟩ | ⟨observed, hne, h⟩ := expecting_eq_none h
    · cases h
    · exact hne (Except.ok.inj h).symm

end SoundStep

theorem trinoScript_sound (program : TrinoRenderedProgram)
    (configuration : TrinoServerConfiguration) (ops : OrderedOperations CanonicalRead) :
    ∀ entry ∈ trinoScript program configuration ops, SoundStep entry := by
  simp only [trinoScript, stagesScript, List.cons_append, List.nil_append, List.forall_mem_cons]
  exact ⟨.runtimeObservation, .initializeCatalog _ _, .preflight _, .execute _,
    .namespaceListedExactly _, .execute _, .observeTable _ _ nofun, .execute _,
    .snapshotCount _ nofun, .read rfl nofun, .execute _, .observeTable _ _ nofun, .execute _,
    .snapshotCount _ nofun, .read rfl nofun, .observeTable _ _ nofun, nofun⟩

/-- A child that is not ready for its catalog asks for the runtime and stops. -/
theorem runTrinoChild_not_ready {program : TrinoRenderedProgram} {r : Option TrinoChildRun}
    {tr : TrinoTrace} (h : (runTrinoChild program).Run recording [] r tr)
    (hready : ¬(validOperationOrder program.operations = true ∧
      ∃ configuration, TrinoServerConfiguration.render program = .ok configuration)) :
    (∃ reply, tr = [⟨.runtimeObservation, reply⟩]) ∧ Stopped r := by
  unfold runTrinoChild at h
  obtain ⟨e, tr₁, hcall, rfl, rfl⟩ | ⟨runtime, tr₁, hcall, h⟩ := run_bind_except h
  · obtain rfl := run_ask.mp hcall
    exact ⟨⟨_, rfl⟩, stopped_failed List.not_mem_nil _ _⟩
  obtain rfl := run_ask.mp hcall
  have hevents : Unfinished ([] ++ [EngineEvent.runtimeReady runtime]) :=
    unfinished_append List.not_mem_nil nofun
  obtain ⟨_, rfl, rfl⟩ | ⟨horder, h⟩ := run_ite h
  · exact ⟨⟨_, rfl⟩, stopped_failed hevents _ _⟩
  cases hrender : TrinoServerConfiguration.render program with
  | error _ =>
    rw [hrender] at h
    obtain ⟨rfl, rfl⟩ := h
    exact ⟨⟨_, rfl⟩, stopped_failed hevents _ _⟩
  | ok configuration => exact (hready ⟨by simpa using horder, configuration, hrender⟩).elim

section Trace

variable {program : TrinoRenderedProgram} {configuration : TrinoServerConfiguration}
  {ops : OrderedOperations CanonicalRead} {r : Option TrinoChildRun} {tr : TrinoTrace}

theorem trinoScript_ending (h : Replays trinoFinish (trinoScript program configuration ops) [] tr r) :
    ((∀ a ∈ tr, TrinoAccepted a) ∧ tr.length = (trinoScript program configuration ops).length ∧
      Completed r) ∨
      ∃ before last, tr = before ++ [last] ∧ (∀ a ∈ before, TrinoAccepted a) ∧
        ¬TrinoAccepted last ∧ Stopped r := by
  apply h.ending
  · exact fun entry hentry => (trinoScript_sound _ _ _ entry hentry).ok
  · exact fun entry hentry => (trinoScript_sound _ _ _ entry hentry).error
  · exact fun events _ => ⟨_, rfl, by simp⟩
  · exact List.not_mem_nil

/-- Only the last reply of a run can be one that is turned down. -/
theorem accepted_of_not_last {before after : TrinoTrace}
    {a : Answered TrinoCall TrinoCall.Reply}
    (h : Replays trinoFinish (trinoScript program configuration ops) [] tr r)
    (htr : tr = before ++ a :: after) (hafter : after ≠ []) : TrinoAccepted a := by
  rcases trinoScript_ending h with ⟨hall, -, -⟩ | ⟨init, last, hlast, hall, -, -⟩
  · exact hall a (by simp [htr])
  · obtain ⟨rest, final, rfl⟩ := List.eq_nil_or_concat after |>.resolve_left hafter
    have hsplit : init ++ [last] = (before ++ a :: rest) ++ [final] := by
      rw [← hlast, htr]
      simp
    obtain ⟨rfl, -⟩ := List.append_inj' hsplit rfl
    exact hall a (by simp)

/-- A call of the script that a complete run made was accepted. -/
theorem mem_of_complete (h : Replays trinoFinish (trinoScript program configuration ops) [] tr r)
    (hall : ∀ a ∈ tr, TrinoAccepted a)
    (hlength : tr.length = (trinoScript program configuration ops).length) {call : TrinoCall}
    (hcall : call ∈ (trinoScript program configuration ops).map ScriptStep.call) :
    ∃ reply, ⟨call, reply⟩ ∈ tr ∧ TrinoAccepted ⟨call, reply⟩ := by
  have hcalls : tr.map Answered.call = (trinoScript program configuration ops).map ScriptStep.call :=
    h.calls_prefix.eq_of_length (by simpa using hlength)
  rw [← hcalls, List.mem_map] at hcall
  obtain ⟨⟨call, reply⟩, hmem, rfl⟩ := hcall
  exact ⟨reply, hmem, hall _ hmem⟩

theorem execute_after_preflight
    (h : Replays trinoFinish (trinoScript program configuration ops) [] tr r)
    {before after : TrinoTrace} {operation : TrinoOperation}
    {reply : Except TrinoEffectFailure Unit}
    (htr : tr = before ++ ⟨.execute operation, reply⟩ :: after) :
    ⟨.fixtureAbsent program.fixture, .ok true⟩ ∈ before := by
  have hcall := h.call_at htr
  -- the first three entries of the script execute nothing
  match before, htr, hcall with
  | [], _, hcall => cases hcall
  | [_], _, hcall => cases hcall
  | [_, _], _, hcall => cases hcall
  | runtime :: catalog :: ⟨issued, preflight⟩ :: rest, htr, _ =>
    have hthird : tr = [runtime, catalog] ++ ⟨issued, preflight⟩ ::
        (rest ++ ⟨.execute operation, reply⟩ :: after) := htr
    have hfixture : some (TrinoCall.fixtureAbsent program.fixture) = some issued :=
      h.call_at hthird
    obtain rfl := Option.some.inj hfixture
    obtain rfl : preflight = .ok true := accepted_of_not_last h hthird (by simp)
    simp

theorem executed_prefix (h : Replays trinoFinish (trinoScript program configuration ops) [] tr r) :
    executed tr <+: [.createNamespace ops.createNamespace, .createTable ops.createTable,
      .initialAppend ops.initialAppend, .addColumn ops.addColumn,
      .evolvedAppend ops.evolvedAppend] := by
  have hcalls := h.calls_prefix.filterMap TrinoCall.executes
  rw [List.filterMap_map] at hcalls
  exact hcalls

theorem completed_iff_accepted
    (h : Replays trinoFinish (trinoScript program configuration ops) [] tr r) :
    (∃ run ∈ r, EngineEvent.completed ∈ run.events) ↔ ∀ a ∈ tr, TrinoAccepted a := by
  rcases trinoScript_ending h with ⟨hall, -, hdone⟩ | ⟨before, last, rfl, -, hnot, run, hrun, hstop⟩
  · exact ⟨fun _ => hall, fun _ => hdone⟩
  · constructor
    · rintro ⟨run', hrun', hcompleted⟩
      obtain rfl : run = run' := Option.some.inj (hrun.symm.trans hrun')
      exact (hstop hcompleted).elim
    · intro hall
      exact (hnot (hall last (by simp))).elim

/-- A complete run passed everything a completed run needs. -/
theorem trinoPassed_of_accepted (hops : program.operations = ops.operations)
    (hrender : TrinoServerConfiguration.render program = .ok configuration)
    (h : Replays trinoFinish (trinoScript program configuration ops) [] tr r)
    (hall : ∀ a ∈ tr, TrinoAccepted a) : TrinoPassed program tr := by
  have hlength : tr.length = (trinoScript program configuration ops).length := by
    rcases trinoScript_ending h with ⟨-, hlength, -⟩ | ⟨before, last, rfl, -, hnot, -⟩
    · exact hlength
    · exact (hnot (hall last (by simp))).elim
  refine ⟨validOperationOrder_iff.mpr ⟨ops, hops⟩, ⟨configuration, hrender⟩, hall, ?_, ?_, ?_⟩
  · obtain ⟨reply, hmem, haccepted⟩ := mem_of_complete h hall hlength
      (show TrinoCall.fixtureAbsent program.fixture ∈ _ from .tail _ (.tail _ (.head _)))
    obtain rfl : reply = .ok true := haccepted
    exact hmem
  · obtain ⟨reply, hmem, haccepted⟩ := mem_of_complete h hall hlength
      (show TrinoCall.namespaceListedExactly program.fixture ∈ _ from
        .tail _ (.tail _ (.tail _ (.tail _ (.head _)))))
    obtain rfl : reply = .ok true := haccepted
    exact hmem
  · intro i hi operation hoperation
    rw [hops] at hoperation
    have hcall : TrinoCall.read operation ∈
        (trinoScript program configuration ops).map ScriptStep.call := by
      simp only [List.mem_cons, List.not_mem_nil, or_false] at hi
      rcases hi with rfl | rfl <;> obtain rfl := Option.some.inj hoperation <;>
        simp [trinoScript, stagesScript, trinoStep]
    obtain ⟨reply, hmem, expected, hexpected, rfl⟩ := mem_of_complete h hall hlength hcall
    exact ⟨expected, hexpected, hmem⟩

end Trace

/-- Whatever the effects do, the child does not panic, executes only behind an answered
preflight, executes the five mutations in order and each at most once, stops behind the first
reply it turns down, and completes exactly when nothing was turned down. -/
theorem runTrinoChild_trace {program : TrinoRenderedProgram} {r : Option TrinoChildRun}
    {tr : TrinoTrace} (h : (runTrinoChild program).Run recording [] r tr) :
    ∃ run, r = some run ∧
      (∀ before operation reply after, tr = before ++ ⟨.execute operation, reply⟩ :: after →
        ⟨.fixtureAbsent program.fixture, .ok true⟩ ∈ before) ∧
      (executed tr).Sublist program.operations ∧
      (executed tr).map TrinoOperation.purpose <+:
        [.createNamespace, .createTable, .initialAppend, .addColumn, .evolvedAppend] ∧
      (∀ before a after, tr = before ++ a :: after → ¬TrinoAccepted a → after = []) ∧
      (EngineEvent.completed ∈ run.events ↔ TrinoPassed program tr) := by
  obtain ⟨run, rfl, -⟩ := runTrinoChild_settled h
  refine ⟨run, rfl, ?_⟩
  by_cases hready : validOperationOrder program.operations = true ∧
      ∃ configuration, TrinoServerConfiguration.render program = .ok configuration
  · obtain ⟨horder, configuration, hrender⟩ := hready
    obtain ⟨ops, hops⟩ := validOperationOrder_iff.mp horder
    rw [runTrinoChild_eq_stages hops hrender] at h
    obtain ⟨new, hnew, hreplays⟩ := Script.replays h
    obtain rfl : tr = new := by simpa using hnew
    have hexecuted := executed_prefix hreplays
    refine ⟨fun _ _ _ _ htr => execute_after_preflight hreplays htr, ?_, ?_, ?_, ?_⟩
    · rw [hops]
      refine hexecuted.sublist.trans ?_
      simp [OrderedOperations.operations]
    · exact hexecuted.map TrinoOperation.purpose
    · intro before a after htr hnot
      by_contra hafter
      exact hnot (accepted_of_not_last hreplays htr hafter)
    · have hiff := completed_iff_accepted hreplays
      simp only [Option.mem_some_iff, exists_eq_left'] at hiff
      rw [hiff]
      exact ⟨trinoPassed_of_accepted hops hrender hreplays, TrinoPassed.succeeded⟩
  · obtain ⟨⟨reply, rfl⟩, run', hrun', hstop⟩ := runTrinoChild_not_ready h hready
    obtain rfl := Option.some.inj hrun'
    refine ⟨?_, List.nil_sublist _, List.nil_prefix, ?_, ?_⟩
    · intro before operation reply' after htr
      rcases before with _ | ⟨_, _ | _⟩ <;> cases htr
    · intro before a after htr _
      rcases before with _ | ⟨_, _ | _⟩ <;> cases htr
      rfl
    · exact ⟨fun hcompleted => (hstop hcompleted).elim, fun hpassed =>
        (hready ⟨hpassed.order, hpassed.configured⟩).elim⟩

/-- The sample runtime, which also keeps the trace. -/
def tracedEffects (tr : TrinoTrace) (c : TrinoCall) : c.Reply × TrinoTrace :=
  let observations := tr.countP fun a => match a.call with
    | .observeTable _ _ => true
    | _ => false
  let reply := (sampleEffects observations c).1
  (reply, tr ++ [⟨c, reply⟩])

/-- How often a trace observes the table. -/
def observationCount (tr : TrinoTrace) : ℕ :=
  tr.countP fun a => match a.call with
    | .observeTable _ _ => true
    | _ => false

theorem sampleEffects_traced (tr : TrinoTrace) (c : TrinoCall) :
    observationCount (tracedEffects tr c).2 = (sampleEffects (observationCount tr) c).2 := by
  cases c <;> simp [observationCount, tracedEffects, sampleEffects]

theorem runTrinoChild_trace_sample :
    ∃ tr : TrinoTrace, (runTrinoChild sampleProgram).Run recording [] (some sampleRun) tr ∧
      EngineEvent.completed ∈ sampleRun.events ∧ TrinoPassed sampleProgram tr := by
  have hrecords : ∀ tr c, recording tr c (tracedEffects tr c).1 (tracedEffects tr c).2 :=
    fun _ _ => rfl
  have hrun := run_exec tracedEffects hrecords (runTrinoChild sampleProgram) []
  have hsome : ((runTrinoChild sampleProgram).exec tracedEffects []).1 = some sampleRun :=
    (exec_map observationCount (fun _ _ => rfl) sampleEffects_traced _ _).trans sampleRun_eq
  rw [hsome] at hrun
  obtain ⟨run, hrunEq, -, -, -, -, hiff⟩ := runTrinoChild_trace hrun
  obtain rfl := Option.some.inj hrunEq
  have hcompleted : EngineEvent.completed ∈ sampleRun.events := by decide
  exact ⟨_, hrun, hcompleted, hiff.mp hcompleted⟩

end CatalogBench.Engine
