import CatalogBench.Engine.TrinoScript
import CatalogBench.Flink.EventSink

/-!
# The program runner of the Flink process

`run` drives the effects of the Flink runtime through the stages of the scenario and prints an
event for each of them. Both the effects and the sink can fail. A method that catches a failure
reports the stage as failed and returns `false`; a cast or an index that does not fit the
program throws, which is `none`.
-/

set_option linter.all false

namespace CatalogBench.Flink
open CatalogBench.Engine Interaction Interaction.Prog

def successExit : ℤ := 0
def failureExit : ℤ := 2
def fixtureCollisionExit : ℤ := 3

structure EffectFailure where
  deriving DecidableEq

/-- The methods of `EngineEffects`. -/
inductive EffectCall
  | runtimeObservation
  | initializeCatalog (catalog : CatalogSetup)
  | fixtureAbsent (fixture : FixtureTarget)
  | execute (operation : Operation)
  | namespaceListedExactly (fixture : FixtureTarget)
  | observeTable (fixture : FixtureTarget) (policy : ObservationPolicy)
  | read (operation : Operation) (oracle : ReadOracle)
  | snapshotCount (operation : Operation)

/-- What each method returns. -/
abbrev EffectCall.Reply : EffectCall → Type
  | .runtimeObservation => Except EffectFailure EngineRuntimeObservation
  | .initializeCatalog _ => Except EffectFailure Unit
  | .fixtureAbsent _ => Except EffectFailure Bool
  | .execute _ => Except EffectFailure Unit
  | .namespaceListedExactly _ => Except EffectFailure Bool
  | .observeTable _ _ => Except EffectFailure TableObservation
  | .read _ _ => Except EffectFailure ReadObservation
  | .snapshotCount _ => Except EffectFailure ℤ

/-- What the runner calls: an effect, or `emit` of its sink. -/
inductive RunnerCall
  | effect (c : EffectCall)
  | emit (event : ChildEvent)

abbrev RunnerCall.Reply : RunnerCall → Type
  | .effect c => c.Reply
  | .emit _ => Except EventFailure Unit

abbrev RunnerProg := Prog RunnerCall RunnerCall.Reply

/-- The parent maps a broken event stream to a protocol failure, so a failed `emit` is ignored. -/
def fail (stage : EngineStage) (category : EngineFailureCategory) : RunnerProg ℤ := do
  let _ ← ask (RunnerCall.emit (.failed stage category))
  return failureExit

/-- The `catch` block of the methods that return a boolean. -/
def failing (stage : EngineStage) (category : EngineFailureCategory) : RunnerProg Bool := do
  let _ ← fail stage category
  return false

def emitRuntime : RunnerProg Bool := do
  let .ok runtime ← ask (RunnerCall.effect .runtimeObservation) | failing .verifyRuntime .runtime
  let .ok _ ← ask (RunnerCall.emit (.runtimeReady runtime)) | failing .verifyRuntime .runtime
  return true

/-- `effect` with its only effect, the initialisation of the catalog. -/
def initializeCatalog (catalog : CatalogSetup) : RunnerProg Bool := do
  let .ok _ ← ask (RunnerCall.effect (.initializeCatalog catalog))
    | failing .initializeCatalog .connector
  let .ok _ ← ask (RunnerCall.emit .catalogReady) | failing .initializeCatalog .connector
  return true

def createNamespace (program : Program) (operation : Operation) : RunnerProg Bool := do
  let .ok _ ← ask (RunnerCall.effect (.execute operation)) | failing .createNamespace .catalog
  let .ok listedExactly ← ask (RunnerCall.effect (.namespaceListedExactly program.fixture))
    | failing .createNamespace .catalog
  if !listedExactly then failing .createNamespace .catalog
  else
    let .ok _ ← ask (RunnerCall.emit (.namespaceReady true)) | failing .createNamespace .catalog
    return true

def mutateAndObserve (operation : Operation) (program : Program) (stage : EngineStage)
    (category : EngineFailureCategory) (event : TableObservation → ChildEvent) :
    RunnerProg Bool := do
  let .ok _ ← ask (RunnerCall.effect (.execute operation)) | failing stage category
  let .ok table ← ask (RunnerCall.effect (.observeTable program.fixture program.observation))
    | failing stage category
  let .ok _ ← ask (RunnerCall.emit (event table)) | failing stage category
  return true

def append (operation snapshots : Operation) (stage : EngineStage) (initial : Bool) :
    RunnerProg Bool := do
  let .ok _ ← ask (RunnerCall.effect (.execute operation)) | failing stage .data
  let .ok count ← ask (RunnerCall.effect (.snapshotCount snapshots)) | failing stage .data
  let event : ChildEvent := if initial then .initialAppended count else .evolvedAppended count
  let .ok _ ← ask (RunnerCall.emit event) | failing stage .data
  return true

def read (operation : Operation) (stage : EngineStage) (initial : Bool) :
    RunnerProg (Option Bool) := do
  let some oracle := operation.oracle | return none
  let .ok observed ← ask (RunnerCall.effect (.read operation oracle)) | some <$> failing stage .data
  let expected := ReadObservation.fromOracle oracle
  if expected ≠ observed then some <$> failing stage .data
  else
    let event : ChildEvent := if initial then .initialRead expected else .evolvedRead expected
    let .ok _ ← ask (RunnerCall.emit event) | some <$> failing stage .data
    return some true

/-- `operations.get(index)` cast to a class of operation. -/
def castAt (operations : List Operation) (index : ℕ) (operationClass : OperationClass) :
    Option Operation :=
  operations[index]?.filter fun operation => operation.getClass = operationClass

/-- The last stage of `run`. -/
def observeFinalTable (program : Program) : RunnerProg ℤ := do
  let .ok table ← ask (RunnerCall.effect (.observeTable program.fixture program.observation))
    | fail .observeFinalTable .connector
  let .ok _ ← ask (RunnerCall.emit (.finalTable table)) | fail .observeFinalTable .connector
  let .ok _ ← ask (RunnerCall.emit .completed) | fail .observeFinalTable .connector
  return successExit

/-- The part of `run` behind the preflight. -/
def runStages (program : Program) : RunnerProg (Option ℤ) := do
  let operations := program.operations
  let some operation := castAt operations 0 .createNamespace | return none
  if !(← createNamespace program operation) then return some failureExit
  let some operation := castAt operations 1 .createTable | return none
  if !(← mutateAndObserve operation program .createTable .connector .tableReady) then
    return some failureExit
  let some snapshots := castAt operations 7 .snapshotRead | return none
  let some operation := castAt operations 2 .initialAppend | return none
  if !(← append operation snapshots .appendInitial true) then return some failureExit
  let some operation := castAt operations 3 .initialRead | return none
  let some passed ← read operation .readInitial true | return none
  if !passed then return some failureExit
  let some operation := castAt operations 4 .addColumn | return none
  if !(← mutateAndObserve operation program .evolveSchema .connector .schemaEvolved) then
    return some failureExit
  let some operation := castAt operations 5 .evolvedAppend | return none
  if !(← append operation snapshots .appendEvolved false) then return some failureExit
  let some operation := castAt operations 6 .evolvedRead | return none
  let some passed ← read operation .readEvolved false | return none
  if !passed then return some failureExit
  some <$> observeFinalTable program

def run (program : Program) : RunnerProg (Option ℤ) := do
  if !(← emitRuntime) then return some failureExit
  if !(← initializeCatalog program.catalog) then return some failureExit
  let .ok absent ← ask (RunnerCall.effect (.fixtureAbsent program.fixture))
    | some <$> fail .preflightFixture .catalog
  let .ok _ ← ask (RunnerCall.emit (.fixturePreflight absent))
    | some <$> fail .preflightFixture .catalog
  if !absent then return some fixtureCollisionExit
  runStages program

-- ════════════════════════════════
-- The runner as stages
-- ════════════════════════════════

abbrev RunnerStage := Stage RunnerCall RunnerCall.Reply Unit (Option ℤ)

/-- Print the events of a stage. -/
def emitAll (stage : EngineStage) (category : EngineFailureCategory) :
    List ChildEvent → RunnerProg Bool
  | [] => return true
  | event :: events => do
    let .ok _ ← ask (RunnerCall.emit event) | failing stage category
    emitAll stage category events

/-- One effect, whose reply is either turned down or reported by some events. -/
def runnerBody (c : EffectCall) (stage : EngineStage) (category : EngineFailureCategory)
    (accept : c.Reply → Option (List ChildEvent)) : RunnerProg Bool := do
  let reply ← ask (RunnerCall.effect c)
  match accept reply with
  | none => failing stage category
  | some events => emitAll stage category events

def runnerStage (c : EffectCall) (stage : EngineStage) (category : EngineFailureCategory)
    (accept : c.Reply → Option (List ChildEvent)) : RunnerStage where
  Reply := Bool
  body := runnerBody c stage category accept
  next _ passed := if passed then .ok () else .error (some failureExit)

/-- The preflight of `run`, which can end it with an exit code of its own. -/
def preflightStage (fixture : FixtureTarget) : RunnerStage where
  Reply := Option ℤ
  body := do
    let .ok absent ← ask (RunnerCall.effect (.fixtureAbsent fixture))
      | some <$> fail .preflightFixture .catalog
    let .ok _ ← ask (RunnerCall.emit (.fixturePreflight absent))
      | some <$> fail .preflightFixture .catalog
    if !absent then return some fixtureCollisionExit else return none
  next _ exit := match exit with
    | none => .ok ()
    | some exit => .error (some exit)

/-- Take a reply without an event. -/
def unreported {α : Type} : Except EffectFailure α → Option (List ChildEvent)
  | .ok _ => some []
  | .error _ => none

/-- Take a reply with events made of it. -/
def reported {α : Type} (events : α → List ChildEvent) : Except EffectFailure α → Option (List ChildEvent)
  | .ok a => some (events a)
  | .error _ => none

/-- Take the wanted reply only. -/
def wantedOnly {α : Type} [DecidableEq α] (wanted : α) (event : ChildEvent) :
    Except EffectFailure α → Option (List ChildEvent)
  | .ok a => if wanted ≠ a then none else some [event]
  | .error _ => none

def flinkOperations (ops : OrderedOperations ReadOracle) : List Operation :=
  [.createNamespace ops.createNamespace, .createTable ops.createTable,
    .initialAppend ops.initialAppend, .initialRead ops.initialRead ops.initialExpected,
    .addColumn ops.addColumn, .evolvedAppend ops.evolvedAppend,
    .evolvedRead ops.evolvedRead ops.evolvedExpected, .snapshotRead ops.snapshotRead]

def runnerStages (program : Program) (ops : OrderedOperations ReadOracle) : List RunnerStage :=
  [runnerStage .runtimeObservation .verifyRuntime .runtime (reported fun r => [.runtimeReady r]),
    runnerStage (.initializeCatalog program.catalog) .initializeCatalog .connector
      (reported fun _ => [.catalogReady]),
    preflightStage program.fixture,
    runnerStage (.execute (.createNamespace ops.createNamespace)) .createNamespace .catalog
      unreported,
    runnerStage (.namespaceListedExactly program.fixture) .createNamespace .catalog
      (wantedOnly true (.namespaceReady true)),
    runnerStage (.execute (.createTable ops.createTable)) .createTable .connector unreported,
    runnerStage (.observeTable program.fixture program.observation) .createTable .connector
      (reported fun table => [.tableReady table]),
    runnerStage (.execute (.initialAppend ops.initialAppend)) .appendInitial .data unreported,
    runnerStage (.snapshotCount (.snapshotRead ops.snapshotRead)) .appendInitial .data
      (reported fun count => [.initialAppended count]),
    runnerStage (.read (.initialRead ops.initialRead ops.initialExpected) ops.initialExpected)
      .readInitial .data (wantedOnly (.fromOracle ops.initialExpected)
        (.initialRead (.fromOracle ops.initialExpected))),
    runnerStage (.execute (.addColumn ops.addColumn)) .evolveSchema .connector unreported,
    runnerStage (.observeTable program.fixture program.observation) .evolveSchema .connector
      (reported fun table => [.schemaEvolved table]),
    runnerStage (.execute (.evolvedAppend ops.evolvedAppend)) .appendEvolved .data unreported,
    runnerStage (.snapshotCount (.snapshotRead ops.snapshotRead)) .appendEvolved .data
      (reported fun count => [.evolvedAppended count]),
    runnerStage (.read (.evolvedRead ops.evolvedRead ops.evolvedExpected) ops.evolvedExpected)
      .readEvolved .data (wantedOnly (.fromOracle ops.evolvedExpected)
        (.evolvedRead (.fromOracle ops.evolvedExpected))),
    runnerStage (.observeTable program.fixture program.observation) .observeFinalTable .connector
      (reported fun table => [.finalTable table, .completed])]

def runnerFinish (_ : Unit) : Option ℤ := some successExit

/-- What a stage that fails does. -/
def giveUp (stage : EngineStage) (category : EngineFailureCategory) : RunnerProg (Option ℤ) := do
  let _ ← ask (RunnerCall.emit (.failed stage category))
  return some failureExit

/-- What follows a stage. -/
def continueWith (rest : List RunnerStage) (passed : Bool) : RunnerProg (Option ℤ) :=
  if passed then stages runnerFinish rest () else return some failureExit

section Equations

variable {stage : EngineStage} {category : EngineFailureCategory} {rest : List RunnerStage}

/-- An effect and what `run` does with its reply are one stage. -/
theorem ask_eq_runnerStages {c : EffectCall} {accept : c.Reply → Option (List ChildEvent)}
    {f : c.Reply → RunnerProg (Option ℤ)}
    (hnone : ∀ r, accept r = none → f r = giveUp stage category)
    (hsome : ∀ r events, accept r = some events →
      f r = emitAll stage category events >>= continueWith rest) :
    (ask (RunnerCall.effect c) >>= f) =
      stages runnerFinish (runnerStage c stage category accept :: rest) () := by
  have hbody : (ask (RunnerCall.effect c) >>= f) =
      runnerBody c stage category accept >>= continueWith rest := by
    rw [runnerBody, bind_assoc]
    refine bind_congr fun r => ?_
    cases haccept : accept r with
    | none => exact hnone r haccept
    | some events => exact hsome r events haccept
  rw [hbody]
  refine @bind_eq_stages _ _ _ _ _ (runnerStage c stage category accept) _ _ _ ?_
  intro passed
  cases passed <;> rfl

/-- A printed event and what `run` does behind it. -/
theorem emit_eq_emitAll {event : ChildEvent} {events : List ChildEvent}
    {f : Except EventFailure Unit → RunnerProg (Option ℤ)}
    (herror : ∀ e, f (.error e) = giveUp stage category)
    (hok : f (.ok ()) = emitAll stage category events >>= continueWith rest) :
    (ask (RunnerCall.emit event) >>= f) =
      emitAll stage category (event :: events) >>= continueWith rest := by
  rw [emitAll, bind_assoc]
  refine bind_congr fun r => ?_
  cases r with
  | error e => exact herror e
  | ok _ => exact hok

theorem execute_eq_stages {operation : Operation}
    {f : Except EffectFailure Unit → RunnerProg (Option ℤ)}
    (herror : ∀ e, f (.error e) = giveUp stage category)
    (hok : f (.ok ()) = stages runnerFinish rest ()) :
    (ask (RunnerCall.effect (.execute operation)) >>= f) =
      stages runnerFinish (runnerStage (.execute operation) stage category unreported :: rest)
        () := by
  apply ask_eq_runnerStages
  · rintro (e | _) h
    · exact herror e
    · cases h
  · rintro (_ | _) events h
    · cases h
    · obtain rfl := Option.some.inj h
      exact hok

section Methods

variable {k : Bool → RunnerProg (Option ℤ)} (hk : ∀ passed, k passed = continueWith rest passed)
include hk

theorem failing_bind : (failing stage category >>= k) = giveUp stage category := by
  rw [failing, fail, bind_assoc, bind_assoc]
  exact bind_congr fun _ => hk false

/-- The last event of a method that returns a boolean. -/
theorem emit_last {event : ChildEvent} {f : Except EventFailure Unit → RunnerProg (Option ℤ)}
    (herror : ∀ e, f (.error e) = failing stage category >>= k) (hok : f (.ok ()) = k true) :
    (ask (RunnerCall.emit event) >>= f) =
      emitAll stage category [event] >>= continueWith rest := by
  apply emit_eq_emitAll
  · intro e
    rw [herror, failing_bind hk]
  · rw [hok, hk]
    rfl

theorem emitRuntime_eq_stages : (emitRuntime >>= k) = stages runnerFinish
    (runnerStage .runtimeObservation .verifyRuntime .runtime (reported fun r => [.runtimeReady r]) ::
      rest) () := by
  rw [emitRuntime, bind_assoc]
  apply ask_eq_runnerStages
  · rintro (_ | runtime) h
    · exact failing_bind hk
    · cases h
  · rintro (_ | runtime) events h
    · cases h
    · obtain rfl := Option.some.inj h
      exact emit_last hk (fun _ => rfl) rfl

theorem initializeCatalog_eq_stages (catalog : CatalogSetup) :
    (initializeCatalog catalog >>= k) = stages runnerFinish
      (runnerStage (.initializeCatalog catalog) .initializeCatalog .connector
        (reported fun _ => [.catalogReady]) :: rest) () := by
  rw [initializeCatalog, bind_assoc]
  apply ask_eq_runnerStages
  · rintro (_ | _) h
    · exact failing_bind hk
    · cases h
  · rintro (_ | _) events h
    · cases h
    · obtain rfl := Option.some.inj h
      exact emit_last hk (fun _ => rfl) rfl

theorem createNamespace_eq_stages (program : Program) (operation : Operation) :
    (createNamespace program operation >>= k) = stages runnerFinish
      (runnerStage (.execute operation) .createNamespace .catalog unreported ::
        runnerStage (.namespaceListedExactly program.fixture) .createNamespace .catalog
          (wantedOnly true (.namespaceReady true)) :: rest) () := by
  rw [createNamespace, bind_assoc]
  refine execute_eq_stages (fun _ => failing_bind hk) ?_
  simp only [bind_assoc]
  apply ask_eq_runnerStages
  · rintro (_ | _ | _) h
    · exact failing_bind hk
    · exact failing_bind hk
    · cases h
  · rintro (_ | _ | _) events h
    · cases h
    · cases h
    · obtain rfl := Option.some.inj h
      exact emit_last hk (fun _ => rfl) rfl

theorem mutateAndObserve_eq_stages (operation : Operation) (program : Program)
    (event : TableObservation → ChildEvent) :
    (mutateAndObserve operation program stage category event >>= k) = stages runnerFinish
      (runnerStage (.execute operation) stage category unreported ::
        runnerStage (.observeTable program.fixture program.observation) stage category
          (reported fun table => [event table]) :: rest) () := by
  rw [mutateAndObserve, bind_assoc]
  refine execute_eq_stages (fun _ => failing_bind hk) ?_
  simp only [bind_assoc]
  apply ask_eq_runnerStages
  · rintro (_ | _) h
    · exact failing_bind hk
    · cases h
  · rintro (_ | table) events h
    · cases h
    · obtain rfl := Option.some.inj h
      exact emit_last hk (fun _ => rfl) rfl

theorem append_eq_stages (operation snapshots : Operation) (initial : Bool) :
    (append operation snapshots stage initial >>= k) = stages runnerFinish
      (runnerStage (.execute operation) stage .data unreported ::
        runnerStage (.snapshotCount snapshots) stage .data
          (reported fun count =>
            [if initial then .initialAppended count else .evolvedAppended count]) :: rest) () := by
  rw [append, bind_assoc]
  refine execute_eq_stages (fun _ => failing_bind hk) ?_
  simp only [bind_assoc]
  apply ask_eq_runnerStages
  · rintro (_ | _) h
    · exact failing_bind hk
    · cases h
  · rintro (_ | count) events h
    · cases h
    · obtain rfl := Option.some.inj h
      exact emit_last hk (fun _ => rfl) rfl

theorem read_eq_stages {operation : Operation} {oracle : ReadOracle}
    (horacle : operation.oracle = some oracle) (initial : Bool)
    {g : Option Bool → RunnerProg (Option ℤ)} (hg : ∀ passed, g (some passed) = k passed) :
    (read operation stage initial >>= g) = stages runnerFinish
      (runnerStage (.read operation oracle) stage .data
        (wantedOnly (.fromOracle oracle)
          (if initial then .initialRead (.fromOracle oracle)
            else .evolvedRead (.fromOracle oracle))) :: rest) () := by
  have hfailing : (some <$> failing stage .data >>= g) = giveUp stage .data := by
    rw [map_eq_pure_bind, bind_assoc]
    simp only [pure_bind, hg]
    exact failing_bind hk
  rw [read, horacle]
  simp only [bind_assoc]
  apply ask_eq_runnerStages
  · rintro (_ | observed) h
    · exact hfailing
    · rw [wantedOnly] at h
      split at h
      · next hne =>
        simp only [if_pos hne]
        exact hfailing
      · cases h
  · rintro (_ | observed) events h
    · cases h
    · rw [wantedOnly] at h
      split at h
      · cases h
      · next heq =>
        obtain rfl := Option.some.inj h
        simp only [if_neg heq, bind_assoc]
        refine emit_eq_emitAll (fun _ => hfailing) ?_
        rw [pure_bind, hg, hk]
        rfl

end Methods

theorem observeFinalTable_eq_stages (program : Program) :
    some <$> observeFinalTable program = stages runnerFinish
      [runnerStage (.observeTable program.fixture program.observation) .observeFinalTable .connector
        (reported fun table => [.finalTable table, .completed])] () := by
  rw [observeFinalTable, map_eq_pure_bind, bind_assoc]
  apply ask_eq_runnerStages
  · rintro (_ | _) h
    · rfl
    · cases h
  · rintro (_ | table) events h
    · cases h
    · obtain rfl := Option.some.inj h
      simp only [bind_assoc]
      refine emit_eq_emitAll (fun _ => rfl) ?_
      simp only [bind_assoc]
      exact emit_eq_emitAll (fun _ => rfl) rfl

end Equations

/-- With its operations in the required order the runner is its stages. -/
theorem runStages_eq_stages {program : Program} {ops : OrderedOperations ReadOracle}
    (hops : program.operations = flinkOperations ops) :
    runStages program = stages runnerFinish ((runnerStages program ops).drop 3) () := by
  unfold runStages
  rw [hops]
  refine createNamespace_eq_stages (fun passed => ?_) _ _
  cases passed with
  | false => rfl
  | true =>
  refine mutateAndObserve_eq_stages (fun passed => ?_) _ _ _
  cases passed with
  | false => rfl
  | true =>
  refine append_eq_stages (fun passed => ?_) _ _ true
  cases passed with
  | false => rfl
  | true =>
  refine read_eq_stages (fun passed => ?_) rfl true (fun passed => rfl)
  cases passed with
  | false => rfl
  | true =>
  refine mutateAndObserve_eq_stages (fun passed => ?_) _ _ _
  cases passed with
  | false => rfl
  | true =>
  refine append_eq_stages (fun passed => ?_) _ _ false
  cases passed with
  | false => rfl
  | true =>
  refine read_eq_stages (fun passed => ?_) rfl false (fun passed => rfl)
  cases passed with
  | false => rfl
  | true => exact observeFinalTable_eq_stages program

theorem run_eq_stages {program : Program} {ops : OrderedOperations ReadOracle}
    (hops : program.operations = flinkOperations ops) :
    run program = stages runnerFinish (runnerStages program ops) () := by
  unfold run
  refine emitRuntime_eq_stages fun passed => ?_
  cases passed with
  | false => rfl
  | true =>
  refine initializeCatalog_eq_stages (fun passed => ?_) _
  cases passed with
  | false => rfl
  | true =>
  let behind : Option ℤ → RunnerProg (Option ℤ)
    | none => runStages program
    | some exit => return some exit
  have hbehind := @bind_eq_stages _ _ _ _ runnerFinish (preflightStage program.fixture)
    ((runnerStages program ops).drop 3) () behind fun exit => by
      cases exit with
      | none => exact runStages_eq_stages hops
      | some exit => rfl
  refine Eq.trans (bind_congr fun r => ?_) hbehind
  cases r with
  | error _ => rfl
  | ok absent =>
    refine bind_congr fun r => ?_
    cases r <;> cases absent <;> rfl

end CatalogBench.Flink
