import CatalogBench.Flink.ProgramRunner

/-!
# The Flink runner refines the Rust orchestration

The runner of the Flink process and `runTrinoChild` are driven by the same assignment of
replies: `runnerReply` hands a reply of the assignment to the Java side. Numbers pass from the
Rust side, where they are natural, to integers.
-/

set_option linter.all false

namespace CatalogBench.Flink
open CatalogBench.Engine Interaction Interaction.Prog

def TableObservation.ofEngine (table : EngineTableObservation) : TableObservation where
  tableUuid := table.tableUuid
  metadataLocation := table.metadataLocation
  location := table.location
  formatVersion := table.formatVersion
  lastColumnId := table.lastColumnId
  schema := table.schema
  snapshots := table.snapshots
  properties := table.properties

def ReadObservation.ofEngine (read : RowReadObservation) : ReadObservation :=
  ⟨read.rows, read.bytes, read.sha256⟩

def ChildEvent.ofEngine : EngineEvent → ChildEvent
  | .runtimeReady runtime => .runtimeReady runtime
  | .catalogReady => .catalogReady
  | .fixturePreflight absent => .fixturePreflight absent
  | .namespaceReady listedExactly => .namespaceReady listedExactly
  | .tableReady table => .tableReady (.ofEngine table)
  | .initialAppended snapshots => .initialAppended snapshots
  | .initialRead read => .initialRead (.ofEngine read)
  | .schemaEvolved table => .schemaEvolved (.ofEngine table)
  | .evolvedAppended snapshots => .evolvedAppended snapshots
  | .evolvedRead read => .evolvedRead (.ofEngine read)
  | .finalTable table => .finalTable (.ofEngine table)
  | .completed => .completed
  | .failed stage category => .failed stage category

/-- The two sides run the same scenario: both have their operations in the required order, and
each read expects the same rows. -/
structure SameProgram (p : Program) (q : TrinoRenderedProgram) : Prop where
  order : p.operations.map Operation.getClass = operationOrder
  trinoOrder : validOperationOrder q.operations = true
  reads : ∀ (i : ℕ) (operation : Operation) (operation' : TrinoOperation),
    p.operations[i]? = some operation → q.operations[i]? = some operation' →
    operation.oracle.map ReadObservation.fromOracle =
      (expectedRead operation').map ReadObservation.ofEngine

/-- A call of the runner and the call of the child it corresponds to. -/
inductive SameCall (p : Program) (q : TrinoRenderedProgram)
    (configuration : TrinoServerConfiguration) : EffectCall → TrinoCall → Prop
  | runtimeObservation : SameCall p q configuration .runtimeObservation .runtimeObservation
  | initializeCatalog : SameCall p q configuration (.initializeCatalog p.catalog)
      (.initializeCatalog q.catalog configuration)
  | fixtureAbsent : SameCall p q configuration (.fixtureAbsent p.fixture) (.fixtureAbsent q.fixture)
  | execute {i : ℕ} {operation : Operation} {operation' : TrinoOperation} :
      p.operations[i]? = some operation → q.operations[i]? = some operation' →
      SameCall p q configuration (.execute operation) (.execute operation')
  | namespaceListedExactly : SameCall p q configuration (.namespaceListedExactly p.fixture)
      (.namespaceListedExactly q.fixture)
  | observeTable : SameCall p q configuration (.observeTable p.fixture p.observation)
      (.observeTable q.fixture q.observation)
  | read {i : ℕ} {operation : Operation} {operation' : TrinoOperation} {oracle : ReadOracle} :
      p.operations[i]? = some operation → q.operations[i]? = some operation' →
      operation.oracle = some oracle →
      SameCall p q configuration (.read operation oracle) (.read operation')
  | snapshotCount {i : ℕ} {operation : Operation} {operation' : TrinoOperation} :
      p.operations[i]? = some operation → q.operations[i]? = some operation' →
      SameCall p q configuration (.snapshotCount operation) (.snapshotCount operation')

-- ════════════════════════════════
-- One assignment for both sides
-- ════════════════════════════════

/-- A reply to every call of the child, by the position of the call. -/
abbrev Assignment := ℕ → (c : TrinoCall) → c.Reply

/-- The operation of the same class on the Rust side. -/
def counterpart (q : TrinoRenderedProgram) (operation : Operation) : TrinoOperation :=
  (q.operations[operationOrder.idxOf operation.getClass]?).getD (.snapshotRead "")

/-- A reply of the Rust side as the Java side sees it. -/
def javaReply {α β : Type} (f : α → β) : Except TrinoEffectFailure α → Except EffectFailure β
  | .ok a => .ok (f a)
  | .error _ => .error ⟨⟩

/-- The reply of an assignment to a call of the runner. -/
def runnerReply (q : TrinoRenderedProgram) (configuration : TrinoServerConfiguration)
    (replies : Assignment) (n : ℕ) : (c : EffectCall) → c.Reply
  | .runtimeObservation => javaReply id (replies n .runtimeObservation)
  | .initializeCatalog _ => javaReply id (replies n (.initializeCatalog q.catalog configuration))
  | .fixtureAbsent _ => javaReply id (replies n (.fixtureAbsent q.fixture))
  | .execute operation => javaReply id (replies n (.execute (counterpart q operation)))
  | .namespaceListedExactly _ => javaReply id (replies n (.namespaceListedExactly q.fixture))
  | .observeTable _ _ =>
    javaReply TableObservation.ofEngine (replies n (.observeTable q.fixture q.observation))
  | .read operation _ =>
    javaReply ReadObservation.ofEngine (replies n (.read (counterpart q operation)))
  | .snapshotCount operation =>
    javaReply Int.ofNat (replies n (.snapshotCount (counterpart q operation)))

/-- The child's world: the calls it has made. -/
def childWorld (replies : Assignment) (calls : List TrinoCall) (c : TrinoCall) :
    c.Reply × List TrinoCall :=
  (replies calls.length c, calls ++ [c])

/-- The runner's world: the effects it has called and the events its sink has printed. -/
structure RunnerWorld where
  calls : List EffectCall := []
  events : List ChildEvent := []

/-- A sink that does not fail, and effects that reply as assigned. -/
def runnerWorld (q : TrinoRenderedProgram) (configuration : TrinoServerConfiguration)
    (replies : Assignment) (w : RunnerWorld) : (c : RunnerCall) → c.Reply × RunnerWorld
  | .effect c => (runnerReply q configuration replies w.calls.length c,
      { w with calls := w.calls ++ [c] })
  | .emit event => (.ok (), { w with events := w.events ++ [event] })

-- ════════════════════════════════
-- Lockstep
-- ════════════════════════════════

section Lockstep

variable {p : Program} {q : TrinoRenderedProgram} {configuration : TrinoServerConfiguration}
  {replies : Assignment} {stage : EngineStage} {category : EngineFailureCategory}

theorem exec_emitAll (events : List ChildEvent) (w : RunnerWorld) :
    (emitAll stage category events).exec (runnerWorld q configuration replies) w =
      (true, { w with events := w.events ++ events }) := by
  induction events generalizing w with
  | nil => simp [emitAll]
  | cons event events ih =>
    rw [emitAll, exec_bind, exec_ask]
    simp only [runnerWorld, ih]
    simp

theorem exec_runnerBody {c : EffectCall} {accept : c.Reply → Option (List ChildEvent)}
    (w : RunnerWorld) :
    (runnerBody c stage category accept).exec (runnerWorld q configuration replies) w =
      match accept (runnerReply q configuration replies w.calls.length c) with
      | none => (false, ⟨w.calls ++ [c], w.events ++ [.failed stage category]⟩)
      | some events => (true, ⟨w.calls ++ [c], w.events ++ events⟩) := by
  rw [runnerBody, exec_bind, exec_ask]
  simp only [runnerWorld]
  cases accept (runnerReply q configuration replies w.calls.length c) with
  | none => rfl
  | some events => exact exec_emitAll events _

/-- Between two stages: corresponding calls so far, and the same events. The runner has also
printed `ahead` already. -/
def Matched (p : Program) (q : TrinoRenderedProgram) (configuration : TrinoServerConfiguration)
    (ahead : List EngineEvent) (calls : List TrinoCall) (w : RunnerWorld)
    (events : List EngineEvent) (_ : Unit) : Prop :=
  List.Forall₂ (SameCall p q configuration) w.calls calls ∧
    w.events = (events ++ ahead).map ChildEvent.ofEngine

/-- At the end: corresponding calls, the same events and the same exit code. -/
def Settles (p : Program) (q : TrinoRenderedProgram) (configuration : TrinoServerConfiguration)
    (calls : List TrinoCall) (w : RunnerWorld) (r : Option TrinoChildRun) (exit : Option ℤ) : Prop :=
  ∃ run, r = some run ∧ exit = some run.exitCode ∧
    w.events = run.events.map ChildEvent.ofEngine ∧
    List.Forall₂ (SameCall p q configuration) w.calls calls

theorem Matched.call {calls : List TrinoCall} {w : RunnerWorld} {events : List EngineEvent}
    (h : Matched p q configuration [] calls w events ()) {c : EffectCall} {c' : TrinoCall}
    (hc : SameCall p q configuration c c') (new ahead : List EngineEvent) :
    Matched p q configuration ahead (calls ++ [c'])
      ⟨w.calls ++ [c], w.events ++ (new ++ ahead).map ChildEvent.ofEngine⟩ (events ++ new) () :=
  ⟨List.rel_append h.1 (.cons hc .nil), by simp [h.2]⟩

/-- A call whose reply both sides turn down ends both. -/
theorem Matched.settles {calls : List TrinoCall} {w : RunnerWorld} {events : List EngineEvent}
    (h : Matched p q configuration [] calls w events ()) {c : EffectCall} {c' : TrinoCall}
    (hc : SameCall p q configuration c c') (exit : ℤ) (event : EngineEvent) :
    Settles p q configuration (calls ++ [c'])
      ⟨w.calls ++ [c], w.events ++ [ChildEvent.ofEngine event]⟩ (some ⟨exit, events ++ [event]⟩)
      (some exit) :=
  ⟨_, rfl, rfl, by simp [h.2], List.rel_append h.1 (.cons hc .nil)⟩

/-- The two sides take a reply with the same events, or both turn it down. -/
def SameReading (ahead : List EngineEvent) {α β : Type} (convert : α → β)
    (accept' : List EngineEvent → α → Option (List EngineEvent))
    (accept : β → Option (List ChildEvent)) : Prop :=
  ∀ events r, (accept' events r = none ∧ accept (convert r) = none) ∨
    ∃ new, accept' events r = some (events ++ new) ∧
      accept (convert r) = some ((new ++ ahead).map ChildEvent.ofEngine)

theorem agree_of_sameReading {ahead : List EngineEvent} {c : EffectCall} {c' : TrinoCall}
    {convert : c'.Reply → c.Reply}
    {accept' : List EngineEvent → c'.Reply → Option (List EngineEvent)}
    {accept : c.Reply → Option (List ChildEvent)}
    (hreply : ∀ n, runnerReply q configuration replies n c = convert (replies n c'))
    (hcall : SameCall p q configuration c c')
    (hreading : SameReading ahead convert accept' accept)
    {calls calls₁ : List TrinoCall} {w w₁ : RunnerWorld} {events : List EngineEvent}
    {r : c'.Reply} {passed : Bool} (hP : Matched p q configuration [] calls w events ())
    (hchild : (ask c' : TrinoProg c'.Reply).Run
      (fun s c r s' => (r, s') = childWorld replies s c) calls r calls₁)
    (hrunner : (runnerBody c stage category accept).Run
      (fun s c r s' => (r, s') = runnerWorld q configuration replies s c) w passed w₁) :
    Agree (Matched p q configuration ahead) (Settles p q configuration) calls₁ w₁
      ((trinoStep c' stage category accept').next events r)
      ((runnerStage c stage category accept).next () passed) := by
  obtain ⟨rfl, rfl⟩ := Prod.mk.inj (run_ask.mp hchild)
  have hlength : w.calls.length = calls.length := hP.1.length_eq
  have hexec := run_handler.mp hrunner
  rw [exec_runnerBody, hreply, hlength] at hexec
  simp only [trinoStep, runnerStage]
  obtain ⟨hnone', hnone⟩ | ⟨new, hsome', hsome⟩ := hreading events (replies calls.length c')
  · rw [hnone] at hexec
    obtain ⟨rfl, rfl⟩ := Prod.mk.inj hexec
    rw [hnone']
    exact hP.settles hcall _ (.failed stage category)
  · rw [hsome] at hexec
    obtain ⟨rfl, rfl⟩ := Prod.mk.inj hexec
    rw [hsome']
    exact hP.call hcall new ahead

theorem sameReading_silently {α β : Type} {f : α → β} :
    SameReading [] (javaReply f) (@silently _ α) unreported := by
  intro events r
  cases r with
  | error _ => exact .inl ⟨rfl, rfl⟩
  | ok a => exact .inr ⟨[], by rw [List.append_nil]; rfl, rfl⟩

theorem sameReading_reporting {ahead : List EngineEvent} {α β : Type} {f : α → β}
    {event' : α → EngineEvent} {events' : β → List ChildEvent}
    (hevent : ∀ a, events' (f a) = (event' a :: ahead).map ChildEvent.ofEngine) :
    SameReading ahead (javaReply f) (reporting event') (reported events') := by
  intro events r
  cases r with
  | error _ => exact .inl ⟨rfl, rfl⟩
  | ok a => exact .inr ⟨[event' a], rfl, by simp [javaReply, reported, hevent]⟩

theorem sameReading_expecting {α β : Type} [DecidableEq α] [DecidableEq β] {f : α → β}
    (hf : Function.Injective f) {wanted' : α} {event' : EngineEvent} {wanted : β}
    {event : ChildEvent} (hwanted : wanted = f wanted') (hevent : event = .ofEngine event') :
    SameReading [] (javaReply f) (expecting wanted' event') (wantedOnly wanted event) := by
  subst hwanted hevent
  intro events r
  cases r with
  | error _ => exact .inl ⟨rfl, rfl⟩
  | ok a =>
    by_cases hwanted : a = wanted'
    · subst hwanted
      exact .inr ⟨[event'], by simp [expecting], by simp [javaReply, wantedOnly]⟩
    · have hne : f wanted' ≠ f a := fun h => hwanted (hf h).symm
      exact .inl ⟨by simp [expecting, hwanted], by simp [javaReply, wantedOnly, hne]⟩

theorem ReadObservation.ofEngine_injective : Function.Injective ReadObservation.ofEngine := by
  rintro ⟨rows, bytes, sha256⟩ ⟨rows', bytes', sha256'⟩ h
  simpa [ReadObservation.ofEngine] using h

theorem agree_preflight {calls calls₁ : List TrinoCall} {w w₁ : RunnerWorld}
    {events : List EngineEvent} {r : Except TrinoEffectFailure Bool} {exit : Option ℤ}
    (hP : Matched p q configuration [] calls w events ())
    (hchild : (ask (.fixtureAbsent q.fixture) : TrinoProg _).Run
      (fun s c r s' => (r, s') = childWorld replies s c) calls r calls₁)
    (hrunner : (preflightStage p.fixture).body.Run
      (fun s c r s' => (r, s') = runnerWorld q configuration replies s c) w exit w₁) :
    Agree (Matched p q configuration []) (Settles p q configuration) calls₁ w₁
      ((preflightStep q.fixture).next events r) ((preflightStage p.fixture).next () exit) := by
  obtain ⟨rfl, rfl⟩ := Prod.mk.inj (run_ask.mp hchild)
  have hlength : w.calls.length = calls.length := hP.1.length_eq
  have hexec := run_handler.mp hrunner
  simp only [preflightStage, exec_bind, exec_ask, runnerWorld, runnerReply, hlength] at hexec
  have hcall : SameCall p q configuration (.fixtureAbsent p.fixture) (.fixtureAbsent q.fixture) :=
    .fixtureAbsent
  match hreply : replies calls.length (.fixtureAbsent q.fixture) with
  | .error e =>
    rw [hreply] at hexec
    obtain ⟨rfl, rfl⟩ := Prod.mk.inj hexec
    exact hP.settles hcall _ (.failed .preflightFixture .catalog)
  | .ok false =>
    rw [hreply] at hexec
    obtain ⟨rfl, rfl⟩ := Prod.mk.inj hexec
    exact hP.settles hcall _ (.fixturePreflight false)
  | .ok true =>
    rw [hreply] at hexec
    obtain ⟨rfl, rfl⟩ := Prod.mk.inj hexec
    exact hP.call hcall [.fixturePreflight true] []

/-- The child and the runner under one assignment, from here to the end. -/
def InStep (p : Program) (q : TrinoRenderedProgram) (configuration : TrinoServerConfiguration)
    (replies : Assignment) (ahead : List EngineEvent)
    (child : List (Stage TrinoCall TrinoCall.Reply (List EngineEvent) (Option TrinoChildRun)))
    (runner : List RunnerStage) : Prop :=
  Lockstep (fun s c r s' => (r, s') = childWorld replies s c)
    (fun s c r s' => (r, s') = runnerWorld q configuration replies s c) trinoFinish runnerFinish
    (Settles p q configuration) (Matched p q configuration ahead) child runner

namespace InStep

theorem finished : InStep p q configuration replies [.completed] [] [] := by
  refine .nil ?_
  rintro calls w events _ ⟨hcalls, hevents⟩
  exact ⟨_, rfl, rfl, hevents, hcalls⟩

variable {rest : List (Stage TrinoCall TrinoCall.Reply (List EngineEvent) (Option TrinoChildRun))}
  {rest' : List RunnerStage}

theorem step {ahead : List EngineEvent} {c : EffectCall} {c' : TrinoCall}
    {accept' : List EngineEvent → c'.Reply → Option (List EngineEvent)}
    {accept : c.Reply → Option (List ChildEvent)} (convert : c'.Reply → c.Reply)
    (hreply : ∀ n, runnerReply q configuration replies n c = convert (replies n c'))
    (hcall : SameCall p q configuration c c')
    (hreading : SameReading ahead convert accept' accept)
    (hrest : InStep p q configuration replies ahead rest rest') :
    InStep p q configuration replies [] ((trinoStep c' stage category accept').toStage :: rest)
      (runnerStage c stage category accept :: rest') := by
  refine .cons (Matched p q configuration ahead) ?_ hrest
  intro _ _ _ _ _ _ _ _ hP hchild hrunner
  exact agree_of_sameReading hreply hcall hreading hP hchild hrunner

theorem preflight (hrest : InStep p q configuration replies [] rest rest') :
    InStep p q configuration replies [] ((preflightStep q.fixture).toStage :: rest)
      (preflightStage p.fixture :: rest') := by
  refine .cons (Matched p q configuration []) ?_ hrest
  intro _ _ _ _ _ _ _ _ hP hchild hrunner
  exact agree_preflight hP hchild hrunner

/-- The operations at one index, which is the place of their class in the order. -/
structure AtIndex (p : Program) (q : TrinoRenderedProgram) (operation : Operation)
    (operation' : TrinoOperation) : Prop where
  runner : p.operations[operationOrder.idxOf operation.getClass]? = some operation
  child : q.operations[operationOrder.idxOf operation.getClass]? = some operation'

theorem AtIndex.counterpart_eq {operation : Operation} {operation' : TrinoOperation}
    (h : AtIndex p q operation operation') : counterpart q operation = operation' := by
  rw [counterpart, h.child]
  rfl

theorem execute {operation : Operation} {operation' : TrinoOperation}
    (h : AtIndex p q operation operation')
    (hrest : InStep p q configuration replies [] rest rest') :
    InStep p q configuration replies []
      ((trinoStep (.execute operation') stage category silently).toStage :: rest)
      (runnerStage (.execute operation) stage category unreported :: rest') := by
  refine step (javaReply id) (fun n => ?_) (.execute h.runner h.child) sameReading_silently hrest
  rw [runnerReply, h.counterpart_eq]

theorem observeTable {ahead : List EngineEvent} {event : EngineTableObservation → EngineEvent}
    {events : TableObservation → List ChildEvent}
    (hevent : ∀ table, events (.ofEngine table) = (event table :: ahead).map ChildEvent.ofEngine)
    (hrest : InStep p q configuration replies ahead rest rest') :
    InStep p q configuration replies []
      ((trinoStep (.observeTable q.fixture q.observation) stage category
        (reporting event)).toStage :: rest)
      (runnerStage (.observeTable p.fixture p.observation) stage category
        (reported events) :: rest') :=
  step (javaReply TableObservation.ofEngine) (fun _ => rfl) .observeTable
    (sameReading_reporting hevent) hrest

theorem snapshotCount {operation : Operation} {operation' : TrinoOperation}
    (h : AtIndex p q operation operation') {event : ℕ → EngineEvent} {events : ℤ → List ChildEvent}
    (hevent : ∀ n : ℕ, events (Int.ofNat n) = [event n].map ChildEvent.ofEngine)
    (hrest : InStep p q configuration replies [] rest rest') :
    InStep p q configuration replies []
      ((trinoStep (.snapshotCount operation') stage category (reporting event)).toStage :: rest)
      (runnerStage (.snapshotCount operation) stage category (reported events) :: rest') := by
  refine step (javaReply Int.ofNat) (fun n => ?_) (.snapshotCount h.runner h.child)
    (sameReading_reporting hevent) hrest
  rw [runnerReply, h.counterpart_eq]

theorem read {operation : Operation} {operation' : TrinoOperation}
    (h : AtIndex p q operation operation') {oracle : ReadOracle} {expected : RowReadObservation}
    (horacle : operation.oracle = some oracle)
    (hexpected : ReadObservation.fromOracle oracle = .ofEngine expected)
    {event' : EngineEvent} {event : ChildEvent} (hevent : event = .ofEngine event')
    (hrest : InStep p q configuration replies [] rest rest') :
    InStep p q configuration replies []
      ((trinoStep (.read operation') stage category (expecting expected event')).toStage :: rest)
      (runnerStage (.read operation oracle) stage category
        (wantedOnly (.fromOracle oracle) event) :: rest') := by
  refine step (javaReply ReadObservation.ofEngine) (fun n => ?_) (.read h.runner h.child horacle)
    (sameReading_expecting ReadObservation.ofEngine_injective hexpected hevent) hrest
  rw [runnerReply, h.counterpart_eq]

end InStep

end Lockstep

theorem operationOrder_cases {operations : List Operation}
    (h : operations.map Operation.getClass = operationOrder) :
    ∃ ops, operations = flinkOperations ops := by
  simp only [operationOrder, List.map_eq_cons_iff, List.map_eq_nil_iff] at h
  obtain ⟨o₀, _, rfl, h₀, o₁, _, rfl, h₁, o₂, _, rfl, h₂, o₃, _, rfl, h₃, o₄, _, rfl, h₄,
    o₅, _, rfl, h₅, o₆, _, rfl, h₆, o₇, _, rfl, h₇, rfl⟩ := h
  cases o₀ <;> cases h₀
  cases o₁ <;> cases h₁
  cases o₂ <;> cases h₂
  cases o₃ <;> cases h₃
  cases o₄ <;> cases h₄
  cases o₅ <;> cases h₅
  cases o₆ <;> cases h₆
  cases o₇ <;> cases h₇
  exact ⟨⟨_, _, _, _, _, _, _, _, _, _⟩, rfl⟩

/-- The script of the child and the stages of the runner run in lockstep. -/
theorem inStep_of_sameProgram {p : Program} {q : TrinoRenderedProgram}
    {jops : OrderedOperations ReadOracle} {tops : OrderedOperations CanonicalRead}
    (hsame : SameProgram p q) (hp : p.operations = flinkOperations jops)
    (hq : q.operations = tops.operations) (configuration : TrinoServerConfiguration)
    (replies : Assignment) :
    InStep p q configuration replies [] ((trinoScript q configuration tops).map ScriptStep.toStage)
      (runnerStages p jops) := by
  have hat : ∀ i operation operation', (flinkOperations jops)[i]? = some operation →
      tops.operations[i]? = some operation' →
      operationOrder.idxOf operation.getClass = i → InStep.AtIndex p q operation operation' := by
    intro i operation operation' hi hi' hindex
    exact ⟨by rw [hindex, hp, hi], by rw [hindex, hq, hi']⟩
  have hinitial : ReadObservation.fromOracle jops.initialExpected =
      .ofEngine tops.initialExpected.observation :=
    Option.some.inj (hsame.reads 3 (.initialRead _ _) (.initialRead _ _) (by rw [hp]; rfl)
      (by rw [hq]; rfl))
  have hevolved : ReadObservation.fromOracle jops.evolvedExpected =
      .ofEngine tops.evolvedExpected.observation :=
    Option.some.inj (hsame.reads 6 (.evolvedRead _ _) (.evolvedRead _ _) (by rw [hp]; rfl)
      (by rw [hq]; rfl))
  have hcount := hat 7 _ _ rfl rfl rfl
  refine .step (javaReply id) (fun _ => rfl) .runtimeObservation
    (@sameReading_reporting [] _ _ _ _ _ fun _ => rfl) ?_
  refine .step (javaReply id) (fun _ => rfl) .initializeCatalog
    (@sameReading_reporting [] _ _ _ _ _ fun _ => rfl) ?_
  refine .preflight ?_
  refine .execute (hat 0 _ _ rfl rfl rfl) ?_
  refine .step (javaReply id) (fun _ => rfl) .namespaceListedExactly
    (sameReading_expecting Function.injective_id rfl rfl) ?_
  refine .execute (hat 1 _ _ rfl rfl rfl) ?_
  refine @InStep.observeTable _ _ _ _ _ _ _ _ [] _ _ (fun _ => rfl) ?_
  refine .execute (hat 2 _ _ rfl rfl rfl) ?_
  refine .snapshotCount hcount (fun _ => rfl) ?_
  refine .read (hat 3 _ _ rfl rfl rfl) rfl hinitial (by rw [hinitial]; rfl) ?_
  refine .execute (hat 4 _ _ rfl rfl rfl) ?_
  refine @InStep.observeTable _ _ _ _ _ _ _ _ [] _ _ (fun _ => rfl) ?_
  refine .execute (hat 5 _ _ rfl rfl rfl) ?_
  refine .snapshotCount hcount (fun _ => rfl) ?_
  refine .read (hat 6 _ _ rfl rfl rfl) rfl hevolved (by rw [hevolved]; rfl) ?_
  exact .observeTable (fun _ => rfl) .finished

/-- Under one assignment of replies the Flink runner and the child make corresponding calls in
the same order, stop behind the same one, report the same events and exit with the same code. -/
theorem run_refines_runTrinoChild {p : Program} {q : TrinoRenderedProgram}
    (hsame : SameProgram p q) {configuration : TrinoServerConfiguration}
    (hrender : TrinoServerConfiguration.render q = .ok configuration) (replies : Assignment) :
    let child := (runTrinoChild q).exec (childWorld replies) []
    let runner := (run p).exec (runnerWorld q configuration replies) {}
    ∃ childRun, child.1 = some childRun ∧ runner.1 = some childRun.exitCode ∧
      runner.2.events = childRun.events.map ChildEvent.ofEngine ∧
      List.Forall₂ (SameCall p q configuration) runner.2.calls child.2 := by
  obtain ⟨jops, hp⟩ := operationOrder_cases hsame.order
  obtain ⟨tops, hq⟩ := validOperationOrder_iff.mp hsame.trinoOrder
  have hlockstep := inStep_of_sameProgram hsame hp hq configuration replies
  rw [run_eq_stages hp, runTrinoChild_eq_stages hq hrender]
  exact hlockstep.run ⟨.nil, rfl⟩ (run_handler.mpr rfl) (run_handler.mpr rfl)

/-- A program whose reads expect what those of the sample program expect. -/
def sampleRunnerProgram : Program where
  parallelism := 1
  catalog := { name := "bench", properties := ∅, authentication := .anonymous }
  fixture := { «namespace» := "interop_run", table := "events", requestedLocation := none,
               bucket := "bench" }
  observation := { formatVersion := 2, initialSchema := sampleScenario.table.schema.fields,
                   evolvedField := sampleScenario.schemaEvolution.field, properties := ∅ }
  operations := flinkOperations
    { createNamespace := "CREATE DATABASE IF NOT EXISTS interop_run"
      createTable := "CREATE TABLE interop_run.events (id BIGINT NOT NULL)"
      initialAppend := "INSERT INTO interop_run.events (id) VALUES (1)"
      initialRead := "SELECT id FROM interop_run.events ORDER BY id"
      initialExpected := ⟨13, ["id", "category", "amount_cents"], 1, "initial"⟩
      addColumn := "ALTER TABLE interop_run.events ADD note STRING"
      evolvedAppend := "INSERT INTO interop_run.events (id, note) VALUES (2, 'n2')"
      evolvedRead := "SELECT id, note FROM interop_run.events ORDER BY id"
      evolvedExpected := ⟨36, ["id", "category", "amount_cents", "note"], 2, "evolved"⟩
      snapshotRead := "SELECT * FROM interop_run.events$snapshots" }

theorem SameProgram.of_maps {p : Program} {q : TrinoRenderedProgram}
    (horder : p.operations.map Operation.getClass = operationOrder)
    (horder' : validOperationOrder q.operations = true)
    (hreads : p.operations.map (fun operation => operation.oracle.map ReadObservation.fromOracle) =
      q.operations.map fun operation => (expectedRead operation).map ReadObservation.ofEngine) :
    SameProgram p q := by
  refine ⟨horder, horder', fun i operation operation' hi hi' => ?_⟩
  have hat := congrArg (·[i]?) hreads
  simpa [hi, hi'] using hat

theorem run_refines_runTrinoChild_sample :
    ∃ configuration, TrinoServerConfiguration.render sampleProgram = .ok configuration ∧
      ∃ childRun : TrinoChildRun,
        ((run sampleRunnerProgram).exec (runnerWorld sampleProgram configuration
          fun _ c => (sampleEffects 0 c).1) {}).1 = some childRun.exitCode := by
  obtain ⟨configuration, hconfiguration⟩ := sampleProgram_configured
  have hsame : SameProgram sampleRunnerProgram sampleProgram :=
    .of_maps (by decide) (by decide) (by decide)
  obtain ⟨childRun, -, hexit, -⟩ := run_refines_runTrinoChild hsame hconfiguration
    (fun _ c => (sampleEffects 0 c).1)
  exact ⟨configuration, hconfiguration, childRun, hexit⟩

end CatalogBench.Flink
