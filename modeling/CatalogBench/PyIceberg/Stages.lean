import CatalogBench.PyIceberg.Passed

/-!
# The stages of a run

A run that returned went through all of its steps in order. Its stages are the results of the
steps together with the variables and the world between them.
-/

set_option linter.all false

namespace CatalogBench.PyIceberg
open Interaction Interaction.Script

variable {W : Type} {step : W → (c : ClientCall) → c.Reply → W → Prop}
  {libraries : PyLibraries} {contracts : ResolvedContracts} {x y : State × W}

/-- The step passed in this run. -/
def ProbeRun.Passed (run : ProbeRun) (s : Step) : Prop :=
  ∃ result ∈ run.operations, result.id = s ∧ result.status = .pass

instance (run : ProbeRun) (s : Step) : Decidable (run.Passed s) :=
  inferInstanceAs (Decidable (∃ result ∈ run.operations, result.id = s ∧ result.status = .pass))

/-- In the run against a catalog in memory, every step passed that the client and the catalog
support. -/
theorem samplePlay_passed :
    ∃ run, samplePlay.1.1 = .ok run ∧ ∀ s ∈ Step.all,
      s ∉ [Step.observeDelegatedAccess, .classifyViews, .classifyPagination] → run.Passed s := by
  obtain ⟨run, hrun, hpassed⟩ := except_exists_of_any (x := samplePlay.1.1)
    (p := fun run => decide (∀ s ∈ Step.all,
      s ∉ [Step.observeDelegatedAccess, .classifyViews, .classifyPagination] → run.Passed s))
    (by decide +kernel)
  exact ⟨run, hrun, of_decide_eq_true hpassed⟩

theorem Step.mem_all (s : Step) : s ∈ Step.all := by
  cases s <;> decide

/-- A world that promises nothing. -/
def freeLicence (step : W → (c : ClientCall) → c.Reply → W → Prop) (fixture : FixtureIdentity) :
    Licence step fixture where
  idle _ := True
  acting _ := True
  good _ := True
  look _ _ _ _ := trivial
  claim _ _ := trivial
  act _ _ _ := trivial
  good_scan _ _ _ := trivial
  good_finite _ := trivial
  good_note _ := trivial

/-- A run that returned has one result for each step. -/
theorem ran_complete {fixtureId : String} {getenv : String → Option String}
    {runtime : RuntimeIdentity} {w : W} {run : ProbeRun}
    (h : Ran step (runProbe libraries contracts fixtureId getenv runtime) (.initial, w) run y) :
    ∃ results, Complete contracts results ∧
      results .verifyClientRuntime = verifyRuntime contracts runtime ∧
      run.operations = Step.all.map results := by
  have hidle : (freeLicence step (fixtureOf contracts fixtureId)).idle w := trivial
  rcases runs_runProbe hidle h with ⟨-, -, _, herror⟩ | ⟨-, isolated, -, -, -, hreturned⟩
  · cases herror
  · obtain ⟨results, hcomplete, hverified, -, hoperations⟩ := hreturned run rfl
    exact ⟨results, hcomplete, hverified, hoperations⟩

/-- What passed is read off the results. -/
theorem passed_iff {run : ProbeRun} {results : Step → OperationResult}
    (hcomplete : Complete contracts results) (hoperations : run.operations = Step.all.map results)
    (s : Step) : run.Passed s ↔ (results s).status = .pass := by
  unfold ProbeRun.Passed
  rw [hoperations]
  constructor
  · rintro ⟨_, hmem, hid, hpass⟩
    obtain ⟨s', -, rfl⟩ := List.mem_map.mp hmem
    obtain rfl : s' = s := (hcomplete.id s').symm.trans hid
    exact hpass
  · intro hpass
    exact ⟨results s, List.mem_map_of_mem s.mem_all, hcomplete.id s, hpass⟩

-- ════════════════════════════════
-- Steps that were not skipped
-- ════════════════════════════════

theorem ran_passedOrSkip {earlier result : OperationResult} {s : Step} {reason : String}
    {operation : Py OperationResult}
    (h : Ran step (passedOrSkip earlier s reason operation) x result y)
    (hpass : result.status = .pass) :
    earlier.status = .pass ∧ Ran step operation x result y := by
  rcases ran_ite.mp h with h | ⟨-, hskip⟩
  · exact h
  · obtain ⟨rfl, -⟩ := ran_pure.mp hskip
    cases hpass

theorem ran_optionalOrSkip {result : OperationResult} {s : Step} {ready : Bool} {reason : String}
    {operation : Py OperationResult}
    (h : Ran step (optionalOrSkip contracts s ready reason operation) x result y)
    (hpass : result.status = .pass) : Ran step operation x result y := by
  unfold optionalOrSkip at h
  split at h
  · exact absurd h ran_throw
  · split at h
    · obtain ⟨rfl, -⟩ := ran_pure.mp h
      cases hpass
    · rcases ran_ite.mp h with ⟨-, h⟩ | ⟨-, hskip⟩
      · exact h
      · obtain ⟨rfl, -⟩ := ran_pure.mp hskip
        cases hpass

/-- A step that was skipped changes nothing. -/
theorem ran_optionalOrSkip_or {result : OperationResult} {s : Step} {ready : Bool}
    {reason : String} {operation : Py OperationResult}
    (h : Ran step (optionalOrSkip contracts s ready reason operation) x result y) :
    Ran step operation x result y ∨ y = x := by
  unfold optionalOrSkip at h
  split at h
  · exact absurd h ran_throw
  · split at h
    · exact .inr (ran_pure.mp h).2
    · rcases ran_ite.mp h with ⟨-, h⟩ | ⟨-, hskip⟩
      · exact .inl h
      · exact .inr (ran_pure.mp hskip).2

-- ════════════════════════════════
-- Stages
-- ════════════════════════════════

/-- The stages of a run of the steps that act on the fixture. -/
structure Stages (step : W → (c : ClientCall) → c.Reply → W → Prop) (libraries : PyLibraries)
    (contracts : ResolvedContracts) (fixture : FixtureIdentity) (isolated : OperationResult)
    (x : State × W) (operations : List OperationResult) (y : State × W) where
  («namespace» table appended updated evolved deleted recovered delegated renamed registered views
    pagination cleaned : OperationResult)
  (x₁ x₂ x₃ x₄ x₅ x₆ x₇ x₈ x₉ x₁₀ : State × W)
  reasons : Step → String
  ranNamespace : Ran step (passedOrSkip isolated .namespaceRoundTrip
    (reasons .namespaceRoundTrip) (namespaceRoundTrip contracts fixture)) x «namespace» x₁
  ranTable : Ran step (passedOrSkip «namespace» .tableRoundTrip
    (reasons .tableRoundTrip) (tableRoundTrip contracts fixture)) x₁ table x₂
  ranAppended : Ran step (passedOrSkip table .appendScan
    (reasons .appendScan) (appendScan libraries contracts fixture)) x₂ appended x₃
  ready : Bool
  ranUpdated : Ran step (optionalOrSkip contracts .updateProperties ready
    (reasons .updateProperties) (updateProperties contracts)) x₃ updated x₄
  ranEvolved : Ran step (optionalOrSkip contracts .evolveSchema ready
    (reasons .evolveSchema) (evolveSchema libraries contracts fixture)) x₄ evolved x₅
  ranDeleted : Ran step (optionalOrSkip contracts .deleteRows ready
    (reasons .deleteRows) (deleteRows libraries contracts fixture)) x₅ deleted x₆
  ranRecovered : Ran step (optionalOrSkip contracts .recoverConflict ready
    (reasons .recoverConflict) (recoverConflict libraries contracts fixture)) x₆ recovered x₇
  ranDelegated : Ran step (optionalOrSkip contracts .observeDelegatedAccess ready
    (reasons .observeDelegatedAccess) (observeDelegatedAccess libraries)) x₇ delegated x₈
  ranRenamed : Ran step (optionalOrSkip contracts .renameTable ready
    (reasons .renameTable) (renameActive libraries fixture)) x₈ renamed x₉
  ranRegistered : Ran step (optionalOrSkip contracts .registerTable ready
    (reasons .registerTable) (reregister libraries fixture)) x₉ registered x₁₀
  ranCleaned : Ran step (cleanup fixture) x₁₀ cleaned y
  operations : operations = [«namespace», table, appended, updated, evolved, deleted, recovered,
    delegated, renamed, registered, views, pagination, cleaned, sanitized]

theorem ran_knownClientLimitation {s : Step} {result : OperationResult}
    (h : Ran step (knownClientLimitation contracts s) x result y) : y = x := by
  unfold knownClientLimitation at h
  split at h
  · exact absurd h ran_throw
  · split at h
    · exact (ran_pure.mp h).2
    · exact (ran_pure.mp h).2

theorem ran_fixtureSteps {fixture : FixtureIdentity} {isolated : OperationResult}
    {operations : List OperationResult}
    (h : Ran step (fixtureSteps libraries contracts fixture isolated) x operations y) :
    Nonempty (Stages step libraries contracts fixture isolated x operations y) := by
  obtain ⟨«namespace», x₁, ranNamespace, h₁⟩ := ran_bind.mp h
  obtain ⟨table, x₂, ranTable, h₂⟩ := ran_bind.mp h₁
  obtain ⟨appended, x₃, ranAppended, h₃⟩ := ran_bind.mp h₂
  obtain ⟨optional, x', hoptional, h₄⟩ := ran_bind.mp h₃
  obtain ⟨updated, x₄, ranUpdated, h₅⟩ := ran_bind.mp hoptional
  obtain ⟨evolved, x₅, ranEvolved, h₆⟩ := ran_bind.mp h₅
  obtain ⟨deleted, x₆, ranDeleted, h₇⟩ := ran_bind.mp h₆
  obtain ⟨recovered, x₇, ranRecovered, h₈⟩ := ran_bind.mp h₇
  obtain ⟨delegated, x₈, ranDelegated, h₉⟩ := ran_bind.mp h₈
  obtain ⟨renamed, x₉, ranRenamed, h₁₀⟩ := ran_bind.mp h₉
  obtain ⟨registered, x₁₀, ranRegistered, h₁₁⟩ := ran_bind.mp h₁₀
  obtain ⟨rfl, rfl⟩ := ran_pure.mp h₁₁
  obtain ⟨views, z₁, hviews, h₁₂⟩ := ran_bind.mp h₄
  obtain rfl := ran_knownClientLimitation hviews
  obtain ⟨pagination, z₂, hpagination, h₁₃⟩ := ran_bind.mp h₁₂
  obtain rfl := ran_knownClientLimitation hpagination
  obtain ⟨cleaned, z₃, ranCleaned, h₁₄⟩ := ran_bind.mp h₁₃
  obtain ⟨rfl, rfl⟩ := ran_pure.mp h₁₄
  exact ⟨{
    «namespace», table, appended, updated, evolved, deleted, recovered, delegated, renamed,
    registered, views, pagination, cleaned, x₁, x₂, x₃, x₄, x₅, x₆, x₇, x₈, x₉, x₁₀ := z₂,
    reasons := fun
      | .namespaceRoundTrip => "fixture isolation did not pass"
      | .tableRoundTrip => "namespace round trip did not pass"
      | .appendScan => "table round trip did not pass"
      | _ => "initial append and scan did not pass"
    ready := decide (appended.status = .pass)
    ranNamespace, ranTable, ranAppended, ranUpdated, ranEvolved, ranDeleted, ranRecovered,
    ranDelegated, ranRenamed, ranRegistered, ranCleaned
    operations := rfl }⟩

/-- The steps before, and the stages of the rest. -/
structure RunStages (step : W → (c : ClientCall) → c.Reply → W → Prop) (libraries : PyLibraries)
    (contracts : ResolvedContracts) (fixtureId : String) (getenv : String → Option String)
    (runtime : RuntimeIdentity) (x : State × W) (run : ProbeRun) (y : State × W) where
  (initialized isolated : OperationResult)
  operations : List OperationResult
  reason : String
  (x₀ x₁ x₂ : State × W)
  ranInitialized : Ran step (initialization libraries contracts getenv
    (verifyRuntime contracts runtime)) x (initialized, run.forbiddenValues) x₀
  ranIsolated : Ran step (passedOrSkip initialized .preflightFixture reason
    (preflight (fixtureOf contracts fixtureId))) x₀ isolated x₁
  stages : Stages step libraries contracts (fixtureOf contracts fixtureId) isolated x₁ operations
    x₂
  ranClosed : Ran step closeCatalog x₂ () y
  results : run.operations = [verifyRuntime contracts runtime, initialized, isolated] ++ operations

theorem ran_runProbe {fixtureId : String} {getenv : String → Option String}
    {runtime : RuntimeIdentity} {run : ProbeRun}
    (h : Ran step (runProbe libraries contracts fixtureId getenv runtime) x run y) :
    Nonempty (RunStages step libraries contracts fixtureId getenv runtime x run y) := by
  obtain ⟨_, x', hvalidated, h₁⟩ := ran_bind.mp h
  obtain ⟨-, rfl⟩ := ran_lift.mp hvalidated
  obtain ⟨⟨initialized, forbidden⟩, x₀, ranInitialized, h₂⟩ := ran_bind.mp h₁
  obtain ⟨isolated, x₁, ranIsolated, h₃⟩ := ran_bind.mp h₂
  obtain ⟨operations, x₂, ranSteps, h₄⟩ := ran_bind.mp h₃
  obtain ⟨stages⟩ := ran_fixtureSteps ranSteps
  obtain ⟨_, z, ranClosed, h₅⟩ := ran_bind.mp h₄
  obtain ⟨rfl, rfl⟩ := ran_pure.mp h₅
  exact ⟨{
    initialized, isolated, operations, x₀, x₁, x₂, ranInitialized, ranIsolated, stages, ranClosed
    reason := "catalog initialization did not pass"
    results := rfl }⟩

/-- The result of each step. -/
def RunStages.result {fixtureId : String} {getenv : String → Option String}
    {runtime : RuntimeIdentity} {run : ProbeRun}
    (S : RunStages step libraries contracts fixtureId getenv runtime x run y) :
    Step → OperationResult :=
  resultsOf (verifyRuntime contracts runtime) S.initialized S.isolated S.stages.namespace
    S.stages.table S.stages.appended S.stages.updated S.stages.evolved S.stages.deleted
    S.stages.recovered S.stages.delegated S.stages.renamed S.stages.registered S.stages.views
    S.stages.pagination S.stages.cleaned

/-- A run that returned has stages, and what passed is read off their results. -/
theorem ran_stages {fixtureId : String} {getenv : String → Option String}
    {runtime : RuntimeIdentity} {w : W} {run : ProbeRun}
    (h : Ran step (runProbe libraries contracts fixtureId getenv runtime) (.initial, w) run y) :
    ∃ S : RunStages step libraries contracts fixtureId getenv runtime (.initial, w) run y,
      Complete contracts S.result ∧ run.operations = Step.all.map S.result ∧
        ∀ s, run.Passed s ↔ (S.result s).status = .pass := by
  obtain ⟨S⟩ := ran_runProbe h
  obtain ⟨results, hcomplete, -, hoperations⟩ := ran_complete h
  have hresult : run.operations = Step.all.map S.result := by
    rw [S.results, S.stages.operations]
    rfl
  have hsame : results = S.result := by
    funext s
    exact List.map_inj_left.mp (hoperations.symm.trans hresult) s s.mem_all
  rw [hsame] at hcomplete
  exact ⟨S, hcomplete, hresult, passed_iff hcomplete hresult⟩

end CatalogBench.PyIceberg
