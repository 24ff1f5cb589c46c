import CatalogBench.PyIceberg.Safety

/-!
# The verdict of a run

The results of a run are complete, so that every assertion of the scenario is evaluated and the run
is classified.
-/

set_option linter.all false

namespace CatalogBench.PyIceberg
open Interaction Interaction.Script

variable {results : Step → OperationResult}

/-- The results of a run are found by their steps. -/
theorem byId_results (hid : ∀ s, (results s).id = s) (s : Step) :
    byId (Step.all.map results) s = some (results s) := by
  unfold byId
  have hfound : ((Step.all.map results).reverse.find?
      fun operation => decide (operation.id = s)).isSome = true := by
    rw [List.find?_isSome]
    exact ⟨results s, List.mem_reverse.mpr (List.mem_map_of_mem s.mem_all),
      decide_eq_true (hid s)⟩
  obtain ⟨operation, hoperation⟩ := Option.isSome_iff_exists.mp hfound
  rw [hoperation]
  have hmem := List.mem_reverse.mp (List.mem_of_find?_eq_some hoperation)
  have hs : decide (operation.id = s) = true :=
    List.find?_some (p := fun operation : OperationResult => decide (operation.id = s)) hoperation
  obtain ⟨s', -, rfl⟩ := List.mem_map.mp hmem
  obtain rfl : s' = s := (hid s').symm.trans (of_decide_eq_true hs)
  rfl

theorem operationOf_results (hid : ∀ s, (results s).id = s) (s : Step) :
    operationOf (Step.all.map results) s = .ok (results s) := by
  unfold operationOf
  rw [byId_results hid]

theorem unsupportedRequirement_results (hid : ∀ s, (results s).id = s)
    {assertions : List AssertionContract}
    (h : ∀ assertion ∈ assertions, assertion.required = true →
      (results assertion.step).status ≠ .unsupported) :
    unsupportedRequirement (Step.all.map results) assertions = .ok none := by
  induction assertions with
  | nil => rfl
  | cons assertion assertions ih =>
    obtain ⟨hfirst, hrest⟩ := List.forall_mem_cons.mp h
    unfold unsupportedRequirement
    by_cases hrequired : assertion.required = true
    · rw [if_pos hrequired, operationOf_results hid]
      show (if (results assertion.step).status = .unsupported then _ else _) = _
      rw [if_neg (hfirst hrequired)]
      exact ih hrest
    · rw [if_neg hrequired]
      exact ih hrest

/-- The required assertions whose steps did not pass. -/
def unmet (results : Step → OperationResult) (assertions : List AssertionContract) :
    List AssertionContract :=
  assertions.filter fun assertion =>
    assertion.required && decide ((results assertion.step).status ≠ .pass)

theorem failedRequirements_results (hid : ∀ s, (results s).id = s)
    (assertions : List AssertionContract) :
    failedRequirements (Step.all.map results) assertions =
      .ok ((unmet results assertions).map AssertionContract.id) := by
  induction assertions with
  | nil => rfl
  | cons assertion assertions ih =>
    unfold failedRequirements unmet
    by_cases hrequired : assertion.required = true
    · rw [if_pos hrequired, operationOf_results hid, ih, List.filter_cons, hrequired]
      by_cases hpass : (results assertion.step).status = .pass
      · simp [hpass, unmet, Bind.bind, Except.bind, Pure.pure, Except.pure]
      · simp [hpass, unmet, Bind.bind, Except.bind, Pure.pure, Except.pure]
    · rw [if_neg hrequired, ih, List.filter_cons, Bool.eq_false_iff.mpr hrequired]
      rfl

theorem classify_results (hid : ∀ s, (results s).id = s) {assertions : List AssertionContract}
    (h : ∀ assertion ∈ assertions, assertion.required = true →
      (results assertion.step).status ≠ .unsupported) :
    classify assertions (Step.all.map results) =
      .ok (if unmet results assertions = [] then .pass
        else .fail (toString (unmet results assertions).length ++
          " required assertion(s) did not pass")) := by
  unfold classify
  rw [unsupportedRequirement_results hid h, failedRequirements_results hid]
  by_cases hnone : unmet results assertions = []
  · rw [if_pos hnone, hnone]
    rfl
  · rw [if_neg hnone]
    show (if ((unmet results assertions).map AssertionContract.id).isEmpty = true then _ else _) = _
    rw [if_neg (by rwa [List.isEmpty_iff, List.map_eq_nil_iff]), List.length_map]
    rfl

/-- Every result says what its assertion is told. -/
theorem evaluationOutcome_exists (operation : OperationResult) :
    ∃ outcome, evaluationOutcome operation = .ok outcome ∧
      (outcome = .pass ↔ operation.status = .pass) := by
  have hdetailed := operation.detailed
  unfold evaluationOutcome
  cases hstatus : operation.status with
  | pass => exact ⟨_, rfl, iff_of_true rfl rfl⟩
  | fail =>
    rw [hstatus] at hdetailed
    obtain ⟨failure, hfailure⟩ := Option.isSome_iff_exists.mp (congrArg Prod.fst hdetailed)
    exact ⟨.fail failure.explanation, by rw [hfailure]; rfl, iff_of_false nofun nofun⟩
  | «unsupported» =>
    rw [hstatus] at hdetailed
    obtain ⟨limitation, hlimitation⟩ :=
      Option.isSome_iff_exists.mp (congrArg (fun d => d.2.1) hdetailed)
    exact ⟨.notEvaluated ("unsupported by " ++ limitation.attributedTo ++ ": " ++
      limitation.explanation), by rw [hlimitation]; rfl, iff_of_false nofun nofun⟩
  | notEvaluated =>
    rw [hstatus] at hdetailed
    obtain ⟨reason, hreason⟩ := Option.isSome_iff_exists.mp (congrArg (fun d => d.2.2) hdetailed)
    exact ⟨.notEvaluated reason, by rw [hreason]; rfl, iff_of_false nofun nofun⟩

theorem assertionEvaluations_results (hid : ∀ s, (results s).id = s)
    (assertions : List AssertionContract) :
    ∃ evaluations, assertionEvaluations assertions (Step.all.map results) = .ok evaluations ∧
      List.Forall₂ (fun assertion evaluation => evaluation.assertion = assertion.id ∧
        evaluation.required = assertion.required ∧
        (evaluation.outcome = .pass ↔ (results assertion.step).status = .pass))
        assertions evaluations := by
  have hids : (Step.all.map results).map OperationResult.id = Step.all := by
    rw [List.map_map]
    exact (List.map_congr_left fun s _ => hid s).trans (List.map_id _)
  unfold assertionEvaluations
  rw [hids, if_pos (by decide)]
  apply except_mapM_exists
  intro assertion _
  obtain ⟨outcome, houtcome, hpass⟩ := evaluationOutcome_exists (results assertion.step)
  refine ⟨⟨assertion.id, assertion.required, outcome⟩, ?_, rfl, rfl, hpass⟩
  unfold evaluateAssertion
  rw [byId_results hid]
  show (evaluationOutcome (results assertion.step) >>= _) = _
  rw [houtcome]
  rfl

-- ════════════════════════════════
-- The verdict
-- ════════════════════════════════

/-- The assertion about each step, and whether it is required. -/
theorem expectedAssertions_step {assertion : AssertionContract}
    (h : assertion ∈ expectedAssertions) : assertion.required = assertion.step.required := by
  have hall : ∀ assertion ∈ expectedAssertions,
      assertion.required = assertion.step.required := by decide
  exact hall assertion h

theorem expectedAssertions_exists (s : Step) :
    ∃ assertion ∈ expectedAssertions, assertion.step = s := by
  cases s <;> decide

/-- Complete results are classified by their required steps. -/
theorem classify_complete {contracts : ResolvedContracts} (hcomplete : Complete contracts results) :
    classify contracts.assertions (Step.all.map results) =
        .ok (if unmet results expectedAssertions = [] then .pass
          else .fail (toString (unmet results expectedAssertions).length ++
            " required assertion(s) did not pass")) ∧
      (classify contracts.assertions (Step.all.map results) = .ok .pass ↔
        ∀ s : Step, s.required = true → (results s).status = .pass) := by
  have hrequirements : ∀ assertion ∈ expectedAssertions, assertion.required = true →
      (results assertion.step).status ≠ .unsupported := by
    intro assertion hassertion hrequired hstatus
    rw [expectedAssertions_step hassertion, hcomplete.required _ hstatus] at hrequired
    cases hrequired
  have hclassified := classify_results hcomplete.id hrequirements
  have hunmet : ∀ assertion, assertion ∈ unmet results expectedAssertions ↔
      assertion ∈ expectedAssertions ∧ assertion.required = true ∧
        (results assertion.step).status ≠ .pass := by
    intro assertion
    unfold unmet
    rw [List.mem_filter, Bool.and_eq_true, decide_eq_true_iff]
  refine ⟨hclassified, ?_⟩
  constructor
  · intro hpass s hrequired
    obtain ⟨assertion, hassertion, rfl⟩ := expectedAssertions_exists s
    by_contra hfailed
    have hmem := (hunmet assertion).mpr
      ⟨hassertion, (expectedAssertions_step hassertion).trans hrequired, hfailed⟩
    have hboth := hclassified.symm.trans hpass
    rw [if_neg (List.ne_nil_of_mem hmem)] at hboth
    cases hboth
  · intro hall
    have hnone : unmet results expectedAssertions = [] := by
      refine List.eq_nil_iff_forall_not_mem.mpr fun assertion hmem => ?_
      obtain ⟨hassertion, hrequired, hfailed⟩ := (hunmet assertion).mp hmem
      exact hfailed (hall _ ((expectedAssertions_step hassertion).symm.trans hrequired))
    exact hclassified.trans (congrArg Except.ok (if_pos hnone))

/-- A run is classified by its required steps, never as unsupported, and every assertion is
evaluated to what its step came to. -/
theorem runProbe_verdict {W : Type} {step : W → (c : ClientCall) → c.Reply → W → Prop}
    (libraries : PyLibraries) (contracts : ResolvedContracts) (fixtureId : String)
    (getenv : String → Option String) (runtime : RuntimeIdentity) {w w' : W} {run : ProbeRun}
    {s' : State}
    (hrun : Runs step (runProbe libraries contracts fixtureId getenv runtime) .initial w (.ok run)
      s' w') :
    (∃ failed : List AssertionContract,
      (∀ assertion, assertion ∈ failed ↔ assertion ∈ expectedAssertions ∧
        assertion.required = true ∧ ¬run.Passed assertion.step) ∧
      classify contracts.assertions run.operations = .ok (if failed = [] then .pass
        else .fail (toString failed.length ++ " required assertion(s) did not pass"))) ∧
    (classify contracts.assertions run.operations = .ok .pass ↔
      ∀ s : Step, s.required = true → run.Passed s) ∧
    ∃ evaluations, assertionEvaluations contracts.assertions run.operations = .ok evaluations ∧
      List.Forall₂ (fun assertion evaluation => evaluation.assertion = assertion.id ∧
        evaluation.required = assertion.required ∧
        (evaluation.outcome = .pass ↔ run.Passed assertion.step))
        expectedAssertions evaluations := by
  have hran : Ran step (runProbe libraries contracts fixtureId getenv runtime) (.initial, w) run
      (s', w') := hrun
  obtain ⟨results, hcomplete, -, hoperations⟩ := ran_complete hran
  have hpassed := passed_iff hcomplete hoperations
  rw [hoperations]
  obtain ⟨hclassified, hpass⟩ := classify_complete hcomplete
  refine ⟨⟨unmet results expectedAssertions, ?_, hclassified⟩, ?_, ?_⟩
  · intro assertion
    unfold unmet
    rw [List.mem_filter, Bool.and_eq_true, decide_eq_true_iff, hpassed]
  · rw [hpass]
    exact forall_congr' fun s => imp_congr_right fun _ => (hpassed s).symm
  · obtain ⟨evaluations, hevaluations, hrelated⟩ :=
      assertionEvaluations_results hcomplete.id expectedAssertions
    refine ⟨evaluations, hevaluations, hrelated.imp ?_⟩
    rintro assertion evaluation ⟨hassertion, hrequired, hevaluated⟩
    exact ⟨hassertion, hrequired, hevaluated.trans (hpassed _).symm⟩

theorem runProbe_verdict_sample :
    ∃ run, samplePlay.1.1 = .ok run ∧
      classify sampleContracts.assertions run.operations = .ok .pass := by
  obtain ⟨run, hrun, hpassed⟩ := samplePlay_passed
  have hran := samplePlay_recorded
  rw [hrun] at hran
  refine ⟨run, hrun, ?_⟩
  apply (runProbe_verdict sampleLibraries sampleContracts "run_1" some sampleRuntime hran).2.1.mpr
  intro s hrequired
  apply hpassed s s.mem_all
  revert hrequired
  cases s <;> decide

end CatalogBench.PyIceberg
