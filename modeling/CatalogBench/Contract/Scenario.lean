import CatalogBench.Contract.Value
import CatalogBench.Conformance.Wire

/-!
# Scenarios

A scenario names the capabilities it needs, the steps it takes in order and the assertions a
result has to evaluate.
-/

set_option linter.all false

namespace CatalogBench.Contract

inductive ScenarioFamily
  | icebergRest | clientInteroperability | concurrency | securityAndTenancy | operations
  | migrationAndFederation | semanticInteroperability
  deriving DecidableEq

inductive RequirementLevel
  | required | optional
  deriving DecidableEq

structure CapabilityRequirement where
  capability : CapabilityId
  level : RequirementLevel
  description : String
  specification : Option String
  deriving DecidableEq

inductive ActorRole
  | harness | catalog | client | engine | objectStore | stateStore | externalSink
  deriving DecidableEq

structure ScenarioStep where
  id : StepId
  actor : ActorRole
  operation : String
  description : String
  dependsOn : List StepId
  parameters : StringMap Json
  timeoutMs : Option ℕ
  deriving DecidableEq

inductive AssertionCheck
  | httpStatus (allowed : List ℕ)
  | jsonPointerEquals (pointer : String) (expected : Json)
  | artifactExists (role : String)
  | objectCountDelta (minimum : ℕ)
  | noRequestErrors
  | exactReplay
  | dataRead (expectation : String)
  | custom (name : String) (configuration : Json)
  deriving DecidableEq

structure AssertionSpec where
  id : AssertionId
  step : StepId
  required : Bool
  description : String
  check : AssertionCheck
  deriving DecidableEq

/-- A complete, implementation-neutral scenario definition. The contract version, the document
kind and the classification policy have one value each. -/
structure Scenario where
  id : ScenarioId
  version : ℕ
  title : String
  description : String
  family : ScenarioFamily
  tags : List String
  capabilities : List CapabilityRequirement
  parameters : StringMap Json
  steps : List ScenarioStep
  assertions : List AssertionSpec
  extensions : StringMap Json
  deriving DecidableEq

def validateCheck (check : AssertionCheck) (path : String) : List ValidationIssue :=
  match check with
  | .httpStatus allowed =>
    if allowed.isEmpty then
      [⟨childPath path "allowed", "must contain at least one status code"⟩]
    else
      allowed.flatMap fun status =>
        issueWhen (!(100 ≤ status && status ≤ 599)) (childPath path "allowed")
          ("contains invalid HTTP status " ++ toString status)
  | .jsonPointerEquals pointer _ =>
    issueWhen (!pointer.isEmpty && pointer.toList.head? ≠ some '/') (childPath path "pointer")
      "must be empty or start with `/`"
  | .artifactExists role => requireNonEmpty role (childPath path "role")
  | .dataRead expectation => requireNonEmpty expectation (childPath path "expectation")
  | .custom name _ =>
    requireNonEmpty name (childPath path "name") ++
      issueWhen (!containsText name "/") (childPath path "name")
        "must be namespaced (for example `org.example/check`)"
  | .objectCountDelta _ | .noRequestErrors | .exactReplay => []

namespace Scenario

/-- The positions of the steps by id. -/
def stepPositions (scenario : Scenario) : StringMap ℕ :=
  .ofList (scenario.steps.zipIdx.map fun (step, index) => (step.id, index)) _

/-- A dependency has to precede the step at `index`. -/
def dependencyIssues (positions : StringMap ℕ) (index : ℕ) (stepPath : String)
    (dependency : StepId) : List ValidationIssue :=
  match positions[dependency]? with
  | some dependencyIndex =>
    issueWhen (!(dependencyIndex < index)) (childPath stepPath "depends_on")
      ("dependency `" ++ dependency ++ "` must precede this step")
  | none =>
    [⟨childPath stepPath "depends_on", "references unknown step `" ++ dependency ++ "`"⟩]

def collectIssues (scenario : Scenario) (path : String) : List ValidationIssue :=
  requireNonEmpty scenario.id (childPath path "id") ++
    issueWhen (scenario.version = 0) (childPath path "version") "must be greater than zero" ++
    requireNonEmpty scenario.title (childPath path "title") ++
    requireNonEmpty scenario.description (childPath path "description") ++
    issueWhen scenario.steps.isEmpty (childPath path "steps")
      "must contain at least one step" ++
    issueWhen scenario.assertions.isEmpty (childPath path "assertions")
      "must contain at least one assertion" ++
    requireUnique (scenario.steps.map (·.id)) (childPath path "steps") ++
    requireUnique (scenario.assertions.map (·.id)) (childPath path "assertions") ++
    requireUnique (scenario.capabilities.map (·.capability)) (childPath path "capabilities") ++
    (eachIndexed (childPath path "steps") scenario.steps fun index stepPath step =>
      requireNonEmpty step.id (childPath stepPath "id") ++
        requireNonEmpty step.operation (childPath stepPath "operation") ++
        requireNonEmpty step.description (childPath stepPath "description") ++
        requireUnique step.dependsOn (childPath stepPath "depends_on") ++
        step.dependsOn.flatMap (dependencyIssues scenario.stepPositions index stepPath)) ++
    (eachIndexed (childPath path "assertions") scenario.assertions fun _ assertionPath assertion =>
      requireNonEmpty assertion.id (childPath assertionPath "id") ++
        issueWhen (!(scenario.steps.map (·.id)).contains assertion.step)
          (childPath assertionPath "step")
          ("references unknown step `" ++ assertion.step ++ "`") ++
        requireNonEmpty assertion.description (childPath assertionPath "description") ++
        validateCheck assertion.check (childPath assertionPath "check")) ++
    (eachIndexed (childPath path "capabilities") scenario.capabilities
      fun _ capabilityPath requirement =>
        requireNonEmpty requirement.capability (childPath capabilityPath "capability") ++
          requireNonEmpty requirement.description (childPath capabilityPath "description"))

/-- The assertions of an accepted scenario have distinct ids. -/
theorem nodup_assertions {scenario : Scenario} {path : String}
    (h : scenario.collectIssues path = []) : (scenario.assertions.map (·.id)).Nodup := by
  simp only [collectIssues, List.append_eq_nil_iff, requireUnique_eq_nil, and_assoc] at h
  obtain ⟨-, -, -, -, -, -, -, hnodup, -⟩ := h
  exact hnodup

end Scenario

end CatalogBench.Contract
