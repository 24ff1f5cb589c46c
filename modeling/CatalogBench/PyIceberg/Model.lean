import CatalogBench.Conformance.Wire

/-!
# Evidence of the PyIceberg probe

Each step of the scenario ends in one result, whose status says which details come with it. The
results are projected onto the assertions of the scenario and classified.
-/

set_option linter.all false

namespace CatalogBench.PyIceberg

-- ════════════════════════════════
-- Steps
-- ════════════════════════════════

/-- The steps of the scenario. -/
inductive Step
  | verifyClientRuntime
  | initializeCatalog
  | preflightFixture
  | namespaceRoundTrip
  | tableRoundTrip
  | appendScan
  | updateProperties
  | evolveSchema
  | deleteRows
  | recoverConflict
  | observeDelegatedAccess
  | renameTable
  | registerTable
  | classifyViews
  | classifyPagination
  | cleanupFixture
  | sanitizeTranscript
  deriving DecidableEq

namespace Step

def id : Step → String
  | verifyClientRuntime => "verify-client-runtime"
  | initializeCatalog => "initialize-catalog"
  | preflightFixture => "preflight-fixture"
  | namespaceRoundTrip => "namespace-round-trip"
  | tableRoundTrip => "table-round-trip"
  | appendScan => "append-scan"
  | updateProperties => "update-properties"
  | evolveSchema => "evolve-schema"
  | deleteRows => "delete-rows"
  | recoverConflict => "recover-conflict"
  | observeDelegatedAccess => "observe-delegated-access"
  | renameTable => "rename-table"
  | registerTable => "register-table"
  | classifyViews => "classify-views"
  | classifyPagination => "classify-pagination"
  | cleanupFixture => "cleanup-fixture"
  | sanitizeTranscript => "sanitize-transcript"

/-- `STEP_CAPABILITIES`. -/
def capability : Step → Option String
  | initializeCatalog | preflightFixture | namespaceRoundTrip | tableRoundTrip | appendScan
  | cleanupFixture => "client.pyiceberg.round-trip"
  | updateProperties => "client.pyiceberg.property-update"
  | evolveSchema => "client.pyiceberg.schema-evolution"
  | deleteRows => "client.pyiceberg.row-delete"
  | recoverConflict => "client.pyiceberg.conflict-recovery"
  | observeDelegatedAccess => "client.pyiceberg.credential-vending"
  | renameTable => "client.pyiceberg.table-rename"
  | registerTable => "client.pyiceberg.table-register"
  | classifyViews => "client.pyiceberg.view-lifecycle"
  | classifyPagination => "client.pyiceberg.pagination"
  | verifyClientRuntime | sanitizeTranscript => none

/-- Whether the assertion about the step is required. -/
def required : Step → Bool
  | verifyClientRuntime | initializeCatalog | preflightFixture | namespaceRoundTrip
  | tableRoundTrip | appendScan | cleanupFixture | sanitizeTranscript => true
  | updateProperties | evolveSchema | deleteRows | recoverConflict | observeDelegatedAccess
  | renameTable | registerTable | classifyViews | classifyPagination => false

/-- The step that has to pass before the step is evaluated. -/
def prerequisite : Step → Option Step
  | initializeCatalog => some verifyClientRuntime
  | preflightFixture => some initializeCatalog
  | namespaceRoundTrip | cleanupFixture => some preflightFixture
  | tableRoundTrip => some namespaceRoundTrip
  | appendScan => some tableRoundTrip
  | updateProperties | evolveSchema | deleteRows | recoverConflict | observeDelegatedAccess
  | renameTable | registerTable => some appendScan
  | verifyClientRuntime | classifyViews | classifyPagination | sanitizeTranscript => none

/-- The order of `STEP_CAPABILITIES`. -/
def all : List Step := [verifyClientRuntime, initializeCatalog, preflightFixture,
  namespaceRoundTrip, tableRoundTrip, appendScan, updateProperties, evolveSchema, deleteRows,
  recoverConflict, observeDelegatedAccess, renameTable, registerTable, classifyViews,
  classifyPagination, cleanupFixture, sanitizeTranscript]

end Step

-- ════════════════════════════════
-- Results
-- ════════════════════════════════

inductive Status
  | pass | fail | unsupported | notEvaluated
  deriving DecidableEq

namespace Status

def value : Status → String
  | pass => "pass"
  | fail => "fail"
  | unsupported => "unsupported"
  | notEvaluated => "not-evaluated"

/-- Whether a result of this status has a failure, a limitation and a reason. -/
def details : Status → Bool × Bool × Bool
  | pass => (false, false, false)
  | fail => (true, false, false)
  | unsupported => (false, true, false)
  | notEvaluated => (false, false, true)

end Status

structure SafeFailure where
  category : String
  exceptionClass : String
  explanation : String
  deriving DecidableEq

structure Limitation where
  attributedTo : String
  explanation : String
  upstreamReference : Option String
  deriving DecidableEq

/-- The outcome of one step, with the details of its status and no others. -/
structure OperationResult where
  id : Step
  capability : Option String
  status : Status
  observations : List (String × Json)
  failure : Option SafeFailure
  limitation : Option Limitation
  reason : Option String
  detailed : (failure.isSome, limitation.isSome, reason.isSome) = status.details

namespace OperationResult

def passed (id : Step) (capability : Option String) (observations : List (String × Json)) :
    OperationResult :=
  ⟨id, capability, .pass, observations, none, none, none, rfl⟩

def failed (id : Step) (capability : Option String) (failure : SafeFailure)
    (observations : List (String × Json)) : OperationResult :=
  ⟨id, capability, .fail, observations, some failure, none, none, rfl⟩

def unsupported (id : Step) (capability : Option String) (limitation : Limitation) :
    OperationResult :=
  ⟨id, capability, .unsupported, [], none, some limitation, none, rfl⟩

def notEvaluated (id : Step) (capability : Option String) (reason : String) : OperationResult :=
  ⟨id, capability, .notEvaluated, [], none, none, some reason, rfl⟩

end OperationResult

-- ════════════════════════════════
-- Assertions
-- ════════════════════════════════

structure AssertionContract where
  id : String
  step : Step
  required : Bool
  deriving DecidableEq

inductive EvaluationOutcome
  | pass
  | fail (explanation : String)
  | notEvaluated (reason : String)
  deriving DecidableEq

structure AssertionEvaluation where
  assertion : String
  required : Bool
  outcome : EvaluationOutcome
  deriving DecidableEq

/-- `by_id.get`: a later operation replaces an earlier one with its id. -/
def byId (operations : List OperationResult) (id : Step) : Option OperationResult :=
  operations.reverse.find? fun operation => operation.id = id

/-- An `assert` that the value is there. -/
def assertSome {α : Type} : Option α → Except String α
  | some value => .ok value
  | none => .error "AssertionError"

def evaluationOutcome (operation : OperationResult) : Except String EvaluationOutcome :=
  match operation.status with
  | .pass => .ok .pass
  | .fail => do
    let failure ← assertSome operation.failure
    return .fail failure.explanation
  | .unsupported => do
    let limitation ← assertSome operation.limitation
    return .notEvaluated
      ("unsupported by " ++ limitation.attributedTo ++ ": " ++ limitation.explanation)
  | .notEvaluated => do
    let reason ← assertSome operation.reason
    return .notEvaluated reason

def evaluateAssertion (operations : List OperationResult) (assertion : AssertionContract) :
    Except String AssertionEvaluation :=
  match byId operations assertion.step with
  | none => .error ("assertion '" ++ assertion.id ++ "' references missing operation '" ++
      assertion.step.id ++ "'")
  | some operation => do
    let outcome ← evaluationOutcome operation
    return ⟨assertion.id, assertion.required, outcome⟩

def assertionEvaluations (assertions : List AssertionContract)
    (operations : List OperationResult) : Except String (List AssertionEvaluation) :=
  if (operations.map OperationResult.id).Nodup then assertions.mapM (evaluateAssertion operations)
  else .error "operation IDs must be unique"

-- ════════════════════════════════
-- Classification
-- ════════════════════════════════

inductive Classification
  | pass
  | fail (summary : String)
  | unsupported (capability attributedTo explanation : String)
  deriving DecidableEq

/-- `by_id[step]`. -/
def operationOf (operations : List OperationResult) (step : Step) :
    Except String OperationResult :=
  match byId operations step with
  | none => .error "KeyError"
  | some operation => .ok operation

/-- The first required assertion whose operation is unsupported. -/
def unsupportedRequirement (operations : List OperationResult) :
    List AssertionContract → Except String (Option Classification)
  | [] => .ok none
  | assertion :: assertions =>
    if assertion.required then do
      let operation ← operationOf operations assertion.step
      if operation.status = .unsupported then
        let capability ← assertSome operation.capability
        let limitation ← assertSome operation.limitation
        return some (.unsupported capability limitation.attributedTo limitation.explanation)
      else unsupportedRequirement operations assertions
    else unsupportedRequirement operations assertions

/-- The required assertions that did not pass. -/
def failedRequirements (operations : List OperationResult) :
    List AssertionContract → Except String (List String)
  | [] => .ok []
  | assertion :: assertions =>
    if assertion.required then do
      let operation ← operationOf operations assertion.step
      let failed ← failedRequirements operations assertions
      return if operation.status = .pass then failed else assertion.id :: failed
    else failedRequirements operations assertions

def classify (assertions : List AssertionContract) (operations : List OperationResult) :
    Except String Classification := do
  match ← unsupportedRequirement operations assertions with
  | some classification => return classification
  | none =>
    let failed ← failedRequirements operations assertions
    if failed.isEmpty then return .pass
    else return .fail (toString failed.length ++ " required assertion(s) did not pass")

end CatalogBench.PyIceberg
