import CatalogBench.ContractTool.EngineReview
import CatalogBench.Engine.SparkAdmission

/-!
# Engine results

Every admitted transcript becomes one result record. The record says what the transcript was
classified as, and evaluates each assertion of the scenario by the check of that name.
-/

set_option linter.all false

namespace CatalogBench.ContractTool
open CatalogBench.Contract Interaction
open CatalogBench.Engine hiding ComponentId

namespace EngineBundle

def transcriptEvidenceId : String := "engine-transcript"
def reviewEvidenceId : String := "materialization-review"
def profileCopy : String := "source/profile.json"
def scenarioCopy : String := "source/scenario.json"
def reviewCopy : String := "source/review.json"
def transcriptDirectory : String := "source/transcripts"

-- ════════════════════════════════
-- Labels
-- ════════════════════════════════

def classificationLabel : EngineBehaviorClassification → String
  | .pass => "pass"
  | .fail => "fail"
  | .fixtureCollision => "fixture-collision"

def processOutcomeLabel : EngineProcessOutcome → String
  | .runtimeRejected => "runtime-rejected"
  | .credentialRejected _ => "credential-rejected"
  | .preparationFailed _ => "preparation-failed"
  | .spawnFailed => "spawn-failed"
  | .timedOut => "timed-out"
  | .stdoutFailed => "stdout-failed"
  | .waitFailed => "wait-failed"
  | .protocolRejected _ => "protocol-rejected"
  | .exitProtocolMismatch => "exit-protocol-mismatch"
  | .completed => "completed"
  | .fixtureCollision => "fixture-collision"
  | .engineFailed _ _ => "engine-failed"

-- ════════════════════════════════
-- Assertions
-- ════════════════════════════════

def assertionPassed (id : AssertionId) (transcript : EngineTranscript) : Loading Bool :=
  let checks := transcript.execution.checks
  match id with
  | "engine-runtime-pinned" => .ok checks.engineRuntimePinned
  | "stock-rest-catalog-ready" => .ok checks.stockRestCatalogReady
  | "fixture-isolated" => .ok checks.fixtureIsolated
  | "namespace-round-trip" => .ok checks.namespaceRoundTrip
  | "table-round-trip" => .ok checks.tableRoundTrip
  | "initial-append-committed" => .ok checks.initialAppendCommitted
  | "initial-read-exact" => .ok checks.initialReadExact
  | "schema-evolved" => .ok checks.schemaEvolved
  | "evolved-append-committed" => .ok checks.evolvedAppendCommitted
  | "evolved-read-exact" => .ok checks.evolvedReadExact
  | "catalog-state-correlated" => .ok checks.catalogStateCorrelated
  | "shared-object-evidence-complete" => .ok checks.sharedObjectEvidenceComplete
  | "fixture-clean" => .ok checks.fixtureClean
  | "transcript-sanitized" => .ok transcript.sanitization.passed
  | unknown => bail ("engine result materializer does not implement assertion `" ++ unknown ++ "`")

/-- The outcome of an assertion whose check did or did not pass. -/
def checkedOutcome (id : AssertionId) (passed : Bool) : AssertionOutcome :=
  if passed then .pass
  else .fail ("The independently recomputed `" ++ id ++ "` transcript check did not pass.")

def evaluateAssertion (assertion : AssertionSpec) (transcript : EngineTranscript)
    (collision : Bool) : Loading AssertionEvaluation := do
  let outcome ←
    if collision then
      pure (.notEvaluated
        "A pre-existing fixture collision prevented a safe scenario attempt.")
    else do
      let passed ← assertionPassed assertion.id transcript
      pure (checkedOutcome assertion.id passed)
  pure ⟨assertion.id, assertion.required, outcome, [transcriptEvidenceId]⟩

-- ════════════════════════════════
-- The outcome
-- ════════════════════════════════

/-- The required assertions that failed. -/
def failedRequired (assertions : List AssertionEvaluation) : List AssertionId :=
  (assertions.filter fun evaluation =>
    evaluation.required && evaluation.outcome matches .fail _).map (·.assertion)

def failureDetail (transcript : EngineTranscript) (failedRequired : List AssertionId) : String :=
  if failedRequired.isEmpty then
    "All scenario checks were observed, but the closed process outcome `" ++
      processOutcomeLabel transcript.execution.process.outcome ++
      "` did not establish a trusted successful terminal. No retryability claim is inferred."
  else
    "Required assertions failed: " ++
      ", ".intercalate (failedRequired.map fun id => "`" ++ id ++ "`") ++
      ". The transcript retains only bounded failure categories; no deeper cause or " ++
      "retryability claim is inferred."

def resultOutcome (transcript : EngineTranscript) (assertions : List AssertionEvaluation)
    (failedRequired : List AssertionId) : Loading ResultOutcome :=
  let required := (assertions.filter (·.required)).length
  match transcript.execution.classification with
  | .pass => do
    bailWhen (!failedRequired.isEmpty ||
      assertions.any fun evaluation => evaluation.required && !evaluation.outcome.isPass)
      "passing engine transcript does not project to all passing assertions"
    pure (.pass (some ("All " ++ toString required ++
      " required stock-engine interoperability assertions passed.")))
  | .fail =>
    pure (.fail
      { category := if failedRequired.isEmpty then .harness else .assertion
        summary := "The stock-engine workflow did not satisfy its publication contract."
        detail := failureDetail transcript failedRequired
        retryable := false
        evidence := [transcriptEvidenceId, reviewEvidenceId] })
  | .fixtureCollision =>
    pure (.notTested
      ⟨"A pre-existing run-owned fixture was observed before mutation, so the runner refused to " ++
        "execute or clean it up.",
        some "fresh collision-free fixture state"⟩)

-- ════════════════════════════════
-- Records
-- ════════════════════════════════

section Records

variable {crates : EngineCrates} (reviewed : ValidatedEngineResultReview crates)

def artifact (crates : EngineCrates) (location mediaType : String) (bytes : List UInt8)
    (description : String) : ArtifactReference where
  location := location
  mediaType := mediaType
  digest := ⟨.sha256, crates.sha256Hex bytes⟩
  bytes := some bytes.length
  description := some description
  extensions := ∅

/-- The copies of the sources that a record refers to. -/
structure SourceArtifacts where
  profile : ArtifactReference
  scenario : ArtifactReference
  transcript : ArtifactReference
  review : ArtifactReference

def executedComponent (component : EngineTranscriptComponent) : ExecutedComponent where
  profileComponent := component.id
  name := component.name
  version := component.version

def resultEvidence (transcript : EngineTranscript) (artifacts : SourceArtifacts) : List Evidence :=
  [{ id := transcriptEvidenceId
     kind := .queryOutput
     artifact := artifacts.transcript
     sanitized := true
     redactions := reviewed.review.redaction.removedFields
     extensions := .ofList [("querygraph/classification",
       .string (classificationLabel transcript.execution.classification)),
       ("querygraph/transcript-format", .string transcript.format)] _ },
   { id := reviewEvidenceId
     kind := .other
     artifact := artifacts.review
     sanitized := true
     redactions := reviewed.review.redaction.removedFields
     extensions :=
       .ofList [("querygraph/reviewed", .bool reviewed.review.redaction.reviewed)] _ }]

/-- What a record says next to the fields of its contract. -/
def resultExtensions (transcript : EngineTranscript) (failedRequired : List AssertionId) :
    StringMap Json :=
  .ofList [
    ("querygraph/execution",
      .object [("classification",
          .string (classificationLabel transcript.execution.classification)),
        ("exit_code", (transcript.execution.process.exitCode.map Json.ofInt).getD .null),
        ("failed_required_assertions", .array (failedRequired.map .string)),
        ("process_outcome",
          .string (processOutcomeLabel transcript.execution.process.outcome))]),
    ("querygraph/run-interval",
      .object [("catalogs_executed_sequentially", .bool true),
        ("scope", .string "complete-four-catalog-launcher")]),
    ("querygraph/request-handling",
      .object [("behavior_changing_shim", .bool false),
        ("connector", .string transcript.components.connector.id),
        ("protocol", .string "iceberg-rest-v1")])] _

/-- The record of a transcript, with its evaluations and its outcome. -/
def resultRecord (transcript : EngineTranscript) (artifacts : SourceArtifacts)
    (assertions : List AssertionEvaluation) (outcome : ResultOutcome) : ResultRecord :=
  let scenario := reviewed.evidence.contracts.scenario
  let catalog := transcript.components.catalog
  { id := reviewed.review.bundle.id ++ "-" ++ catalog.id
    scenario := ⟨scenario.id, scenario.version, artifacts.scenario.digest⟩
    profile := ⟨reviewed.evidence.contracts.profile.id, artifacts.profile.digest⟩
    catalog := executedComponent catalog
    client := some (executedComponent transcript.components.engine)
    adapters := [transcript.components.connector.id]
    run := .single (transcript.fixture.id ++ "-" ++ catalog.id) reviewed.review.run.startedAt
      reviewed.review.run.completedAt 1 none
    outcome
    environment := reviewed.review.environment
    assertions
    measurements := []
    evidence := resultEvidence reviewed transcript artifacts
    artifacts := []
    extensions := resultExtensions transcript (failedRequired assertions) }

def buildResult (transcript : EngineTranscript) (artifacts : SourceArtifacts) :
    Loading ResultRecord := do
  let collision := transcript.execution.classification = .fixtureCollision
  let assertions ← reviewed.evidence.contracts.scenario.assertions.mapM fun assertion =>
    evaluateAssertion assertion transcript collision
  let outcome ← resultOutcome transcript assertions (failedRequired assertions)
  let result := resultRecord reviewed transcript artifacts assertions outcome
  requireNoIssues (result.collectIssues crates.parseF64 "$")
  pure result

/-- The copy of an admitted transcript. -/
def transcriptArtifact (admitted : ValidatedEngineTranscript reviewed.evidence.contracts) :
    ArtifactReference :=
  artifact crates (transcriptDirectory ++ "/" ++ admitted.catalog ++ ".json") "application/json"
    admitted.bytes
    ("Canonical sanitized stock-engine transcript for " ++
      admitted.transcript.components.catalog.name ++ ".")

/-- One more copy; each catalog has one. -/
def addTranscriptArtifact (artifacts : StringMap ArtifactReference)
    (admitted : ValidatedEngineTranscript reviewed.evidence.contracts) :
    Loading (StringMap ArtifactReference) := do
  bailWhen (artifacts.contains admitted.catalog)
    ("duplicate admitted transcript for `" ++ admitted.catalog ++ "`")
  pure (artifacts.insert admitted.catalog (transcriptArtifact reviewed admitted))

def transcriptArtifacts : Loading (StringMap ArtifactReference) :=
  reviewed.evidence.transcripts.foldlM (addTranscriptArtifact reviewed) ∅

/-- The copies that the record of a transcript refers to. -/
def sourceArtifacts (transcript : ArtifactReference) : SourceArtifacts where
  profile := artifact crates profileCopy "application/json" reviewed.evidence.profileBytes
    "Exact runnable stock-engine profile admitted by the review."
  scenario := artifact crates scenarioCopy "application/json" reviewed.evidence.scenarioBytes
    "Exact common stock-engine interoperability scenario admitted by the review."
  transcript := transcript
  review := artifact crates reviewCopy "application/json" reviewed.reviewBytes
    "Reviewed live-run, environment, source-identity, and redaction metadata."

/-- The results that `generate` writes, in the order of the transcripts. -/
def generateResults : Loading (List ResultRecord) := do
  let artifacts ← transcriptArtifacts reviewed
  reviewed.evidence.transcripts.mapM fun admitted => do
    let transcript ← orBail "admitted transcript artifact map changed during generation"
      artifacts[admitted.catalog]?
    buildResult reviewed admitted.transcript (sourceArtifacts reviewed transcript)

end Records

end EngineBundle

end CatalogBench.ContractTool
