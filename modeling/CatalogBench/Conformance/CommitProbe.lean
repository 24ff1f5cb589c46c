import CatalogBench.Conformance.Commit
import CatalogBench.Conformance.Negotiation

/-!
# The run of the commit probe

The whole probe around the commit workflow: capability limits declared before the run, routing
negotiation, the advertisement of idempotency keys, the workflow itself, and the transcript with
one verdict for each assertion of the scenario.
-/

set_option linter.all false

namespace CatalogBench.Conformance.Commit
open Interaction

-- ════════════════════════════════
-- Idempotency
-- ════════════════════════════════

def idempotencyKeyLifetime : String := "idempotency-key-lifetime"

/-- The pointers a config may advertise a lifetime at, in the order they are tried. -/
def idempotencyPointers : List (String × List String) :=
  [("/idempotency-key-lifetime", [idempotencyKeyLifetime]),
    ("/overrides/idempotency-key-lifetime", ["overrides", idempotencyKeyLifetime]),
    ("/defaults/idempotency-key-lifetime", ["defaults", idempotencyKeyLifetime])]

namespace IdempotencyAdvertisement

/-- What the value found at a pointer advertises. -/
def ofValue (source : String) : Json → IdempotencyAdvertisement
  | .string lifetime =>
    if isBlank lifetime then malformed source "idempotency-key-lifetime is empty"
    else advertised source lifetime
  | _ => malformed source "idempotency-key-lifetime must be a nonempty string"

def inspect (config : Option Json) (configRouting : Fact) : IdempotencyAdvertisement :=
  if !configRouting.passed then
    notEvaluated (configRouting.explanation "config routing did not pass")
  else
    match config with
    | none => notEvaluated "config response has no captured JSON body"
    | some config =>
      (idempotencyPointers.findSome? fun pointer =>
        (config.pointer pointer.2).map (ofValue pointer.1)).getD notAdvertised

end IdempotencyAdvertisement

def optionalLimitation (adapter : CatalogAdapter) (capability : String) : Option String :=
  (adapter.capabilities.limitation capability).map fun limitation =>
    "profile declares `" ++ capability ++ "` unsupported: " ++ limitation.explanation

def optionalCommitOperations (adapter : CatalogAdapter) : OptionalCommitOperations :=
  ⟨optionalLimitation adapter exactRetryCapability,
    optionalLimitation adapter contentBindingCapability⟩

-- ════════════════════════════════
-- Assertions
-- ════════════════════════════════

inductive AssertionCheck
  | httpStatus | jsonPointerEquals | artifactExists | objectCountDelta | noRequestErrors
  | exactReplay
  | dataRead
  | custom (name : String)
  deriving DecidableEq

structure AssertionSpec where
  id : String
  required : Bool
  check : AssertionCheck
  deriving DecidableEq

inductive AssertionOutcome
  | pass
  | fail (explanation : String)
  | notEvaluated (reason : String)
  deriving DecidableEq

def outcome : Fact → AssertionOutcome
  | .pass => .pass
  | .fail explanation => .fail explanation
  | .notEvaluated reason => .notEvaluated reason

structure ProbeAssertion where
  assertion : String
  required : Bool
  outcome : AssertionOutcome
  deriving DecidableEq

/-- The capabilities the scenario requires, in its order. -/
def requiredCapabilities : List String :=
  [namespaceCreateCapability, namespaceLoadCapability, namespaceDropCapability, createCapability,
    loadCapability, updateCapability, dropCapability, "iceberg-rest.error.spec-shape",
    "iceberg-rest.table.commit.set-properties", "iceberg-rest.table.commit.requirements",
    "iceberg-rest.table.commit.stale-pointer-rejection"]

/-- The assertions of the scenario, as `validate_assertions` pins them. -/
def commitAssertions : List AssertionSpec :=
  let custom (id : String) (required : Bool) (name : String) : AssertionSpec :=
    ⟨id, required, .custom ("querygraph/catalog-bench/" ++ name)⟩
  [custom "authentication-ready" true "authentication-ready-v1",
    custom "config-routing-ready" true "commit-config-routing-v1",
    custom "fixture-isolated" true "commit-fixture-isolation-v1",
    custom "commit-fixture-ready" true "commit-fixture-v1",
    custom "current-requirements-admitted" true "commit-requirements-v1",
    custom "schema-transition-admitted" true "commit-schema-transition-v1",
    custom "stale-requirement-rejected-atomically" true "commit-stale-rejection-v1",
    custom "idempotency-support-advertised" false "idempotency-advertisement-v1",
    ⟨"exact-request-replayed-once", false, .exactReplay⟩,
    custom "idempotency-content-drift-rejected" false "idempotency-content-binding-v1",
    custom "required-final-state-exact" true "commit-final-state-v1",
    custom "commit-fixture-clean" true "commit-cleanup-v1",
    custom "transcript-sanitized" true "sanitized-commit-transcript-v1"]

def CommitFacts.forAssertion (facts : CommitFacts) : AssertionCheck → Fact
  | .exactReplay => facts.exactReplay
  | .custom name =>
    match name with
    | "querygraph/catalog-bench/authentication-ready-v1" => facts.authentication
    | "querygraph/catalog-bench/commit-config-routing-v1" => facts.configRouting
    | "querygraph/catalog-bench/commit-fixture-isolation-v1" => facts.fixtureIsolated
    | "querygraph/catalog-bench/commit-fixture-v1" => facts.fixtureReady
    | "querygraph/catalog-bench/commit-requirements-v1" => facts.currentRequirements
    | "querygraph/catalog-bench/commit-schema-transition-v1" => facts.schemaTransition
    | "querygraph/catalog-bench/commit-stale-rejection-v1" => facts.staleRejection
    | "querygraph/catalog-bench/idempotency-advertisement-v1" => facts.idempotencyAdvertisement
    | "querygraph/catalog-bench/idempotency-content-binding-v1" => facts.contentBinding
    | "querygraph/catalog-bench/commit-final-state-v1" => facts.requiredFinal
    | "querygraph/catalog-bench/commit-cleanup-v1" => facts.cleanup
    | "querygraph/catalog-bench/sanitized-commit-transcript-v1" => facts.transcriptSanitized
    | name => .fail ("commit policy received unknown assertion `" ++ name ++ "`")
  | _ => .fail "commit policy received an unsupported assertion kind"

def evaluateAssertions (facts : CommitFacts) : List ProbeAssertion :=
  commitAssertions.map fun assertion =>
    ⟨assertion.id, assertion.required, outcome (facts.forAssertion assertion.check)⟩

def notEvaluatedAssertions (reason : String) : List ProbeAssertion :=
  commitAssertions.map fun assertion =>
    ⟨assertion.id, assertion.required, .notEvaluated reason⟩

def passedRequiredAssertions (assertions : List ProbeAssertion) : Bool :=
  assertions.all fun evaluation => !evaluation.required || evaluation.outcome = .pass

-- ════════════════════════════════
-- The transcript
-- ════════════════════════════════

inductive ProbeClassification
  | pass
  | fail (summary : String)
  | unsupported (capability attributedTo explanation : String)
  deriving DecidableEq

structure SanitizationTranscript where
  policy : String
  redactions : List String
  rawSecretsPersisted : Bool
  rawResponseBodyPersisted : Bool
  deriving DecidableEq

/-- The part of the transcript that is scanned for secrets. -/
structure CommitEvidence where
  authentication : AuthenticationTranscript
  config : RoutingConfigTranscript
  idempotency : IdempotencyAdvertisement
  operations : List OperationTranscript
  deriving DecidableEq

structure CommitTranscript extends CommitEvidence where
  classification : ProbeClassification
  assertions : List ProbeAssertion
  sanitization : SanitizationTranscript
  deriving DecidableEq

def authenticationMode : CatalogAuthentication → String
  | .anonymous => "anonymous"
  | .oauth2ClientCredentials .. => "oauth2-client-credentials"

section Probe

variable (web : WebCrates) (encodeEvidence : CommitEvidence → List UInt8) (adapter : CatalogAdapter)

def firstRequiredLimitation : Option UnsupportedAdapterCapability :=
  requiredCapabilities.findSome? adapter.capabilities.limitation

def notEvaluatedConfig (reason : String) : Except String RoutingConfigTranscript := do
  let url ← endpointUrl web adapter.baseUrl adapter.configPath adapter.configQuery
  return ⟨configRequest url false, none, .notEvaluated reason, .notEvaluated reason, none⟩

/-- The transcript of a catalog whose profile rules the scenario out. -/
def unsupportedTranscript (limitation : UnsupportedAdapterCapability) :
    Except String CommitTranscript := do
  let reason := "required capability `" ++ limitation.capability ++
    "` is declared unsupported before execution"
  let config ← notEvaluatedConfig web adapter reason
  return {
    authentication :=
      ⟨authenticationMode adapter.authentication, .notAttempted, none, none, none⟩
    config
    idempotency := .notEvaluated reason
    operations := []
    classification := .unsupported limitation.capability limitation.attributedTo
      limitation.explanation
    assertions := notEvaluatedAssertions reason
    sanitization := ⟨"automated-v1", [], false, false⟩ }

/-- The advertisement found in the config as it is kept in the transcript. -/
def inspectAdvertisement (negotiation : RoutingNegotiation) : IdempotencyAdvertisement :=
  .inspect (negotiation.config.response.bind HttpResponseTranscript.json) negotiation.configRouting

def commitRoutes (negotiation : RoutingNegotiation) : Except String CatalogRoutes :=
  match negotiation.codec with
  | none => .error "commit routing unavailable after config negotiation"
  | some codec => CatalogRoutes.new adapter negotiation.config.routePrefix codec "commit"

def commitContext (negotiation : RoutingNegotiation) : RecorderContext :=
  ⟨negotiation.authentication.bearerToken, negotiation.authentication.sensitiveValues⟩

def generateKey (needed : Bool) : Probe (Option String) :=
  if needed then do
    let key ← askKey
    return some key
  else return none

/-- The workflow, or the reason it is skipped; the calls it made are kept for the recorder. -/
def executeScenario (fixture : CommitFixture) (createLocations : TableCreateLocations)
    (setting : Setting) (routes : Except String CatalogRoutes) (idempotency : CommitIdempotency)
    (facts : CommitFacts) : Probe (Except String CommitFacts × List Recorded) :=
  match routes, facts.configRouting with
  | .error error, _ => return (.ok (facts.skipCommitScenario error), [])
  | .ok routes, .pass =>
    (executeCommitWorkflow setting routes fixture createLocations idempotency
      facts).run.logged.embed (ProbeCall.operation setting.context.bearerToken)
  | .ok _, fact =>
    return (.ok (facts.skipCommitScenario (fact.explanation "config routing failed")), [])

/-- The transcript of a run that was not cut off. -/
def commitTranscript (negotiation : RoutingNegotiation) (idempotency : CommitIdempotency)
    (facts : CommitFacts) (calls : List Recorded) : CommitTranscript :=
  let recorder := OperationRecorder.after web (commitContext negotiation) calls
  let evidence : CommitEvidence :=
    ⟨negotiation.authentication.transcript, negotiation.config, idempotency.advertisement,
      recorder.operations⟩
  let sensitiveValues := negotiation.authentication.sensitiveValues ++ idempotency.key.toList
  let transcriptSanitized := !containsSensitiveValue (encodeEvidence evidence) sensitiveValues
  let assertions := evaluateAssertions { facts with
    transcriptSanitized := .fromBool transcriptSanitized
      "sanitized evidence still contains a credential, token, or idempotency key" }
  { evidence with
    classification := if passedRequiredAssertions assertions then .pass
      else .fail "one or more required commit-correctness assertions did not pass"
    assertions
    sanitization := ⟨"automated-v1", sortDedup (negotiation.redactions ++ recorder.redactions),
      !transcriptSanitized, false⟩ }

/-- The probe once its routing is negotiated. -/
def runNegotiated (fixture : CommitFixture) (createLocations : TableCreateLocations)
    (negotiation : RoutingNegotiation) : Probe (Except String CommitTranscript) := do
  let advertisement := inspectAdvertisement negotiation
  let operations := optionalCommitOperations adapter
  let key ← generateKey (advertisement.isAdvertised && operations.exactRetryLimitation.isNone)
  let idempotency : CommitIdempotency := ⟨advertisement, operations, key⟩
  let facts := CommitFacts.new negotiation.authentication.failure.isNone negotiation.configRouting
    advertisement.fact
  let executed ← executeScenario fixture createLocations ⟨web, commitContext negotiation⟩
    (commitRoutes adapter negotiation) idempotency facts
  return executed.1.map fun facts =>
    commitTranscript web encodeEvidence negotiation idempotency facts executed.2

def runCommitProbe (fixture : CommitFixture) (getenv : String → Option String) :
    Probe (Except String CommitTranscript) :=
  match firstRequiredLimitation adapter with
  | some limitation => return unsupportedTranscript web adapter limitation
  | none =>
    match TableCreateLocations.new web adapter.createTableLocation with
    | .error error => return .error error
    | .ok createLocations => do
      let negotiated ← negotiateRouting web adapter getenv
      match negotiated with
      | .error error => return .error error
      | .ok negotiation =>
        runNegotiated web encodeEvidence adapter fixture createLocations negotiation

end Probe

end CatalogBench.Conformance.Commit
