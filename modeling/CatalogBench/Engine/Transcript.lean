import CatalogBench.Engine.Canonical
import CatalogBench.Engine.Evidence
import CatalogBench.Engine.Soundness

/-!
# Engine transcripts

A transcript binds the evidence of an engine run to the profile and the scenario of the run. Before
one is returned its string values are searched for every secret that was read, and whoever reads
one later validates it against the same contracts.
-/

set_option linter.all false

namespace CatalogBench.Engine
open CatalogBench.Contract CatalogBench.Common Json MachineInt Interaction
open CatalogBench.Commit (PolicyError)

def sanitizationPolicy : String := "catalog-bench/value-safe-engine-v1"
def rawBearerPrefix : String := "Bearer "

-- ════════════════════════════════
-- Errors
-- ════════════════════════════════

inductive EngineTranscriptValidationFailureKind
  | format | scenario | contractDigests | profile | policy | components | fixture | execution
  | sanitization
  deriving DecidableEq

structure EngineTranscriptValidationFailure where
  kind : EngineTranscriptValidationFailureKind
  deriving DecidableEq

inductive EngineSanitizationViolation
  | serialization | sensitiveRuntimeValue | rawCredentialForm | rawEngineRow | contractBinding
  deriving DecidableEq

inductive EngineEvidenceErrorKind
  | profileContract | scenarioContract | profileDocumentKind | scenarioDocumentKind | policy
  | profileComponent | sanitization | validation
  deriving DecidableEq

/-- An error with its source. -/
inductive EngineEvidenceError
  | fixed (kind : EngineEvidenceErrorKind)
  | policy (error : PolicyError)
  | sanitization (violation : EngineSanitizationViolation)
  | validation (failure : EngineTranscriptValidationFailure)
  deriving DecidableEq

def EngineEvidenceError.kind : EngineEvidenceError → EngineEvidenceErrorKind
  | fixed kind => kind
  | policy _ => .policy
  | sanitization _ => .sanitization
  | validation _ => .validation

-- ════════════════════════════════
-- Contracts
-- ════════════════════════════════

structure ContractDigests where
  profileSha256 : String
  scenarioSha256 : String
  deriving DecidableEq

/-- The contracts of a run. Only valid documents get this far. -/
structure EngineContracts (crates : EngineCrates) where
  profile : Profile
  scenario : Scenario
  digests : ContractDigests
  profileValid : profile.collectIssues crates.toCrates "$" = []
  scenarioValid : scenario.collectIssues "$" = []

namespace EngineContracts

variable {crates : EngineCrates}

def parse (crates : EngineCrates) (profileBytes scenarioBytes : List UInt8) :
    Except EngineEvidenceError (EngineContracts crates) :=
  match hprofile : parseContract crates.toContractCrates profileBytes with
  | .error _ => .error (.fixed .profileContract)
  | .ok (.profile profile) =>
    match hscenario : parseContract crates.toContractCrates scenarioBytes with
    | .error _ => .error (.fixed .scenarioContract)
    | .ok (.scenario scenario) =>
      .ok { profile, scenario
            digests := ⟨crates.sha256Hex profileBytes, crates.sha256Hex scenarioBytes⟩
            profileValid := parseContract_valid hprofile
            scenarioValid := parseContract_valid hscenario }
    | .ok _ => .error (.fixed .scenarioDocumentKind)
  | .ok _ => .error (.fixed .profileDocumentKind)

def plan (contracts : EngineContracts crates) (catalog : ComponentId) (fixtureId : String) :
    Except EngineEvidenceError InteroperabilityPlan :=
  (InteroperabilityPlan.fromContracts crates contracts.profile contracts.scenario catalog
    fixtureId).mapError .policy

end EngineContracts

-- ════════════════════════════════
-- Transcripts
-- ════════════════════════════════

structure TranscriptScenario where
  id : ScenarioId
  version : ℕ
  deriving DecidableEq

structure EngineTranscriptProfile where
  id : ProfileId
  resolvedAt : String
  deriving DecidableEq

structure EngineTranscriptComponent where
  id : ComponentId
  name : String
  version : String
  sourceRevision : Option String
  deriving DecidableEq

namespace EngineTranscriptComponent

def fromIdentity (identity : ComponentIdentity) : EngineTranscriptComponent where
  id := identity.id
  name := identity.name
  version := identity.version
  sourceRevision := identity.sourceRevision

def fromComponent (component : Component) : EngineTranscriptComponent where
  id := component.id
  name := component.name
  version := component.version
  sourceRevision := component.source.map (·.revision)

end EngineTranscriptComponent

structure EngineTranscriptComponents where
  runner : EngineTranscriptComponent
  catalog : EngineTranscriptComponent
  engine : EngineTranscriptComponent
  connector : EngineTranscriptComponent
  objectStore : EngineTranscriptComponent
  deriving DecidableEq

structure EngineTranscriptFixture where
  id : String
  «namespace» : String
  table : String
  requestedLocation : Option String
  deriving DecidableEq

structure EngineTranscriptSanitization where
  policy : String
  negotiationRedactionsObserved : ℕ
  rawSecretsPersisted : Bool
  rawEngineRowsPersisted : Bool
  rawResponseBodyPersisted : Bool
  rawBackendFailureDetailPersisted : Bool
  transcriptSanitized : Bool
  deriving DecidableEq

def EngineTranscriptSanitization.passed (sanitization : EngineTranscriptSanitization) : Bool :=
  sanitization.policy = sanitizationPolicy && !sanitization.rawSecretsPersisted &&
    !sanitization.rawEngineRowsPersisted && !sanitization.rawResponseBodyPersisted &&
    !sanitization.rawBackendFailureDetailPersisted && sanitization.transcriptSanitized

structure EngineTranscript where
  format : String
  scenario : TranscriptScenario
  contractDigests : ContractDigests
  profile : EngineTranscriptProfile
  components : EngineTranscriptComponents
  fixture : EngineTranscriptFixture
  execution : EngineExecution
  sanitization : EngineTranscriptSanitization
  deriving DecidableEq

/-- The runner of the plan, or the container runtime of a profile without one. -/
def expectedComponents (profile : Profile) (plan : InteroperabilityPlan) :
    Option EngineTranscriptComponents := do
  let runner ←
    match plan.runner with
    | some runner => some (EngineTranscriptComponent.fromIdentity runner)
    | none =>
      profile.platform.containerRuntime.bind fun runtime =>
        (profile.components.find? fun component => component.id = runtime).map
          EngineTranscriptComponent.fromComponent
  let objectStore ← profile.components.find? fun component =>
    component.id = plan.objectStore.component
  return { runner
           catalog := .fromIdentity plan.catalog
           engine := .fromIdentity plan.engine
           connector := .fromIdentity plan.connector
           objectStore := .fromComponent objectStore }

def negotiationRedactions (execution : EngineExecution) : ℕ :=
  match execution.catalogConnection with
  | .ready negotiation | .failed (some negotiation) _ => negotiation.redactionsObserved
  | .notAttempted _ | .failed none _ => 0

/-- The fixture of a plan under its id. -/
def EngineTranscriptFixture.ofPlan (plan : InteroperabilityPlan) (id : String) :
    EngineTranscriptFixture where
  id := id
  «namespace» := plan.fixture.namespace
  table := plan.fixture.table
  requestedLocation := plan.fixture.requestedLocation

-- ════════════════════════════════
-- Serialization
-- ════════════════════════════════

def EngineTranscriptComponent.toJson (component : EngineTranscriptComponent) : Json :=
  .object (present [("id", some (.string component.id)), ("name", some (.string component.name)),
    ("version", some (.string component.version)),
    ("source_revision", component.sourceRevision.map .string)])

def EngineTranscriptComponents.toJson (components : EngineTranscriptComponents) : Json :=
  .object [("runner", components.runner.toJson), ("catalog", components.catalog.toJson),
    ("engine", components.engine.toJson), ("connector", components.connector.toJson),
    ("object_store", components.objectStore.toJson)]

def EngineTranscriptFixture.toJson (fixture : EngineTranscriptFixture) : Json :=
  .object (present [("id", some (.string fixture.id)),
    ("namespace", some (.string fixture.namespace)), ("table", some (.string fixture.table)),
    ("requested_location", fixture.requestedLocation.map .string)])

def EngineTranscriptSanitization.toJson (sanitization : EngineTranscriptSanitization) : Json :=
  .object [("policy", .string sanitization.policy),
    ("negotiation_redactions_observed", ofNat sanitization.negotiationRedactionsObserved),
    ("raw_secrets_persisted", .bool sanitization.rawSecretsPersisted),
    ("raw_engine_rows_persisted", .bool sanitization.rawEngineRowsPersisted),
    ("raw_response_body_persisted", .bool sanitization.rawResponseBodyPersisted),
    ("raw_backend_failure_detail_persisted", .bool sanitization.rawBackendFailureDetailPersisted),
    ("transcript_sanitized", .bool sanitization.transcriptSanitized)]

def EngineTranscript.toJson (transcript : EngineTranscript) : Json :=
  .object [("format", .string transcript.format),
    ("scenario", .object [("id", .string transcript.scenario.id),
      ("version", ofNat transcript.scenario.version)]),
    ("contract_digests", .object
      [("profile_sha256", .string transcript.contractDigests.profileSha256),
      ("scenario_sha256", .string transcript.contractDigests.scenarioSha256)]),
    ("profile", .object [("id", .string transcript.profile.id),
      ("resolved_at", .string transcript.profile.resolvedAt)]),
    ("components", transcript.components.toJson), ("fixture", transcript.fixture.toJson),
    ("execution", transcript.execution.toJson), ("sanitization", transcript.sanitization.toJson)]

/-- The field names of a transcript outside of its evidence. -/
def transcriptKeys : List String :=
  ["catalog", "components", "connector", "contract_digests", "engine", "execution", "fixture",
    "format", "id", "name", "namespace", "negotiation_redactions_observed", "object_store",
    "policy", "profile", "profile_sha256", "raw_backend_failure_detail_persisted",
    "raw_engine_rows_persisted", "raw_response_body_persisted", "raw_secrets_persisted",
    "requested_location", "resolved_at", "runner", "sanitization", "scenario", "scenario_sha256",
    "source_revision", "table", "transcript_sanitized", "version"]

-- ════════════════════════════════
-- Audits
-- ════════════════════════════════

/-- What a failed audit is reported as, given the word for a forbidden value. -/
def EngineSanitizationViolation.ofAudit (forbidden : EngineSanitizationViolation) :
    SerializedValueAuditFailure → EngineSanitizationViolation
  | .serialization => .serialization
  | .sensitiveValue => .sensitiveRuntimeValue
  | .forbiddenValue => forbidden

/-- The ids of a batch. -/
def batchIds (batch : BatchPolicy) : Option (List ℕ) := do
  let _ ← checkedAdd 64 batch.idStart batch.rows
  return (List.range batch.rows).map (batch.idStart + ·)

/-- The texts of every row that the run writes, before and after the evolution. -/
def canonicalRowValues (crates : EngineCrates) (plan : InteroperabilityPlan) :
    Option (List String) :=
  let scenario := plan.scenario
  match scenario.rowGenerator with
  | ⟨.affine multiplier offset, .moduloLabel modulus label, .idLabel noteLabel⟩ =>
    if modulus = 0 then none
    else do
      let rowValues (id : ℕ) : Option (Json × Json) := do
        let amount ← checkedAdd 64 (← checkedMul 64 id multiplier) offset
        return (.string (label ++ toString (id % modulus)), ofNat amount)
      let initial ← (← batchIds scenario.batches.initial).mapM fun id => do
        let (category, amount) ← rowValues id
        let row ← crates.tupleText [ofNat id, category, amount]
        let evolvedRow ← crates.tupleText [ofNat id, category, amount, .null]
        return [row, evolvedRow]
      let evolved ← (← batchIds scenario.batches.evolved).mapM fun id => do
        let (category, amount) ← rowValues id
        crates.tupleText [ofNat id, category, amount, .string (noteLabel ++ toString id)]
      return sortDedup (initial.flatten ++ evolved)

namespace EngineTranscript

def auditBaseValues (transcript : EngineTranscript) (sensitiveValues : List String) :
    Except EngineSanitizationViolation Unit := do
  (auditSerializedValues (some transcript.toJson) sensitiveValues []).mapError
    (.ofAudit .rawCredentialForm)
  (auditSerializedValues (some transcript.toJson) [] [rawBearerPrefix]).mapError
    (.ofAudit .rawCredentialForm)

def auditWithPlan (crates : EngineCrates) (transcript : EngineTranscript)
    (plan : InteroperabilityPlan) (sensitiveValues : List String) :
    Except EngineSanitizationViolation Unit := do
  transcript.auditBaseValues sensitiveValues
  match canonicalRowValues crates plan with
  | none => .error .contractBinding
  | some rows =>
    (auditSerializedValues (some transcript.toJson) [] rows).mapError (.ofAudit .rawEngineRow)

variable {crates : EngineCrates}

/-- An error under a condition. -/
def failWhen (violated : Bool) (kind : EngineTranscriptValidationFailureKind) :
    Except EngineTranscriptValidationFailure Unit :=
  if violated then .error ⟨kind⟩ else .ok ()

def validate (contracts : EngineContracts crates) (transcript : EngineTranscript) :
    Except EngineTranscriptValidationFailure Unit := do
  failWhen (transcript.format ≠ engineTranscriptFormat) .format
  failWhen (transcript.scenario.id ≠ contracts.scenario.id ||
    transcript.scenario.version ≠ contracts.scenario.version) .scenario
  failWhen (transcript.contractDigests ≠ contracts.digests) .contractDigests
  failWhen (transcript.profile.id ≠ contracts.profile.id ||
    transcript.profile.resolvedAt ≠ contracts.profile.resolvedAt) .profile
  let plan ← (contracts.plan transcript.components.catalog.id transcript.fixture.id).mapError
    fun _ => ⟨.policy⟩
  failWhen (expectedComponents contracts.profile plan ≠ some transcript.components) .components
  failWhen (transcript.fixture ≠ .ofPlan plan transcript.fixture.id) .fixture
  let expectedExecution := transcript.execution.finalize crates.toCrates plan
  failWhen (transcript.execution.checks ≠ expectedExecution.checks ||
    transcript.execution.classification ≠ expectedExecution.classification) .execution
  failWhen (!transcript.sanitization.passed ||
    transcript.sanitization.negotiationRedactionsObserved ≠
      negotiationRedactions transcript.execution ||
    !(auditWithPlan crates transcript plan []).isOk) .sanitization

/-- The transcript of a run before its audit. -/
def unaudited (contracts : EngineContracts crates) (plan : InteroperabilityPlan)
    (fixtureId : String) (execution : EngineExecution) (components : EngineTranscriptComponents) :
    EngineTranscript where
  format := engineTranscriptFormat
  scenario := ⟨contracts.scenario.id, contracts.scenario.version⟩
  contractDigests := contracts.digests
  profile := ⟨contracts.profile.id, contracts.profile.resolvedAt⟩
  components := components
  fixture := .ofPlan plan fixtureId
  execution := execution
  sanitization :=
    { policy := sanitizationPolicy
      negotiationRedactionsObserved := negotiationRedactions execution
      rawSecretsPersisted := false
      rawEngineRowsPersisted := false
      rawResponseBodyPersisted := false
      rawBackendFailureDetailPersisted := false
      transcriptSanitized := false }

/-- The audit is passed. -/
def sanitized (transcript : EngineTranscript) : EngineTranscript :=
  { transcript with sanitization := { transcript.sanitization with transcriptSanitized := true } }

def fromExecution (contracts : EngineContracts crates) (plan : InteroperabilityPlan)
    (fixtureId : String) (execution : EngineExecution) (sensitiveValues : List String) :
    Except EngineEvidenceError EngineTranscript :=
  match expectedComponents contracts.profile plan with
  | none => .error (.fixed .profileComponent)
  | some components => do
    let transcript := unaudited contracts plan fixtureId execution components
    (auditWithPlan crates transcript plan sensitiveValues).mapError .sanitization
    (transcript.sanitized.validate contracts).mapError .validation
    return transcript.sanitized

end EngineTranscript

-- ════════════════════════════════
-- What an accepted transcript holds
-- ════════════════════════════════

namespace EngineTranscript

variable {crates : EngineCrates} {contracts : EngineContracts crates}

theorem auditBaseValues_eq_ok {transcript : EngineTranscript} {sensitiveValues : List String} :
    transcript.auditBaseValues sensitiveValues = .ok () ↔
      Excludes sensitiveValues transcript.toJson.strings ∧
        Excludes [rawBearerPrefix] transcript.toJson.strings := by
  rw [auditBaseValues, except_seq_eq_ok, except_mapError_eq_ok, except_mapError_eq_ok,
    auditSerializedValues_eq_ok, auditSerializedValues_eq_ok]
  simp [Audited]

/-- The audit excludes the sensitive values, raw credentials and complete rows. -/
theorem auditWithPlan_eq_ok {transcript : EngineTranscript} {plan : InteroperabilityPlan}
    {sensitiveValues : List String} :
    auditWithPlan crates transcript plan sensitiveValues = .ok () ↔
      (Excludes sensitiveValues transcript.toJson.strings ∧
        Excludes [rawBearerPrefix] transcript.toJson.strings) ∧
      ∃ rows, canonicalRowValues crates plan = some rows ∧
        Excludes rows transcript.toJson.strings := by
  rw [auditWithPlan, except_seq_eq_ok, auditBaseValues_eq_ok]
  refine and_congr_right fun _ => ?_
  cases canonicalRowValues crates plan with
  | none => simp
  | some rows => simp [except_mapError_eq_ok, Audited]

/-- The mark of the audit is no text. -/
theorem strings_sanitized (transcript : EngineTranscript) :
    transcript.sanitized.toJson.strings = transcript.toJson.strings := by
  simp [sanitized, toJson, EngineTranscriptSanitization.toJson]

theorem keysIn (transcript : EngineTranscript) :
    transcript.toJson.KeysIn (transcriptKeys ++ evidenceKeys ++ transcript.execution.mapKeys) := by
  have htranscript : transcriptKeys ⊆
      transcriptKeys ++ evidenceKeys ++ transcript.execution.mapKeys :=
    List.append_assoc .. ▸ List.subset_append_left _ _
  have hevidence : evidenceKeys ⊆
      transcriptKeys ++ evidenceKeys ++ transcript.execution.mapKeys :=
    List.Subset.trans (List.subset_append_right _ _) (List.subset_append_left _ _)
  have hexecution := transcript.execution.keysIn hevidence (List.subset_append_right _ _)
  generalize transcriptKeys ++ evidenceKeys ++ transcript.execution.mapKeys = vocabulary
    at htranscript hexecution
  have hcomponent (component : EngineTranscriptComponent) : component.toJson.KeysIn vocabulary := by
    refine keysIn_present ?_ (by simp)
    simp only [List.map_cons, List.map_nil]
    exact List.Subset.trans (by decide) htranscript
  have hcomponents : transcript.components.toJson.KeysIn vocabulary := by
    simp only [EngineTranscriptComponents.toJson, keysIn_object, List.map_cons, List.map_nil]
    exact ⟨List.Subset.trans (by decide) htranscript, by simp [hcomponent]⟩
  have hfixture : transcript.fixture.toJson.KeysIn vocabulary := by
    refine keysIn_present ?_ (by simp)
    simp only [List.map_cons, List.map_nil]
    exact List.Subset.trans (by decide) htranscript
  have hsanitization : transcript.sanitization.toJson.KeysIn vocabulary := by
    simp only [EngineTranscriptSanitization.toJson, keysIn_object, List.map_cons, List.map_nil]
    exact ⟨List.Subset.trans (by decide) htranscript, by simp⟩
  have hpair (key key' : String) (value value' : Json) (hkeys : [key, key'] ⊆ transcriptKeys)
      (hvalue : value.KeysIn vocabulary) (hvalue' : value'.KeysIn vocabulary) :
      (Json.object [(key, value), (key', value')]).KeysIn vocabulary := by
    simp only [keysIn_object, List.map_cons, List.map_nil]
    exact ⟨List.Subset.trans hkeys htranscript, by simp [hvalue, hvalue']⟩
  have hscenario := hpair "id" "version" (.string transcript.scenario.id)
    (ofNat transcript.scenario.version) (by decide) (by simp) (by simp)
  have hdigests := hpair "profile_sha256" "scenario_sha256"
    (.string transcript.contractDigests.profileSha256)
    (.string transcript.contractDigests.scenarioSha256) (by decide) (by simp) (by simp)
  have hprofile := hpair "id" "resolved_at" (.string transcript.profile.id)
    (.string transcript.profile.resolvedAt) (by decide) (by simp) (by simp)
  simp only [toJson, keysIn_object, List.map_cons, List.map_nil]
  refine ⟨List.Subset.trans (by decide) htranscript, ?_⟩
  simp [hscenario, hdigests, hprofile, hcomponents, hfixture, hexecution, hsanitization]

theorem fromExecution_eq_ok {plan : InteroperabilityPlan} {fixtureId : String}
    {execution : EngineExecution} {sensitiveValues : List String} {transcript : EngineTranscript} :
    fromExecution contracts plan fixtureId execution sensitiveValues = .ok transcript ↔
      ∃ components, expectedComponents contracts.profile plan = some components ∧
        auditWithPlan crates (unaudited contracts plan fixtureId execution components) plan
          sensitiveValues = .ok () ∧
        transcript.validate contracts = .ok () ∧
        transcript = (unaudited contracts plan fixtureId execution components).sanitized := by
  unfold fromExecution
  cases expectedComponents contracts.profile plan with
  | none => simp
  | some components =>
    simp only [except_seq_eq_ok, except_mapError_eq_ok, pure, Except.pure, Except.ok.injEq,
      Option.some.injEq, exists_eq_left']
    constructor
    · rintro ⟨haudit, hvalid, rfl⟩
      exact ⟨haudit, hvalid, rfl⟩
    · rintro ⟨haudit, hvalid, rfl⟩
      exact ⟨haudit, hvalid, rfl⟩

/-- **Secret-free evidence.** No sensitive value is part of a string value of a transcript, however
deep it is, and every object key is a field name or the key of a map that the engine filled. -/
theorem fromExecution_excludes {plan : InteroperabilityPlan} {fixtureId : String}
    {execution : EngineExecution} {sensitiveValues : List String} {transcript : EngineTranscript}
    (h : fromExecution contracts plan fixtureId execution sensitiveValues = .ok transcript) :
    (∀ text ∈ transcript.toJson.strings, ∀ secret ∈ sensitiveValues, secret ≠ "" →
      ¬secret.toList <:+: text.toList) ∧
    ∀ key ∈ transcript.toJson.keys,
      key ∈ transcriptKeys ∨ key ∈ evidenceKeys ∨ key ∈ execution.mapKeys := by
  obtain ⟨components, -, haudit, -, rfl⟩ := fromExecution_eq_ok.mp h
  obtain ⟨⟨hexcludes, -⟩, -⟩ := auditWithPlan_eq_ok.mp haudit
  refine ⟨by rw [strings_sanitized]; exact hexcludes, fun key hkey => ?_⟩
  have hvocabulary := keysIn _ hkey
  rw [List.append_assoc, List.mem_append, List.mem_append] at hvocabulary
  exact hvocabulary

end EngineTranscript

end CatalogBench.Engine
