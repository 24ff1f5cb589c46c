import CatalogBench.Contract.Scenario
import CatalogBench.Contract.Profile
import CatalogBench.Contract.Result

/-!
# Documents

The manifest of a bundle and the parsing of a contract document: the kind selects the type, the
type is decoded from the JSON value, and a decoded document is validated.
-/

set_option linter.all false

namespace CatalogBench.Contract

-- ════════════════════════════════
-- Manifests
-- ════════════════════════════════

/-- How a result bundle came into existence. -/
inductive Provenance
  | liveRun (runner : ComponentId) (sanitizedInvocation startedAt completedAt : String)
  | historicalImport (sourceDate importedAt explanation : String)
  | fixture (explanation : String)
  deriving DecidableEq

structure RedactionStatement where
  reviewed : Bool
  policy : String
  removedFields : List String
  deriving DecidableEq

/-- Root index for one immutable result bundle. The contract version and the document kind have
one value each. -/
structure ResultBundleManifest where
  id : BundleId
  title : String
  createdAt : String
  provenance : Provenance
  profile : ArtifactReference
  scenarios : List ArtifactReference
  results : List ArtifactReference
  sourceEvidence : List ArtifactReference
  redaction : RedactionStatement
  extensions : StringMap Json

def Provenance.collectIssues (provenance : Provenance) (path : String) : List ValidationIssue :=
  match provenance with
  | liveRun runner sanitizedInvocation startedAt completedAt =>
    requireNonEmpty runner (childPath path "runner") ++
      requireNonEmpty sanitizedInvocation (childPath path "sanitized_invocation") ++
      requireNonEmpty startedAt (childPath path "started_at") ++
      requireNonEmpty completedAt (childPath path "completed_at")
  | historicalImport sourceDate importedAt explanation =>
    requireNonEmpty sourceDate (childPath path "source_date") ++
      requireNonEmpty importedAt (childPath path "imported_at") ++
      requireNonEmpty explanation (childPath path "explanation")
  | fixture explanation => requireNonEmpty explanation (childPath path "explanation")

def ResultBundleManifest.collectIssues (manifest : ResultBundleManifest) (path : String) :
    List ValidationIssue :=
  requireNonEmpty manifest.id (childPath path "id") ++
    requireNonEmpty manifest.title (childPath path "title") ++
    requireNonEmpty manifest.createdAt (childPath path "created_at") ++
    manifest.provenance.collectIssues (childPath path "provenance") ++
    manifest.profile.collectIssues (childPath path "profile") ++
    issueWhen manifest.scenarios.isEmpty (childPath path "scenarios")
      "must contain at least one scenario" ++
    issueWhen manifest.results.isEmpty (childPath path "results")
      "must contain at least one result" ++
    validateArtifacts manifest.scenarios (childPath path "scenarios") ++
    validateArtifacts manifest.results (childPath path "results") ++
    validateArtifacts manifest.sourceEvidence (childPath path "source_evidence") ++
    issueWhen (!manifest.redaction.reviewed) (childPath path "redaction.reviewed")
      "must be true before publication" ++
    requireNonEmpty manifest.redaction.policy (childPath path "redaction.policy")

-- ════════════════════════════════
-- Parsing
-- ════════════════════════════════

inductive ContractDocument
  | scenario (scenario : Scenario)
  | result (result : ResultRecord)
  | profile (profile : Profile)
  | manifest (manifest : ResultBundleManifest)

/-- The name of the kind of a document. -/
def ContractDocument.kind : ContractDocument → String
  | scenario _ => "scenario"
  | result _ => "result"
  | profile _ => "profile"
  | manifest _ => "manifest"

namespace ContractDocument

def asScenario : ContractDocument → Option Scenario
  | scenario document => some document
  | _ => none

def asResult : ContractDocument → Option ResultRecord
  | result document => some document
  | _ => none

def asProfile : ContractDocument → Option Profile
  | profile document => some document
  | _ => none

def asManifest : ContractDocument → Option ResultBundleManifest
  | manifest document => some document
  | _ => none

theorem asScenario_eq_some {document : ContractDocument} {value : Scenario} :
    document.asScenario = some value ↔ document = .scenario value := by
  cases document <;> simp [asScenario]

theorem asResult_eq_some {document : ContractDocument} {value : ResultRecord} :
    document.asResult = some value ↔ document = .result value := by
  cases document <;> simp [asResult]

theorem asProfile_eq_some {document : ContractDocument} {value : Profile} :
    document.asProfile = some value ↔ document = .profile value := by
  cases document <;> simp [asProfile]

theorem asManifest_eq_some {document : ContractDocument} {value : ResultBundleManifest} :
    document.asManifest = some value ↔ document = .manifest value := by
  cases document <;> simp [asManifest]

end ContractDocument

inductive ParseContractError
  | json (error : String)
  | missingKind
  | unknownKind (kind : String)
  | semantic (errors : List ValidationIssue)
  deriving DecidableEq

def ParseContractError.display : ParseContractError → String
  | json error => "invalid contract JSON: " ++ error
  | missingKind => "contract document is missing string `kind`"
  | unknownKind kind => "unknown contract document kind `" ++ kind ++ "`"
  | semantic errors =>
    "contract validation failed: " ++
      "; ".intercalate (errors.map fun issue => issue.path ++ ": " ++ issue.message)

/-- What the contract documents need from outside the repository. -/
structure ContractCrates extends Crates where
  /-- `serde_json::from_slice::<Value>`, or the text of its error. -/
  parseJson : List UInt8 → Except String Json
  /-- `serde_json::from_value` of each document type, or the text of its error. -/
  decodeScenario : Json → Except String Scenario
  decodeResult : Json → Except String ResultRecord
  decodeProfile : Json → Except String Profile
  decodeManifest : Json → Except String ResultBundleManifest
  /-- `str::parse::<f64>` of a text that denotes a finite number. -/
  parseF64 : String → Option ℚ

/-- A decoded document is kept only without issues. -/
def parseTyped {α : Type} (decode : Json → Except String α)
    (collectIssues : α → String → List ValidationIssue) (value : Json) :
    Except ParseContractError α :=
  match decode value with
  | .error error => .error (.json error)
  | .ok document =>
    let issues := collectIssues document "$"
    if issues.isEmpty then .ok document else .error (.semantic issues)

/-- Deserialize and semantically validate any contract document. -/
def parseContract (crates : ContractCrates) (bytes : List UInt8) :
    Except ParseContractError ContractDocument :=
  match crates.parseJson bytes with
  | .error error => .error (.json error)
  | .ok value =>
    match (value.get "kind").bind Json.asStr with
    | none => .error .missingKind
    | some kind =>
      if kind = "scenario" then
        (parseTyped crates.decodeScenario Scenario.collectIssues value).map .scenario
      else if kind = "result" then
        (parseTyped crates.decodeResult (ResultRecord.collectIssues crates.parseF64) value).map
          .result
      else if kind = "profile" then
        (parseTyped crates.decodeProfile (Profile.collectIssues crates.toCrates) value).map .profile
      else if kind = "manifest" then
        (parseTyped crates.decodeManifest ResultBundleManifest.collectIssues value).map .manifest
      else .error (.unknownKind kind)

/-- The document passes the validation of its kind. -/
def ContractDocument.Valid (crates : ContractCrates) : ContractDocument → Prop
  | scenario document => document.collectIssues "$" = []
  | result document => document.collectIssues crates.parseF64 "$" = []
  | profile document => document.collectIssues crates.toCrates "$" = []
  | manifest document => document.collectIssues "$" = []

theorem parseTyped_eq_ok {α : Type} {decode : Json → Except String α}
    {collectIssues : α → String → List ValidationIssue} {value : Json} {document : α}
    (h : parseTyped decode collectIssues value = .ok document) :
    collectIssues document "$" = [] := by
  simp only [parseTyped] at h
  split at h
  · cases h
  · split at h
    case isTrue hempty => cases h; exact List.isEmpty_iff.mp hempty
    case isFalse => cases h

/-- Only valid documents are parsed. -/
theorem parseContract_valid {crates : ContractCrates} {bytes : List UInt8}
    {document : ContractDocument} (h : parseContract crates bytes = .ok document) :
    document.Valid crates := by
  have hmap {α : Type} {decode : Json → Except String α}
      {collectIssues : α → String → List ValidationIssue} {value : Json}
      {wrap : α → ContractDocument}
      (h : (parseTyped decode collectIssues value).map wrap = .ok document) :
      ∃ parsed, collectIssues parsed "$" = [] ∧ document = wrap parsed := by
    cases hparse : parseTyped decode collectIssues value with
    | error error => rw [hparse] at h; cases h
    | ok parsed => rw [hparse] at h; cases h; exact ⟨parsed, parseTyped_eq_ok hparse, rfl⟩
  simp only [parseContract] at h
  split at h
  · cases h
  · split at h
    · cases h
    · split_ifs at h
      · obtain ⟨parsed, hvalid, rfl⟩ := hmap h
        exact hvalid
      · obtain ⟨parsed, hvalid, rfl⟩ := hmap h
        exact hvalid
      · obtain ⟨parsed, hvalid, rfl⟩ := hmap h
        exact hvalid
      · obtain ⟨parsed, hvalid, rfl⟩ := hmap h
        exact hvalid

end CatalogBench.Contract
