import CatalogBench.ContractTool.EngineEvidence

/-!
# Engine reviews

A review says when a run took place and on what machine, and it names the files of its evidence by
their digests. It is accepted together with the evidence set that it names.
-/

set_option linter.all false

namespace CatalogBench.ContractTool
open CatalogBench.Contract Interaction
open CatalogBench.Engine hiding ComponentId

-- ════════════════════════════════
-- The shape of a review
-- ════════════════════════════════

def requireText (value name : String) : Loading Unit :=
  bailWhen (isBlank value) (name ++ " must not be empty")

/-- `parse_utc_timestamp`, which never panics. -/
def readTimestamp (value name : String) : Loading Timestamp.UtcTimestamp :=
  match Timestamp.parseUtcTimestamp value name with
  | .ok timestamp => .ok timestamp
  | .error .panic => .error []
  | .error (.invalid message) => bail message

/-- `Validate::validate` of what collected the issues. -/
def requireNoIssues (issues : List ValidationIssue) : Loading Unit :=
  bailWhen (!issues.isEmpty)
    ("; ".intercalate (issues.map fun issue => issue.path ++ ": " ++ issue.message))

def isAsciiControl (byte : UInt8) : Bool := byte < 32 || byte = 127

def relativePath (location name : String) : Loading Unit := do
  requireText location name
  bailWhen (location.toList.any (fun c => c = '\\' || c = ':') ||
    (utf8 location).any isAsciiControl) (name ++ " must be a portable repository-relative path")
  bailWhen ((splitSlashes location).any fun component =>
    component.isEmpty || component = "." || component = "..")
    (name ++ " must be a normalized repository-relative path")

def validateResultOutputDirectory (location : String) : Loading Unit := do
  relativePath location "bundle output directory"
  match splitSlashes location with
  | "results" :: "v1" :: _ :: _ => pure ()
  | _ => bail "bundle output directory must be below results/v1"

def validateSource (source : ReviewSource) (name : String) : Loading Unit := do
  relativePath source.location name
  bailWhen (source.bytes = 0) (name ++ " byte count must be greater than zero")
  bailWhen (!validSha256 source.sha256)
    (name ++ " SHA-256 must contain 64 lowercase hexadecimal characters")

/-- The loop over the transcripts, after one of the given catalog. -/
def validateTranscriptsAfter : Option ComponentId → List ReviewedTranscript → Loading Unit
  | _, [] => pure ()
  | previous, transcript :: transcripts => do
    bailWhen (previous.any (transcript.catalog ≤ ·))
      "reviewed transcript catalogs must be unique and strictly sorted"
    validateSource transcript.source ("transcript source for " ++ transcript.catalog)
    bailWhen (fileName transcript.source.location ≠ some (transcript.catalog ++ ".json"))
      ("reviewed transcript for `" ++ transcript.catalog ++ "` must be named `" ++
        transcript.catalog ++ ".json`")
    validateTranscriptsAfter (some transcript.catalog) transcripts

def validateTranscriptReviewOrder (transcripts : List ReviewedTranscript) : Loading Unit := do
  bailWhen transcripts.isEmpty "engine result review contains no transcripts"
  validateTranscriptsAfter none transcripts

/-- The loop over the removed fields, after the given ones. -/
def validateRemovedFieldsAfter : List String → List String → Loading Unit
  | _, [] => pure ()
  | seen, field :: fields => do
    requireText field "removed field category"
    bailWhen (seen.contains field) "redaction review contains a duplicate removed field category"
    validateRemovedFieldsAfter (field :: seen) fields

def validateReviewShape (review : EngineResultReview) : Loading Unit := do
  bailWhen (review.format ≠ reviewFormat) "engine result review has an unsupported format"
  requireText review.bundle.id "bundle id"
  requireText review.bundle.title "bundle title"
  validateResultOutputDirectory review.bundle.outputDirectory
  requireText review.run.fixtureId "run fixture id"
  requireText review.run.startedAtBasis "run started_at basis"
  requireText review.run.completedAtBasis "run completed_at basis"
  let createdAt ← readTimestamp review.bundle.createdAt "bundle created_at"
  let startedAt ← readTimestamp review.run.startedAt "run started_at"
  let completedAt ← readTimestamp review.run.completedAt "run completed_at"
  bailWhen (compare startedAt completedAt ≠ .lt || compare completedAt createdAt ≠ .lt)
    "reviewed run and bundle timestamps are not strictly ordered"
  validateSource review.profile "profile source"
  validateSource review.scenario "scenario source"
  validateTranscriptReviewOrder review.transcripts
  withContext "invalid reviewed engine environment"
    (requireNoIssues (review.environment.collectIssues "$"))
  bailWhen (!review.redaction.reviewed) "engine result review has not completed redaction review"
  requireText review.redaction.policy "redaction policy"
  bailWhen review.redaction.removedFields.isEmpty
    "redaction review must name at least one removed field category"
  validateRemovedFieldsAfter [] review.redaction.removedFields

/-- A review of an admitted evidence set. -/
structure ValidatedEngineResultReview (crates : EngineCrates) where
  reviewPath : String
  reviewBytes : List UInt8
  review : EngineResultReview
  evidence : ValidatedEngineEvidenceSet crates
  shape : validateReviewShape review = .ok ()

-- ════════════════════════════════
-- Against the evidence
-- ════════════════════════════════

section Evidence

variable (crates : EvidenceCrates) (storage : Storage)

def readBoundedReview (path : String) : Loading (List UInt8) := do
  let (kind, length) ← attempt ("failed to inspect engine result review " ++ path)
    (storage.symlinkMetadata path)
  bailWhen (kind ≠ .file) ("engine result review is not a regular file: " ++ path)
  bailWhen (length = 0 || length > maxReviewBytes)
    ("engine result review " ++ path ++ " has " ++ toString length ++ " bytes; expected 1 to " ++
      toString maxReviewBytes)
  let bytes ← attempt ("failed to read engine result review " ++ path) (storage.read path)
  bailWhen (bytes.length ≠ length) ("engine result review changed while reading: " ++ path)
  pure bytes

def resolveSource (repositoryRoot : String) (source : ReviewSource) (name : String) :
    Loading String := do
  relativePath source.location name
  pure (join repositoryRoot source.location)

def reviewedTranscriptDirectory (repositoryRoot : String)
    (transcripts : List ReviewedTranscript) : Loading String := do
  let first ← orBail "engine result review contains no transcripts" transcripts.head?
  let directory ← orBail "reviewed transcript has no parent directory"
    (parent first.source.location)
  bailWhen (transcripts.tail.any fun transcript =>
    parent transcript.source.location ≠ some directory)
    "all reviewed engine transcripts must share one evidence directory"
  pure (join repositoryRoot directory)

def requireWithinRepository (canonicalRoot path name : String) : Loading Unit := do
  let canonical ← attempt ("failed to resolve " ++ name ++ " " ++ path) (storage.canonicalize path)
  bailWhen (!pathStartsWith canonical canonicalRoot)
    (name ++ " resolves outside the repository root: " ++ path)

def canonicalInteroperabilityLauncher (engineName : String) : Loading String :=
  match engineName with
  | "Apache Spark" => .ok "docker/run-spark-interoperability.sh"
  | "Apache Flink" => .ok "docker/run-flink-interoperability.sh"
  | "Trino" => .ok "docker/run-trino-interoperability.sh"
  | "DuckDB" => .ok "docker/run-duckdb-interoperability.sh"
  | _ => bail "reviewed engine has no canonical interoperability launcher"

/-- The first transcript is there: an evidence set is not empty. -/
def validateReviewedInvocation (review : EngineResultReview)
    (evidence : ValidatedEngineEvidenceSet crates.toEngineCrates) : Loading Unit := do
  let first ← orBail "index out of bounds" evidence.transcripts.head?
  let launcher ← canonicalInteroperabilityLauncher first.transcript.components.engine.name
  bailWhen (review.run.sanitizedInvocation ≠ launcher ++ " \"" ++ review.run.fixtureId ++ "\"")
    "reviewed invocation does not match the canonical engine launcher"

def verifySourceBytes (source : ReviewSource) (bytes : List UInt8) (name : String) :
    Loading Unit :=
  let actual := crates.sha256Hex bytes
  bailWhen (source.bytes ≠ bytes.length || source.sha256 ≠ actual)
    ("reviewed " ++ name ++ " identity differs from admitted bytes: expected " ++ source.sha256 ++
      "/" ++ toString source.bytes ++ ", got " ++ actual ++ "/" ++ toString bytes.length)

def verifyTranscriptSources (repositoryRoot : String) (reviewed : List ReviewedTranscript)
    (evidence : ValidatedEngineEvidenceSet crates.toEngineCrates) : Loading Unit := do
  let reviewed := keyed ReviewedTranscript.catalog reviewed
  bailWhen (reviewed.size ≠ evidence.transcripts.length)
    "reviewed transcripts do not cover the admitted catalog set"
  evidence.transcripts.forM fun admitted => do
    let source ← orBail ("review omits admitted transcript for `" ++ admitted.catalog ++ "`")
      reviewed[admitted.catalog]?
    let expectedPath ← resolveSource repositoryRoot source.source "transcript source"
    bailWhen (pathComponents admitted.path ≠ pathComponents expectedPath)
      ("reviewed transcript path differs from admitted path for `" ++ admitted.catalog ++ "`")
    verifySourceBytes crates source.source admitted.bytes
      ("transcript for `" ++ admitted.catalog ++ "`")

def Captured.isExact {α : Type} : Captured α → Bool
  | .exact _ => true
  | _ => false

def verifyEnvironment (environment : EnvironmentManifest) (profile : Profile) : Loading Unit := do
  bailWhen (environment.operatingSystem ≠ profile.platform.operatingSystem ||
    environment.architecture ≠ profile.platform.architecture ||
    environment.network ≠ profile.platform.network)
    "reviewed environment differs from the runnable profile platform"
  bailWhen (!Captured.isExact environment.containerRuntime)
    "live engine review requires an exact container runtime capture"

/-- Validate one bounded review and every source identity it claims. -/
def validateEngineResultReview (repositoryRoot reviewPath : String) :
    Loading (ValidatedEngineResultReview crates.toEngineCrates) := do
  let reviewPath := join repositoryRoot reviewPath
  let reviewBytes ← readBoundedReview storage reviewPath
  let review ← attempt ("invalid engine result review JSON in " ++ reviewPath)
    (crates.decodeReview reviewBytes)
  bailWhen (reviewBytes.getLast? ≠ some 10)
    ("engine result review is not newline-terminated: " ++ reviewPath)
  match hshape : validateReviewShape review with
  | .error chain => .error chain
  | .ok () =>
    let canonicalRoot ← attempt ("failed to resolve repository root " ++ repositoryRoot)
      (storage.canonicalize repositoryRoot)
    let profilePath ← resolveSource repositoryRoot review.profile "profile"
    let scenarioPath ← resolveSource repositoryRoot review.scenario "scenario"
    let evidenceDirectory ← reviewedTranscriptDirectory repositoryRoot review.transcripts
    requireWithinRepository storage canonicalRoot profilePath "profile source"
    requireWithinRepository storage canonicalRoot scenarioPath "scenario source"
    requireWithinRepository storage canonicalRoot evidenceDirectory "transcript source directory"
    let evidence ← validateEngineEvidenceSet crates storage profilePath scenarioPath
      evidenceDirectory review.run.fixtureId
    validateReviewedInvocation crates review evidence
    verifySourceBytes crates review.profile evidence.profileBytes "profile"
    verifySourceBytes crates review.scenario evidence.scenarioBytes "scenario"
    verifyTranscriptSources crates repositoryRoot review.transcripts evidence
    verifyEnvironment review.environment evidence.contracts.profile
    pure { reviewPath, reviewBytes, review, evidence, shape := hshape }

end Evidence

-- ════════════════════════════════
-- What the shape says
-- ════════════════════════════════

@[simp] theorem requireText_eq_ok {value name : String} {done : Unit} :
    requireText value name = .ok done ↔ isBlank value = false := bailWhen_eq_ok

@[simp] theorem requireNoIssues_eq_ok {issues : List ValidationIssue} {done : Unit} :
    requireNoIssues issues = .ok done ↔ issues = [] := by
  rw [requireNoIssues, bailWhen_eq_ok, Bool.not_eq_false', List.isEmpty_iff]

/-- A timestamp is not blank. -/
theorem readTimestamp_nonblank {value name : String} {timestamp : Timestamp.UtcTimestamp}
    (h : readTimestamp value name = .ok timestamp) : isBlank value = false := by
  rcases Timestamp.exists_render value name with ⟨text, rfl⟩ | herror
  · have hmark : 'T' ∈ text.render.toList := by
      rw [Timestamp.TimestampText.render, String.toList_ofList, Timestamp.TimestampText.spell]
      simp
    rw [isBlank, List.all_eq_false]
    exact ⟨'T', hmark, by decide⟩
  · rw [readTimestamp, herror] at h
    cases h

/-- What is copied from a review to the results of its run. -/
structure ReviewShape (review : EngineResultReview) : Prop where
  bundleId : isBlank review.bundle.id = false
  startedAt : isBlank review.run.startedAt = false
  completedAt : isBlank review.run.completedAt = false
  environment : review.environment.collectIssues "$" = []
  reviewed : review.redaction.reviewed = true

theorem validateReviewShape_eq_ok {review : EngineResultReview}
    (h : validateReviewShape review = .ok ()) : ReviewShape review := by
  obtain ⟨-, h⟩ := except_seq_eq_ok.mp h
  obtain ⟨hbundle, h⟩ := except_seq_eq_ok.mp h
  obtain ⟨-, h⟩ := except_seq_eq_ok.mp h
  obtain ⟨-, h⟩ := except_seq_eq_ok.mp h
  obtain ⟨-, h⟩ := except_seq_eq_ok.mp h
  obtain ⟨-, h⟩ := except_seq_eq_ok.mp h
  obtain ⟨-, h⟩ := except_seq_eq_ok.mp h
  obtain ⟨_, -, h⟩ := except_bind_eq_ok.mp h
  obtain ⟨_, hstarted, h⟩ := except_bind_eq_ok.mp h
  obtain ⟨_, hcompleted, h⟩ := except_bind_eq_ok.mp h
  obtain ⟨-, h⟩ := except_seq_eq_ok.mp h
  obtain ⟨-, h⟩ := except_seq_eq_ok.mp h
  obtain ⟨-, h⟩ := except_seq_eq_ok.mp h
  obtain ⟨-, h⟩ := except_seq_eq_ok.mp h
  obtain ⟨henvironment, h⟩ := except_seq_eq_ok.mp h
  obtain ⟨hreviewed, -⟩ := except_seq_eq_ok.mp h
  exact { bundleId := requireText_eq_ok.mp hbundle
          startedAt := readTimestamp_nonblank hstarted
          completedAt := readTimestamp_nonblank hcompleted
          environment := requireNoIssues_eq_ok.mp (withContext_eq_ok.mp henvironment)
          reviewed := by simpa using hreviewed }

end CatalogBench.ContractTool
