import CatalogBench.ContractTool.Admission
import CatalogBench.ContractTool.Timestamp
import CatalogBench.Engine.TranscriptAdmission

/-!
# Reviewed engine evidence

The transcripts of a run are admitted together: one for each catalog adapter of the profile, each in
its canonical encoding and valid under the contracts. A review then describes the run they are of and
names the bytes that were admitted.
-/

set_option linter.all false

namespace CatalogBench.ContractTool
open CatalogBench.Contract Interaction
open CatalogBench.Engine hiding ComponentId

def maxTranscriptBytes : ℕ := 4 * 1024 * 1024
def reviewFormat : String := "catalog-bench/engine-result-review/v1"
def maxReviewBytes : ℕ := 1024 * 1024

-- ════════════════════════════════
-- The file system
-- ════════════════════════════════

inductive EntryKind
  | directory | file | other
  deriving DecidableEq

structure DirectoryEntry where
  path : String
  fileType : Except String EntryKind
  /-- The name, if it is UTF-8. -/
  fileName : Option String

/-- What the calls of `std::fs` return, or the texts of their errors. -/
structure Storage where
  read : Files
  /-- The length that `metadata` tells. -/
  length : String → Except String ℕ
  /-- `symlink_metadata`: what is there, and its length. -/
  symlinkMetadata : String → Except String (EntryKind × ℕ)
  readDir : String → Except String (List (Except String DirectoryEntry))
  canonicalize : String → Except String String

/-- `with_context` of a call. -/
def attempt {α : Type} (message : String) (result : Except String α) : Loading α :=
  match result with
  | .ok value => .ok value
  | .error error => .error [message, error]

/-- `Path::file_name`. -/
def fileName (path : String) : Option String :=
  let last := String.ofList ((trimTrailing path.toList.reverse).takeWhile (· ≠ '/')).reverse
  if last = "" || last = "." || last = ".." then none else some last

/-- `str::split` at slashes. -/
def splitSlashes (text : String) : List String := (text.toList.splitOn '/').map String.ofList

/-- `Path::components`, by which paths are compared. -/
def pathComponents (path : String) : List String :=
  match splitSlashes path with
  | [] => []
  | first :: rest =>
    (if path.isEmpty then [] else if first.isEmpty then ["/"] else [first]) ++
      rest.filter fun part => !part.isEmpty && part ≠ "."

/-- `Path::starts_with`. -/
def pathStartsWith (path base : String) : Bool := (pathComponents base).isPrefixOf (pathComponents path)

-- ════════════════════════════════
-- Reviews
-- ════════════════════════════════

structure ReviewBundle where
  id : String
  title : String
  outputDirectory : String
  createdAt : String
  deriving DecidableEq

structure ReviewSource where
  location : String
  sha256 : String
  bytes : ℕ
  deriving DecidableEq

structure EngineRunReview where
  fixtureId : String
  sanitizedInvocation : String
  startedAt : String
  startedAtBasis : String
  completedAt : String
  completedAtBasis : String
  deriving DecidableEq

structure ReviewedTranscript where
  catalog : ComponentId
  source : ReviewSource
  deriving DecidableEq

structure EngineResultReview where
  format : String
  bundle : ReviewBundle
  run : EngineRunReview
  profile : ReviewSource
  scenario : ReviewSource
  transcripts : List ReviewedTranscript
  environment : EnvironmentManifest
  redaction : RedactionStatement

/-- What the publisher of engine results needs from outside the repository. -/
structure EvidenceCrates extends EngineCrates where
  /-- `serde_json::from_slice` of each type, or the text of its error. -/
  decodeTranscript : List UInt8 → Except String EngineTranscript
  decodeReview : List UInt8 → Except String EngineResultReview
  /-- `serde_json::to_vec_pretty`. -/
  toVecPretty : Json → Except String (List UInt8)

def encodeEvidence (crates : EvidenceCrates) (value : Json) : Except String (List UInt8) :=
  (crates.toVecPretty value).map (· ++ [10])

-- ════════════════════════════════
-- Transcripts
-- ════════════════════════════════

def kindDebug : EngineTranscriptValidationFailureKind → String
  | .format => "Format"
  | .scenario => "Scenario"
  | .contractDigests => "ContractDigests"
  | .profile => "Profile"
  | .policy => "Policy"
  | .components => "Components"
  | .fixture => "Fixture"
  | .execution => "Execution"
  | .sanitization => "Sanitization"

def errorKindDebug : EngineEvidenceErrorKind → String
  | .profileContract => "ProfileContract"
  | .scenarioContract => "ScenarioContract"
  | .profileDocumentKind => "ProfileDocumentKind"
  | .scenarioDocumentKind => "ScenarioDocumentKind"
  | .policy => "Policy"
  | .profileComponent => "ProfileComponent"
  | .sanitization => "Sanitization"
  | .validation => "Validation"

/-- A transcript that was admitted under the contracts. -/
structure ValidatedEngineTranscript {crates : EngineCrates} (contracts : EngineContracts crates) where
  path : String
  bytes : List UInt8
  transcript : EngineTranscript
  valid : transcript.validate contracts = .ok ()

/-- The catalog of a transcript. -/
def ValidatedEngineTranscript.catalog {crates : EngineCrates} {contracts : EngineContracts crates}
    (admitted : ValidatedEngineTranscript contracts) : ComponentId :=
  admitted.transcript.components.catalog.id

/-- The transcripts of one run, each of another catalog. -/
structure ValidatedEngineEvidenceSet (crates : EngineCrates) where
  contracts : EngineContracts crates
  profileBytes : List UInt8
  scenarioBytes : List UInt8
  fixtureId : String
  transcripts : List (ValidatedEngineTranscript contracts)
  catalogs : (transcripts.map (·.catalog)).Nodup

structure EngineEvidenceSummary where
  total : ℕ
  pass : ℕ
  fail : ℕ
  fixtureCollision : ℕ
  deriving DecidableEq

def EngineEvidenceSummary.count (summary : EngineEvidenceSummary) :
    EngineBehaviorClassification → EngineEvidenceSummary
  | .pass => { summary with pass := summary.pass + 1 }
  | .fail => { summary with fail := summary.fail + 1 }
  | .fixtureCollision => { summary with fixtureCollision := summary.fixtureCollision + 1 }

def ValidatedEngineEvidenceSet.summary {crates : EngineCrates}
    (evidence : ValidatedEngineEvidenceSet crates) : EngineEvidenceSummary :=
  evidence.transcripts.foldl
    (fun summary admitted => summary.count admitted.transcript.execution.classification)
    ⟨evidence.transcripts.length, 0, 0, 0⟩

/-- The catalogs of a profile, by the names of the files that hold their transcripts. -/
structure ExpectedFiles where
  files : StringMap ComponentId
  named : ∀ name catalog, files[name]? = some catalog → name = catalog ++ ".json"

def ExpectedFiles.empty : ExpectedFiles where
  files := ∅
  named _ _ h := by simp at h

def ExpectedFiles.insert (expected : ExpectedFiles) (catalog : ComponentId) : ExpectedFiles where
  files := expected.files.insert (catalog ++ ".json") catalog
  named name other h := by
    rw [Std.ExtTreeMap.getElem?_insert] at h
    split at h
    · next heq =>
      rw [compare_eq_iff_eq] at heq
      rw [← heq, Option.some.inj h]
    · exact expected.named name other h

/-- Different files are of different catalogs. -/
theorem ExpectedFiles.nodup (expected : ExpectedFiles) :
    (expected.files.toList.map (·.2)).Nodup := by
  have hkeys : (expected.files.toList.map (·.1)).Nodup := by
    rw [Std.ExtTreeMap.map_fst_toList_eq_keys]
    exact Std.ExtTreeMap.nodup_keys
  have hnamed : expected.files.toList.map (·.1) =
      (expected.files.toList.map (·.2)).map (· ++ ".json") := by
    rw [List.map_map]
    refine List.map_congr_left fun entry hentry => ?_
    exact expected.named _ _ (Std.ExtTreeMap.mem_toList_iff_getElem?_eq_some.mp hentry)
  rw [hnamed] at hkeys
  exact hkeys.of_map _

section Admission

variable (crates : EvidenceCrates) (storage : Storage)

def readContract (path kind : String) : Loading (List UInt8) :=
  attempt ("failed to read engine " ++ kind ++ " " ++ path) (storage.read path)

/-- The contracts of the two documents. Parsing them fails with an error that has no source. -/
def parseContracts (profileBytes scenarioBytes : List UInt8) :
    Loading (EngineContracts crates.toEngineCrates) :=
  match EngineContracts.parse crates.toEngineCrates profileBytes scenarioBytes with
  | .ok contracts => .ok contracts
  | .error error =>
    .error ["invalid engine interoperability contracts",
      "engine evidence failed: " ++ errorKindDebug error.kind]

def expectedTranscriptFiles (profile : Profile) : Loading ExpectedFiles := do
  let expected ← profile.catalogAdapters.foldlM (fun expected adapter => do
    bailWhen (expected.files.contains (adapter.catalog ++ ".json"))
      ("profile contains duplicate catalog adapter `" ++ adapter.catalog ++ "`")
    pure (expected.insert adapter.catalog)) ExpectedFiles.empty
  bailWhen expected.files.isEmpty "profile selects no catalog adapters"
  pure expected

/-- The path of each file, by its name. -/
def transcriptFiles (directory : String) : Loading (StringMap String) := do
  let (kind, _) ← attempt ("failed to inspect evidence directory " ++ directory)
    (storage.symlinkMetadata directory)
  bailWhen (kind ≠ .directory) ("engine evidence path is not a directory: " ++ directory)
  let entries ← attempt ("failed to list evidence directory " ++ directory)
    (storage.readDir directory)
  entries.foldlM (fun files entry => do
    let entry ← attempt ("failed to read entry in " ++ directory) entry
    let kind ← attempt ("failed to inspect " ++ entry.path) entry.fileType
    bailWhen (kind ≠ .file) ("engine evidence entry is not a regular file: " ++ entry.path)
    let name ← orBail "engine evidence file name is not UTF-8" entry.fileName
    bailWhen (files.contains name) ("duplicate engine evidence file name `" ++ name ++ "`")
    pure (files.insert name entry.path)) ∅

def requireExactFileSet (expected : StringMap ComponentId) (actual : StringMap String)
    (directory : String) : Loading Unit :=
  let missing := expected.keys.filter fun name => !actual.contains name
  let unexpected := actual.keys.filter fun name => !expected.contains name
  bailWhen (!missing.isEmpty || !unexpected.isEmpty)
    ("engine evidence set " ++ directory ++ " differs from profile: missing [" ++
      ", ".intercalate missing ++ "], unexpected [" ++ ", ".intercalate unexpected ++ "]")

def readBoundedTranscript (path : String) : Loading (List UInt8) := do
  let length ← attempt ("failed to inspect engine transcript " ++ path) (storage.length path)
  bailWhen (length = 0 || length > maxTranscriptBytes)
    ("engine transcript " ++ path ++ " has " ++ toString length ++ " bytes; expected 1 to " ++
      toString maxTranscriptBytes)
  let bytes ← attempt ("failed to read engine transcript " ++ path) (storage.read path)
  bailWhen (bytes.length ≠ length) ("engine transcript changed while reading: " ++ path)
  pure bytes

/-- The transcript of one catalog, read from its file. -/
def admitTranscript (contracts : EngineContracts crates.toEngineCrates) (fixtureId path : String)
    (catalog : ComponentId) : Loading (ValidatedEngineTranscript contracts) := do
  let bytes ← readBoundedTranscript storage path
  let transcript ← attempt ("invalid engine transcript JSON in " ++ path)
    (crates.decodeTranscript bytes)
  bailWhen (transcript.components.catalog.id ≠ catalog)
    (path ++ " contains catalog `" ++ transcript.components.catalog.id ++ "`, expected `" ++
      catalog ++ "`")
  bailWhen (transcript.fixture.id ≠ fixtureId)
    (path ++ " contains fixture `" ++ transcript.fixture.id ++ "`, expected `" ++ fixtureId ++ "`")
  let canonical ← attempt ("failed to re-encode engine transcript " ++ path)
    (encodeEvidence crates transcript.toJson)
  bailWhen (bytes ≠ canonical)
    ("engine transcript is not in canonical newline-terminated encoding: " ++ path)
  match hvalid : transcript.validate contracts with
  | .ok () => pure ⟨path, bytes, transcript, hvalid⟩
  | .error failure =>
    .error ["invalid engine transcript " ++ path,
      "engine transcript validation failed: " ++ kindDebug failure.kind]

theorem admitTranscript_catalog {contracts : EngineContracts crates.toEngineCrates}
    {fixtureId path : String} {catalog : ComponentId}
    {admitted : ValidatedEngineTranscript contracts}
    (h : admitTranscript crates storage contracts fixtureId path catalog = .ok admitted) :
    admitted.catalog = catalog := by
  obtain ⟨bytes, -, h⟩ := except_bind_eq_ok.mp h
  obtain ⟨transcript, -, h⟩ := except_bind_eq_ok.mp h
  obtain ⟨hcatalog, h⟩ := except_seq_eq_ok.mp h
  obtain ⟨-, h⟩ := except_seq_eq_ok.mp h
  obtain ⟨canonical, -, h⟩ := except_bind_eq_ok.mp h
  obtain ⟨-, h⟩ := except_seq_eq_ok.mp h
  rw [bailWhen_eq_ok, decide_eq_false_iff_not, not_not] at hcatalog
  split at h
  · cases h
    exact hcatalog
  · cases h

/-- The transcripts of the expected files. -/
def admitTranscripts (contracts : EngineContracts crates.toEngineCrates) (fixtureId : String)
    (expected : ExpectedFiles) (actual : StringMap String) :
    Loading (List (ValidatedEngineTranscript contracts)) :=
  expected.files.toList.mapM fun (fileName, catalog) => do
    let path ← orBail "exact transcript set changed during admission" actual[fileName]?
    admitTranscript crates storage contracts fixtureId path catalog

theorem admitTranscripts_catalogs {contracts : EngineContracts crates.toEngineCrates}
    {fixtureId : String} {expected : ExpectedFiles} {actual : StringMap String}
    {transcripts : List (ValidatedEngineTranscript contracts)}
    (h : admitTranscripts crates storage contracts fixtureId expected actual = .ok transcripts) :
    (transcripts.map (·.catalog)).Nodup := by
  have hcatalogs : transcripts.map (·.catalog) = expected.files.toList.map (·.2) := by
    refine ListRel.forall₂_map_eq (except_mapM_forall₂ h) fun entry admitted hadmitted => ?_
    obtain ⟨path, -, hadmitted⟩ := except_bind_eq_ok.mp hadmitted
    exact admitTranscript_catalog crates storage hadmitted
  rw [hcatalogs]
  exact expected.nodup

/-- Admit exactly one transcript for every catalog adapter selected by a profile. -/
def validateEngineEvidenceSet (profilePath scenarioPath evidenceDirectory fixtureId : String) :
    Loading (ValidatedEngineEvidenceSet crates.toEngineCrates) := do
  let profileBytes ← readContract storage profilePath "profile"
  let scenarioBytes ← readContract storage scenarioPath "scenario"
  let contracts ← parseContracts crates profileBytes scenarioBytes
  let expected ← expectedTranscriptFiles contracts.profile
  let actual ← transcriptFiles storage evidenceDirectory
  requireExactFileSet expected.files actual evidenceDirectory
  match htranscripts : admitTranscripts crates storage contracts fixtureId expected actual with
  | .error chain => .error chain
  | .ok transcripts =>
    pure { contracts, profileBytes, scenarioBytes, fixtureId, transcripts
           catalogs := admitTranscripts_catalogs crates storage htranscripts }

end Admission

end CatalogBench.ContractTool
