import CatalogBench.Contract.Document
import CatalogBench.Library.Interaction

/-!
# Result bundles

A bundle is loaded from its manifest: every referenced file is read and checked against its
digest, every document is parsed, and every result is compared with the profile and with the
scenario it evaluates. Files are a function of their path.
-/

set_option linter.all false

namespace CatalogBench.ContractTool
open CatalogBench.Contract Interaction

-- ════════════════════════════════
-- Paths
-- ════════════════════════════════

/-- Trailing separators and trailing `.` components go, of the reversed text of a path. -/
def trimTrailing : List Char → List Char
  | ['/'] => ['/']
  | '/' :: rest => trimTrailing rest
  | '.' :: '/' :: rest => trimTrailing ('/' :: rest)
  | text => text

/-- `Path::parent`. -/
def parent (path : String) : Option String :=
  let reversed := trimTrailing path.toList.reverse
  if reversed = [] || reversed = ['/'] then none
  else some (String.ofList (trimTrailing (reversed.dropWhile (· ≠ '/'))).reverse)

/-- `Path::join`. -/
def join (base location : String) : String :=
  if location.toList.head? = some '/' then location
  else if base.isEmpty || base.toList.getLast? = some '/' then base ++ location
  else base ++ "/" ++ location

-- ════════════════════════════════
-- Errors
-- ════════════════════════════════

/-- `anyhow::Error`: the contexts of an error, the outermost first. -/
abbrev ErrorChain := List String

abbrev Loading (α : Type) := Except ErrorChain α

def bail {α : Type} (message : String) : Loading α := .error [message]

/-- `bail!` under a condition. -/
def bailWhen (violated : Bool) (message : String) : Loading Unit :=
  if violated then bail message else .ok ()

/-- `with_context` of a result. -/
def withContext {α : Type} (message : String) (result : Loading α) : Loading α :=
  match result with
  | .ok value => .ok value
  | .error chain => .error (message :: chain)

/-- `with_context` of an option. -/
def orBail {α : Type} (message : String) (value : Option α) : Loading α :=
  match value with
  | some value => .ok value
  | none => bail message

def displayBool (value : Bool) : String := if value then "true" else "false"

-- ════════════════════════════════
-- Artifacts
-- ════════════════════════════════

structure ValidatedScenario where
  artifact : ArtifactReference
  path : String
  scenario : Scenario

structure ValidatedResult where
  artifact : ArtifactReference
  path : String
  result : ResultRecord

structure ValidatedBundle where
  manifestPath : String
  manifest : ResultBundleManifest
  profilePath : String
  profile : Profile
  scenarios : List ValidatedScenario
  results : List ValidatedResult

/-- `fs::read`, or the text of its error. -/
abbrev Files := String → Except String (List UInt8)

def readFile (files : Files) (path : String) : Loading (List UInt8) :=
  match files path with
  | .ok bytes => .ok bytes
  | .error error => .error ["failed to read " ++ path, error]

def verifyDigest (crates : ContractCrates) (bytes : List UInt8) (expected : Digest) :
    Loading Unit :=
  let actual := match expected.algorithm with
    | .sha256 => crates.sha256Hex bytes
  bailWhen (actual ≠ expected.value) ("expected " ++ expected.value ++ ", got " ++ actual)

def verifyBytes (path : String) (bytes : List UInt8) (expected : ℕ) : Loading Unit :=
  bailWhen (bytes.length ≠ expected)
    (path ++ " has " ++ toString bytes.length ++ " bytes, expected " ++ toString expected)

def isRemote (location : String) : Bool :=
  containsText location "://" || "image:".toList.isPrefixOf location.toList

def readVerifiedArtifact (crates : ContractCrates) (files : Files) (base : String)
    (artifact : ArtifactReference) : Loading (String × List UInt8) := do
  bailWhen (isRemote artifact.location)
    ("bundle artifact `" ++ artifact.location ++ "` is not a local file")
  let path := join base artifact.location
  let bytes ← readFile files path
  artifact.bytes.forM (verifyBytes path bytes)
  withContext ("digest mismatch for " ++ path) (verifyDigest crates bytes artifact.digest)
  pure (path, bytes)

/-- The check of an artifact whose bytes are not looked at again. -/
def checkArtifact (crates : ContractCrates) (files : Files) (base : String)
    (artifact : ArtifactReference) : Loading Unit := do
  let _ ← readVerifiedArtifact crates files base artifact
  pure ()

/-- Parse a file that should hold one kind of document. -/
def parseAs {α : Type} (crates : ContractCrates) (kind path : String) (bytes : List UInt8)
    (select : ContractDocument → Option α) : Loading α :=
  match parseContract crates bytes with
  | .error error => .error ["invalid " ++ kind ++ " " ++ path, error.display]
  | .ok document =>
    match select document with
    | some value => .ok value
    | none => bail (path ++ " is " ++ document.kind ++ ", not a " ++ kind)

-- ════════════════════════════════
-- Links
-- ════════════════════════════════

def validateComponentIdentity (executed : ExecutedComponent) (component : Component) :
    Loading Unit :=
  bailWhen (executed.name ≠ component.name || executed.version ≠ component.version)
    ("component `" ++ executed.profileComponent ++
      "` identity differs from profile: result has " ++ executed.name ++ " " ++ executed.version ++
      ", profile has " ++ component.name ++ " " ++ component.version)

def validateExecutedComponent (executed : ExecutedComponent) (expectedKind : ComponentKind)
    (components : StringMap Component) : Loading Unit := do
  let component ← orBail ("unknown component `" ++ executed.profileComponent ++ "`")
    components[executed.profileComponent]?
  bailWhen (component.kind ≠ expectedKind)
    ("component `" ++ executed.profileComponent ++ "` has kind " ++ component.kind.debug ++
      ", expected " ++ expectedKind.debug)
  validateComponentIdentity executed component

def validateClient (components : StringMap Component) (client : ExecutedComponent) :
    Loading Unit := do
  let component ← orBail ("unknown client component `" ++ client.profileComponent ++ "`")
    components[client.profileComponent]?
  bailWhen (!(component.kind = .client || component.kind = .engine))
    ("client component `" ++ client.profileComponent ++ "` has incompatible kind " ++
      component.kind.debug)
  validateComponentIdentity client component

def validateEvaluation (assertions : StringMap AssertionSpec) (evaluation : AssertionEvaluation) :
    Loading Unit := do
  let assertion ← orBail ("unknown scenario assertion `" ++ evaluation.assertion ++ "`")
    assertions[evaluation.assertion]?
  bailWhen (evaluation.required ≠ assertion.required)
    ("assertion `" ++ evaluation.assertion ++ "` copied required=" ++
      displayBool evaluation.required ++ " but scenario says " ++ displayBool assertion.required)

def requireCompleteAssertions (result : ResultRecord) (assertions : StringMap AssertionSpec) :
    Loading Unit :=
  let evaluated := result.assertions.map (·.assertion)
  let missing := assertions.keys.filter fun assertion => !evaluated.contains assertion
  bailWhen (!missing.isEmpty)
    ("attempted result omits assertions: " ++ ", ".intercalate missing)

/-- The scenario was executed. -/
def isAttempted : ResultOutcome → Bool
  | .pass _ | .fail _ => true
  | .unsupported _ | .notTested _ => false

def validateResultLinks (result : ResultRecord) (profileDigest : Digest) (profile : Profile)
    (components : StringMap Component) (scenarios : List ValidatedScenario) : Loading Unit := do
  bailWhen (result.profile.id ≠ profile.id || result.profile.digest ≠ profileDigest)
    "profile reference does not match the manifest profile"
  validateExecutedComponent result.catalog .catalog components
  result.client.forM (validateClient components)
  result.adapters.forM fun adapter =>
    bailWhen (!components.contains adapter) ("unknown adapter component `" ++ adapter ++ "`")
  let scenario ← orBail ("unknown scenario `" ++ result.scenario.id ++ "`")
    (scenarios.find? fun candidate => candidate.scenario.id = result.scenario.id)
  bailWhen (result.scenario.version ≠ scenario.scenario.version ||
      result.scenario.digest ≠ scenario.artifact.digest)
    "scenario version or digest does not match the manifest artifact"
  let assertions := keyed AssertionSpec.id scenario.scenario.assertions
  result.assertions.forM (validateEvaluation assertions)
  if isAttempted result.outcome then requireCompleteAssertions result assertions else pure ()

-- ════════════════════════════════
-- The bundle
-- ════════════════════════════════

/-- The loop over the scenarios of the manifest, with the ids it has seen. -/
def loadScenarios (crates : ContractCrates) (files : Files) (base : String) :
    List ScenarioId → List ArtifactReference → Loading (List ValidatedScenario)
  | _, [] => pure []
  | seen, artifact :: artifacts => do
    let (path, bytes) ← readVerifiedArtifact crates files base artifact
    let scenario ← parseAs crates "scenario" path bytes ContractDocument.asScenario
    bailWhen (seen.contains scenario.id)
      ("manifest contains duplicate scenario `" ++ scenario.id ++ "`")
    let scenarios ← loadScenarios crates files base (scenario.id :: seen) artifacts
    pure (⟨artifact, path, scenario⟩ :: scenarios)

/-- The loop over the results of the manifest, with the ids it has seen. -/
def loadResults (crates : ContractCrates) (files : Files) (base : String)
    (profileDigest : Digest) (profile : Profile) (scenarios : List ValidatedScenario) :
    List ResultId → List ArtifactReference → Loading (List ValidatedResult)
  | _, [] => pure []
  | seen, artifact :: artifacts => do
    let (path, bytes) ← readVerifiedArtifact crates files base artifact
    let result ← parseAs crates "result" path bytes ContractDocument.asResult
    bailWhen (seen.contains result.id)
      ("manifest contains duplicate result `" ++ result.id ++ "`")
    withContext ("invalid links in " ++ path)
      (validateResultLinks result profileDigest profile (keyed Component.id profile.components)
        scenarios)
    result.evidence.forM fun evidence =>
      withContext ("invalid evidence `" ++ evidence.id ++ "` in " ++ path)
        (checkArtifact crates files base evidence.artifact)
    result.artifacts.forM fun resultArtifact =>
      withContext ("invalid result artifact in " ++ path)
        (checkArtifact crates files base resultArtifact)
    let results ← loadResults crates files base profileDigest profile scenarios
      (result.id :: seen) artifacts
    pure (⟨artifact, path, result⟩ :: results)

/-- Validate exact artifact bytes and every cross-document reference in a bundle. -/
def loadBundle (crates : ContractCrates) (files : Files) (manifestPath : String) :
    Loading ValidatedBundle := do
  let manifestBytes ← readFile files manifestPath
  let manifest ← parseAs crates "manifest" manifestPath manifestBytes ContractDocument.asManifest
  let base ← orBail "manifest path has no parent directory" (parent manifestPath)
  let (profilePath, profileBytes) ← readVerifiedArtifact crates files base manifest.profile
  let profile ← parseAs crates "profile" profilePath profileBytes ContractDocument.asProfile
  bailWhen (profile.readiness ≠ .runnable)
    ("bundle profile " ++ profile.id ++ " is draft; results require a runnable profile")
  let scenarios ← loadScenarios crates files base [] manifest.scenarios
  manifest.sourceEvidence.forM (checkArtifact crates files base)
  let results ← loadResults crates files base manifest.profile.digest profile scenarios []
    manifest.results
  pure ⟨manifestPath, manifest, profilePath, profile, scenarios, results⟩

end CatalogBench.ContractTool
