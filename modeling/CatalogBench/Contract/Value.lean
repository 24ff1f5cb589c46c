import CatalogBench.Crates
import Mathlib.Data.List.Nodup
import Mathlib.Tactic.Common

/-!
# Contract values

The values that every published document is built from: identifiers, digests, artifact
references and components, with the validation that collects every issue under its field path.
-/

set_option linter.all false

namespace CatalogBench.Contract

abbrev ScenarioId := String
abbrev ProfileId := String
abbrev ResultId := String
abbrev BundleId := String
abbrev ComponentId := String
abbrev CapabilityId := String
abbrev StepId := String
abbrev AssertionId := String
abbrev EvidenceId := String

/-- One semantic contract violation with a JSON-style field path. -/
structure ValidationIssue where
  path : String
  message : String
  deriving DecidableEq

def childPath (parent child : String) : String := parent ++ "." ++ child

def indexedPath (parent : String) (index : ℕ) : String := parent ++ "[" ++ toString index ++ "]"

/-- `str::trim` leaves nothing. -/
def isBlank (text : String) : Bool := text.toList.all isWhiteSpace

/-- `str::to_ascii_lowercase`. -/
def toAsciiLowercase (text : String) : String := text.map Char.toLower

/-- `str::contains` of a text. -/
def containsText (text needle : String) : Bool := decide (needle.toList <:+: text.toList)

/-- `issues.push` of one issue under a condition. -/
def issueWhen (violated : Bool) (path message : String) : List ValidationIssue :=
  if violated then [⟨path, message⟩] else []

def requireNonEmpty (value path : String) : List ValidationIssue :=
  issueWhen (isBlank value) path "must not be empty"

/-- Every rational is finite, so only the sign is checked. -/
def requireFiniteNonNegative (value : ℚ) (path : String) : List ValidationIssue :=
  issueWhen (value < 0) path "must be a finite, non-negative number"

/-- The loop of `require_unique` over the values it has yet to see. -/
def requireUniqueAfter (path : String) : List String → List String → List ValidationIssue
  | _, [] => []
  | seen, value :: values =>
    issueWhen (seen.contains value) path ("contains duplicate identifier `" ++ value ++ "`") ++
      requireUniqueAfter path (value :: seen) values

/-- The values by their texts. -/
def requireUnique (values : List String) (path : String) : List ValidationIssue :=
  requireUniqueAfter path [] values

def rejectSecretLikeKeys (keys : List String) (path : String) : List ValidationIssue :=
  keys.flatMap fun key =>
    issueWhen
      (["password", "secret", "token", "private_key", "access_key"].any fun needle =>
        containsText (toAsciiLowercase key) needle)
      path ("secret-like setting key `" ++ key ++ "` is forbidden")

/-- The issues of every item, under its indexed path. -/
def eachIndexed {α : Type} (path : String) (items : List α)
    (collect : ℕ → String → α → List ValidationIssue) : List ValidationIssue :=
  items.zipIdx.flatMap fun (item, index) => collect index (indexedPath path index) item

/-- The issues of a value that may be absent. -/
def whenSome {α : Type} (value : Option α) (collect : α → List ValidationIssue) :
    List ValidationIssue :=
  (value.map collect).getD []

/-- The items by their keys, as `collect` puts them into a `BTreeMap`: the last item of a key
stays. -/
def keyed {α : Type} (key : α → String) (items : List α) : StringMap α :=
  .ofList (items.map fun item => (key item, item)) _

/-- `BTreeSet::difference` of two sets of texts, in order. -/
def difference (texts others : List String) : List String :=
  ((texts.mergeSort (· ≤ ·)).eraseDups).filter fun text => !others.contains text

-- ════════════════════════════════
-- Digests and artifacts
-- ════════════════════════════════

inductive DigestAlgorithm
  | sha256
  deriving DecidableEq

structure Digest where
  algorithm : DigestAlgorithm
  value : String
  deriving DecidableEq

def isAsciiHexdigit (byte : UInt8) : Bool :=
  (48 ≤ byte && byte ≤ 57) || (65 ≤ byte && byte ≤ 70) || (97 ≤ byte && byte ≤ 102)

def DigestAlgorithm.debug : DigestAlgorithm → String
  | sha256 => "Sha256"

def Digest.collectIssues (digest : Digest) (path : String) : List ValidationIssue :=
  let expectedLength := match digest.algorithm with
    | .sha256 => 64
  issueWhen
    ((utf8 digest.value).length ≠ expectedLength || !(utf8 digest.value).all isAsciiHexdigit)
    (childPath path "value")
    ("must contain exactly " ++ toString expectedLength ++ " hexadecimal characters for " ++
      digest.algorithm.debug)

/-- A file or URI together with the digest that makes the reference immutable. -/
structure ArtifactReference where
  location : String
  mediaType : String
  digest : Digest
  bytes : Option ℕ
  description : Option String
  extensions : StringMap Json

def ArtifactReference.collectIssues (artifact : ArtifactReference) (path : String) :
    List ValidationIssue :=
  requireNonEmpty artifact.location (childPath path "location") ++
    requireNonEmpty artifact.mediaType (childPath path "media_type") ++
    artifact.digest.collectIssues (childPath path "digest")

def validateArtifacts (artifacts : List ArtifactReference) (path : String) :
    List ValidationIssue :=
  eachIndexed path artifacts fun _ path artifact => artifact.collectIssues path

-- ════════════════════════════════
-- Components
-- ════════════════════════════════

/-- Immutable source identity for a component built from source. -/
structure SourceRevision where
  repository : String
  revision : String
  tag : Option String
  extensions : StringMap Json

def SourceRevision.collectIssues (source : SourceRevision) (path : String) :
    List ValidationIssue :=
  requireNonEmpty source.repository (childPath path "repository") ++
    requireNonEmpty source.revision (childPath path "revision")

structure BuildConfiguration where
  toolchain : String
  target : String
  profile : String
  options : List String
  compilerFlags : List String
  locked : Bool
  environment : StringMap String
  extensions : StringMap Json

def BuildConfiguration.collectIssues (build : BuildConfiguration) (path : String) :
    List ValidationIssue :=
  requireNonEmpty build.toolchain (childPath path "toolchain") ++
    requireNonEmpty build.target (childPath path "target") ++
    requireNonEmpty build.profile (childPath path "profile")

/-- What an image digest addresses. -/
inductive ImageDigestScope
  | index | platformManifest | localImage
  deriving DecidableEq

/-- The deployable artifact used for a component. -/
inductive RuntimeArtifact
  | containerImage (reference : String) (digestScope : ImageDigestScope) (digest : Digest)
    (platformDigest : Option Digest) (embeddedArtifacts : List ArtifactReference)
  | sourceBuild (executable : Option ArtifactReference)
  | package (ecosystem package version : String) (digest : Option Digest)

def RuntimeArtifact.collectIssues (artifact : RuntimeArtifact) (path : String) :
    List ValidationIssue :=
  match artifact with
  | containerImage reference digestScope digest platformDigest embeddedArtifacts =>
    requireNonEmpty reference (childPath path "reference") ++
      digest.collectIssues (childPath path "digest") ++
      (whenSome platformDigest fun digest =>
        digest.collectIssues (childPath path "platform_digest") ++
          issueWhen (digestScope ≠ .index) (childPath path "platform_digest")
            "is only meaningful when digest_scope is `index`") ++
      validateArtifacts embeddedArtifacts (childPath path "embedded_artifacts")
  | sourceBuild executable =>
    whenSome executable fun artifact => artifact.collectIssues (childPath path "executable")
  | package ecosystem name version digest =>
    requireNonEmpty ecosystem (childPath path "ecosystem") ++
      requireNonEmpty name (childPath path "package") ++
      requireNonEmpty version (childPath path "version") ++
      (whenSome digest fun digest => digest.collectIssues (childPath path "digest"))

def RuntimeArtifact.isSourceBuild : RuntimeArtifact → Bool
  | sourceBuild _ => true
  | _ => false

inductive ComponentKind
  | catalog | client | connector | engine | objectStore | stateStore | benchmarkHarness
  | containerRuntime | validator | converter | other
  deriving DecidableEq

def ComponentKind.debug : ComponentKind → String
  | catalog => "Catalog"
  | client => "Client"
  | connector => "Connector"
  | engine => "Engine"
  | objectStore => "ObjectStore"
  | stateStore => "StateStore"
  | benchmarkHarness => "BenchmarkHarness"
  | containerRuntime => "ContainerRuntime"
  | validator => "Validator"
  | converter => "Converter"
  | other => "Other"

/-- Exact identity of a catalog, client, engine, service, or tool. -/
structure Component where
  id : ComponentId
  kind : ComponentKind
  name : String
  version : String
  source : Option SourceRevision
  build : Option BuildConfiguration
  artifact : RuntimeArtifact
  extensions : StringMap Json

def Component.collectIssues (component : Component) (path : String) : List ValidationIssue :=
  requireNonEmpty component.id (childPath path "id") ++
    requireNonEmpty component.name (childPath path "name") ++
    requireNonEmpty component.version (childPath path "version") ++
    (whenSome component.source fun source => source.collectIssues (childPath path "source")) ++
    (whenSome component.build fun build =>
      build.collectIssues (childPath path "build") ++
        issueWhen component.source.isNone (childPath path "build")
          "requires an immutable source revision") ++
    (if component.artifact.isSourceBuild then
      issueWhen component.source.isNone (childPath path "source")
          "is required for a source-build artifact" ++
        issueWhen component.build.isNone (childPath path "build")
          "is required for a source-build artifact"
    else []) ++
    component.artifact.collectIssues (childPath path "artifact")

-- ════════════════════════════════
-- What no issue means
-- ════════════════════════════════

@[simp] theorem issueWhen_eq_nil {violated : Bool} {path message : String} :
    issueWhen violated path message = [] ↔ violated = false := by
  cases violated <;> simp [issueWhen]

@[simp] theorem requireNonEmpty_eq_nil {value path : String} :
    requireNonEmpty value path = [] ↔ isBlank value = false := issueWhen_eq_nil

theorem isBlank_append (text text' : String) :
    isBlank (text ++ text') = (isBlank text && isBlank text') := by
  rw [isBlank, isBlank, isBlank, String.toList_append, List.all_append]

/-- A text is seen not to be blank by its first character. -/
theorem isBlank_cons {c : Char} {cs : List Char} (h : isWhiteSpace c = false) :
    isBlank (String.ofList (c :: cs)) = false := by
  rw [isBlank, String.toList_ofList, List.all_cons, h, Bool.false_and]

theorem requireNonEmpty_cons {c : Char} {cs : List Char} {path : String}
    (h : isWhiteSpace c = false) : requireNonEmpty (String.ofList (c :: cs)) path = [] :=
  requireNonEmpty_eq_nil.mpr (isBlank_cons h)

theorem requireUniqueAfter_eq_nil {path : String} {seen values : List String} :
    requireUniqueAfter path seen values = [] ↔
      values.Nodup ∧ ∀ value ∈ values, value ∉ seen := by
  induction values generalizing seen with
  | nil => simp [requireUniqueAfter]
  | cons value values ih =>
    rw [requireUniqueAfter, List.append_eq_nil_iff, issueWhen_eq_nil, ih, List.nodup_cons]
    constructor
    · rintro ⟨hseen, hnodup, hrest⟩
      refine ⟨⟨fun hmem => hrest value hmem List.mem_cons_self, hnodup⟩, ?_⟩
      intro other hother
      rcases List.mem_cons.mp hother with rfl | hmem
      · simpa using hseen
      · exact fun h => hrest other hmem (List.mem_cons_of_mem _ h)
    · rintro ⟨⟨hfresh, hnodup⟩, hall⟩
      refine ⟨by simpa using hall value List.mem_cons_self, hnodup, ?_⟩
      intro other hmem hother
      rcases List.mem_cons.mp hother with rfl | h
      · exact hfresh hmem
      · exact hall other (List.mem_cons_of_mem _ hmem) h

/-- Identifiers are accepted as unique exactly when no two of them agree. -/
@[simp] theorem requireUnique_eq_nil {values : List String} {path : String} :
    requireUnique values path = [] ↔ values.Nodup := by
  simp [requireUnique, requireUniqueAfter_eq_nil]

theorem difference_eq_nil {texts others : List String} :
    difference texts others = [] ↔ ∀ text ∈ texts, text ∈ others := by
  simp [difference, List.filter_eq_nil_iff]

/-- A list without issues has no issue in any item. -/
theorem eachIndexed_eq_nil {α : Type} {path : String} {items : List α}
    {collect : ℕ → String → α → List ValidationIssue}
    (h : eachIndexed path items collect = []) {item : α} (hitem : item ∈ items) :
    ∃ index, collect index (indexedPath path index) item = [] := by
  obtain ⟨index, hindex⟩ := List.mem_iff_getElem?.mp hitem
  refine ⟨index, List.flatMap_eq_nil_iff.mp h (item, index) ?_⟩
  exact List.mem_zipIdx_iff_getElem?.mpr hindex

/-- With distinct keys an item is found exactly under its own key. -/
theorem key_of_getElem?_keyed {α : Type} {key : α → String} {items : List α} {k : String} {item : α}
    (h : (keyed key items)[k]? = some item) : key item = k := by
  obtain ⟨found, -, heq⟩ := List.mem_map.mp (mem_of_getElem?_ofList h)
  obtain ⟨rfl, rfl⟩ := Prod.mk.inj heq
  rfl

theorem keyed_getElem? {α : Type} {key : α → String} {items : List α}
    (hnodup : (items.map key).Nodup) {k : String} {item : α} :
    (keyed key items)[k]? = some item ↔ item ∈ items ∧ key item = k := by
  have hkeys : ((items.map fun item => (key item, item)).map Prod.fst).Nodup := by
    rwa [List.map_map]
  rw [keyed, getElem?_ofList_iff hkeys, List.mem_map]
  constructor
  · rintro ⟨found, hfound, heq⟩
    cases heq
    exact ⟨hfound, rfl⟩
  · rintro ⟨hitem, rfl⟩
    exact ⟨item, hitem, rfl⟩

end CatalogBench.Contract
