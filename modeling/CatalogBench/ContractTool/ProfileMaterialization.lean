import CatalogBench.ContractTool.Admission

/-!
# Runnable profiles

A candidate profile selects versions for more than one scenario. A policy narrows it to the
components of one scenario, and a sidecar of observed local images replaces the artifacts of some of
them. The result is printed only if it is a valid profile.
-/

set_option linter.all false

namespace CatalogBench.ContractTool.ProfileMaterialization
open CatalogBench.Contract Interaction

/-- A `BTreeSet` of texts. -/
abbrev StringSet := Std.ExtTreeSet String compare

def asSet (texts : List String) : StringSet := .ofList texts

-- ════════════════════════════════
-- Policies and sidecars
-- ════════════════════════════════

structure ArtifactPolicy where
  location : String
  mediaType : String
  deriving DecidableEq

/-- An artifact that is copied between two images keeps its content. -/
structure ArtifactCopyPolicy where
  sourceComponent : String
  sourceLocation : String
  destinationComponent : String
  destinationLocation : String
  deriving DecidableEq

/-- An image label whose value is a field of a build extension. -/
structure BuildExtensionLabelPolicy where
  label : String
  extension : String
  field : String
  deriving DecidableEq

structure RequiredLabelPolicy where
  label : String
  value : String
  deriving DecidableEq

structure ImagePolicy where
  component : String
  composeService : String
  requiredArtifacts : List ArtifactPolicy
  requiredLabels : List RequiredLabelPolicy
  buildExtensionLabel : Option BuildExtensionLabelPolicy
  deriving DecidableEq

structure ScenarioProfilePolicy where
  name : String
  materializationFormat : String
  scope : String
  purpose : ProfilePurpose
  selectedComponents : List String
  images : List ImagePolicy
  artifactCopies : List ArtifactCopyPolicy
  deriving DecidableEq

structure SourceProfileObservation where
  id : ProfileId
  digest : Digest
  deriving DecidableEq

structure OutputProfile where
  id : ProfileId
  title : String
  description : String
  resolvedAt : String
  deriving DecidableEq

structure ImageObservation where
  component : ComponentId
  reference : String
  imageId : Digest
  operatingSystem : String
  architecture : String
  labels : StringMap String
  embeddedArtifacts : List ArtifactReference

structure ScenarioProfileMaterialization where
  format : String
  sourceProfile : SourceProfileObservation
  outputProfile : OutputProfile
  images : List ImageObservation

structure ValidatedPolicy where
  selectedComponents : StringSet
  imageComponents : StringSet

/-- What a materialization needs besides the contract documents. -/
structure MaterializationCrates extends ContractCrates where
  /-- `serde_json::from_slice::<ScenarioProfileMaterialization>`, or the text of its error. -/
  decodeMaterialization : List UInt8 → Except String ScenarioProfileMaterialization
  /-- `serde_json::to_vec_pretty` of a profile, or the text of its error. -/
  profileText : Profile → Except String (List UInt8)

-- ════════════════════════════════
-- The policy
-- ════════════════════════════════

def validateRequiredArtifacts (image : ImagePolicy) : Loading Unit := do
  bailWhen
    ((asSet (image.requiredArtifacts.map (·.location))).size ≠ image.requiredArtifacts.length)
    (image.component ++ " image policy contains duplicate required artifact locations")
  image.requiredArtifacts.forM fun artifact =>
    bailWhen (isBlank artifact.location || isBlank artifact.mediaType)
      (image.component ++ " image policy artifact location and media type must not be empty")

def validateRequiredLabels (image : ImagePolicy) : Loading Unit := do
  bailWhen ((asSet (image.requiredLabels.map (·.label))).size ≠ image.requiredLabels.length)
    (image.component ++ " image policy contains duplicate required labels")
  image.requiredLabels.forM fun label =>
    bailWhen (isBlank label.label || isBlank label.value)
      (image.component ++ " required image-label name and value must not be empty")

def validateImagePolicy (policy : ScenarioProfilePolicy) (selectedComponents : StringSet)
    (image : ImagePolicy) : Loading Unit := do
  bailWhen (isBlank image.component)
    (policy.name ++ " policy contains an empty image component")
  bailWhen (isBlank image.composeService)
    (image.component ++ " image policy has an empty Compose service")
  bailWhen (!selectedComponents.contains image.component)
    (policy.name ++ " image policy targets unselected component `" ++ image.component ++ "`")
  validateRequiredArtifacts image
  validateRequiredLabels image
  image.buildExtensionLabel.forM fun label =>
    bailWhen ([label.label, label.extension, label.field].any isBlank)
      (image.component ++ " build-extension label policy fields must not be empty")

/-- One end of an artifact copy. -/
def validateCopyEnd (policy : ScenarioProfilePolicy) (direction component location : String) :
    Loading Unit := do
  let image ← orBail
    (policy.name ++ " artifact-copy " ++ direction ++ " component `" ++ component ++
      "` is not a materialized image")
    (policy.images.find? fun image => image.component = component)
  bailWhen (!image.requiredArtifacts.any fun artifact => artifact.location = location)
    (policy.name ++ " artifact-copy " ++ direction ++ " `" ++ component ++ "` location `" ++
      location ++ "` is not a required artifact")

def validateArtifactCopy (policy : ScenarioProfilePolicy) (copy : ArtifactCopyPolicy) :
    Loading Unit := do
  [("source component", copy.sourceComponent), ("source location", copy.sourceLocation),
    ("destination component", copy.destinationComponent),
    ("destination location", copy.destinationLocation)].forM fun (field, value) =>
      bailWhen (isBlank value) (policy.name ++ " artifact-copy " ++ field ++ " must not be empty")
  validateCopyEnd policy "source" copy.sourceComponent copy.sourceLocation
  validateCopyEnd policy "destination" copy.destinationComponent copy.destinationLocation

def validatePolicy (policy : ScenarioProfilePolicy) : Loading ValidatedPolicy := do
  [("name", policy.name), ("materialization format", policy.materializationFormat),
    ("scope", policy.scope)].forM fun (field, value) =>
      bailWhen (isBlank value) ("scenario profile policy " ++ field ++ " must not be empty")
  bailWhen policy.selectedComponents.isEmpty
    (policy.name ++ " policy must select at least one component")
  bailWhen policy.images.isEmpty (policy.name ++ " policy must materialize at least one image")
  let selectedComponents := asSet policy.selectedComponents
  bailWhen (selectedComponents.size ≠ policy.selectedComponents.length)
    (policy.name ++ " policy contains duplicate selected components")
  let imageComponents := asSet (policy.images.map (·.component))
  bailWhen (imageComponents.size ≠ policy.images.length)
    (policy.name ++ " policy contains duplicate image components")
  policy.images.forM (validateImagePolicy policy selectedComponents)
  bailWhen (!decide policy.artifactCopies.Nodup)
    (policy.name ++ " policy contains duplicate artifact copies")
  policy.artifactCopies.forM (validateArtifactCopy policy)
  pure ⟨selectedComponents, imageComponents⟩

-- ════════════════════════════════
-- Images
-- ════════════════════════════════

def requireSha256 (digest : Digest) (field : String) : Loading Unit :=
  bailWhen
    (digest.algorithm ≠ .sha256 || (utf8 digest.value).length ≠ 64 ||
      !(utf8 digest.value).all isAsciiHexdigit)
    (field ++ " must be a 64-character SHA-256 digest")

def requireLabel (image : ImageObservation) (name expected : String) : Loading Unit := do
  let actual ← orBail ("image `" ++ image.component ++ "` omits label `" ++ name ++ "`")
    image.labels[name]?
  bailWhen (actual ≠ expected)
    ("image `" ++ image.component ++ "` label `" ++ name ++ "` is `" ++ actual ++ "`, expected `" ++
      expected ++ "`")

def requireNonEmptyLabel (image : ImageObservation) (name : String) : Loading String := do
  let value ← orBail ("image `" ++ image.component ++ "` omits label `" ++ name ++ "`")
    image.labels[name]?
  bailWhen (isBlank value)
    ("image `" ++ image.component ++ "` label `" ++ name ++ "` must not be empty")
  pure value

def dockerArchitecture (profileArchitecture : String) : Loading String :=
  if profileArchitecture = "aarch64" then .ok "arm64"
  else if profileArchitecture = "x86_64" then .ok "amd64"
  else if profileArchitecture = "armv7" || profileArchitecture = "armv7l" then .ok "arm"
  else if ["amd64", "arm64", "arm", "ppc64le", "s390x", "riscv64"].contains profileArchitecture then
    .ok profileArchitecture
  else
    bail ("unsupported Docker architecture mapping for `" ++ profileArchitecture ++ "`")

def requireConsistentComposeVersion (images : List ImageObservation) (profileName : String) :
    Loading Unit :=
  match images with
  | [] => bail (profileName ++ " materialization contains no image observations")
  | first :: images => do
    let expected ← requireNonEmptyLabel first "com.docker.compose.version"
    images.forM fun image => do
      let version ← requireNonEmptyLabel image "com.docker.compose.version"
      bailWhen (version ≠ expected)
        ("all materialized images must use one Docker Compose version; found `" ++ expected ++
          "` and `" ++ version ++ "`")

/-- The architecture is looked at only if the operating system is that of the profile. -/
def validateRuntime (profile : Profile) (component : Component) (image : ImageObservation) :
    Loading Unit := do
  let message := "image `" ++ component.id ++ "` runtime " ++ image.operatingSystem ++ "/" ++
    image.architecture ++ " does not match profile " ++ profile.platform.operatingSystem ++ "/" ++
    profile.platform.architecture
  bailWhen (image.operatingSystem ≠ toAsciiLowercase profile.platform.operatingSystem) message
  let architecture ← dockerArchitecture profile.platform.architecture
  bailWhen (image.architecture ≠ architecture) message

/-- The string field of a build extension that a label policy names. -/
def helperRevision (component : Component) (labelPolicy : BuildExtensionLabelPolicy) :
    Option String := do
  let build ← component.build
  let extension ← build.extensions[labelPolicy.extension]?
  let value ← extension.get labelPolicy.field
  value.asStr

def validateEmbeddedArtifact (component : Component) (artifacts : StringMap ArtifactReference)
    (artifactPolicy : ArtifactPolicy) : Loading Unit := do
  let artifact ← orBail
    ("image `" ++ component.id ++ "` omits required artifact `" ++ artifactPolicy.location ++ "`")
    artifacts[artifactPolicy.location]?
  requireSha256 artifact.digest "embedded artifact digest"
  bailWhen (artifact.mediaType ≠ artifactPolicy.mediaType)
    ("embedded artifact `" ++ artifactPolicy.location ++ "` must use media type `" ++
      artifactPolicy.mediaType ++ "`")
  bailWhen (artifact.bytes = some 0 || artifact.bytes = none)
    ("embedded artifact `" ++ artifactPolicy.location ++ "` must record a positive byte size")

def validateEmbeddedArtifacts (component : Component) (image : ImageObservation)
    (policy : ImagePolicy) : Loading Unit := do
  let artifacts := keyed (·.location) image.embeddedArtifacts
  bailWhen (artifacts.size ≠ image.embeddedArtifacts.length)
    ("image `" ++ component.id ++ "` contains duplicate artifact locations")
  policy.requiredArtifacts.forM (validateEmbeddedArtifact component artifacts)

def validateImage (profile : Profile) (component : Component) (image : ImageObservation)
    (policy : ImagePolicy) : Loading Unit := do
  bailWhen (isBlank image.reference)
    ("image reference for `" ++ component.id ++ "` must not be empty")
  requireSha256 image.imageId "local image ID"
  validateRuntime profile component image
  requireLabel image "com.docker.compose.project" "catalog-bench"
  requireLabel image "com.docker.compose.service" policy.composeService
  let _ ← requireNonEmptyLabel image "com.docker.compose.version"
  let source ← orBail ("component `" ++ component.id ++ "` has no source revision") component.source
  requireLabel image "org.opencontainers.image.revision" source.revision
  policy.requiredLabels.forM fun label => requireLabel image label.label label.value
  policy.buildExtensionLabel.forM fun labelPolicy => do
    let revision ← orBail
      ("component `" ++ component.id ++ "` build extension `" ++ labelPolicy.extension ++
        "` omits string field `" ++ labelPolicy.field ++ "`")
      (helperRevision component labelPolicy)
    requireLabel image labelPolicy.label revision
  validateEmbeddedArtifacts component image policy

-- ════════════════════════════════
-- The sidecar
-- ════════════════════════════════

def observedArtifact (observations : StringMap ImageObservation) (component location : String) :
    Loading ArtifactReference := do
  let image ← orBail ("materialization omits `" ++ component ++ "`") observations[component]?
  orBail ("image `" ++ component ++ "` omits required artifact `" ++ location ++ "`")
    (image.embeddedArtifacts.find? fun artifact => artifact.location = location)

def validateCopied (observations : StringMap ImageObservation) (copy : ArtifactCopyPolicy) :
    Loading Unit := do
  let source ← observedArtifact observations copy.sourceComponent copy.sourceLocation
  let destination ←
    observedArtifact observations copy.destinationComponent copy.destinationLocation
  bailWhen
    (source.digest ≠ destination.digest || source.bytes ≠ destination.bytes ||
      source.mediaType ≠ destination.mediaType)
    ("artifact copied from `" ++ copy.sourceComponent ++ "` `" ++ copy.sourceLocation ++ "` to `" ++
      copy.destinationComponent ++ "` `" ++ copy.destinationLocation ++ "` must be byte-identical")

def validateArtifactCopies (observations : StringMap ImageObservation)
    (policy : ScenarioProfilePolicy) : Loading Unit :=
  policy.artifactCopies.forM (validateCopied observations)

/-- The images by their components, after those that were observed before. -/
def observeImages (observed : StringMap ImageObservation) :
    List ImageObservation → Loading (StringMap ImageObservation)
  | [] => .ok observed
  | image :: images => do
    bailWhen (observed.contains image.component)
      ("duplicate image observation for `" ++ image.component ++ "`")
    observeImages (observed.insert image.component image) images

/-- The image of one policy, with the component that it stands for. -/
def validateObserved (profile : Profile) (components : StringMap Component)
    (observed : StringMap ImageObservation) (imagePolicy : ImagePolicy) : Loading Unit := do
  let component ← orBail ("source profile omits `" ++ imagePolicy.component ++ "`")
    components[imagePolicy.component]?
  let image ← orBail ("materialization omits `" ++ imagePolicy.component ++ "`")
    observed[imagePolicy.component]?
  validateImage profile component image imagePolicy

def validateMaterialization (crates : Crates) (profile : Profile)
    (sourceProfileBytes : List UInt8) (materialization : ScenarioProfileMaterialization)
    (policy : ScenarioProfilePolicy) (validatedPolicy : ValidatedPolicy) : Loading Unit := do
  bailWhen (materialization.format ≠ policy.materializationFormat)
    ("unsupported materialization format `" ++ materialization.format ++ "`")
  bailWhen (materialization.sourceProfile.id ≠ profile.id)
    "materialization source profile ID does not match the input profile"
  bailWhen (materialization.outputProfile.id = profile.id)
    "materialized profile ID must differ from the source profile ID"
  requireSha256 materialization.sourceProfile.digest "source profile digest"
  let sourceDigest := crates.sha256Hex sourceProfileBytes
  bailWhen (materialization.sourceProfile.digest.value ≠ sourceDigest)
    ("source profile digest mismatch: expected " ++ materialization.sourceProfile.digest.value ++
      ", got " ++ sourceDigest)
  [("output profile title", materialization.outputProfile.title),
    ("output profile description", materialization.outputProfile.description),
    ("output profile resolved_at", materialization.outputProfile.resolvedAt)].forM
      fun (field, value) => bailWhen (isBlank value) (field ++ " must not be empty")
  let components := keyed (·.id) profile.components
  validatedPolicy.selectedComponents.toList.forM fun id =>
    bailWhen (!components.contains id)
      ("source profile omits required " ++ policy.name ++ " component `" ++ id ++ "`")
  let observed ← observeImages ∅ materialization.images
  bailWhen (asSet observed.keys ≠ validatedPolicy.imageComponents)
    ("image observations must be exactly: " ++
      ", ".intercalate validatedPolicy.imageComponents.toList)
  policy.images.forM (validateObserved profile components observed)
  validateArtifactCopies observed policy
  requireConsistentComposeVersion materialization.images policy.name

-- ════════════════════════════════
-- The materialized profile
-- ════════════════════════════════

def decodeProfile (crates : ContractCrates) (bytes : List UInt8) : Loading Profile :=
  match parseContract crates bytes with
  | .error error => .error ["invalid source profile", error.display]
  | .ok (.profile profile) => .ok profile
  | .ok document => bail ("source document is " ++ document.kind ++ ", not a profile")

def imageObservationKey : String := "querygraph/materialized-image-observation"
def profileStateKey : String := "querygraph/profile-state"
def materializationKey : String := "querygraph/materialization"

/-- What an extension keeps of an image. The keys of a JSON map are in order. -/
def ImageObservation.toJson (observation : ImageObservation) : Json :=
  .object [("architecture", .string observation.architecture),
    ("labels", .object (observation.labels.toList.map fun label => (label.1, .string label.2))),
    ("operating_system", .string observation.operatingSystem)]

/-- `retain` of what belongs to the selected components. -/
def retainSelected (selected : StringSet) (profile : Profile) : Profile :=
  { profile with
    components := profile.components.filter fun component => selected.contains component.id
    services := profile.services.filter fun service => selected.contains service.component
    catalogAdapters := profile.catalogAdapters.filter fun adapter =>
      selected.contains adapter.catalog }

/-- The artifact and the extension of a component that was observed as an image. -/
def replaceArtifact (observation : ImageObservation) (component : Component) : Component :=
  { component with
    artifact := .containerImage observation.reference .localImage observation.imageId none
      observation.embeddedArtifacts
    extensions := component.extensions.insert imageObservationKey observation.toJson }

def materializeComponent (observations : StringMap ImageObservation) (component : Component) :
    Component :=
  match observations[component.id]? with
  | some observation => replaceArtifact observation component
  | none => component

def profileState : Json :=
  .string ("Runnable scenario-scoped profile; every selected runtime artifact has an immutable " ++
    "identity.")

/-- What an extension keeps of the materialization. -/
def provenance (crates : Crates) (policy : ScenarioProfilePolicy)
    (sourceProfile : SourceProfileObservation) (materializationBytes : List UInt8) : Json :=
  .object [("format", .string policy.materializationFormat),
    ("observation_sha256", .string (crates.sha256Hex materializationBytes)),
    ("scope", .string policy.scope),
    ("source_profile", .object
      [("digest", .object [("algorithm", .string "sha256"),
          ("value", .string sourceProfile.digest.value)]),
        ("id", .string sourceProfile.id)])]

def materializeProfile (crates : Crates) (policy : ScenarioProfilePolicy)
    (materialization : ScenarioProfileMaterialization) (materializationBytes : List UInt8)
    (profile : Profile) : Profile :=
  let observations := keyed (·.component) materialization.images
  { profile with
    components := profile.components.map (materializeComponent observations)
    id := materialization.outputProfile.id
    title := materialization.outputProfile.title
    description := materialization.outputProfile.description
    resolvedAt := materialization.outputProfile.resolvedAt
    purpose := policy.purpose
    readiness := .runnable
    extensions := (profile.extensions.insert profileStateKey profileState).insert materializationKey
      (provenance crates policy materialization.sourceProfile materializationBytes) }

/-- `Validate::validate` of a profile, with the text of its error. -/
def validateProfile (crates : Crates) (profile : Profile) : Loading Unit :=
  let issues := profile.collectIssues crates "$"
  bailWhen (!issues.isEmpty)
    ("; ".intercalate (issues.map fun issue => issue.path ++ ": " ++ issue.message))

def renderScenarioProfile (crates : MaterializationCrates) (sourceProfileBytes : List UInt8)
    (materializationBytes : List UInt8) (policy : ScenarioProfilePolicy) :
    Loading (List UInt8) := do
  let validatedPolicy ← validatePolicy policy
  let profile ← decodeProfile crates.toContractCrates sourceProfileBytes
  let materialization ← withContext ("invalid " ++ policy.name ++ " profile materialization")
    ((crates.decodeMaterialization materializationBytes).mapError ([·]))
  validateMaterialization crates.toCrates profile sourceProfileBytes materialization policy
    validatedPolicy
  let profile := materializeProfile crates.toCrates policy materialization materializationBytes
    (retainSelected validatedPolicy.selectedComponents profile)
  withContext ("materialized " ++ policy.name ++ " profile is invalid")
    (validateProfile crates.toCrates profile)
  let rendered ← (crates.profileText profile).mapError ([·])
  pure (rendered ++ [0x0A])

end CatalogBench.ContractTool.ProfileMaterialization
