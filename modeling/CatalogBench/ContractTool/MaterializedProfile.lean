import CatalogBench.Conformance.Wire
import CatalogBench.ContractTool.ProfileMaterialization
import Mathlib.Data.List.Perm.Subperm

/-!
# What a materialization changes

The printed profile is the source profile without what was not selected. Of a selected component
only the artifact and one extension change, and only if an image of it was observed.
-/

set_option linter.all false

namespace CatalogBench.ContractTool.ProfileMaterialization
open CatalogBench.Contract Interaction

-- ════════════════════════════════
-- Projections
-- ════════════════════════════════

/-- What became of a selected component, given the images that were observed. -/
structure ComponentKept (images : List ImageObservation) (source output : Component) : Prop where
  image : ∀ image ∈ images, image.component = source.id → output =
    { source with
      artifact := .containerImage image.reference .localImage image.imageId none
        image.embeddedArtifacts
      extensions := source.extensions.insert imageObservationKey image.toJson }
  unobserved : source.id ∉ images.map (·.component) → output = source

/-- A profile is another one, narrowed to a policy and with the artifacts of a sidecar. -/
structure IsProjection (policy : ScenarioProfilePolicy)
    (materialization : ScenarioProfileMaterialization) (source output : Profile) : Prop where
  components : List.Forall₂ (ComponentKept materialization.images)
    (source.components.filter fun component => component.id ∈ policy.selectedComponents)
    output.components
  services : output.services =
    source.services.filter fun service => service.component ∈ policy.selectedComponents
  catalogAdapters : output.catalogAdapters =
    source.catalogAdapters.filter fun adapter => adapter.catalog ∈ policy.selectedComponents
  platform : output.platform = source.platform
  catalogCapabilities : output.catalogCapabilities = source.catalogCapabilities
  extensions : ∀ key, key ≠ profileStateKey → key ≠ materializationKey →
    output.extensions[key]? = source.extensions[key]?
  identity : (⟨output.id, output.title, output.description, output.resolvedAt⟩ : OutputProfile) =
    materialization.outputProfile
  purpose : output.purpose = policy.purpose
  readiness : output.readiness = .runnable

/-- The images are those of the policy, each observed once. -/
structure ImagesObserved (policy : ScenarioProfilePolicy) (images : List ImageObservation) :
    Prop where
  once : (images.map (·.component)).Nodup
  exact : ∀ component : String, component ∈ images.map (·.component) ↔
    component ∈ policy.images.map (·.component)
  selected : ∀ image ∈ images, image.component ∈ policy.selectedComponents

/-- Nothing in the output belongs to a component that was left out. -/
def DropsReferences (source output : Profile) : Prop :=
  ∀ component ∈ source.components, component.id ∉ output.components.map (·.id) →
    (∀ service ∈ output.services, service.component ≠ component.id) ∧
      ∀ adapter ∈ output.catalogAdapters, adapter.catalog ≠ component.id

/-- An artifact at a place in the image of a component. -/
def IsObserved (images : List ImageObservation) (component location : String)
    (artifact : ArtifactReference) : Prop :=
  ∃ image ∈ images, image.component = component ∧ artifact ∈ image.embeddedArtifacts ∧
    artifact.location = location

/-- Both ends of a copy were observed, and any artifacts observed there have the same content. -/
structure CopyAgrees (images : List ImageObservation) (copy : ArtifactCopyPolicy) : Prop where
  source : ∃ artifact, IsObserved images copy.sourceComponent copy.sourceLocation artifact
  destination : ∃ artifact,
    IsObserved images copy.destinationComponent copy.destinationLocation artifact
  same : ∀ artifact artifact',
    IsObserved images copy.sourceComponent copy.sourceLocation artifact →
    IsObserved images copy.destinationComponent copy.destinationLocation artifact' →
    artifact.digest = artifact'.digest ∧ artifact.bytes = artifact'.bytes ∧
      artifact.mediaType = artifact'.mediaType

-- ════════════════════════════════
-- Sets of texts
-- ════════════════════════════════

theorem contains_asSet {texts : List String} {text : String} :
    (asSet texts).contains text = decide (text ∈ texts) := by
  rw [asSet, Std.ExtTreeSet.contains_ofList, List.contains_eq_mem]

/-- A list with as many members as places has no duplicates. -/
theorem nodup_of_length {texts members : List String} (hnodup : members.Nodup)
    (hmem : ∀ text, text ∈ members ↔ text ∈ texts) (hlength : members.length = texts.length) :
    texts.Nodup := by
  have hperm : members.Perm texts :=
    (hnodup.subperm fun text htext => (hmem text).mp htext).perm_of_length_le hlength.ge
  exact hperm.nodup_iff.mp hnodup

theorem nodup_of_size_keyed {α : Type} {key : α → String} {items : List α}
    (h : (keyed key items).size = items.length) : (items.map key).Nodup := by
  refine nodup_of_length (keyed key items).nodup_keys (fun text => ?_) ?_
  · rw [Std.ExtTreeMap.mem_keys, keyed, Std.ExtTreeMap.mem_ofList, List.map_map,
      List.contains_iff_mem]
    rfl
  · rw [Std.ExtTreeMap.length_keys, h, List.length_map]

-- ════════════════════════════════
-- The checks
-- ════════════════════════════════

/-- What a validated policy is. -/
structure PolicyAccepted (policy : ScenarioProfilePolicy) (validated : ValidatedPolicy) :
    Prop where
  selectedComponents : validated.selectedComponents = asSet policy.selectedComponents
  imageComponents : validated.imageComponents = asSet (policy.images.map (·.component))
  images : ∀ image ∈ policy.images, image.component ∈ policy.selectedComponents

theorem validatePolicy_ok {policy : ScenarioProfilePolicy} {validated : ValidatedPolicy}
    (h : validatePolicy policy = .ok validated) : PolicyAccepted policy validated := by
  simp only [validatePolicy, except_seq_eq_ok] at h
  obtain ⟨-, -, -, -, -, himages, -, -, hvalidated⟩ := h
  obtain rfl := Except.ok.inj hvalidated
  refine ⟨rfl, rfl, fun image himage => ?_⟩
  have himage := except_forM_eq_ok.mp himages image himage
  simp only [validateImagePolicy, except_seq_eq_ok, bailWhen_eq_ok, contains_asSet] at himage
  simpa using himage.2.2.1

/-- What was observed is found under its component, whatever was observed before. -/
theorem observeImages_ok {observed found : StringMap ImageObservation}
    {images : List ImageObservation} (h : observeImages observed images = .ok found) :
    (images.map (·.component)).Nodup ∧ (∀ image ∈ images, image.component ∉ observed) ∧
      ∀ component image, found[component]? = some image ↔
        observed[component]? = some image ∨ image ∈ images ∧ image.component = component := by
  induction images generalizing observed with
  | nil =>
    obtain rfl := Except.ok.inj h
    simp
  | cons image images ih =>
    simp only [observeImages, except_seq_eq_ok, bailWhen_eq_ok] at h
    obtain ⟨hnew, h⟩ := h
    have hnew : image.component ∉ observed := fun hmem =>
      absurd (Std.ExtTreeMap.mem_iff_contains.mp hmem) (Bool.eq_false_iff.mp hnew)
    obtain ⟨hnodup, hfresh, hfound⟩ := ih h
    simp only [Std.ExtTreeMap.mem_insert, not_or] at hfresh
    refine ⟨List.nodup_cons.mpr ⟨fun hmem => ?_, hnodup⟩, ?_, fun component other => ?_⟩
    · obtain ⟨other, hother, heq⟩ := List.mem_map.mp hmem
      exact (hfresh other hother).1 (Std.compare_eq_iff_eq.mpr heq.symm)
    · intro other hother
      rcases List.mem_cons.mp hother with rfl | hother
      · exact hnew
      · exact (hfresh other hother).2
    · rw [hfound, Std.ExtTreeMap.getElem?_insert, List.mem_cons, or_and_right, ← or_assoc]
      refine or_congr_left ?_
      by_cases heq : image.component = component
      · subst heq
        rw [if_pos (Std.compare_eq_iff_eq.mpr rfl), Std.ExtTreeMap.getElem?_eq_none hnew]
        constructor
        · intro hsome
          exact .inr ⟨(Option.some.inj hsome).symm, (Option.some.inj hsome) ▸ rfl⟩
        · rintro (hnone | ⟨rfl, -⟩)
          · cases hnone
          · rfl
      · rw [if_neg fun hcompare => heq (Std.compare_eq_iff_eq.mp hcompare)]
        constructor
        · exact .inl
        · rintro (hsome | ⟨rfl, hcomponent⟩)
          · exact hsome
          · exact absurd hcomponent heq

theorem validateImage_ok {profile : Profile} {component : Component} {image : ImageObservation}
    {policy : ImagePolicy} (h : validateImage profile component image policy = .ok ()) :
    (image.embeddedArtifacts.map (·.location)).Nodup := by
  simp only [validateImage, bind, except_bind_eq_ok] at h
  obtain ⟨_, -, _, -, _, -, _, -, _, -, _, -, _, -, _, -, _, -, _, -, h⟩ := h
  simp only [validateEmbeddedArtifacts, except_seq_eq_ok, bailWhen_eq_ok, decide_eq_false_iff_not,
    not_not] at h
  exact nodup_of_size_keyed h.1

/-- What the checks of a sidecar establish for the images of it. -/
structure SidecarAccepted (policy : ScenarioProfilePolicy) (images : List ImageObservation)
    (observed : StringMap ImageObservation) : Prop where
  once : (images.map (·.component)).Nodup
  found : ∀ component image, observed[component]? = some image ↔
    image ∈ images ∧ image.component = component
  exact : ∀ component : String, component ∈ images.map (·.component) ↔
    component ∈ policy.images.map (·.component)
  artifacts : ∀ image ∈ images, (image.embeddedArtifacts.map (·.location)).Nodup
  copies : validateArtifactCopies observed policy = .ok ()

theorem validateMaterialization_ok {crates : Crates} {profile : Profile} {bytes : List UInt8}
    {materialization : ScenarioProfileMaterialization} {policy : ScenarioProfilePolicy}
    {validated : ValidatedPolicy} (hpolicy : PolicyAccepted policy validated)
    (h : validateMaterialization crates profile bytes materialization policy validated = .ok ()) :
    ∃ observed, SidecarAccepted policy materialization.images observed := by
  simp only [validateMaterialization, bind, except_bind_eq_ok, bailWhen_eq_ok] at h
  obtain ⟨_, -, _, -, _, -, _, -, _, -, _, -, _, -, observed, hobserved, _, hexact, _, himages, _,
    hcopies, -⟩ := h
  obtain ⟨honce, -, hfound⟩ := observeImages_ok hobserved
  have hfound : ∀ component image, observed[component]? = some image ↔
      image ∈ materialization.images ∧ image.component = component := by
    simpa using hfound
  have hexact : asSet observed.keys = asSet (policy.images.map (·.component)) := by
    simpa [hpolicy.imageComponents] using hexact
  have hmem : ∀ component : String, component ∈ materialization.images.map (·.component) ↔
      component ∈ policy.images.map (·.component) := by
    intro component
    have hcontains := congrArg (·.contains component) hexact
    simp only [contains_asSet, decide_eq_decide, Std.ExtTreeMap.mem_keys] at hcontains
    rw [← hcontains, Std.ExtTreeMap.mem_iff_isSome_getElem?, Option.isSome_iff_exists,
      List.mem_map]
    exact exists_congr fun image => (hfound component image).symm
  refine ⟨observed, honce, hfound, hmem, fun image himage => ?_, hcopies⟩
  -- Every observed image was checked under its own policy.
  obtain ⟨imagePolicy, hpolicyMem, hcomponent⟩ :=
    List.mem_map.mp ((hmem image.component).mp (List.mem_map_of_mem himage))
  have hchecked := except_forM_eq_ok.mp himages imagePolicy hpolicyMem
  simp only [validateObserved, bind, except_bind_eq_ok, orBail_eq_ok, hcomponent] at hchecked
  obtain ⟨component, -, checked, hchecked, hvalid⟩ := hchecked
  have heq : observed[image.component]? = some image := (hfound _ _).mpr ⟨himage, rfl⟩
  obtain rfl := Option.some.inj (hchecked.symm.trans heq)
  exact validateImage_ok hvalid

-- ════════════════════════════════
-- Copies
-- ════════════════════════════════

section Copies

variable {policy : ScenarioProfilePolicy} {images : List ImageObservation}
  {observed : StringMap ImageObservation}

/-- What is looked up is the one artifact that was observed at the place. -/
theorem observedArtifact_ok (h : SidecarAccepted policy images observed)
    {component location : String} {artifact : ArtifactReference}
    (hfound : observedArtifact observed component location = .ok artifact) :
    IsObserved images component location artifact ∧
      ∀ other, IsObserved images component location other → other = artifact := by
  simp only [observedArtifact, bind, except_bind_eq_ok, orBail_eq_ok] at hfound
  obtain ⟨image, himage, hartifact⟩ := hfound
  obtain ⟨hmem, hcomponent⟩ := (h.found component image).mp himage
  have hlocation : artifact.location = location := by
    simpa using List.find?_some hartifact
  have hembedded := List.mem_of_find?_eq_some hartifact
  refine ⟨⟨image, hmem, hcomponent, hembedded, hlocation⟩, ?_⟩
  rintro other ⟨image', hmem', hcomponent', hembedded', hlocation'⟩
  have hsame : image' = image := by
    have himage' := (h.found component image').mpr ⟨hmem', hcomponent'⟩
    exact Option.some.inj (himage'.symm.trans himage)
  rw [hsame] at hembedded'
  exact List.inj_on_of_nodup_map (h.artifacts image hmem) hembedded' hembedded
    (hlocation'.trans hlocation.symm)

theorem copyAgrees (h : SidecarAccepted policy images observed) {copy : ArtifactCopyPolicy}
    (hcopy : copy ∈ policy.artifactCopies) : CopyAgrees images copy := by
  have hchecked := except_forM_eq_ok.mp h.copies copy hcopy
  simp only [validateCopied, bind, except_bind_eq_ok, bailWhen_eq_ok, Bool.or_eq_false_iff,
    decide_eq_false_iff_not, not_not] at hchecked
  obtain ⟨source, hsource, destination, hdestination, ⟨hdigest, hbytes⟩, hmediaType⟩ := hchecked
  obtain ⟨hsource, honlySource⟩ := observedArtifact_ok h hsource
  obtain ⟨hdestination, honlyDestination⟩ := observedArtifact_ok h hdestination
  refine ⟨⟨source, hsource⟩, ⟨destination, hdestination⟩, fun artifact artifact' hfrom hto => ?_⟩
  rw [honlySource artifact hfrom, honlyDestination artifact' hto]
  exact ⟨hdigest, hbytes, hmediaType⟩

end Copies

-- ════════════════════════════════
-- The profile
-- ════════════════════════════════

theorem decodeProfile_ok {crates : ContractCrates} {bytes : List UInt8} {profile : Profile}
    (h : decodeProfile crates bytes = .ok profile) :
    parseContract crates bytes = .ok (.profile profile) := by
  unfold decodeProfile at h
  split at h
  · cases h
  · next parsed hparsed => rw [hparsed, Except.ok.inj h]
  · cases h

theorem componentKept {images : List ImageObservation} (h : (images.map (·.component)).Nodup)
    (component : Component) : ComponentKept images component
      (materializeComponent (keyed (·.component) images) component) := by
  constructor
  · intro image himage hcomponent
    rw [materializeComponent, (keyed_getElem? h).mpr ⟨himage, hcomponent⟩]
    rfl
  · intro hunobserved
    rw [materializeComponent]
    cases hfound : (keyed (·.component) images)[component.id]? with
    | none => rfl
    | some image =>
      obtain ⟨himage, hcomponent⟩ := (keyed_getElem? h).mp hfound
      exact absurd (List.mem_map.mpr ⟨image, himage, hcomponent⟩) hunobserved

theorem materializeComponent_id (observations : StringMap ImageObservation)
    (component : Component) : (materializeComponent observations component).id = component.id := by
  unfold materializeComponent
  split <;> rfl

section Profile

variable {policy : ScenarioProfilePolicy} {validated : ValidatedPolicy}
  {materialization : ScenarioProfileMaterialization}

theorem isProjection (hpolicy : PolicyAccepted policy validated)
    (honce : (materialization.images.map (·.component)).Nodup) (crates : Crates)
    (bytes : List UInt8) (source : Profile) :
    IsProjection policy materialization source (materializeProfile crates policy materialization
      bytes (retainSelected validated.selectedComponents source)) := by
  have hselected : ∀ id, validated.selectedComponents.contains id =
      decide (id ∈ policy.selectedComponents) := fun id => by
    rw [hpolicy.selectedComponents, contains_asSet]
  constructor
  case components =>
    simp only [materializeProfile, retainSelected, hselected]
    exact List.forall₂_map_right_iff.mpr
      (List.forall₂_same.mpr fun component _ => componentKept honce component)
  case services => simp only [materializeProfile, retainSelected, hselected]
  case catalogAdapters => simp only [materializeProfile, retainSelected, hselected]
  case extensions =>
    intro key hstate hmaterialization
    simp only [materializeProfile, retainSelected, Std.ExtTreeMap.getElem?_insert,
      Std.compare_eq_iff_eq]
    rw [if_neg (Ne.symm hmaterialization), if_neg (Ne.symm hstate)]
  all_goals rfl

theorem dropsReferences (crates : Crates) (bytes : List UInt8) (source : Profile) :
    DropsReferences source (materializeProfile crates policy materialization bytes
      (retainSelected validated.selectedComponents source)) := by
  intro component hcomponent hdropped
  have hunselected : validated.selectedComponents.contains component.id = false := by
    refine Bool.eq_false_iff.mpr fun hselected => hdropped ?_
    have hmem : component ∈ source.components.filter fun component =>
        validated.selectedComponents.contains component.id :=
      List.mem_filter.mpr ⟨hcomponent, hselected⟩
    simp only [materializeProfile, retainSelected, List.map_map, Function.comp_def,
      materializeComponent_id]
    exact List.mem_map_of_mem hmem
  constructor
  · intro service hservice heq
    have hselected := (List.mem_filter.mp hservice).2
    rw [heq, hunselected] at hselected
    cases hselected
  · intro adapter hadapter heq
    have hselected := (List.mem_filter.mp hadapter).2
    rw [heq, hunselected] at hselected
    cases hselected

end Profile

/-- The printed bytes are read as the profile that was printed. -/
def ReadsBack (crates : ContractCrates) (rendered : List UInt8) (profile : Profile) : Prop :=
  ∃ value, crates.parseJson rendered = .ok value ∧
    (value.get "kind").bind Json.asStr = some "profile" ∧ crates.decodeProfile value = .ok profile

theorem parseContract_of_readsBack {crates : ContractCrates} {rendered : List UInt8}
    {profile : Profile} (h : ReadsBack crates rendered profile)
    (hvalid : profile.collectIssues crates.toCrates "$" = []) :
    parseContract crates rendered = .ok (.profile profile) := by
  obtain ⟨value, hvalue, hkind, hprofile⟩ := h
  rw [parseContract, hvalue]
  dsimp only
  rw [hkind]
  simp [parseTyped, hprofile, hvalid, Except.map]

/-- A materialization that succeeds prints a valid profile, which is the source profile without the
components, services and adapters that the policy leaves out and with the artifacts of the images
that were observed. -/
theorem renderScenarioProfile_projects {crates : MaterializationCrates}
    {sourceProfileBytes materializationBytes rendered : List UInt8}
    {policy : ScenarioProfilePolicy}
    (h : renderScenarioProfile crates sourceProfileBytes materializationBytes policy =
      .ok rendered) :
    ∃ source materialization output text,
      parseContract crates.toContractCrates sourceProfileBytes = .ok (.profile source) ∧
      crates.decodeMaterialization materializationBytes = .ok materialization ∧
      crates.profileText output = .ok text ∧ rendered = text ++ [0x0A] ∧
      output.collectIssues crates.toCrates "$" = [] ∧
      (ReadsBack crates.toContractCrates rendered output →
        parseContract crates.toContractCrates rendered = .ok (.profile output)) ∧
      IsProjection policy materialization source output ∧
      ImagesObserved policy materialization.images ∧ DropsReferences source output ∧
      ∀ copy ∈ policy.artifactCopies, CopyAgrees materialization.images copy := by
  simp only [renderScenarioProfile, bind, except_bind_eq_ok, withContext_eq_ok,
    except_mapError_eq_ok] at h
  obtain ⟨validated, hpolicy, source, hsource, materialization, hmaterialization, _, hsidecar, _,
    hvalid, text, htext, hrendered⟩ := h
  obtain rfl := Except.ok.inj hrendered
  have hpolicy := validatePolicy_ok hpolicy
  obtain ⟨observed, hsidecar⟩ := validateMaterialization_ok hpolicy hsidecar
  simp only [validateProfile, bailWhen_eq_ok, Bool.not_eq_false', List.isEmpty_iff] at hvalid
  refine ⟨source, materialization, _, text, decodeProfile_ok hsource, hmaterialization, htext, rfl,
    hvalid, fun hread => parseContract_of_readsBack hread hvalid,
    isProjection hpolicy hsidecar.once _ _ _, ⟨hsidecar.once, hsidecar.exact, ?_⟩,
    dropsReferences _ _ _, fun copy hcopy => copyAgrees hsidecar hcopy⟩
  intro image himage
  obtain ⟨imagePolicy, himagePolicy, hcomponent⟩ :=
    List.mem_map.mp ((hsidecar.exact _).mp (List.mem_map_of_mem himage))
  exact hcomponent ▸ hpolicy.images imagePolicy himagePolicy

-- ════════════════════════════════
-- A profile of two components, of which one is kept
-- ════════════════════════════════

mutual

/-- The indented text of a value whose numbers are integers and whose texts have nothing to
escape. -/
def prettyText (indent : String) : Json → String
  | .array (value :: values) =>
    "[\n" ++ String.intercalate ",\n" (prettyTexts (indent ++ "  ") (value :: values)) ++ "\n" ++
      indent ++ "]"
  | .object (field :: fields) =>
    "\x7b\n" ++ String.intercalate ",\n" (prettyFields (indent ++ "  ") (field :: fields)) ++
      "\n" ++ indent ++ "\x7d"
  | value => Conformance.compactText value

def prettyTexts (indent : String) : List Json → List String
  | [] => []
  | value :: values => (indent ++ prettyText indent value) :: prettyTexts indent values

def prettyFields (indent : String) : List (String × Json) → List String
  | [] => []
  | (key, value) :: fields =>
    (indent ++ "\"" ++ key ++ "\": " ++ prettyText indent value) :: prettyFields indent fields

end

/-- A digest of one repeated digit. -/
def repeatedDigest (digit : Char) : Digest := ⟨.sha256, String.ofList (List.replicate 64 digit)⟩

def digestJson (digest : Digest) : Json :=
  .object [("algorithm", .string "sha256"), ("value", .string digest.value)]

def platformJson : Json :=
  .object [("operating_system", .string "Linux"), ("architecture", .string "aarch64"),
    ("mode", .string "docker-compose"), ("network", .string "bench"),
    ("shared_object_store", .string "store"), ("warehouse_uri", .string "s3://bench")]

def serviceJson (service : ServiceBinding) : Json :=
  .object [("component", .string service.component), ("role", .string service.role)]

def sourceRevisionJson : Json :=
  .object [("repository", .string "store"), ("revision", .string "r1")]

def broadArtifact : RuntimeArtifact := .containerImage "image:1" .index (repeatedDigest 'a') none []

def broadArtifactJson : Json :=
  .object [("kind", .string "container-image"), ("reference", .string "image:1"),
    ("digest_scope", .string "index"), ("digest", digestJson (repeatedDigest 'a'))]

def storeComponent : Component :=
  ⟨"store", .objectStore, "Store", "1", some ⟨"store", "r1", none, ∅⟩, none, broadArtifact, ∅⟩

def probeComponent : Component :=
  ⟨"probe", .client, "Probe", "1", none, none, broadArtifact, ∅⟩

def storeService : ServiceBinding := ⟨"store", "object-store", none, none, ∅, ∅⟩
def probeService : ServiceBinding := ⟨"probe", "client", none, none, ∅, ∅⟩

def broadProfile : Profile where
  id := "broad"
  title := "Broad"
  description := "Versions"
  resolvedAt := "2026-01-01"
  purpose := .currentCandidate
  readiness := .runnable
  platform := ⟨"Linux", "aarch64", .dockerCompose, none, "bench", "store", "s3://bench", ∅⟩
  components := [storeComponent, probeComponent]
  services := [storeService, probeService]
  catalogCapabilities := []
  catalogAdapters := []
  extensions := ∅

def broadJson : Json :=
  .object [("contract_version", .string "catalog-bench/v1"), ("kind", .string "profile"),
    ("id", .string "broad"), ("title", .string "Broad"), ("description", .string "Versions"),
    ("resolved_at", .string "2026-01-01"), ("purpose", .string "current-candidate"),
    ("readiness", .object [("status", .string "runnable")]), ("platform", platformJson),
    ("components", .array
      [.object [("id", .string "store"), ("kind", .string "object-store"),
          ("name", .string "Store"), ("version", .string "1"), ("source", sourceRevisionJson),
          ("artifact", broadArtifactJson)],
        .object [("id", .string "probe"), ("kind", .string "client"), ("name", .string "Probe"),
          ("version", .string "1"), ("artifact", broadArtifactJson)]]),
    ("services", .array [serviceJson storeService, serviceJson probeService])]

def broadBytes : List UInt8 := utf8 (Conformance.compactText broadJson)

def copiedArtifact (location : String) : ArtifactReference :=
  ⟨location, "application/java-archive", repeatedDigest 'c', some 3, none, ∅⟩

def copiedArtifactJson (location : String) : Json :=
  .object [("location", .string location), ("media_type", .string "application/java-archive"),
    ("digest", digestJson (repeatedDigest 'c')), ("bytes", .number (.posInt 3))]

def storeLabels : List (String × String) :=
  [("com.docker.compose.project", "catalog-bench"), ("com.docker.compose.service", "store"),
    ("com.docker.compose.version", "2.40.0"), ("org.opencontainers.image.revision", "r1")]

def storeLabelsJson : Json := .object (storeLabels.map fun label => (label.1, .string label.2))

def storeImage : ImageObservation where
  component := "store"
  reference := "store:local"
  imageId := repeatedDigest 'b'
  operatingSystem := "linux"
  architecture := "arm64"
  labels := .ofList storeLabels
  embeddedArtifacts := [copiedArtifact "/build/a.jar", copiedArtifact "/run/a.jar"]

def broadDigest : Digest :=
  ⟨.sha256, "f4c70a023b085b74bbd1aaa970755458e545fa58443ca430aaf0ad5688839234"⟩

def storeSidecar : ScenarioProfileMaterialization where
  format := "materialization/v1"
  sourceProfile := ⟨"broad", broadDigest⟩
  outputProfile := ⟨"narrow", "Narrow", "One store", "2026-01-02"⟩
  images := [storeImage]

def sidecarBytes : List UInt8 :=
  utf8 (Conformance.compactText (.object
    [("format", .string "materialization/v1"),
      ("source_profile", .object [("id", .string "broad"), ("digest", digestJson broadDigest)]),
      ("output_profile", .object [("id", .string "narrow"), ("title", .string "Narrow"),
        ("description", .string "One store"), ("resolved_at", .string "2026-01-02")]),
      ("images", .array [.object
        [("component", .string "store"), ("reference", .string "store:local"),
          ("image_id", digestJson (repeatedDigest 'b')), ("operating_system", .string "linux"),
          ("architecture", .string "arm64"), ("labels", storeLabelsJson),
          ("embedded_artifacts", .array
            [copiedArtifactJson "/build/a.jar", copiedArtifactJson "/run/a.jar"])]])]))

def sidecarDigest : String := "549662477b0c8af8af4536c858a95e1b06e839aefcd70aafa30cae7d82a7f3b4"

def storePolicy : ScenarioProfilePolicy where
  name := "store"
  materializationFormat := "materialization/v1"
  scope := "storage"
  purpose := .conformance
  selectedComponents := ["store"]
  images :=
    [{ component := "store"
       composeService := "store"
       requiredArtifacts := [⟨"/build/a.jar", "application/java-archive"⟩,
         ⟨"/run/a.jar", "application/java-archive"⟩]
       requiredLabels := []
       buildExtensionLabel := none }]
  artifactCopies := [⟨"store", "/build/a.jar", "store", "/run/a.jar"⟩]

def narrowJson : Json :=
  .object [("contract_version", .string "catalog-bench/v1"), ("kind", .string "profile"),
    ("id", .string "narrow"), ("title", .string "Narrow"), ("description", .string "One store"),
    ("resolved_at", .string "2026-01-02"), ("purpose", .string "conformance"),
    ("readiness", .object [("status", .string "runnable")]), ("platform", platformJson),
    ("components", .array [.object
      [("id", .string "store"), ("kind", .string "object-store"), ("name", .string "Store"),
        ("version", .string "1"), ("source", sourceRevisionJson),
        ("artifact", .object
          [("kind", .string "container-image"), ("reference", .string "store:local"),
            ("digest_scope", .string "local-image"), ("digest", digestJson (repeatedDigest 'b')),
            ("embedded_artifacts", .array
              [copiedArtifactJson "/build/a.jar", copiedArtifactJson "/run/a.jar"])]),
        ("extensions", .object [(imageObservationKey, .object
          [("architecture", .string "arm64"), ("labels", storeLabelsJson),
            ("operating_system", .string "linux")])])]]),
    ("services", .array [serviceJson storeService]),
    ("extensions", .object
      [(materializationKey, .object
          [("format", .string "materialization/v1"),
            ("observation_sha256", .string sidecarDigest), ("scope", .string "storage"),
            ("source_profile", .object
              [("digest", digestJson broadDigest), ("id", .string "broad")])]),
        (profileStateKey, profileState)])]

/-- The bytes that a lowercase hexadecimal text stands for. -/
def unhex : List Char → List UInt8
  | high :: low :: digits =>
    let value (c : Char) : ℕ := if c.isDigit then c.toNat - 48 else c.toNat - 87
    UInt8.ofNat (16 * value high + value low) :: unhex digits
  | _ => []

/-- The library functions on the documents of the sample. -/
def storeCrates : MaterializationCrates where
  toCrates :=
    { sampleCrates with
      sha256 := fun bytes =>
        if bytes = broadBytes then unhex broadDigest.value.toList
        else if bytes = sidecarBytes then unhex sidecarDigest.toList
        else [] }
  parseJson bytes := if bytes = broadBytes then .ok broadJson else .error "expected value"
  decodeScenario _ := .error "not a scenario"
  decodeResult _ := .error "not a result"
  decodeProfile _ := .ok broadProfile
  decodeManifest _ := .error "not a manifest"
  parseF64 _ := none
  decodeMaterialization bytes :=
    if bytes = sidecarBytes then .ok storeSidecar else .error "expected value"
  profileText _ := .ok (utf8 (prettyText "" narrowJson))

theorem storeCrates_renders :
    (renderScenarioProfile storeCrates broadBytes sidecarBytes storePolicy).isOk = true := by
  decide +kernel

/-- One component is kept with the artifacts of its image, and the other is left out. -/
theorem renderScenarioProfile_projects_sample :
    ∃ source output,
      parseContract storeCrates.toContractCrates broadBytes = .ok (.profile source) ∧
      output.collectIssues storeCrates.toCrates "$" = [] ∧
      IsProjection storePolicy storeSidecar source output ∧
      ImagesObserved storePolicy storeSidecar.images ∧ DropsReferences source output ∧
      ∀ copy ∈ storePolicy.artifactCopies, CopyAgrees storeSidecar.images copy := by
  have hok := storeCrates_renders
  cases hrender : renderScenarioProfile storeCrates broadBytes sidecarBytes storePolicy with
  | error e =>
    rw [hrender] at hok
    cases hok
  | ok rendered =>
    obtain ⟨source, materialization, output, text, hsource, hmaterialization, -, -, hvalid, -,
      hprojection, himages, hdropped, hcopies⟩ := renderScenarioProfile_projects hrender
    have hdecoded : storeCrates.decodeMaterialization sidecarBytes = .ok storeSidecar := by
      simp only [storeCrates, if_true]
    obtain rfl := Except.ok.inj (hdecoded.symm.trans hmaterialization)
    exact ⟨source, output, hsource, hvalid, hprojection, himages, hdropped, hcopies⟩

end CatalogBench.ContractTool.ProfileMaterialization
