import CatalogBench.Contract.Profile

/-!
# What a valid profile binds

The checks of a profile are spread over the profile, its adapters and their coverage. Together they
bind every catalog of the profile to one adapter and one service, and sort every capability for it.
-/

set_option linter.all false

namespace CatalogBench.Contract

-- ════════════════════════════════
-- One adapter
-- ════════════════════════════════

/-- The only service of the catalog is the one the adapter speaks to. -/
def BoundService (profile : Profile) (adapter : CatalogAdapter) : Prop :=
  ∃ service, (profile.services.filter fun service => service.component = adapter.catalog) = [service] ∧
    service.role = "iceberg-rest-catalog" ∧ service.endpoint = some adapter.endpoint.baseUrl

theorem validateAdapterService_eq_nil {profile : Profile} {adapter : CatalogAdapter} {path : String} :
    validateAdapterService profile adapter path = [] ↔ BoundService profile adapter := by
  unfold validateAdapterService BoundService
  split
  · next service hservices =>
    rw [List.append_eq_nil_iff, issueWhen_eq_nil, issueWhen_eq_nil, hservices]
    simp
  · next hservices =>
    constructor
    · intro h
      cases h
    · rintro ⟨service, hmatching, -⟩
      exact absurd hmatching (hservices service)

/-- A shim is a connector of the profile. -/
def BoundShim (profile : Profile) (adapter : CatalogAdapter) : Prop :=
  ∀ shim, adapter.requestHandling.shimComponent = some shim →
    ∃ component ∈ profile.components, component.id = shim ∧ component.kind = .connector

theorem validateAdapterShim_eq_nil {profile : Profile} {adapter : CatalogAdapter} {path : String}
    (h : validateAdapterShim profile adapter path = []) : BoundShim profile adapter := by
  intro shim hshim
  unfold validateAdapterShim at h
  rw [hshim, whenSome, Option.map_some, Option.getD_some] at h
  split at h
  · next component hfind =>
    rw [issueWhen_eq_nil] at h
    exact ⟨component, List.mem_of_find?_eq_some hfind, by simpa using List.find?_some hfind,
      by simpa using h⟩
  · cases h

/-- What an explicit coverage mentions, exercised or not. -/
def AdapterCapabilityCoverage.mentioned : AdapterCapabilityCoverage → List CapabilityId
  | .exerciseAll => []
  | .explicit exercise unsupported => exercise ++ unsupported.map (·.capability)

theorem nodup_mentioned {coverage : AdapterCapabilityCoverage} {path : String}
    (h : validateCapabilityCoverage coverage path = []) : coverage.mentioned.Nodup := by
  cases coverage with
  | exerciseAll => exact List.nodup_nil
  | explicit exercise unsupported =>
    simp only [validateCapabilityCoverage, List.append_eq_nil_iff, requireUnique_eq_nil] at h
    obtain ⟨⟨hexercise, hunsupported⟩, hlimitations⟩ := h
    refine List.nodup_append.mpr ⟨hexercise, hunsupported, ?_⟩
    rintro capability hleft _ hright rfl
    obtain ⟨limitation, hmem, rfl⟩ := List.mem_map.mp hright
    obtain ⟨_, hissue⟩ := eachIndexed_eq_nil hlimitations hmem
    simp only [List.append_eq_nil_iff, issueWhen_eq_nil] at hissue
    simp [hleft] at hissue

theorem mentioned_defined {adapter : CatalogAdapter} {defined : List CapabilityId} {path : String}
    (h : validateAdapterCapabilities adapter defined path = []) :
    ∀ capability ∈ adapter.capabilities.mentioned, capability ∈ defined := by
  unfold validateAdapterCapabilities at h
  split at h
  · next hcase =>
    rw [hcase]
    exact nofun
  · next exercise unsupported hcase =>
    rw [List.append_eq_nil_iff, List.map_eq_nil_iff, List.map_eq_nil_iff, difference_eq_nil,
      difference_eq_nil] at h
    rw [hcase]
    exact h.2

-- ════════════════════════════════
-- The profile
-- ════════════════════════════════

/-- Exactly one of two statements. -/
def ExactlyOne (p q : Prop) : Prop := (p ∧ ¬q) ∨ (q ∧ ¬p)

namespace Profile

variable {crates : Crates} {profile : Profile} {path : String}

def catalogIds (profile : Profile) : List ComponentId :=
  (profile.components.filter fun component => component.kind = .catalog).map (·.id)

theorem catalogAdapters_valid (h : profile.collectIssues crates path = []) :
    validateCatalogAdapters crates profile path = [] := by
  simp only [collectIssues, List.append_eq_nil_iff] at h
  exact h.2

/-- Where there is a contract, adapters and catalogs are the same. -/
theorem adapters_catalogs (h : profile.collectIssues crates path = [])
    (hcontract : profile.catalogCapabilities ≠ [] ∨ profile.catalogAdapters ≠ []) :
    (profile.catalogAdapters.map (·.catalog)).Nodup ∧
      ∀ id, id ∈ profile.catalogAdapters.map (·.catalog) ↔ id ∈ profile.catalogIds := by
  refine ⟨nodup_catalogAdapters h, ?_⟩
  have hvalid := catalogAdapters_valid h
  have hpresent : ¬(((profile.catalogIds.isEmpty ||
      decide (profile.purpose = .historicalReproduction)) &&
        !(!profile.catalogCapabilities.isEmpty || !profile.catalogAdapters.isEmpty)) = true) := by
    rcases hcontract with hcapabilities | hadapters
    · simp [hcapabilities]
    · simp [hadapters]
  simp only [validateCatalogAdapters] at hvalid
  rw [catalogIds] at hpresent
  rw [if_neg hpresent] at hvalid
  simp only [List.append_eq_nil_iff, List.map_eq_nil_iff, difference_eq_nil, and_assoc] at hvalid
  obtain ⟨-, -, -, -, hmissing, hextra, -⟩ := hvalid
  exact fun id => ⟨hextra id, hmissing id⟩

/-- Every adapter of a valid profile passes each of its checks. -/
theorem adapter_checks (h : profile.collectIssues crates path = []) {adapter : CatalogAdapter}
    (hadapter : adapter ∈ profile.catalogAdapters) :
    BoundService profile adapter ∧ BoundShim profile adapter ∧
      adapter.capabilities.mentioned.Nodup ∧
        ∀ capability ∈ adapter.capabilities.mentioned,
          capability ∈ profile.catalogCapabilities.map (·.id) := by
  have hvalid := catalogAdapters_valid h
  simp only [validateCatalogAdapters] at hvalid
  split at hvalid
  · next hskip =>
    simp only [Bool.and_eq_true, Bool.not_eq_true', Bool.or_eq_false_iff, Bool.not_eq_false',
      List.isEmpty_iff] at hskip
    rw [hskip.2.2] at hadapter
    cases hadapter
  · next hpresent =>
    simp only [List.append_eq_nil_iff, and_assoc] at hvalid
    obtain ⟨-, -, -, -, -, -, hissues⟩ := hvalid
    obtain ⟨index, hissues⟩ := eachIndexed_eq_nil hissues hadapter
    simp only [List.append_eq_nil_iff, and_assoc] at hissues
    obtain ⟨haccepted, -, hservice, hshim, hcapabilities⟩ := hissues
    simp only [CatalogAdapter.collectIssues, List.append_eq_nil_iff] at haccepted
    exact ⟨validateAdapterService_eq_nil.mp hservice, validateAdapterShim_eq_nil hshim,
      nodup_mentioned haccepted.2, mentioned_defined hcapabilities⟩

/-- A valid profile with a catalog contract binds every catalog to one adapter with its service, any
shim to a connector, and sorts every capability of an adapter. -/
theorem valid_binds (h : profile.collectIssues crates path = [])
    (hcontract : profile.catalogCapabilities ≠ [] ∨ profile.catalogAdapters ≠ []) :
    (profile.catalogAdapters.map (·.catalog)).Nodup ∧
      (∀ id, id ∈ profile.catalogAdapters.map (·.catalog) ↔
        ∃ component ∈ profile.components, component.kind = .catalog ∧ component.id = id) ∧
      ∀ adapter ∈ profile.catalogAdapters,
        BoundService profile adapter ∧ BoundShim profile adapter ∧
          (∀ capability ∈ profile.catalogCapabilities.map (·.id),
            ExactlyOne (adapter.capabilities.exercises capability = true)
              ((adapter.capabilities.limitation capability).isSome = true)) ∧
          adapter.capabilities.mentioned.Nodup ∧
            ∀ capability ∈ adapter.capabilities.mentioned,
              capability ∈ profile.catalogCapabilities.map (·.id) := by
  obtain ⟨hdistinct, hcatalogs⟩ := adapters_catalogs h hcontract
  refine ⟨hdistinct, fun id => ?_, fun adapter hadapter => ?_⟩
  · rw [hcatalogs, catalogIds, List.mem_map]
    simp [and_assoc]
  · obtain ⟨hservice, hshim, hnodup, hdefined⟩ := adapter_checks h hadapter
    refine ⟨hservice, hshim, fun capability hcapability => ?_, hnodup, hdefined⟩
    have hlimitation := limitation_isSome_iff h hadapter capability
    cases hexercises : adapter.capabilities.exercises capability with
    | true =>
      refine .inl ⟨rfl, fun hsome => ?_⟩
      rw [(hlimitation.mp hsome).2] at hexercises
      cases hexercises
    | false => exact .inr ⟨hlimitation.mpr ⟨hcapability, hexercises⟩, Bool.false_ne_true⟩

def boundComponent (id : ComponentId) (kind : ComponentKind) : Component :=
  { id, kind, name := id, version := "1.0", source := none, build := none
    artifact := .containerImage id .localImage ⟨.sha256, String.ofList (List.replicate 64 'a')⟩ none []
    extensions := ∅ }

/-- One catalog, spoken to through a shim, that cannot do everything. -/
def boundProfile : Profile where
  id := "bound"
  title := "Bound"
  description := "One catalog behind a shim."
  resolvedAt := "2026-08-27"
  purpose := .conformance
  readiness := .runnable
  platform := ⟨"linux", "arm64", .dockerCompose, none, "bridge", "store", "s3://bench", ∅⟩
  components := [boundComponent "store" .objectStore, boundComponent "catalog" .catalog,
    boundComponent "shim" .connector]
  services := [⟨"catalog", "iceberg-rest-catalog", some "http://catalog:8181", none, ∅, ∅⟩]
  catalogCapabilities := [⟨"create", "Creates tables.", none⟩, ⟨"views", "Has views.", none⟩]
  catalogAdapters :=
    [{ catalog := "catalog", protocol := .icebergRestV1
       endpoint := ⟨"http://catalog:8181", ⟨"/v1/config", ∅⟩, .unprefixed, none⟩
       authentication := .anonymous
       requestHandling := .behaviorChangingShim "shim" "Rewrites the location."
       capabilities := .explicit ["create"] [⟨"views", .catalog, "There are no views.", none⟩]
       extensions := ∅ }]
  extensions := ∅

theorem boundCapabilities_valid {adapter : CatalogAdapter} {path : String}
    (hadapter : adapter ∈ boundProfile.catalogAdapters) :
    validateAdapterCapabilities adapter (boundProfile.catalogCapabilities.map (·.id)) path = [] := by
  obtain rfl := List.mem_singleton.mp hadapter
  simp only [validateAdapterCapabilities, List.append_eq_nil_iff, List.map_eq_nil_iff,
    difference_eq_nil]
  decide

theorem boundAdapters_valid : validateCatalogAdapters sampleCrates boundProfile "$" = [] := by
  rw [validateCatalogAdapters, if_neg (by decide)]
  simp only [List.append_eq_nil_iff, List.map_eq_nil_iff, difference_eq_nil]
  refine ⟨⟨⟨⟨⟨⟨?_, ?_⟩, ?_⟩, ?_⟩, ?_⟩, ?_⟩, ?_⟩
  · decide
  · decide
  · decide
  · decide
  · decide
  · decide
  · refine List.flatMap_eq_nil_iff.mpr fun entry hentry => ?_
    obtain rfl := List.mem_singleton.mp hentry
    rw [List.append_eq_nil_iff]
    exact ⟨by decide, boundCapabilities_valid (List.mem_singleton.mpr rfl)⟩

theorem boundProfile_valid : boundProfile.collectIssues sampleCrates "$" = [] := by
  rw [Profile.collectIssues, List.append_eq_nil_iff]
  exact ⟨by decide +kernel, boundAdapters_valid⟩

theorem valid_binds_boundProfile :
    (boundProfile.catalogAdapters.map (·.catalog)).Nodup :=
  (valid_binds boundProfile_valid (.inl (List.cons_ne_nil _ _))).1

end Profile

end CatalogBench.Contract
