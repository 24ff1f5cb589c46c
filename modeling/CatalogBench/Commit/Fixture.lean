import CatalogBench.Commit.Canonical
import CatalogBench.Commit.Schedule
import CatalogBench.Library.Decimal
import CatalogBench.Library.ListRel

/-!
# Fixtures

What a plan made from contracts holds, and when the fixtures of its rounds are disjoint. The name
of a fixture is read from the right: the repetition, the fixture id and then the catalog, whose
dashes have become underscores.
-/

set_option linter.all false

namespace CatalogBench.Commit
open MachineInt Interaction CatalogBench.Contract Decimal ListRel

-- ════════════════════════════════
-- Plans
-- ════════════════════════════════

/-- A plan over these catalogs, as the policy makes it. -/
structure ContentionPlan.Made (plan : ContentionPlan) (catalogs : List CatalogRun) : Prop where
  nonempty : catalogs ≠ []
  distinct : (catalogs.map (·.catalog)).Nodup
  policy : validateRounds plan.parameters.roundPolicy = .ok ()
  balanced : plan.parameters.roundPolicy.measuredRounds = catalogs.length
  rounds : plan.rounds =
    (List.range (plan.parameters.roundPolicy.conditioningRounds +
      plan.parameters.roundPolicy.measuredRounds)).map
        (scheduledRound catalogs plan.parameters.roundPolicy)

theorem validateParameters_rounds {crates : Crates} {parameters : ContentionParameters}
    (h : validateParameters crates parameters = .ok ()) :
    validateRounds parameters.roundPolicy = .ok () := by
  obtain ⟨-, h⟩ := except_seq_eq_ok.mp h
  obtain ⟨-, h⟩ := except_seq_eq_ok.mp h
  exact (except_seq_eq_ok.mp h).1

theorem validateAdapter_catalog {profile : Profile} {scenario : Scenario}
    {adapter : CatalogAdapter} {run : CatalogRun}
    (h : validateAdapter profile scenario adapter = .ok run) : run.catalog = adapter.catalog := by
  obtain ⟨-, h⟩ := except_seq_eq_ok.mp h
  obtain ⟨-, h⟩ := except_seq_eq_ok.mp h
  obtain ⟨-, h⟩ := except_seq_eq_ok.mp h
  obtain ⟨component, -, h⟩ := except_bind_eq_ok.mp h
  obtain ⟨-, h⟩ := except_seq_eq_ok.mp h
  cases h
  rfl

/-- The runs of a plan are the adapters of the profile, in order. -/
theorem validateProfile_eq_ok {profile : Profile} {scenario : Scenario}
    {parameters : ContentionParameters} {catalogs : List CatalogRun}
    (h : validateProfile profile scenario parameters = .ok catalogs) :
    catalogs ≠ [] ∧ profile.catalogAdapters.mapM (validateAdapter profile scenario) = .ok catalogs ∧
      catalogs.map (·.catalog) = profile.catalogAdapters.map (·.catalog) ∧
      parameters.roundPolicy.measuredRounds = catalogs.length := by
  obtain ⟨-, h⟩ := except_seq_eq_ok.mp h
  obtain ⟨-, h⟩ := except_seq_eq_ok.mp h
  obtain ⟨-, h⟩ := except_seq_eq_ok.mp h
  obtain ⟨_, -, h⟩ := except_bind_eq_ok.mp h
  obtain ⟨-, h⟩ := except_seq_eq_ok.mp h
  obtain ⟨_, -, h⟩ := except_bind_eq_ok.mp h
  obtain ⟨-, h⟩ := except_seq_eq_ok.mp h
  obtain ⟨_, -, h⟩ := except_bind_eq_ok.mp h
  obtain ⟨-, h⟩ := except_seq_eq_ok.mp h
  obtain ⟨hadapters, h⟩ := except_seq_eq_ok.mp h
  obtain ⟨runs, hruns, h⟩ := except_bind_eq_ok.mp h
  obtain ⟨hbalanced, h⟩ := except_seq_eq_ok.mp h
  cases h
  have hids : catalogs.map (·.catalog) = profile.catalogAdapters.map (·.catalog) :=
    forall₂_map_eq (except_mapM_forall₂ hruns) fun _ _ hrun => validateAdapter_catalog hrun
  refine ⟨?_, hruns, hids, by simpa using hbalanced⟩
  rintro rfl
  have hempty : profile.catalogAdapters = [] := List.map_eq_nil_iff.mp hids.symm
  rw [hempty] at hadapters
  cases hadapters

/-- A plan made from contracts runs the catalogs of the profile under the parameters of the
scenario. -/
theorem ContentionPlan.fromContracts_runs {crates : PolicyCrates} {profile : Profile}
    {scenario : Scenario} {plan : ContentionPlan}
    (hdistinct : (profile.catalogAdapters.map (·.catalog)).Nodup)
    (h : fromContracts crates profile scenario = .ok plan) :
    ∃ catalogs, Commit.decodeParameters crates scenario = .ok plan.parameters ∧
      profile.catalogAdapters.mapM (validateAdapter profile scenario) = .ok catalogs ∧
      catalogs.map (·.catalog) = profile.catalogAdapters.map (·.catalog) ∧ plan.Made catalogs := by
  obtain ⟨-, h⟩ := except_seq_eq_ok.mp h
  obtain ⟨parameters, hdecoded, h⟩ := except_bind_eq_ok.mp h
  obtain ⟨hparameters, h⟩ := except_seq_eq_ok.mp h
  obtain ⟨-, h⟩ := except_seq_eq_ok.mp h
  obtain ⟨catalogs, hcatalogs, h⟩ := except_bind_eq_ok.mp h
  obtain ⟨rounds, hrounds, h⟩ := except_bind_eq_ok.mp h
  cases h
  obtain ⟨hne, hruns, hids, hbalanced⟩ := validateProfile_eq_ok hcatalogs
  exact ⟨catalogs, hdecoded, hruns, hids, hne, hids ▸ hdistinct,
    validateParameters_rounds hparameters, hbalanced, (scheduleRounds_eq_ok.mp hrounds).2.2⟩

/-- A plan made from an accepted profile and a scenario runs the catalogs of the profile. -/
theorem ContentionPlan.fromContracts_made {crates : PolicyCrates} {profile : Profile}
    {scenario : Scenario} {plan : ContentionPlan}
    (hprofile : profile.collectIssues crates.toCrates "$" = [])
    (h : fromContracts crates profile scenario = .ok plan) :
    ∃ catalogs, catalogs.map (·.catalog) = profile.catalogAdapters.map (·.catalog) ∧
      plan.Made catalogs := by
  obtain ⟨catalogs, -, -, hids, hmade⟩ :=
    fromContracts_runs (Profile.nodup_catalogAdapters hprofile) h
  exact ⟨catalogs, hids, hmade⟩

/-- The order of the adapters is the order of the catalogs, and nothing else depends on it. -/
theorem ContentionPlan.fromContracts_reordered {crates : PolicyCrates} {profile : Profile}
    {scenario : Scenario} {plan plan' : ContentionPlan} {adapters : List CatalogAdapter}
    (hprofile : profile.collectIssues crates.toCrates "$" = [])
    (hperm : adapters.Perm profile.catalogAdapters)
    (h : fromContracts crates profile scenario = .ok plan)
    (h' : fromContracts crates { profile with catalogAdapters := adapters } scenario = .ok plan') :
    ∃ catalogs catalogs', plan.Made catalogs ∧ plan'.Made catalogs' ∧ catalogs'.Perm catalogs ∧
      plan'.parameters = plan.parameters := by
  have hdistinct := Profile.nodup_catalogAdapters hprofile
  obtain ⟨catalogs, hdecoded, hruns, -, hmade⟩ := fromContracts_runs hdistinct h
  obtain ⟨catalogs', hdecoded', hruns', -, hmade'⟩ :=
    fromContracts_runs ((hperm.map _).nodup_iff.mpr hdistinct) h'
  exact ⟨catalogs, catalogs', hmade, hmade', except_mapM_perm hperm hruns' hruns,
    Except.ok.inj (hdecoded'.symm.trans hdecoded)⟩

namespace ContentionPlan.Made

variable {plan : ContentionPlan} {catalogs : List CatalogRun}

/-- Every catalog has a turn in every repetition. -/
theorem isScheduled_iff (h : plan.Made catalogs) {catalog : ComponentId} {repetition : ℕ} :
    plan.isScheduled catalog repetition = true ↔
      (1 ≤ repetition ∧ repetition ≤ plan.parameters.roundPolicy.conditioningRounds +
        plan.parameters.roundPolicy.measuredRounds) ∧ catalog ∈ catalogs.map (·.catalog) := by
  simp only [isScheduled, h.rounds, List.any_map, List.any_eq_true, List.mem_range,
    Function.comp_apply, Bool.and_eq_true, decide_eq_true_eq, List.mem_map]
  constructor
  · rintro ⟨index, hindex, rfl, run, hrun, rfl⟩
    have hlt : index + 1 ≤ plan.parameters.roundPolicy.conditioningRounds +
        plan.parameters.roundPolicy.measuredRounds := hindex
    exact ⟨⟨Nat.le_add_left 1 index, hlt⟩, run, (scheduledRound_perm index).mem_iff.mp hrun, rfl⟩
  · rintro ⟨⟨hpos, hle⟩, run, hrun, rfl⟩
    obtain ⟨index, rfl⟩ := Nat.exists_eq_add_of_le hpos
    exact ⟨index, by omega, Nat.add_comm index 1, run,
      (scheduledRound_perm index).mem_iff.mpr hrun, rfl⟩

end ContentionPlan.Made

-- ════════════════════════════════
-- Names
-- ════════════════════════════════

theorem isDigit_of_mem_twoDigits {n : ℕ} {c : Char} (hc : c ∈ (twoDigits n).toList) :
    c.isDigit = true := by
  unfold twoDigits at hc
  split at hc
  · rw [String.toList_append] at hc
    rcases List.mem_append.mp hc with hzero | hc
    · simp_all
    · exact isDigit_of_mem_toString hc
  · exact isDigit_of_mem_toString hc

/-- The padding does not change the number. -/
theorem twoDigits_inj {m n : ℕ} (h : twoDigits m = twoDigits n) : m = n := by
  have hvalue (n : ℕ) : Nat.ofDigitChars 10 (twoDigits n).toList 0 = n := by
    unfold twoDigits
    split
    · rw [String.toList_append]
      exact ofDigitChars_toString n
    · exact ofDigitChars_toString n
  rw [← hvalue m, h, hvalue]

/-- For one fixture id a name determines the stem of the catalog and the repetition. -/
theorem namespace_inj {start stem stem' id : String} {repetition repetition' : ℕ}
    (h : start ++ "_" ++ stem ++ "_" ++ id ++ "_r" ++ twoDigits repetition =
      start ++ "_" ++ stem' ++ "_" ++ id ++ "_r" ++ twoDigits repetition') :
    stem = stem' ∧ repetition = repetition' := by
  have hlist : (start ++ "_" ++ stem ++ "_" ++ id ++ "_").toList ++
        'r' :: (twoDigits repetition).toList =
      (start ++ "_" ++ stem' ++ "_" ++ id ++ "_").toList ++
        'r' :: (twoDigits repetition').toList := by
    simpa using congrArg String.toList h
  obtain ⟨hname, -, hdigits⟩ := last_segment_inj (p := fun c : Char => c.isDigit = true)
    (fun _ => isDigit_of_mem_twoDigits) (fun _ => isDigit_of_mem_twoDigits) (by decide) (by decide)
    hlist
  refine ⟨String.toList_injective ?_, twoDigits_inj (String.toList_injective hdigits)⟩
  simpa using hname

-- ════════════════════════════════
-- Disjointness
-- ════════════════════════════════

/-- The catalog can be part of a name. -/
def isSafeCatalog (catalog : ComponentId) : Bool := (catalogStem catalog).toList.all isFixtureChar

theorem ContentionPlan.fixture_eq_ok {plan : ContentionPlan} {catalog : ComponentId}
    {fixtureId : String} {repetition : ℕ} {fixture : ContentionFixture} :
    plan.fixture catalog fixtureId repetition = .ok fixture ↔
      validateFixtureId fixtureId plan.parameters.limits.maximumFixtureIdBytes = .ok () ∧
      (repetition ≠ 0 ∧ plan.isScheduled catalog repetition = true) ∧
      isSafeCatalog catalog = true ∧
      fixture = ⟨fixtureId, plan.parameters.fixturePrefix ++ "_" ++ catalogStem catalog ++ "_" ++
        fixtureId ++ "_r" ++ twoDigits repetition, "same_table_contention"⟩ := by
  rw [ContentionPlan.fixture, except_seq_eq_ok, except_seq_eq_ok, except_seq_eq_ok, rejectWhen_eq_ok,
    rejectWhen_eq_ok, isSafeCatalog]
  simp only [Bool.or_eq_false_iff, decide_eq_false_iff_not, Bool.not_eq_false', pure, Except.pure,
    Except.ok.injEq, eq_comm (a := fixture), ne_eq]

/-- No two fixtures that the plan makes from the fixture id share a namespace. -/
def FixturesDisjoint (plan : ContentionPlan) (fixtureId : String) : Prop :=
  ∀ catalog repetition catalog' repetition' fixture fixture',
    plan.fixture catalog fixtureId repetition = .ok fixture →
    plan.fixture catalog' fixtureId repetition' = .ok fixture' →
    fixture.namespace = fixture'.namespace → catalog = catalog' ∧ repetition = repetition'

/-- **Disjoint fixtures.** The fixtures of a plan are disjoint exactly when no two catalogs of
the profile whose names are safe become equal once their dashes are underscores, or when the
fixture id is refused. -/
theorem fixturesDisjoint_iff {crates : PolicyCrates} {profile : Profile} {scenario : Scenario}
    {plan : ContentionPlan} (hprofile : profile.collectIssues crates.toCrates "$" = [])
    (hplan : ContentionPlan.fromContracts crates profile scenario = .ok plan)
    (fixtureId : String) :
    FixturesDisjoint plan fixtureId ↔
      (validateFixtureId fixtureId plan.parameters.limits.maximumFixtureIdBytes = .ok () →
        ∀ adapter ∈ profile.catalogAdapters, ∀ adapter' ∈ profile.catalogAdapters,
          isSafeCatalog adapter.catalog = true →
          catalogStem adapter.catalog = catalogStem adapter'.catalog →
            adapter.catalog = adapter'.catalog) := by
  obtain ⟨catalogs, hids, hmade⟩ := ContentionPlan.fromContracts_made hprofile hplan
  constructor
  · intro hdisjoint hid adapter hadapter adapter' hadapter' hsafe hstem
    -- Both catalogs have a turn in the first round.
    have hscheduled (adapter) (hadapter : adapter ∈ profile.catalogAdapters) :
        plan.isScheduled adapter.catalog 1 = true := by
      obtain ⟨hconditioning, -, -⟩ := validateRounds_eq_ok hmade.policy
      refine hmade.isScheduled_iff.mpr ⟨⟨le_rfl, by omega⟩, ?_⟩
      rw [hids]
      exact List.mem_map_of_mem hadapter
    have hsafe' : isSafeCatalog adapter'.catalog = true := by
      rwa [isSafeCatalog, ← hstem]
    have hfixture := ContentionPlan.fixture_eq_ok.mpr
      ⟨hid, ⟨one_ne_zero, hscheduled adapter hadapter⟩, hsafe, rfl⟩
    have hfixture' := ContentionPlan.fixture_eq_ok.mpr
      ⟨hid, ⟨one_ne_zero, hscheduled adapter' hadapter'⟩, hsafe', rfl⟩
    exact (hdisjoint _ _ _ _ _ _ hfixture hfixture' (by rw [hstem])).1
  · intro hstems catalog repetition catalog' repetition' fixture fixture' h h' hname
    obtain ⟨hid, ⟨-, hscheduled⟩, hsafe, rfl⟩ := ContentionPlan.fixture_eq_ok.mp h
    obtain ⟨-, ⟨-, hscheduled'⟩, -, rfl⟩ := ContentionPlan.fixture_eq_ok.mp h'
    obtain ⟨hstem, hrepetition⟩ := namespace_inj hname
    have hmem := (hmade.isScheduled_iff.mp hscheduled).2
    have hmem' := (hmade.isScheduled_iff.mp hscheduled').2
    rw [hids] at hmem hmem'
    obtain ⟨adapter, hadapter, rfl⟩ := List.mem_map.mp hmem
    obtain ⟨adapter', hadapter', rfl⟩ := List.mem_map.mp hmem'
    exact ⟨hstems hid adapter hadapter adapter' hadapter' hsafe hstem, hrepetition⟩

-- ════════════════════════════════
-- A sweep
-- ════════════════════════════════

/-- Five catalogs with the hosts they are served from. -/
def sweepHosts : List (ComponentId × String × String) :=
  [("lake-cat", "http://lake1:8181", "lake1"), ("lake_cat", "http://lake2:8181", "lake2"),
   ("nessie", "http://nessie:8181", "nessie"), ("polaris", "http://polaris:8181", "polaris"),
   ("gravitino", "http://gravitino:8181", "gravitino")]

def sweepComponent (id : ComponentId) (kind : ComponentKind) : Component :=
  { id, kind, name := id, version := "1.0", source := none, build := none
    artifact := .containerImage id .localImage ⟨.sha256, hex (List.replicate 32 171)⟩ none []
    extensions := ∅ }

def sweepService (component : ComponentId) (role endpoint : String) (settings : StringMap Json) :
    ServiceBinding :=
  ⟨component, role, some endpoint, none, settings, ∅⟩

def sweepAdapter (catalog : ComponentId) (baseUrl : String) : CatalogAdapter :=
  { catalog, protocol := .icebergRestV1
    endpoint := ⟨baseUrl, ⟨"/v1/config", ∅⟩, .unprefixed, none⟩
    authentication := .anonymous, requestHandling := .protocolNative, capabilities := .exerciseAll
    extensions := ∅ }

/-- A profile in which the ids `lake-cat` and `lake_cat` differ in one character. -/
def sweepProfile : Profile where
  id := "contention"
  title := "Contention"
  description := "Five catalogs over one object store."
  resolvedAt := "2026-08-27"
  purpose := .performance
  readiness := .runnable
  platform := ⟨"linux", "arm64", .dockerCompose, none, "bridge", "minio", "s3://warehouse", ∅⟩
  components :=
    sweepComponent runnerComponentId .benchmarkHarness :: sweepComponent "minio" .objectStore ::
      sweepHosts.map fun host => sweepComponent host.1 .catalog
  services :=
    sweepService "minio" "object-store" "http://minio:9000"
        (.ofList [("bucket", .string "warehouse"), ("region", .string "us-east-1"),
          ("path_style_access", .bool true)] _) ::
      sweepHosts.map fun host => sweepService host.1 "iceberg-rest-catalog" host.2.1 ∅
  catalogCapabilities := canonicalCapabilities.map fun requirement =>
    ⟨requirement.capability, "Required.", none⟩
  catalogAdapters := sweepHosts.map fun host => sweepAdapter host.1 host.2.1
  extensions := ∅

/-- The library functions on the sweep. -/
def sweepCrates : PolicyCrates where
  toCrates := { sampleCrates with
    parseUrl := fun url =>
      if url = "http://minio:9000" then
        .ok ⟨"http", some "minio", some 9000, "", none, none, none, "/"⟩
      else
        match sweepHosts.find? fun host => host.2.1 = url with
        | some host => .ok ⟨"http", some host.2.2, some 8181, "", none, none, none, "/"⟩
        | none => .error "relative URL without a base" }
  parseJson _ := .error "expected value at line 1 column 1"
  decodeScenario _ := .error "invalid type"
  decodeResult _ := .error "invalid type"
  decodeProfile _ := .error "invalid type"
  decodeManifest _ := .error "invalid type"
  parseF64 _ := none
  decodeParameters parameters :=
    if parameters = canonicalParametersJson then .ok canonicalParameters
    else .error "missing field `fixture_prefix`"
  canonicalScenario := .ok (.scenario canonicalScenario)

def sweepCatalogs : List CatalogRun := sweepHosts.map fun host => ⟨host.1, host.1, "1.0"⟩

def sweepPlan : ContentionPlan where
  parameters := canonicalParameters
  rounds :=
    (List.range 6).map (scheduledRound sweepCatalogs canonicalParameters.roundPolicy)

theorem sweepAdapters_valid :
    validateCatalogAdapters sweepCrates.toCrates sweepProfile "$" = [] := by
  rw [validateCatalogAdapters, if_neg (by decide)]
  simp only [List.append_eq_nil_iff, List.map_eq_nil_iff, difference_eq_nil]
  refine ⟨⟨⟨⟨⟨⟨?_, ?_⟩, ?_⟩, ?_⟩, ?_⟩, ?_⟩, ?_⟩
  all_goals decide +kernel

theorem sweepProfile_valid : sweepProfile.collectIssues sweepCrates.toCrates "$" = [] := by
  rw [Profile.collectIssues, List.append_eq_nil_iff]
  exact ⟨by decide +kernel, sweepAdapters_valid⟩

/-- The plan of a sweep over these catalogs. -/
theorem sweepPlan_of_catalogs {profile : Profile}
    (hprofile : validateProfile profile canonicalScenario canonicalParameters = .ok sweepCatalogs) :
    ContentionPlan.fromContracts sweepCrates profile canonicalScenario = .ok sweepPlan := by
  have hshape : validateScenarioShape canonicalScenario = .ok () := by decide
  have hdecoded : Commit.decodeParameters sweepCrates canonicalScenario =
      .ok canonicalParameters := by
    have hfound : sweepCrates.decodeParameters canonicalScenario.parameters =
        .ok canonicalParameters := by
      simp only [sweepCrates, canonicalScenario, if_true]
    rw [Commit.decodeParameters, hfound]
    rfl
  have hparameters : validateParameters sweepCrates.toCrates canonicalParameters = .ok () := by
    decide
  have hcanonical : validateCanonicalScenario sweepCrates canonicalScenario = .ok () := by
    simp [validateCanonicalScenario, sweepCrates, rejectWhen]
  have hrounds : scheduleRounds sweepCatalogs canonicalParameters.roundPolicy =
      .ok sweepPlan.rounds := by
    decide
  exact except_seq_eq_ok.mpr ⟨hshape, except_bind_eq_ok.mpr ⟨_, hdecoded,
    except_seq_eq_ok.mpr ⟨hparameters, except_seq_eq_ok.mpr ⟨hcanonical,
      except_bind_eq_ok.mpr ⟨_, hprofile, except_bind_eq_ok.mpr ⟨_, hrounds, rfl⟩⟩⟩⟩⟩⟩

theorem sweepPlan_eq :
    ContentionPlan.fromContracts sweepCrates sweepProfile canonicalScenario = .ok sweepPlan := by
  have hprofile : validateProfile sweepProfile canonicalScenario canonicalParameters =
      .ok sweepCatalogs := by
    decide
  exact sweepPlan_of_catalogs hprofile

/-- The fixtures of the two catalogs in the first round have one namespace. -/
theorem fixtures_collide :
    sweepProfile.collectIssues sweepCrates.toCrates "$" = [] ∧
      ContentionPlan.fromContracts sweepCrates sweepProfile canonicalScenario = .ok sweepPlan ∧
      ¬FixturesDisjoint sweepPlan "run1" := by
  refine ⟨sweepProfile_valid, sweepPlan_eq, fun hdisjoint => ?_⟩
  have hdashed : sweepPlan.fixture "lake-cat" "run1" 1 =
      .ok ⟨"run1", "cb_c108_lake_cat_run1_r01", "same_table_contention"⟩ := by decide +kernel
  have hplain : sweepPlan.fixture "lake_cat" "run1" 1 =
      .ok ⟨"run1", "cb_c108_lake_cat_run1_r01", "same_table_contention"⟩ := by decide +kernel
  exact absurd (hdisjoint _ _ _ _ _ _ hdashed hplain rfl).1 (by decide)

theorem fixturesDisjoint_iff_sweep :
    FixturesDisjoint sweepPlan "run1" ↔
      (validateFixtureId "run1" 24 = .ok () →
        ∀ adapter ∈ sweepProfile.catalogAdapters, ∀ adapter' ∈ sweepProfile.catalogAdapters,
          isSafeCatalog adapter.catalog = true →
          catalogStem adapter.catalog = catalogStem adapter'.catalog →
            adapter.catalog = adapter'.catalog) :=
  fixturesDisjoint_iff sweepProfile_valid sweepPlan_eq "run1"

end CatalogBench.Commit
