import CatalogBench.Conformance.Isolation

/-!
# What a passing commit probe has seen

If the required facts of the commit workflow pass, the responses hold three snapshots: the table
as created, the table after the property commit and the table after the schema commit. The
validators are read as relations between replies and snapshots first; the run is assembled from
them.

## Main definitions

- `InitialState`, `PropertyCommitted`, `SchemaCommitted`, `StaleRejected`: what the replies of one
  part show
- `RequiredPass`: the facts the verdict depends on
- `PassedRun`: the whole run
-/

set_option linter.all false

namespace CatalogBench.Conformance.Commit
open Interaction Workflow CatalogRoutes

-- ════════════════════════════════
-- What the replies show
-- ════════════════════════════════

def schemaZero : TableSchema := ⟨"struct", some 0, [⟨1, "value", false, .string "long"⟩]⟩

def schemaOne : TableSchema :=
  ⟨"struct", some 1, [⟨1, "value", false, .string "long"⟩, ⟨2, "note", false, .string "string"⟩]⟩

/-- The create response and the first load show the table as it was requested. -/
structure InitialState (web : WebCrates) (location : Option String) (create load : HttpReply)
    (snapshot : TableSnapshot) : Prop where
  created : create.Shows web 200 snapshot
  loaded : load.Shows web 200 snapshot
  schema : snapshot.schema = schemaZero
  lastColumnId : snapshot.lastColumnId = some 1
  location : ∀ requested ∈ location, snapshot.location = requested

/-- The table kept its identity and its metadata moved on. -/
structure PointerAdvanced (before after : TableSnapshot) : Prop where
  uuid : after.uuid = before.uuid
  location : after.location = before.location
  metadataLocation : after.metadataLocation ≠ before.metadataLocation

/-- The property commit and its reload show one update of one scenario property. -/
structure PropertyCommitted (web : WebCrates) (before : TableSnapshot) (property value : String)
    (commit reload : HttpReply) (after : TableSnapshot) : Prop where
  committed : commit.Shows web 200 after
  reloaded : reload.Shows web 200 after
  pointer : PointerAdvanced before after
  schema : after.schema = before.schema
  lastColumnId : after.lastColumnId = before.lastColumnId
  properties : ∀ key, isScenarioProperty key = true →
    after.properties[key]? = if key = property then some value else before.properties[key]?

/-- The schema commit and its reload show the second field and nothing else of the scenario. -/
structure SchemaCommitted (web : WebCrates) (before : TableSnapshot) (commit reload : HttpReply)
    (after : TableSnapshot) : Prop where
  committed : commit.Shows web 200 after
  reloaded : reload.Shows web 200 after
  pointer : PointerAdvanced before after
  schema : after.schema = schemaOne
  lastColumnId : after.lastColumnId = some 2
  properties : ∀ key, isScenarioProperty key = true → after.properties[key]? = before.properties[key]?

/-- The stale commit was rejected, and both loads after it show the table unchanged. -/
structure StaleRejected (web : WebCrates) (snapshot : TableSnapshot)
    (commit reload final : HttpReply) : Prop where
  rejected : commit.IsError web 409 "CommitFailedException"
  reloaded : reload.Shows web 200 snapshot
  final : final.Shows web 200 snapshot
  stale : snapshot.properties[staleProperty]? = none

-- ════════════════════════════════
-- The validators
-- ════════════════════════════════

section Validators

variable {before after snapshot : TableSnapshot}

def ExpectedField.field (expected : ExpectedField) : TableField :=
  ⟨expected.id, expected.name, expected.required, expected.fieldType⟩

theorem validateFields_sound {schemaId : ℤ} {fields : List TableField}
    {expected : List ExpectedField} (hlength : fields.length = expected.length)
    (h : validateFields schemaId fields expected = .ok ()) :
    fields = expected.map ExpectedField.field := by
  induction fields generalizing expected with
  | nil =>
    obtain rfl := List.eq_nil_of_length_eq_zero hlength.symm
    rfl
  | cons field fields ih =>
    obtain ⟨first, rest, rfl⟩ := List.exists_cons_of_length_eq_add_one hlength.symm
    rw [validateFields] at h
    split at h
    · cases h
    · next hsame =>
      simp only [Bool.or_eq_true, decide_eq_true_eq, not_or, not_not] at hsame
      obtain ⟨⟨⟨hid, hname⟩, hrequired⟩, htype⟩ := hsame
      rw [List.map_cons, ih (Nat.succ.inj hlength) h]
      congr 1
      cases field
      simp only at hid hname hrequired htype
      rw [hid, hname, hrequired, htype]
      rfl

theorem validateSchema_sound {schema : TableSchema} {schemaId : ℤ} {expected : List ExpectedField}
    (h : validateSchema schema schemaId expected = .ok ()) :
    schema = ⟨"struct", some schemaId, expected.map ExpectedField.field⟩ := by
  unfold validateSchema at h
  split at h
  · cases h
  next htype =>
  split at h
  · cases h
  next hlength =>
  simp only [Bool.or_eq_true, decide_eq_true_eq, not_or, not_not] at htype hlength
  rw [← validateFields_sound hlength h, ← htype.1, ← htype.2]

theorem validateSchemaOne_sound (h : validateSchemaOne snapshot = .ok ()) :
    snapshot.schema = schemaOne ∧ snapshot.lastColumnId = some 2 := by
  unfold validateSchemaOne at h
  split at h
  · cases h
  · next hcolumn => exact ⟨validateSchema_sound h, not_not.mp hcolumn⟩

theorem validateExactSnapshot_eq_ok : validateExactSnapshot before after = .ok () ↔ after = before := by
  unfold validateExactSnapshot
  split
  · next heq => exact ⟨fun _ => heq, fun _ => rfl⟩
  · next hne => exact ⟨fun h => absurd h (by simp), fun h => absurd h hne⟩

theorem validateIdentity_sound (h : validateIdentityAndPointerTransition before after = .ok ()) :
    PointerAdvanced before after := by
  unfold validateIdentityAndPointerTransition at h
  split at h
  · cases h
  next huuid =>
  split at h
  · cases h
  next hlocation =>
  split at h
  · cases h
  next hmetadata => exact ⟨not_not.mp huuid, not_not.mp hlocation, hmetadata⟩

/-- The scenario properties of a map, key by key. -/
theorem getElem?_scenarioProperties (properties : StringMap String) (key : String) :
    (scenarioProperties properties)[key]? =
      if isScenarioProperty key then properties[key]? else none := by
  rw [scenarioProperties, Std.ExtTreeMap.getElem?_filter']
  cases properties[key]? with
  | none => simp
  | some value => rw [Option.filter_some]

theorem scenarioProperties_insert {properties properties' : StringMap String}
    {property value : String}
    (h : scenarioProperties properties' = (scenarioProperties properties).insert property value)
    {key : String} (hkey : isScenarioProperty key = true) :
    properties'[key]? = if key = property then some value else properties[key]? := by
  have hget := congrArg (fun map : StringMap String => map[key]?) h
  simp only [getElem?_scenarioProperties, hkey, if_true, Std.ExtTreeMap.getElem?_insert,
    Std.LawfulEqCmp.compare_eq_iff_eq] at hget
  rw [hget]
  simp only [eq_comm]

theorem scenarioProperties_same {properties properties' : StringMap String}
    (h : scenarioProperties properties' = scenarioProperties properties) {key : String}
    (hkey : isScenarioProperty key = true) : properties'[key]? = properties[key]? := by
  have hget := congrArg (fun map : StringMap String => map[key]?) h
  simpa only [getElem?_scenarioProperties, hkey, if_true] using hget

variable {web : WebCrates} {context : RecorderContext} {id id' id'' : String}
  {commit reload final : HttpReply}

theorem validateInitialSnapshot_sound {location : Option String} {initial : TableSnapshot}
    (h : validateInitialSnapshot snapshot location = .ok initial) :
    initial = snapshot ∧ snapshot.schema = schemaZero ∧ snapshot.lastColumnId = some 1 ∧
      ∀ requested ∈ location, snapshot.location = requested := by
  obtain ⟨hschema, h⟩ := except_seq_eq_ok.mp h
  split at h
  · cases h
  next hcolumn =>
  split at h
  · cases h
  next hlocation =>
  split at h
  · cases h
  split at h
  · cases h
  cases h
  refine ⟨rfl, validateSchema_sound hschema, not_not.mp hcolumn, ?_⟩
  intro requested hrequested
  obtain rfl := hrequested
  simpa using hlocation

theorem validatePropertyTransition_sound {property value : String}
    (h : validatePropertyTransition web before (observe web context id none commit)
      (observe web context id' none reload) property value = .ok after) :
    PropertyCommitted web before property value commit reload after := by
  obtain ⟨committed, hcommit, h⟩ := except_bind_eq_ok.mp h
  obtain ⟨hpointer, h⟩ := except_seq_eq_ok.mp h
  split at h
  · cases h
  next hschema =>
  split at h
  · cases h
  next hproperties =>
  obtain ⟨loaded, hreload, h⟩ := except_bind_eq_ok.mp h
  obtain ⟨hexact, h⟩ := except_seq_eq_ok.mp h
  cases h
  obtain rfl := validateExactSnapshot_eq_ok.mp hexact
  simp only [Bool.or_eq_true, decide_eq_true_eq, not_or, not_not] at hschema hproperties
  exact ⟨parseTableSnapshot_observe.mp hcommit, parseTableSnapshot_observe.mp hreload,
    validateIdentity_sound hpointer, hschema.1, hschema.2,
    fun _ => scenarioProperties_insert hproperties⟩

theorem validateSchemaTransition_sound
    (h : validateSchemaTransition web before (observe web context id none commit)
      (observe web context id' none reload) = .ok after) :
    SchemaCommitted web before commit reload after := by
  obtain ⟨committed, hcommit, h⟩ := except_bind_eq_ok.mp h
  obtain ⟨hpointer, h⟩ := except_seq_eq_ok.mp h
  obtain ⟨hone, h⟩ := except_seq_eq_ok.mp h
  split at h
  · cases h
  next hproperties =>
  obtain ⟨loaded, hreload, h⟩ := except_bind_eq_ok.mp h
  obtain ⟨hexact, h⟩ := except_seq_eq_ok.mp h
  cases h
  obtain rfl := validateExactSnapshot_eq_ok.mp hexact
  obtain ⟨hschema, hcolumn⟩ := validateSchemaOne_sound hone
  exact ⟨parseTableSnapshot_observe.mp hcommit, parseTableSnapshot_observe.mp hreload,
    validateIdentity_sound hpointer, hschema, hcolumn,
    fun _ => scenarioProperties_same (not_not.mp hproperties)⟩

theorem validateUnchanged_sound
    (h : validateUnchanged web snapshot (observe web context id none reload) = .ok ()) :
    reload.Shows web 200 snapshot := by
  obtain ⟨loaded, hreload, hexact⟩ := except_bind_eq_ok.mp h
  obtain rfl := validateExactSnapshot_eq_ok.mp hexact
  exact parseTableSnapshot_observe.mp hreload

theorem validateRequiredFinalState_sound
    (h : validateRequiredFinalState web snapshot (observe web context id none final) = .ok ()) :
    final.Shows web 200 snapshot ∧ snapshot.properties[staleProperty]? = none := by
  obtain ⟨loaded, hfinal, hchecks⟩ := except_bind_eq_ok.mp h
  obtain ⟨hexact, hrest⟩ := except_seq_eq_ok.mp hchecks
  obtain ⟨-, hproperties⟩ := except_seq_eq_ok.mp hrest
  obtain rfl := validateExactSnapshot_eq_ok.mp hexact
  split at hproperties
  · cases hproperties
  split at hproperties
  · cases hproperties
  next hstale =>
  refine ⟨parseTableSnapshot_observe.mp hfinal, ?_⟩
  exact Std.ExtTreeMap.getElem?_eq_none_of_contains_eq_false (Bool.eq_false_iff.mpr hstale)

theorem validateStaleRejection_sound
    (hstale : validateStaleRejection web snapshot (observe web context id none commit)
      (observe web context id' none reload) = .ok ())
    (hfinal : validateRequiredFinalState web snapshot (observe web context id'' none final) =
      .ok ()) :
    StaleRejected web snapshot commit reload final := by
  have hboth := allResults_eq_ok.mp hstale
  obtain ⟨hfinal, habsent⟩ := validateRequiredFinalState_sound hfinal
  exact ⟨validateErrorResponse_observe.mp (hboth _ List.mem_cons_self),
    validateUnchanged_sound (hboth _ (List.mem_cons_of_mem _ List.mem_cons_self)), hfinal, habsent⟩

end Validators

-- ════════════════════════════════
-- The parts of a run
-- ════════════════════════════════

/-- The attempted operations and their replies. -/
def entries (calls : List Recorded) : List (String × HttpReply) :=
  calls.filterMap fun
    | ⟨.attempt id .., reply⟩ => some (id, reply)
    | ⟨.skip .., _⟩ => none

@[simp] theorem entries_append (calls calls' : List Recorded) :
    entries (calls ++ calls') = entries calls ++ entries calls' := List.filterMap_append

@[simp] theorem entries_sent (id capability : String) (method : Method) (url : String)
    (body : Option Json) (reply : HttpReply) :
    entries [sent id capability method url body reply] = [(id, reply)] := rfl

theorem entries_exchanges (context : RecorderContext) (calls : List Recorded) :
    (exchanges context calls).map (fun exchange => (exchange.id, exchange.reply)) =
      entries calls := by
  rw [exchanges, entries, List.map_filterMap]
  congr 1
  funext call
  obtain ⟨call, reply⟩ := call
  cases call with
  | attempt => rfl
  | skip => rfl

/-- The facts of the workflow that the verdict requires. -/
structure RequiredPass (facts : CommitFacts) : Prop where
  fixtureIsolated : facts.fixtureIsolated = .pass
  fixtureReady : facts.fixtureReady = .pass
  currentRequirements : facts.currentRequirements = .pass
  schemaTransition : facts.schemaTransition = .pass
  staleRejection : facts.staleRejection = .pass
  requiredFinal : facts.requiredFinal = .pass
  cleanup : facts.cleanup = .pass

section Parts

variable {setting : Setting} {routes : CatalogRoutes} (h : routes.Buildable setting.web)
  {createLocations : TableCreateLocations} (fixture : CommitFixture)

/-- The calls are the cleanup, and every reply passed. -/
def Cleaned (setting : Setting) (routes : CatalogRoutes) (fixture : CommitFixture)
    (calls : List Recorded) : Prop :=
  ∃ replies : List HttpReply, replies.length = (cleanupSteps setting routes fixture).length ∧
    calls = List.zipWith CheckedRequest.issued (cleanupSteps setting routes fixture) replies ∧
    ∀ entry ∈ (cleanupSteps setting routes fixture).zip replies, entry.1.Passes setting entry.2

include h

/-- The cleanup changes its own fact only. -/
theorem finish_emits (facts : CommitFacts) :
    Emits (finish setting routes fixture facts) fun final calls =>
      (∃ cleanup, final = { facts with cleanup }) ∧
      (final.cleanup = .pass → Cleaned setting routes fixture calls) := by
  refine Emits.bind (cleanup_emits setting (cleanupSteps_urls h fixture)) ?_
  rintro cleaned _ ⟨replies, hlength, rfl, hpasses⟩
  refine emits_pure.mpr ⟨⟨_, rfl⟩, fun hcleanup => ⟨replies, hlength, by simp, ?_⟩⟩
  exact hpasses.mp (fromResult_eq_pass.mp hcleanup)

/-- The optional checks change their own facts only. -/
theorem executeOptionalIdempotency_frame (before : TableSnapshot) (idempotency : CommitIdempotency)
    (facts : CommitFacts) :
    Emits (executeOptionalIdempotency setting routes fixture before idempotency facts)
      fun final _ => ∃ exactReplay contentBinding, final = { facts with exactReplay, contentBinding } := by
  unfold executeOptionalIdempotency
  split
  · exact emits_bind.mpr (emits_skipAll.mpr (emits_pure.mpr ⟨_, _, rfl⟩))
  split
  · exact emits_bind.mpr (emits_skipAll.mpr (emits_pure.mpr ⟨_, _, rfl⟩))
  split
  · exact emits_bind.mpr (emits_skipAll.mpr (emits_pure.mpr ⟨_, _, rfl⟩))
  · exact emits_bind.mpr (emits_skipAll.mpr (emits_pure.mpr ⟨_, _, rfl⟩))
  · refine Emits.bind (attemptExactReplay_logs h fixture before _) fun exactSnapshot _ _ => ?_
    dsimp only
    split
    · exact emits_bind.mpr (emits_skipAll.mpr (emits_pure.mpr ⟨_, _, rfl⟩))
    · refine Emits.bind (rejectIdempotencyDrift_logs h fixture _ _) fun _ _ _ => ?_
      exact emits_pure.mpr ⟨_, _, rfl⟩
    · exact emits_bind.mpr (emits_skipAll.mpr (emits_pure.mpr ⟨_, _, rfl⟩))

/-- The calls end with the stale commit, the optional checks and the cleanup. -/
def StaleEnd (setting : Setting) (routes : CatalogRoutes) (fixture : CommitFixture)
    (snapshot : TableSnapshot) (calls : List Recorded) : Prop :=
  ∃ commit reload final required optional clean,
    calls = required ++ (optional ++ clean) ∧
    entries required = [("commit-stale-requirement", commit),
      ("reload-after-stale-requirement", reload), ("load-required-final-state", final)] ∧
    StaleRejected setting.web snapshot commit reload final ∧
    ids optional = (retryOperations ++ driftOperations).map Prod.fst ∧
    Cleaned setting routes fixture clean

omit h in
/-- Two requests, one after the other, and a check of both answers. -/
theorem twoRequests_emits {β : Type} {id capability id' capability' : String}
    {method method' : Method} {address address' : Except String String} {url url' : String}
    {body body' : Option Json} {check : Observation → Observation → β} (h : address = .ok url)
    (h' : address' = .ok url') :
    Emits (do
      let first ← setting.request id capability method address body
      let second ← setting.request id' capability' method' address' body'
      return check first second) fun result calls =>
        ∃ first second, entries calls = [(id, first), (id', second)] ∧
          result = check (observe setting.web setting.context id none first)
            (observe setting.web setting.context id' none second) := by
  rw [emits_bind, emits_request h]
  intro first
  rw [emits_bind, emits_request h']
  intro second
  exact emits_pure.mpr ⟨first, second, rfl, rfl⟩

theorem verifyRequiredFinalState_emits (expected : TableSnapshot) :
    Emits (verifyRequiredFinalState setting routes fixture expected) fun result calls =>
      ∃ final, entries calls = [("load-required-final-state", final)] ∧
        result = validateRequiredFinalState setting.web expected
          (observe setting.web setting.context "load-required-final-state" none final) := by
  refine emits_bind.mpr ((emits_request (table_eq h _ _)).mpr fun final => ?_)
  exact emits_pure.mpr ⟨final, rfl, rfl⟩

theorem executeAfterSchema_sound (idempotency : CommitIdempotency) (snapshot : TableSnapshot)
    (facts : CommitFacts) :
    Emits (executeAfterSchema setting routes fixture idempotency snapshot facts)
      fun final calls => RequiredPass final → StaleEnd setting routes fixture snapshot calls := by
  refine Emits.bind (twoRequests_emits (table_eq h _ _) (table_eq h _ _)) ?_
  rintro _ calls₁ ⟨commit, reload, hcalls₁, rfl⟩
  refine Emits.bind (verifyRequiredFinalState_emits h fixture snapshot) ?_
  rintro _ calls₂ ⟨final, hcalls₂, rfl⟩
  refine Emits.bind ((executeOptionalIdempotency_frame h fixture snapshot idempotency _).and
    (executeOptionalIdempotency_logs h fixture snapshot idempotency _)) ?_
  rintro _ optional ⟨⟨exactReplay, contentBinding, rfl⟩, hoptional⟩
  refine (finish_emits h fixture _).mono ?_
  rintro _ clean ⟨⟨cleanup, rfl⟩, hclean⟩ hpass
  refine ⟨commit, reload, final, calls₁ ++ calls₂, optional, clean,
    (List.append_assoc _ _ _).symm, ?_, ?_, hoptional, hclean hpass.cleanup⟩
  · rw [entries_append, hcalls₁, hcalls₂]
    rfl
  · exact validateStaleRejection_sound (fromResult_eq_pass.mp hpass.staleRejection)
      (fromResult_eq_pass.mp hpass.requiredFinal)

/-- The calls go on with the schema commit. -/
def SchemaEnd (setting : Setting) (routes : CatalogRoutes) (fixture : CommitFixture)
    (before : TableSnapshot) (calls : List Recorded) : Prop :=
  ∃ commit reload after required rest, calls = required ++ rest ∧
    entries required = [("commit-schema-transition", commit),
      ("reload-after-schema-transition", reload)] ∧
    SchemaCommitted setting.web before commit reload after ∧
    StaleEnd setting routes fixture after rest

theorem executeAfterCurrent_sound (idempotency : CommitIdempotency) (snapshot : TableSnapshot)
    (facts : CommitFacts) :
    Emits (executeAfterCurrent setting routes fixture idempotency snapshot facts)
      fun final calls => RequiredPass final → SchemaEnd setting routes fixture snapshot calls := by
  refine Emits.bind (twoRequests_emits (table_eq h _ _) (table_eq h _ _)) ?_
  rintro _ calls ⟨commit, reload, hcalls, rfl⟩
  dsimp only
  split
  · next error herror =>
    refine Emits.bind (skipAfterSchemaCommit_logs _) fun _ _ _ => (finish_emits h fixture _).mono ?_
    rintro _ _ ⟨⟨cleanup, rfl⟩, -⟩ hpass
    obtain ⟨after, hok⟩ := unitResult_eq_ok.mp (fromResult_eq_pass.mp hpass.schemaTransition)
    cases herror.symm.trans hok
  · next after hafter =>
    refine (executeAfterSchema_sound h fixture idempotency after _).mono ?_
    intro final rest hrest hpass
    exact ⟨commit, reload, after, calls, rest, rfl, hcalls, validateSchemaTransition_sound hafter,
      hrest hpass⟩

/-- The calls go on with the property commit. -/
def CurrentEnd (setting : Setting) (routes : CatalogRoutes) (fixture : CommitFixture)
    (before : TableSnapshot) (calls : List Recorded) : Prop :=
  ∃ commit reload after required rest, calls = required ++ rest ∧
    entries required = [("commit-current-requirements", commit),
      ("reload-after-current-requirements", reload)] ∧
    PropertyCommitted setting.web before stateProperty "requirement-accepted" commit reload after ∧
    SchemaEnd setting routes fixture after rest

theorem executeAfterFixture_sound (idempotency : CommitIdempotency) (snapshot : TableSnapshot)
    (facts : CommitFacts) :
    Emits (executeAfterFixture setting routes fixture idempotency snapshot facts)
      fun final calls => RequiredPass final → CurrentEnd setting routes fixture snapshot calls := by
  refine Emits.bind (twoRequests_emits (table_eq h _ _) (table_eq h _ _)) ?_
  rintro _ calls ⟨commit, reload, hcalls, rfl⟩
  dsimp only
  split
  · next error herror =>
    refine Emits.bind (skipAfterCurrentCommit_logs _) fun _ _ _ => (finish_emits h fixture _).mono ?_
    rintro _ _ ⟨⟨cleanup, rfl⟩, -⟩ hpass
    obtain ⟨after, hok⟩ := unitResult_eq_ok.mp (fromResult_eq_pass.mp hpass.currentRequirements)
    cases herror.symm.trans hok
  · next after hafter =>
    refine (executeAfterCurrent_sound h fixture idempotency after _).mono ?_
    intro final rest hrest hpass
    exact ⟨commit, reload, after, calls, rest, rfl, hcalls,
      validatePropertyTransition_sound hafter, hrest hpass⟩

theorem createNamespace_emits :
    Emits (createNamespace setting routes fixture) fun _ calls =>
      ∃ reply, entries calls = [("create-namespace", reply)] :=
  emits_bind.mpr ((emits_request (namespaceCollection_eq h)).mpr fun reply =>
    emits_pure.mpr ⟨reply, rfl⟩)

/-- The fixture table is created where the adapter asks for it, and loaded. -/
theorem createAndLoadTable_ensures :
    Ensures (createAndLoadTable setting routes fixture createLocations) fun result calls =>
      ∃ location create load,
        createLocations.forTable setting.web fixture.namespace fixture.table = .ok location ∧
        entries calls = [("create-table", create), ("load-initial-table", load)] ∧
        ∀ snapshot, result = .ok snapshot →
          InitialState setting.web location create load snapshot := by
  have hplace : Ensures
      (ofExcept (createLocations.forTable setting.web fixture.namespace fixture.table))
      fun location calls => createLocations.forTable setting.web fixture.namespace
        fixture.table = .ok location ∧ calls = [] :=
    ensures_ofExcept fun location hlocation => ⟨hlocation, rfl⟩
  refine Ensures.bind hplace ?_
  rintro location _ ⟨hlocation, rfl⟩
  refine (twoRequests_emits (tableCollection_eq h _) (table_eq h _ _)).ensures.mono ?_
  rintro _ calls ⟨create, load, hcalls, rfl⟩
  refine ⟨location, create, load, hlocation, hcalls, fun snapshot hsnapshot => ?_⟩
  obtain ⟨created, hcreate, hrest⟩ := except_bind_eq_ok.mp hsnapshot
  obtain ⟨initial, hinitial, hrest⟩ := except_bind_eq_ok.mp hrest
  obtain ⟨loaded, hload, hrest⟩ := except_bind_eq_ok.mp hrest
  obtain ⟨hexact, hloaded⟩ := except_seq_eq_ok.mp hrest
  cases hloaded
  obtain ⟨rfl, hschema, hcolumn, hplace⟩ := validateInitialSnapshot_sound hinitial
  obtain rfl := validateExactSnapshot_eq_ok.mp hexact
  exact ⟨parseTableSnapshot_observe.mp hcreate, parseTableSnapshot_observe.mp hload, hschema,
    hcolumn, hplace⟩

/-- The calls past the preflight: the fixture, and the commits on it. -/
def FixtureEnd (setting : Setting) (routes : CatalogRoutes) (fixture : CommitFixture)
    (createLocations : TableCreateLocations) (calls : List Recorded) : Prop :=
  ∃ location createNamespace create load snapshot required rest, calls = required ++ rest ∧
    createLocations.forTable setting.web fixture.namespace fixture.table = .ok location ∧
    entries required = [("create-namespace", createNamespace), ("create-table", create),
      ("load-initial-table", load)] ∧
    InitialState setting.web location create load snapshot ∧
    CurrentEnd setting routes fixture snapshot rest

theorem createFixture_ensures :
    Ensures (createFixture setting routes fixture createLocations) fun result calls =>
      ∀ snapshot, result = .ok snapshot → ∃ location createNamespace create load,
        createLocations.forTable setting.web fixture.namespace fixture.table = .ok location ∧
        entries calls = [("create-namespace", createNamespace), ("create-table", create),
          ("load-initial-table", load)] ∧
        InitialState setting.web location create load snapshot := by
  refine Ensures.bind (createNamespace_emits h fixture).ensures ?_
  rintro created calls ⟨createNamespace, hcalls⟩
  cases created with
  | error e =>
    refine Ensures.bind (logs_skipAll _).ensures fun _ _ _ => ensures_pure ?_
    rintro snapshot ⟨⟩
  | ok _ =>
    refine (createAndLoadTable_ensures h fixture).mono ?_
    rintro result calls' ⟨location, create, load, hlocation, hcalls', hstate⟩ snapshot hresult
    refine ⟨location, createNamespace, create, load, hlocation, ?_, hstate snapshot hresult⟩
    rw [entries_append, hcalls, hcalls']
    rfl

theorem executeAfterPreflight_sound (idempotency : CommitIdempotency) (facts : CommitFacts) :
    Ensures (executeAfterPreflight setting routes fixture createLocations idempotency facts)
      fun final calls => RequiredPass final →
        FixtureEnd setting routes fixture createLocations calls := by
  refine Ensures.bind (createFixture_ensures h fixture) fun created calls hcreated => ?_
  cases created with
  | error e =>
    refine Ensures.bind (skipRequiredCommits_logs _).ensures fun _ _ _ => ?_
    refine Ensures.bind (skipOptionalCommits_logs _).ensures fun _ _ _ => ?_
    refine (finish_emits h fixture _).ensures.mono ?_
    rintro _ _ ⟨⟨cleanup, rfl⟩, -⟩ hpass
    have hready : Fact.fail e = .pass := hpass.fixtureReady
    cases hready
  | ok snapshot =>
    obtain ⟨location, createNamespace, create, load, hlocation, hentries, hstate⟩ :=
      hcreated snapshot rfl
    refine (executeAfterFixture_sound h fixture idempotency snapshot _).ensures.mono ?_
    intro final rest hrest hpass
    exact ⟨location, createNamespace, create, load, snapshot, calls, rest, rfl, hlocation,
      hentries, hstate, hrest hpass⟩

end Parts

-- ════════════════════════════════
-- Whole runs
-- ════════════════════════════════

/-- The replies to the required operations. -/
structure RequiredReplies where
  preflight : HttpReply
  createNamespace : HttpReply
  createTable : HttpReply
  loadInitial : HttpReply
  commitCurrent : HttpReply
  reloadCurrent : HttpReply
  commitSchema : HttpReply
  reloadSchema : HttpReply
  commitStale : HttpReply
  reloadStale : HttpReply
  loadFinal : HttpReply

def RequiredReplies.entries (replies : RequiredReplies) : List (String × HttpReply) :=
  [("preflight-namespace", replies.preflight), ("create-namespace", replies.createNamespace),
    ("create-table", replies.createTable), ("load-initial-table", replies.loadInitial),
    ("commit-current-requirements", replies.commitCurrent),
    ("reload-after-current-requirements", replies.reloadCurrent),
    ("commit-schema-transition", replies.commitSchema),
    ("reload-after-schema-transition", replies.reloadSchema),
    ("commit-stale-requirement", replies.commitStale),
    ("reload-after-stale-requirement", replies.reloadStale),
    ("load-required-final-state", replies.loadFinal)]

/-- The snapshots the replies show, and how they follow from each other. -/
structure Snapshots (web : WebCrates) (location : Option String) (replies : RequiredReplies)
    (initial current evolved : TableSnapshot) : Prop where
  initialState : InitialState web location replies.createTable replies.loadInitial initial
  propertyCommitted : PropertyCommitted web initial stateProperty "requirement-accepted"
    replies.commitCurrent replies.reloadCurrent current
  schemaCommitted : SchemaCommitted web current replies.commitSchema replies.reloadSchema evolved
  staleRejected : StaleRejected web evolved replies.commitStale replies.reloadStale
    replies.loadFinal

/-- The exchanges of a passing run: the required operations, the optional ones, the cleanup. -/
def PassedRun (setting : Setting) (routes : CatalogRoutes) (fixture : CommitFixture)
    (createLocations : TableCreateLocations) (sent : List Exchange) : Prop :=
  ∃ (replies : RequiredReplies) (required optional clean : List Exchange)
    (location : Option String) (initial current evolved : TableSnapshot),
    sent = required ++ (optional ++ clean) ∧
    required.map (fun exchange => (exchange.id, exchange.reply)) = replies.entries ∧
    (∀ exchange ∈ optional,
      exchange.id ∈ (retryOperations ++ driftOperations).map Prod.fst) ∧
    createLocations.forTable setting.web fixture.namespace fixture.table = .ok location ∧
    Snapshots setting.web location replies initial current evolved ∧
    List.Forall₂ (Duty.Sent setting.context) (cleanupDuties setting routes fixture) clean ∧
    List.Forall₂ (Duty.Met setting.web) (cleanupDuties setting routes fixture) clean

section Runs

variable {setting : Setting} {routes : CatalogRoutes} {createLocations : TableCreateLocations}
  {fixture : CommitFixture}

/-- The parts of a run, put together. -/
theorem passedRun_of_fixtureEnd {preflight : HttpReply} {url : String} {calls : List Recorded}
    (h : FixtureEnd setting routes fixture createLocations calls) :
    PassedRun setting routes fixture createLocations (exchanges setting.context
      (sent "preflight-namespace" namespaceLoadCapability .get url none preflight :: calls)) := by
  obtain ⟨location, createNamespace, create, load, initial, calls₁, _, rfl, hlocation, hcalls₁,
    hinitial, commitCurrent, reloadCurrent, current, calls₂, _, rfl, hcalls₂, hcurrent,
    commitSchema, reloadSchema, evolved, calls₃, _, rfl, hcalls₃, hevolved, commitStale,
    reloadStale, final, calls₄, optional, clean, rfl, hcalls₄, hstale, hoptional, hclean⟩ := h
  obtain ⟨replies, hlength, rfl, hpasses⟩ := hclean
  obtain ⟨hsent, hmet⟩ := issued_duties (cleanup_performs setting routes fixture) hlength
  refine ⟨⟨preflight, createNamespace, create, load, commitCurrent, reloadCurrent, commitSchema,
    reloadSchema, commitStale, reloadStale, final⟩,
    exchanges setting.context
      (sent "preflight-namespace" namespaceLoadCapability .get url none preflight ::
        (calls₁ ++ (calls₂ ++ (calls₃ ++ calls₄)))),
    exchanges setting.context optional, _, location, initial, current, evolved, ?_, ?_, ?_,
    hlocation, ⟨hinitial, hcurrent, hevolved, hstale⟩, hsent, hmet.mp hpasses⟩
  · simp only [← exchanges_append, List.cons_append, List.append_assoc]
  · rw [entries_exchanges]
    have hentries : entries (sent "preflight-namespace" namespaceLoadCapability .get url none
        preflight :: (calls₁ ++ (calls₂ ++ (calls₃ ++ calls₄)))) =
        ("preflight-namespace", preflight) :: (entries calls₁ ++ (entries calls₂ ++
          (entries calls₃ ++ entries calls₄))) := by
      rw [← entries_append, ← entries_append, ← entries_append]
      rfl
    rw [hentries, hcalls₁, hcalls₂, hcalls₃, hcalls₄]
    rfl
  · intro exchange hexchange
    rw [← hoptional]
    exact exchange_mem_ids hexchange

theorem executeCommitWorkflow_sound (idempotency : CommitIdempotency) (facts : CommitFacts) :
    Ensures (executeCommitWorkflow setting routes fixture createLocations idempotency facts)
      fun final calls => RequiredPass final → PassedRun setting routes fixture createLocations
        (exchanges setting.context calls) := by
  have hpreflight : Ensures (setting.request "preflight-namespace" namespaceLoadCapability .get
      (routes.namespace setting.web fixture.namespace) none) fun _ calls =>
        ∃ url reply, routes.namespace setting.web fixture.namespace = .ok url ∧
          calls = [sent "preflight-namespace" namespaceLoadCapability .get url none reply] :=
    ensures_request fun url reply hurl => ⟨url, reply, hurl, rfl⟩
  refine Ensures.bind hpreflight ?_
  rintro preflight _ ⟨url, reply, hurl, rfl⟩
  -- the first URL was built, so every later one is
  have h := buildable_of_eq_ok hurl
  dsimp only
  split
  · next hnot =>
    refine Ensures.bind (skipAfterPreflight_logs _).ensures fun _ _ _ => ensures_pure ?_
    intro hpass
    have hisolated := hpass.fixtureIsolated
    simp only [CommitFacts.skipAfterPreflight, CommitFacts.skipAfterFixture] at hisolated
    rw [hisolated] at hnot
    cases hnot
  · refine (executeAfterPreflight_sound h fixture idempotency _).mono ?_
    exact fun final calls hend hpass => passedRun_of_fixtureEnd (hend hpass)

/-- A commit probe whose required facts pass has seen the three snapshots, in every run. -/
theorem commit_pass_sound {idempotency : CommitIdempotency} {facts final : CommitFacts}
    {calls : List Recorded}
    (hrun : Prog.Run recording (executeCommitWorkflow setting routes fixture createLocations
      idempotency facts).run [] (.ok final) calls)
    (hpass : RequiredPass final) :
    PassedRun setting routes fixture createLocations (exchanges setting.context calls) :=
  (executeCommitWorkflow_sound idempotency facts).traced hrun hpass

end Runs

-- ════════════════════════════════
-- A small catalog
-- ════════════════════════════════

def sampleCommitFixture : CommitFixture := ⟨"run", sampleNamespace, "commits"⟩

/-- The table after a number of commits. -/
def tableDocument (version : ℕ) (schema : Json) (schemaId lastColumnId : ℕ)
    (properties : List (String × String)) : Json :=
  .object [
    ("metadata-location", .string ("s3://bench/commits/v" ++ toString version ++ ".json")),
    ("metadata", .object [("format-version", natJson 2),
      ("table-uuid", .string "00000000-0000-4000-8000-000000000001"),
      ("location", .string "s3://bench/commits"), ("last-column-id", natJson lastColumnId),
      ("properties", stringObject properties), ("schemas", .array [schema]),
      ("current-schema-id", natJson schemaId)])]

def createdDocument : Json :=
  tableDocument 0 initialSchema 0 1 [(stateProperty, "initial"), (ownerProperty, "catalog-bench")]

def updatedDocument : Json :=
  tableDocument 1 initialSchema 0 1
    [(stateProperty, "requirement-accepted"), (ownerProperty, "catalog-bench")]

def evolvedDocument : Json :=
  tableDocument 2 transitionedSchema 1 2
    [(stateProperty, "requirement-accepted"), (ownerProperty, "catalog-bench")]

def namespaceDocument : Json :=
  .object [("namespace", partsJson sampleNamespace), ("properties", .object [])]

def sampleCommitSetting : Setting :=
  sampleSetting [errorDocument 404 "NoSuchNamespaceException",
    errorDocument 404 "NoSuchTableException", errorDocument 409 "CommitFailedException",
    namespaceDocument, createdDocument, updatedDocument, evolvedDocument]

/-- A catalog that does what the required operations ask for, and knows no idempotency keys. -/
def conforming : String → HttpReply
  | "preflight-namespace" => errorReply 404 "NoSuchNamespaceException"
  | "create-namespace" => jsonReply 200 namespaceDocument
  | "create-table" | "load-initial-table" => jsonReply 200 createdDocument
  | "commit-current-requirements" | "reload-after-current-requirements" =>
    jsonReply 200 updatedDocument
  | "commit-schema-transition" | "reload-after-schema-transition"
  | "reload-after-stale-requirement" | "load-required-final-state" => jsonReply 200 evolvedDocument
  | "commit-stale-requirement" => errorReply 409 "CommitFailedException"
  | "cleanup-drop-table" | "cleanup-drop-namespace" => .answered 204 ∅ (.complete [])
  | "cleanup-verify-table-absent" => errorReply 404 "NoSuchTableException"
  | "cleanup-verify-namespace-absent" => errorReply 404 "NoSuchNamespaceException"
  | _ => .failed "connection reset"

def sampleIdempotency : CommitIdempotency :=
  ⟨.advertised "/defaults/idempotency-key-lifetime" "PT30M", ⟨none, none⟩,
    some "01890a5d-ac96-774b-bcce-b302099a8057"⟩

def sampleCommitWorkflow : Workflow CommitFacts :=
  executeCommitWorkflow sampleCommitSetting sampleRoutes sampleCommitFixture sampleLocations
    sampleIdempotency (.new true .pass .pass)

/-- The facts of the sample run that must pass. -/
def requiredFacts (result : Except String CommitFacts) : List Fact :=
  match result with
  | .ok facts => [facts.fixtureIsolated, facts.fixtureReady, facts.currentRequirements,
      facts.schemaTransition, facts.staleRejection, facts.requiredFinal, facts.cleanup]
  | .error _ => []

theorem commit_pass_sound_conforming :
    ∃ final calls, Prog.Run recording sampleCommitWorkflow.run [] (.ok final) calls ∧
      RequiredPass final ∧ PassedRun sampleCommitSetting sampleRoutes sampleCommitFixture
        sampleLocations (exchanges sampleCommitSetting.context calls) := by
  have hrun := run_answering sampleCommitWorkflow conforming
  have hfacts : requiredFacts (sampleCommitWorkflow.run.exec (answering conforming) []).1 =
      List.replicate 7 .pass := by decide +kernel
  generalize (sampleCommitWorkflow.run.exec (answering conforming) []).2 = calls at hrun
  generalize (sampleCommitWorkflow.run.exec (answering conforming) []).1 = result at hrun hfacts
  cases result with
  | error e => cases hfacts
  | ok final =>
    simp only [requiredFacts, List.replicate, List.cons.injEq, and_true] at hfacts
    obtain ⟨hisolated, hready, hcurrent, hschema, hstale, hfinal, hcleanup⟩ := hfacts
    have hpass : RequiredPass final :=
      ⟨hisolated, hready, hcurrent, hschema, hstale, hfinal, hcleanup⟩
    refine ⟨final, calls, hrun, hpass, ?_⟩
    exact @commit_pass_sound sampleCommitSetting sampleRoutes sampleLocations sampleCommitFixture
      sampleIdempotency (.new true .pass .pass) final calls hrun hpass

end CatalogBench.Conformance.Commit
