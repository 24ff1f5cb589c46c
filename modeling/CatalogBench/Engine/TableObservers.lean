import CatalogBench.Engine.IcebergMetadata
import CatalogBench.Engine.Soundness
import CatalogBench.Library.ListRel

/-!
# The two table observers

An engine reports what it decoded from the metadata object, the harness what it projected from the
load response. Both start from the same metadata, and wherever both give an answer the answers
agree.
-/

set_option linter.all false

namespace CatalogBench.Engine
open Interaction ListRel

-- ════════════════════════════════
-- Derived decoders on objects
-- ════════════════════════════════

theorem structFields_object {names : List String} {fields : List (String × Json)}
    {field : String → Option Json} (h : structFields names (.object fields) = some field) :
    field = fun name => fields.lookup name := by
  simp only [structFields] at h
  split at h
  · exact (Option.some.inj h).symm
  · cases h

theorem asVec_eq_some {α : Type} {element : Json → Option α} {value : Json} {out : List α}
    (h : asVec element value = some out) :
    ∃ values, asArray value = some values ∧
      List.Forall₂ (fun v a => element v = some a) values out := by
  cases value with
  | array values => exact ⟨values, rfl, option_mapM_forall₂ h⟩
  | _ => cases h

/-- A number that both integer decoders accept is the same number. -/
theorem asSigned_eq_of_asU64 {bits n : ℕ} {i : ℤ} {value : Option Json}
    (hn : value.bind Json.asU64 = some n) (hi : value.bind (asSigned bits) = some i) : i = n := by
  obtain ⟨json, rfl, hn⟩ := Option.bind_eq_some_iff.mp hn
  have hi := (Option.filter_eq_some_iff.mp hi).1
  cases json with
  | number number => cases number <;> simp_all [Json.asU64, asInteger]
  | _ => simp [Json.asU64] at hn

/-- The named fields of a decoded field object. -/
theorem RestField.deserialize_object {fields : List (String × Json)} {field : RestField}
    (h : RestField.deserialize (.object fields) = some field) :
    (fields.lookup "id").bind (asSigned 32) = some field.id ∧
      (fields.lookup "name").bind Json.asStr = some field.name ∧
      (fields.lookup "required").bind asBoolean = some field.required ∧
      fields.lookup "type" = some field.fieldType := by
  obtain ⟨lookup, hlookup, h⟩ := Option.bind_eq_some_iff.mp h
  obtain rfl := structFields_object hlookup
  obtain ⟨id, hid, h⟩ := Option.bind_eq_some_iff.mp h
  obtain ⟨name, hname, h⟩ := Option.bind_eq_some_iff.mp h
  obtain ⟨required, hrequired, h⟩ := Option.bind_eq_some_iff.mp h
  obtain ⟨fieldType, hfieldType, h⟩ := Option.bind_eq_some_iff.mp h
  obtain rfl := Option.some.inj h
  exact ⟨hid, hname, hrequired, hfieldType⟩

theorem RestSchema.deserialize_object {fields : List (String × Json)} {schema : RestSchema}
    (h : RestSchema.deserialize (.object fields) = some schema) :
    (fields.lookup "schema-id").bind (asSigned 32) = some schema.schemaId ∧
      (fields.lookup "fields").bind (asVec RestField.deserialize) = some schema.fields := by
  obtain ⟨lookup, hlookup, h⟩ := Option.bind_eq_some_iff.mp h
  obtain rfl := structFields_object hlookup
  obtain ⟨schemaId, hschemaId, h⟩ := Option.bind_eq_some_iff.mp h
  obtain ⟨schemaType, -, h⟩ := Option.bind_eq_some_iff.mp h
  obtain ⟨schemaFields, hfields, h⟩ := Option.bind_eq_some_iff.mp h
  obtain rfl := Option.some.inj h
  exact ⟨hschemaId, hfields⟩

/-- What a decoded metadata object holds under the names of its fields. -/
structure RestTableMetadata.Holds (object : List (String × Json)) (metadata : RestTableMetadata) :
    Prop where
  tableUuid : (object.lookup "table-uuid").bind Json.asStr = some metadata.tableUuid
  location : (object.lookup "location").bind Json.asStr = some metadata.location
  lastColumnId :
    (object.lookup "last-column-id").bind (asSigned 32) = some metadata.lastColumnId
  schemas :
    (object.lookup "schemas").bind (asVec RestSchema.deserialize) = some metadata.schemas
  currentSchemaId :
    (object.lookup "current-schema-id").bind (asSigned 32) = some metadata.currentSchemaId
  snapshots : defaulted (object.lookup "snapshots") (asVec RestSnapshot.deserialize) [] =
    some metadata.snapshots
  properties : defaulted (object.lookup "properties") asTextMap ∅ = some metadata.properties

theorem RestTableMetadata.deserialize_object {object : List (String × Json)}
    {metadata : RestTableMetadata}
    (h : RestTableMetadata.deserialize (.object object) = some metadata) :
    metadata.Holds object := by
  obtain ⟨lookup, hlookup, h⟩ := Option.bind_eq_some_iff.mp h
  obtain rfl := structFields_object hlookup
  obtain ⟨formatVersion, -, h⟩ := Option.bind_eq_some_iff.mp h
  obtain ⟨tableUuid, htableUuid, h⟩ := Option.bind_eq_some_iff.mp h
  obtain ⟨location, hlocation, h⟩ := Option.bind_eq_some_iff.mp h
  obtain ⟨lastColumnId, hlastColumnId, h⟩ := Option.bind_eq_some_iff.mp h
  obtain ⟨schemas, hschemas, h⟩ := Option.bind_eq_some_iff.mp h
  obtain ⟨currentSchemaId, hcurrentSchemaId, h⟩ := Option.bind_eq_some_iff.mp h
  obtain ⟨snapshots, hsnapshots, h⟩ := Option.bind_eq_some_iff.mp h
  obtain ⟨properties, hproperties, h⟩ := Option.bind_eq_some_iff.mp h
  obtain rfl := Option.some.inj h
  exact ⟨htableUuid, hlocation, hlastColumnId, hschemas, hcurrentSchemaId, hsnapshots, hproperties⟩

-- ════════════════════════════════
-- One part after another
-- ════════════════════════════════

theorem asBool_eq_asBoolean : Commit.asBool = asBoolean := by
  funext value
  cases value <;> rfl

theorem projectField_eq_some {projection : TableProjection} {field : RestField}
    {projected : EngineFieldObservation} (h : projection.projectField field = some projected) :
    projected.id = field.id ∧ projected.name = field.name ∧ projected.required = field.required ∧
      field.fieldType.asStr =
        some (match projected.fieldType with | .long => "long" | .string => "string") := by
  unfold TableProjection.projectField at h
  split at h
  · cases h
  split at h
  · next htype =>
    obtain rfl := Option.some.inj h
    exact ⟨rfl, rfl, rfl, htype⟩
  · next htype =>
    obtain rfl := Option.some.inj h
    exact ⟨rfl, rfl, rfl, htype⟩
  · cases h

theorem decodeField_object {fields : List (String × Json)} {decoded : EngineFieldObservation}
    (h : decodeField (.object fields) = .ok decoded) :
    (∃ n : ℕ, (fields.lookup "id").bind Json.asU64 = some n ∧ decoded.id = n) ∧
      (fields.lookup "name").bind Json.asStr = some decoded.name ∧
      (fields.lookup "required").bind asBoolean = some decoded.required ∧
      (fields.lookup "type").bind Json.asStr =
        some (match decoded.fieldType with | .long => "long" | .string => "string") := by
  obtain ⟨n, hn, h⟩ := except_bind_eq_ok.mp h
  obtain ⟨id, hid, h⟩ := except_bind_eq_ok.mp h
  split at h
  · cases h
  obtain ⟨name, hname, h⟩ := except_bind_eq_ok.mp h
  split at h
  · cases h
  obtain ⟨required, hrequired, h⟩ := except_bind_eq_ok.mp h
  obtain ⟨type, htype, h⟩ := except_bind_eq_ok.mp h
  have hrequired := okOr_eq_ok.mp hrequired
  rw [asBool_eq_asBoolean] at hrequired
  split at h
  · obtain rfl := Except.ok.inj h
    exact ⟨⟨n, requiredU64_ok hn, toI32_ok hid⟩, requiredText_ok hname, hrequired,
      requiredText_ok htype⟩
  · obtain rfl := Except.ok.inj h
    exact ⟨⟨n, requiredU64_ok hn, toI32_ok hid⟩, requiredText_ok hname, hrequired,
      requiredText_ok htype⟩
  · cases h

/-- A field that both observers accept is one observation. -/
theorem projectField_eq_of_decodeField {projection : TableProjection} {value : Json}
    {decoded projected : EngineFieldObservation} {field : RestField}
    (hdecode : decodeField value = .ok decoded) (hfield : RestField.deserialize value = some field)
    (hproject : projection.projectField field = some projected) : projected = decoded := by
  obtain ⟨fields, rfl⟩ : ∃ fields, value = .object fields := by
    obtain ⟨fields, hfields, -⟩ := except_bind_eq_ok.mp hdecode
    exact ⟨fields, asObject_eq_some (okOr_eq_ok.mp hfields)⟩
  obtain ⟨⟨n, hn, hid⟩, hname, hrequired, htype⟩ := decodeField_object hdecode
  obtain ⟨hid', hname', hrequired', htype'⟩ := RestField.deserialize_object hfield
  obtain ⟨hpid, hpname, hprequired, hptype⟩ := projectField_eq_some hproject
  rw [htype', Option.bind_some, hptype] at htype
  have hsame : projected.fieldType = decoded.fieldType := by
    cases hp : projected.fieldType <;> cases hd : decoded.fieldType <;>
      simp [hp, hd] at htype ⊢
  have hids : projected.id = decoded.id := by
    rw [hpid, hid]
    exact asSigned_eq_of_asU64 hn hid'
  have hnames : projected.name = decoded.name :=
    hpname.trans (Option.some.inj (hname'.symm.trans hname))
  have hrequireds : projected.required = decoded.required :=
    hprequired.trans (Option.some.inj (hrequired'.symm.trans hrequired))
  cases projected
  cases decoded
  simp_all

/-- The schema that comes first under the current id is the only one under it. -/
theorem currentSchema_of_findCurrentSchema {schemas : List Json} {currentSchemaId : ℕ}
    {metadata : RestTableMetadata} {fields : List (String × Json)} {current : RestSchema}
    (hschemas : List.Forall₂ (fun v a => RestSchema.deserialize v = some a) schemas
      metadata.schemas)
    (hid : metadata.currentSchemaId = currentSchemaId)
    (hfind : findCurrentSchema schemas currentSchemaId = some fields)
    (hcurrent : TableProjection.currentSchema metadata = some current) :
    RestSchema.deserialize (.object fields) = some current := by
  have hmatches : (fields.lookup "schema-id").bind Json.asU64 = some currentSchemaId := by
    simpa using List.find?_some hfind
  obtain ⟨value, hvalue, hobject⟩ := List.mem_filterMap.mp (List.mem_of_find?_eq_some hfind)
  obtain rfl := asObject_eq_some hobject
  obtain ⟨schema, hschema, hdecoded⟩ := forall₂_mem_left hschemas hvalue
  have hschemaId := (RestSchema.deserialize_object hdecoded).1
  have hunique : schema ∈ metadata.schemas.filter (·.schemaId = metadata.currentSchemaId) :=
    List.mem_filter.mpr ⟨hschema, by simp [hid, asSigned_eq_of_asU64 hmatches hschemaId]⟩
  unfold TableProjection.currentSchema at hcurrent
  split at hcurrent
  · next hfilter =>
    obtain rfl := Option.some.inj hcurrent
    rw [hfilter] at hunique
    rw [hdecoded, List.mem_singleton.mp hunique]
  · cases hcurrent

theorem countSnapshots_eq {value : Option Json} {n : ℕ} {snapshots : List RestSnapshot}
    (hcount : countSnapshots value = .ok n)
    (hsnapshots : defaulted value (asVec RestSnapshot.deserialize) [] = some snapshots) :
    snapshots.length = n := by
  unfold countSnapshots at hcount
  split at hcount
  · obtain rfl := Except.ok.inj hcount
    obtain rfl := Option.some.inj hsnapshots
    rfl
  · cases hsnapshots
  · next values =>
    obtain rfl := Except.ok.inj hcount
    exact (option_mapM_forall₂ hsnapshots).length_eq.symm
  · cases hcount

/-- A field and the entry that a text map keeps of it. -/
def Kept (field : String × Json) (entry : String × String) : Prop :=
  entry.1 = field.1 ∧ field.2.asStr = some entry.2

theorem Kept.keys {fields : List (String × Json)} {entries : List (String × String)}
    (h : List.Forall₂ Kept fields entries) : entries.map Prod.fst = fields.map Prod.fst := by
  induction h with
  | nil => rfl
  | cons hhead _ ih => rw [List.map_cons, List.map_cons, hhead.1, ih]

theorem Kept.lookup {fields : List (String × Json)} {entries : List (String × String)}
    (h : List.Forall₂ Kept fields entries) (key : String) :
    entries.lookup key = (fields.lookup key).bind Json.asStr ∧
      (entries.lookup key).isSome = (fields.lookup key).isSome := by
  induction h with
  | nil => exact ⟨rfl, rfl⟩
  | @cons field entry fields entries hhead _ ih =>
    obtain ⟨name, value⟩ := field
    obtain ⟨name', text⟩ := entry
    obtain ⟨rfl, htext⟩ := hhead
    rw [List.lookup_cons, List.lookup_cons]
    by_cases hkey : (key == name') = true
    · simpa [hkey] using htext.symm
    · simp only [hkey]
      exact ih

/-- What a text map holds is what its object holds. -/
theorem getElem?_asTextMap {fields : List (String × Json)} {texts : StringMap String}
    (hdistinct : (fields.map Prod.fst).Nodup) (htexts : asTextMap (.object fields) = some texts)
    (key : String) : texts[key]? = (fields.lookup key).bind Json.asStr ∧
      texts[key]?.isSome = (fields.lookup key).isSome := by
  obtain ⟨entries, hentries, htexts⟩ := Option.bind_eq_some_iff.mp htexts
  obtain rfl := Option.some.inj htexts
  have hkept : List.Forall₂ Kept fields entries := by
    refine (option_mapM_forall₂ hentries).imp fun field entry h => ?_
    obtain ⟨text, htext, h⟩ := Option.bind_eq_some_iff.mp h
    obtain rfl := Option.some.inj h
    exact ⟨rfl, htext⟩
  have hdistinct : (entries.map Prod.fst).Nodup := Kept.keys hkept ▸ hdistinct
  have hget : (Std.ExtTreeMap.ofList entries compare : StringMap String)[key]? =
      entries.lookup key :=
    Option.ext fun text => by rw [getElem?_ofList_iff hdistinct, lookup_eq_some_iff hdistinct]
  rw [hget]
  exact Kept.lookup hkept key

-- ════════════════════════════════
-- The observers agree
-- ════════════════════════════════

/-- A property as the metadata has it. -/
def metadataProperty (metadata : Json) (key : String) : Option Json :=
  (metadata.get "properties").bind (·.get key)

/-- A projected and a decoded observation of the same metadata. -/
structure ObserversAgree (metadata : Json) (policy : TrinoObservationPolicy)
    (projected decoded : EngineTableObservation) : Prop where
  tableUuid : projected.tableUuid = decoded.tableUuid
  location : projected.location = decoded.location
  metadataLocation : projected.metadataLocation = decoded.metadataLocation
  formatVersion : projected.formatVersion = decoded.formatVersion
  lastColumnId : projected.lastColumnId = decoded.lastColumnId
  schema : projected.schema = decoded.schema
  snapshots : projected.snapshots = decoded.snapshots
  present : ∀ key ∈ policy.properties, (metadataProperty metadata key).isSome →
    ∃ outcome, projected.properties[key]? = some outcome ∧
      decoded.properties[key]? = some outcome
  absent : ∀ key ∈ policy.properties, (metadataProperty metadata key).isNone →
    projected.properties[key]? ≠ some .match ∧ decoded.properties[key]? ≠ some .match

section Observers

variable {crates : Crates} {reader : MetadataReader} {object : List (String × Json)}
  {metadataLocation : String} {policy : TrinoObservationPolicy} {projection : TableProjection}
  {metadata : RestTableMetadata} {decoded : EngineTableObservation} {state : EngineCatalogTable}

/-- The properties that a decoder reads are an object without repeated keys. -/
theorem properties_distinct {properties : List (String × Json)}
    (hstrict : (Json.object object).hasDuplicateKey = false)
    (h : (object.lookup "properties").bind asObject = some properties) :
    (properties.map Prod.fst).Nodup := by
  obtain ⟨value, hvalue, hobject⟩ := Option.bind_eq_some_iff.mp h
  obtain rfl := asObject_eq_some hobject
  obtain ⟨hdistinct, hfields⟩ := Json.hasDuplicateKey_object.mp hstrict
  exact (Json.hasDuplicateKey_object.mp
    (hfields _ ((lookup_eq_some_iff hdistinct).mp hvalue))).1

/-- What both observers say of a property of the policy. -/
theorem properties_agree (hexpected : projection.expectedProperties = policy.properties)
    (hstrict : (Json.object object).hasDuplicateKey = false)
    (hmetadata : metadata.Holds object)
    (hdecoded : ObservedIn crates object metadataLocation policy decoded) (key expected : String)
    (hkey : policy.properties[key]? = some expected) :
    (∃ value outcome, metadataProperty (.object object) key = some value ∧
        (projection.projectProperties metadata.properties)[key]? = some outcome ∧
        decoded.properties[key]? = some outcome) ∨
      metadataProperty (.object object) key = none ∧
        (projection.projectProperties metadata.properties)[key]? = none ∧
        decoded.properties[key]? = some .mismatch := by
  obtain ⟨properties, hproperties, hobserved⟩ := hdecoded.properties
  have hdistinct := properties_distinct hstrict hproperties
  obtain ⟨value, hvalue, hobject⟩ := Option.bind_eq_some_iff.mp hproperties
  obtain rfl := asObject_eq_some hobject
  have htexts : asTextMap (.object properties) = some metadata.properties := by
    have h := hmetadata.properties
    rw [hvalue] at h
    exact h
  obtain ⟨hread, hsome⟩ := getElem?_asTextMap hdistinct htexts key
  have hproperty : metadataProperty (.object object) key = properties.lookup key := by
    simp [metadataProperty, Json.get, hvalue]
  have hdecoded : decoded.properties[key]? =
      some (if (properties.lookup key).bind Json.asStr = some expected then .match
        else .mismatch) := by
    rw [hobserved, observeProperties, Std.ExtTreeMap.getElem?_map, hkey, Option.map_some]
  have hprojected : (projection.projectProperties metadata.properties)[key]? =
      metadata.properties[key]?.map fun value =>
        if value = expected then .match else .mismatch := by
    rw [TableProjection.projectProperties, hexpected, Std.ExtTreeMap.getElem?_filterMap', hkey,
      Option.bind_some]
  rw [hproperty, hprojected, hdecoded, ← hread]
  cases hlookup : properties.lookup key with
  | none =>
    rw [hlookup] at hread
    exact .inr ⟨rfl, by rw [hread]; rfl, by rw [hread]; rfl⟩
  | some value =>
    rw [hlookup, Option.isSome_some] at hsome
    obtain ⟨text, htext⟩ := Option.isSome_iff_exists.mp hsome
    refine .inl ⟨value, if text = expected then .match else .mismatch, rfl, ?_, ?_⟩
    · rw [htext, Option.map_some]
    · simp [htext]

/-- Neither observer reports a property outside the policy. -/
theorem properties_outside (hexpected : projection.expectedProperties = policy.properties)
    (hdecoded : ObservedIn crates object metadataLocation policy decoded) (key : String)
    (hkey : policy.properties[key]? = none) :
    (projection.projectProperties metadata.properties)[key]? = none ∧
      decoded.properties[key]? = none := by
  obtain ⟨properties, -, hobserved⟩ := hdecoded.properties
  constructor
  · rw [TableProjection.projectProperties, hexpected, Std.ExtTreeMap.getElem?_filterMap', hkey,
      Option.bind_none]
  · rw [hobserved, observeProperties, Std.ExtTreeMap.getElem?_map, hkey, Option.map_none]

/-- The schemas of both observations are the fields of the same schema object. -/
theorem schemas_agree (hmetadata : metadata.Holds object)
    (hdecoded : ObservedIn crates object metadataLocation policy decoded)
    {current : RestSchema} {fields : List EngineFieldObservation}
    (hcurrent : TableProjection.currentSchema metadata = some current)
    (hfields : projection.projectFields current.fields = some fields) :
    fields = decoded.schema := by
  obtain ⟨currentSchemaId, schemas, schema, values, hid, hschemas, hfind, hvalues, hdecode⟩ :=
    hdecoded.schema
  obtain ⟨value, hvalue, hvec⟩ := Option.bind_eq_some_iff.mp hmetadata.schemas
  obtain ⟨schemas', harray, hread⟩ := asVec_eq_some hvec
  rw [hvalue, Option.bind_some, harray] at hschemas
  obtain rfl := Option.some.inj hschemas
  have hsame := asSigned_eq_of_asU64 hid hmetadata.currentSchemaId
  have hschema := currentSchema_of_findCurrentSchema hread hsame hfind hcurrent
  obtain ⟨list, hlist, hvec⟩ := Option.bind_eq_some_iff.mp (RestSchema.deserialize_object hschema).2
  obtain ⟨values', harray, hread⟩ := asVec_eq_some hvec
  rw [hlist, Option.bind_some, harray] at hvalues
  obtain rfl := Option.some.inj hvalues
  unfold TableProjection.projectFields at hfields
  split at hfields
  · have hdecode : List.Forall₂ (fun value field => decodeField value = .ok field) _ _ :=
      except_mapM_forall₂ hdecode
    refine forall₂_two_ways ?_ hread (option_mapM_forall₂ hfields) hdecode
    exact fun _ _ _ _ hfield hproject hdecode =>
      projectField_eq_of_decodeField hdecode hfield hproject
  · cases hfields

/-- Both observers at work on one metadata object. -/
theorem observers_agree (hexpected : projection.expectedProperties = policy.properties)
    (hstrict : (Json.object object).hasDuplicateKey = false)
    (hmetadata : metadata.Holds object)
    (hdecoded : ObservedIn crates object metadataLocation policy decoded)
    (hprojected : projection.Projected crates ⟨some metadataLocation, metadata⟩ state) :
    ObserversAgree (.object object) policy state.table decoded where
  tableUuid := by
    obtain ⟨uuid, huuid, -, htext⟩ := hprojected.tableUuid
    obtain ⟨uuid', huuid', htext'⟩ := hdecoded.hyphenated
    have hsame : metadata.tableUuid = decoded.tableUuid :=
      Option.some.inj (hmetadata.tableUuid.symm.trans hdecoded.tableUuid)
    rw [hsame, huuid'] at huuid
    rw [htext, ← Option.some.inj huuid, htext']
  location := hprojected.location.trans
    (Option.some.inj (hmetadata.location.symm.trans hdecoded.location))
  metadataLocation :=
    (Option.some.inj hprojected.metadataLocation).symm.trans hdecoded.metadataLocation.symm
  formatVersion := hprojected.formatVersion.trans hdecoded.formatVersion.symm
  lastColumnId := by
    obtain ⟨n, hn, hlast⟩ := hdecoded.lastColumnId
    rw [hprojected.lastColumnId, hlast]
    exact asSigned_eq_of_asU64 hn hmetadata.lastColumnId
  schema := by
    obtain ⟨current, hcurrent, hfields⟩ := hprojected.schema
    exact schemas_agree hmetadata hdecoded hcurrent hfields
  snapshots :=
    hprojected.snapshots.trans (countSnapshots_eq hdecoded.snapshots hmetadata.snapshots)
  present := by
    intro key hkey hpresent
    obtain ⟨expected, hexpectedKey⟩ := Option.isSome_iff_exists.mp
      (Std.ExtTreeMap.mem_iff_isSome_getElem?.mp hkey)
    rcases properties_agree hexpected hstrict hmetadata hdecoded key expected hexpectedKey with
      ⟨-, outcome, -, hproject, hdecode⟩ | ⟨hnone, -, -⟩
    · exact ⟨outcome, hprojected.properties ▸ hproject, hdecode⟩
    · rw [hnone] at hpresent
      cases hpresent
  absent := by
    intro key hkey habsent
    obtain ⟨expected, hexpectedKey⟩ := Option.isSome_iff_exists.mp
      (Std.ExtTreeMap.mem_iff_isSome_getElem?.mp hkey)
    rcases properties_agree hexpected hstrict hmetadata hdecoded key expected hexpectedKey with
      ⟨value, -, hsome, -, -⟩ | ⟨-, hproject, hdecode⟩
    · rw [hsome] at habsent
      cases habsent
    · rw [hprojected.properties, hproject, hdecode]
      exact ⟨nofun, nofun⟩

/-- Either observation has exactly the expected properties if the other one has. -/
theorem expectedProperties_iff {plan : InteroperabilityPlan}
    (hpolicy : policy.properties = plan.scenario.table.properties)
    (hexpected : projection.expectedProperties = policy.properties)
    (hstrict : (Json.object object).hasDuplicateKey = false)
    (hmetadata : metadata.Holds object)
    (hdecoded : ObservedIn crates object metadataLocation policy decoded)
    (hprojected : projection.Projected crates ⟨some metadataLocation, metadata⟩ state) :
    state.table.properties = expectedProperties plan ↔
      decoded.properties = expectedProperties plan := by
  have hkeys : ∀ key : String, state.table.properties[key]? = (expectedProperties plan)[key]? ↔
      decoded.properties[key]? = (expectedProperties plan)[key]? := by
    intro key
    rw [expectedProperties_getElem?, ← hpolicy, hprojected.properties]
    cases hkey : policy.properties[key]? with
    | none =>
      obtain ⟨hproject, hdecode⟩ := properties_outside hexpected hdecoded key hkey
      rw [hproject, hdecode]
    | some expected =>
      rcases properties_agree hexpected hstrict hmetadata hdecoded key expected hkey with
        ⟨-, outcome, -, hproject, hdecode⟩ | ⟨-, hproject, hdecode⟩
      · rw [hproject, hdecode]
      · have hmem : key ∈ policy.properties :=
          Std.ExtTreeMap.mem_iff_isSome_getElem?.mpr (by simp [hkey])
        simp [hproject, hdecode, hmem]
  constructor
  · intro h
    exact Std.ExtTreeMap.ext_getElem? fun key => (hkeys key).mp (by rw [h])
  · intro h
    exact Std.ExtTreeMap.ext_getElem? fun key => (hkeys key).mpr (by rw [h])

end Observers

/-- Wherever both observers answer for one metadata object they report the same table: the shape
check comes out the same on both reports, and reports that pass it are equal. -/
theorem tableObservers_agree (crates : Crates) (reader : MetadataReader)
    (plan : InteroperabilityPlan) (fixture : TrinoFixtureTarget) (policy : TrinoObservationPolicy)
    (hpolicy : policy.properties = plan.scenario.table.properties) (bytes : List UInt8)
    (metadata : Json) (metadataLocation : String) (httpStatus : ℕ) (rest : RestTableMetadata)
    (decoded : EngineTableObservation) (state : EngineCatalogTable)
    (hbytes : readMetadataDocument reader bytes metadataLocation = .ok metadata)
    (hdecode : decodeIcebergTableMetadata crates reader bytes metadataLocation fixture policy =
      .ok decoded)
    (hrest : RestTableMetadata.deserialize metadata = some rest)
    (hproject : (TableProjection.fromPlan plan).project crates ⟨some metadataLocation, rest⟩
      httpStatus = .ok state) :
    ObserversAgree metadata policy state.table decoded ∧
      ∀ fields lastColumnId snapshots,
        tableMatchesShape crates plan state.table fields lastColumnId snapshots =
            tableMatchesShape crates plan decoded fields lastColumnId snapshots ∧
          (tableMatchesShape crates plan state.table fields lastColumnId snapshots = true →
            state.table = decoded) := by
  obtain ⟨document, hdocument, hdecode⟩ := except_bind_eq_ok.mp hdecode
  obtain rfl : metadata = document := Except.ok.inj (hbytes.symm.trans hdocument)
  obtain ⟨object, rfl, hdecoded⟩ := observedIn_of_observeDocument hdecode
  have hstrict := hasDuplicateKey_of_readMetadataDocument hbytes
  have hmetadata := RestTableMetadata.deserialize_object hrest
  have hprojected := TableProjection.projected_of_project hproject
  have hexpected : (TableProjection.fromPlan plan).expectedProperties = policy.properties :=
    hpolicy.symm
  have hagree := observers_agree hexpected hstrict hmetadata hdecoded hprojected
  have hproperties :=
    expectedProperties_iff hpolicy hexpected hstrict hmetadata hdecoded hprojected
  refine ⟨hagree, fun fields lastColumnId snapshots => ⟨?_, fun hshape => ?_⟩⟩
  · simp only [tableMatchesShape, hagree.tableUuid, hagree.location, hagree.metadataLocation,
      hagree.formatVersion, hagree.lastColumnId, hagree.schema, hagree.snapshots, hproperties]
  · have hprojected : state.table.properties = expectedProperties plan := by
      simp only [tableMatchesShape, Bool.and_eq_true, decide_eq_true_eq] at hshape
      exact hshape.1.1.1.2
    have hdecoded := hproperties.mp hprojected
    obtain ⟨hid, hlocation, hmeta, hversion, hlast, hschema, hsnapshots, -, -⟩ := hagree
    have hsame : state.table.properties = decoded.properties := hprojected.trans hdecoded.symm
    generalize state.table = projected at *
    cases projected
    cases decoded
    simp_all

@[irreducible] def sampleMetadataText : String :=
    "\x7b\"format-version\":2,\"table-uuid\":\"00000000-0000-4000-8000-000000000001\",\"l" ++
    "ocation\":\"s3://bench/events\",\"last-column-id\":3,\"current-schema-id\":0,\"schem" ++
    "as\":[\x7b\"type\":\"struct\",\"schema-id\":0,\"fields\":[\x7b\"id\":1,\"name\":\"id" ++
    "\",\"required\":true,\"type\":\"long\"\x7d,\x7b\"id\":2,\"name\":\"category\",\"requ" ++
    "ired\":true,\"type\":\"string\"\x7d,\x7b\"id\":3,\"name\":\"amount_cents\",\"require" ++
    "d\":true,\"type\":\"long\"\x7d]\x7d],\"properties\":\x7b\"owner\":\"bench\"\x7d\x7d"

/-- A field of a sample schema. -/
def sampleMetadataField (id : ℕ) (name type : String) : Json :=
  .object [("id", .number (.posInt id)), ("name", .string name), ("required", .bool true),
    ("type", .string type)]

def sampleMetadata : Json :=
  .object [("format-version", .number (.posInt 2)),
    ("table-uuid", .string "00000000-0000-4000-8000-000000000001"),
    ("location", .string "s3://bench/events"), ("last-column-id", .number (.posInt 3)),
    ("current-schema-id", .number (.posInt 0)),
    ("schemas", .array [.object [("type", .string "struct"), ("schema-id", .number (.posInt 0)),
      ("fields", .array [sampleMetadataField 1 "id" "long",
        sampleMetadataField 2 "category" "string",
        sampleMetadataField 3 "amount_cents" "long"])]]),
    ("properties", .object [("owner", .string "bench")])]

def sampleMetadataLocation : String := "s3://bench/events/metadata/0.metadata.json"

def sampleReader : MetadataReader where
  gunzip _ _ := none
  parseJson bytes := if bytes = utf8 sampleMetadataText then some sampleMetadata else none

def sampleFixtureTarget : TrinoFixtureTarget where
  «namespace» := "interop_run"
  table := "events"
  requestedLocation := none
  bucket := "bench"

def sampleObservationPolicy : TrinoObservationPolicy where
  formatVersion := 2
  initialSchema := sampleScenario.table.schema.fields
  evolvedField := sampleScenario.schemaEvolution.field
  properties := sampleScenario.table.properties

def sampleRestMetadata : RestTableMetadata where
  formatVersion := 2
  tableUuid := "00000000-0000-4000-8000-000000000001"
  location := "s3://bench/events"
  lastColumnId := 3
  schemas := [⟨0, "struct", [⟨1, "id", true, .string "long"⟩,
    ⟨2, "category", true, .string "string"⟩, ⟨3, "amount_cents", true, .string "long"⟩]⟩]
  currentSchemaId := 0
  snapshots := []
  properties := .ofList [("owner", "bench")] _

theorem sampleMetadata_read :
    readMetadataDocument sampleReader (utf8 sampleMetadataText) sampleMetadataLocation =
      .ok sampleMetadata := by
  have hlength : ¬(utf8 sampleMetadataText).length > maximumIcebergMetadataBytes := by
    decide +kernel
  have hplain : ".gz.metadata.json".toList.isSuffixOf sampleMetadataLocation.toList = false := by
    decide +kernel
  have hstrict : sampleMetadata.hasDuplicateKey = false := by decide +kernel
  have hbytes : decodeMetadataBytes sampleReader (utf8 sampleMetadataText) sampleMetadataLocation =
      .ok (utf8 sampleMetadataText) := by
    rw [decodeMetadataBytes, hplain]
    rfl
  have hparse : sampleReader.parseJson (utf8 sampleMetadataText) = some sampleMetadata := if_pos rfl
  have hdecode : decodeStrictJson sampleReader (utf8 sampleMetadataText) = .ok sampleMetadata := by
    rw [decodeStrictJson, hparse]
    exact if_neg (by simp [hstrict])
  unfold readMetadataDocument
  rw [if_neg hlength, hbytes]
  exact except_mapError_eq_ok.mpr hdecode

theorem tableObservers_agree_sample :
    ObserversAgree sampleMetadata sampleObservationPolicy (sampleTable 0) (sampleTable 0) ∧
      tableMatchesShape sampleCrates samplePlan (sampleTable 0)
        (sampleScenario.table.schema.fields.map engineField) 3 0 = true := by
  have hdecode : decodeIcebergTableMetadata sampleCrates sampleReader (utf8 sampleMetadataText)
      sampleMetadataLocation sampleFixtureTarget sampleObservationPolicy = .ok (sampleTable 0) := by
    refine except_bind_eq_ok.mpr ⟨sampleMetadata, sampleMetadata_read, ?_⟩
    decide +kernel
  have hproject : (TableProjection.fromPlan samplePlan).project sampleCrates
      ⟨some sampleMetadataLocation, sampleRestMetadata⟩ 200 = .ok ⟨0, sampleTable 0⟩ := by
    decide +kernel
  exact ⟨(tableObservers_agree sampleCrates sampleReader samplePlan sampleFixtureTarget
    sampleObservationPolicy rfl (utf8 sampleMetadataText) sampleMetadata sampleMetadataLocation 200
    sampleRestMetadata (sampleTable 0) ⟨0, sampleTable 0⟩ sampleMetadata_read hdecode rfl
    hproject).1, by decide +kernel⟩

end CatalogBench.Engine
