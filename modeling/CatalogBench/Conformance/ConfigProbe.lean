import CatalogBench.Conformance.Negotiation
import CatalogBench.Conformance.SanitizeSecrets

/-!
# The config probe

The config probe judges the body it publishes, where the other probes judge the body as it was
received. A body is judged alike before and after sanitizing when what decides the judgement is
left as it is.
-/

set_option linter.all false

namespace CatalogBench.Conformance

-- ════════════════════════════════
-- The judgements
-- ════════════════════════════════

inductive EndpointAdvertisement
  | explicit (endpoints : List String)
  | omitted
  | invalid (explanation : String)
  | notEvaluated (reason : String)
  deriving DecidableEq

def standardEndpoints : List String :=
  ["GET /v1/config",
    "POST /v1/oauth/tokens",
    "GET /v1/\x7bprefix\x7d/namespaces",
    "POST /v1/\x7bprefix\x7d/namespaces",
    "GET /v1/\x7bprefix\x7d/namespaces/\x7bnamespace\x7d",
    "HEAD /v1/\x7bprefix\x7d/namespaces/\x7bnamespace\x7d",
    "DELETE /v1/\x7bprefix\x7d/namespaces/\x7bnamespace\x7d",
    "POST /v1/\x7bprefix\x7d/namespaces/\x7bnamespace\x7d/properties",
    "GET /v1/\x7bprefix\x7d/namespaces/\x7bnamespace\x7d/tables",
    "POST /v1/\x7bprefix\x7d/namespaces/\x7bnamespace\x7d/tables",
    "POST /v1/\x7bprefix\x7d/namespaces/\x7bnamespace\x7d/tables/\x7btable\x7d/plan",
    "GET /v1/\x7bprefix\x7d/namespaces/\x7bnamespace\x7d/tables/\x7btable\x7d/plan/\x7bplan-id\x7d",
    "DELETE /v1/\x7bprefix\x7d/namespaces/\x7bnamespace\x7d/tables/\x7btable\x7d/plan/\x7bplan-id\x7d",
    "POST /v1/\x7bprefix\x7d/namespaces/\x7bnamespace\x7d/tables/\x7btable\x7d/tasks",
    "POST /v1/\x7bprefix\x7d/namespaces/\x7bnamespace\x7d/register",
    "GET /v1/\x7bprefix\x7d/namespaces/\x7bnamespace\x7d/tables/\x7btable\x7d",
    "POST /v1/\x7bprefix\x7d/namespaces/\x7bnamespace\x7d/tables/\x7btable\x7d",
    "DELETE /v1/\x7bprefix\x7d/namespaces/\x7bnamespace\x7d/tables/\x7btable\x7d",
    "HEAD /v1/\x7bprefix\x7d/namespaces/\x7bnamespace\x7d/tables/\x7btable\x7d",
    "GET /v1/\x7bprefix\x7d/namespaces/\x7bnamespace\x7d/tables/\x7btable\x7d/credentials",
    "POST /v1/\x7bprefix\x7d/namespaces/\x7bnamespace\x7d/tables/\x7btable\x7d/sign",
    "POST /v1/\x7bprefix\x7d/tables/rename",
    "POST /v1/\x7bprefix\x7d/namespaces/\x7bnamespace\x7d/tables/\x7btable\x7d/metrics",
    "POST /v1/\x7bprefix\x7d/transactions/commit",
    "GET /v1/\x7bprefix\x7d/namespaces/\x7bnamespace\x7d/views",
    "POST /v1/\x7bprefix\x7d/namespaces/\x7bnamespace\x7d/views",
    "GET /v1/\x7bprefix\x7d/namespaces/\x7bnamespace\x7d/views/\x7bview\x7d",
    "POST /v1/\x7bprefix\x7d/namespaces/\x7bnamespace\x7d/views/\x7bview\x7d",
    "DELETE /v1/\x7bprefix\x7d/namespaces/\x7bnamespace\x7d/views/\x7bview\x7d",
    "HEAD /v1/\x7bprefix\x7d/namespaces/\x7bnamespace\x7d/views/\x7bview\x7d",
    "POST /v1/\x7bprefix\x7d/views/rename",
    "POST /v1/\x7bprefix\x7d/namespaces/\x7bnamespace\x7d/register-view"]

def nonstandardEndpoint (endpoint : String) : String :=
  "`" ++ endpoint ++ "` is not an Apache Iceberg 1.11.0 REST endpoint"

/-- The loop of `inspect_endpoints`, after some endpoints. -/
def parseEndpoints (parsed : List String) : List Json → EndpointAdvertisement
  | [] => .explicit parsed
  | endpoint :: endpoints =>
    match endpoint.asStr with
    | none => .invalid "every config endpoint must be a string"
    | some endpoint =>
      if endpoint ∈ standardEndpoints then parseEndpoints (parsed ++ [endpoint]) endpoints
      else .invalid (nonstandardEndpoint endpoint)

def inspectEndpoints : Option Json → EndpointAdvertisement
  | none => .notEvaluated "config response has no captured JSON body"
  | some body =>
    match body.get "endpoints" with
    | none => .omitted
    | some (.array endpoints) => parseEndpoints [] endpoints
    | some _ => .invalid "config `endpoints` must be an array when present"

def isNoString (property : String × Json) : Bool := property.2.asStr.isNone

def mapFault (field name : String) : String :=
  "config `" ++ field ++ "." ++ name ++ "` must be a string map value"

/-- One turn of the loop of `validate_config_map_shape`, for the value of the field. -/
def validateMap (field : String) : Option Json → Except String Unit
  | none => .error ("config response is missing required `" ++ field ++ "` map")
  | some (.object properties) =>
    match properties.find? isNoString with
    | some (name, _) => .error (mapFault field name)
    | none => .ok ()
  | some _ => .error ("config `" ++ field ++ "` must be a JSON object when present")

def validateConfigMapShape : Json → Except String Unit
  | .object fields => do
    validateMap "defaults" (fields.lookup "defaults")
    validateMap "overrides" (fields.lookup "overrides")
  | _ => .error "config response must be a JSON object"

/-- What the config probe reads off the captured response. -/
structure ConfigReading where
  configMapShape : Option (Except String Unit)
  routePrefix : PrefixResolution
  endpoints : EndpointAdvertisement

/-- The config probe reads the body of the transcript. -/
def readConfig (adapter : CatalogAdapter) (captured : CapturedResponse) : ConfigReading :=
  let body := captured.response.bind HttpResponseTranscript.json
  ⟨body.map validateConfigMapShape, resolvePrefix adapter body, inspectEndpoints body⟩

-- ════════════════════════════════
-- Sanitized parts
-- ════════════════════════════════

section Parts

variable {web : WebCrates} {sensitiveValues : List String}

mutual

/-- Where a value stands decides what is reported, not what is put there. -/
theorem sanitizeValue_anywhere (pointer pointer' : String) : ∀ value : Json,
    (sanitizeValue web sensitiveValues pointer value).1 =
      (sanitizeValue web sensitiveValues pointer' value).1
  | .object fields => by
    rw [sanitizeValue, sanitizeValue]
    exact congrArg Json.object (sanitizeFields_anywhere pointer pointer' fields)
  | .array values => by
    rw [sanitizeValue, sanitizeValue]
    exact congrArg Json.array (sanitizeValues_anywhere pointer pointer' 0 0 values)
  | .string text => by
    rw [sanitizeValue, sanitizeValue]
    exact congrArg Json.string ((sanitizeText_fst pointer text).trans
      (sanitizeText_fst pointer' text).symm)
  | .null => rfl
  | .bool _ => rfl
  | .number _ => rfl

theorem sanitizeFields_anywhere (pointer pointer' : String) : ∀ fields : List (String × Json),
    (sanitizeFields web sensitiveValues pointer fields).1 =
      (sanitizeFields web sensitiveValues pointer' fields).1
  | [] => rfl
  | (key, child) :: fields => by
    have hrest := sanitizeFields_anywhere pointer pointer' fields
    rw [sanitizeFields, sanitizeFields]
    dsimp only
    split
    · rw [hrest]
    · rw [hrest, sanitizeValue_anywhere _ (pointer' ++ "/" ++ escapePointerSegment key) child]

theorem sanitizeValues_anywhere (pointer pointer' : String) (index index' : ℕ) :
    ∀ values : List Json, (sanitizeValues web sensitiveValues pointer index values).1 =
      (sanitizeValues web sensitiveValues pointer' index' values).1
  | [] => rfl
  | child :: values => by
    have hrest := sanitizeValues_anywhere pointer pointer' (index + 1) (index' + 1) values
    rw [sanitizeValues, sanitizeValues]
    dsimp only
    rw [hrest, sanitizeValue_anywhere _ (pointer' ++ "/" ++ toString index') child]

end

variable (web sensitiveValues) in
/-- A value after sanitizing. -/
def clean (value : Json) : Json := (sanitizeJson web value sensitiveValues).1

variable (web sensitiveValues) in
def cleanField (field : String × Json) : String × Json :=
  (field.1, if isSensitiveKey field.1 then .string redacted else clean web sensitiveValues field.2)

variable (web sensitiveValues) in
def cleanText (text : String) : String := (textRedaction web sensitiveValues text).getD text

theorem clean_string (text : String) :
    clean web sensitiveValues (.string text) = .string (cleanText web sensitiveValues text) :=
  sanitizeJson_string text

theorem sanitizeFields_fst_eq (pointer : String) (fields : List (String × Json)) :
    (sanitizeFields web sensitiveValues pointer fields).1 =
      fields.map (cleanField web sensitiveValues) := by
  induction fields with
  | nil => rfl
  | cons field fields ih =>
    rw [sanitizeFields, List.map_cons, ← ih]
    dsimp only
    unfold cleanField
    split
    · rfl
    · rw [sanitizeValue_anywhere _ "" field.2]
      rfl

theorem clean_object (fields : List (String × Json)) :
    clean web sensitiveValues (.object fields) = .object (fields.map (cleanField web sensitiveValues)) := by
  rw [clean, sanitizeJson, sanitizeValue]
  exact congrArg Json.object (sanitizeFields_fst_eq "" fields)

theorem clean_array (values : List Json) :
    clean web sensitiveValues (.array values) = .array (values.map (clean web sensitiveValues)) := by
  have hmap (index : ℕ) : (sanitizeValues web sensitiveValues "" index values).1 =
      values.map (clean web sensitiveValues) := by
    induction values generalizing index with
    | nil => rfl
    | cons child values ih =>
      rw [sanitizeValues, List.map_cons, ← ih (index + 1)]
      dsimp only
      rw [sanitizeValue_anywhere _ "" child]
      rfl
  rw [clean, sanitizeJson, sanitizeValue]
  exact congrArg Json.array (hmap 0)

theorem asStr_clean (value : Json) : (clean web sensitiveValues value).asStr =
    value.asStr.map (cleanText web sensitiveValues) := by
  cases value with
  | string text => rw [clean_string]; rfl
  | object fields => rw [clean_object]; rfl
  | array values => rw [clean_array]; rfl
  | _ => rfl

theorem lookup_cleanField {key : String} (hkey : isSensitiveKey key = false)
    (fields : List (String × Json)) :
    (fields.map (cleanField web sensitiveValues)).lookup key =
      (fields.lookup key).map (clean web sensitiveValues) := by
  induction fields with
  | nil => rfl
  | cons field fields ih =>
    obtain ⟨name, child⟩ := field
    rw [List.map_cons, cleanField, List.lookup_cons, List.lookup_cons, ih]
    by_cases hname : key = name
    · subst hname
      simp [hkey]
    · rw [beq_false_of_ne hname]

/-- A field under a plain key is sanitized where it stands. -/
theorem get_clean {key : String} (hkey : isSensitiveKey key = false) (value : Json) :
    (clean web sensitiveValues value).get key = (value.get key).map (clean web sensitiveValues) := by
  cases value with
  | object fields =>
    rw [clean_object]
    exact lookup_cleanField hkey fields
  | string text => rw [clean_string]; rfl
  | array values => rw [clean_array]; rfl
  | _ => rfl

/-- So is what a pointer of plain tokens leads to. -/
theorem pointer_clean {tokens : List String}
    (htokens : ∀ token ∈ tokens, isSensitiveKey token = false) (value : Json) :
    (clean web sensitiveValues value).pointer tokens =
      (value.pointer tokens).map (clean web sensitiveValues) := by
  induction tokens generalizing value with
  | nil => rfl
  | cons token tokens ih =>
    rw [Json.pointer, Json.pointer, get_clean (htokens token List.mem_cons_self)]
    cases value.get token with
    | none => rfl
    | some below => exact ih (fun token hmem => htokens token (List.mem_cons_of_mem _ hmem)) below

end Parts

-- ════════════════════════════════
-- The map fields
-- ════════════════════════════════

section Maps

variable (web : WebCrates) (sensitiveValues : List String)

/-- The first property of a map field that is no text. -/
def offender : Json → Option String
  | .object properties => (properties.find? isNoString).map (·.1)
  | _ => none

/-- The property that `validate_config_map_shape` complains of. -/
def firstOffender (body : Json) : Option String :=
  match body.get "defaults" with
  | some (.object properties) =>
    (offender (.object properties)).or ((body.get "overrides").bind offender)
  | _ => none

/-- The property complained of, if any, does not stand under a key that is redacted. -/
def ShapeKept (body : Json) : Prop :=
  ∀ name, firstOffender body = some name → isSensitiveKey name = false

variable {web sensitiveValues}

/-- A redacted property is a text, and the others are texts as before. -/
theorem isNoString_cleanField (field : String × Json) :
    isNoString (cleanField web sensitiveValues field) =
      (isNoString field && !isSensitiveKey field.1) := by
  unfold isNoString cleanField
  by_cases hkey : isSensitiveKey field.1
  · rw [if_pos hkey, hkey, Bool.not_true, Bool.and_false]
    rfl
  · rw [if_neg hkey, asStr_clean, Option.isNone_map, Bool.eq_false_iff.mpr hkey]
    exact (Bool.and_true _).symm

theorem offender_clean (properties : List (String × Json)) :
    offender (clean web sensitiveValues (.object properties)) =
      (properties.find? fun field => isNoString field && !isSensitiveKey field.1).map (·.1) := by
  rw [clean_object, offender, List.find?_map, Option.map_map]
  have hsame : isNoString ∘ cleanField web sensitiveValues =
      fun field => isNoString field && !isSensitiveKey field.1 := by
    funext field
    exact isNoString_cleanField field
  rw [hsame]
  rfl

/-- The property complained of stays the same if its key is plain. -/
theorem offender_clean_plain {properties : List (String × Json)}
    (h : ∀ name, offender (.object properties) = some name → isSensitiveKey name = false) :
    offender (clean web sensitiveValues (.object properties)) = offender (.object properties) := by
  rw [offender_clean, offender]
  congr 1
  induction properties with
  | nil => rfl
  | cons field properties ih =>
    rw [List.find?_cons, List.find?_cons]
    by_cases hfield : isNoString field
    · have hname : isSensitiveKey field.1 = false := by
        apply h
        rw [offender, List.find?_cons, hfield]
        rfl
      rw [hfield, hname]
      rfl
    · have hplain : isNoString field = false := Bool.eq_false_iff.mpr hfield
      rw [hplain]
      apply ih
      intro name hname
      apply h
      rw [offender, List.find?_cons, hplain]
      exact hname

/-- And no property under a redacted key is complained of. -/
theorem not_isSensitiveKey_of_offender_clean {properties : List (String × Json)} {name : String}
    (h : offender (clean web sensitiveValues (.object properties)) = some name) :
    isSensitiveKey name = false := by
  rw [offender_clean] at h
  obtain ⟨field, hfound, rfl⟩ := Option.map_eq_some_iff.mp h
  have hfield := List.find?_some hfound
  simpa using (Bool.and_eq_true_iff.mp hfield).2

theorem validateMap_object (field : String) (properties : List (String × Json)) :
    validateMap field (some (.object properties)) =
      match offender (.object properties) with
      | some name => .error (mapFault field name)
      | none => .ok () := by
  rw [validateMap, offender]
  cases properties.find? isNoString <;> rfl

theorem mapFault_inj {field name name' : String} (h : mapFault field name = mapFault field name') :
    name = name' := by
  have hchars := congrArg String.toList h
  simp only [mapFault, String.toList_append, List.append_assoc, List.append_cancel_left_eq,
    List.append_cancel_right_eq] at hchars
  exact String.toList_inj.mp hchars

/-- A complaint about `overrides` is none about a property of `defaults`. -/
theorem validateMap_overrides_ne (value : Option Json) (name : String) :
    validateMap "overrides" value ≠ .error (mapFault "defaults" name) := by
  have hdefaults : (mapFault "defaults" name).toList[8]? = some 'd' := by
    simp only [mapFault, String.toList_append]
    rfl
  intro h
  unfold validateMap at h
  split at h
  · rw [← Except.error.inj h] at hdefaults
    exact absurd hdefaults (by decide)
  · split at h
    · rw [← Except.error.inj h] at hdefaults
      simp only [mapFault, String.toList_append] at hdefaults
      exact absurd hdefaults (by simp)
    · cases h
  · rw [← Except.error.inj h] at hdefaults
    exact absurd hdefaults (by decide)

theorem validateMap_offender {field name : String} {value : Option Json}
    (h : value.bind offender = some name) :
    validateMap field value = .error (mapFault field name) := by
  obtain ⟨body, rfl, hoffender⟩ := Option.bind_eq_some_iff.mp h
  cases body with
  | object properties => rw [validateMap_object, hoffender]
  | _ => cases hoffender

theorem validateMap_clean {field : String} {value : Option Json}
    (h : ∀ name, value.bind offender = some name → isSensitiveKey name = false) :
    validateMap field (value.map (clean web sensitiveValues)) = validateMap field value := by
  cases value with
  | none => rfl
  | some body =>
    cases body with
    | object properties =>
      have hsame : offender (clean web sensitiveValues (.object properties)) =
          offender (.object properties) := offender_clean_plain h
      rw [Option.map_some, clean_object, validateMap_object, validateMap_object, ← clean_object, hsame]
    | array values => rw [Option.map_some, clean_array]; rfl
    | string text => rw [Option.map_some, clean_string]; rfl
    | _ => rfl

/-- A complaint about a redacted property is not made of the sanitized map. -/
theorem validateMap_clean_ne {field name : String} {value : Option Json}
    (h : value.bind offender = some name) (hkey : isSensitiveKey name = true) :
    validateMap field (value.map (clean web sensitiveValues)) ≠ .error (mapFault field name) := by
  obtain ⟨body, rfl, hoffender⟩ := Option.bind_eq_some_iff.mp h
  cases body with
  | object properties =>
    intro hsame
    rw [Option.map_some, clean_object, validateMap_object, ← clean_object] at hsame
    cases hclean : offender (clean web sensitiveValues (.object properties)) with
    | none =>
      rw [hclean] at hsame
      cases hsame
    | some name' =>
      rw [hclean] at hsame
      obtain rfl := mapFault_inj (Except.error.inj hsame)
      rw [not_isSensitiveKey_of_offender_clean hclean] at hkey
      cases hkey
  | _ => cases hoffender

/-- A map is judged alike just if what is complained of stands under a plain key. -/
theorem validateMap_clean_iff {field : String} {value : Option Json} :
    validateMap field (value.map (clean web sensitiveValues)) = validateMap field value ↔
      ∀ name, value.bind offender = some name → isSensitiveKey name = false := by
  constructor
  · intro hsame name hname
    by_contra hkey
    apply validateMap_clean_ne hname (by simpa using hkey)
    rw [hsame]
    exact validateMap_offender hname
  · exact validateMap_clean

/-- So are both maps if the first of them is complained of. -/
theorem validateMaps_clean_iff {name : String} {defaults : Option Json}
    (h : defaults.bind offender = some name) (overrides : Option Json) :
    (do
      validateMap "defaults" (defaults.map (clean web sensitiveValues))
      validateMap "overrides" (overrides.map (clean web sensitiveValues))) =
    (do
      validateMap "defaults" defaults
      validateMap "overrides" overrides) ↔ isSensitiveKey name = false := by
  rw [validateMap_offender h]
  constructor
  · intro hsame
    by_contra hkey
    have hne : validateMap "defaults" (defaults.map (clean web sensitiveValues)) ≠
        .error (mapFault "defaults" name) := validateMap_clean_ne h (by simpa using hkey)
    cases hclean : validateMap "defaults" (defaults.map (clean web sensitiveValues)) with
    | error error =>
      rw [hclean] at hsame hne
      exact hne hsame
    | ok _ =>
      rw [hclean] at hsame
      exact validateMap_overrides_ne _ _ hsame
  · intro hkey
    rw [validateMap_clean fun name' hname' => Option.some.inj (h.symm.trans hname') ▸ hkey,
      validateMap_offender h]
    rfl

theorem defaults_plain : isSensitiveKey "defaults" = false := by decide

theorem overrides_plain : isSensitiveKey "overrides" = false := by decide

theorem firstOffender_object (fields : List (String × Json)) :
    firstOffender (.object fields) =
      match fields.lookup "defaults" with
      | some (.object properties) =>
        (offender (.object properties)).or ((fields.lookup "overrides").bind offender)
      | _ => none := rfl

/-- The shape of a body is judged alike before and after sanitizing just if the property complained
of, if any, stands under a plain key. -/
theorem validateConfigMapShape_clean_iff (body : Json) :
    validateConfigMapShape (clean web sensitiveValues body) = validateConfigMapShape body ↔
      ShapeKept body := by
  cases body with
  | object fields =>
    rw [clean_object, validateConfigMapShape, validateConfigMapShape,
      lookup_cleanField defaults_plain, lookup_cleanField overrides_plain, ShapeKept,
      firstOffender_object]
    generalize fields.lookup "overrides" = overrides
    cases fields.lookup "defaults" with
    | none => exact iff_of_true rfl fun _ h => by cases h
    | some defaults =>
      cases defaults with
      | object properties =>
        dsimp only
        cases hoffender : offender (.object properties) with
        | some name =>
          have hbind : (some (Json.object properties)).bind offender = some name := hoffender
          rw [validateMaps_clean_iff hbind, Option.some_or]
          exact ⟨fun hkey _ h => Option.some.inj h ▸ hkey, fun hkept => hkept name rfl⟩
        | none =>
          -- `overrides` decides.
          have hok : validateMap "defaults" (some (.object properties)) = .ok () := by
            rw [validateMap_object, hoffender]
          have hclean : validateMap "defaults"
              ((some (Json.object properties)).map (clean web sensitiveValues)) = .ok () := by
            rw [validateMap_clean, hok]
            intro name hname
            cases hoffender.symm.trans hname
          rw [hok, hclean, Option.none_or]
          show validateMap "overrides" _ = validateMap "overrides" _ ↔ _
          exact validateMap_clean_iff
      | array values => rw [Option.map_some, clean_array]; exact iff_of_true rfl fun _ h => by cases h
      | string text => rw [Option.map_some, clean_string]; exact iff_of_true rfl fun _ h => by cases h
      | _ => exact iff_of_true rfl fun _ h => by cases h
  | array values => rw [clean_array]; exact iff_of_true rfl fun _ h => by cases h
  | string text => rw [clean_string]; exact iff_of_true rfl fun _ h => by cases h
  | _ => exact iff_of_true rfl fun _ h => by cases h

end Maps

-- ════════════════════════════════
-- Texts
-- ════════════════════════════════

/-- What the URL Standard says of the texts of URLs: a scheme and a colon come first, and a host
comes after two slashes. -/
structure UrlsBeginWithScheme (web : WebCrates) : Prop where
  parsed : ∀ text url, web.parseUrl text = .ok url → ':' ∈ text.toList
  written : ∀ text url, web.parseUrl text = .ok url → url.hostStr.isSome →
    "://".toList ⊆ (rewritten web url).toList

section Texts

variable (web : WebCrates) (sensitiveValues : List String)

/-- A text in which a runtime secret or a bearer token stands. -/
def isSecretText (text : String) : Bool :=
  containsSensitiveValue (utf8 text) sensitiveValues || isBearer text

/-- A text that sanitizing has nothing to remove from: a secret text is the marker itself, and a
URL that is written again is written as it was. -/
def Untouched (text : String) : Prop :=
  if isSecretText sensitiveValues text then text = redacted
  else ∀ url, sanitizeUrl web text = some url → url = text

variable {web sensitiveValues}

theorem cleanText_secret {text : String} (h : isSecretText sensitiveValues text = true) :
    cleanText web sensitiveValues text = redacted := by
  unfold isSecretText at h
  rw [cleanText, textRedaction, if_pos h]
  rfl

theorem cleanText_plain {text : String} (h : isSecretText sensitiveValues text = false) :
    cleanText web sensitiveValues text = (sanitizeUrl web text).getD text := by
  unfold isSecretText at h
  rw [cleanText, textRedaction, if_neg (Bool.eq_false_iff.mp h)]

theorem cleanText_eq_iff {text : String} :
    cleanText web sensitiveValues text = text ↔ Untouched web sensitiveValues text := by
  unfold Untouched
  by_cases hsecret : isSecretText sensitiveValues text
  · rw [if_pos hsecret, cleanText_secret hsecret]
    exact eq_comm
  · rw [if_neg hsecret, cleanText_plain (Bool.eq_false_iff.mpr hsecret)]
    cases sanitizeUrl web text with
    | none => exact iff_of_true rfl fun _ h => by cases h
    | some url => exact ⟨fun h _ hurl => Option.some.inj hurl ▸ h, fun h => h url rfl⟩

variable (sensitiveValues) in
/-- A text that is touched is secret or is written again as a URL. -/
theorem cleanText_cases (hweb : UrlsBeginWithScheme web) (text : String) :
    cleanText web sensitiveValues text = text ∨
      isSecretText sensitiveValues text = true ∧ cleanText web sensitiveValues text = redacted ∨
      isSecretText sensitiveValues text = false ∧ ':' ∈ text.toList ∧
        "://".toList ⊆ (cleanText web sensitiveValues text).toList := by
  by_cases hsecret : isSecretText sensitiveValues text
  · exact .inr (.inl ⟨hsecret, cleanText_secret hsecret⟩)
  · have hplain := Bool.eq_false_iff.mpr hsecret
    rw [cleanText_plain hplain]
    cases hurl : sanitizeUrl web text with
    | none => exact .inl rfl
    | some out =>
      obtain ⟨url, hparse, hhost, -, rfl⟩ := sanitizeUrl_eq_some.mp hurl
      exact .inr (.inr ⟨hplain, hweb.parsed text url hparse, hweb.written text url hparse hhost⟩)

end Texts

-- ════════════════════════════════
-- The prefix
-- ════════════════════════════════

section Prefix

variable (web : WebCrates) (sensitiveValues : List String)

/-- The text a negotiated prefix is read from is left as it is, or is a URL and no prefix. -/
def PrefixKept (adapter : CatalogAdapter) (body : Json) : Prop :=
  ∀ pointer text, adapter.routePrefix = .negotiated pointer →
    body.pointer pointer.tokens = some (.string text) →
      Untouched web sensitiveValues text ∨
        isSecretText sensitiveValues text = false ∧ validPathSegment text = false

variable {web sensitiveValues}

theorem PrefixPointer.tokens_plain (pointer : PrefixPointer) :
    ∀ token ∈ pointer.tokens, isSensitiveKey token = false := by
  cases pointer <;> decide

/-- The prefix that is read from a text. -/
def prefixFrom (pointer : PrefixPointer) : Option String → PrefixResolution
  | some value =>
    if validPathSegment value then .negotiated pointer.asStr value
    else .failed ("config value at `" ++ pointer.asStr ++ "` is not one nonempty path segment")
  | none => .failed ("config response has no string prefix at `" ++ pointer.asStr ++ "`")

theorem resolvePrefix_negotiated {adapter : CatalogAdapter} {pointer : PrefixPointer}
    (h : adapter.routePrefix = .negotiated pointer) (body : Json) :
    resolvePrefix adapter (some body) =
      prefixFrom pointer ((body.pointer pointer.tokens).bind Json.asStr) := by
  rw [resolvePrefix, h]
  rfl

/-- A text with a slash is no prefix. -/
theorem validPathSegment_of_slash {text : String} (h : '/' ∈ text.toList) :
    validPathSegment text = false := by
  have hany : (text.toList.any fun c => isWhiteSpace c || isStructural c) = true :=
    List.any_eq_true.mpr ⟨'/', h, by decide⟩
  rw [validPathSegment, hany, Bool.not_true, Bool.and_false]

theorem prefixFrom_eq_iff (pointer : PrefixPointer) (text text' : String) :
    prefixFrom pointer (some text') = prefixFrom pointer (some text) ↔
      text' = text ∨ validPathSegment text' = false ∧ validPathSegment text = false := by
  unfold prefixFrom
  dsimp only
  by_cases hvalid : validPathSegment text <;> by_cases hvalid' : validPathSegment text'
  · rw [if_pos hvalid, if_pos hvalid']
    simp [hvalid]
  · rw [if_pos hvalid, if_neg hvalid']
    simp only [reduceCtorEq, false_iff, hvalid, Bool.true_eq_false, and_false, or_false]
    rintro rfl
    exact hvalid' hvalid
  · rw [if_neg hvalid, if_pos hvalid']
    simp only [reduceCtorEq, false_iff, hvalid', Bool.true_eq_false, false_and, or_false]
    rintro rfl
    exact hvalid hvalid'
  · rw [if_neg hvalid, if_neg hvalid']
    simp [hvalid, hvalid']

/-- A text and what sanitizing makes of it are read as one prefix just if nothing is removed from
it, or if it is a URL and no prefix. -/
theorem prefixFrom_cleanText_iff (hweb : UrlsBeginWithScheme web) (pointer : PrefixPointer)
    (text : String) :
    prefixFrom pointer (some (cleanText web sensitiveValues text)) =
        prefixFrom pointer (some text) ↔
      Untouched web sensitiveValues text ∨
        isSecretText sensitiveValues text = false ∧ validPathSegment text = false := by
  rw [prefixFrom_eq_iff, cleanText_eq_iff]
  apply or_congr_right'
  intro htouched
  rcases cleanText_cases sensitiveValues hweb text with
    hsame | ⟨hsecret, hmarker⟩ | ⟨hplain, -, hscheme⟩
  · exact absurd (cleanText_eq_iff.mp hsame) htouched
  · have hmarked : validPathSegment redacted = true := by decide
    rw [hmarker, hmarked, hsecret]
  · have hslash : '/' ∈ (cleanText web sensitiveValues text).toList := hscheme (by decide)
    rw [validPathSegment_of_slash hslash, hplain]

theorem resolvePrefix_clean_iff (hweb : UrlsBeginWithScheme web) (adapter : CatalogAdapter)
    (body : Json) :
    resolvePrefix adapter (some (clean web sensitiveValues body)) =
        resolvePrefix adapter (some body) ↔
      PrefixKept web sensitiveValues adapter body := by
  cases hrouted : adapter.routePrefix with
  | negotiated pointer =>
    rw [resolvePrefix_negotiated hrouted, resolvePrefix_negotiated hrouted,
      pointer_clean pointer.tokens_plain]
    unfold PrefixKept
    cases hvalue : body.pointer pointer.tokens with
    | none =>
      exact iff_of_true rfl fun pointer' _ hpointer htext => by
        obtain rfl := CatalogRoutePrefix.negotiated.inj (hrouted.symm.trans hpointer)
        cases hvalue.symm.trans htext
    | some value =>
      rw [Option.map_some, Option.bind_some, Option.bind_some, asStr_clean]
      cases value with
      | string text =>
        show prefixFrom pointer (some _) = prefixFrom pointer (some _) ↔ _
        rw [prefixFrom_cleanText_iff hweb]
        constructor
        · intro h pointer' text' hpointer htext
          obtain rfl := CatalogRoutePrefix.negotiated.inj (hrouted.symm.trans hpointer)
          obtain rfl := Json.string.inj (Option.some.inj (hvalue.symm.trans htext))
          exact h
        · intro h
          exact h pointer text hrouted hvalue
      | _ =>
        exact iff_of_true rfl fun pointer' _ hpointer htext => by
          obtain rfl := CatalogRoutePrefix.negotiated.inj (hrouted.symm.trans hpointer)
          cases hvalue.symm.trans htext
  | _ =>
    refine iff_of_true (by rw [resolvePrefix, resolvePrefix, hrouted]) ?_
    intro pointer _ hpointer
    cases hrouted.symm.trans hpointer

end Prefix

-- ════════════════════════════════
-- The endpoints
-- ════════════════════════════════

section Endpoints

variable (web : WebCrates) (sensitiveValues : List String)

/-- The standard endpoints a list begins with. -/
def standardTexts : List Json → List String
  | .string endpoint :: endpoints =>
    if endpoint ∈ standardEndpoints then endpoint :: standardTexts endpoints else []
  | _ => []

/-- The text that ends them. -/
def strangeText : List Json → Option String
  | .string endpoint :: endpoints =>
    if endpoint ∈ standardEndpoints then strangeText endpoints else some endpoint
  | _ => none

/-- The endpoints that are read are left as they are, or what ends them is the marker. -/
def EndpointsKept (body : Json) : Prop :=
  ∀ endpoints, body.get "endpoints" = some (.array endpoints) →
    strangeText endpoints = some redacted ∨
      (∀ text ∈ standardTexts endpoints, Untouched web sensitiveValues text) ∧
        ∀ text ∈ strangeText endpoints, Untouched web sensitiveValues text

variable {web sensitiveValues}

/-- The characters of a literal are checked as a list: decoding its bytes is slow. -/
theorem colon_notMem {text : String} {chars : List Char} (htext : text = String.ofList chars)
    (hchars : (chars.all fun c => c != ':') = true) : ':' ∉ text.toList := by
  rw [htext, String.toList_ofList]
  intro hmem
  exact absurd (List.all_eq_true.mp hchars ':' hmem) (by decide)

theorem standardEndpoints_no_colon : ∀ endpoint ∈ standardEndpoints, ':' ∉ endpoint.toList := by
  unfold standardEndpoints
  repeat refine List.forall_mem_cons.mpr ⟨colon_notMem rfl (by decide), ?_⟩
  exact List.forall_mem_nil _

theorem redacted_nonstandard : redacted ∉ standardEndpoints := by decide

theorem nonstandardEndpoint_inj {endpoint endpoint' : String}
    (h : nonstandardEndpoint endpoint = nonstandardEndpoint endpoint') : endpoint = endpoint' := by
  have hchars := congrArg String.toList h
  simp only [nonstandardEndpoint, String.toList_append, List.append_assoc,
    List.append_cancel_left_eq, List.append_cancel_right_eq] at hchars
  exact String.toList_inj.mp hchars

theorem nonstandardEndpoint_ne (endpoint : String) :
    nonstandardEndpoint endpoint ≠ "every config endpoint must be a string" := by
  intro h
  have hhead : (nonstandardEndpoint endpoint).toList.head? = some '`' := by
    simp only [nonstandardEndpoint, String.toList_append]
    rfl
  rw [h] at hhead
  exact absurd hhead (by decide)

/-- A standard endpoint is no URL. -/
theorem cleanText_standard (hweb : UrlsBeginWithScheme web) {endpoint : String}
    (h : endpoint ∈ standardEndpoints) :
    cleanText web sensitiveValues endpoint = endpoint ∨
      cleanText web sensitiveValues endpoint = redacted := by
  rcases cleanText_cases sensitiveValues hweb endpoint with
    hsame | ⟨-, hmarker⟩ | ⟨-, hcolon, -⟩
  · exact .inl hsame
  · exact .inr hmarker
  · exact absurd hcolon (standardEndpoints_no_colon endpoint h)

/-- And no text becomes one. -/
theorem cleanText_nonstandard (hweb : UrlsBeginWithScheme web) {text : String}
    (h : text ∉ standardEndpoints) : cleanText web sensitiveValues text ∉ standardEndpoints := by
  rcases cleanText_cases sensitiveValues hweb text with
    hsame | ⟨-, hmarker⟩ | ⟨-, -, hscheme⟩
  · rwa [hsame]
  · rw [hmarker]
    exact redacted_nonstandard
  · intro hstandard
    exact standardEndpoints_no_colon _ hstandard (hscheme (by decide))

theorem untouched_redacted (hweb : UrlsBeginWithScheme web) :
    Untouched web sensitiveValues redacted := by
  rw [← cleanText_eq_iff]
  rcases cleanText_cases sensitiveValues hweb redacted with
    hsame | ⟨-, hmarker⟩ | ⟨-, hcolon, -⟩
  · exact hsame
  · exact hmarker
  · exact absurd hcolon (by decide)

/-- The endpoints are refused for a text just if that text ends the standard ones. -/
theorem parseEndpoints_eq_nonstandard (text : String) (parsed : List String)
    (endpoints : List Json) :
    parseEndpoints parsed endpoints = .invalid (nonstandardEndpoint text) ↔
      strangeText endpoints = some text := by
  induction endpoints generalizing parsed with
  | nil => simp [parseEndpoints, strangeText]
  | cons endpoint endpoints ih =>
    cases endpoint with
    | string endpoint =>
      rw [parseEndpoints, strangeText]
      dsimp only [Json.asStr]
      by_cases hstandard : endpoint ∈ standardEndpoints
      · rw [if_pos hstandard, if_pos hstandard]
        exact ih _
      · rw [if_neg hstandard, if_neg hstandard]
        constructor
        · intro h
          rw [nonstandardEndpoint_inj (EndpointAdvertisement.invalid.inj h)]
        · intro h
          rw [Option.some.inj h]
    | _ =>
      refine iff_of_false ?_ (by simp [strangeText])
      intro h
      exact nonstandardEndpoint_ne text (EndpointAdvertisement.invalid.inj h).symm

theorem parseEndpoints_clean_iff (hweb : UrlsBeginWithScheme web) (parsed : List String)
    (endpoints : List Json) :
    parseEndpoints parsed (endpoints.map (clean web sensitiveValues)) =
        parseEndpoints parsed endpoints ↔
      strangeText endpoints = some redacted ∨
        (∀ text ∈ standardTexts endpoints, Untouched web sensitiveValues text) ∧
          ∀ text ∈ strangeText endpoints, Untouched web sensitiveValues text := by
  induction endpoints generalizing parsed with
  | nil => simp [parseEndpoints, standardTexts, strangeText]
  | cons endpoint endpoints ih =>
    rw [List.map_cons, parseEndpoints, parseEndpoints, asStr_clean]
    cases endpoint with
    | string endpoint =>
      rw [standardTexts, strangeText]
      dsimp only [Json.asStr, Option.map_some]
      by_cases hstandard : endpoint ∈ standardEndpoints
      · rw [if_pos hstandard, if_pos hstandard, if_pos hstandard]
        by_cases huntouched : Untouched web sensitiveValues endpoint
        · rw [cleanText_eq_iff.mpr huntouched, if_pos hstandard, ih, List.forall_mem_cons]
          simp only [huntouched, true_and]
        · -- The marker ends the sanitized endpoints here.
          have hmarker := (cleanText_standard hweb hstandard).resolve_left
            (cleanText_eq_iff.not.mpr huntouched)
          rw [hmarker, if_neg redacted_nonstandard, eq_comm, parseEndpoints_eq_nonstandard,
            List.forall_mem_cons]
          simp only [huntouched, false_and, or_false]
      · rw [if_neg hstandard, if_neg hstandard, if_neg hstandard,
          if_neg (cleanText_nonstandard hweb hstandard)]
        simp only [EndpointAdvertisement.invalid.injEq, List.not_mem_nil, false_implies,
          implies_true, true_and, Option.mem_some_iff, Option.some.injEq, forall_eq']
        rw [← cleanText_eq_iff]
        constructor
        · intro h
          exact .inr (nonstandardEndpoint_inj h)
        · rintro (rfl | h)
          · rw [cleanText_eq_iff.mpr (untouched_redacted hweb)]
          · rw [h]
    | _ => exact iff_of_true rfl (.inr (by simp [standardTexts, strangeText]))

theorem endpoints_plain : isSensitiveKey "endpoints" = false := by decide

theorem inspectEndpoints_clean_iff (hweb : UrlsBeginWithScheme web) (body : Json) :
    inspectEndpoints (some (clean web sensitiveValues body)) = inspectEndpoints (some body) ↔
      EndpointsKept web sensitiveValues body := by
  rw [inspectEndpoints, inspectEndpoints, get_clean endpoints_plain]
  unfold EndpointsKept
  cases body.get "endpoints" with
  | none => exact iff_of_true rfl fun _ h => by cases h
  | some endpoints =>
    rw [Option.map_some]
    cases endpoints with
    | array endpoints =>
      rw [clean_array]
      dsimp only
      rw [parseEndpoints_clean_iff hweb]
      constructor
      · intro h _ hsame
        obtain rfl := Json.array.inj (Option.some.inj hsame)
        exact h
      · intro h
        exact h endpoints rfl
    | object fields => rw [clean_object]; exact iff_of_true rfl fun _ h => by cases h
    | string text => rw [clean_string]; exact iff_of_true rfl fun _ h => by cases h
    | _ => exact iff_of_true rfl fun _ h => by cases h

end Endpoints

-- ════════════════════════════════
-- The probes
-- ════════════════════════════════

/-- The captured body is the received one, sanitized. -/
theorem captureReply_json (web : WebCrates) (sensitiveValues : List String) (label : String)
    (reply : HttpReply) :
    (captureReply web sensitiveValues label reply).privateJson = reply.json web ∧
      (captureReply web sensitiveValues label reply).response.bind HttpResponseTranscript.json =
        (reply.json web).map (clean web sensitiveValues) := by
  cases reply with
  | failed error => exact ⟨rfl, rfl⟩
  | unreadable status headers error => exact ⟨rfl, rfl⟩
  | answered status headers body =>
    cases body with
    | tooLarge observed => exact ⟨rfl, rfl⟩
    | complete bytes =>
      rw [captureReply, captureCompleteBody, HttpReply.json]
      by_cases hempty : bytes = []
      · rw [if_pos hempty, if_pos hempty]
        exact ⟨rfl, rfl⟩
      · rw [if_neg hempty, if_neg hempty]
        cases web.parseJson bytes with
        | none => exact ⟨rfl, rfl⟩
        | some body => exact ⟨rfl, rfl⟩

/-- A sanitized body is judged as the received one just if what decides the judgement is left as it
is, and only then the config probe reports the prefix that the other probes build routes from. -/
theorem sanitized_config_judgements {web : WebCrates} (hweb : UrlsBeginWithScheme web)
    (adapter : CatalogAdapter) :
    (∀ sensitiveValues body,
      (validateConfigMapShape (sanitizeJson web body sensitiveValues).1 =
          validateConfigMapShape body ↔ ShapeKept body) ∧
      (resolvePrefix adapter (some (sanitizeJson web body sensitiveValues).1) =
          resolvePrefix adapter (some body) ↔ PrefixKept web sensitiveValues adapter body) ∧
      (inspectEndpoints (some (sanitizeJson web body sensitiveValues).1) =
          inspectEndpoints (some body) ↔ EndpointsKept web sensitiveValues body)) ∧
    ∀ url (authentication : AuthenticationAttempt) (reply : HttpReply),
      (readConfig adapter
          (captureReply web authentication.sensitiveValues "config" reply)).routePrefix =
        (routingNegotiation web adapter url authentication
          (captureReply web authentication.sensitiveValues "config" reply)).config.routePrefix ↔
      ∀ body, reply.json web = some body →
        PrefixKept web authentication.sensitiveValues adapter body := by
  refine ⟨fun sensitiveValues body => ⟨validateConfigMapShape_clean_iff body,
    resolvePrefix_clean_iff hweb adapter body, inspectEndpoints_clean_iff hweb body⟩, ?_⟩
  intro url authentication reply
  obtain ⟨hprivate, hpublished⟩ :=
    captureReply_json web authentication.sensitiveValues "config" reply
  rw [readConfig, routingNegotiation, hprivate, hpublished]
  cases reply.json web with
  | none => exact iff_of_true rfl fun _ h => by cases h
  | some body =>
    rw [Option.map_some]
    refine (resolvePrefix_clean_iff hweb adapter body).trans ⟨?_, ?_⟩
    · intro hkept _ hsame
      obtain rfl := Option.some.inj hsame
      exact hkept
    · intro hkept
      exact hkept body rfl

theorem sampleWeb_urls (documents : List Json) : UrlsBeginWithScheme (sampleWeb documents) where
  parsed text url h := by
    have hscheme {start : String} (hstart : start.toList.isPrefixOf text.toList = true)
        (hcolon : ':' ∈ start.toList) : ':' ∈ text.toList :=
      (List.isPrefixOf_iff_prefix.mp hstart).subset hcolon
    change sampleUrl text = .ok url at h
    unfold sampleUrl at h
    dsimp only at h
    split at h
    · next hstart => exact hscheme hstart (by decide)
    · change (if text = "http://catalog:8181" then _ else _) = _ at h
      split at h
      · next htext => rw [htext]; decide
      split at h
      · next htext => rw [htext]; decide
      dsimp only at h
      split at h
      · next hstart => exact hscheme hstart (by decide)
      · cases h
  written text url _ _ := by
    intro c hc
    have horigin : "://".toList ⊆ "http://catalog:8181".toList := by decide
    change c ∈ ("http://catalog:8181" ++ url.path ++ _).toList
    rw [String.toList_append, String.toList_append, List.append_assoc]
    exact List.mem_append_left _ (horigin hc)

/-- A config whose first default stands under a key that is redacted. -/
def tokenBody : Json :=
  .object [("defaults", .object [("token", .number (.posInt 42))]), ("overrides", .object [])]

/-- A config whose prefix is the client id. -/
def prefixBody : Json :=
  .object [("defaults", .object [("prefix", .string "moon")]), ("overrides", .object [])]

def defaultsAdapter : CatalogAdapter :=
  ⟨"http://catalog:8181", "/v1/config", ∅, .negotiated .defaults, none, .anonymous, .exerciseAll⟩

theorem sanitized_config_judgements_sample :
    (∀ sensitiveValues body,
      (validateConfigMapShape (sanitizeJson (sampleWeb []) body sensitiveValues).1 =
          validateConfigMapShape body ↔ ShapeKept body) ∧
      (resolvePrefix defaultsAdapter (some (sanitizeJson (sampleWeb []) body sensitiveValues).1) =
          resolvePrefix defaultsAdapter (some body) ↔
            PrefixKept (sampleWeb []) sensitiveValues defaultsAdapter body) ∧
      (inspectEndpoints (some (sanitizeJson (sampleWeb []) body sensitiveValues).1) =
          inspectEndpoints (some body) ↔ EndpointsKept (sampleWeb []) sensitiveValues body)) ∧
    ∀ url (authentication : AuthenticationAttempt) (reply : HttpReply),
      (readConfig defaultsAdapter
          (captureReply (sampleWeb []) authentication.sensitiveValues "config" reply)).routePrefix =
        (routingNegotiation (sampleWeb []) defaultsAdapter url authentication
          (captureReply (sampleWeb []) authentication.sensitiveValues "config" reply)).config.routePrefix ↔
      ∀ body, reply.json (sampleWeb []) = some body →
        PrefixKept (sampleWeb []) authentication.sensitiveValues defaultsAdapter body :=
  sanitized_config_judgements (sampleWeb_urls []) defaultsAdapter

/-- A number under a redacted key passes as a text, and a prefix that is a secret is reported as
the marker. -/
theorem sanitized_config_misjudged :
    validateConfigMapShape (sanitizeJson (sampleWeb []) tokenBody []).1 ≠
        validateConfigMapShape tokenBody ∧
      resolvePrefix defaultsAdapter (some (sanitizeJson (sampleWeb []) prefixBody ["moon"]).1) ≠
        resolvePrefix defaultsAdapter (some prefixBody) := by
  constructor
  · decide
  · decide

end CatalogBench.Conformance
