import CatalogBench.Contract.Value
import CatalogBench.Library.Interaction

/-!
# Evidence audits

Before evidence is written down, the string values of its JSON tree are searched for texts that
must not be in it. The keys of its objects are taken for schema vocabulary and are not searched.
-/

set_option linter.all false

namespace CatalogBench

namespace Json

mutual

/-- The string values of a tree, without the keys of its objects. -/
def strings : Json → List String
  | .string text => [text]
  | .array values => elementStrings values
  | .object fields => fieldStrings fields
  | .null | .bool _ | .number _ => []

def elementStrings : List Json → List String
  | [] => []
  | value :: values => strings value ++ elementStrings values

def fieldStrings : List (String × Json) → List String
  | [] => []
  | (_, value) :: fields => strings value ++ fieldStrings fields

end

mutual

/-- The keys of the objects of a tree. -/
def keys : Json → List String
  | .array values => elementKeys values
  | .object fields => fieldKeys fields
  | .null | .bool _ | .number _ | .string _ => []

def elementKeys : List Json → List String
  | [] => []
  | value :: values => keys value ++ elementKeys values

def fieldKeys : List (String × Json) → List String
  | [] => []
  | (key, value) :: fields => key :: keys value ++ fieldKeys fields

end

@[simp] theorem strings_string (text : String) : (Json.string text).strings = [text] := rfl

@[simp] theorem strings_number (value : JsonNumber) : (Json.number value).strings = [] := rfl

@[simp] theorem strings_bool (value : Bool) : (Json.bool value).strings = [] := rfl

@[simp] theorem strings_array (values : List Json) :
    (Json.array values).strings = values.flatMap strings := by
  change elementStrings values = values.flatMap strings
  induction values with
  | nil => rfl
  | cons value values ih =>
    rw [List.flatMap_cons, ← ih]
    rfl

@[simp] theorem strings_object (fields : List (String × Json)) :
    (Json.object fields).strings = fields.flatMap fun field => field.2.strings := by
  change fieldStrings fields = fields.flatMap fun field => field.2.strings
  induction fields with
  | nil => rfl
  | cons field fields ih =>
    rw [List.flatMap_cons, ← ih]
    rfl

@[simp] theorem keys_string (text : String) : (Json.string text).keys = [] := rfl

@[simp] theorem keys_number (value : JsonNumber) : (Json.number value).keys = [] := rfl

@[simp] theorem keys_bool (value : Bool) : (Json.bool value).keys = [] := rfl

@[simp] theorem keys_array (values : List Json) :
    (Json.array values).keys = values.flatMap keys := by
  change elementKeys values = values.flatMap keys
  induction values with
  | nil => rfl
  | cons value values ih =>
    rw [List.flatMap_cons, ← ih]
    rfl

@[simp] theorem keys_object (fields : List (String × Json)) :
    (Json.object fields).keys = fields.flatMap fun field => field.1 :: field.2.keys := by
  change fieldKeys fields = fields.flatMap fun field => field.1 :: field.2.keys
  induction fields with
  | nil => rfl
  | cons field fields ih =>
    rw [List.flatMap_cons, ← ih]
    rfl

/-- Every object key of the tree is one of the vocabulary. -/
def KeysIn (vocabulary : List String) (value : Json) : Prop := value.keys ⊆ vocabulary

section KeysIn

variable {vocabulary : List String}

@[simp] theorem keysIn_string (text : String) : (Json.string text).KeysIn vocabulary := by
  simp [KeysIn]

@[simp] theorem keysIn_number (value : JsonNumber) : (Json.number value).KeysIn vocabulary := by
  simp [KeysIn]

@[simp] theorem keysIn_bool (value : Bool) : (Json.bool value).KeysIn vocabulary := by
  simp [KeysIn]

theorem keysIn_array {values : List Json} :
    (Json.array values).KeysIn vocabulary ↔ ∀ value ∈ values, value.KeysIn vocabulary := by
  simp only [KeysIn, keys_array, List.subset_def, List.mem_flatMap]
  exact ⟨fun h value hvalue key hkey => h ⟨value, hvalue, hkey⟩,
    fun h _ ⟨value, hvalue, hkey⟩ => h value hvalue hkey⟩

theorem keysIn_object {fields : List (String × Json)} :
    (Json.object fields).KeysIn vocabulary ↔
      fields.map (·.1) ⊆ vocabulary ∧ ∀ field ∈ fields, field.2.KeysIn vocabulary := by
  simp only [KeysIn, keys_object, List.subset_def, List.mem_flatMap, List.mem_cons, List.mem_map]
  constructor
  · refine fun h => ⟨?_, fun field hfield key hkey => h ⟨field, hfield, .inr hkey⟩⟩
    rintro _ ⟨field, hfield, rfl⟩
    exact h ⟨field, hfield, .inl rfl⟩
  · rintro ⟨hkeys, hvalues⟩ key ⟨field, hfield, rfl | hkey⟩
    · exact hkeys ⟨field, hfield, rfl⟩
    · exact hvalues field hfield hkey

/-- A map of texts is an object with the keys of the map. -/
theorem keysIn_map {α : Type} {map : StringMap α} (text : α → String)
    (hkeys : map.keys ⊆ vocabulary) :
    (Json.object (map.toList.map fun entry => (entry.1, .string (text entry.2)))).KeysIn
      vocabulary := by
  rw [keysIn_object, List.map_map]
  refine ⟨fun key hkey => hkeys ?_, fun field hfield => ?_⟩
  · rwa [← Std.ExtTreeMap.map_fst_toList_eq_keys]
  · obtain ⟨entry, -, rfl⟩ := List.mem_map.mp hfield
    exact keysIn_string _

end KeysIn

/-- A number that is not negative. -/
def ofNat (n : ℕ) : Json := .number (.posInt n)

def ofInt : ℤ → Json
  | .ofNat n => .number (.posInt n)
  | .negSucc n => .number (.negInt (.negSucc n))

/-- The fields that are there; an absent one is skipped. -/
def present (fields : List (String × Option Json)) : List (String × Json) :=
  fields.filterMap fun field => field.2.map (field.1, ·)

section Present

variable {vocabulary : List String}

@[simp] theorem keysIn_ofNat (n : ℕ) : (ofNat n).KeysIn vocabulary := keysIn_number _

@[simp] theorem keysIn_ofInt (n : ℤ) : (ofInt n).KeysIn vocabulary := by
  cases n <;> exact keysIn_number _

theorem keysIn_present {fields : List (String × Option Json)}
    (hkeys : fields.map (·.1) ⊆ vocabulary)
    (hvalues : ∀ field ∈ fields, ∀ value ∈ field.2, value.KeysIn vocabulary) :
    (Json.object (present fields)).KeysIn vocabulary := by
  refine keysIn_object.mpr ⟨fun key hkey => ?_, fun entry hentry => ?_⟩
  · obtain ⟨entry, hentry, rfl⟩ := List.mem_map.mp hkey
    obtain ⟨field, hfield, hvalue⟩ := List.mem_filterMap.mp hentry
    obtain ⟨value, -, rfl⟩ := Option.map_eq_some_iff.mp hvalue
    exact hkeys (List.mem_map_of_mem hfield)
  · obtain ⟨field, hfield, hvalue⟩ := List.mem_filterMap.mp hentry
    obtain ⟨value, hsome, rfl⟩ := Option.map_eq_some_iff.mp hvalue
    exact hvalues field hfield value hsome

end Present

end Json

namespace Common
open CatalogBench.Contract Interaction

inductive SerializedValueAuditFailure
  | serialization | sensitiveValue | forbiddenValue
  deriving DecidableEq

/-- Empty needles are ignored. -/
def containsAny (value : String) (needles : List String) : Bool :=
  (needles.filter fun needle => !needle.isEmpty).any fun needle => containsText value needle

section Inspection

variable (sensitiveValues forbiddenValues : List String)

mutual

def inspectValue : Json → Except SerializedValueAuditFailure Unit
  | .array values => inspectElements values
  | .object fields => inspectFields fields
  | .string value =>
    if containsAny value sensitiveValues then .error .sensitiveValue
    else if containsAny value forbiddenValues then .error .forbiddenValue
    else .ok ()
  | .null | .bool _ | .number _ => .ok ()

def inspectElements : List Json → Except SerializedValueAuditFailure Unit
  | [] => .ok ()
  | value :: values => do
    inspectValue value
    inspectElements values

def inspectFields : List (String × Json) → Except SerializedValueAuditFailure Unit
  | [] => .ok ()
  | (_, value) :: fields => do
    inspectValue value
    inspectFields fields

end

end Inspection

/-- The evidence is what `serde_json::to_value` makes of it, if it has a JSON value. -/
def auditSerializedValues (evidence : Option Json) (sensitiveValues forbiddenValues : List String) :
    Except SerializedValueAuditFailure Unit :=
  match evidence with
  | none => .error .serialization
  | some value => inspectValue sensitiveValues forbiddenValues value

-- ════════════════════════════════
-- What an audit proves
-- ════════════════════════════════

/-- No needle, the empty one apart, is part of any of the texts. -/
def Excludes (needles texts : List String) : Prop :=
  ∀ text ∈ texts, ∀ needle ∈ needles, needle ≠ "" → ¬needle.toList <:+: text.toList

theorem excludes_append {needles texts texts' : List String} :
    Excludes needles (texts ++ texts') ↔ Excludes needles texts ∧ Excludes needles texts' :=
  List.forall_mem_append

@[simp] theorem excludes_nil (needles : List String) : Excludes needles [] := by simp [Excludes]

@[simp] theorem excludes_no_needles (texts : List String) : Excludes [] texts := by simp [Excludes]

theorem containsAny_eq_false {value : String} {needles : List String} :
    containsAny value needles = false ↔ Excludes needles [value] := by
  simp [containsAny, containsText, Excludes]

/-- The texts of the evidence that an audit accepts. -/
def Audited (sensitiveValues forbiddenValues texts : List String) : Prop :=
  Excludes sensitiveValues texts ∧ Excludes forbiddenValues texts

theorem audited_append {sensitiveValues forbiddenValues texts texts' : List String} :
    Audited sensitiveValues forbiddenValues (texts ++ texts') ↔
      Audited sensitiveValues forbiddenValues texts ∧
        Audited sensitiveValues forbiddenValues texts' := by
  simp only [Audited, excludes_append]
  exact and_and_and_comm

section Inspection

variable {sensitiveValues forbiddenValues : List String}

mutual

/-- An inspection succeeds exactly when no string value holds a needle, however deep it is. -/
theorem inspectValue_eq_ok : ∀ value : Json,
    inspectValue sensitiveValues forbiddenValues value = .ok () ↔
      Audited sensitiveValues forbiddenValues value.strings
  | .array values => by rw [inspectValue, Json.strings]; exact inspectElements_eq_ok values
  | .object fields => by rw [inspectValue, Json.strings]; exact inspectFields_eq_ok fields
  | .string value => by
    rw [inspectValue, Json.strings, Audited, ← containsAny_eq_false, ← containsAny_eq_false]
    split_ifs with hsensitive hforbidden
    · simp [hsensitive]
    · simp [hforbidden]
    · simp [hsensitive, hforbidden]
  | .null | .bool _ | .number _ => by simp [inspectValue, Json.strings, Audited]

theorem inspectElements_eq_ok : ∀ values : List Json,
    inspectElements sensitiveValues forbiddenValues values = .ok () ↔
      Audited sensitiveValues forbiddenValues (Json.elementStrings values)
  | [] => by simp [inspectElements, Json.elementStrings, Audited]
  | value :: values => by
    rw [inspectElements, Json.elementStrings, except_seq_eq_ok, audited_append,
      inspectValue_eq_ok value, inspectElements_eq_ok values]

theorem inspectFields_eq_ok : ∀ fields : List (String × Json),
    inspectFields sensitiveValues forbiddenValues fields = .ok () ↔
      Audited sensitiveValues forbiddenValues (Json.fieldStrings fields)
  | [] => by simp [inspectFields, Json.fieldStrings, Audited]
  | (_, value) :: fields => by
    rw [inspectFields, Json.fieldStrings, except_seq_eq_ok, audited_append,
      inspectValue_eq_ok value, inspectFields_eq_ok fields]

end

@[simp] theorem auditSerializedValues_eq_ok {evidence : Json} :
    auditSerializedValues (some evidence) sensitiveValues forbiddenValues = .ok () ↔
      Audited sensitiveValues forbiddenValues evidence.strings := inspectValue_eq_ok evidence

end Inspection

end Common

end CatalogBench
