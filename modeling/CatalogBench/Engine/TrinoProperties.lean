import CatalogBench.Engine.Trino
import CatalogBench.Library.Ascii
import CatalogBench.Library.Interaction
import CatalogBench.Library.JavaProperties

/-!
# What the configuration files of Trino denote

The server reads its `.properties` files with `java.util.Properties`. A file gives back the map that
it was rendered from when no value of the map has a backslash or starts with a space.
-/

set_option linter.all false

namespace CatalogBench.Engine.TrinoServerConfiguration
open Interaction JavaProperties

-- ════════════════════════════════
-- ASCII texts
-- ════════════════════════════════

/-- The code unit of a character that is one. -/
def unit (c : Char) : UInt16 := .ofNat c.toNat

def IsAscii (text : List Char) : Prop := ∀ c ∈ text, c.toNat < 128

theorem unit_toNat {c : Char} (h : c.toNat < 128) : (unit c).toNat = c.toNat :=
  UInt16.toNat_ofNat_of_lt' (h.trans (by decide))

theorem unit_injective {c c' : Char} (h : c.toNat < 128) (h' : c'.toNat < 128)
    (heq : unit c = unit c') : c = c' := by
  have hnat := congrArg UInt16.toNat heq
  rw [unit_toNat h, unit_toNat h'] at hnat
  exact Char.toNat_inj.mp hnat

theorem ofString_ascii {text : String} (h : IsAscii text.toList) :
    ofString text = text.toList.map unit := by
  rw [ofString, ← List.flatMap_singleton' (text.toList.map unit), List.flatMap_map]
  refine List.flatMap_congr fun c hc => ?_
  exact if_pos ((h c hc).trans (by decide))

theorem ofBytes_ascii {text : String} (h : IsAscii text.toList) :
    ofBytes (utf8 text) = text.toList.map unit := by
  rw [ofBytes, utf8_eq_flatMap, List.map_flatMap, ← List.flatMap_singleton' (text.toList.map unit),
    List.flatMap_map]
  refine List.flatMap_congr fun c hc => ?_
  have hlt : c.toNat < 2 ^ 8 := (h c hc).trans (by decide)
  rw [Utf8.encode_ascii (h c hc), List.map_singleton, UInt8.toNat_ofNat_of_lt' hlt]
  rfl

-- ════════════════════════════════
-- Property files
-- ════════════════════════════════

def isKeyChar (c : Char) : Bool := c.isAlphanum || c = '.' || c = '-' || c = '_'

def isValueChar (c : Char) : Bool := ('!' ≤ c && c ≤ '~') || c = ' '

def IsValid (property : String × String) : Prop :=
  validPropertyKey property.1 = true ∧ validPropertyValue property.2 = true

/-- One round of the loop of `render_property_file`. -/
def pushProperty (rendered : String) : String × String → Except TrinoRenderError String
  | (key, value) =>
    if !validPropertyKey key || !validPropertyValue value then
      throw ⟨"Trino configuration contains an unsafe property"⟩
    else return rendered ++ key ++ "=" ++ value ++ "\n"

theorem foldlM_pushProperty {properties : List (String × String)} {start text : String}
    (h : properties.foldlM pushProperty start = .ok text) :
    (∀ property ∈ properties, IsValid property) ∧
      text.toList = start.toList ++ properties.flatMap fun property =>
        property.1.toList ++ '=' :: (property.2.toList ++ ['\n']) := by
  induction properties generalizing start with
  | nil =>
    obtain rfl := Except.ok.inj h
    exact ⟨fun _ hmem => absurd hmem List.not_mem_nil, (List.append_nil _).symm⟩
  | cons property properties ih =>
    rw [List.foldlM_cons] at h
    obtain ⟨next, hnext, hrest⟩ := except_bind_eq_ok.mp h
    obtain ⟨key, value⟩ := property
    rw [pushProperty] at hnext
    split at hnext
    · cases hnext
    next hvalid =>
    obtain rfl := Except.ok.inj hnext
    obtain ⟨hproperties, htext⟩ := ih hrest
    rw [Bool.not_eq_true, Bool.or_eq_false_iff, Bool.not_eq_false', Bool.not_eq_false'] at hvalid
    constructor
    · intro other hother
      rcases List.mem_cons.mp hother with rfl | hother
      · exact hvalid
      · exact hproperties other hother
    · rw [htext, List.flatMap_cons]
      simp

/-- A rendered file is the lines of the entries, and these are valid. -/
theorem renderPropertyFile_eq_ok {properties : StringMap String} {contents : String}
    (h : renderPropertyFile properties = .ok contents) :
    (∀ property ∈ properties.toList, IsValid property) ∧
      contents.toList = properties.toList.flatMap fun property =>
        property.1.toList ++ '=' :: (property.2.toList ++ ['\n']) :=
  foldlM_pushProperty h

theorem isKeyChar_iff {c : Char} : isKeyChar c = true ↔
    48 ≤ c.toNat ∧ c.toNat ≤ 57 ∨ 65 ≤ c.toNat ∧ c.toNat ≤ 90 ∨ 97 ≤ c.toNat ∧ c.toNat ≤ 122 ∨
      c.toNat = 46 ∨ c.toNat = 45 ∨ c.toNat = 95 := by
  simp only [isKeyChar, Ascii.isAlphanum_iff, Ascii.isAlpha_iff, Ascii.isUpper_iff,
    Ascii.isLower_iff, Ascii.isDigit_iff, Bool.or_eq_true, decide_eq_true_eq, ← Char.toNat_inj,
    Char.reduceToNat]
  omega

/-- What a valid value is made of. -/
theorem isValueChar_iff {c : Char} : isValueChar c = true ↔ 32 ≤ c.toNat ∧ c.toNat ≤ 126 := by
  simp only [isValueChar, Bool.or_eq_true, Bool.and_eq_true, decide_eq_true_eq, Char.le_def,
    UInt32.le_iff_toNat_le, ← Char.toNat_inj]
  have hval : c.val.toNat = c.toNat := rfl
  simp only [hval, Char.reduceVal, UInt32.reduceToNat, Char.reduceToNat]
  omega

theorem isKeyChar_lt {c : Char} (h : isKeyChar c = true) : c.toNat < 128 := by
  have hrange := isKeyChar_iff.mp h
  omega

theorem isPlain_of_isKeyChar {c : Char} (h : isKeyChar c = true) : isPlain (unit c) = true := by
  have hrange := isKeyChar_iff.mp h
  have hnat := unit_toNat (isKeyChar_lt h)
  have hne {other : UInt16} (hother : other.toNat ≠ c.toNat) : decide (unit c = other) = false :=
    decide_eq_false fun heq => hother (heq ▸ hnat)
  have hlow {other : UInt16} (hother : other.toNat < 45) := @hne other (by omega)
  have hcolon : colon.toNat = 58 := rfl
  have hequals : JavaProperties.equals.toNat = 61 := rfl
  have hbackslash : backslash.toNat = 92 := rfl
  rw [isPlain, isTerminator, isBlank, isSeparator, hlow (by decide), hlow (by decide),
    hlow (by decide), hlow (by decide), hlow (by decide), hne (by omega), hne (by omega),
    hne (by omega), hlow (by decide), hlow (by decide)]
  rfl

/-- The entry of a property. -/
def entry (property : String × String) : JavaString × JavaString :=
  (ofString property.1, ofString property.2)

section Valid

variable {property : String × String}

theorem IsValid.key (h : IsValid property) :
    property.1.toList ≠ [] ∧ ∀ c ∈ property.1.toList, isKeyChar c = true := by
  have hkey := h.1
  rw [validPropertyKey, Bool.and_eq_true, Bool.and_eq_true, List.all_eq_true] at hkey
  obtain ⟨⟨hne, -⟩, hchars⟩ := hkey
  refine ⟨fun hnil => ?_, hchars⟩
  rw [String.toList_eq_nil_iff.mp hnil] at hne
  nomatch hne

theorem IsValid.value (h : IsValid property) :
    property.2.toList ≠ [] ∧ ∀ c ∈ property.2.toList, isValueChar c = true := by
  have hvalue := h.2
  rw [validPropertyValue, Bool.and_eq_true, Bool.and_eq_true, List.all_eq_true] at hvalue
  obtain ⟨⟨hne, -⟩, hchars⟩ := hvalue
  refine ⟨fun hnil => ?_, hchars⟩
  rw [String.toList_eq_nil_iff.mp hnil] at hne
  nomatch hne

theorem IsValid.key_ascii (h : IsValid property) : IsAscii property.1.toList :=
  fun c hc => isKeyChar_lt (h.key.2 c hc)

theorem IsValid.value_ascii (h : IsValid property) : IsAscii property.2.toList :=
  fun c hc => (isValueChar_iff.mp (h.value.2 c hc)).2.trans_lt (by decide)

theorem IsValid.entry_eq (h : IsValid property) :
    entry property = (property.1.toList.map unit, property.2.toList.map unit) := by
  rw [entry, ofString_ascii h.key_ascii, ofString_ascii h.value_ascii]

theorem IsValid.writable (h : IsValid property) : Writable (entry property) := by
  rw [h.entry_eq]
  refine ⟨?_, ?_, ?_, ?_⟩
  · exact fun hnil => h.key.1 (List.map_eq_nil_iff.mp hnil)
  · intro other hother
    obtain ⟨c, hc, rfl⟩ := List.mem_map.mp hother
    exact isPlain_of_isKeyChar (h.key.2 c hc)
  · exact fun hnil => h.value.1 (List.map_eq_nil_iff.mp hnil)
  · intro other hother
    obtain ⟨c, hc, rfl⟩ := List.mem_map.mp hother
    have hrange := isValueChar_iff.mp (h.value.2 c hc)
    have hnat := unit_toNat (h.value_ascii c hc)
    rw [isTerminator, Bool.or_eq_false_iff, decide_eq_false_iff_not, decide_eq_false_iff_not]
    constructor
    · intro heq
      rw [heq] at hnat
      exact absurd hrange.1 (by rw [← hnat]; decide)
    · intro heq
      rw [heq] at hnat
      exact absurd hrange.1 (by rw [← hnat]; decide)

/-- A value is read as it is written if it has no backslash and does not start with a space. -/
def IsVerbatim (value : String) : Prop := '\\' ∉ value.toList ∧ value.toList.head? ≠ some ' '

theorem IsValid.verbatim_iff (h : IsValid property) :
    Verbatim (entry property).2 ↔ IsVerbatim property.2 := by
  rw [h.entry_eq]
  have hunit : unit '\\' = backslash := rfl
  have hspace : unit ' ' = space := rfl
  constructor
  · rintro ⟨hbackslash, hblank⟩
    refine ⟨fun hmem => hbackslash (hunit ▸ List.mem_map_of_mem hmem), fun hhead => ?_⟩
    have hfirst := hblank space (by rw [List.head?_map, hhead]; rfl)
    exact absurd hfirst (by decide)
  · rintro ⟨hbackslash, hhead⟩
    constructor
    · intro hmem
      obtain ⟨c, hc, heq⟩ := List.mem_map.mp hmem
      have hc' : c = '\\' := unit_injective (h.value_ascii c hc) (by decide) (heq.trans hunit.symm)
      exact hbackslash (hc' ▸ hc)
    · intro first hfirst
      rw [List.head?_map, Option.mem_def, Option.map_eq_some_iff] at hfirst
      obtain ⟨c, hc, rfl⟩ := hfirst
      have hmem := List.mem_of_head? hc
      have hrange := isValueChar_iff.mp (h.value.2 c hmem)
      have hnat := unit_toNat (h.value_ascii c hmem)
      have hne {other : UInt16} (hother : other.toNat ≠ c.toNat) :
          decide (unit c = other) = false :=
        decide_eq_false fun heq => hother (heq ▸ hnat)
      have hnotSpace : decide (unit c = space) = false := decide_eq_false fun heq =>
        hhead (unit_injective (h.value_ascii c hmem) (by decide) (heq.trans hspace.symm) ▸ hc)
      have htab : tab.toNat = 9 := rfl
      have hformFeed : formFeed.toNat = 12 := rfl
      rw [isBlank, hnotSpace, hne (by omega), hne (by omega)]
      rfl

end Valid

theorem ofString_injective {a b : String} (ha : IsAscii a.toList) (hb : IsAscii b.toList)
    (h : ofString a = ofString b) : a = b := by
  rw [ofString_ascii ha, ofString_ascii hb] at h
  have hchars := (ListRel.map_eq_map_iff (g := id) fun c hc c' hc' =>
    ⟨unit_injective (ha c hc) (hb c' hc'), congrArg unit⟩).mp h
  rw [List.map_id, List.map_id] at hchars
  exact String.toList_inj.mp hchars

/-- The entries of a map, in the order of their keys. -/
def entries (properties : StringMap String) : List (JavaString × JavaString) :=
  properties.toList.map entry

/-- The bytes of the file are the lines of the entries. -/
theorem ofBytes_render {properties : StringMap String} {contents : String}
    (hvalid : ∀ property ∈ properties.toList, IsValid property)
    (hcontents : contents.toList = properties.toList.flatMap fun property =>
      property.1.toList ++ '=' :: (property.2.toList ++ ['\n'])) :
    ofBytes (utf8 contents) = JavaProperties.render (entries properties) := by
  have hascii : IsAscii contents.toList := by
    intro c hc
    rw [hcontents] at hc
    obtain ⟨property, hproperty, hc⟩ := List.mem_flatMap.mp hc
    simp only [List.mem_append, List.mem_cons, List.not_mem_nil, or_false] at hc
    rcases hc with hkey | rfl | hvalue | rfl
    · exact (hvalid property hproperty).key_ascii c hkey
    · decide
    · exact (hvalid property hproperty).value_ascii c hvalue
    · decide
  rw [ofBytes_ascii hascii, hcontents, List.map_flatMap, JavaProperties.render, entries,
    List.flatMap_map]
  refine List.flatMap_congr fun property hproperty => ?_
  rw [entryLine, (hvalid property hproperty).entry_eq]
  simp only [List.map_append, List.map_cons, List.map_nil, List.append_assoc, List.cons_append]
  rfl

section Entries

variable {properties : StringMap String}
  (hvalid : ∀ property ∈ properties.toList, IsValid property)
include hvalid

theorem entries_distinct : ((entries properties).map Prod.fst).Nodup := by
  rw [entries, List.map_map]
  refine List.pairwise_map.mpr ?_
  refine List.Pairwise.imp_of_mem ?_ Std.ExtTreeMap.distinct_keys_toList
  intro property other hproperty hother hne heq
  have hkey : property.1 = other.1 := ofString_injective (hvalid property hproperty).key_ascii
    (hvalid other hother).key_ascii heq
  exact hne (Std.compare_eq_iff_eq.mpr hkey)

/-- The entries are the properties. -/
theorem getProperty_entries (key value : JavaString) :
    getProperty (entries properties) key = some value ↔
      ∃ name text, properties[name]? = some text ∧ ofString name = key ∧ ofString text = value := by
  constructor
  · intro h
    obtain ⟨⟨name, text⟩, hmem, heq⟩ := List.mem_map.mp (mem_of_getProperty h)
    obtain ⟨rfl, rfl⟩ := Prod.mk.inj heq
    exact ⟨name, text, Std.ExtTreeMap.mem_toList_iff_getElem?_eq_some.mp hmem, rfl, rfl⟩
  · rintro ⟨name, text, hget, rfl, rfl⟩
    have hmem := Std.ExtTreeMap.mem_toList_iff_getElem?_eq_some.mpr hget
    exact getProperty_of_mem (entries_distinct hvalid) (List.mem_map_of_mem hmem)

end Entries

/-- The file of a map, as `java.util.Properties` reads it. -/
def Denotes (contents : String) (properties : StringMap String) : Prop :=
  ∃ loaded, load (ofBytes (utf8 contents)) = some loaded ∧ ∀ key value,
    getProperty loaded key = some value ↔
      ∃ name text, properties[name]? = some text ∧ ofString name = key ∧ ofString text = value

theorem denotes_iff {properties : StringMap String} {contents : String}
    (h : renderPropertyFile properties = .ok contents) :
    Denotes contents properties ↔ ∀ property ∈ properties.toList, IsVerbatim property.2 := by
  obtain ⟨hvalid, hcontents⟩ := renderPropertyFile_eq_ok h
  have htext := ofBytes_render hvalid hcontents
  have hwritable : ∀ entry ∈ entries properties, Writable entry := by
    intro written hwritten
    obtain ⟨property, hproperty, rfl⟩ := List.mem_map.mp hwritten
    exact (hvalid property hproperty).writable
  have hdistinct := entries_distinct hvalid
  have hget := getProperty_entries hvalid
  rw [Denotes, htext]
  constructor
  · rintro ⟨loaded, hload, hloaded⟩ property hproperty
    have hsame : ∀ key, getProperty loaded key = getProperty (entries properties) key :=
      fun key => Option.ext fun value => (hloaded key value).trans (hget key value).symm
    have hverbatim := (load_render_iff hwritable hdistinct).mp ⟨loaded, hload, hsame⟩
    exact (hvalid property hproperty).verbatim_iff.mp
      (hverbatim _ (List.mem_map_of_mem hproperty))
  · intro hverbatim
    have hentries : ∀ written ∈ entries properties, Verbatim written.2 := by
      intro written hwritten
      obtain ⟨property, hproperty, rfl⟩ := List.mem_map.mp hwritten
      exact (hvalid property hproperty).verbatim_iff.mpr (hverbatim property hproperty)
    obtain ⟨loaded, hload, hsame⟩ := (load_render_iff hwritable hdistinct).mpr hentries
    exact ⟨loaded, hload, fun key value => by rw [hsame key, hget key value]⟩

-- ════════════════════════════════
-- The configuration
-- ════════════════════════════════

/-- The credentials that are put over the properties of the catalog. -/
def credentials : EngineCatalogAuthentication → List (String × String)
  | .anonymous =>
    [("s3.aws-access-key", environmentReference s3AccessKeyEnv),
      ("s3.aws-secret-key", environmentReference s3SecretKeyEnv)]
  | .oAuth2ClientCredentials _ _ =>
    [("s3.aws-access-key", environmentReference s3AccessKeyEnv),
      ("s3.aws-secret-key", environmentReference s3SecretKeyEnv),
      ("iceberg.rest-catalog.oauth2.credential",
        environmentReference "CATALOG_BENCH_ENGINE_OAUTH_CREDENTIAL")]

def insertAll (properties : StringMap String) (additions : List (String × String)) :
    StringMap String :=
  additions.foldl (fun properties addition => properties.insert addition.1 addition.2) properties

def catalogProperties (program : TrinoRenderedProgram) : StringMap String :=
  insertAll program.catalog.properties (credentials program.catalog.authentication)

def configProperties (program : TrinoRenderedProgram) : StringMap String :=
  .ofList
    [("coordinator", "true"),
      ("node-scheduler.include-coordinator", "true"),
      ("discovery.uri", "http://127.0.0.1:8080"),
      ("catalog.management", "static"),
      ("task.concurrency", toString program.taskConcurrency)] _

def nodeProperties : StringMap String :=
  .ofList
    [("node.environment", "catalog_bench"),
      ("node.id", environmentReference "CATALOG_BENCH_TRINO_NODE_ID"),
      ("node.data-dir", environmentReference "CATALOG_BENCH_TRINO_DATA_DIR")] _

/-- The maps that `render_property_file` is given, with the paths of their files. -/
def given (program : TrinoRenderedProgram) : List (String × StringMap String) :=
  [("catalog/bench.properties", catalogProperties program),
    ("config.properties", configProperties program),
    ("node.properties", nodeProperties)]

/-- Everything that a configuration is rendered from. -/
theorem render_cases {program : TrinoRenderedProgram} {configuration : TrinoServerConfiguration}
    (h : render program = .ok configuration) :
    program.taskConcurrency = 1 ∧ ∃ catalog config node,
      renderPropertyFile (catalogProperties program) = .ok catalog ∧
      renderPropertyFile (configProperties program) = .ok config ∧
      renderPropertyFile nodeProperties = .ok node ∧
      configuration.files =
        [⟨"catalog/bench.properties", catalog⟩, ⟨"config.properties", config⟩,
          ⟨"jvm.config", trinoJvmConfig⟩, ⟨"log.properties", "io.trino=INFO\n"⟩,
          ⟨"node.properties", node⟩] := by
  rw [render] at h
  split at h
  · cases h
  next hinput =>
  have htask : program.taskConcurrency = 1 := by
    rw [Bool.not_eq_true, Bool.or_eq_false_iff] at hinput
    exact not_not.mp (of_decide_eq_false hinput.1)
  obtain ⟨catalog, hcatalog, h⟩ := except_bind_eq_ok.mp h
  obtain ⟨config, hconfig, h⟩ := except_bind_eq_ok.mp h
  obtain ⟨node, hnode, h⟩ := except_bind_eq_ok.mp h
  obtain rfl := Except.ok.inj h
  refine ⟨htask, catalog, config, node, ?_, hconfig, hnode, rfl⟩
  rw [← hcatalog, catalogProperties]
  cases program.catalog.authentication <;> rfl

def AllVerbatim (properties : StringMap String) : Prop :=
  ∀ name text : String, properties[name]? = some text → IsVerbatim text

section InsertAll

variable {properties : StringMap String} {additions : List (String × String)}

/-- What is put over other properties hides them. -/
theorem insertAll_verbatim_iff (hadditions : ∀ addition ∈ additions, IsVerbatim addition.2) :
    AllVerbatim (insertAll properties additions) ↔
      ∀ name text : String, properties[name]? = some text → name ∉ additions.map Prod.fst →
        IsVerbatim text := by
  induction additions generalizing properties with
  | nil => exact ⟨fun h name text hget _ => h name text hget,
      fun h name text hget => h name text hget List.not_mem_nil⟩
  | cons addition additions ih =>
    have hrest := fun other hother => hadditions other (List.mem_cons_of_mem _ hother)
    rw [insertAll, List.foldl_cons, ← insertAll, ih hrest]
    constructor
    · intro h name text hget hname
      rw [List.map_cons, List.mem_cons, not_or] at hname
      refine h name text ?_ hname.2
      rw [Std.ExtTreeMap.getElem?_insert, if_neg]
      · exact hget
      · exact fun heq => hname.1 (Std.compare_eq_iff_eq.mp heq).symm
    · intro h name text hget hname
      rw [Std.ExtTreeMap.getElem?_insert] at hget
      split at hget
      · obtain rfl := Option.some.inj hget
        exact hadditions addition List.mem_cons_self
      · next hne =>
        refine h name text hget ?_
        rw [List.map_cons, List.mem_cons, not_or]
        exact ⟨fun heq => hne (Std.compare_eq_iff_eq.mpr heq.symm), hname⟩

end InsertAll

theorem credentials_verbatim (authentication : EngineCatalogAuthentication) :
    ∀ addition ∈ credentials authentication, IsVerbatim addition.2 := by
  cases authentication <;> simp only [credentials, IsVerbatim] <;> decide +kernel

theorem toList_verbatim_iff (properties : StringMap String) :
    (∀ property ∈ properties.toList, IsVerbatim property.2) ↔ AllVerbatim properties := by
  constructor
  · intro h name text hget
    exact h (name, text) (Std.ExtTreeMap.mem_toList_iff_getElem?_eq_some.mpr hget)
  · intro h property hproperty
    exact h _ _ (Std.ExtTreeMap.mem_toList_iff_getElem?_eq_some.mp hproperty)

instance (value : String) : Decidable (IsVerbatim value) := inferInstanceAs (Decidable (_ ∧ _))

theorem ofList_verbatim {properties : List (String × String)}
    (h : ∀ property ∈ properties, IsVerbatim property.2) : AllVerbatim (.ofList properties _) :=
  fun _ _ hget => h _ (mem_of_getElem?_ofList hget)

theorem configProperties_verbatim {program : TrinoRenderedProgram}
    (h : program.taskConcurrency = 1) : AllVerbatim (configProperties program) := by
  rw [configProperties, h]
  exact ofList_verbatim (by decide +kernel)

theorem nodeProperties_verbatim : AllVerbatim nodeProperties := ofList_verbatim (by decide +kernel)

/-- Every property file denotes the map that it was rendered from exactly when no property of the
catalog has a backslash or starts with a space, apart from those that the credentials hide. -/
theorem render_denotes_iff {program : TrinoRenderedProgram}
    {configuration : TrinoServerConfiguration} (h : render program = .ok configuration) :
    (∀ path properties, (path, properties) ∈ given program →
      ∃ contents, (⟨path, contents⟩ : TrinoConfigurationFile) ∈ configuration.files ∧
        Denotes contents properties) ↔
      ∀ name text : String, program.catalog.properties[name]? = some text →
        name ∉ (credentials program.catalog.authentication).map Prod.fst → IsVerbatim text := by
  obtain ⟨htask, catalog, config, node, hcatalog, hconfig, hnode, hfiles⟩ := render_cases h
  have hconfigDenotes : Denotes config (configProperties program) :=
    (denotes_iff hconfig).mpr ((toList_verbatim_iff _).mpr (configProperties_verbatim htask))
  have hnodeDenotes : Denotes node nodeProperties :=
    (denotes_iff hnode).mpr ((toList_verbatim_iff _).mpr nodeProperties_verbatim)
  rw [← insertAll_verbatim_iff (credentials_verbatim _), ← toList_verbatim_iff]
  refine Iff.trans ?_ (denotes_iff hcatalog)
  rw [hfiles]
  constructor
  · intro hall
    obtain ⟨contents, hmem, hdenotes⟩ := hall _ _ List.mem_cons_self
    have hcontents : contents = catalog := by simpa using hmem
    rwa [hcontents] at hdenotes
  · intro hdenotes path properties hmem
    simp only [given, List.mem_cons, Prod.mk.injEq, List.not_mem_nil, or_false] at hmem
    rcases hmem with ⟨rfl, rfl⟩ | ⟨rfl, rfl⟩ | ⟨rfl, rfl⟩
    · exact ⟨catalog, by simp, hdenotes⟩
    · exact ⟨config, by simp, hconfigDenotes⟩
    · exact ⟨node, by simp, hnodeDenotes⟩

/-- A program for a catalog with a warehouse. -/
def warehouseProgram (warehouse : String) : TrinoRenderedProgram where
  taskConcurrency := 1
  catalog :=
    ⟨trinoCatalogName, .ofList [("iceberg.rest-catalog.warehouse", warehouse)] _, .anonymous⟩
  fixture := ⟨"interop_run", "events", none, "bench"⟩
  observation := ⟨2, [], ⟨"note", false, .string⟩, .ofList [] _⟩
  operations := []

/-- What is rendered for a warehouse. -/
def warehouseConfiguration (warehouse : String) : TrinoServerConfiguration :=
  ((render (warehouseProgram warehouse)).toOption).getD ⟨[]⟩

theorem render_denotes_bench :
    render (warehouseProgram "bench") = .ok (warehouseConfiguration "bench") ∧
      ∀ path properties, (path, properties) ∈ given (warehouseProgram "bench") →
        ∃ contents, (⟨path, contents⟩ : TrinoConfigurationFile) ∈
          (warehouseConfiguration "bench").files ∧ Denotes contents properties := by
  have hrender : render (warehouseProgram "bench") = .ok (warehouseConfiguration "bench") := by
    decide +kernel
  have hverbatim : AllVerbatim (warehouseProgram "bench").catalog.properties :=
    ofList_verbatim (by decide +kernel)
  exact ⟨hrender,
    (render_denotes_iff hrender).mpr fun name text hget _ => hverbatim name text hget⟩

/-- The `\n` of a warehouse `team\new` is read as a line feed. -/
theorem render_backslash_denotes_another : ∃ configuration,
    render (warehouseProgram "team\\new") = .ok configuration ∧
      ∀ contents, (⟨"catalog/bench.properties", contents⟩ : TrinoConfigurationFile) ∈
        configuration.files →
          ¬Denotes contents (catalogProperties (warehouseProgram "team\\new")) := by
  have hrender : render (warehouseProgram "team\\new") =
      .ok (warehouseConfiguration "team\\new") := by
    decide +kernel
  refine ⟨_, hrender, fun contents hmem hdenotes => ?_⟩
  obtain ⟨-, catalog, config, node, hcatalog, -, -, hfiles⟩ := render_cases hrender
  have hcontents : contents = catalog := by simpa [hfiles] using hmem
  rw [hcontents, denotes_iff hcatalog, toList_verbatim_iff] at hdenotes
  have hget : (catalogProperties (warehouseProgram "team\\new"))[
      "iceberg.rest-catalog.warehouse"]? = some "team\\new" := by
    decide +kernel
  exact absurd (hdenotes _ _ hget).1 (by decide +kernel)

end CatalogBench.Engine.TrinoServerConfiguration
