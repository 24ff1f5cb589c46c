import CatalogBench.Flink.Render
import CatalogBench.Flink.Codec
import CatalogBench.Engine.Workflow
import CatalogBench.Library.Ascii
import Mathlib.Algebra.Order.BigOperators.Group.List
import Mathlib.Algebra.Order.Group.Nat

/-!
# What the codec accepts of the renderer's programs

The renderer and the codec of the Flink process were written apart. `CodecAdmits` is the part
of the codec's envelope that the renderer does not establish by itself, as a condition on the
plan: the codec accepts a rendered program exactly when its plan meets it.
-/

set_option linter.all false

namespace CatalogBench.Flink
open CatalogBench.Engine Interaction FlinkRenderedProgram

-- ════════════════════════════════
-- The length of a rendered text
-- ════════════════════════════════

/-- The length of a text in quotes, the quotes inside it doubled. -/
def quotedSize (value : String) : ℕ :=
  javaLength value + value.toList.count (Char.ofNat 39) + 2

/-- The length of a list of texts with separators. -/
def joinSize (sizes : List ℕ) : ℕ := sizes.sum + 2 * (sizes.length - 1)

/-- The length of a column definition: both type names are six letters long. -/
def fieldSize (name : String) (required : Bool) : ℕ :=
  javaLength name + 2 + 1 + 6 + if required then 9 else 0

def propertySize (entry : String × String) : ℕ := quotedSize entry.1 + 1 + quotedSize entry.2

/-- The length of a generated row: its ID, its quoted category, its amount and, once the table
has evolved, its quoted note. -/
def rowSize (scenario : EngineScenarioParameters) (evolved : Bool) (id : ℕ) : ℕ :=
  let .affine multiplier offset := scenario.rowGenerator.amountCents
  let .moduloLabel modulus label := scenario.rowGenerator.category
  let .idLabel note := scenario.rowGenerator.note
  1 + joinSize ([javaLength (toString id), quotedSize (label ++ toString (id % modulus)),
    javaLength (toString (multiplier * id + offset))] ++
      if evolved then [quotedSize (note ++ toString id)] else []) + 1

def qualifiedSize (plan : FlinkExecutionPlan) : ℕ :=
  javaLength plan.fixture.namespace + 2 + 1 + (javaLength plan.fixture.table + 2)

def columnsSize (columns : List String) : ℕ := joinSize (columns.map (javaLength · + 2))

def insertSize (plan : FlinkExecutionPlan) (columns : List String) (evolved : Bool) : ℕ :=
  12 + qualifiedSize plan + 2 + columnsSize columns + 9 +
    joinSize ((batchIds plan.scenario evolved).map (rowSize plan.scenario evolved))

def readSize (plan : FlinkExecutionPlan) (columns : List String) : ℕ :=
  7 + columnsSize columns + 6 + qualifiedSize plan + 10 +
    columnsSize plan.scenario.canonicalReads.orderBy

/-- The lengths of the eight statements. -/
def sqlSizes (plan : FlinkExecutionPlan) : List ℕ :=
  let reads := plan.scenario.canonicalReads
  let evolution := plan.scenario.schemaEvolution.field
  [30 + (javaLength plan.fixture.namespace + 2),
    13 + qualifiedSize plan + 2 +
      joinSize (plan.scenario.table.schema.fields.map fun field =>
        fieldSize field.name field.required) + 8 +
      joinSize ((tableProperties plan).toList.map propertySize) + 1,
    insertSize plan (initialColumns plan) false,
    readSize plan reads.initial.columns,
    12 + qualifiedSize plan + 5 +
      fieldSize evolution.name evolution.required,
    insertSize plan (initialColumns plan ++ [evolution.name]) true,
    readSize plan reads.afterEvolution.columns,
    14 + (javaLength plan.fixture.namespace + 2) + 2 + javaLength plan.fixture.table + 11]

section Lengths

theorem javaLength_append (a b : String) : javaLength (a ++ b) = javaLength a + javaLength b := by
  simp [javaLength]

theorem javaLength_backquoted (value : String) : javaLength (backquoted value) = javaLength value + 2 := by
  have htick : javaLength "`" = 1 := by decide
  rw [backquoted, javaLength_append, javaLength_append, htick]
  omega

theorem javaLength_literal (value : String) : javaLength (literal value) = quotedSize value := by
  have hquote : javaLength "'" = 1 := by decide
  have hbody : ∀ cs : List Char,
      javaLength (String.ofList (cs.flatMap fun c =>
        if c = Char.ofNat 39 then [Char.ofNat 39, Char.ofNat 39] else [c])) =
      javaLength (String.ofList cs) + cs.count (Char.ofNat 39) := by
    intro cs
    simp only [javaLength, String.toList_ofList]
    induction cs with
    | nil => rfl
    | cons c cs ih =>
      rw [List.flatMap_cons, List.map_append, List.sum_append, ih, List.map_cons, List.sum_cons,
        List.count_cons]
      by_cases hc : c = Char.ofNat 39
      · subst hc
        simp
        omega
      · simp [hc]
        omega
  rw [literal, javaLength_append, javaLength_append, hquote, hbody, String.ofList_toList, quotedSize]
  omega

theorem javaLength_join (parts : List String) :
    javaLength (join parts) = joinSize (parts.map javaLength) := by
  have hseparator : javaLength ", " = 2 := by decide
  induction parts with
  | nil => rfl
  | cons part parts ih =>
    cases parts with
    | nil => simp [join, joinSize]
    | cons next parts =>
      rw [join, String.intercalate_cons_cons, javaLength_append, javaLength_append, hseparator]
      rw [join] at ih
      rw [ih]
      simp [joinSize]
      omega

theorem javaLength_renderType (fieldType : IcebergPrimitiveType) :
    javaLength (FlinkRenderedProgram.renderType fieldType) = 6 := by
  cases fieldType <;> decide

theorem javaLength_required (required : Bool) :
    javaLength (if required then " NOT NULL" else "") = if required then 9 else 0 := by
  cases required <;> decide

theorem javaLength_fieldText (field : IcebergField) :
    javaLength (fieldText field) = fieldSize field.name field.required := by
  have hspace : javaLength " " = 1 := by decide
  simp only [fieldText, javaLength_append, javaLength_backquoted, javaLength_renderType,
    javaLength_required, hspace, fieldSize]

theorem javaLength_renderProperty (entry : String × String) :
    javaLength (renderProperty entry) = propertySize entry := by
  have hequals : javaLength "=" = 1 := by decide
  simp only [renderProperty, javaLength_append, javaLength_literal, hequals, propertySize]

theorem javaLength_rowText (scenario : EngineScenarioParameters) (evolved : Bool) (id : ℕ) :
    javaLength (rowText scenario evolved id) = rowSize scenario evolved id := by
  have hopen : javaLength "(" = 1 := by decide
  have hclose : javaLength ")" = 1 := by decide
  simp only [rowText, javaLength_append, javaLength_join, hopen, hclose, rowSize,
    FlinkRenderedProgram.rowValues, List.map_append, List.map_cons, List.map_nil,
    javaLength_literal]
  cases evolved <;> simp [javaLength_literal]

theorem javaLength_columns (columns : List String) :
    javaLength (join (columns.map backquoted)) = columnsSize columns := by
  simp only [javaLength_join, List.map_map, Function.comp_def, javaLength_backquoted, columnsSize]

variable (plan : FlinkExecutionPlan)

theorem javaLength_qualifiedTable : javaLength (qualifiedTable plan) = qualifiedSize plan := by
  have hdot : javaLength "." = 1 := by decide
  simp only [qualifiedTable, javaLength_append, javaLength_backquoted, hdot, qualifiedSize]

theorem javaLength_insertText (columns : List String) (evolved : Bool) :
    javaLength (insertText plan columns evolved) = insertSize plan columns evolved := by
  have hinsert : javaLength "INSERT INTO " = 12 := by decide
  have hopen : javaLength " (" = 2 := by decide
  have hvalues : javaLength ") VALUES " = 9 := by decide
  have hrows : (((batchIds plan.scenario evolved).map (rowText plan.scenario evolved)).map
      javaLength) = (batchIds plan.scenario evolved).map (rowSize plan.scenario evolved) := by
    simp only [List.map_map, Function.comp_def, javaLength_rowText]
  rw [insertText, renderInsert_eq]
  simp only [javaLength_append, javaLength_columns, javaLength_qualifiedTable, hinsert, hopen,
    hvalues, insertSize]
  rw [javaLength_join, hrows]

theorem javaLength_readText (columns : List String) :
    javaLength (readText plan columns) = readSize plan columns := by
  have hselect : javaLength "SELECT " = 7 := by decide
  have hfrom : javaLength " FROM " = 6 := by decide
  have horder : javaLength " ORDER BY " = 10 := by decide
  simp only [readText, javaLength_append, javaLength_columns, javaLength_qualifiedTable, hselect,
    hfrom, horder, readSize]

theorem javaLength_createTable :
    javaLength ("CREATE TABLE " ++ qualifiedTable plan ++ " (" ++
      join (plan.scenario.table.schema.fields.map fieldText) ++ ") WITH (" ++
      renderProperties (tableProperties plan) ++ ")") =
    13 + qualifiedSize plan + 2 +
      joinSize (plan.scenario.table.schema.fields.map fun field =>
        fieldSize field.name field.required) + 8 +
      joinSize ((tableProperties plan).toList.map propertySize) + 1 := by
  have hcreate : javaLength "CREATE TABLE " = 13 := by decide
  have hopen : javaLength " (" = 2 := by decide
  have hwith : javaLength ") WITH (" = 8 := by decide
  have hclose : javaLength ")" = 1 := by decide
  have hfields : (plan.scenario.table.schema.fields.map fieldText).map javaLength =
      plan.scenario.table.schema.fields.map fun field => fieldSize field.name field.required := by
    simp only [List.map_map, Function.comp_def, javaLength_fieldText]
  have hproperties : ((tableProperties plan).toList.map renderProperty).map javaLength =
      (tableProperties plan).toList.map propertySize := by
    simp only [List.map_map, Function.comp_def, javaLength_renderProperty]
  simp only [javaLength_append, javaLength_qualifiedTable, hcreate, hopen, hwith, hclose,
    javaLength_join, hfields, renderProperties, hproperties]

/-- The lengths of the statements are those the plan determines. -/
theorem javaLength_renderedOperations :
    (renderedOperations plan).map (fun operation => javaLength operation.toOperation.sql) =
      sqlSizes plan := by
  have hdatabase : javaLength "CREATE DATABASE IF NOT EXISTS " = 30 := by decide
  have halter : javaLength "ALTER TABLE " = 12 := by decide
  have hadd : javaLength " ADD " = 5 := by decide
  have hspace : javaLength " " = 1 := by decide
  have hselect : javaLength "SELECT * FROM " = 14 := by decide
  have hdot : javaLength ".`" = 2 := by decide
  have hsnapshots : javaLength "$snapshots`" = 11 := by decide
  simp only [renderedOperations, List.map_cons, List.map_nil, FlinkOperation.toOperation,
    Operation.sql, javaLength_createTable, javaLength_insertText, javaLength_readText, sqlSizes,
    List.cons.injEq, true_and, and_true]
  simp only [javaLength_append, javaLength_backquoted, javaLength_qualifiedTable,
    javaLength_renderType, javaLength_required, hdatabase, halter, hadd, hspace, hselect, hdot,
    hsnapshots, fieldSize, true_and, and_true]
  omega

end Lengths

-- ════════════════════════════════
-- Control characters
-- ════════════════════════════════

/-- The labels of a row hold no control character. -/
def LabelsControlFree (scenario : EngineScenarioParameters) (evolved : Bool) : Prop :=
  let .moduloLabel _ label := scenario.rowGenerator.category
  let .idLabel note := scenario.rowGenerator.note
  ControlFree label ∧ (evolved = true → ControlFree note)

instance (scenario : EngineScenarioParameters) (evolved : Bool) :
    Decidable (LabelsControlFree scenario evolved) := inferInstanceAs (Decidable (_ ∧ _))

/-- The texts of the plan that the statements quote hold no control character. -/
structure SqlControlFree (plan : FlinkExecutionPlan) : Prop where
  properties : ∀ entry ∈ (tableProperties plan).toList, ControlFree entry.1 ∧ ControlFree entry.2
  initialRows : batchIds plan.scenario false ≠ [] → LabelsControlFree plan.scenario false
  evolvedRows : batchIds plan.scenario true ≠ [] → LabelsControlFree plan.scenario true

section Controls

theorem controlFree_append {a b : String} :
    ControlFree (a ++ b) ↔ ControlFree a ∧ ControlFree b := by
  simp [ControlFree, or_imp, forall_and]

theorem controlFree_join {parts : List String} :
    ControlFree (join parts) ↔ ∀ part ∈ parts, ControlFree part := by
  have hseparator : ControlFree ", " := by decide
  induction parts with
  | nil => simp [join, ControlFree]
  | cons part parts ih =>
    cases parts with
    | nil => simp [join]
    | cons next parts =>
      rw [join, String.intercalate_cons_cons, controlFree_append, controlFree_append]
      rw [join] at ih
      simp only [ih, List.forall_mem_cons, hseparator, and_true]

theorem controlFree_literal {value : String} : ControlFree (literal value) ↔ ControlFree value := by
  have hquote : ControlFree "'" := by decide
  have hchar : isIsoControl (Char.ofNat 39) = false := by decide
  rw [literal, controlFree_append, controlFree_append]
  simp only [hquote, true_and, and_true]
  simp only [ControlFree, String.toList_ofList, List.mem_flatMap]
  constructor
  · intro h c hc
    apply h c
    refine ⟨c, hc, ?_⟩
    split
    · next heq => simp [heq]
    · simp
  · rintro h c ⟨d, hd, hc⟩
    split at hc
    · have : c = Char.ofNat 39 := by simpa using hc
      rw [this]
      exact hchar
    · have : c = d := by simpa using hc
      rw [this]
      exact h d hd

theorem isIsoControl_of_printable {c : Char} (hlow : 0x20 ≤ c.val.toNat) (hhigh : c.val.toNat < 0x7F) :
    isIsoControl c = false := by
  simp only [isIsoControl, Bool.or_eq_false_iff, Bool.and_eq_false_iff, decide_eq_false_iff_not]
  omega

theorem isIsoControl_of_isDigit {c : Char} (h : c.isDigit = true) : isIsoControl c = false := by
  simp only [Char.isDigit, Bool.and_eq_true, decide_eq_true_eq, ge_iff_le, UInt32.le_iff_toNat_le]
    at h
  exact isIsoControl_of_printable (Nat.le_trans (by decide) h.1) (Nat.lt_of_le_of_lt h.2 (by decide))

theorem isIsoControl_of_isLower {c : Char} (h : c.isLower = true) : isIsoControl c = false := by
  have hrange := Ascii.isLower_iff.mp h
  exact isIsoControl_of_printable (Nat.le_trans (by decide) hrange.1)
    (Nat.lt_of_le_of_lt hrange.2 (by decide))

theorem controlFree_repr (n : ℕ) : ControlFree n.repr := by
  intro c hc
  rw [Nat.toList_repr] at hc
  exact isIsoControl_of_isDigit (Nat.isDigit_of_mem_toDigits (by decide) (by decide) hc)

theorem controlFree_of_validIdentifier {value : String} (h : validIdentifier value = true) :
    ControlFree value := by
  intro c hc
  simp only [validIdentifier, Bool.and_eq_true, List.all_eq_true, Bool.or_eq_true,
    decide_eq_true_eq] at h
  obtain (hlower | hdigit) | rfl := h.2 c hc
  · exact isIsoControl_of_isLower hlower
  · exact isIsoControl_of_isDigit hdigit
  · decide

theorem controlFree_columns {columns : List String}
    (h : ∀ column ∈ columns, validIdentifier column = true) :
    ControlFree (join (columns.map backquoted)) := by
  have htick : ControlFree "`" := by decide
  rw [controlFree_join]
  intro part hmem
  obtain ⟨column, hcolumn, rfl⟩ := List.mem_map.mp hmem
  rw [backquoted, controlFree_append, controlFree_append]
  exact ⟨⟨htick, controlFree_of_validIdentifier (h column hcolumn)⟩, htick⟩

theorem controlFree_rowText {scenario : EngineScenarioParameters} {evolved : Bool} {id : ℕ} :
    ControlFree (rowText scenario evolved id) ↔ LabelsControlFree scenario evolved := by
  have hopen : ControlFree "(" := by decide
  have hclose : ControlFree ")" := by decide
  simp only [rowText, controlFree_append, hopen, hclose, true_and, and_true, controlFree_join,
    FlinkRenderedProgram.rowValues, LabelsControlFree]
  cases evolved <;> simp [controlFree_repr, controlFree_literal, controlFree_append]

theorem controlFree_renderType (fieldType : IcebergPrimitiveType) :
    ControlFree (FlinkRenderedProgram.renderType fieldType) := by
  cases fieldType <;> decide

theorem controlFree_required (required : Bool) :
    ControlFree (if required then " NOT NULL" else "") := by
  cases required <;> decide

variable {plan : FlinkExecutionPlan} (hnames : NamesValid plan)

include hnames

theorem controlFree_qualifiedTable : ControlFree (qualifiedTable plan) := by
  have htick : ControlFree "`" := by decide
  have hdot : ControlFree "." := by decide
  simp only [qualifiedTable, backquoted, controlFree_append, htick, hdot,
    controlFree_of_validIdentifier hnames.namespace, controlFree_of_validIdentifier hnames.table,
    and_self]

theorem controlFree_insertText {columns : List String} {evolved : Bool}
    (hcolumns : ∀ column ∈ columns, validIdentifier column = true) :
    ControlFree (insertText plan columns evolved) ↔
      (batchIds plan.scenario evolved ≠ [] → LabelsControlFree plan.scenario evolved) := by
  have hinsert : ControlFree "INSERT INTO " := by decide
  have hopen : ControlFree " (" := by decide
  have hvalues : ControlFree ") VALUES " := by decide
  simp only [insertText, renderInsert_eq, controlFree_append, hinsert, hopen, hvalues,
    controlFree_columns hcolumns, controlFree_qualifiedTable hnames, true_and, and_true]
  rw [controlFree_join]
  constructor
  · intro h hne
    obtain ⟨id, ids, hids⟩ := List.exists_cons_of_ne_nil hne
    exact controlFree_rowText.mp (h _ (List.mem_map_of_mem (hids ▸ List.mem_cons_self)))
  · intro h part hmem
    obtain ⟨id, hid, rfl⟩ := List.mem_map.mp hmem
    exact controlFree_rowText.mpr (h (List.ne_nil_of_mem hid))

theorem controlFree_readText {columns : List String}
    (hcolumns : ∀ column ∈ columns, validIdentifier column = true) :
    ControlFree (readText plan columns) := by
  have hselect : ControlFree "SELECT " := by decide
  have hfrom : ControlFree " FROM " := by decide
  have horder : ControlFree " ORDER BY " := by decide
  simp only [readText, controlFree_append, hselect, hfrom, horder, controlFree_columns hcolumns,
    controlFree_columns hnames.orderBy, controlFree_qualifiedTable hnames, and_self]

theorem controlFree_fields :
    ControlFree (join (plan.scenario.table.schema.fields.map fieldText)) := by
  have htick : ControlFree "`" := by decide
  have hspace : ControlFree " " := by decide
  rw [controlFree_join]
  intro part hmem
  obtain ⟨field, hfield, rfl⟩ := List.mem_map.mp hmem
  have hname := controlFree_of_validIdentifier (hnames.fields _ (List.mem_map_of_mem hfield))
  simp only [fieldText, backquoted, controlFree_append, htick, hspace, hname,
    controlFree_renderType, controlFree_required, and_self]

theorem controlFree_createTable :
    ControlFree ("CREATE TABLE " ++ qualifiedTable plan ++ " (" ++
      join (plan.scenario.table.schema.fields.map fieldText) ++ ") WITH (" ++
      renderProperties (tableProperties plan) ++ ")") ↔
    ∀ entry ∈ (tableProperties plan).toList, ControlFree entry.1 ∧ ControlFree entry.2 := by
  have hcreate : ControlFree "CREATE TABLE " := by decide
  have hopen : ControlFree " (" := by decide
  have hwith : ControlFree ") WITH (" := by decide
  have hclose : ControlFree ")" := by decide
  have hequals : ControlFree "=" := by decide
  simp only [controlFree_append, hcreate, hopen, hwith, hclose, controlFree_fields hnames,
    controlFree_qualifiedTable hnames, true_and, and_true, renderProperties, controlFree_join,
    List.forall_mem_map, renderProperty, controlFree_literal, hequals]

/-- The renderer writes a control character only out of a table property or a row label. -/
theorem controlFree_renderedOperations :
    (∀ operation ∈ renderedOperations plan, ControlFree operation.toOperation.sql) ↔
      SqlControlFree plan := by
  have hdatabase : ControlFree "CREATE DATABASE IF NOT EXISTS " := by decide
  have halter : ControlFree "ALTER TABLE " := by decide
  have hadd : ControlFree " ADD " := by decide
  have hspace : ControlFree " " := by decide
  have hselect : ControlFree "SELECT * FROM " := by decide
  have hdot : ControlFree ".`" := by decide
  have htick : ControlFree "`" := by decide
  have hsnapshots : ControlFree "$snapshots`" := by decide
  have hevolvedColumns : ∀ column ∈ initialColumns plan ++ [plan.scenario.schemaEvolution.field.name],
      validIdentifier column = true := by
    intro column hmem
    rcases List.mem_append.mp hmem with hmem | hmem
    · exact hnames.fields column hmem
    · exact List.mem_singleton.mp hmem ▸ hnames.evolved
  simp only [renderedOperations, List.forall_mem_cons, FlinkOperation.toOperation, Operation.sql,
    controlFree_createTable hnames, controlFree_insertText hnames hnames.fields,
    controlFree_insertText hnames hevolvedColumns, controlFree_readText hnames hnames.initialRead,
    controlFree_readText hnames hnames.evolvedRead]
  simp only [controlFree_append, backquoted, controlFree_qualifiedTable hnames,
    controlFree_of_validIdentifier hnames.namespace, controlFree_of_validIdentifier hnames.table,
    controlFree_of_validIdentifier hnames.evolved, controlFree_renderType, controlFree_required,
    hdatabase, halter, hadd, hspace, hselect, hdot, htick, hsnapshots, true_and, and_true,
    List.not_mem_nil, false_implies, implies_true]
  constructor
  · rintro ⟨hproperties, hinitial, hevolved⟩
    exact ⟨hproperties, hinitial, hevolved⟩
  · intro h
    exact ⟨h.properties, h.initialRows, h.evolvedRows⟩

end Controls

-- ════════════════════════════════
-- The catalog properties
-- ════════════════════════════════

def requiredEntries (plan : FlinkExecutionPlan) : List (String × String) :=
  [("type", "iceberg"), ("catalog-type", "rest"), ("uri", plan.catalog.uri),
    ("io-impl", plan.fileIo.implementation), ("s3.endpoint", plan.fileIo.endpoint),
    ("s3.region", plan.fileIo.region),
    ("s3.path-style-access", toString plan.fileIo.pathStyleAccess)]

/-- The entries of `catalogProperties`. -/
def catalogEntries (plan : FlinkExecutionPlan) : List (String × String) :=
  requiredEntries plan ++ plan.catalog.warehouse.toList.map ("warehouse", ·) ++
    plan.catalog.routePrefix.toList.map ("prefix", ·)

/-- Lower-casing a text of lowercase letters, digits, dots and dashes changes nothing. -/
def Jdk.KeepsLowerCase (jdk : Jdk) : Prop :=
  ∀ text : String, (∀ c ∈ text.toList, c.isLower || c.isDigit || c = '.' || c = '-') →
    jdk.toLowerCase text = text

section Catalog

variable {jdk : Jdk} {plan : FlinkExecutionPlan}

/-- A new key adds one entry. -/
theorem getElem?_insert_iff {properties : StringMap String} {entries : List (String × String)}
    {newKey newValue : String}
    (h : ∀ key value, properties[key]? = some value ↔ (key, value) ∈ entries)
    (hnew : newKey ∉ entries.map Prod.fst) (key value : String) :
    (properties.insert newKey newValue)[key]? = some value ↔
      (key, value) ∈ entries ++ [(newKey, newValue)] := by
  rw [Std.ExtTreeMap.getElem?_insert, List.mem_append, List.mem_singleton, Prod.mk.injEq]
  by_cases hkey : newKey = key
  · subst hkey
    have hnot : (newKey, value) ∉ entries := fun hmem => hnew (List.mem_map_of_mem hmem)
    simp [hnot, eq_comm]
  · have hcompare : ¬compare newKey key = .eq := fun heq => hkey (Std.LawfulEqCmp.eq_of_compare heq)
    rw [if_neg hcompare, h]
    simp [Ne.symm hkey]

theorem catalogProperties_getElem? (key value : String) :
    (catalogProperties plan)[key]? = some value ↔ (key, value) ∈ catalogEntries plan := by
  have hdistinct : ((requiredEntries plan).map Prod.fst).Nodup :=
    show requiredCatalogProperties.Nodup from by decide
  have hbase := getElem?_ofList_iff hdistinct
  unfold catalogProperties catalogEntries
  cases plan.catalog.warehouse with
  | none =>
    rw [Option.toList_none, List.map_nil, List.append_nil]
    cases plan.catalog.routePrefix with
    | none =>
      rw [Option.toList_none, List.map_nil, List.append_nil]
      exact hbase key value
    | some routePrefix => exact getElem?_insert_iff hbase (by simp [requiredEntries]) key value
  | some warehouse =>
    have hwarehouse : ∀ key value,
        ((Std.ExtTreeMap.ofList (requiredEntries plan) compare).insert "warehouse" warehouse)[key]? =
          some value ↔ (key, value) ∈ requiredEntries plan ++ [("warehouse", warehouse)] :=
      getElem?_insert_iff hbase (by simp [requiredEntries])
    cases plan.catalog.routePrefix with
    | none =>
      rw [Option.toList_none, List.map_nil, List.append_nil]
      exact hwarehouse key value
    | some routePrefix => exact getElem?_insert_iff hwarehouse (by simp [requiredEntries]) key value

theorem catalogEntries_keys {key value : String} (h : (key, value) ∈ catalogEntries plan) :
    key ∈ requiredCatalogProperties ++ optionalCatalogProperties := by
  simp only [catalogEntries, List.mem_append, List.mem_map, Prod.mk.injEq] at h
  rcases h with (h | ⟨_, _, rfl, _⟩) | ⟨_, _, rfl, _⟩
  · exact List.mem_append_left _
      (show key ∈ (requiredEntries plan).map Prod.fst from List.mem_map_of_mem h)
  · decide
  · decide

theorem catalogKey_admitted (hjdk : jdk.KeepsLowerCase) {key : String}
    (h : key ∈ requiredCatalogProperties ++ optionalCatalogProperties) :
    Bounded key ∧ ∀ word ∈ ["credential", "secret", "access-key", "token"],
      containsText (jdk.toLowerCase key) word = false := by
  have hall : ∀ key ∈ requiredCatalogProperties ++ optionalCatalogProperties,
      Bounded key ∧ (key.toList.all fun c => c.isLower || c.isDigit || c = '.' || c = '-') ∧
        ∀ word ∈ ["credential", "secret", "access-key", "token"],
          containsText key word = false := by
    decide +kernel
  obtain ⟨hbounded, hlower, hbanned⟩ := hall key h
  rw [hjdk key (List.all_eq_true.mp hlower)]
  exact ⟨hbounded, hbanned⟩

/-- What is left of the checks on the catalog of a rendered program. -/
theorem catalogAdmitted_iff (hjdk : jdk.KeepsLowerCase) (hfixed : PlanFixed plan) :
    CatalogAdmitted jdk ⟨plan.catalog.name, catalogProperties plan, plan.catalog.authentication⟩ ↔
      HttpUri jdk plan.catalog.uri ∧ HttpUri jdk plan.fileIo.endpoint ∧
      javaLength plan.fileIo.region ≤ maxTextChars ∧
      (∀ warehouse ∈ plan.catalog.warehouse, Bounded warehouse) ∧
      (∀ routePrefix ∈ plan.catalog.routePrefix, Bounded routePrefix) ∧
      AuthenticationAdmitted jdk plan.catalog.authentication := by
  have hget : ∀ key value, (key, value) ∈ catalogEntries plan →
      (catalogProperties plan)[key]? = some value :=
    fun key value => (catalogProperties_getElem? key value).mpr
  have huri := hget "uri" plan.catalog.uri (by simp [catalogEntries, requiredEntries])
  have hendpoint := hget "s3.endpoint" plan.fileIo.endpoint (by simp [catalogEntries, requiredEntries])
  constructor
  · intro h
    have hproperty : ∀ entry ∈ catalogEntries plan, Bounded entry.2 := by
      intro entry hmem
      exact (h.properties entry (Std.ExtTreeMap.mem_toList_iff_getElem?_eq_some.mpr
        (hget entry.1 entry.2 hmem))).2.1
    refine ⟨by simpa [huri] using h.uri, by simpa [hendpoint] using h.endpoint,
      (hproperty ("s3.region", _) (by simp [catalogEntries, requiredEntries])).2,
      fun warehouse hmem => hproperty ("warehouse", warehouse) ?_,
      fun routePrefix hmem => hproperty ("prefix", routePrefix) ?_, h.authentication⟩
    · simp [catalogEntries, Option.mem_def.mp hmem]
    · simp [catalogEntries, Option.mem_def.mp hmem]
  · rintro ⟨hcatalogUri, hs3, hregion, hwarehouse, hstarts, hauthentication⟩
    have hvalues : ∀ entry ∈ catalogEntries plan, Bounded entry.2 := by
      have hstyle : Bounded (toString plan.fileIo.pathStyleAccess) := by
        rw [hfixed.pathStyleAccess]
        decide
      have hio : Bounded plan.fileIo.implementation := by
        rw [hfixed.implementation]
        decide
      simp only [catalogEntries, requiredEntries, List.mem_append, List.mem_map, or_imp,
        forall_and, List.forall_mem_cons, Option.mem_toList, forall_exists_index, and_imp]
      refine ⟨⟨⟨by decide, by decide, hcatalogUri.1, hio, hs3.1, ⟨hfixed.region, hregion⟩, hstyle,
        by simp⟩, ?_⟩, ?_⟩
      · rintro _ warehouse hmem rfl
        exact hwarehouse warehouse hmem
      · rintro _ routePrefix hmem rfl
        exact hstarts routePrefix hmem
    refine
      { name := hfixed.name ▸ (by decide : BoundedIdentifier flinkCatalogName)
        complete := fun key hmem => ?_
        closed := fun key hmem => ?_
        type := hget _ _ (by simp [catalogEntries, requiredEntries])
        catalogType := hget _ _ (by simp [catalogEntries, requiredEntries])
        fileIo := hget _ _ (by simp [catalogEntries, requiredEntries, hfixed.implementation])
        pathStyle := hget _ _ (by simp [catalogEntries, requiredEntries, hfixed.pathStyleAccess]; rfl)
        uri := by simpa [huri] using hcatalogUri
        endpoint := by simpa [hendpoint] using hs3
        properties := fun entry hmem => ?_
        authentication := hauthentication }
    · obtain ⟨entry, hentry, rfl⟩ := List.mem_map.mp
        (show key ∈ (requiredEntries plan).map Prod.fst from hmem)
      exact Std.ExtTreeMap.mem_iff_isSome_getElem?.mpr (by
        rw [hget entry.1 entry.2 (by simp [catalogEntries, hentry])]
        rfl)
    · obtain ⟨value, hvalue⟩ := Option.isSome_iff_exists.mp
        (Std.ExtTreeMap.mem_iff_isSome_getElem?.mp hmem)
      exact catalogEntries_keys ((catalogProperties_getElem? key value).mp hvalue)
    · have hentry := (catalogProperties_getElem? entry.1 entry.2).mp
        (Std.ExtTreeMap.mem_toList_iff_getElem?_eq_some.mp hmem)
      obtain ⟨hkey, hbanned⟩ := catalogKey_admitted hjdk (catalogEntries_keys hentry)
      exact ⟨hkey, hvalues _ hentry, hbanned⟩

end Catalog

-- ════════════════════════════════
-- Acceptance
-- ════════════════════════════════

/-- The bounds on a canonical read, and the columns it must have. -/
structure ReadAdmitted (read : CanonicalRead) (columns : List String) : Prop where
  rows : 1 ≤ read.rows ∧ read.rows ≤ 10000
  bytes : 1 ≤ read.bytes ∧ read.bytes ≤ 16 * 1024 * 1024
  sha256 : matchesSha256 read.sha256 = true
  columns : read.columns = columns

/-- What the codec demands of a plan beyond what the renderer checks. -/
structure CodecAdmits (jdk : Jdk) (plan : FlinkExecutionPlan) : Prop where
  uri : HttpUri jdk plan.catalog.uri
  endpoint : HttpUri jdk plan.fileIo.endpoint
  region : javaLength plan.fileIo.region ≤ maxTextChars
  warehouse : ∀ warehouse ∈ plan.catalog.warehouse, Bounded warehouse
  routePrefix : ∀ routePrefix ∈ plan.catalog.routePrefix, Bounded routePrefix
  authentication : AuthenticationAdmitted jdk plan.catalog.authentication
  bucket : BoundedIdentifier plan.fileIo.bucket
  location : ∀ location ∈ plan.fixture.requestedLocation,
    LocationAdmitted jdk plan.fileIo.bucket location
  formatVersion : plan.scenario.table.formatVersion = 2
  fieldIds : (∀ field ∈ plan.scenario.table.schema.fields, 0 < field.id) ∧
    (plan.scenario.table.schema.fields.map IcebergField.id).Nodup
  fieldNames : initialColumns plan ≠ [] ∧
    (initialColumns plan ++ [plan.scenario.schemaEvolution.field.name]).Nodup
  properties : ∀ entry ∈ plan.scenario.table.properties.toList,
    PropertyAdmitted jdk ["credential", "secret", "token"] entry
  sqlSizes : ∀ size ∈ sqlSizes plan, size ≤ maxTextChars
  sqlControls : SqlControlFree plan
  initialRead : ReadAdmitted plan.scenario.canonicalReads.initial (initialColumns plan)
  evolvedRead : ReadAdmitted plan.scenario.canonicalReads.afterEvolution
    (initialColumns plan ++ [plan.scenario.schemaEvolution.field.name])

section Acceptance

variable {jdk : Jdk} {plan : FlinkExecutionPlan}

theorem mem_le_joinSize {size : ℕ} {sizes : List ℕ} (h : size ∈ sizes) : size ≤ joinSize sizes :=
  Nat.le_trans (List.le_sum_of_mem h) (Nat.le_add_right _ _)

theorem sqlSizes_pos {size : ℕ} (h : size ∈ Flink.sqlSizes plan) : 0 < size := by
  simp only [Flink.sqlSizes, insertSize, readSize, List.mem_cons, List.not_mem_nil, or_false] at h
  omega

theorem operations_admitted_iff (hnames : NamesValid plan) :
    (∀ entry ∈ operationOrder.zip ((renderedOperations plan).map FlinkOperation.toOperation),
      validateOperation entry.1 entry.2 = .ok ()) ↔
      (∀ size ∈ Flink.sqlSizes plan, size ≤ maxTextChars) ∧ SqlControlFree plan := by
  have hsplit : (∀ entry ∈ operationOrder.zip ((renderedOperations plan).map
      FlinkOperation.toOperation), validateOperation entry.1 entry.2 = .ok ()) ↔
      ∀ operation ∈ renderedOperations plan, Bounded operation.toOperation.sql ∧
        ControlFree operation.toOperation.sql := by
    simp only [renderedOperations, operationOrder, List.map_cons, List.map_nil,
      List.zip_cons_cons, List.zip_nil_right, List.forall_mem_cons, validateOperation_eq_ok,
      FlinkOperation.toOperation, Operation.getClass, true_and, List.not_mem_nil, false_implies,
      implies_true]
  have hbounded : (∀ operation ∈ renderedOperations plan, Bounded operation.toOperation.sql) ↔
      ∀ size ∈ Flink.sqlSizes plan, size ≤ maxTextChars := by
    have hpos : ∀ operation ∈ renderedOperations plan, 0 < javaLength operation.toOperation.sql := by
      intro operation hmem
      exact sqlSizes_pos (javaLength_renderedOperations plan ▸ List.mem_map_of_mem hmem)
    rw [← javaLength_renderedOperations, List.forall_mem_map]
    refine forall₂_congr fun operation hmem => ⟨fun h => h.2, fun h => ⟨?_, h⟩⟩
    intro hempty
    have := hpos operation hmem
    rw [hempty] at this
    exact absurd this (by decide)
  rw [hsplit, ← hbounded, ← controlFree_renderedOperations hnames]
  exact ⟨fun h => ⟨fun o ho => (h o ho).1, fun o ho => (h o ho).2⟩,
    fun h o ho => ⟨h.1 o ho, h.2 o ho⟩⟩

/-- Statements of bounded length hold names of bounded length. -/
theorem names_bounded (hnames : NamesValid plan)
    (hsizes : ∀ size ∈ Flink.sqlSizes plan, size ≤ maxTextChars) :
    BoundedIdentifier plan.fixture.namespace ∧ BoundedIdentifier plan.fixture.table ∧
      ∀ column ∈ initialColumns plan ++ [plan.scenario.schemaEvolution.field.name],
        BoundedIdentifier column := by
  have hidentifier : ∀ value, validIdentifier value = true → javaLength value ≤ maxTextChars →
      BoundedIdentifier value := by
    intro value hvalid hlength
    refine ⟨⟨?_, hlength⟩, hvalid⟩
    rintro rfl
    exact absurd hvalid (by decide)
  simp only [Flink.sqlSizes, List.forall_mem_cons] at hsizes
  obtain ⟨hdatabase, hcreate, -, -, hadd, -, -, hsnapshots, -⟩ := hsizes
  refine ⟨hidentifier _ hnames.namespace (by omega), hidentifier _ hnames.table (by omega), ?_⟩
  intro column hmem
  rcases List.mem_append.mp hmem with hmem | hmem
  · obtain ⟨field, hfield, rfl⟩ := List.mem_map.mp hmem
    have hsize : fieldSize field.name field.required ≤ joinSize (plan.scenario.table.schema.fields.map
        fun field => fieldSize field.name field.required) :=
      mem_le_joinSize (List.mem_map_of_mem hfield)
    have hname : javaLength field.name ≤ fieldSize field.name field.required := by
      unfold fieldSize
      omega
    exact hidentifier _ (hnames.fields _ (List.mem_map_of_mem hfield)) (by omega)
  · have hname : javaLength plan.scenario.schemaEvolution.field.name ≤
        fieldSize plan.scenario.schemaEvolution.field.name
          plan.scenario.schemaEvolution.field.required := by
      unfold fieldSize
      omega
    rw [List.mem_singleton.mp hmem]
    exact hidentifier _ hnames.evolved (by omega)

/-- The statements of a rendered program have the shapes the codec looks for. -/
theorem renderedOperations_shapes (plan : FlinkExecutionPlan) :
    validateSqlShapes ((renderedOperations plan).map FlinkOperation.toOperation) = .ok () := by
  have hstarts : ∀ start rest : String, startsWith (start ++ rest) start = true := by
    intro start rest
    rw [startsWith, String.toList_append]
    exact List.isPrefixOf_iff_prefix.mpr (List.prefix_append _ _)
  have hcontains : ∀ a b c : String, containsText (a ++ b ++ c) b = true := by
    intro a b c
    simp only [containsText, decide_eq_true_eq, String.toList_append]
    exact ⟨a.toList, c.toList, rfl⟩
  rw [validateSqlShapes_eq_ok]
  simp only [renderedOperations, sqlPrefixes, List.map_cons, List.map_nil, List.zip_cons_cons,
    List.zip_nil_right, List.forall_mem_cons, FlinkOperation.toOperation, Operation.sql,
    insertText, renderInsert_eq, readText, String.append_assoc, hstarts, true_and, List.not_mem_nil,
    false_implies, implies_true]
  simp only [List.getElem?_cons_succ, List.getElem?_cons_zero, Option.any_some]
  have hadd := hcontains ("ALTER TABLE " ++ qualifiedTable plan) " ADD "
  simpa only [String.append_assoc] using hadd _

theorem oracleAdmitted_iff {read : CanonicalRead} {columns : List String} (hne : columns ≠ [])
    (hnodup : columns.Nodup) (hbounded : ∀ column ∈ columns, BoundedIdentifier column) :
    OracleAdmitted (.ofCanonical read) columns ↔ ReadAdmitted read columns := by
  simp only [OracleAdmitted, ReadOracle.ofCanonical, maxReadRows, maxReadBytes]
  constructor
  · rintro ⟨hrows, hbytes, hsha, -, -, -, hcolumns⟩
    exact ⟨by omega, by omega, hsha, hcolumns⟩
  · rintro ⟨hrows, hbytes, hsha, rfl⟩
    exact ⟨by omega, by omega, hsha, hne, hbounded, hnodup, rfl⟩

end Acceptance

-- ════════════════════════════════
-- A small plan
-- ════════════════════════════════

def sampleSha256 : String := "9f86d081884c7d659a2feaa0c55ad015a3bf4f1b2b0b822cd15d6c15b0f00a08"

/-- A plan over the given bucket. -/
def sampleFlinkPlan (bucket : String) (requestedLocation : Option String) : FlinkExecutionPlan where
  format := flinkPlanFormat
  execution := ⟨1⟩
  catalog := { name := "bench", uri := "http://catalog:8181", warehouse := some "warehouse",
               routePrefix := none, authentication := .anonymous }
  fileIo := { implementation := "org.apache.iceberg.aws.s3.S3FileIO",
              endpoint := "http://store:9000", bucket, region := "local", pathStyleAccess := true }
  fixture := { «namespace» := "interop_run", table := "events", requestedLocation }
  scenario := { sampleScenario with
    canonicalReads := {
      initial := { bytes := 13, columns := ["id", "category", "amount_cents"], rows := 1,
                   sha256 := sampleSha256 }
      orderBy := ["id"]
      afterEvolution := { bytes := 36, columns := ["id", "category", "amount_cents", "note"],
                          rows := 2, sha256 := sampleSha256 }
      trailingLf := true } }

/-- The library functions on the texts of the sample plans. -/
def sampleJdk : Jdk where
  parseUri text :=
    if text = "http://catalog:8181" then
      some ⟨some "http", some "catalog", none, some "", none, none⟩
    else if text = "http://store:9000" then
      some ⟨some "http", some "store", none, some "", none, none⟩
    else if text = "s3://bench/interop" then
      some ⟨some "s3", some "bench", none, some "/interop", none, none⟩
    else none
  toLowerCase text := String.ofList (text.toList.map Char.toLower)

theorem toLower_of_not_upper {c : Char}
    (h : c.isLower || c.isDigit || c = '.' || c = '-') : c.toLower = c := by
  refine dif_neg fun hupper => ?_
  have hrange := Ascii.isUpper_iff.mp (decide_eq_true hupper)
  simp only [Bool.or_eq_true, decide_eq_true_eq, Ascii.isLower_iff, Ascii.isDigit_iff] at h
  rcases h with ((h | h) | rfl) | rfl
  · omega
  · omega
  · exact absurd hrange.1 (by decide)
  · exact absurd hrange.1 (by decide)

theorem sampleJdk_keepsLowerCase : sampleJdk.KeepsLowerCase := by
  intro text hall
  have hmap : text.toList.map Char.toLower = text.toList :=
    (List.map_congr_left fun c hc => toLower_of_not_upper (hall c hc)).trans (List.map_id _)
  simp only [sampleJdk, hmap, String.ofList_toList]

end CatalogBench.Flink
