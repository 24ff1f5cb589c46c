import CatalogBench.Engine.Adapters
import CatalogBench.Engine.Trino
import CatalogBench.Flink.Acceptance
import CatalogBench.Flink.Render
import CatalogBench.Library.Decimal
import CatalogBench.Library.SqlLexer

/-!
# The tokens of the rendered statements

Both renderers put texts together from templates. What a lexer of SQL makes of their `CREATE TABLE`
and `INSERT` statements is the template with the names, the rows and the properties of the plan as
tokens, so that no text of the plan can end a literal.
-/

set_option linter.all false

namespace CatalogBench.Flink.SqlTokens
open CatalogBench.Engine Interaction SqlLexer

-- ════════════════════════════════
-- Templates
-- ════════════════════════════════

/-- Which of the two engines reads a statement. -/
inductive Dialect
  | trino
  | flink
  deriving DecidableEq

namespace Dialect

/-- The character that delimits identifiers. -/
def quote : Dialect → Char
  | .trino => Char.ofNat 34
  | .flink => Char.ofNat 96

def type : Dialect → IcebergPrimitiveType → String
  | .trino => renderType
  | .flink => FlinkRenderedProgram.renderType

end Dialect

def qualified (names : List String) : List Token :=
  separated '.' (names.map fun name => [.name name])

def enclosed (tokens : List Token) : List Token := .symbol '(' :: (tokens ++ [Token.symbol ')'])

/-- `INSERT INTO table (columns) VALUES rows`. -/
def insertTokens (table columns : List String) (rows : List (List Token)) : List Token :=
  [Token.word "INSERT", .word "INTO"] ++ qualified table ++
    enclosed (commaSeparated (columns.map fun column => [.name column])) ++ [Token.word "VALUES"] ++
    commaSeparated (rows.map fun row => enclosed (commaSeparated (row.map fun value => [value])))

def fieldTokens (dialect : Dialect) (field : IcebergField) : List Token :=
  [Token.name field.name, .word (dialect.type field.fieldType)] ++
    if field.required then [.word "NOT", .word "NULL"] else []

/-- `CREATE TABLE table (fields) WITH (properties)`. -/
def createTokens (dialect : Dialect) (table : List String) (fields : List IcebergField)
    (properties : List (List Token)) : List Token :=
  [Token.word "CREATE", .word "TABLE"] ++ qualified table ++
    enclosed (commaSeparated (fields.map (fieldTokens dialect))) ++ [Token.word "WITH"] ++
    enclosed (commaSeparated properties)

/-- `ARRAY[values]`. -/
def arrayTokens (values : List String) : List Token :=
  [Token.word "ARRAY", .symbol '['] ++ commaSeparated (values.map fun value => [.literal value]) ++
    [Token.symbol ']']

/-- The properties of the renderer, and those of the plan as a map. -/
def trinoProperties (plan : TrinoExecutionPlan) : List (List Token) :=
  let properties := plan.scenario.table.properties.toList
  [[Token.word "format", .symbol '=', .literal "PARQUET"],
    [.word "format_version", .symbol '=', .number (toString plan.scenario.table.formatVersion)]] ++
  (match plan.fixture.requestedLocation with
    | some location => [[Token.word "location", .symbol '=', .literal location]]
    | none => []) ++
  if properties = [] then []
  else [[Token.word "extra_properties", .symbol '=', .word "MAP"] ++
    enclosed (commaSeparated
      [arrayTokens (properties.map Prod.fst), arrayTokens (properties.map Prod.snd)])]

def flinkProperties (plan : FlinkExecutionPlan) : List (List Token) :=
  (FlinkRenderedProgram.tableProperties plan).toList.map fun (key, value) =>
    [.literal key, .symbol '=', .literal value]

/-- A generated row, as the values that it has. -/
def generatedRow (scenario : EngineScenarioParameters) (evolved : Bool) (id : ℕ) : List Token :=
  let .affine multiplier offset := scenario.rowGenerator.amountCents
  let .moduloLabel modulus label := scenario.rowGenerator.category
  let .idLabel note := scenario.rowGenerator.note
  [Token.number (toString id), .literal (label ++ toString (id % modulus)),
    .number (toString (multiplier * id + offset))] ++
    if evolved then [Token.literal (note ++ toString id)] else []

def generatedRows (scenario : EngineScenarioParameters) (evolved : Bool) : List (List Token) :=
  (FlinkRenderedProgram.batchIds scenario evolved).map (generatedRow scenario evolved)

-- ════════════════════════════════
-- Parts of a template
-- ════════════════════════════════

section Parts

variable {dialect : Dialect}

theorem literal_toList (value : String) :
    (Engine.literal value).toList =
      singleQuote :: (SqlLexer.escape value.toList ++ [singleQuote]) := by
  simp only [Engine.literal, String.toList_append, String.toList_ofList]
  rfl

theorem reads_literal (dialect : Dialect) (value : String) :
    Reads dialect.quote (Engine.literal value).toList [.literal value] := by
  have hreads := @SqlLexer.reads_literal dialect.quote value.toList
  rwa [String.ofList_toList, ← literal_toList] at hreads

theorem reads_toString (dialect : Dialect) (n : ℕ) :
    Reads dialect.quote (toString n).toList [.number (toString n)] := by
  have hne : (toString n).toList ≠ [] := by
    rw [Decimal.toList_toString]
    exact Nat.toDigits_ne_nil
  have hquote : dialect.quote.isDigit = false := by cases dialect <;> decide
  have hreads := SqlLexer.reads_number hquote hne fun c hc => Decimal.isDigit_of_mem_toString hc
  rwa [String.ofList_toList] at hreads

/-- An identifier in the quotes of the engine. -/
def Dialect.delimited (dialect : Dialect) (name : String) : String :=
  String.singleton dialect.quote ++ name ++ String.singleton dialect.quote

theorem quote_notMem {name : String} (h : validIdentifier name = true) :
    dialect.quote ∉ name.toList := by
  intro hmem
  simp only [validIdentifier, Bool.and_eq_true, List.all_eq_true] at h
  have hquote := h.2 _ hmem
  revert hquote
  cases dialect <;> decide

theorem reads_delimited (dialect : Dialect) {name : String} (h : validIdentifier name = true) :
    Reads dialect.quote (dialect.delimited name).toList [.name name] := by
  have hblank : isBlank dialect.quote = false := by cases dialect <;> decide
  have hsingle : dialect.quote ≠ singleQuote := by cases dialect <;> decide
  have hreads := SqlLexer.reads_name hblank hsingle (quote_notMem h)
  rw [String.ofList_toList] at hreads
  simpa [Dialect.delimited, String.toList_append] using hreads

theorem reads_join {parts : List String} {tokens : List (List Token)}
    (h : List.Forall₂ (fun part tokens => Reads dialect.quote part.toList tokens) parts tokens) :
    Reads dialect.quote (join parts).toList (commaSeparated tokens) := by
  have hjoin : (join parts).toList = separator.intercalate (parts.map String.toList) :=
    String.toList_intercalate
  have hcomma : isDelimiter dialect.quote ',' = true := by cases dialect <;> decide
  rw [hjoin]
  exact SqlLexer.reads_join hcomma (List.forall₂_map_left_iff.mpr h)

/-- The same parts, read one by one. -/
theorem reads_join_map {α : Type} {text : α → String} {tokens : α → List Token} {parts : List α}
    (h : ∀ part ∈ parts, Reads dialect.quote (text part).toList (tokens part)) :
    Reads dialect.quote (join (parts.map text)).toList (commaSeparated (parts.map tokens)) := by
  refine reads_join ?_
  rw [List.forall₂_map_left_iff, List.forall₂_map_right_iff, List.forall₂_same]
  exact h

theorem reads_type (dialect : Dialect) (type : IcebergPrimitiveType) :
    Reads dialect.quote (dialect.type type).toList [.word (dialect.type type)] := by
  cases dialect <;> cases type <;> exact ⟨_, .word, rfl⟩

theorem reads_notNull (dialect : Dialect) (required : Bool) :
    Reads dialect.quote (if required then " NOT NULL" else "").toList
      (if required then [.word "NOT", .word "NULL"] else []) := by
  cases dialect <;> cases required
  · exact ⟨[], .blank, rfl⟩
  · exact ⟨_, .word, rfl⟩
  · exact ⟨[], .blank, rfl⟩
  · exact ⟨_, .word, rfl⟩

/-- A part, and a fixed text after it that ends its last token. -/
theorem reads_append {a b : String} {ts us : List Token} (ha : Reads dialect.quote a.toList ts)
    (hb : Reads dialect.quote b.toList us) (hdelimits : Delimits dialect.quote b.toList) :
    Reads dialect.quote (a ++ b).toList (ts ++ us) := by
  rw [String.toList_append]
  exact ha.append hb hdelimits

theorem reads_close {a b : String} {ts us : List Token} (ha : Reads dialect.quote a.toList ts)
    (hb : Closed dialect.quote b.toList us) (hne : b.toList ≠ [])
    (hdelimits : Delimits dialect.quote b.toList) :
    Closed dialect.quote (a ++ b).toList (ts ++ us) := by
  rw [String.toList_append]
  exact ha.close hb hne hdelimits

theorem closed_append {a b : String} {ts us : List Token} (ha : Closed dialect.quote a.toList ts)
    (hb : Reads dialect.quote b.toList us) : Reads dialect.quote (a ++ b).toList (ts ++ us) := by
  rw [String.toList_append]
  exact ha.append_reads hb

def Dialect.fieldText (dialect : Dialect) (field : IcebergField) : String :=
  dialect.delimited field.name ++ " " ++ dialect.type field.fieldType ++
    (if field.required then " NOT NULL" else "")

theorem reads_field (dialect : Dialect) {field : IcebergField}
    (h : validIdentifier field.name = true) :
    Reads dialect.quote (dialect.fieldText field).toList (fieldTokens dialect field) := by
  have hblank : Closed dialect.quote " ".toList [] := by cases dialect <;> decide
  have hname := reads_close (reads_delimited dialect h) hblank (by decide)
    (by cases dialect <;> decide)
  have htype := closed_append hname (reads_type dialect field.fieldType)
  refine reads_append htype (reads_notNull dialect field.required) ?_
  cases dialect <;> cases field.required <;> decide

theorem closed_delimited_dot (dialect : Dialect) {name : String} (h : validIdentifier name = true) :
    Closed dialect.quote (dialect.delimited name ++ ".").toList [.name name, .symbol '.'] := by
  have hblank : isBlank dialect.quote = false := by cases dialect <;> decide
  have hsingle : dialect.quote ≠ singleQuote := by cases dialect <;> decide
  have hdot : dialect.quote ≠ '.' := by cases dialect <;> decide
  have hclosed := SqlLexer.closed_name_dot hblank hsingle hdot (quote_notMem h)
  rw [String.ofList_toList] at hclosed
  simpa [Dialect.delimited, String.toList_append] using hclosed

theorem qualified_pair («namespace» table : String) :
    qualified [«namespace», table] = [.name «namespace», .symbol '.', .name table] :=
  rfl

theorem qualified_triple (catalog «namespace» table : String) :
    qualified [catalog, «namespace», table] =
      [.name catalog, .symbol '.', .name «namespace», .symbol '.', .name table] :=
  rfl

/-- A table below a namespace. -/
theorem reads_qualified {«namespace» table : String}
    (hnamespace : validIdentifier «namespace» = true) (htable : validIdentifier table = true) :
    Reads dialect.quote (dialect.delimited «namespace» ++ "." ++ dialect.delimited table).toList
      (qualified [«namespace», table]) := by
  rw [qualified_pair]
  exact closed_append (closed_delimited_dot dialect hnamespace) (reads_delimited dialect htable)

/-- A table below a namespace of a catalog. -/
theorem reads_qualified_catalog {catalog «namespace» table : String}
    (hcatalog : validIdentifier catalog = true) (hnamespace : validIdentifier «namespace» = true)
    (htable : validIdentifier table = true) :
    Reads dialect.quote (dialect.delimited catalog ++ "." ++ dialect.delimited «namespace» ++ "." ++
      dialect.delimited table).toList (qualified [catalog, «namespace», table]) := by
  have hrest := closed_append (closed_delimited_dot dialect hcatalog)
    (closed_append (closed_delimited_dot dialect hnamespace) (reads_delimited dialect htable))
  rw [qualified_triple]
  simpa only [String.append_assoc, List.cons_append, List.nil_append] using hrest

-- ════════════════════════════════
-- Statements
-- ════════════════════════════════

/-- A row of values in parentheses. -/
theorem closed_enclosed {text : String} {tokens : List Token}
    (h : Reads dialect.quote text.toList tokens) :
    Closed dialect.quote ("(" ++ text ++ ")").toList (enclosed tokens) := by
  have hopen : Closed dialect.quote "(".toList [.symbol '('] := by cases dialect <;> decide
  have hclose : Closed dialect.quote ")".toList [.symbol ')'] := by cases dialect <;> decide
  exact reads_close (closed_append hopen h) hclose (by decide) (by cases dialect <;> decide)

/-- What was generated for a row is the row. -/
theorem reads_row (dialect : Dialect) (scenario : EngineScenarioParameters) (evolved : Bool)
    (id : ℕ) :
    Reads dialect.quote (FlinkRenderedProgram.rowText scenario evolved id).toList
      (enclosed (commaSeparated
        ((generatedRow scenario evolved id).map fun value => [value]))) := by
  refine (closed_enclosed (reads_join ?_)).reads
  rw [FlinkRenderedProgram.rowValues, generatedRow]
  cases evolved
  · exact .cons (reads_toString _ _) (.cons (reads_literal _ _) (.cons (reads_toString _ _) .nil))
  · exact .cons (reads_toString _ _) (.cons (reads_literal _ _) (.cons (reads_toString _ _)
      (.cons (reads_literal _ _) .nil)))

theorem lex_insert {table : String} {names columns : List String}
    (htable : Reads dialect.quote table.toList (qualified names))
    (hcolumns : ∀ column ∈ columns, validIdentifier column = true)
    (scenario : EngineScenarioParameters) (evolved : Bool) :
    lex dialect.quote (renderInsert table (columns.map dialect.delimited)
      ((FlinkRenderedProgram.batchIds scenario evolved).map
        (FlinkRenderedProgram.rowText scenario evolved))) =
      some (insertTokens names columns (generatedRows scenario evolved)) := by
  have hinsert : Closed dialect.quote "INSERT INTO ".toList [.word "INSERT", .word "INTO"] := by
    cases dialect <;> decide
  have hopen : Closed dialect.quote " (".toList [.symbol '('] := by cases dialect <;> decide
  have hvalues : Closed dialect.quote ") VALUES ".toList [.symbol ')', .word "VALUES"] := by
    cases dialect <;> decide
  have hnames := reads_join_map fun column hcolumn =>
    reads_delimited dialect (hcolumns column hcolumn)
  have hrows := reads_join_map fun id
    (_ : id ∈ FlinkRenderedProgram.batchIds scenario evolved) =>
      reads_row dialect scenario evolved id
  have hfront := reads_close (closed_append hinsert htable) hopen (by decide)
    (by cases dialect <;> decide)
  have hmiddle := reads_close (closed_append hfront hnames) hvalues (by decide)
    (by cases dialect <;> decide)
  have hall := (closed_append hmiddle hrows).lex
  rw [renderInsert_eq, hall, insertTokens, generatedRows, enclosed, List.map_map]
  simp only [List.append_assoc, List.cons_append, List.nil_append]
  rfl

theorem lex_create {table : String} {names : List String} {fields : List IcebergField}
    {properties : List String} {tokens : List (List Token)}
    (htable : Reads dialect.quote table.toList (qualified names))
    (hfields : ∀ field ∈ fields, validIdentifier field.name = true)
    (hproperties : List.Forall₂ (fun part tokens => Reads dialect.quote part.toList tokens)
      properties tokens) :
    lex dialect.quote ("CREATE TABLE " ++ table ++ " (" ++ join (fields.map dialect.fieldText) ++
      ") WITH (" ++ join properties ++ ")") = some (createTokens dialect names fields tokens) := by
  have hcreate : Closed dialect.quote "CREATE TABLE ".toList [.word "CREATE", .word "TABLE"] := by
    cases dialect <;> decide
  have hopen : Closed dialect.quote " (".toList [.symbol '('] := by cases dialect <;> decide
  have hwith : Closed dialect.quote ") WITH (".toList
      [.symbol ')', .word "WITH", .symbol '('] := by
    cases dialect <;> decide
  have hclose : Closed dialect.quote ")".toList [.symbol ')'] := by cases dialect <;> decide
  have hschema := reads_join_map fun field hfield =>
    reads_field dialect (hfields field hfield)
  have hfront := reads_close (closed_append hcreate htable) hopen (by decide)
    (by cases dialect <;> decide)
  have hmiddle := reads_close (closed_append hfront hschema) hwith (by decide)
    (by cases dialect <;> decide)
  have hall := (reads_close (closed_append hmiddle (reads_join hproperties)) hclose (by decide)
    (by cases dialect <;> decide)).reads.lex
  rw [hall, createTokens, enclosed, enclosed]
  simp only [List.append_assoc, List.cons_append, List.nil_append]

end Parts

-- ════════════════════════════════
-- Properties
-- ════════════════════════════════

theorem values_eq (properties : StringMap String) :
    properties.values = properties.toList.map Prod.snd := by
  have hfold : properties.values = properties.foldr (fun _ value values => value :: values) [] := by
    obtain ⟨⟨properties⟩⟩ := properties
    induction properties using Quotient.inductionOn
    rfl
  rw [hfold, Std.ExtTreeMap.foldr_eq_foldr_toList, List.map_eq_foldr]

theorem reads_flinkProperties (plan : FlinkExecutionPlan) :
    List.Forall₂ (fun part tokens => Reads Dialect.flink.quote part.toList tokens)
      ((FlinkRenderedProgram.tableProperties plan).toList.map FlinkRenderedProgram.renderProperty)
      (flinkProperties plan) := by
  have hequals : Closed Dialect.flink.quote "=".toList [.symbol '='] := by decide
  rw [flinkProperties, List.forall₂_map_left_iff, List.forall₂_map_right_iff, List.forall₂_same]
  rintro ⟨key, value⟩ -
  have hkey := reads_close (reads_literal .flink key) hequals (by decide) (by decide)
  exact closed_append hkey (reads_literal .flink value)

/-- Literals between commas. -/
theorem reads_literals (values : List String) :
    Reads Dialect.trino.quote (join (values.map Engine.literal)).toList
      (commaSeparated (values.map fun value => [.literal value])) :=
  reads_join_map fun value _ => reads_literal .trino value

theorem reads_trinoProperties (plan : TrinoExecutionPlan) :
    List.Forall₂ (fun part tokens => Reads Dialect.trino.quote part.toList tokens)
      (TrinoRenderedProgram.tableProperties plan) (trinoProperties plan) := by
  have hformat : Reads Dialect.trino.quote "format = 'PARQUET'".toList
      [.word "format", .symbol '=', .literal "PARQUET"] := ⟨_, .literal, rfl⟩
  have hversion : Closed Dialect.trino.quote "format_version = ".toList
      [.word "format_version", .symbol '='] := by decide
  have hlocation : Closed Dialect.trino.quote "location = ".toList
      [.word "location", .symbol '='] := by decide
  have hextra : Closed Dialect.trino.quote "extra_properties = MAP(ARRAY[".toList
      [.word "extra_properties", .symbol '=', .word "MAP", .symbol '(', .word "ARRAY",
        .symbol '['] := by decide
  have hmiddle : Closed Dialect.trino.quote "], ARRAY[".toList
      [.symbol ']', .symbol ',', .word "ARRAY", .symbol '['] := by decide
  have hend : Closed Dialect.trino.quote "])".toList [.symbol ']', .symbol ')'] := by decide
  rw [TrinoRenderedProgram.tableProperties, trinoProperties]
  refine List.rel_append (List.rel_append ?_ ?_) ?_
  · exact .cons hformat (.cons (closed_append hversion (reads_toString .trino _)) .nil)
  · cases plan.fixture.requestedLocation with
    | none => exact .nil
    | some location => exact .cons (closed_append hlocation (reads_literal .trino location)) .nil
  · by_cases hempty : plan.scenario.table.properties.toList = []
    · have hisEmpty : plan.scenario.table.properties.isEmpty = true := by
        rw [← Std.ExtTreeMap.isEmpty_toList, hempty]
        rfl
      rw [if_pos hisEmpty, if_pos hempty]
      exact .nil
    · have hisEmpty : ¬plan.scenario.table.properties.isEmpty = true := by
        rw [← Std.ExtTreeMap.isEmpty_toList]
        exact fun h => hempty (List.isEmpty_iff.mp h)
      rw [if_neg hisEmpty, if_neg hempty, ← Std.ExtTreeMap.map_fst_toList_eq_keys, values_eq]
      have hkeys := reads_close (closed_append hextra (reads_literals
        (plan.scenario.table.properties.toList.map Prod.fst))) hmiddle (by decide) (by decide)
      have hall := reads_close (closed_append hkeys (reads_literals
        (plan.scenario.table.properties.toList.map Prod.snd))) hend (by decide) (by decide)
      refine .cons ?_ .nil
      rw [commaSeparated, separated_pair, enclosed, arrayTokens, arrayTokens]
      simp only [List.append_assoc, List.cons_append, List.nil_append] at hall ⊢
      exact hall.reads

-- ════════════════════════════════
-- The rendered programs
-- ════════════════════════════════

/-- The statements that create the table and fill it. -/
def trinoWrites (program : TrinoRenderedProgram) : List TrinoOperation :=
  program.operations.filter fun
    | .createTable _ | .initialAppend _ | .evolvedAppend _ => true
    | _ => false

def flinkWrites (program : FlinkRenderedProgram) : List FlinkOperation :=
  program.operations.filter fun
    | .createTable _ | .initialAppend _ | .evolvedAppend _ => true
    | _ => false

def trinoTable (plan : TrinoExecutionPlan) : List String :=
  [plan.catalog.name, plan.fixture.namespace, plan.fixture.table]

def flinkTable (plan : FlinkExecutionPlan) : List String :=
  [plan.fixture.namespace, plan.fixture.table]

def initialColumns (scenario : EngineScenarioParameters) : List String :=
  scenario.table.schema.fields.map IcebergField.name

def evolvedColumns (scenario : EngineScenarioParameters) : List String :=
  initialColumns scenario ++ [scenario.schemaEvolution.field.name]

theorem initialColumns_valid {scenario : EngineScenarioParameters}
    (h : ∀ field ∈ scenario.table.schema.fields, validIdentifier field.name = true) :
    ∀ column ∈ initialColumns scenario, validIdentifier column = true := by
  intro column hcolumn
  obtain ⟨field, hfield, rfl⟩ := List.mem_map.mp hcolumn
  exact h field hfield

theorem evolvedColumns_valid {scenario : EngineScenarioParameters}
    (h : ∀ field ∈ scenario.table.schema.fields, validIdentifier field.name = true)
    (hevolved : validIdentifier scenario.schemaEvolution.field.name = true) :
    ∀ column ∈ evolvedColumns scenario, validIdentifier column = true := by
  intro column hcolumn
  rcases List.mem_append.mp hcolumn with hcolumn | hcolumn
  · exact initialColumns_valid h column hcolumn
  · rwa [List.mem_singleton.mp hcolumn]

theorem identifier_ok {value out : String} (h : TrinoRenderedProgram.identifier value = .ok out) :
    validIdentifier value = true ∧ out = Dialect.trino.delimited value :=
  except_ite_eq_ok h

theorem renderField_ok {field : IcebergField} {out : String}
    (h : renderField TrinoRenderedProgram.identifier field = .ok out) :
    validIdentifier field.name = true ∧ out = Dialect.trino.fieldText field := by
  obtain ⟨name, hname, h⟩ := except_bind_eq_ok.mp h
  obtain ⟨hvalid, rfl⟩ := identifier_ok hname
  obtain rfl := Except.ok.inj h
  exact ⟨hvalid, rfl⟩

theorem trino_writes {crates : Crates} {plan : TrinoExecutionPlan} {program : TrinoRenderedProgram}
    (h : TrinoRenderedProgram.render crates plan = .ok program) :
    ∃ create initial evolved,
      trinoWrites program = [.createTable create, .initialAppend initial, .evolvedAppend evolved] ∧
      lex Dialect.trino.quote create = some (createTokens .trino (trinoTable plan)
        plan.scenario.table.schema.fields (trinoProperties plan)) ∧
      lex Dialect.trino.quote initial = some (insertTokens (trinoTable plan)
        (initialColumns plan.scenario) (generatedRows plan.scenario false)) ∧
      lex Dialect.trino.quote evolved = some (insertTokens (trinoTable plan)
        (evolvedColumns plan.scenario) (generatedRows plan.scenario true)) := by
  obtain ⟨_, -, h⟩ := except_bind_eq_ok.mp h
  obtain ⟨«namespace», hnamespace, h⟩ := except_bind_eq_ok.mp h
  obtain ⟨table, htable, h⟩ := except_bind_eq_ok.mp h
  obtain ⟨catalog, hcatalog, h⟩ := except_bind_eq_ok.mp h
  obtain ⟨schema, hschema, h⟩ := except_bind_eq_ok.mp h
  obtain ⟨columns, hcolumns, h⟩ := except_bind_eq_ok.mp h
  obtain ⟨evolvedColumn, hevolved, h⟩ := except_bind_eq_ok.mp h
  obtain ⟨initialValues, hinitial, h⟩ := except_bind_eq_ok.mp h
  obtain ⟨evolvedValues, hevolvedValues, h⟩ := except_bind_eq_ok.mp h
  obtain ⟨_, -, h⟩ := except_bind_eq_ok.mp h
  obtain ⟨_, -, h⟩ := except_bind_eq_ok.mp h
  obtain rfl := Except.ok.inj h
  obtain ⟨hnamespaceValid, rfl⟩ := identifier_ok hnamespace
  obtain ⟨htableValid, rfl⟩ := identifier_ok htable
  obtain ⟨hcatalogValid, rfl⟩ := identifier_ok hcatalog
  obtain ⟨hfields, rfl⟩ := except_mapM_eq_ok (fun _ _ => renderField_ok) hschema
  obtain ⟨-, rfl⟩ := except_mapM_eq_ok (fun _ _ => identifier_ok) hcolumns
  obtain ⟨hevolvedValid, rfl⟩ := identifier_ok hevolved
  obtain rfl := FlinkRenderedProgram.renderRows_ok (except_mapError_eq_ok.mp hinitial)
  obtain rfl := FlinkRenderedProgram.renderRows_ok (except_mapError_eq_ok.mp hevolvedValues)
  have hqualified := @reads_qualified_catalog .trino _ _ _ hcatalogValid hnamespaceValid htableValid
  have hinitialColumns := initialColumns_valid hfields
  refine ⟨_, _, _, rfl, lex_create hqualified hfields (reads_trinoProperties plan), ?_, ?_⟩
  · have hlex := lex_insert hqualified hinitialColumns plan.scenario false
    rwa [initialColumns, List.map_map] at hlex
  · have hlex := lex_insert hqualified (evolvedColumns_valid hfields hevolvedValid) plan.scenario
      true
    rwa [evolvedColumns, List.map_append, initialColumns, List.map_map] at hlex

theorem flink_writes {crates : Crates} {plan : FlinkExecutionPlan} {program : FlinkRenderedProgram}
    (h : FlinkRenderedProgram.render crates plan = .ok program) :
    ∃ create initial evolved,
      flinkWrites program = [.createTable create, .initialAppend initial, .evolvedAppend evolved] ∧
      lex Dialect.flink.quote create = some (createTokens .flink (flinkTable plan)
        plan.scenario.table.schema.fields (flinkProperties plan)) ∧
      lex Dialect.flink.quote initial = some (insertTokens (flinkTable plan)
        (initialColumns plan.scenario) (generatedRows plan.scenario false)) ∧
      lex Dialect.flink.quote evolved = some (insertTokens (flinkTable plan)
        (evolvedColumns plan.scenario) (generatedRows plan.scenario true)) := by
  obtain ⟨operations, hoperations, h⟩ := except_bind_eq_ok.mp h
  obtain rfl := Except.ok.inj h
  obtain ⟨-, hnames, rfl⟩ := FlinkRenderedProgram.renderSql_ok hoperations
  have hqualified := @reads_qualified .flink _ _ hnames.namespace hnames.table
  have hfields : ∀ field ∈ plan.scenario.table.schema.fields, validIdentifier field.name = true :=
    fun field hfield => hnames.fields _ (List.mem_map_of_mem hfield)
  refine ⟨_, _, _, rfl, lex_create hqualified hfields (reads_flinkProperties plan), ?_, ?_⟩
  · exact lex_insert hqualified hnames.fields plan.scenario false
  · exact lex_insert hqualified (evolvedColumns_valid hfields hnames.evolved) plan.scenario true

-- ════════════════════════════════
-- What the statements denote
-- ════════════════════════════════

/-- A text is one statement with these tokens. -/
structure IsStatement (dialect : Dialect) (sql : String) (tokens : List Token) : Prop where
  lexed : lex dialect.quote sql = some tokens
  single : statements tokens = [tokens]

/-- An `INSERT` whose values are the rows. -/
structure IsInsert (dialect : Dialect) (sql : String) (table columns : List String)
    (rows : List (List Token)) : Prop where
  statement : IsStatement dialect sql (insertTokens table columns rows)
  values : values (insertTokens table columns rows) = rows.flatten

/-- A `CREATE TABLE` whose values are those of the properties. -/
structure IsCreate (dialect : Dialect) (sql : String) (table : List String)
    (fields : List IcebergField) (properties : List (List Token)) : Prop where
  statement : IsStatement dialect sql (createTokens dialect table fields properties)
  values : values (createTokens dialect table fields properties) =
    properties.flatMap SqlLexer.values

theorem values_enclosed (tokens : List Token) : values (enclosed tokens) = values tokens := by
  rw [enclosed, ← List.singleton_append, values_append, values_append]
  exact List.append_nil _

theorem values_qualified (names : List String) : values (qualified names) = [] := by
  rw [qualified, values_separated, List.flatMap_map]
  exact List.flatMap_eq_nil_iff.mpr fun name _ => rfl

/-- Tokens without a semicolon. -/
def IsPlain (tokens : List Token) : Prop := Token.symbol ';' ∉ tokens

section Plain

variable {a b : List Token}

theorem IsPlain.append (ha : IsPlain a) (hb : IsPlain b) : IsPlain (a ++ b) := fun h =>
  (List.mem_append.mp h).elim ha hb

theorem IsPlain.enclosed (ha : IsPlain a) : IsPlain (enclosed a) := by
  intro h
  simp only [SqlTokens.enclosed, List.mem_cons, List.mem_append, Token.symbol.injEq,
    List.not_mem_nil, or_false] at h
  rcases h with h | h | h
  · exact absurd h (by decide)
  · exact ha h
  · exact absurd h (by decide)

theorem isPlain_separated {c : Char} (hc : c ≠ ';') {parts : List (List Token)}
    (h : ∀ part ∈ parts, IsPlain part) : IsPlain (separated c parts) := by
  intro hmem
  rcases mem_separated hmem with heq | ⟨part, hpart, hmem⟩
  · exact hc (Token.symbol.inj heq).symm
  · exact h part hpart hmem

theorem isPlain_commaSeparated {parts : List (List Token)} (h : ∀ part ∈ parts, IsPlain part) :
    IsPlain (commaSeparated parts) :=
  isPlain_separated (by decide) h

theorem isPlain_qualified (names : List String) : IsPlain (qualified names) := by
  refine isPlain_separated (by decide) fun part hpart => ?_
  obtain ⟨name, -, rfl⟩ := List.mem_map.mp hpart
  simp [IsPlain]

end Plain

theorem generatedRow_isPlain (scenario : EngineScenarioParameters) (evolved : Bool) (id : ℕ) :
    IsPlain (generatedRow scenario evolved id) := by
  cases evolved <;> simp [IsPlain, generatedRow]

theorem values_generatedRow (scenario : EngineScenarioParameters) (evolved : Bool) (id : ℕ) :
    values (generatedRow scenario evolved id) = generatedRow scenario evolved id := by
  cases evolved <;> rfl

theorem insertTokens_isPlain (table columns : List String) (scenario : EngineScenarioParameters)
    (evolved : Bool) : IsPlain (insertTokens table columns (generatedRows scenario evolved)) := by
  refine .append (.append (.append (.append (by simp [IsPlain]) (isPlain_qualified table))
    (.enclosed (isPlain_commaSeparated ?_))) (by simp [IsPlain])) (isPlain_commaSeparated ?_)
  · intro part hpart
    obtain ⟨column, -, rfl⟩ := List.mem_map.mp hpart
    simp [IsPlain]
  · intro part hpart
    obtain ⟨row, hrow, rfl⟩ := List.mem_map.mp hpart
    obtain ⟨id, -, rfl⟩ := List.mem_map.mp hrow
    refine .enclosed (isPlain_commaSeparated fun value hvalue => ?_)
    obtain ⟨token, htoken, rfl⟩ := List.mem_map.mp hvalue
    intro hmem
    rw [← List.mem_singleton.mp hmem] at htoken
    exact generatedRow_isPlain scenario evolved id htoken

theorem createTokens_isPlain {dialect : Dialect} (table : List String) (fields : List IcebergField)
    {properties : List (List Token)} (h : ∀ property ∈ properties, IsPlain property) :
    IsPlain (createTokens dialect table fields properties) := by
  refine .append (.append (.append (.append (by simp [IsPlain]) (isPlain_qualified table))
    (.enclosed (isPlain_commaSeparated ?_))) (by simp [IsPlain]))
    (.enclosed (isPlain_commaSeparated h))
  intro part hpart
  obtain ⟨field, -, rfl⟩ := List.mem_map.mp hpart
  rw [fieldTokens]
  cases field.required <;> simp [IsPlain]

theorem arrayTokens_isPlain (values : List String) : IsPlain (arrayTokens values) := by
  refine .append (.append (by simp [IsPlain]) (isPlain_commaSeparated fun part hpart => ?_))
    (by simp [IsPlain])
  obtain ⟨value, -, rfl⟩ := List.mem_map.mp hpart
  simp [IsPlain]

theorem trinoProperties_isPlain (plan : TrinoExecutionPlan) :
    ∀ property ∈ trinoProperties plan, IsPlain property := by
  intro property hproperty
  rcases List.mem_append.mp hproperty with hproperty | hproperty
  · rcases List.mem_append.mp hproperty with hproperty | hproperty
    · simp only [List.mem_cons, List.not_mem_nil, or_false] at hproperty
      rcases hproperty with rfl | rfl <;> simp [IsPlain]
    · cases hlocation : plan.fixture.requestedLocation with
      | none =>
        rw [hlocation] at hproperty
        exact absurd hproperty List.not_mem_nil
      | some location =>
        rw [hlocation] at hproperty
        rw [List.mem_singleton.mp hproperty]
        simp [IsPlain]
  · split at hproperty
    · exact absurd hproperty List.not_mem_nil
    · rw [List.mem_singleton.mp hproperty]
      refine .append (by simp [IsPlain]) (.enclosed (isPlain_commaSeparated fun part hpart => ?_))
      simp only [List.mem_cons, List.not_mem_nil, or_false] at hpart
      rcases hpart with rfl | rfl <;> exact arrayTokens_isPlain _

theorem flinkProperties_isPlain (plan : FlinkExecutionPlan) :
    ∀ property ∈ flinkProperties plan, IsPlain property := by
  intro property hproperty
  obtain ⟨⟨key, value⟩, -, rfl⟩ := List.mem_map.mp hproperty
  simp [IsPlain]

theorem values_insertTokens (table columns : List String) (scenario : EngineScenarioParameters)
    (evolved : Bool) : values (insertTokens table columns (generatedRows scenario evolved)) =
      (generatedRows scenario evolved).flatten := by
  have hcolumns : (columns.map fun column => [Token.name column]).flatMap values = [] := by
    rw [List.flatMap_map]
    exact List.flatMap_eq_nil_iff.mpr fun column _ => rfl
  rw [insertTokens, values_append, values_append, values_append, values_append, values_qualified,
    values_enclosed, commaSeparated, commaSeparated, values_separated, hcolumns, values_separated,
    List.flatMap_map, generatedRows, List.flatMap_map, ← List.flatMap_def]
  refine List.flatMap_congr fun id _ => ?_
  rw [values_enclosed, commaSeparated, values_separated, ← values_flatten, ← List.flatMap_def,
    List.flatMap_singleton', values_generatedRow]

theorem values_createTokens {dialect : Dialect} (table : List String) (fields : List IcebergField)
    (properties : List (List Token)) :
    values (createTokens dialect table fields properties) = properties.flatMap values := by
  have hfields : (fields.map (fieldTokens dialect)).flatMap values = [] := by
    rw [List.flatMap_map]
    refine List.flatMap_eq_nil_iff.mpr fun field _ => ?_
    rw [fieldTokens]
    cases field.required <;> rfl
  rw [createTokens, values_append, values_append, values_append, values_append, values_qualified,
    values_enclosed, values_enclosed, commaSeparated, commaSeparated, values_separated, hfields,
    values_separated]
  rfl

theorem isInsert {dialect : Dialect} {sql : String} {table columns : List String}
    {scenario : EngineScenarioParameters} {evolved : Bool}
    (h : lex dialect.quote sql =
      some (insertTokens table columns (generatedRows scenario evolved))) :
    IsInsert dialect sql table columns (generatedRows scenario evolved) :=
  ⟨⟨h, statements_eq_singleton (insertTokens_isPlain table columns scenario evolved)⟩,
    values_insertTokens table columns scenario evolved⟩

theorem isCreate {dialect : Dialect} {sql : String} {table : List String}
    {fields : List IcebergField} {properties : List (List Token)}
    (hplain : ∀ property ∈ properties, IsPlain property)
    (h : lex dialect.quote sql = some (createTokens dialect table fields properties)) :
    IsCreate dialect sql table fields properties :=
  ⟨⟨h, statements_eq_singleton (createTokens_isPlain table fields hplain)⟩,
    values_createTokens table fields properties⟩

/-- The entries that the Flink renderer puts over the properties of the plan. -/
def flinkEntries (plan : FlinkExecutionPlan) : List (String × String) :=
  (match plan.fixture.requestedLocation with
    | some location => [("location", location)]
    | none => []) ++
  [("write.format.default", "parquet"),
    ("format-version", toString plan.scenario.table.formatVersion)]

theorem getElem?_insert_or (properties : StringMap String) (entry : String × String)
    (entries : List (String × String)) (key : String)
    {rest : Option String} (h : properties[key]? = (entries.lookup key).or rest) :
    (properties.insert entry.1 entry.2)[key]? = ((entry :: entries).lookup key).or rest := by
  rw [Std.ExtTreeMap.getElem?_insert, List.lookup_cons]
  by_cases hkey : entry.1 = key
  · rw [if_pos (Std.compare_eq_iff_eq.mpr hkey), hkey, beq_self_eq_true]
    rfl
  · rw [if_neg fun heq => hkey (Std.compare_eq_iff_eq.mp heq), beq_false_of_ne (Ne.symm hkey), h]

theorem tableProperties_getElem? (plan : FlinkExecutionPlan) (key : String) :
    (FlinkRenderedProgram.tableProperties plan)[key]? =
      ((flinkEntries plan).lookup key).or plan.scenario.table.properties[key]? := by
  have hversion := @getElem?_insert_or plan.scenario.table.properties
    ("format-version", toString plan.scenario.table.formatVersion) [] key
    plan.scenario.table.properties[key]? rfl
  have hformat := getElem?_insert_or _ ("write.format.default", "parquet") _ key hversion
  rw [FlinkRenderedProgram.tableProperties, flinkEntries]
  cases plan.fixture.requestedLocation with
  | none => exact hformat
  | some location => exact getElem?_insert_or _ ("location", location) _ key hformat

/-- The writes of both engines are single statements: the template of the engine, with the rows that
are generated and with the properties of the plan as literals. -/
theorem rendered_writes_denote (crates : Crates) :
    (∀ plan program, TrinoRenderedProgram.render crates plan = .ok program →
      ∃ create initial evolved,
        trinoWrites program =
          [.createTable create, .initialAppend initial, .evolvedAppend evolved] ∧
        IsCreate .trino create (trinoTable plan) plan.scenario.table.schema.fields
          (trinoProperties plan) ∧
        IsInsert .trino initial (trinoTable plan) (initialColumns plan.scenario)
          (generatedRows plan.scenario false) ∧
        IsInsert .trino evolved (trinoTable plan) (evolvedColumns plan.scenario)
          (generatedRows plan.scenario true)) ∧
    ∀ plan program, FlinkRenderedProgram.render crates plan = .ok program →
      ∃ create initial evolved,
        flinkWrites program =
          [.createTable create, .initialAppend initial, .evolvedAppend evolved] ∧
        IsCreate .flink create (flinkTable plan) plan.scenario.table.schema.fields
          (flinkProperties plan) ∧
        (∀ key : String, (FlinkRenderedProgram.tableProperties plan)[key]? =
          ((flinkEntries plan).lookup key).or plan.scenario.table.properties[key]?) ∧
        IsInsert .flink initial (flinkTable plan) (initialColumns plan.scenario)
          (generatedRows plan.scenario false) ∧
        IsInsert .flink evolved (flinkTable plan) (evolvedColumns plan.scenario)
          (generatedRows plan.scenario true) := by
  constructor
  · intro plan program h
    obtain ⟨create, initial, evolved, hwrites, hcreate, hinitial, hevolved⟩ := trino_writes h
    exact ⟨create, initial, evolved, hwrites, isCreate (trinoProperties_isPlain plan) hcreate,
      isInsert hinitial, isInsert hevolved⟩
  · intro plan program h
    obtain ⟨create, initial, evolved, hwrites, hcreate, hinitial, hevolved⟩ := flink_writes h
    exact ⟨create, initial, evolved, hwrites, isCreate (flinkProperties_isPlain plan) hcreate,
      tableProperties_getElem? plan, isInsert hinitial, isInsert hevolved⟩

theorem rendered_writes_denote_sample :
    (∃ sql, IsInsert .trino sql (trinoTable sampleTrinoPlan)
      (evolvedColumns sampleTrinoPlan.scenario) (generatedRows sampleTrinoPlan.scenario true)) ∧
    ∃ sql, IsInsert .flink sql (flinkTable (sampleFlinkPlan "bench" (some "s3://bench/interop")))
      (evolvedColumns (sampleFlinkPlan "bench" (some "s3://bench/interop")).scenario)
      (generatedRows (sampleFlinkPlan "bench" (some "s3://bench/interop")).scenario true) := by
  obtain ⟨htrino, hflink⟩ := rendered_writes_denote sampleCrates
  constructor
  · obtain ⟨-, -, evolved, -, -, -, hevolved⟩ := htrino _ _ render_sampleTrinoPlan
    exact ⟨evolved, hevolved⟩
  · have hok : (FlinkRenderedProgram.render sampleCrates
        (sampleFlinkPlan "bench" (some "s3://bench/interop"))).isOk = true := by
      decide +kernel
    cases hrender : FlinkRenderedProgram.render sampleCrates
        (sampleFlinkPlan "bench" (some "s3://bench/interop")) with
    | error e =>
      rw [hrender] at hok
      cases hok
    | ok program =>
      obtain ⟨-, -, evolved, -, -, -, -, hevolved⟩ := hflink _ _ hrender
      exact ⟨evolved, hevolved⟩

end CatalogBench.Flink.SqlTokens
