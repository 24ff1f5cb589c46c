import CatalogBench.Engine.Sql

/-!
# Reading the generated SQL

What a server makes of the texts the renderers produce: which namespace or table a statement
creates and which rows of the information schema a query counts. Every reader takes what it
reads from the front of its input and undoes the corresponding writer.
-/

set_option linter.all false

namespace CatalogBench.Engine.SqlText

def singleQuote : Char := Char.ofNat 39
def doubleQuote : Char := Char.ofNat 34

-- ════════════════════════════════
-- Words, identifiers and literals
-- ════════════════════════════════

/-- Read a fixed word. -/
def expect (word : String) (input : List Char) : Option (List Char) :=
  if word.toList.isPrefixOf input then some (input.drop word.toList.length) else none

@[simp] theorem expect_append (word : String) (rest : List Char) :
    expect word (word.toList ++ rest) = some rest := by
  have hstarts : word.toList.isPrefixOf (word.toList ++ rest) = true :=
    List.isPrefixOf_iff_prefix.mpr (List.prefix_append _ _)
  rw [expect, if_pos hstarts, List.drop_left]

/-- Read an identifier in double quotes. -/
def readIdentifier : List Char → Option (String × List Char)
  | [] => none
  | c :: rest =>
    if c = doubleQuote then
      match rest.dropWhile (· ≠ doubleQuote) with
      | _ :: after => some (String.ofList (rest.takeWhile (· ≠ doubleQuote)), after)
      | [] => none
    else none

theorem readIdentifier_quoted {value : String} (h : doubleQuote ∉ value.toList)
    (rest : List Char) :
    readIdentifier ((quoted value).toList ++ rest) = some (value, rest) := by
  have hall : ∀ c ∈ value.toList, (fun c => decide (c ≠ doubleQuote)) c = true := by
    intro c hc
    simpa using fun heq : c = doubleQuote => h (heq ▸ hc)
  have hinput : (quoted value).toList ++ rest =
      doubleQuote :: (value.toList ++ doubleQuote :: rest) := by
    simp [quoted, String.toList_append]
    rfl
  rw [hinput, readIdentifier, if_pos rfl, List.dropWhile_append_of_pos hall,
    List.takeWhile_append_of_pos hall]
  simp

theorem doubleQuote_not_mem {value : String} (h : validIdentifier value = true) :
    doubleQuote ∉ value.toList := by
  intro hmem
  simp only [validIdentifier, Bool.and_eq_true, List.all_eq_true] at h
  have := h.2 _ hmem
  revert this
  decide

/-- Read a literal after its opening quote; a doubled quote stands for one. -/
def readLiteralBody : List Char → Option (List Char × List Char)
  | [] => none
  | [c] => if c = singleQuote then some ([], []) else none
  | c :: d :: rest =>
    if c = singleQuote then
      if d = singleQuote then (readLiteralBody rest).map fun (cs, r) => (singleQuote :: cs, r)
      else some ([], d :: rest)
    else (readLiteralBody (d :: rest)).map fun (cs, r) => (c :: cs, r)

theorem readLiteralBody_cons {c : Char} (hc : c ≠ singleQuote) {input : List Char}
    (hne : input ≠ []) :
    readLiteralBody (c :: input) = (readLiteralBody input).map fun (cs, r) => (c :: cs, r) := by
  obtain ⟨d, rest, rfl⟩ := List.exists_cons_of_ne_nil hne
  rw [readLiteralBody, if_neg hc]

theorem readLiteralBody_escaped (cs : List Char) {rest : List Char}
    (h : rest.head? ≠ some singleQuote) :
    readLiteralBody ((cs.flatMap fun c => if c = singleQuote then [singleQuote, singleQuote]
      else [c]) ++ singleQuote :: rest) = some (cs, rest) := by
  induction cs with
  | nil =>
    cases rest with
    | nil => rfl
    | cons d rest =>
      have hd : d ≠ singleQuote := by simpa using h
      simp [readLiteralBody, hd]
  | cons c cs ih =>
    by_cases hc : c = singleQuote
    · subst hc
      simp [readLiteralBody, ih]
    · simp only [List.flatMap_cons, if_neg hc, List.cons_append, List.nil_append]
      rw [readLiteralBody_cons hc (by simp), ih]
      rfl

/-- Read a literal in single quotes. -/
def readLiteral : List Char → Option (String × List Char)
  | [] => none
  | c :: rest =>
    if c = singleQuote then (readLiteralBody rest).map fun (cs, r) => (String.ofList cs, r)
    else none

theorem readLiteral_literal (value : String) {rest : List Char}
    (h : rest.head? ≠ some singleQuote) :
    readLiteral ((literal value).toList ++ rest) = some (value, rest) := by
  have hinput : (literal value).toList ++ rest = singleQuote ::
      ((value.toList.flatMap fun c => if c = singleQuote then [singleQuote, singleQuote] else [c]) ++
        singleQuote :: rest) := by
    simp [literal, String.toList_append]
    exact ⟨rfl, rfl⟩
  rw [hinput, readLiteral, if_pos rfl, readLiteralBody_escaped _ h]
  simp

-- ════════════════════════════════
-- Statements
-- ════════════════════════════════

/-- What a statement does to the namespaces and tables of the attached catalog. -/
inductive Statement
  | createSchema («namespace» : String)
  | createTable («namespace» table : String)
  | data
  deriving DecidableEq

/-- A namespace of the attached catalog. -/
def readQualified (attached : String) (input : List Char) : Option (String × List Char) := do
  let (catalog, rest) ← readIdentifier input
  let rest ← expect "." rest
  let («namespace», rest) ← readIdentifier rest
  if catalog = attached then some («namespace», rest) else none

def readStatement (attached sql : String) : Option Statement :=
  match expect "CREATE SCHEMA IF NOT EXISTS " sql.toList with
  | some rest => do
    let («namespace», rest) ← readQualified attached rest
    if rest = [] then some (.createSchema «namespace») else none
  | none =>
    match expect "CREATE TABLE " sql.toList with
    | some rest => do
      let («namespace», rest) ← readQualified attached rest
      let rest ← expect "." rest
      let (table, rest) ← readIdentifier rest
      let _ ← expect " (" rest
      return .createTable «namespace» table
    | none =>
      if startsWith sql "INSERT INTO " || startsWith sql "ALTER TABLE " then some .data else none

section Statements

variable {attached «namespace» table : String}

theorem readQualified_quoted (ha : validIdentifier attached = true)
    (hn : validIdentifier «namespace» = true) (rest : List Char) :
    readQualified attached
      ((quoted attached ++ "." ++ quoted «namespace»).toList ++ rest) =
      some («namespace», rest) := by
  simp only [readQualified, String.toList_append, List.append_assoc,
    readIdentifier_quoted (doubleQuote_not_mem ha), readIdentifier_quoted (doubleQuote_not_mem hn),
    expect_append, Option.bind_eq_bind, Option.bind_some, if_true]

theorem readStatement_createSchema (ha : validIdentifier attached = true)
    (hn : validIdentifier «namespace» = true) :
    readStatement attached
      ("CREATE SCHEMA IF NOT EXISTS " ++ (quoted attached ++ "." ++ quoted «namespace»)) =
      some (.createSchema «namespace») := by
  have hread := readQualified_quoted ha hn []
  rw [List.append_nil] at hread
  rw [readStatement, String.toList_append, expect_append]
  simp only [hread, Option.bind_eq_bind, Option.bind_some, if_true]

theorem readStatement_createTable (ha : validIdentifier attached = true)
    (hn : validIdentifier «namespace» = true) (ht : validIdentifier table = true)
    (columns : String) :
    readStatement attached ("CREATE TABLE " ++ (quoted attached ++ "." ++ quoted «namespace» ++
      "." ++ quoted table) ++ " (" ++ columns) = some (.createTable «namespace» table) := by
  have hinput : ("CREATE TABLE " ++ (quoted attached ++ "." ++ quoted «namespace» ++ "." ++
      quoted table) ++ " (" ++ columns).toList = "CREATE TABLE ".toList ++
      ((quoted attached ++ "." ++ quoted «namespace»).toList ++
        (".".toList ++ ((quoted table).toList ++ (" (".toList ++ columns.toList)))) := by
    simp only [String.toList_append, List.append_assoc]
  have hother : ∀ rest : List Char,
      expect "CREATE SCHEMA IF NOT EXISTS " ("CREATE TABLE ".toList ++ rest) = none :=
    fun _ => rfl
  rw [readStatement, hinput, hother, expect_append]
  simp only [readQualified_quoted ha hn, expect_append,
    readIdentifier_quoted (doubleQuote_not_mem ht), Option.bind_eq_bind, Option.bind_some,
    Option.pure_def]

theorem readStatement_insert (rest : String) :
    readStatement attached ("INSERT INTO " ++ rest) = some .data := by
  have hdata : startsWith ("INSERT INTO " ++ rest) "INSERT INTO " = true := by
    rw [startsWith, String.toList_append]
    exact List.isPrefixOf_iff_prefix.mpr (List.prefix_append _ _)
  have hschema : expect "CREATE SCHEMA IF NOT EXISTS " ("INSERT INTO ".toList ++ rest.toList) =
      none := rfl
  have htable : expect "CREATE TABLE " ("INSERT INTO ".toList ++ rest.toList) = none := rfl
  rw [readStatement, String.toList_append, hschema, htable, hdata]
  rfl

theorem readStatement_alter (rest : String) :
    readStatement attached ("ALTER TABLE " ++ rest) = some .data := by
  have hdata : startsWith ("ALTER TABLE " ++ rest) "ALTER TABLE " = true := by
    rw [startsWith, String.toList_append]
    exact List.isPrefixOf_iff_prefix.mpr (List.prefix_append _ _)
  have hschema : expect "CREATE SCHEMA IF NOT EXISTS " ("ALTER TABLE ".toList ++ rest.toList) =
      none := rfl
  have htable : expect "CREATE TABLE " ("ALTER TABLE ".toList ++ rest.toList) = none := rfl
  rw [readStatement, String.toList_append, hschema, htable, hdata, Bool.or_true]
  rfl

end Statements

/-- A query for the number of matching rows of the information schema. -/
inductive CountQuery
  | tables (catalog : Option String) («namespace» table : String)
  | schemata (catalog : Option String) («namespace» : String)
  deriving DecidableEq

/-- A condition `column = literal`. -/
def readClause (column : String) (input : List Char) : Option (String × List Char) := do
  let rest ← expect (column ++ " = ") input
  readLiteral rest

def readTableClauses (catalog : Option String) (input : List Char) : Option CountQuery := do
  let («namespace», rest) ← readClause "table_schema" input
  let rest ← expect " AND " rest
  let (table, rest) ← readClause "table_name" rest
  if rest = [] then some (.tables catalog «namespace» table) else none

def readSchemaClause (catalog : Option String) (input : List Char) : Option CountQuery := do
  let («namespace», rest) ← readClause "schema_name" input
  if rest = [] then some (.schemata catalog «namespace») else none

/-- An optional condition on the catalog, then the rest. -/
def readCatalogClause (column : String) (next : Option String → List Char → Option CountQuery)
    (input : List Char) : Option CountQuery :=
  match readClause column input with
  | some (catalog, rest) => do
    let rest ← expect " AND " rest
    next (some catalog) rest
  | none => next none input

def readCount (sql : String) : Option CountQuery :=
  match expect "SELECT count(*) AS matches FROM information_schema.tables WHERE " sql.toList with
  | some rest => readCatalogClause "table_catalog" readTableClauses rest
  | none => do
    let rest ← expect "SELECT count(*) AS matches FROM information_schema.schemata WHERE "
      sql.toList
    readCatalogClause "catalog_name" readSchemaClause rest

theorem readClause_literal (column value : String) {rest : List Char}
    (h : rest.head? ≠ some singleQuote) :
    readClause column ((column ++ " = ").toList ++ ((literal value).toList ++ rest)) =
      some (value, rest) := by
  simp only [readClause, expect_append, readLiteral_literal value h, Option.bind_eq_bind,
    Option.bind_some]

theorem head?_and_append (rest : List Char) :
    (" AND ".toList ++ rest).head? ≠ some singleQuote := by
  change some ' ' ≠ some singleQuote
  decide

theorem readTableClauses_literal (catalog : Option String) («namespace» table : String) :
    readTableClauses catalog (("table_schema" ++ " = ").toList ++ ((literal «namespace»).toList ++
      (" AND ".toList ++ (("table_name" ++ " = ").toList ++ ((literal table).toList ++ []))))) =
      some (.tables catalog «namespace» table) := by
  rw [readTableClauses, readClause_literal _ _ (head?_and_append _)]
  simp only [Option.bind_eq_bind, Option.bind_some, expect_append]
  rw [readClause_literal _ _ (by decide)]
  simp only [Option.bind_some, if_true]

theorem readCatalogClause_literal (column value : String)
    (next : Option String → List Char → Option CountQuery) (rest : List Char) :
    readCatalogClause column next ((column ++ " = ").toList ++ ((literal value).toList ++
      (" AND ".toList ++ rest))) = next (some value) rest := by
  rw [readCatalogClause, readClause_literal _ _ (head?_and_append _)]
  simp only [expect_append, Option.bind_eq_bind, Option.bind_some]

theorem readCount_tables (clauses : String) :
    readCount ("SELECT count(*) AS matches FROM information_schema.tables WHERE " ++ clauses) =
      readCatalogClause "table_catalog" readTableClauses clauses.toList := by
  rw [readCount, String.toList_append, expect_append]

section Counts

variable (catalog «namespace» table : String)

theorem readCount_tables_literal :
    readCount ("SELECT count(*) AS matches FROM information_schema.tables WHERE " ++
      ("table_schema = " ++ literal «namespace» ++ " AND table_name = " ++ literal table)) =
      some (.tables none «namespace» table) := by
  have hclauses : ("table_schema = " ++ literal «namespace» ++ " AND table_name = " ++
      literal table).toList = ("table_schema" ++ " = ").toList ++ ((literal «namespace»).toList ++
      (" AND ".toList ++ (("table_name" ++ " = ").toList ++ ((literal table).toList ++ [])))) := by
    simp [String.toList_append]
  have hcatalog : ∀ rest : List Char,
      readClause "table_catalog" (("table_schema" ++ " = ").toList ++ rest) = none := fun _ => rfl
  rw [readCount_tables, hclauses, readCatalogClause, hcatalog]
  exact readTableClauses_literal none «namespace» table

theorem readCount_tables_catalog :
    readCount ("SELECT count(*) AS matches FROM information_schema.tables WHERE " ++
      ("table_catalog = " ++ literal catalog ++ " AND table_schema = " ++ literal «namespace» ++
        " AND table_name = " ++ literal table)) =
      some (.tables (some catalog) «namespace» table) := by
  have hclauses : ("table_catalog = " ++ literal catalog ++ " AND table_schema = " ++
      literal «namespace» ++ " AND table_name = " ++ literal table).toList =
      ("table_catalog" ++ " = ").toList ++ ((literal catalog).toList ++ (" AND ".toList ++
      (("table_schema" ++ " = ").toList ++ ((literal «namespace»).toList ++ (" AND ".toList ++
        (("table_name" ++ " = ").toList ++ ((literal table).toList ++ []))))))) := by
    simp [String.toList_append]
  rw [readCount_tables, hclauses, readCatalogClause_literal]
  exact readTableClauses_literal _ «namespace» table

end Counts

end CatalogBench.Engine.SqlText
