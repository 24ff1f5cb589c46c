import CatalogBench.Engine.SparkRunner
import CatalogBench.Engine.StageProtocol
import CatalogBench.Engine.TrinoRead
import CatalogBench.Flink.CanonicalRead
import CatalogBench.Flink.Render
import CatalogBench.Library.Decimal
import Mathlib.Algebra.Order.BigOperators.Group.List
import Mathlib.Algebra.Order.Group.Nat

/-!
# The identity of a read in the four engines

The Trino, DuckDB, Flink and Spark runners each compute the identity of a read: over the lines of
a command, over the objects of a query, row by row in Java, and over lists in Python. They report
the same for the same rows.
-/

set_option linter.all false

namespace CatalogBench.Flink
open CatalogBench.Engine Interaction Interaction.Prog

-- ════════════════════════════════
-- Rows
-- ════════════════════════════════

/-- A value of a row. -/
inductive ReadValue
  | null
  | long (n : ℤ)
  | string (text : String)
  deriving DecidableEq

/-- A 64-bit integer, or a text without control characters. -/
def ReadValue.Plain : ReadValue → Prop
  | .null => True
  | .long n => -2 ^ 63 ≤ n ∧ n < 2 ^ 63
  | .string text => ControlFree text

instance : DecidablePred ReadValue.Plain
  | .null => isTrue trivial
  | .long _ => inferInstanceAs (Decidable (_ ∧ _))
  | .string text => inferInstanceAs (Decidable (ControlFree text))

def ReadValue.toJson : ReadValue → Json
  | .null => .null
  | .long n => .number (if 0 ≤ n then .posInt n.toNat else .negInt n)
  | .string text => .string text

def ReadValue.toJava : ReadValue → JavaValue
  | .null => .null
  | .long n => .long n
  | .string text => .string text

def decimal (n : ℤ) : List Char :=
  if 0 ≤ n then (toString n.natAbs).toList else '-' :: (toString n.natAbs).toList

def escaped (c : Char) : List Char := if c = '"' ∨ c = '\\' then ['\\', c] else [c]

def ReadValue.compact : ReadValue → List Char
  | .null => "null".toList
  | .long n => decimal n
  | .string text => '"' :: (text.toList.flatMap escaped ++ ['"'])

/-- The compact JSON array of a row, in which only quotes and backslashes are escaped. -/
def compactRow (row : List ReadValue) : String :=
  String.ofList ('[' :: ([','].intercalate (row.map ReadValue.compact) ++ [']']))

def canonicalLines (rows : List (List ReadValue)) : List (List UInt8) :=
  rows.map fun row => utf8 (compactRow row)

/-- The canonical form of rows. -/
def canonicalBytes (rows : List (List ReadValue)) : List UInt8 :=
  Lines.terminated lineFeed (canonicalLines rows)

/-- The identity of rows. -/
def readIdentity (crates : Crates) (rows : List (List ReadValue)) : RowReadObservation :=
  ⟨rows.length, (canonicalBytes rows).length, crates.sha256Hex (canonicalBytes rows)⟩

/-- The JSON libraries of the three languages write plain rows compactly. -/
structure WriteCompactRows (crates : Crates) (mapper : List JavaValue → Option (List UInt8))
    (dumps : List ReadValue → String) : Prop where
  rust : ∀ row : List ReadValue, (∀ value ∈ row, value.Plain) →
    crates.writeJson (row.map ReadValue.toJson) = .ok (utf8 (compactRow row))
  java : ∀ row : List ReadValue, (∀ value ∈ row, value.Plain) →
    mapper (row.map ReadValue.toJava) = some (utf8 (compactRow row))
  python : ∀ row : List ReadValue, (∀ value ∈ row, value.Plain) → dumps row = compactRow row

/-- The object of a row, whose fields may come in any order. -/
def IsRowObject (columns : List String) (row : List ReadValue) (object : Json) : Prop :=
  ∃ fields, object = .object fields ∧ fields.Perm (columns.zip (row.map ReadValue.toJson))

/-- The rows as lines of JSON objects. -/
def JsonLines (reader : MetadataReader) (columns : List String) (rows : List (List ReadValue))
    (output : List UInt8) : Prop :=
  ∃ lines, output = Lines.terminated lineFeed lines ∧
    (∀ line ∈ lines, line ≠ [] ∧ lineFeed ∉ line) ∧
    List.Forall₂ (fun line row => ∃ object, reader.parseJson line = some object ∧
      IsRowObject columns row object) lines rows

/-- The process of DuckDB answers its query with objects. -/
def answerObjects (objects : List Json) : Unit → (c : DuckDbCall) → c.Reply × Unit
  | _, .cli _ _ => (.ok objects, ())
  | _, .loadTable => (.ok (.absent 404 0), ())
  | _, .tableObservation => (.error (), ())

-- ════════════════════════════════
-- The text of a row
-- ════════════════════════════════

theorem lineFeed_notMem_decimal (n : ℤ) : '\n' ∉ decimal n := by
  have hdigits : '\n' ∉ (toString n.natAbs).toList := fun h =>
    absurd (Decimal.isDigit_of_mem_toString h) (by decide)
  unfold decimal
  split
  · exact hdigits
  · intro h
    rcases List.mem_cons.mp h with heq | hmem
    · exact absurd heq (by decide)
    · exact hdigits hmem

theorem lineFeed_notMem_compact {value : ReadValue} (h : value.Plain) : '\n' ∉ value.compact := by
  cases value with
  | null => decide
  | long n => exact lineFeed_notMem_decimal n
  | string text =>
    intro hmem
    rcases List.mem_cons.mp hmem with heq | hmem
    · exact absurd heq (by decide)
    rcases List.mem_append.mp hmem with hescaped | hquote
    · obtain ⟨c, hc, hin⟩ := List.mem_flatMap.mp hescaped
      have hcontrol := h c hc
      unfold escaped at hin
      split at hin
      · rcases List.mem_pair.mp hin with heq | rfl
        · exact absurd heq (by decide)
        · exact absurd hcontrol (by decide)
      · obtain rfl := List.mem_singleton.mp hin
        exact absurd hcontrol (by decide)
    · exact absurd (List.mem_singleton.mp hquote) (by decide)

theorem notMem_intercalate {α : Type} {sep a : α} (hsep : a ≠ sep) {lists : List (List α)}
    (h : ∀ list ∈ lists, a ∉ list) : a ∉ [sep].intercalate lists := by
  induction lists with
  | nil => exact List.not_mem_nil
  | cons list lists ih =>
    rw [List.forall_mem_cons] at h
    by_cases hnil : lists = []
    · rw [hnil, List.intercalate_singleton]
      exact h.1
    · rw [List.intercalate_cons_of_ne_nil hnil]
      intro hmem
      rcases List.mem_append.mp hmem with hmem | hrest
      · rcases List.mem_append.mp hmem with hlist | heq
        · exact h.1 hlist
        · exact hsep (List.mem_singleton.mp heq)
      · exact ih h.2 hrest

theorem sublist_intercalate {α : Type} {sep : α} {lists : List (List α)} {list : List α}
    (h : list ∈ lists) : list.Sublist ([sep].intercalate lists) := by
  induction lists with
  | nil => cases h
  | cons first lists ih =>
    by_cases hnil : lists = []
    · subst hnil
      rw [List.intercalate_singleton, List.mem_singleton.mp h]
    · rw [List.intercalate_cons_of_ne_nil hnil]
      rcases List.mem_cons.mp h with rfl | hrest
      · exact ((List.sublist_append_left list [sep]).trans (List.sublist_append_left _ _))
      · exact (ih hrest).trans (List.sublist_append_right _ _)

/-- A byte of a line feed comes from a line feed. -/
theorem lineFeed_notMem_utf8 {text : String} (h : '\n' ∉ text.toList) : lineFeed ∉ utf8 text := by
  rw [utf8_eq_flatMap]
  intro hmem
  obtain ⟨c, hc, hbyte⟩ := List.mem_flatMap.mp hmem
  have hencode := Utf8.encode_of_ascii_mem (by decide) hbyte
  have hnewline : String.utf8EncodeChar '\n' = [lineFeed] := by decide
  rw [Utf8.encode_injective (hencode.trans hnewline.symm)] at hc
  exact h hc

theorem lineFeed_notMem_compactRow {row : List ReadValue} (h : ∀ value ∈ row, value.Plain) :
    lineFeed ∉ utf8 (compactRow row) := by
  apply lineFeed_notMem_utf8
  have hvalues : '\n' ∉ [','].intercalate (row.map ReadValue.compact) := by
    refine notMem_intercalate (by decide) fun list hlist => ?_
    obtain ⟨value, hvalue, rfl⟩ := List.mem_map.mp hlist
    exact lineFeed_notMem_compact (h value hvalue)
  rw [compactRow, String.toList_ofList]
  intro hmem
  rcases List.mem_cons.mp hmem with heq | hmem
  · exact absurd heq (by decide)
  rcases List.mem_append.mp hmem with hvalue | hclose
  · exact hvalues hvalue
  · exact absurd (List.mem_singleton.mp hclose) (by decide)

-- ════════════════════════════════
-- Lengths
-- ════════════════════════════════

theorem length_utf8 (text : String) :
    (utf8 text).length = (text.toList.map Char.utf8Size).sum := by
  rw [utf8_eq_flatMap, List.length_flatMap]
  exact congrArg List.sum (List.map_congr_left fun c _ => String.length_utf8EncodeChar c)

/-- A text has no more UTF-16 units than bytes. -/
theorem javaLength_le (text : String) : javaLength text ≤ (utf8 text).length := by
  rw [length_utf8, javaLength]
  refine List.sum_le_sum fun c _ => ?_
  split
  · exact c.utf8Size_pos
  · next hlarge =>
    have hone : c.utf8Size ≠ 1 := by
      rw [Ne, Char.utf8Size_eq_one_iff, UInt32.le_iff_toNat_le]
      simp only [UInt32.reduceToNat]
      omega
    have hpos := c.utf8Size_pos
    omega

theorem length_utf8_le_of_sublist {a b : String} (h : a.toList.Sublist b.toList) :
    (utf8 a).length ≤ (utf8 b).length := by
  rw [length_utf8, length_utf8]
  exact (h.map Char.utf8Size).sum_le_sum fun _ _ => Nat.zero_le _

theorem sublist_flatMap_escaped (chars : List Char) : chars.Sublist (chars.flatMap escaped) := by
  induction chars with
  | nil => exact List.nil_sublist _
  | cons c chars ih =>
    rw [List.flatMap_cons]
    unfold escaped
    split
    · exact (List.Sublist.cons _ (ih.cons_cons c))
    · exact ih.cons_cons c

/-- A text is no longer than the row it is in. -/
theorem javaLength_le_compactRow {row : List ReadValue} {text : String}
    (h : .string text ∈ row) : javaLength text ≤ (utf8 (compactRow row)).length := by
  refine (javaLength_le text).trans (length_utf8_le_of_sublist ?_)
  rw [compactRow, String.toList_ofList]
  have hvalue : text.toList.Sublist (ReadValue.compact (.string text)) :=
    ((sublist_flatMap_escaped _).trans (List.sublist_append_left _ _)).cons _
  have hrow := @sublist_intercalate Char ',' _ _ (List.mem_map_of_mem (f := ReadValue.compact) h)
  exact ((hvalue.trans hrow).trans (List.sublist_append_left _ _)).cons _

-- ════════════════════════════════
-- The objects of rows
-- ════════════════════════════════

section Objects

variable {columns : List String} (hcolumns : columns.Nodup) {row : List ReadValue}
  (hlength : row.length = columns.length)

include hcolumns hlength

/-- The fields of a row give each column its value. -/
theorem lookup_forall₂ {fields : List (String × Json)}
    (h : fields.Perm (columns.zip (row.map ReadValue.toJson))) :
    List.Forall₂ (fun column value => fields.lookup column = some value) columns
      (row.map ReadValue.toJson) := by
  have hkeys : (fields.map (·.1)).Perm columns := by
    have hmap := h.map Prod.fst
    rwa [List.map_fst_zip (by simp [hlength])] at hmap
  refine List.forall₂_iff_zip.mpr ⟨by simp [hlength], fun hmem => ?_⟩
  exact (ListRel.lookup_eq_some_iff (hkeys.nodup_iff.mpr hcolumns)).mpr (h.mem_iff.mpr hmem)

theorem rowValues_eq {fields : List (String × Json)}
    (h : fields.Perm (columns.zip (row.map ReadValue.toJson))) :
    rowValues columns fields = row.map ReadValue.toJson :=
  (ListRel.forall₂_filterMap_eq (g := id) (lookup_forall₂ hcolumns hlength h)
    fun _ _ => id).trans (List.map_id _)

/-- The line of an object of a row is a row of the columns. -/
theorem rowLine_of_object {reader : MetadataReader} {line : List UInt8} (hne : line ≠ [])
    {fields : List (String × Json)} (hparsed : reader.parseJson line = some (.object fields))
    (h : fields.Perm (columns.zip (row.map ReadValue.toJson))) :
    RowLine reader columns line fields := by
  have hkeys : (fields.map (·.1)).Perm columns := by
    have hmap := h.map Prod.fst
    rwa [List.map_fst_zip (by simp [hlength])] at hmap
  have hvalues : ∀ field ∈ fields, ∃ value : ReadValue, field.2 = value.toJson := by
    intro field hfield
    obtain ⟨value, -, heq⟩ := List.mem_map.mp (List.of_mem_zip (h.mem_iff.mp hfield)).2
    exact ⟨value, heq.symm⟩
  have hscalar : ∀ value : ReadValue,
      isNested value.toJson = false ∧ value.toJson.hasDuplicateKey = false := by
    intro value
    cases value <;> exact ⟨rfl, rfl⟩
  refine ⟨hne, hparsed, ?_, ?_, fun column => hkeys.mem_iff⟩
  · refine Json.hasDuplicateKey_object.mpr ⟨hkeys.nodup_iff.mpr hcolumns, fun field hfield => ?_⟩
    obtain ⟨value, heq⟩ := hvalues field hfield
    rw [heq]
    exact (hscalar value).2
  · intro field hfield
    obtain ⟨value, heq⟩ := hvalues field hfield
    rw [heq]
    exact (hscalar value).1

end Objects

-- ════════════════════════════════
-- The four engines
-- ════════════════════════════════

/-- Plain rows that have a value for each column. -/
def RowsOf (columns : List String) (rows : List (List ReadValue)) : Prop :=
  ∀ row ∈ rows, row.length = columns.length ∧ ∀ value ∈ row, value.Plain

section Engines

variable {crates : Crates} {mapper : List JavaValue → Option (List UInt8)}
  {dumps : List ReadValue → String} (hwrite : WriteCompactRows crates mapper dumps)
  {expected : CanonicalRead} {rows : List (List ReadValue)}
  (hrows : RowsOf expected.columns rows)

include hwrite hrows

/-- The Trino decoder reads the lines of the rows as their identity. -/
theorem trino_identity {reader : MetadataReader} (hcolumns : expected.columns.Nodup)
    (hcount : expected.rows = rows.length)
    (hcanonical : (canonicalBytes rows).length ≤ maximumTrinoCliBytes) {output : List UInt8}
    (houtput : output.length ≤ maximumTrinoCliBytes)
    (h : JsonLines reader expected.columns rows output) :
    decodeTrinoCanonicalRead crates reader expected output = .ok (readIdentity crates rows) := by
  obtain ⟨lines, rfl, hlines, hobjects⟩ := h
  have htexts : TrinoRows crates reader expected lines
      ((canonicalLines rows).map (· ++ [lineFeed])) := by
    rw [canonicalLines, List.map_map]
    clear hcount hcanonical houtput
    induction hobjects with
    | nil => exact .nil
    | @cons line row lines rows hobject _ ih =>
      rw [List.forall_mem_cons] at hlines
      rw [RowsOf, List.forall_mem_cons] at hrows
      obtain ⟨object, hparsed, fields, rfl, hperm⟩ := hobject
      have hline := rowLine_of_object hcolumns hrows.1.1 hlines.1.1 hparsed hperm
      refine .cons ⟨hlines.1.1, hline.canonical ?_⟩ (ih hrows.2 hlines.2)
      rw [rowValues_eq hcolumns hrows.1.1 hperm]
      exact hwrite.rust _ hrows.1.2
  have hflatten : ((canonicalLines rows).map (· ++ [lineFeed])).flatten = canonicalBytes rows :=
    (List.flatMap_def ..).symm
  refine (decodeTrinoCanonicalRead_eq_ok hcolumns).mpr ⟨houtput, lines, _, rfl,
    fun line hline => (hlines line hline).2, ?_, htexts, ?_, ?_⟩
  · rw [hobjects.length_eq, hcount]
  · rw [hflatten]
    exact hcanonical
  · rw [hflatten, hobjects.length_eq, readIdentity]

/-- The canonicalisation of DuckDB writes the objects of the rows as their canonical form. -/
theorem canonicalRows_eq (hcolumns : expected.columns.Nodup) {objects : List Json}
    (h : List.Forall₂ (IsRowObject expected.columns) rows objects) :
    canonicalRows crates expected.columns objects = .ok (canonicalBytes rows) := by
  induction h with
  | nil => rfl
  | @cons row object rows objects hobject _ ih =>
    rw [RowsOf, List.forall_mem_cons] at hrows
    obtain ⟨fields, rfl, hperm⟩ := hobject
    rw [canonicalRows]
    refine except_bind_eq_ok.mpr ⟨row.map ReadValue.toJson, except_mapM_of_forall₂ ?_, ?_⟩
    · refine (lookup_forall₂ hcolumns hrows.1.1 hperm).imp fun column value hlookup => ?_
      rw [Json.get, hlookup]
    refine except_bind_eq_ok.mpr ⟨_, hwrite.rust row hrows.1.2, ?_⟩
    refine except_bind_eq_ok.mpr ⟨_, ih hrows.2, ?_⟩
    rfl

/-- `duckdb_read` computes the identity of the rows, and compares it with the expected one. -/
theorem duckdb_identity (hcolumns : expected.columns.Nodup) (hcount : expected.rows = rows.length)
    (hbytes : expected.bytes = (canonicalBytes rows).length) {effects : DuckDbProductionEffects}
    {setup sql : String} (hsetup : setupSql crates effects = some setup)
    {operation : DuckDbOperation}
    (hoperation : operation = .initialRead sql expected ∨ operation = .evolvedRead sql expected)
    {objects : List Json} (h : List.Forall₂ (IsRowObject expected.columns) rows objects) :
    ((duckdbRead crates effects operation).exec (answerObjects objects) ()).1 =
      if expected.sha256 = (readIdentity crates rows).sha256 then .ok (readIdentity crates rows)
      else .error () := by
  have hbody : duckdbRead crates effects operation =
      duckdbRead crates effects (.initialRead sql expected) := by
    rcases hoperation with rfl | rfl <;> rfl
  have hobjects : objects.length = expected.rows := h.length_eq.symm.trans hcount.symm
  have hquery : (duckdbQuery crates effects sql).exec (answerObjects objects) () =
      (.ok objects, ()) := by
    rw [duckdbQuery, hsetup]
    rfl
  rw [hbody, duckdbRead, exec_bind, hquery]
  simp only [hobjects, ne_eq, not_true_eq_false, if_false,
    canonicalRows_eq hwrite hrows hcolumns h]
  have hidentity : (⟨expected.rows, (canonicalBytes rows).length,
      crates.sha256Hex (canonicalBytes rows)⟩ : RowReadObservation) = readIdentity crates rows := by
    rw [readIdentity, hcount]
  have hsame : readIdentity crates rows = ⟨expected.rows, expected.bytes, expected.sha256⟩ ↔
      expected.sha256 = (readIdentity crates rows).sha256 := by
    rw [hcount, hbytes]
    exact ⟨fun heq => (congrArg RowReadObservation.sha256 heq).symm, fun heq => by rw [heq]; rfl⟩
  rw [hidentity]
  by_cases hsha : expected.sha256 = (readIdentity crates rows).sha256
  · rw [if_pos (hsame.mpr hsha), if_pos hsha]
    rfl
  · rw [if_neg (mt hsame.mp hsha), if_neg hsha]
    rfl

/-- The rows added one by one in Java are the identity of the rows. -/
theorem flink_identity (hcount : expected.rows = rows.length)
    (hbytes : expected.bytes = (canonicalBytes rows).length)
    (hcanonical : (canonicalBytes rows).length ≤ maximumTrinoCliBytes) :
    CanonicalReadState.readRows mapper crates.sha256 (.ofCanonical expected)
        (rows.map fun row => ⟨.insert, row.map ReadValue.toJava⟩) =
      .ok ⟨(readIdentity crates rows).rows, (readIdentity crates rows).bytes,
        (readIdentity crates rows).sha256⟩ := by
  have hwritten : List.Forall₂
      (CanonicalReadState.Writes mapper (ReadOracle.ofCanonical expected).columns.length)
      (rows.map fun row => ⟨.insert, row.map ReadValue.toJava⟩) (canonicalLines rows) := by
    rw [canonicalLines, List.forall₂_map_left_iff, List.forall₂_map_right_iff, List.forall₂_same]
    intro row hrow
    obtain ⟨hlength, hplain⟩ := hrows row hrow
    refine ⟨rfl, (List.length_map _).trans hlength, hwrite.java row hplain, ?_,
      fun text htext => ?_⟩
    · intro hother
      obtain ⟨value, -, heq⟩ := List.mem_map.mp hother
      cases value <;> cases heq
    · obtain ⟨value, hvalue, heq⟩ := List.mem_map.mp htext
      cases value <;> cases heq
      exact javaLength_le_compactRow hvalue
  have hread := @CanonicalReadState.readRows_eq mapper (.ofCanonical expected) _ crates.sha256 _
    hwritten (by simp [ReadOracle.ofCanonical, canonicalLines, hcount])
    (by simp [ReadOracle.ofCanonical, hbytes, canonicalBytes])
    (by simp only [ReadOracle.ofCanonical, hbytes, maximumTrinoCliBytes] at hcanonical ⊢; omega)
  rw [hread]
  simp [readIdentity, canonicalBytes, canonicalLines, Crates.sha256Hex]

/-- The lines dumped in Python are the identity of the rows. -/
theorem spark_identity :
    SparkRunner.canonicalIdentity dumps crates.sha256 rows = readIdentity crates rows := by
  have hpayload : (rows.flatMap fun row => utf8 (dumps row) ++ [lineFeed]) =
      canonicalBytes rows := by
    rw [canonicalBytes, Lines.terminated, canonicalLines, List.flatMap_map]
    exact List.flatMap_congr fun row hrow => by rw [hwrite.python row (hrows row hrow).2]
  have hlines : (canonicalBytes rows).count lineFeed = rows.length := by
    rw [canonicalBytes, canonicalLines]
    clear hpayload
    induction rows with
    | nil => rfl
    | cons row rows ih =>
      rw [RowsOf, List.forall_mem_cons] at hrows
      rw [List.map_cons, Lines.terminated_cons, List.count_append, List.count_append,
        List.count_eq_zero.mpr (lineFeed_notMem_compactRow hrows.1.2), ih hrows.2,
        List.count_singleton_self, List.length_cons]
      omega
  rw [SparkRunner.canonicalIdentity]
  simp only [hpayload, hlines]
  rfl

end Engines

/-- All four engines compute the same identity of the same rows: Trino of their lines, DuckDB of
their objects, Flink row by row and Spark of their lists. -/
theorem read_identities_agree {crates : Crates} {mapper : List JavaValue → Option (List UInt8)}
    {dumps : List ReadValue → String} (hwrite : WriteCompactRows crates mapper dumps)
    {expected : CanonicalRead} {rows : List (List ReadValue)} (hcolumns : expected.columns.Nodup)
    (hrows : RowsOf expected.columns rows) (hcount : expected.rows = rows.length)
    (hbytes : expected.bytes = (canonicalBytes rows).length)
    (hcanonical : (canonicalBytes rows).length ≤ maximumTrinoCliBytes) :
    (∀ (reader : MetadataReader) (output : List UInt8), output.length ≤ maximumTrinoCliBytes →
      JsonLines reader expected.columns rows output →
        decodeTrinoCanonicalRead crates reader expected output =
          .ok (readIdentity crates rows)) ∧
    (∀ objects, List.Forall₂ (IsRowObject expected.columns) rows objects →
      canonicalRead crates expected.columns (.ok objects) = some (readIdentity crates rows) ∧
      ∀ (effects : DuckDbProductionEffects) (setup sql : String) (operation : DuckDbOperation),
        setupSql crates effects = some setup →
        operation = .initialRead sql expected ∨ operation = .evolvedRead sql expected →
          ((duckdbRead crates effects operation).exec (answerObjects objects) ()).1 =
            if expected.sha256 = (readIdentity crates rows).sha256
              then .ok (readIdentity crates rows) else .error ()) ∧
    CanonicalReadState.readRows mapper crates.sha256 (.ofCanonical expected)
        (rows.map fun row => ⟨.insert, row.map ReadValue.toJava⟩) =
      .ok ⟨(readIdentity crates rows).rows, (readIdentity crates rows).bytes,
        (readIdentity crates rows).sha256⟩ ∧
    SparkRunner.canonicalIdentity dumps crates.sha256 rows = readIdentity crates rows := by
  refine ⟨fun reader output houtput hlines => ?_, fun objects hobjects => ⟨?_, ?_⟩, ?_, ?_⟩
  · exact trino_identity hwrite hrows hcolumns hcount hcanonical houtput hlines
  · simp only [canonicalRead, canonicalRows_eq hwrite hrows hcolumns hobjects,
      ← hobjects.length_eq, readIdentity]
  · intro effects setup sql operation hsetup hoperation
    exact duckdb_identity hwrite hrows hcolumns hcount hbytes hsetup hoperation hobjects
  · exact flink_identity hwrite hrows hcount hbytes hcanonical
  · exact spark_identity hwrite hrows

-- ════════════════════════════════
-- A sample read
-- ════════════════════════════════

def ReadValue.ofJson : Json → Option ReadValue
  | .null => some .null
  | .number (.posInt n) => some (.long n)
  | .number (.negInt n) => some (.long n)
  | .string text => some (.string text)
  | _ => none

def ReadValue.ofJava : JavaValue → Option ReadValue
  | .null => some .null
  | .long n => some (.long n)
  | .string text => some (.string text)
  | .other => none

/-- Rust libraries that write rows compactly. -/
def compactCrates : Crates :=
  { sampleCrates with
    writeJson := fun values =>
      match values.mapM ReadValue.ofJson with
      | some row => .ok (utf8 (compactRow row))
      | none => .error () }

def compactMapper (values : List JavaValue) : Option (List UInt8) :=
  (values.mapM ReadValue.ofJava).map fun row => utf8 (compactRow row)

theorem mapM_of_left_inverse {α : Type} {f : ReadValue → α} {g : α → Option ReadValue}
    (h : ∀ value, g (f value) = some value) (row : List ReadValue) :
    (row.map f).mapM g = some row := by
  induction row with
  | nil => rfl
  | cons value row ih =>
    rw [List.map_cons, List.mapM_cons, h, ih]
    rfl

theorem ofJson_toJson (value : ReadValue) : ReadValue.ofJson value.toJson = some value := by
  cases value with
  | null => rfl
  | string text => rfl
  | long n =>
    rw [ReadValue.toJson]
    split
    · next hn => exact congrArg (some ∘ ReadValue.long) (Int.toNat_of_nonneg hn)
    · rfl

theorem compact_writers : WriteCompactRows compactCrates compactMapper compactRow where
  rust row _ := by
    change (match (row.map ReadValue.toJson).mapM ReadValue.ofJson with
      | some row => Except.ok (utf8 (compactRow row))
      | none => .error ()) = _
    rw [mapM_of_left_inverse ofJson_toJson]
  java row _ := by
    rw [compactMapper, mapM_of_left_inverse fun value => by cases value <;> rfl]
    rfl
  python _ _ := rfl

def noteRows : List (List ReadValue) := [[.long 1, .string "\"é"], [.long (-2), .null]]

def noteRead : CanonicalRead := ⟨(canonicalBytes noteRows).length, ["id", "note"], 2, ""⟩

def noteLines : List (List UInt8) :=
  [utf8 "\x7b\"note\":\"\\\"é\",\"id\":1\x7d", utf8 "\x7b\"id\":-2,\"note\":null\x7d"]

/-- A parser of the two lines. -/
def noteReader : MetadataReader where
  gunzip _ _ := none
  parseJson bytes :=
    if some bytes = noteLines[0]? then
      some (.object [("id", .number (.posInt 1)), ("note", .string "\"é")])
    else if some bytes = noteLines[1]? then
      some (.object [("id", .number (.negInt (-2))), ("note", .null)])
    else none

/-- Two rows, in Trino and in Spark. -/
theorem read_identities_agree_notes :
    decodeTrinoCanonicalRead compactCrates noteReader noteRead
        (Lines.terminated lineFeed noteLines) = .ok (readIdentity compactCrates noteRows) ∧
      SparkRunner.canonicalIdentity compactRow compactCrates.sha256 noteRows =
        readIdentity compactCrates noteRows := by
  have hrows : RowsOf noteRead.columns noteRows := by
    unfold RowsOf
    decide
  have hagree := read_identities_agree compact_writers (by decide) hrows rfl rfl (by decide)
  refine ⟨hagree.1 noteReader _ (by decide) ⟨noteLines, rfl, by decide, ?_⟩, hagree.2.2.2⟩
  exact .cons ⟨_, rfl, _, rfl, .refl _⟩ (.cons ⟨_, rfl, _, rfl, .refl _⟩ .nil)

end CatalogBench.Flink
