import CatalogBench.Engine.IcebergMetadata
import CatalogBench.Library.Lines
import CatalogBench.Library.ListRel

/-!
# Reads of the Trino CLI

The CLI writes one JSON object per row and line. The decoder turns its output into the identity of
a read: how many rows there are, and the length and digest of their canonical lines.
-/

set_option linter.all false

namespace CatalogBench.Engine
open Interaction

-- ════════════════════════════════
-- The decoder
-- ════════════════════════════════

def maximumTrinoCliBytes : ℕ := 16 * 1024 * 1024

inductive TrinoCliDecodeError
  | outputTooLarge | missingTrailingLf | malformedRow | duplicateColumn | unexpectedColumns
  | unsupportedValue | tooManyRows | canonicalOutputTooLarge
  deriving DecidableEq

def TrinoCliDecodeError.ofStrict : StrictJsonError → TrinoCliDecodeError
  | .duplicateKey => .duplicateColumn
  | .malformed => .malformedRow

/-- `matches!(value, Value::Array(_) | Value::Object(_))`. -/
def isNested : Json → Bool
  | .array _ | .object _ => true
  | _ => false

/-- An error under a condition. -/
def refuseWhen (violated : Bool) (error : TrinoCliDecodeError) : Except TrinoCliDecodeError Unit :=
  if violated then .error error else .ok ()

@[simp] theorem refuseWhen_eq_ok {violated : Bool} {error : TrinoCliDecodeError} {done : Unit} :
    refuseWhen violated error = .ok done ↔ violated = false := by
  cases violated <;> simp [refuseWhen]

/-- The values of a row in the order of the columns. -/
def rowValues (columns : List String) (fields : List (String × Json)) : List Json :=
  columns.filterMap fun column => fields.lookup column

section Decoder

variable (crates : Crates) (reader : MetadataReader) (expected : CanonicalRead)

/-- The canonical line of one line of the output. -/
def canonicalTrinoRow (line : List UInt8) : Except TrinoCliDecodeError (List UInt8) := do
  let row ← (decodeStrictJson reader line).mapError .ofStrict
  match row with
  | .object fields =>
    refuseWhen (fields.any fun field => isNested field.2) .unsupportedValue
    refuseWhen ((fields.map (·.1)).toFinset ≠ expected.columns.toFinset) .unexpectedColumns
    let text ← (crates.writeJson (rowValues expected.columns fields)).mapError
      fun _ => .malformedRow
    return text ++ [lineFeed]
  | _ => throw .malformedRow

/-- The loop over the lines of an output, with the canonical lines and the number of rows so
far. -/
def decodeTrinoLines (output : List UInt8) :
    List (List UInt8) → List UInt8 → ℕ → Except TrinoCliDecodeError (List UInt8 × ℕ)
  | [], canonical, rows => .ok (canonical, rows)
  | line :: lines, canonical, rows =>
    if line = [] then
      -- the one line of an empty output ends the loop
      if output = [] then .ok (canonical, rows) else .error .malformedRow
    else if expected.rows ≤ rows then .error .tooManyRows
    else do
      let row ← canonicalTrinoRow crates reader expected line
      refuseWhen (maximumTrinoCliBytes < (canonical ++ row).length) .canonicalOutputTooLarge
      decodeTrinoLines output lines (canonical ++ row) (rows + 1)

def decodeTrinoCanonicalRead (output : List UInt8) :
    Except TrinoCliDecodeError RowReadObservation := do
  refuseWhen (maximumTrinoCliBytes < output.length) .outputTooLarge
  refuseWhen (output ≠ [] ∧ output.getLast? ≠ some lineFeed) .missingTrailingLf
  refuseWhen (expected.columns.toFinset.card ≠ expected.columns.length) .unexpectedColumns
  let body := if output.getLast? = some lineFeed then output.dropLast else output
  let (canonical, rows) ←
    decodeTrinoLines crates reader expected output (body.splitOn lineFeed) [] 0
  return { rows, bytes := canonical.length, sha256 := crates.sha256Hex canonical }

end Decoder

-- ════════════════════════════════
-- The grammar
-- ════════════════════════════════

/-- A line is a row: an object of scalars that has the columns, each once. -/
structure RowLine (reader : MetadataReader) (columns : List String) (line : List UInt8)
    (fields : List (String × Json)) : Prop where
  ne_nil : line ≠ []
  parsed : reader.parseJson line = some (.object fields)
  distinct : (Json.object fields).hasDuplicateKey = false
  scalar : ∀ field ∈ fields, isNested field.2 = false
  columns : ∀ column, column ∈ fields.map (·.1) ↔ column ∈ columns

/-- An output is a sequence of rows, at most as many as expected. -/
def DenotesRows (reader : MetadataReader) (expected : CanonicalRead) (output : List UInt8)
    (rows : List (List (String × Json))) : Prop :=
  ∃ lines, output = Lines.terminated lineFeed lines ∧ (∀ line ∈ lines, lineFeed ∉ line) ∧
    lines.length ≤ expected.rows ∧ List.Forall₂ (RowLine reader expected.columns) lines rows

/-- What a row says of each column. -/
def rowMeaning (fields : List (String × Json)) : String → Option Json := fun column =>
  fields.lookup column

/-- A scalar that the parser shows in an object. -/
def ShownScalar (reader : MetadataReader) (value : Json) : Prop :=
  isNested value = false ∧
    ∃ bytes fields, reader.parseJson bytes = some (.object fields) ∧ value ∈ fields.map (·.2)

/-- The compact writer of arrays: what it writes of scalars is on one line, and is read back. -/
structure WritesCompactly (crates : Crates) (reader : MetadataReader)
    (write : List Json → List UInt8) : Prop where
  writes : ∀ values, (∀ value ∈ values, ShownScalar reader value) →
    crates.writeJson values = .ok (write values)
  one_line : ∀ values, (∀ value ∈ values, ShownScalar reader value) → lineFeed ∉ write values
  read_back : ∀ values, (∀ value ∈ values, ShownScalar reader value) →
    reader.parseJson (write values) = some (.array values)

/-- The canonical lines of rows. -/
def canonicalForm (write : List Json → List UInt8) (columns : List String)
    (rows : List (List (String × Json))) : List UInt8 :=
  Lines.terminated lineFeed (rows.map fun fields => write (rowValues columns fields))

theorem toFinset_eq_iff {keys columns : List String} :
    keys.toFinset = columns.toFinset ↔ ∀ column, column ∈ keys ↔ column ∈ columns := by
  simp [Finset.ext_iff]

theorem decodeStrictJson_eq_ok {reader : MetadataReader} {bytes : List UInt8} {value : Json} :
    decodeStrictJson reader bytes = .ok value ↔
      reader.parseJson bytes = some value ∧ value.hasDuplicateKey = false := by
  unfold decodeStrictJson
  cases reader.parseJson bytes with
  | none => simp
  | some shown =>
    cases hduplicate : shown.hasDuplicateKey with
    | true =>
      simp only [hduplicate, if_true, Option.some.injEq, false_iff, not_and, reduceCtorEq]
      rintro rfl
      simp [hduplicate]
    | false =>
      simp only [hduplicate, Bool.false_eq_true, if_false, Except.ok.injEq, Option.some.injEq]
      exact ⟨fun heq => ⟨heq, heq ▸ hduplicate⟩, And.left⟩

namespace RowLine

variable {reader : MetadataReader} {columns : List String} {line line' : List UInt8}
  {fields fields' : List (String × Json)}

theorem nodup (h : RowLine reader columns line fields) : (fields.map (·.1)).Nodup :=
  (Json.hasDuplicateKey_object.mp h.distinct).1

theorem unique (h : RowLine reader columns line fields) (h' : RowLine reader columns line fields') :
    fields = fields' := by
  have := h.parsed.symm.trans h'.parsed
  simpa using this

/-- Every column of a row has a value. -/
theorem exists_value (h : RowLine reader columns line fields) {column : String}
    (hcolumn : column ∈ columns) : ∃ value, fields.lookup column = some value := by
  obtain ⟨⟨_, value⟩, hfield, rfl⟩ := List.mem_map.mp ((h.columns column).mpr hcolumn)
  exact ⟨value, (ListRel.lookup_eq_some_iff h.nodup).mpr hfield⟩

theorem shown (h : RowLine reader columns line fields) :
    ∀ value ∈ rowValues columns fields, ShownScalar reader value := by
  intro value hvalue
  obtain ⟨column, -, hlookup⟩ := List.mem_filterMap.mp hvalue
  have hfield := (ListRel.lookup_eq_some_iff h.nodup).mp hlookup
  exact ⟨h.scalar _ hfield, line, fields, h.parsed, List.mem_map_of_mem hfield⟩

/-- The values of two rows are the same exactly when the rows say the same. -/
theorem rowValues_eq_iff (h : RowLine reader columns line fields)
    (h' : RowLine reader columns line' fields') :
    rowValues columns fields = rowValues columns fields' ↔
      rowMeaning fields = rowMeaning fields' := by
  constructor
  · intro heq
    funext column
    by_cases hcolumn : column ∈ columns
    · have hall : ∀ columns' : List String, (∀ other ∈ columns', other ∈ columns) →
          rowValues columns' fields = rowValues columns' fields' → ∀ other ∈ columns',
            rowMeaning fields other = rowMeaning fields' other := by
        intro columns' hsub hvalues
        induction columns' with
        | nil => exact fun _ hmem => absurd hmem List.not_mem_nil
        | cons first columns' ih =>
          rw [List.forall_mem_cons] at hsub
          obtain ⟨value, hvalue⟩ := h.exists_value hsub.1
          obtain ⟨value', hvalue'⟩ := h'.exists_value hsub.1
          have hcons : ∀ {fields : List (String × Json)} {value}, fields.lookup first = some value →
              rowValues (first :: columns') fields = value :: rowValues columns' fields :=
            fun hlookup => List.filterMap_cons_some hlookup
          rw [hcons hvalue, hcons hvalue'] at hvalues
          obtain ⟨rfl, hrest⟩ := List.cons.inj hvalues
          rw [List.forall_mem_cons]
          exact ⟨hvalue.trans hvalue'.symm, ih hsub.2 hrest⟩
      exact hall columns (fun _ => id) heq column hcolumn
    · have hnone : ∀ {line fields}, RowLine reader columns line fields →
          rowMeaning fields column = none := by
        intro line fields hrow
        rw [rowMeaning, List.lookup_eq_none_iff]
        intro field hfield
        rw [bne_iff_ne]
        rintro rfl
        exact hcolumn ((hrow.columns _).mp (List.mem_map_of_mem hfield))
      rw [hnone h, hnone h']
  · intro heq
    exact List.filterMap_congr fun column _ => congrFun heq column

end RowLine

-- ════════════════════════════════
-- What is accepted
-- ════════════════════════════════

section Lines

variable {crates : Crates} {reader : MetadataReader} {expected : CanonicalRead}

/-- The lines of an output with their canonical lines. -/
def TrinoRows (crates : Crates) (reader : MetadataReader) (expected : CanonicalRead) :
    List (List UInt8) → List (List UInt8) → Prop :=
  List.Forall₂ fun line text =>
    line ≠ [] ∧ canonicalTrinoRow crates reader expected line = .ok text

/-- The loop accepts exactly rows, within the limits. -/
theorem decodeTrinoLines_eq_ok {output : List UInt8} (houtput : output ≠ [])
    {lines : List (List UInt8)} {canonical canonical' : List UInt8} {rows rows' : ℕ}
    (hrows : rows ≤ expected.rows) (hcanonical : canonical.length ≤ maximumTrinoCliBytes) :
    decodeTrinoLines crates reader expected output lines canonical rows = .ok (canonical', rows') ↔
      ∃ texts, TrinoRows crates reader expected lines texts ∧
        canonical' = canonical ++ texts.flatten ∧ rows' = rows + lines.length ∧
        rows' ≤ expected.rows ∧ canonical'.length ≤ maximumTrinoCliBytes := by
  induction lines generalizing canonical rows with
  | nil =>
    rw [decodeTrinoLines]
    constructor
    · intro h
      cases h
      exact ⟨[], .nil, (List.append_nil _).symm, rfl, hrows, hcanonical⟩
    · rintro ⟨texts, htexts, rfl, rfl, -, -⟩
      cases htexts
      simp
  | cons line lines ih =>
    rw [decodeTrinoLines]
    constructor
    · intro h
      split_ifs at h with hnil hmany
      obtain ⟨text, htext, h⟩ := except_bind_eq_ok.mp h
      obtain ⟨hfits, h⟩ := except_seq_eq_ok.mp h
      rw [refuseWhen_eq_ok, decide_eq_false_iff_not, not_lt] at hfits
      obtain ⟨texts, htexts, rfl, rfl, hle, hlength⟩ := (ih (by omega) hfits).mp h
      refine ⟨text :: texts, .cons ⟨hnil, htext⟩ htexts, ?_, ?_, hle, hlength⟩
      · rw [List.flatten_cons, List.append_assoc]
      · rw [List.length_cons]
        omega
    · rintro ⟨texts, htexts, rfl, rfl, hle, hlength⟩
      cases htexts with
      | @cons _ text _ texts htext htexts =>
      rw [List.length_cons] at hle
      have hcanonical' : canonical ++ (text :: texts).flatten =
          canonical ++ text ++ texts.flatten := by
        rw [List.flatten_cons, List.append_assoc]
      have hfits : (canonical ++ text).length ≤ maximumTrinoCliBytes := by
        rw [hcanonical', List.length_append] at hlength
        omega
      have hnext : rows + 1 ≤ expected.rows := by omega
      rw [if_neg htext.1, if_neg (by omega), htext.2]
      refine except_seq_eq_ok.mpr ⟨?_, (ih hnext hfits).mpr ?_⟩
      · simpa using hfits
      · exact ⟨texts, htexts, hcanonical', by rw [List.length_cons]; omega, hle, hlength⟩

/-- The decoder accepts lines within the limits, and reports the identity of their canonical
lines. -/
theorem decodeTrinoCanonicalRead_eq_ok (hcolumns : expected.columns.Nodup) {output : List UInt8}
    {observation : RowReadObservation} :
    decodeTrinoCanonicalRead crates reader expected output = .ok observation ↔
      output.length ≤ maximumTrinoCliBytes ∧
        ∃ lines texts, output = Lines.terminated lineFeed lines ∧
          (∀ line ∈ lines, lineFeed ∉ line) ∧ lines.length ≤ expected.rows ∧
          TrinoRows crates reader expected lines texts ∧
          texts.flatten.length ≤ maximumTrinoCliBytes ∧
          observation =
            ⟨lines.length, texts.flatten.length, crates.sha256Hex texts.flatten⟩ := by
  have hdistinct : expected.columns.toFinset.card = expected.columns.length :=
    List.toFinset_card_of_nodup hcolumns
  by_cases houtput : output = []
  · subst houtput
    have hempty : decodeTrinoCanonicalRead crates reader expected [] =
        .ok ⟨0, 0, crates.sha256Hex []⟩ := by
      refine except_seq_eq_ok.mpr ⟨by simp, except_seq_eq_ok.mpr ⟨by simp, ?_⟩⟩
      exact except_seq_eq_ok.mpr ⟨by simp [hdistinct], rfl⟩
    rw [hempty, Except.ok.injEq]
    constructor
    · rintro rfl
      exact ⟨Nat.zero_le _, [], [], rfl, by simp, Nat.zero_le _, .nil, Nat.zero_le _, rfl⟩
    · rintro ⟨-, lines, texts, hlines, -, -, htexts, -, rfl⟩
      obtain rfl := Lines.terminated_eq_nil.mp hlines.symm
      cases htexts
      rfl
  · constructor
    · intro h
      obtain ⟨hlength, h⟩ := except_seq_eq_ok.mp h
      obtain ⟨hlast, h⟩ := except_seq_eq_ok.mp h
      obtain ⟨-, h⟩ := except_seq_eq_ok.mp h
      rw [refuseWhen_eq_ok] at hlength hlast
      have hterminal : output.getLast? = some lineFeed := by simpa [houtput] using hlast
      rw [if_pos hterminal] at h
      obtain ⟨⟨canonical, count⟩, hloop, h⟩ := except_bind_eq_ok.mp h
      obtain ⟨texts, htexts, rfl, rfl, hle, hform⟩ :=
        (decodeTrinoLines_eq_ok houtput (Nat.zero_le _) (Nat.zero_le _)).mp hloop
      cases h
      rw [List.nil_append] at hform ⊢
      refine ⟨by simpa using hlength, _, texts, ?_, fun _ => Lines.notMem_of_mem_splitOn, by omega,
        htexts, hform, ?_⟩
      · rw [Lines.terminated_splitOn, List.dropLast_append_getLast? _ hterminal]
      · rw [Nat.zero_add]
    · rintro ⟨hlength, lines, texts, hlines, hfree, hle, htexts, hform, rfl⟩
      have hne : lines ≠ [] := fun hnil => houtput (hlines.trans (hnil ▸ rfl))
      obtain ⟨body, hbody⟩ := @Lines.exists_body _ lineFeed _ hne
      have htext : output = body ++ [lineFeed] := hlines.trans hbody
      have hsplit := Lines.splitOn_of_terminated hfree hbody
      have hterminal : output.getLast? = some lineFeed := by simp [htext]
      refine except_seq_eq_ok.mpr ⟨by simpa using hlength, ?_⟩
      refine except_seq_eq_ok.mpr ⟨by simp [hterminal], ?_⟩
      refine except_seq_eq_ok.mpr ⟨by simp [hdistinct], ?_⟩
      have hloop : decodeTrinoLines crates reader expected output lines [] 0 =
          .ok (texts.flatten, lines.length) :=
        (decodeTrinoLines_eq_ok houtput (Nat.zero_le _) (Nat.zero_le _)).mpr
          ⟨texts, htexts, rfl, (Nat.zero_add _).symm, hle, hform⟩
      have hbody : output.dropLast = body := by rw [htext, List.dropLast_concat]
      rw [if_pos hterminal, hbody]
      dsimp only
      rw [hsplit]
      exact except_bind_eq_ok.mpr ⟨_, hloop, rfl⟩

theorem DenotesRows.unique {output : List UInt8} {rows rows' : List (List (String × Json))}
    (h : DenotesRows reader expected output rows) (h' : DenotesRows reader expected output rows') :
    rows = rows' := by
  obtain ⟨lines, rfl, hlines, -, hrows⟩ := h
  obtain ⟨lines', hlines', hfree, -, hrows'⟩ := h'
  obtain rfl := Lines.terminated_injective hlines hfree hlines'
  induction hrows generalizing rows' with
  | nil =>
    cases hrows'
    rfl
  | cons hrow hrows ih =>
    cases hrows' with
    | cons hrow' hrows' =>
      rw [List.forall_mem_cons] at hlines
      rw [hrow.unique hrow', ih hlines.2 rfl hlines.2 hrows']

theorem DenotesRows.rowLine {output : List UInt8} {rows : List (List (String × Json))}
    (h : DenotesRows reader expected output rows) :
    ∀ fields ∈ rows, ∃ line, RowLine reader expected.columns line fields := by
  obtain ⟨lines, -, -, -, hrows⟩ := h
  intro fields hfields
  obtain ⟨line, -, hline⟩ := ListRel.forall₂_mem_right hrows hfields
  exact ⟨line, hline⟩

/-- A row whose values are written has a canonical line. -/
theorem RowLine.canonical {line text : List UInt8} {fields : List (String × Json)}
    (h : RowLine reader expected.columns line fields)
    (htext : crates.writeJson (rowValues expected.columns fields) = .ok text) :
    canonicalTrinoRow crates reader expected line = .ok (text ++ [lineFeed]) := by
  have hvalue := decodeStrictJson_eq_ok.mpr ⟨h.parsed, h.distinct⟩
  have hnested : (fields.any fun field => isNested field.2) = false := by
    simpa using h.scalar
  have hcolumns := toFinset_eq_iff.mpr h.columns
  refine except_bind_eq_ok.mpr ⟨.object fields, by rw [hvalue]; rfl, ?_⟩
  refine except_seq_eq_ok.mpr ⟨refuseWhen_eq_ok.mpr hnested, ?_⟩
  refine except_seq_eq_ok.mpr ⟨refuseWhen_eq_ok.mpr (by simp [hcolumns]), ?_⟩
  rw [htext]
  rfl

/-- A line with a canonical line is a row. -/
theorem exists_rowLine {line text : List UInt8} (hne : line ≠ [])
    (h : canonicalTrinoRow crates reader expected line = .ok text) :
    ∃ fields, RowLine reader expected.columns line fields := by
  obtain ⟨value, hvalue, h⟩ := except_bind_eq_ok.mp h
  obtain ⟨hparsed, hdistinct⟩ := decodeStrictJson_eq_ok.mp (except_mapError_eq_ok.mp hvalue)
  cases value with
  | object fields =>
    obtain ⟨hnested, h⟩ := except_seq_eq_ok.mp h
    obtain ⟨hcolumns, h⟩ := except_seq_eq_ok.mp h
    rw [refuseWhen_eq_ok] at hnested hcolumns
    exact ⟨fields, { ne_nil := hne, parsed := hparsed, distinct := hdistinct
                     scalar := by simpa using hnested
                     columns := toFinset_eq_iff.mp (by simpa using hcolumns) }⟩
  | _ => cases h

end Lines

-- ════════════════════════════════
-- What it denotes
-- ════════════════════════════════

/-- The identity of rows. -/
def rowsObservation (crates : Crates) (write : List Json → List UInt8) (columns : List String)
    (rows : List (List (String × Json))) : RowReadObservation :=
  { rows := rows.length, bytes := (canonicalForm write columns rows).length
    sha256 := crates.sha256Hex (canonicalForm write columns rows) }

section Exact

variable {crates : Crates} {reader : MetadataReader} {write : List Json → List UInt8}
  (hwrite : WritesCompactly crates reader write) {expected : CanonicalRead}

include hwrite

theorem trinoRows_iff {lines texts : List (List UInt8)} :
    TrinoRows crates reader expected lines texts ↔
      ∃ rows, List.Forall₂ (RowLine reader expected.columns) lines rows ∧
        texts = rows.map fun fields => write (rowValues expected.columns fields) ++ [lineFeed] := by
  constructor
  · intro h
    induction h with
    | nil => exact ⟨[], .nil, rfl⟩
    | cons htext _ ih =>
      obtain ⟨fields, hrow⟩ := exists_rowLine htext.1 htext.2
      obtain ⟨rows, hrows, rfl⟩ := ih
      have heq := htext.2.symm.trans (hrow.canonical (hwrite.writes _ hrow.shown))
      exact ⟨fields :: rows, .cons hrow hrows, congrArg (· :: _) (Except.ok.inj heq)⟩
  · rintro ⟨rows, hrows, rfl⟩
    induction hrows with
    | nil => exact .nil
    | cons hrow _ ih =>
      exact .cons ⟨hrow.ne_nil, hrow.canonical (hwrite.writes _ hrow.shown)⟩ ih

/-- The decoder accepts rows within the limits, and reports their identity. -/
theorem decodeTrinoCanonicalRead_eq_ok_rows (hcolumns : expected.columns.Nodup)
    {output : List UInt8} {observation : RowReadObservation} :
    decodeTrinoCanonicalRead crates reader expected output = .ok observation ↔
      output.length ≤ maximumTrinoCliBytes ∧
        ∃ rows, DenotesRows reader expected output rows ∧
          (canonicalForm write expected.columns rows).length ≤ maximumTrinoCliBytes ∧
          observation = rowsObservation crates write expected.columns rows := by
  have hform : ∀ rows : List (List (String × Json)),
      (rows.map fun fields => write (rowValues expected.columns fields) ++ [lineFeed]).flatten =
        canonicalForm write expected.columns rows := by
    intro rows
    rw [canonicalForm, Lines.terminated, List.flatMap_def, List.map_map]
    rfl
  rw [decodeTrinoCanonicalRead_eq_ok hcolumns]
  refine and_congr_right fun _ => ?_
  constructor
  · rintro ⟨lines, texts, houtput, hfree, hle, htexts, hlength, rfl⟩
    obtain ⟨rows, hrows, rfl⟩ := (trinoRows_iff hwrite).mp htexts
    rw [hform] at hlength ⊢
    refine ⟨rows, ⟨lines, houtput, hfree, hle, hrows⟩, hlength, ?_⟩
    rw [rowsObservation, hrows.length_eq]
  · rintro ⟨rows, ⟨lines, houtput, hfree, hle, hrows⟩, hlength, rfl⟩
    refine ⟨lines, _, houtput, hfree, hle, (trinoRows_iff hwrite).mpr ⟨rows, hrows, rfl⟩, ?_, ?_⟩
    · rw [hform]
      exact hlength
    · rw [hform, rowsObservation, hrows.length_eq]

/-- The canonical lines of rows are the same exactly when the rows say the same. -/
theorem canonicalForm_eq_iff {output output' : List UInt8}
    {rows rows' : List (List (String × Json))} (h : DenotesRows reader expected output rows)
    (h' : DenotesRows reader expected output' rows') :
    canonicalForm write expected.columns rows = canonicalForm write expected.columns rows' ↔
      rows.map rowMeaning = rows'.map rowMeaning := by
  have hfree : ∀ {output rows}, DenotesRows reader expected output rows →
      ∀ line ∈ rows.map fun fields => write (rowValues expected.columns fields),
        lineFeed ∉ line := by
    intro output rows hdenotes line hline
    obtain ⟨fields, hfields, rfl⟩ := List.mem_map.mp hline
    obtain ⟨_, hrow⟩ := hdenotes.rowLine fields hfields
    exact hwrite.one_line _ hrow.shown
  have hrows : canonicalForm write expected.columns rows =
      canonicalForm write expected.columns rows' ↔
        rows.map (fun fields => write (rowValues expected.columns fields)) =
          rows'.map fun fields => write (rowValues expected.columns fields) :=
    ⟨Lines.terminated_injective (hfree h) (hfree h'), congrArg _⟩
  rw [hrows]
  refine ListRel.map_eq_map_iff fun fields hfields fields' hfields' => ?_
  obtain ⟨_, hrow⟩ := h.rowLine fields hfields
  obtain ⟨_, hrow'⟩ := h'.rowLine fields' hfields'
  rw [← hrow.rowValues_eq_iff hrow']
  constructor
  · intro heq
    have hread := (congrArg reader.parseJson heq).symm
    rw [hwrite.read_back _ hrow.shown, hwrite.read_back _ hrow'.shown] at hread
    simpa using hread.symm
  · exact congrArg write

end Exact

/-- `decode_trino_canonical_read` accepts exactly outputs that denote rows, within the limits; it
reports the identity of their canonical lines, which are the same exactly for the same rows. -/
theorem decodeTrinoCanonicalRead_exact {crates : Crates} {reader : MetadataReader}
    {write : List Json → List UInt8} (hwrite : WritesCompactly crates reader write)
    {expected : CanonicalRead} (hcolumns : expected.columns.Nodup) :
    (∀ output, (decodeTrinoCanonicalRead crates reader expected output).isOk ↔
      output.length ≤ maximumTrinoCliBytes ∧
        ∃ rows, DenotesRows reader expected output rows ∧
          (canonicalForm write expected.columns rows).length ≤ maximumTrinoCliBytes) ∧
    (∀ output rows observation, DenotesRows reader expected output rows →
      decodeTrinoCanonicalRead crates reader expected output = .ok observation →
        observation = rowsObservation crates write expected.columns rows) ∧
    ∀ output output' rows rows', DenotesRows reader expected output rows →
      DenotesRows reader expected output' rows' →
        (canonicalForm write expected.columns rows = canonicalForm write expected.columns rows' ↔
          rows.map rowMeaning = rows'.map rowMeaning) := by
  refine ⟨fun output => ?_, fun output rows observation hrows hok => ?_,
    fun _ _ _ _ => canonicalForm_eq_iff hwrite⟩
  · constructor
    · intro h
      cases hok : decodeTrinoCanonicalRead crates reader expected output with
      | error error =>
        rw [hok] at h
        cases h
      | ok observation =>
        obtain ⟨hlength, rows, hrows, hform, -⟩ :=
          (decodeTrinoCanonicalRead_eq_ok_rows hwrite hcolumns).mp hok
        exact ⟨hlength, rows, hrows, hform⟩
    · rintro ⟨hlength, rows, hrows, hform⟩
      rw [(decodeTrinoCanonicalRead_eq_ok_rows hwrite hcolumns).mpr
        ⟨hlength, rows, hrows, hform, rfl⟩]
      rfl
  · obtain ⟨-, rows', hrows', -, rfl⟩ :=
      (decodeTrinoCanonicalRead_eq_ok_rows hwrite hcolumns).mp hok
    rw [hrows.unique hrows']

-- ════════════════════════════════
-- A sample of ones
-- ════════════════════════════════

def oneJson : Json := .number (.posInt 1)

def onesBody (n : ℕ) : List UInt8 := [0x2C].intercalate (List.replicate n [0x31])

/-- The compact array of so many ones. -/
def onesText (n : ℕ) : List UInt8 := 0x5B :: (onesBody n ++ [0x5D])

/-- A parser of rows with one column of ones, and of arrays of ones. -/
def onesReader : MetadataReader where
  gunzip _ _ := none
  parseJson bytes :=
    if bytes = utf8 "\x7b\"a\":1\x7d" then some (.object [("a", oneJson)])
    else if bytes = onesText ((bytes.length - 1) / 2) then
      some (.array (List.replicate ((bytes.length - 1) / 2) oneJson))
    else none

def onesCrates : Crates :=
  { sampleCrates with writeJson := fun values => .ok (onesText values.length) }

def onesRead : CanonicalRead := ⟨8, ["a"], 2, ""⟩

theorem onesBody_spec (n : ℕ) : (onesBody n).length = 2 * n - 1 ∧ lineFeed ∉ onesBody n := by
  induction n with
  | zero => exact ⟨rfl, List.not_mem_nil⟩
  | succ n ih =>
    by_cases hn : n = 0
    · subst hn
      decide
    · have hbody : onesBody (n + 1) = 0x31 :: 0x2C :: onesBody n := by
        rw [onesBody, List.replicate_succ, List.intercalate_cons_of_ne_nil (by simpa using hn)]
        rfl
      rw [hbody, List.length_cons, List.length_cons, List.mem_cons, List.mem_cons, ih.1]
      refine ⟨by omega, ?_⟩
      rintro (heq | heq | hmem)
      · exact absurd heq (by decide)
      · exact absurd heq (by decide)
      · exact ih.2 hmem

theorem shownScalar_ones {value : Json} (h : ShownScalar onesReader value) : value = oneJson := by
  obtain ⟨-, bytes, fields, hparse, hvalue⟩ := h
  simp only [onesReader] at hparse
  split_ifs at hparse
  · cases hparse
    exact List.mem_singleton.mp hvalue
  · cases hparse

theorem onesReader_read_back (n : ℕ) :
    onesReader.parseJson (onesText n) = some (.array (List.replicate n oneJson)) := by
  have hbrace : (utf8 "\x7b\"a\":1\x7d").head? = some 0x7B := by decide
  have hhead : onesText n ≠ utf8 "\x7b\"a\":1\x7d" := fun heq => by
    have hfirst : some 0x5B = some (0x7B : UInt8) := (congrArg List.head? heq).trans hbrace
    exact absurd hfirst (by decide)
  have hlength : ((onesText n).length - 1) / 2 = n := by
    rw [onesText, List.length_cons, List.length_append, (onesBody_spec n).1, List.length_singleton]
    omega
  simp only [onesReader, if_neg hhead, hlength, if_true]

theorem ones_writesCompactly :
    WritesCompactly onesCrates onesReader fun values => onesText values.length where
  writes _ _ := rfl
  one_line values _ := by
    rw [onesText, List.mem_cons, List.mem_append, List.mem_singleton]
    rintro (heq | hmem | heq)
    · exact absurd heq (by decide)
    · exact (onesBody_spec _).2 hmem
    · exact absurd heq (by decide)
  read_back values h := by
    have hvalues : values = List.replicate values.length oneJson :=
      List.eq_replicate_of_mem fun value hvalue => shownScalar_ones (h value hvalue)
    rw [onesReader_read_back, ← hvalues]

/-- The outputs with at most two rows of one. -/
theorem decodeTrinoCanonicalRead_exact_ones :
    (∀ output, (decodeTrinoCanonicalRead onesCrates onesReader onesRead output).isOk ↔
      output.length ≤ maximumTrinoCliBytes ∧
        ∃ rows, DenotesRows onesReader onesRead output rows ∧
          (canonicalForm (fun values => onesText values.length) onesRead.columns rows).length ≤
            maximumTrinoCliBytes) ∧
    ∀ output rows observation, DenotesRows onesReader onesRead output rows →
      decodeTrinoCanonicalRead onesCrates onesReader onesRead output = .ok observation →
        observation = rowsObservation onesCrates (fun values => onesText values.length)
          onesRead.columns rows :=
  have hexact := decodeTrinoCanonicalRead_exact ones_writesCompactly (by decide)
  ⟨hexact.1, hexact.2.1⟩

end CatalogBench.Engine
