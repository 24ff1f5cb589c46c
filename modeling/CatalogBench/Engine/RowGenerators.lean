import CatalogBench.Engine.SparkAdmission
import CatalogBench.Engine.Transcript
import CatalogBench.Flink.SqlTokens

/-!
# The row generators

The rows of a scenario are generated three times: as SQL for the engines that run a program, as the
texts that no transcript may hold, and in Python for the Spark runner. They are the same rows for
every scenario that the Spark runner accepts.
-/

set_option linter.all false

namespace CatalogBench.Engine
open Flink Interaction ListRel SqlLexer MachineInt

-- ════════════════════════════════
-- Rows
-- ════════════════════════════════

/-- A value of a row. -/
inductive RowValue
  | number (n : ℕ)
  | text (value : String)
  | null
  deriving DecidableEq

namespace RowValue

def toJson : RowValue → Json
  | number n => Json.ofNat n
  | text value => .string value
  | null => .null

/-- The value that a token denotes. -/
def ofToken : Token → Option RowValue
  | .number digits => some (number (Nat.ofDigitChars 10 digits.toList 0))
  | .literal value => some (text value)
  | .word "NULL" => some null
  | _ => none

/-- The values before a closing parenthesis. -/
def ofTokens : List Token → Option (List RowValue)
  | [token, .symbol ')'] => do
    return [← ofToken token]
  | token :: .symbol ',' :: tokens => do
    return (← ofToken token) :: (← ofTokens tokens)
  | _ => none

/-- The values of a row that is written in SQL. -/
def ofSql (quote : Char) (text : String) : Option (List RowValue) :=
  match lex quote text with
  | some (.symbol '(' :: tokens) => ofTokens tokens
  | _ => none

end RowValue

/-- The identifiers of a batch. -/
def BatchPolicy.ids (batch : BatchPolicy) : List ℕ :=
  (List.range batch.rows).map (batch.idStart + ·)

namespace EngineScenarioParameters

/-- The values that a row has before the evolution. -/
def row (scenario : EngineScenarioParameters) (id : ℕ) : List RowValue :=
  let .moduloLabel modulus label := scenario.rowGenerator.category
  [.number id, .text (label ++ toString (id % modulus)),
    .number (scenario.rowGenerator.amountCents.amount id)]

/-- The value that the evolution adds. -/
def note (scenario : EngineScenarioParameters) (id : ℕ) : RowValue :=
  let .idLabel label := scenario.rowGenerator.note
  .text (label ++ toString id)

/-- The rows of the initial batch. -/
def initialRows (scenario : EngineScenarioParameters) : List (List RowValue) :=
  scenario.batches.initial.ids.map scenario.row

/-- The rows of the evolved batch. -/
def evolvedRows (scenario : EngineScenarioParameters) : List (List RowValue) :=
  scenario.batches.evolved.ids.map fun id => scenario.row id ++ [scenario.note id]

end EngineScenarioParameters

-- ════════════════════════════════
-- Bounds
-- ════════════════════════════════

/-- What the arithmetic of the generators needs of a scenario. -/
structure Generates (scenario : EngineScenarioParameters) : Prop where
  modulus : ∀ modulus label, scenario.rowGenerator.category = .moduloLabel modulus label →
    modulus ≠ 0
  initialEnd : scenario.batches.initial.idStart + scenario.batches.initial.rows < 2 ^ 64
  evolvedEnd : scenario.batches.evolved.idStart + scenario.batches.evolved.rows < 2 ^ 64
  amounts : ∀ id, id ∈ scenario.batches.initial.ids ∨ id ∈ scenario.batches.evolved.ids →
    scenario.rowGenerator.amountCents.amount id < 2 ^ 64

theorem IntegerGenerator.amount_mono (generator : IntegerGenerator) {id id' : ℕ} (h : id ≤ id') :
    generator.amount id ≤ generator.amount id' := by
  cases generator with
  | affine multiplier offset => exact Nat.add_le_add_right (Nat.mul_le_mul_right _ h) _

theorem BatchPolicy.mem_ids {batch : BatchPolicy} {id : ℕ} :
    id ∈ batch.ids ↔ batch.idStart ≤ id ∧ id < batch.idStart + batch.rows := by
  simp only [ids, List.mem_map, List.mem_range]
  constructor
  · rintro ⟨index, hindex, rfl⟩
    omega
  · rintro ⟨hstart, hend⟩
    exact ⟨id - batch.idStart, by omega, by omega⟩

theorem modulus_ne_zero {generator : RowGenerator} (h : SparkRunner.GeneratorAccepted generator)
    {modulus : ℕ} {label : String} (hcategory : generator.category = .moduloLabel modulus label) :
    modulus ≠ 0 := by
  obtain ⟨amount, ⟨modulus', label'⟩, ⟨noteLabel⟩⟩ := generator
  cases hcategory
  exact h.1

theorem generates_of_accepted {plan : SparkExecutionPlan} (h : SparkRunner.PlanAccepted plan) :
    Generates plan.scenario := by
  obtain ⟨hinitial, hevolved, hcontiguous, -, hfinal⟩ := h.scenario.batches
  have hamount := h.scenario.relations.finalAmount
  rw [SparkRunner.maximumSparkLong] at hfinal hamount
  refine ⟨fun modulus label => modulus_ne_zero h.scenario.generator, by omega, by omega,
    fun id hid => ?_⟩
  -- Every identifier is at most the last one, whose amount was checked.
  have hlast : id ≤
      plan.scenario.batches.evolved.idStart + plan.scenario.batches.evolved.rows - 1 := by
    simp only [BatchPolicy.mem_ids] at hid
    omega
  have hle := plan.scenario.rowGenerator.amountCents.amount_mono hlast
  omega

-- ════════════════════════════════
-- SQL
-- ════════════════════════════════

theorem renderRow_eq {scenario : EngineScenarioParameters} {evolved : Bool} {id : ℕ}
    (hmodulus : ∀ modulus label, scenario.rowGenerator.category = .moduloLabel modulus label →
      modulus ≠ 0) (hamount : scenario.rowGenerator.amountCents.amount id < 2 ^ 64) :
    renderRow scenario evolved id = .ok (FlinkRenderedProgram.rowText scenario evolved id) := by
  obtain ⟨_, _, _, _, _, ⟨⟨multiplier, offset⟩, ⟨modulus, label⟩, ⟨note⟩⟩, _, _, _, _⟩ := scenario
  have hne : modulus ≠ 0 := hmodulus modulus label rfl
  have hfits : multiplier * id + offset < 2 ^ 64 := by
    rw [Nat.mul_comm]
    exact hamount
  have hproduct : checkedMul 64 multiplier id = some (multiplier * id) :=
    checkedMul_eq_some.mpr ⟨rfl, by omega⟩
  have hsum : checkedAdd 64 (multiplier * id) offset = some (multiplier * id + offset) :=
    checkedAdd_of_lt hfits
  simp only [renderRow, hproduct, Option.bind_some, hsum, if_neg hne]
  cases evolved <;> rfl

theorem renderRows_eq {scenario : EngineScenarioParameters} (h : Generates scenario)
    (evolved : Bool) :
    renderRows scenario evolved = .ok ((FlinkRenderedProgram.batchIds scenario evolved).map
      (FlinkRenderedProgram.rowText scenario evolved)) := by
  have hend : ∃ n, checkedAdd 64 (if evolved then scenario.batches.evolved
      else scenario.batches.initial).idStart (if evolved then scenario.batches.evolved
      else scenario.batches.initial).rows = some n := by
    cases evolved
    · exact ⟨_, checkedAdd_of_lt h.initialEnd⟩
    · exact ⟨_, checkedAdd_of_lt h.evolvedEnd⟩
  obtain ⟨n, hend⟩ := hend
  simp only [renderRows, hend]
  refine except_mapM_of_forall fun id hid => renderRow_eq h.modulus (h.amounts id ?_)
  cases evolved
  · exact .inl hid
  · exact .inr hid

/-- What was rendered for a row is read as the row. -/
theorem ofSql_rowText (dialect : SqlTokens.Dialect) (scenario : EngineScenarioParameters)
    (evolved : Bool) (id : ℕ) :
    RowValue.ofSql dialect.quote (FlinkRenderedProgram.rowText scenario evolved id) =
      some (scenario.row id ++ if evolved then [scenario.note id] else []) := by
  rw [RowValue.ofSql, (SqlTokens.reads_row dialect scenario evolved id).lex]
  obtain ⟨_, _, _, _, _, ⟨⟨multiplier, offset⟩, ⟨modulus, label⟩, ⟨note⟩⟩, _, _, _, _⟩ := scenario
  have hamount : multiplier * id + offset = id * multiplier + offset := by rw [Nat.mul_comm]
  cases evolved <;>
    simp [SqlTokens.generatedRow, SqlTokens.enclosed, commaSeparated, separated, RowValue.ofTokens,
      RowValue.ofToken, EngineScenarioParameters.row, EngineScenarioParameters.note,
      IntegerGenerator.amount, hamount]

-- ════════════════════════════════
-- Python
-- ════════════════════════════════

section Python

open SparkRunner

theorem asModulus_ofNat {n : ℕ} (h : n ≠ 0) : asModulus (Json.ofNat n) = .ok n := by
  obtain ⟨m, rfl⟩ := Nat.exists_eq_succ_of_ne_zero h
  rfl

theorem baseRow_eq {scenario : EngineScenarioParameters}
    (hmodulus : ∀ modulus label, scenario.rowGenerator.category = .moduloLabel modulus label →
      modulus ≠ 0) (id : ℕ) :
    baseRow scenario.rowGenerator.toJson id = .ok ((scenario.row id).map RowValue.toJson) := by
  obtain ⟨_, _, _, _, _, ⟨⟨multiplier, offset⟩, ⟨modulus, label⟩, ⟨note⟩⟩, _, _, _, _⟩ := scenario
  -- Every step but the modulus computes.
  exact except_bind_eq_ok.mpr ⟨modulus, asModulus_ofNat (hmodulus modulus label rfl), rfl⟩

theorem batchRange_eq (batch : BatchPolicy) : batchRange batch.toJson = .ok batch.ids := rfl

/-- The rows that the runner expects are those of the initial batch, with an empty note if the
table has one, and then those of the evolved batch. -/
theorem generatedRows_eq {plan : SparkExecutionPlan} {fields : Dict}
    (hfields : plan.toJson = .object fields) (h : Generates plan.scenario) :
    generatedRows fields false = .ok (plan.scenario.initialRows.map (·.map RowValue.toJson)) ∧
      generatedRows fields true =
        .ok ((plan.scenario.initialRows.map (· ++ [RowValue.null]) ++ plan.scenario.evolvedRows).map
          (·.map RowValue.toJson)) := by
  obtain rfl := Json.object.inj hfields
  have hbase := baseRow_eq h.modulus
  have hinitial (suffix : List Json) : plan.scenario.batches.initial.ids.mapM (fun id => do
      pure ((← baseRow plan.scenario.rowGenerator.toJson id) ++ suffix)) =
        .ok (plan.scenario.batches.initial.ids.map fun id =>
          (plan.scenario.row id).map RowValue.toJson ++ suffix) :=
    except_mapM_of_forall fun id _ => except_bind_eq_ok.mpr ⟨_, hbase id, rfl⟩
  have hevolved : plan.scenario.batches.evolved.ids.mapM (fun id => do
      let row ← baseRow plan.scenario.rowGenerator.toJson id
      let label ← asText (← itemAt plan.scenario.rowGenerator.toJson ["note", "prefix"])
      pure (row ++ [Json.string (label ++ toString id)])) =
        .ok (plan.scenario.batches.evolved.ids.map fun id =>
          (plan.scenario.row id ++ [plan.scenario.note id]).map RowValue.toJson) := by
    refine except_mapM_of_forall fun id _ => except_bind_eq_ok.mpr ⟨_, hbase id, ?_⟩
    rw [List.map_append]
    rfl
  constructor
  · refine except_bind_eq_ok.mpr ⟨_, hinitial [], ?_⟩
    simp only [List.append_nil, EngineScenarioParameters.initialRows, List.map_map]
    rfl
  · refine except_bind_eq_ok.mpr ⟨_, hinitial [.null], ?_⟩
    refine except_bind_eq_ok.mpr ⟨_, hevolved, ?_⟩
    simp only [EngineScenarioParameters.initialRows, EngineScenarioParameters.evolvedRows,
      List.map_append, List.map_map]
    rfl

end Python

-- ════════════════════════════════
-- The raw-row audit
-- ════════════════════════════════

/-- The rows that no transcript may hold: a row of the initial batch is written without a note and
with an empty one. -/
def EngineScenarioParameters.auditedRows (scenario : EngineScenarioParameters) :
    List (List RowValue) :=
  (scenario.initialRows.flatMap fun row => [row, row ++ [RowValue.null]]) ++ scenario.evolvedRows

theorem batchIds_eq {batch : BatchPolicy} (h : batch.idStart + batch.rows < 2 ^ 64) :
    batchIds batch = some batch.ids := by
  rw [batchIds, checkedAdd_of_lt h]
  rfl

theorem canonicalRowValues_eq (crates : EngineCrates) {plan : InteroperabilityPlan}
    (h : Generates plan.scenario) :
    canonicalRowValues crates plan =
      (plan.scenario.auditedRows.mapM fun row => crates.tupleText (row.map RowValue.toJson)).map
        sortDedup := by
  obtain ⟨hmodulus, hinitial, hevolved, hamounts⟩ := h
  rcases hgenerator : plan.scenario.rowGenerator with
    ⟨⟨multiplier, offset⟩, ⟨modulus, label⟩, ⟨note⟩⟩
  rw [hgenerator] at hmodulus hamounts
  have hne : modulus ≠ 0 := hmodulus modulus label rfl
  have hproduct (id : ℕ) (hid : id ∈ plan.scenario.batches.initial.ids ∨
      id ∈ plan.scenario.batches.evolved.ids) :
      checkedMul 64 id multiplier = some (id * multiplier) :=
    checkedMul_eq_some.mpr ⟨rfl, Nat.lt_of_le_of_lt (Nat.le_add_right _ offset) (hamounts id hid)⟩
  have hsum (id : ℕ) (hid : id ∈ plan.scenario.batches.initial.ids ∨
      id ∈ plan.scenario.batches.evolved.ids) :
      checkedAdd 64 (id * multiplier) offset = some (id * multiplier + offset) :=
    checkedAdd_of_lt (hamounts id hid)
  have hrow (id : ℕ) : plan.scenario.row id =
      [.number id, .text (label ++ toString (id % modulus)),
        .number (id * multiplier + offset)] := by
    rw [EngineScenarioParameters.row, hgenerator]
    rfl
  have hnote (id : ℕ) : plan.scenario.note id = .text (note ++ toString id) := by
    rw [EngineScenarioParameters.note, hgenerator]
  simp only [canonicalRowValues, hgenerator, if_neg hne, batchIds_eq hinitial, batchIds_eq hevolved,
    Option.bind_eq_bind, Option.bind_some]
  -- What is written for an identifier are the texts of its rows.
  rw [mapM_congr (l := plan.scenario.batches.initial.ids)
      (g := fun id => [plan.scenario.row id, plan.scenario.row id ++ [RowValue.null]].mapM fun row =>
        crates.tupleText (row.map RowValue.toJson)),
    mapM_congr (l := plan.scenario.batches.evolved.ids)
      (g := fun id => crates.tupleText
        ((plan.scenario.row id ++ [plan.scenario.note id]).map RowValue.toJson))]
  · rw [EngineScenarioParameters.auditedRows, List.mapM_append, mapM_flatMap,
      EngineScenarioParameters.initialRows, EngineScenarioParameters.evolvedRows, List.mapM_map,
      List.mapM_map]
    simp [Option.map_bind, Option.bind_map, Function.comp_def]
  · intro id hid
    rw [hproduct id (.inr hid), Option.bind_some, hsum id (.inr hid), hrow, hnote]
    rfl
  · intro id hid
    rw [hproduct id (.inl hid), Option.bind_some, hsum id (.inl hid), hrow]
    rfl

-- ════════════════════════════════
-- Agreement
-- ════════════════════════════════

/-- The rows of a scenario are the same three times: as read from the SQL of every dialect, as the
Spark runner expects them, and as the texts of the raw-row audit. -/
structure RowsAgree (scenario : EngineScenarioParameters) (fields : SparkRunner.Dict) : Prop where
  /-- The initial rows in SQL. -/
  initial (dialect : SqlTokens.Dialect) : ∃ texts, renderRows scenario false = .ok texts ∧
    texts.mapM (RowValue.ofSql dialect.quote) = some scenario.initialRows
  /-- The evolved rows in SQL. -/
  evolved (dialect : SqlTokens.Dialect) : ∃ texts, renderRows scenario true = .ok texts ∧
    texts.mapM (RowValue.ofSql dialect.quote) = some scenario.evolvedRows
  /-- What the runner expects of the first read. -/
  expectedInitial : SparkRunner.generatedRows fields false =
    .ok (scenario.initialRows.map (·.map RowValue.toJson))
  /-- What the runner expects of the read after the evolution. -/
  expectedEvolved : SparkRunner.generatedRows fields true =
    .ok ((scenario.initialRows.map (· ++ [RowValue.null]) ++ scenario.evolvedRows).map
      (·.map RowValue.toJson))
  /-- What the audit looks for. -/
  audited (crates : EngineCrates) (plan : InteroperabilityPlan)
    (hscenario : plan.scenario = scenario) :
    canonicalRowValues crates plan =
      (scenario.auditedRows.mapM fun row => crates.tupleText (row.map RowValue.toJson)).map
        sortDedup

theorem renderedRows_read {scenario : EngineScenarioParameters} (h : Generates scenario)
    (dialect : SqlTokens.Dialect) (evolved : Bool) :
    ∃ texts, renderRows scenario evolved = .ok texts ∧
      texts.mapM (RowValue.ofSql dialect.quote) =
        some (if evolved then scenario.evolvedRows else scenario.initialRows) := by
  refine ⟨_, renderRows_eq h evolved, ?_⟩
  rw [List.mapM_map, Function.comp_def, mapM_congr (g := fun id => pure (scenario.row id ++
    if evolved then [scenario.note id] else [])) fun id _ =>
      ofSql_rowText dialect scenario evolved id,
    List.mapM_pure]
  cases evolved
  · simp only [Bool.false_eq_true, if_false, List.append_nil]
    rfl
  · rfl

theorem rowGenerators_agree {plan : SparkExecutionPlan} {fields : SparkRunner.Dict}
    (hfields : plan.toJson = .object fields) (h : SparkRunner.validatePlan fields = .ok ()) :
    RowsAgree plan.scenario fields := by
  have hgenerates := generates_of_accepted (SparkRunner.validatePlan_iff.mp ⟨fields, hfields, h⟩)
  obtain ⟨hinitial, hevolved⟩ := generatedRows_eq hfields hgenerates
  refine ⟨fun dialect => renderedRows_read hgenerates dialect false,
    fun dialect => renderedRows_read hgenerates dialect true, hinitial, hevolved,
    fun crates other hscenario => ?_⟩
  rw [← hscenario] at hgenerates ⊢
  exact canonicalRowValues_eq crates hgenerates

theorem sampleSparkPlan_accepted : SparkRunner.PlanAccepted (sampleSparkPlan true) where
  format := rfl
  execution := rfl
  catalog := ⟨⟨by decide, List.all_eq_true.mp (by decide)⟩, by decide, by decide, by decide,
    trivial⟩
  fileIo := ⟨rfl, by decide, by decide, by decide, rfl⟩
  fixture := ⟨⟨by decide, List.all_eq_true.mp (by decide)⟩,
    ⟨by decide, List.all_eq_true.mp (by decide)⟩, by decide⟩
  scenario := canonicalParameters_accepted (by decide)

theorem rowGenerators_agree_sample :
    ∃ fields, (sampleSparkPlan true).toJson = .object fields ∧
      RowsAgree canonicalParameters fields := by
  obtain ⟨fields, hfields, h⟩ := SparkRunner.validatePlan_iff.mpr sampleSparkPlan_accepted
  exact ⟨fields, hfields, rowGenerators_agree hfields h⟩

end CatalogBench.Engine
