import CatalogBench.Engine.Soundness
import CatalogBench.Engine.SqlText
import Mathlib.Data.Finset.Card

/-!
# Who owns the fixture

Ownership is decided by the engine's preflight query, created by its DDL and acted upon by the
REST cleanup. This module puts the three together over a catalog of namespaces and tables and
asks what of a prior catalog survives a run.
-/

set_option linter.all false

namespace CatalogBench.Engine
open CatalogBench.Commit Interaction Interaction.Prog SqlText

-- ════════════════════════════════
-- Catalogs
-- ════════════════════════════════

/-- A catalog: every table lies in a namespace. -/
structure Catalog where
  namespaces : Finset String
  tables : Finset (String × String)
  inNamespace : ∀ t ∈ tables, t.1 ∈ namespaces
  deriving DecidableEq

namespace Catalog

def createNamespace (s : Catalog) («namespace» : String) : Catalog where
  namespaces := insert «namespace» s.namespaces
  tables := s.tables
  inNamespace t ht := Finset.mem_insert_of_mem (s.inNamespace t ht)

def createTable (s : Catalog) («namespace» table : String) : Option Catalog :=
  if h : «namespace» ∈ s.namespaces ∧ («namespace», table) ∉ s.tables then
    some {
      namespaces := s.namespaces
      tables := insert («namespace», table) s.tables
      inNamespace := fun t ht => by
        rcases Finset.mem_insert.mp ht with rfl | ht
        · exact h.1
        · exact s.inNamespace t ht }
  else none

def dropTable (s : Catalog) («namespace» table : String) : Catalog where
  namespaces := s.namespaces
  tables := s.tables.erase («namespace», table)
  inNamespace t ht := s.inNamespace t (Finset.mem_of_mem_erase ht)

/-- Only an empty namespace can be dropped. -/
def dropNamespace (s : Catalog) («namespace» : String) : Option Catalog :=
  if h : «namespace» ∈ s.namespaces ∧ ∀ t ∈ s.tables, t.1 ≠ «namespace» then
    some {
      namespaces := s.namespaces.erase «namespace»
      tables := s.tables
      inNamespace := fun t ht => Finset.mem_erase.mpr ⟨h.2 t ht, s.inNamespace t ht⟩ }
  else none

/-- Everything of `s` is still in `s'`. -/
def Survives (s s' : Catalog) : Prop := s.namespaces ⊆ s'.namespaces ∧ s.tables ⊆ s'.tables

theorem Survives.refl (s : Catalog) : s.Survives s := ⟨subset_rfl, subset_rfl⟩

theorem Survives.trans {s s₁ s₂ : Catalog} (h : s.Survives s₁) (h' : s₁.Survives s₂) :
    s.Survives s₂ :=
  ⟨h.1.trans h'.1, h.2.trans h'.2⟩

theorem survives_createNamespace (s : Catalog) («namespace» : String) :
    s.Survives (s.createNamespace «namespace») :=
  ⟨Finset.subset_insert _ _, subset_rfl⟩

theorem survives_createTable {s s' : Catalog} {«namespace» table : String}
    (h : s.createTable «namespace» table = some s') : s.Survives s' := by
  unfold createTable at h
  split at h
  · obtain rfl := Option.some.inj h
    exact ⟨subset_rfl, Finset.subset_insert _ _⟩
  · cases h

end Catalog

-- ════════════════════════════════
-- Truthful servers
-- ════════════════════════════════

/-- The effect of a statement; `none` if it fails. -/
def SqlText.Statement.apply : Statement → Catalog → Option Catalog
  | .createSchema «namespace», s => some (s.createNamespace «namespace»)
  | .createTable «namespace» table, s => s.createTable «namespace» table
  | .data, s => some s

/-- The rows of the information schema that match. -/
def SqlText.CountQuery.count (attached : String) (s : Catalog) : CountQuery → ℕ
  | .tables catalog «namespace» table =>
    if catalog.all (· = attached) then (s.tables.filter (· = («namespace», table))).card else 0
  | .schemata catalog «namespace» =>
    if catalog.all (· = attached) then (s.namespaces.filter (· = «namespace»)).card else 0

/-- A server runs a statement. It may fail at any point, before or after the effect; a text
that is not understood may do anything. -/
def Executes (attached sql : String) (s : Catalog) (succeeded : Bool) (s' : Catalog) : Prop :=
  match readStatement attached sql with
  | some statement =>
    match statement.apply s with
    | some s₁ => s' = s₁ ∨ (succeeded = false ∧ s' = s)
    | none => succeeded = false ∧ s' = s
  | none => True

theorem Executes.fails (attached sql : String) (s : Catalog) : Executes attached sql s false s := by
  unfold Executes
  split
  · split
    · exact .inr ⟨rfl, rfl⟩
    · exact ⟨rfl, rfl⟩
  · trivial

theorem Executes.survives {attached sql : String} {s s' : Catalog} {succeeded : Bool}
    {statement : Statement} (hread : readStatement attached sql = some statement)
    (h : Executes attached sql s succeeded s') : s.Survives s' := by
  simp only [Executes, hread] at h
  have happly : ∀ s₁, statement.apply s = some s₁ → s.Survives s₁ := by
    intro s₁ hs₁
    cases statement with
    | createSchema _ => exact Option.some.inj hs₁ ▸ s.survives_createNamespace _
    | createTable _ _ => exact Catalog.survives_createTable hs₁
    | data => exact Option.some.inj hs₁ ▸ .refl s
  split at h
  · next s₁ hs₁ =>
    rcases h with rfl | ⟨-, rfl⟩
    · exact happly _ hs₁
    · exact .refl _
  · exact h.2 ▸ .refl s

/-- A server answers a text. A query changes nothing, and a count it returns is the number of
matching rows. -/
def Serves (attached sql : String) (s : Catalog) (succeeded : Bool) (counted : Option ℕ)
    (s' : Catalog) : Prop :=
  if startsWith sql "SELECT " then
    s' = s ∧ ∀ n query, counted = some n → readCount sql = some query → n = query.count attached s
  else Executes attached sql s succeeded s'

/-- A text that is either a query or a statement a server understands. -/
def Readable (attached sql : String) : Prop :=
  startsWith sql "SELECT " = true ∨ ∃ statement, readStatement attached sql = some statement

theorem Serves.survives {attached sql : String} {s s' : Catalog} {succeeded : Bool}
    {counted : Option ℕ} (hread : Readable attached sql)
    (h : Serves attached sql s succeeded counted s') : s.Survives s' := by
  unfold Serves at h
  split at h
  · exact h.1 ▸ .refl s
  · next hselect =>
    rcases hread with hread | ⟨statement, hread⟩
    · exact absurd hread hselect
    · exact h.survives hread

theorem Serves.query {attached sql : String} {s s' : Catalog} {succeeded : Bool}
    {counted : Option ℕ} (hselect : startsWith sql "SELECT " = true)
    (h : Serves attached sql s succeeded counted s') : s' = s ∧ ∀ n query, counted = some n →
      readCount sql = some query → n = query.count attached s := by
  rwa [Serves, if_pos hselect] at h

theorem Serves.fails (attached sql : String) (s : Catalog) :
    Serves attached sql s false none s := by
  unfold Serves
  split
  · exact ⟨rfl, fun _ _ h => by cases h⟩
  · exact Executes.fails attached sql s

theorem CountQuery.tables_pos {attached : String} {s : Catalog} {catalog : Option String}
    {«namespace» table : String} (hcatalog : catalog.all (· = attached) = true)
    (hmem : («namespace», table) ∈ s.tables) :
    (CountQuery.tables catalog «namespace» table).count attached s ≠ 0 := by
  simp only [CountQuery.count, hcatalog, if_true, ne_eq, Finset.card_eq_zero]
  exact Finset.ne_empty_of_mem (Finset.mem_filter.mpr ⟨hmem, rfl⟩)

theorem CountQuery.tables_zero {attached : String} {s : Catalog} {catalog : Option String}
    {«namespace» table : String} (hmem : («namespace», table) ∉ s.tables) :
    (CountQuery.tables catalog «namespace» table).count attached s = 0 := by
  simp only [CountQuery.count]
  split_ifs
  · rw [Finset.card_eq_zero, Finset.filter_eq_empty_iff]
    rintro t ht rfl
    exact hmem ht
  · rfl

-- ════════════════════════════════
-- The workflow over a catalog
-- ════════════════════════════════

/-- What a runner does to the catalog and what it reports. -/
abbrev CatalogRunner := Catalog → EngineProcessExecution → Catalog → Prop

/-- The world of `runEngineWorkflow`: the runner, and a REST catalog whose drops take effect
unless they fail on the way. -/
def catalogWorld (runner : CatalogRunner) (fixture : Fixture) (s : Catalog) (c : WorkflowCall)
    (r : c.Reply) (s' : Catalog) : Prop :=
  match c, r with
  | .execute, process => runner s process s'
  | .dropTableWithoutPurge, r =>
    s' = s.dropTable fixture.namespace fixture.table ∨ (r.isOk = false ∧ s' = s)
  | .dropNamespace, r =>
    match s.dropNamespace fixture.namespace with
    | some s₁ => s' = s₁ ∨ (r.isOk = false ∧ s' = s)
    | none => s' = s
  | _, _ => s' = s

/-- What the cleanup relies on: a runner destroys nothing, it only reports an absent fixture if
the table was absent and the runner was able to ask, and then it may fail right after that. -/
structure RunnerContract (runner : CatalogRunner) (fixture : Fixture) (able : Prop) : Prop where
  survives : ∀ {s process s'}, runner s process s' → s.Survives s'
  owns : ∀ {s process s'}, runner s process s' → process.cleanupAuthorized = true →
    able ∧ (fixture.namespace, fixture.table) ∉ s.tables
  starts : able → ∀ s, (fixture.namespace, fixture.table) ∉ s.tables →
    ∃ process, runner s process s ∧ process.cleanupAuthorized = true

/-- Nothing the cleanup does to a catalog in which the fixture's namespace is either new or not
empty destroys what was there before. -/
theorem survives_dropNamespace {s₀ s s' : Catalog} {«namespace» : String}
    (hs : s₀.Survives s) (h : s.dropNamespace «namespace» = some s')
    (hsafe : «namespace» ∉ s₀.namespaces ∨ ∃ t ∈ s₀.tables, t.1 = «namespace») :
    s₀.Survives s' := by
  unfold Catalog.dropNamespace at h
  split at h
  · next hempty =>
    obtain rfl := Option.some.inj h
    refine ⟨fun n hn => Finset.mem_erase.mpr ⟨?_, hs.1 hn⟩, hs.2⟩
    rintro rfl
    rcases hsafe with hnew | ⟨t, ht, rfl⟩
    · exact hnew hn
    · exact hempty.2 t (hs.2 ht) rfl
  · cases h

theorem survives_dropTable {s₀ s : Catalog} {«namespace» table : String} (hs : s₀.Survives s)
    (hfresh : («namespace», table) ∉ s₀.tables) : s₀.Survives (s.dropTable «namespace» table) :=
  ⟨hs.1, fun _ ht => Finset.mem_erase.mpr ⟨fun heq => hfresh (heq ▸ ht), hs.2 ht⟩⟩

section World

variable {crates : Crates} {plan : InteroperabilityPlan} {runner : CatalogRunner}

theorem auditObjectState_catalog {load : Option EngineTableLoad}
    {evidence : EngineOperationEvidence TableObjectAuditSnapshot} {s s' : Catalog}
    (h : (auditObjectState crates plan load).Run (catalogWorld runner plan.fixture) s evidence s') :
    s' = s := by
  unfold auditObjectState at h
  split at h
  · split at h
    · exact h.2
    · obtain ⟨reply, s₁, hstore, h₁⟩ := run_ask_bind.mp h
      cases reply with
      | error _ => exact h₁.2.trans hstore
      | ok _ =>
        obtain ⟨_, s₂, haudit, h₂⟩ := run_ask_bind.mp h₁
        exact (h₂.2.trans haudit).trans hstore
  · exact h.2

theorem cleanupFixture_catalog {cleanup : EngineCleanupEvidence} {s s' : Catalog}
    (h : cleanupFixture.Run (catalogWorld runner plan.fixture) s cleanup s') :
    ∃ s₁, (s₁ = s ∨ s₁ = s.dropTable plan.fixture.namespace plan.fixture.table) ∧
      (s' = s₁ ∨ s₁.dropNamespace plan.fixture.namespace = some s') := by
  obtain ⟨_, s₁, hdrop, h₁⟩ := run_ask_bind.mp h
  obtain ⟨_, s₂, htable, h₂⟩ := run_ask_bind.mp h₁
  obtain ⟨_, s₃, hdrop', h₃⟩ := run_ask_bind.mp h₂
  obtain ⟨_, s₄, hnamespace, -, hs'⟩ := run_ask_bind.mp h₃
  have hs₂ : s₂ = s₁ := htable
  have hs₄ : s' = s₃ := hs'.trans hnamespace
  subst hs₂ hs₄
  refine ⟨s₂, ?_, ?_⟩
  · rcases hdrop with hdrop | ⟨-, hdrop⟩
    · exact .inr hdrop
    · exact .inl hdrop
  · change (match Catalog.dropNamespace _ _ with | some s₁ => _ | none => _) at hdrop'
    split at hdrop'
    · next s₁ hs₁ =>
      rcases hdrop' with rfl | ⟨-, hsame⟩
      · exact .inr hs₁
      · exact .inl hsame
    · exact .inl hdrop'

theorem runEngineWorkflow_survives {able : Prop} (contract : RunnerContract runner plan.fixture able)
    {s₀ s' : Catalog} {execution : EngineExecution}
    (hsafe : plan.fixture.namespace ∉ s₀.namespaces ∨
      (∃ t ∈ s₀.tables, t.1 = plan.fixture.namespace) ∨ ¬able)
    (h : (runEngineWorkflow crates plan).Run (catalogWorld runner plan.fixture) s₀ execution s') :
    s₀.Survives s' := by
  obtain ⟨process, s₁, hrunner, h₁⟩ := run_ask_bind.mp h
  have hs := contract.survives hrunner
  obtain ⟨-, -, rfl⟩ | ⟨hauth, h₂⟩ := run_ite h₁
  · exact hs
  obtain ⟨hable, hfresh⟩ := contract.owns hrunner (by simpa using hauth)
  have hsafe : plan.fixture.namespace ∉ s₀.namespaces ∨
      ∃ t ∈ s₀.tables, t.1 = plan.fixture.namespace := by
    rcases hsafe with hnew | hfull | hblocked
    · exact .inl hnew
    · exact .inr hfull
    · exact absurd hable hblocked
  obtain ⟨connection, s₂, hconnect, h₃⟩ := run_ask_bind.mp h₂
  have hs₂ : s₂ = s₁ := hconnect
  subst hs₂
  cases connection with
  | failed _ _ => exact h₃.2 ▸ hs
  | ready _ =>
    obtain ⟨_, s₃, hload, h₄⟩ := run_ask_bind.mp h₃
    have hs₃ : s₃ = s₂ := hload
    subst hs₃
    obtain ⟨_, s₄, haudit, h₅⟩ := run_bind.mp h₄
    obtain rfl := auditObjectState_catalog haudit
    obtain ⟨_, s₅, hcleanup, -, rfl⟩ := run_bind.mp h₅
    obtain ⟨s₆, hdrop, hdrop'⟩ := cleanupFixture_catalog hcleanup
    have hs₆ : s₀.Survives s₆ := by
      rcases hdrop with rfl | rfl
      · exact hs
      · exact survives_dropTable hs hfresh
    rcases hdrop' with rfl | hdrop'
    · exact hs₆
    · exact survives_dropNamespace hs₆ hdrop' hsafe

/-- An authorised process that left the catalog alone lets the cleanup drop an empty namespace
it found there. -/
theorem runEngineWorkflow_destroys {s₀ : Catalog} {process : EngineProcessExecution}
    (hrunner : runner s₀ process s₀) (hauth : process.cleanupAuthorized = true)
    (hfound : plan.fixture.namespace ∈ s₀.namespaces)
    (hempty : ∀ t ∈ s₀.tables, t.1 ≠ plan.fixture.namespace) :
    ∃ execution s',
      (runEngineWorkflow crates plan).Run (catalogWorld runner plan.fixture) s₀ execution s' ∧
        ¬s₀.Survives s' := by
  let s₁ := s₀.dropTable plan.fixture.namespace plan.fixture.table
  have hdropped : plan.fixture.namespace ∈ s₁.namespaces ∧
      ∀ t ∈ s₁.tables, t.1 ≠ plan.fixture.namespace :=
    ⟨hfound, fun t ht => hempty t (Finset.mem_of_mem_erase ht)⟩
  obtain ⟨s₂, hs₂⟩ : ∃ s₂, s₁.dropNamespace plan.fixture.namespace = some s₂ := by
    rw [Catalog.dropNamespace, dif_pos hdropped]
    exact ⟨_, rfl⟩
  have hstep : catalogWorld runner plan.fixture s₁ .dropNamespace (.ok ⟨204, 0, false⟩) s₂ := by
    simp only [catalogWorld, hs₂]
    exact .inl trivial
  have hcleanup : cleanupFixture.Run (catalogWorld runner plan.fixture) s₀
      ⟨.ofCatalog (.ok ⟨204, 0, false⟩), .ofCatalog (.ok (.absent 404 0)),
        .ofCatalog (.ok ⟨204, 0, false⟩), .ofCatalog (.ok (.absent 404 0))⟩ s₂ :=
    ⟨.ok ⟨204, 0, false⟩, s₁, .inl rfl, .ok (.absent 404 0), s₁, rfl,
      .ok ⟨204, 0, false⟩, s₂, hstep, .ok (.absent 404 0), s₂, rfl, rfl, rfl⟩
  have hrun : ∃ execution, (runEngineWorkflow crates plan).Run (catalogWorld runner plan.fixture) s₀
      execution s₂ := by
    refine exists_run_ask_bind process hrunner ?_
    simp only [hauth, Bool.not_true, Bool.false_eq_true, if_false]
    refine exists_run_ask_bind (.ready sampleNegotiation) (rfl : s₀ = s₀) ?_
    refine exists_run_ask_bind (.ok (.absent 404 0)) (rfl : s₀ = s₀) ?_
    refine exists_run_bind ⟨rfl, rfl⟩ ⟨_, run_bind.mpr ⟨_, s₂, hcleanup, rfl, rfl⟩⟩
  obtain ⟨execution, hrun⟩ := hrun
  refine ⟨execution, s₂, hrun, ?_⟩
  intro hs
  have hmem := hs.1 hfound
  rw [Catalog.dropNamespace, dif_pos hdropped] at hs₂
  rw [← Option.some.inj hs₂] at hmem
  exact Finset.notMem_erase _ _ hmem

/-- What existed before survives every run exactly if the fixture's namespace was new or not
empty, or the runner cannot ask. -/
theorem survives_iff_of_contract {able : Prop} (contract : RunnerContract runner plan.fixture able)
    (s₀ : Catalog) :
    (∀ execution s', (runEngineWorkflow crates plan).Run (catalogWorld runner plan.fixture) s₀
        execution s' → s₀.Survives s') ↔
      plan.fixture.namespace ∉ s₀.namespaces ∨
        (∃ t ∈ s₀.tables, t.1 = plan.fixture.namespace) ∨ ¬able := by
  constructor
  · intro hall
    by_contra hunsafe
    push Not at hunsafe
    obtain ⟨hfound, hempty, hable⟩ := hunsafe
    obtain ⟨process, hrunner, hauth⟩ := contract.starts hable s₀ fun hmem => hempty _ hmem rfl
    obtain ⟨execution, s', hrun, hdestroyed⟩ :=
      runEngineWorkflow_destroys hrunner hauth hfound hempty
    exact hdestroyed (hall execution s' hrun)
  · intro hsafe execution s' h
    exact runEngineWorkflow_survives contract hsafe h

end World

end CatalogBench.Engine
