import CatalogBench.Engine.Ownership

/-!
# The stock runners

The effects of the Trino and DuckDB runners over a server that keeps a catalog. Both runners
meet `RunnerContract`, so `survives_iff_of_contract` decides what of a prior catalog survives
a run of theirs.
-/

set_option linter.all false

namespace CatalogBench.Engine
open CatalogBench.Commit Interaction Interaction.Prog SqlText

-- ════════════════════════════════
-- Rendered texts
-- ════════════════════════════════

theorem startsWith_append {text start : String} (h : startsWith text start = true) (rest : String) :
    startsWith (text ++ rest) start = true := by
  unfold startsWith at h ⊢
  rw [List.isPrefixOf_iff_prefix] at h ⊢
  rw [String.toList_append]
  exact h.trans (List.prefix_append _ _)

/-- The texts a renderer produces for a fixture are all understood. -/
structure RenderedTexts (attached «namespace» table createNamespace createTable initialAppend
    initialRead addColumn evolvedAppend evolvedRead : String) : Prop where
  createNamespace : readStatement attached createNamespace = some (.createSchema «namespace»)
  createTable : readStatement attached createTable = some (.createTable «namespace» table)
  initialAppend : readStatement attached initialAppend = some .data
  initialRead : startsWith initialRead "SELECT " = true
  addColumn : readStatement attached addColumn = some .data
  evolvedAppend : readStatement attached evolvedAppend = some .data
  evolvedRead : startsWith evolvedRead "SELECT " = true

theorem renderRead_select {ε : Type} {table : String} {columns orderBy : List String}
    {identifier : String → Except ε String} {sql : String}
    (h : renderRead table columns orderBy identifier = .ok sql) :
    startsWith sql "SELECT " = true := by
  obtain ⟨columns, -, h⟩ := except_bind_eq_ok.mp h
  obtain ⟨orderBy, -, h⟩ := except_bind_eq_ok.mp h
  obtain rfl := Except.ok.inj h
  simp only [String.append_assoc]
  exact startsWith_append (by decide) _

section Texts

variable {attached «namespace» table : String} (ha : validIdentifier attached = true)
  (hn : validIdentifier «namespace» = true) (ht : validIdentifier table = true)

include ha hn ht

/-- Both renderers put their texts together like this. -/
theorem renderedTexts
    (schema properties columns values column type nullability evolvedColumns evolvedValues : String)
    {initialRead evolvedRead : String} (hinitial : startsWith initialRead "SELECT " = true)
    (hevolved : startsWith evolvedRead "SELECT " = true) :
    let qualifiedNamespace := quoted attached ++ "." ++ quoted «namespace»
    let qualifiedTable := qualifiedNamespace ++ "." ++ quoted table
    RenderedTexts attached «namespace» table
      ("CREATE SCHEMA IF NOT EXISTS " ++ qualifiedNamespace)
      ("CREATE TABLE " ++ qualifiedTable ++ " (" ++ schema ++ ") WITH (" ++ properties ++ ")")
      ("INSERT INTO " ++ qualifiedTable ++ " (" ++ columns ++ ") VALUES " ++ values)
      initialRead
      ("ALTER TABLE " ++ qualifiedTable ++ " ADD COLUMN " ++ column ++ " " ++ type ++ nullability)
      ("INSERT INTO " ++ qualifiedTable ++ " (" ++ evolvedColumns ++ ") VALUES " ++ evolvedValues)
      evolvedRead := by
  refine ⟨readStatement_createSchema ha hn, ?_, ?_, hinitial, ?_, ?_, hevolved⟩
  · have := readStatement_createTable ha hn ht (schema ++ ") WITH (" ++ properties ++ ")")
    simpa only [String.append_assoc] using this
  · simp only [String.append_assoc]
    exact readStatement_insert _
  · simp only [String.append_assoc]
    exact readStatement_alter _
  · simp only [String.append_assoc]
    exact readStatement_insert _

end Texts

theorem TrinoRenderedProgram.validatePlan_name {crates : Crates} {plan : TrinoExecutionPlan}
    (h : validatePlan crates plan = .ok ()) : plan.catalog.name = trinoCatalogName := by
  by_contra hname
  simp only [validatePlan, hname, except_throw_bind, ne_eq, not_false_eq_true, decide_true,
    Bool.true_or, if_true] at h
  split_ifs at h

/-- What the rest of this module uses of a rendered Trino program. -/
theorem TrinoRenderedProgram.render_ok {crates : Crates} {plan : TrinoExecutionPlan}
    {program : TrinoRenderedProgram} (h : render crates plan = .ok program) :
    program.fixture.namespace = plan.fixture.namespace ∧
      program.fixture.table = plan.fixture.table ∧
      ∃ q₀ q₁ q₂ q₃ e₃ q₄ q₅ q₆ e₆ q₇, program.operations =
          [.createNamespace q₀, .createTable q₁, .initialAppend q₂, .initialRead q₃ e₃,
            .addColumn q₄, .evolvedAppend q₅, .evolvedRead q₆ e₆, .snapshotRead q₇] ∧
        RenderedTexts trinoCatalogName plan.fixture.namespace plan.fixture.table q₀ q₁ q₂ q₃ q₄ q₅
          q₆ := by
  obtain ⟨_, hvalid, h⟩ := except_bind_eq_ok.mp h
  obtain ⟨_, hnamespace, h⟩ := except_bind_eq_ok.mp h
  obtain ⟨_, htable, h⟩ := except_bind_eq_ok.mp h
  obtain ⟨_, hcatalog, h⟩ := except_bind_eq_ok.mp h
  obtain ⟨_, -, h⟩ := except_bind_eq_ok.mp h
  obtain ⟨_, -, h⟩ := except_bind_eq_ok.mp h
  obtain ⟨_, -, h⟩ := except_bind_eq_ok.mp h
  obtain ⟨_, -, h⟩ := except_bind_eq_ok.mp h
  obtain ⟨_, -, h⟩ := except_bind_eq_ok.mp h
  obtain ⟨_, hinitial, h⟩ := except_bind_eq_ok.mp h
  obtain ⟨_, hevolved, h⟩ := except_bind_eq_ok.mp h
  obtain rfl := Except.ok.inj h
  obtain ⟨hn, rfl⟩ := except_ite_eq_ok hnamespace
  obtain ⟨ht, rfl⟩ := except_ite_eq_ok htable
  obtain ⟨-, rfl⟩ := except_ite_eq_ok hcatalog
  rw [validatePlan_name hvalid]
  exact ⟨rfl, rfl, _, _, _, _, _, _, _, _, _, _, rfl, renderedTexts (by decide) hn ht _ _ _ _ _ _ _
    _ _ (renderRead_select hinitial) (renderRead_select hevolved)⟩

-- ════════════════════════════════
-- The Trino runner
-- ════════════════════════════════

def maximumTrinoSqlBytes : ℕ := 1024 * 1024

/-- `char::is_control`. -/
def isControl (c : Char) : Bool := c.toNat < 32 || (127 ≤ c.toNat && c.toNat < 160)

def validSql (sql : String) : Bool :=
  !sql.isEmpty && sql.utf8ByteSize ≤ maximumTrinoSqlBytes && !sql.toList.any isControl

/-- How the output of the CLI is decoded. -/
inductive TrinoCliDecoding
  | singleText (field : String)
  | singleU64 (field : String)
  | canonicalRead (expected : CanonicalRead)
  | discard

abbrev TrinoCliDecoding.Value : TrinoCliDecoding → Type
  | .singleText _ => String
  | .singleU64 _ => ℕ
  | .canonicalRead _ => RowReadObservation
  | .discard => Unit

/-- What the production effects ask of the world: a CLI process with one statement, and the
table as the REST catalog and its metadata object describe it. -/
inductive TrinoServerCall
  | cli (sql : String) (decoding : TrinoCliDecoding)
  | tableObservation (fixture : TrinoFixtureTarget) (policy : TrinoObservationPolicy)

abbrev TrinoServerCall.Reply : TrinoServerCall → Type
  | .cli _ decoding => Except TrinoEffectFailure decoding.Value
  | .tableObservation _ _ => Except TrinoEffectFailure EngineTableObservation

abbrev TrinoServerProg := Prog TrinoServerCall TrinoServerCall.Reply

-- irreducible, lest unification evaluates the check of the text
@[irreducible]
def trinoQuery (sql : String) (decoding : TrinoCliDecoding) :
    TrinoServerProg (Except TrinoEffectFailure decoding.Value) :=
  if validSql sql then ask (TrinoServerCall.cli sql decoding) else return .error ⟨⟩

def trinoFixtureAbsentSql (fixture : TrinoFixtureTarget) : String :=
  "SELECT count(*) AS matches FROM information_schema.tables WHERE " ++
    ("table_schema = " ++ literal fixture.namespace ++ " AND table_name = " ++
      literal fixture.table)

def trinoNamespaceListedSql (fixture : TrinoFixtureTarget) : String :=
  "SELECT count(*) AS matches FROM information_schema.schemata WHERE " ++
    ("schema_name = " ++ literal fixture.namespace)

theorem trinoFixtureAbsentSql_select (fixture : TrinoFixtureTarget) :
    startsWith (trinoFixtureAbsentSql fixture) "SELECT " = true :=
  startsWith_append (by decide) _

theorem trinoNamespaceListedSql_select (fixture : TrinoFixtureTarget) :
    startsWith (trinoNamespaceListedSql fixture) "SELECT " = true :=
  startsWith_append (by decide) _

/-- The effects of `ProductionTrinoEffects`; its server runs for as long as the child does. -/
def productionTrinoEffects (program : TrinoRenderedProgram) (host : HostConsts) :
    (c : TrinoCall) → TrinoServerProg c.Reply
  | .runtimeObservation => do
    let .ok version ← trinoQuery "SELECT version() AS version" (.singleText "version")
      | return .error ⟨⟩
    return .ok {
      engineVersion := version
      dependencies := .ofList [("java", trinoJavaVersion)] _
      operatingSystem := host.os
      architecture := host.arch }
  | .initializeCatalog catalog configuration =>
    if catalog = program.catalog ∧
        (TrinoServerConfiguration.render program).toOption = some configuration then
      return .ok ()
    else return .error ⟨⟩
  | .fixtureAbsent fixture => do
    let .ok count ← trinoQuery (trinoFixtureAbsentSql fixture) (.singleU64 "matches")
      | return .error ⟨⟩
    return .ok (count = 0)
  | .execute operation => trinoQuery operation.sql .discard
  | .namespaceListedExactly fixture => do
    let .ok count ← trinoQuery (trinoNamespaceListedSql fixture) (.singleU64 "matches")
      | return .error ⟨⟩
    return .ok (count = 1)
  | .observeTable fixture policy => ask (TrinoServerCall.tableObservation fixture policy)
  | .read operation =>
    match operation with
    | .initialRead sql expected | .evolvedRead sql expected =>
      trinoQuery sql (.canonicalRead expected)
    | _ => return .error ⟨⟩
  | .snapshotCount operation =>
    trinoQuery ("SELECT count(*) AS snapshots FROM (" ++ operation.sql ++ ")")
      (.singleU64 "snapshots")

/-- The count a reply carries. -/
def TrinoCliDecoding.counted :
    (decoding : TrinoCliDecoding) → Except TrinoEffectFailure decoding.Value → Option ℕ
  | .singleU64 _, .ok count => some count
  | _, _ => none

/-- A Trino server over the catalog. -/
def trinoServer (s : Catalog) (c : TrinoServerCall) (r : c.Reply) (s' : Catalog) : Prop :=
  match c, r with
  | .cli sql decoding, r => Serves trinoCatalogName sql s r.isOk (decoding.counted r) s'
  | .tableObservation _ _, _ => s' = s

/-- What `StockTrinoRunner` does to the catalog and what it returns. -/
inductive TrinoExecutes (crates : Crates) (plan : TrinoExecutionPlan) : CatalogRunner
  /-- Some preparation failed. -/
  | notStarted {s runtime outcome} :
      TrinoExecutes crates plan s (.beforeProcess runtime outcome) s
  | finished {program configuration host runtime run micros s s'} :
      TrinoRenderedProgram.render crates plan = .ok program →
      TrinoServerConfiguration.render program = .ok configuration →
      ((runTrinoChild program).interpret (productionTrinoEffects program host)).Run trinoServer s
        (some run) s' →
      TrinoExecutes crates plan s (.fromInProcessEvents runtime run.exitCode run.events micros) s'
  /-- The blocking task died. -/
  | waitFailed {program configuration host runtime s s'} :
      TrinoRenderedProgram.render crates plan = .ok program →
      TrinoServerConfiguration.render program = .ok configuration →
      ((runTrinoChild program).interpret (productionTrinoEffects program host)).Reach trinoServer s
        s' →
      TrinoExecutes crates plan s (.beforeProcess runtime .waitFailed) s'

/-- The texts among the arguments of an effect are understood. -/
def TrinoCall.Readable : TrinoCall → Prop
  | .execute operation | .read operation => Engine.Readable trinoCatalogName operation.sql
  | _ => True

def TrinoServerCall.Readable : TrinoServerCall → Prop
  | .cli sql _ => Engine.Readable trinoCatalogName sql
  | .tableObservation _ _ => True

section Trino

variable {crates : Crates} {plan : TrinoExecutionPlan} {program : TrinoRenderedProgram}
  {host : HostConsts}

theorem runTrinoStages_readable (h : TrinoRenderedProgram.render crates plan = .ok program)
    (events : List EngineEvent) : (runTrinoStages program events).All TrinoCall.Readable := by
  obtain ⟨-, -, _, _, _, _, _, _, _, _, _, _, hops, texts⟩ := TrinoRenderedProgram.render_ok h
  unfold runTrinoStages
  rw [hops]
  refine all_bind_except (all_ask (.inr ⟨_, texts.createNamespace⟩)) (fun _ => all_pure _) fun _ => ?_
  refine all_bind_except (all_ask trivial) (fun _ => all_pure _) fun listed => ?_
  cases listed with
  | false => exact all_pure _
  | true =>
  refine all_bind_except (all_ask (.inr ⟨_, texts.createTable⟩)) (fun _ => all_pure _) fun _ => ?_
  refine all_bind_except (all_ask trivial) (fun _ => all_pure _) fun _ => ?_
  refine all_bind_except (all_ask (.inr ⟨_, texts.initialAppend⟩)) (fun _ => all_pure _) fun _ => ?_
  refine all_bind_except (all_ask trivial) (fun _ => all_pure _) fun _ => ?_
  refine all_bind_except (all_ask (.inl texts.initialRead)) (fun _ => all_pure _) fun _ => ?_
  refine all_ite (all_pure _) ?_
  refine all_bind_except (all_ask (.inr ⟨_, texts.addColumn⟩)) (fun _ => all_pure _) fun _ => ?_
  refine all_bind_except (all_ask trivial) (fun _ => all_pure _) fun _ => ?_
  refine all_bind_except (all_ask (.inr ⟨_, texts.evolvedAppend⟩)) (fun _ => all_pure _) fun _ => ?_
  refine all_bind_except (all_ask trivial) (fun _ => all_pure _) fun _ => ?_
  refine all_bind_except (all_ask (.inl texts.evolvedRead)) (fun _ => all_pure _) fun _ => ?_
  refine all_ite (all_pure _) ?_
  exact all_bind_except (all_ask trivial) (fun _ => all_pure _) fun _ => all_pure _

/-- A child only ever asks for what a server understands. -/
theorem runTrinoChild_readable (h : TrinoRenderedProgram.render crates plan = .ok program) :
    (runTrinoChild program).All TrinoCall.Readable := by
  unfold runTrinoChild
  refine all_bind_except (all_ask trivial) (fun _ => all_pure _) fun _ => ?_
  refine all_ite (all_pure _) ?_
  cases TrinoServerConfiguration.render program with
  | error _ => exact all_pure _
  | ok _ =>
  refine all_bind_except (all_ask trivial) (fun _ => all_pure _) fun _ => ?_
  refine all_bind_except (all_ask trivial) (fun _ => all_pure _) fun _ => ?_
  exact all_ite (all_pure _) (runTrinoStages_readable h _)

theorem trinoQuery_readable {sql : String} (h : Readable trinoCatalogName sql)
    (decoding : TrinoCliDecoding) : (trinoQuery sql decoding).All TrinoServerCall.Readable := by
  unfold trinoQuery
  exact all_ite (all_ask h) (all_pure _)

theorem productionTrinoEffects_readable (c : TrinoCall) (h : c.Readable) :
    (productionTrinoEffects program host c).All TrinoServerCall.Readable := by
  cases c with
  | runtimeObservation =>
    exact all_bind_except (trinoQuery_readable (.inl (by decide)) _) (fun _ => all_pure _)
      fun _ => all_pure _
  | initializeCatalog _ _ => exact all_ite (all_pure _) (all_pure _)
  | fixtureAbsent fixture =>
    exact all_bind_except (trinoQuery_readable (.inl (trinoFixtureAbsentSql_select fixture)) _)
      (fun _ => all_pure _) fun _ => all_pure _
  | namespaceListedExactly fixture =>
    exact all_bind_except (trinoQuery_readable (.inl (trinoNamespaceListedSql_select fixture)) _)
      (fun _ => all_pure _) fun _ => all_pure _
  | execute _ => exact trinoQuery_readable h _
  | observeTable _ _ => exact all_ask trivial
  | read operation =>
    cases operation with
    | initialRead _ _ | evolvedRead _ _ => exact trinoQuery_readable h _
    | _ => exact all_pure _
  | snapshotCount operation =>
    have hselect : startsWith ("SELECT count(*) AS snapshots FROM (" ++ operation.sql ++ ")")
        "SELECT " = true := startsWith_append (startsWith_append (by decide) _) _
    exact trinoQuery_readable (.inl hselect) _

theorem trinoServer_survives {s₀ s s' : Catalog} {c : TrinoServerCall} {r : c.Reply}
    (hread : c.Readable) (h : trinoServer s c r s') (hs : s₀.Survives s) : s₀.Survives s' := by
  cases c with
  | cli _ _ => exact hs.trans (Serves.survives hread h)
  | tableObservation _ _ => exact (show s' = s from h) ▸ hs

/-- A query changes nothing, and if it counts then it counts right. -/
theorem trinoQuery_select {sql : String} {decoding : TrinoCliDecoding} {s s' : Catalog}
    {r : Except TrinoEffectFailure decoding.Value} (hselect : startsWith sql "SELECT " = true)
    (h : (trinoQuery sql decoding).Run trinoServer s r s') :
    s' = s ∧ ∀ n query, decoding.counted r = some n → readCount sql = some query →
      validSql sql = true ∧ n = query.count trinoCatalogName s := by
  unfold trinoQuery at h
  obtain ⟨hvalid, h⟩ | ⟨-, rfl, rfl⟩ := run_ite h
  · obtain ⟨hs, hcount⟩ := Serves.query hselect (run_ask.mp h)
    exact ⟨hs, fun n query hn hquery => ⟨hvalid, hcount n query hn hquery⟩⟩
  · exact ⟨rfl, fun n query hn => by cases decoding <;> cases hn⟩

theorem trinoQuery_answers {sql : String} {decoding : TrinoCliDecoding} {s s' : Catalog}
    {r : Except TrinoEffectFailure decoding.Value} (hvalid : validSql sql = true)
    (h : Serves trinoCatalogName sql s r.isOk (decoding.counted r) s') :
    (trinoQuery sql decoding).Run trinoServer s r s' := by
  unfold trinoQuery
  rw [if_pos hvalid]
  exact run_ask.mpr h

theorem trinoQuery_fails (sql : String) (decoding : TrinoCliDecoding) (s : Catalog) :
    (trinoQuery sql decoding).Run trinoServer s (.error ⟨⟩) s := by
  unfold trinoQuery
  split
  · refine run_ask.mpr ?_
    have hfails := Serves.fails trinoCatalogName sql s
    cases decoding <;> exact hfails
  · exact ⟨rfl, rfl⟩

/-- The server can be asked for the fixture. -/
def TrinoAble (program : TrinoRenderedProgram) : Prop :=
  (∃ configuration, TrinoServerConfiguration.render program = .ok configuration) ∧
    validSql (trinoFixtureAbsentSql program.fixture) = true

theorem readCount_trinoFixtureAbsentSql (fixture : TrinoFixtureTarget) :
    readCount (trinoFixtureAbsentSql fixture) =
      some (.tables none fixture.namespace fixture.table) :=
  readCount_tables_literal _ _

theorem fixtureAbsent_true {fixture : TrinoFixtureTarget} {s s' : Catalog}
    (h : (productionTrinoEffects program host (.fixtureAbsent fixture)).Run trinoServer s (.ok true)
      s') :
    validSql (trinoFixtureAbsentSql fixture) = true ∧
      (fixture.namespace, fixture.table) ∉ s.tables := by
  obtain ⟨_, _, -, h, -⟩ | ⟨count, s₁, hcount, h, -⟩ := run_bind_except h
  · cases h
  · have hzero : count = 0 := by simpa using (Except.ok.inj h).symm
    obtain ⟨hvalid, hright⟩ := (trinoQuery_select (trinoFixtureAbsentSql_select fixture) hcount).2
      count _ rfl (readCount_trinoFixtureAbsentSql fixture)
    refine ⟨hvalid, fun hmem => ?_⟩
    exact CountQuery.tables_pos rfl hmem (hright.symm.trans hzero)

/-- A child that reports an absent fixture has asked the server. -/
theorem runTrinoChild_owns {s s' : Catalog} {run : TrinoChildRun}
    (h : ((runTrinoChild program).interpret (productionTrinoEffects program host)).Run trinoServer s
      (some run) s') (hmem : .fixturePreflight true ∈ run.events) :
    TrinoAble program ∧ (program.fixture.namespace, program.fixture.table) ∉ s.tables := by
  replace h := run_interpret.mp h
  unfold runTrinoChild at h
  obtain ⟨_, _, _, h, -⟩ | ⟨runtime, s₁, hruntime, h⟩ := run_bind_except h
  · obtain rfl := Option.some.inj h
    simp [trinoFailed] at hmem
  obtain ⟨_, h, -⟩ | ⟨_, h⟩ := run_ite h
  · obtain rfl := Option.some.inj h
    simp [trinoFailed] at hmem
  cases hconfiguration : TrinoServerConfiguration.render program with
  | error _ =>
    rw [hconfiguration] at h
    obtain rfl := Option.some.inj h.1
    simp [trinoFailed] at hmem
  | ok configuration =>
  rw [hconfiguration] at h
  obtain ⟨_, _, _, h, -⟩ | ⟨_, s₂, hinitialize, h⟩ := run_bind_except h
  · obtain rfl := Option.some.inj h
    simp [trinoFailed] at hmem
  obtain ⟨_, _, _, h, -⟩ | ⟨absent, s₃, habsent, h⟩ := run_bind_except h
  · obtain rfl := Option.some.inj h
    simp [trinoFailed] at hmem
  cases absent with
  | false =>
    obtain rfl := Option.some.inj h.1
    simp at hmem
  | true =>
    have hs₁ : s₁ = s := by
      obtain ⟨_, _, hquery, _, rfl⟩ | ⟨_, _, hquery, _, rfl⟩ :=
        run_bind_except (run_ask.mp hruntime) <;>
      exact (trinoQuery_select (by decide) hquery).1
    have hs₂ : s₂ = s₁ := by
      obtain ⟨_, _, rfl⟩ | ⟨_, _, rfl⟩ := run_ite (run_ask.mp hinitialize) <;> rfl
    subst hs₁ hs₂
    obtain ⟨hvalid, hfresh⟩ := fixtureAbsent_true (run_ask.mp habsent)
    exact ⟨⟨⟨configuration, hconfiguration⟩, hvalid⟩, hfresh⟩

/-- What a child reports that loses its server right after the preflight. -/
def trinoOrphan (runtime : EngineRuntimeObservation) : TrinoChildRun :=
  trinoFailed [.runtimeReady runtime, .catalogReady, .fixturePreflight true] .createNamespace .catalog

theorem runTrinoChild_orphan (hrender : TrinoRenderedProgram.render crates plan = .ok program)
    (hable : TrinoAble program) (host : HostConsts) {s : Catalog}
    (hfresh : (program.fixture.namespace, program.fixture.table) ∉ s.tables) :
    ∃ runtime, ((runTrinoChild program).interpret (productionTrinoEffects program host)).Run
      trinoServer s (some (trinoOrphan runtime)) s := by
  obtain ⟨-, -, _, _, _, _, _, _, _, _, _, _, hops, -⟩ := TrinoRenderedProgram.render_ok hrender
  obtain ⟨⟨configuration, hconfiguration⟩, hvalid⟩ := hable
  have hruntime : ∃ runtime, (productionTrinoEffects program host .runtimeObservation).Run
      trinoServer s (.ok runtime) s := by
    refine ⟨_, run_bind.mpr ⟨.ok trinoComponentVersion, s, trinoQuery_answers (by decide) ?_, rfl,
      rfl⟩⟩
    rw [Serves, if_pos (by decide)]
    exact ⟨rfl, fun _ _ h => by cases h⟩
  have hinitialize : (productionTrinoEffects program host
      (.initializeCatalog program.catalog configuration)).Run trinoServer s (.ok ()) s := by
    rw [productionTrinoEffects, if_pos ⟨rfl, by rw [hconfiguration]; rfl⟩]
    exact ⟨rfl, rfl⟩
  have habsent : (productionTrinoEffects program host (.fixtureAbsent program.fixture)).Run
      trinoServer s (.ok true) s := by
    refine run_bind.mpr ⟨.ok 0, s, trinoQuery_answers hvalid ?_, rfl, rfl⟩
    rw [Serves, if_pos (trinoFixtureAbsentSql_select _)]
    refine ⟨rfl, fun n query hn hquery => ?_⟩
    obtain rfl := Option.some.inj hn
    obtain rfl := Option.some.inj ((readCount_trinoFixtureAbsentSql _).symm.trans hquery)
    exact (CountQuery.tables_zero hfresh).symm
  obtain ⟨runtime, hruntime⟩ := hruntime
  have horder : validOperationOrder program.operations = true := by rw [hops]; rfl
  refine ⟨runtime, run_interpret.mpr (run_ask_bind.mpr ⟨.ok runtime, s, hruntime, ?_⟩)⟩
  simp only [horder, hconfiguration, Bool.not_true, Bool.false_eq_true, if_false]
  refine run_ask_bind.mpr ⟨.ok (), s, hinitialize, run_ask_bind.mpr ⟨.ok true, s, habsent, ?_⟩⟩
  simp only [Bool.not_true, Bool.false_eq_true, if_false]
  unfold runTrinoStages
  rw [hops]
  exact run_ask_bind.mpr ⟨.error ⟨⟩, s, trinoQuery_fails _ _ s, rfl, rfl⟩

/-- Authorisation of a run inside the harness. -/
theorem fixturePreflight_of_authorized {runtime : RuntimeVerification} {exitCode : ℤ}
    {events : List EngineEvent} {micros : ℕ}
    (h : (EngineProcessExecution.fromInProcessEvents runtime exitCode events
      micros).cleanupAuthorized = true) : .fixturePreflight true ∈ events := by
  obtain ⟨⟨capture, hcapture, hmem⟩, -⟩ := (cleanupAuthorized_iff _).mp h
  obtain rfl := Option.some.inj hcapture
  exact hmem

theorem beforeProcess_unauthorized (runtime : RuntimeVerification)
    (outcome : EngineProcessOutcome) :
    (EngineProcessExecution.beforeProcess runtime outcome).cleanupAuthorized = false := by
  simp [EngineProcessExecution.beforeProcess, EngineProcessExecution.cleanupAuthorized]

theorem TrinoExecutes.survives {s s' : Catalog} {process : EngineProcessExecution}
    (h : TrinoExecutes crates plan s process s') : s.Survives s' := by
  have hstep : ∀ s₁ (c : TrinoServerCall) r s₂, c.Readable → trinoServer s₁ c r s₂ →
      s.Survives s₁ → s.Survives s₂ := fun _ _ _ _ => trinoServer_survives
  cases h with
  | notStarted => exact .refl s
  | finished hrender _ hrun =>
    exact hrun.preserves hstep
      (all_interpret productionTrinoEffects_readable (runTrinoChild_readable hrender)) (.refl s)
  | waitFailed hrender _ hrun =>
    exact hrun.preserves hstep
      (all_interpret productionTrinoEffects_readable (runTrinoChild_readable hrender)) (.refl s)

/-- A verification of nothing, as the sample processes carry it. -/
def unverified : RuntimeVerification := ⟨⟨"linux", "linux", true, "arm64", "aarch64", true⟩, []⟩

theorem TrinoExecutes.contract
    (hrender : TrinoRenderedProgram.render crates plan = .ok program) :
    RunnerContract (TrinoExecutes crates plan) plan.fixture (TrinoAble program) := by
  obtain ⟨hnamespace, htable, -⟩ := TrinoRenderedProgram.render_ok hrender
  constructor
  · exact fun h => h.survives
  · intro s process s' h hauth
    cases h with
    | notStarted | waitFailed _ _ _ => simp [beforeProcess_unauthorized] at hauth
    | finished hrender' _ hrun =>
      obtain rfl := Except.ok.inj (hrender.symm.trans hrender')
      rw [← hnamespace, ← htable]
      exact runTrinoChild_owns hrun (fixturePreflight_of_authorized hauth)
  · intro hable s hfresh
    rw [← hnamespace, ← htable] at hfresh
    obtain ⟨configuration, hconfiguration⟩ := hable.1
    obtain ⟨runtime, hrun⟩ := runTrinoChild_orphan hrender hable ⟨"linux", "aarch64"⟩ hfresh
    exact ⟨.fromInProcessEvents unverified _ _ 0, .finished hrender hconfiguration hrun, rfl⟩

end Trino

-- ════════════════════════════════
-- The DuckDB runner
-- ════════════════════════════════

theorem DuckDbRenderedProgram.validatePlan_policy {crates : Crates} {plan : DuckDbExecutionPlan}
    (h : validatePlan crates plan = .ok ()) :
    plan.catalog.name = duckdbCatalogName ∧
      credentialFreeHttpUrl crates plan.fileIo.endpoint = true := by
  constructor <;> by_contra hpolicy
  · simp only [validatePlan, hpolicy, except_throw_bind, ne_eq, not_false_eq_true, decide_true,
      Bool.true_or, Bool.or_true, if_true] at h
    cases h
  · rw [Bool.not_eq_true] at hpolicy
    simp only [validatePlan, hpolicy, except_throw_bind, Bool.not_false, Bool.true_or,
      Bool.or_true, if_true] at h
    cases h

/-- What the rest of this module uses of a rendered DuckDB program. -/
theorem DuckDbRenderedProgram.render_ok {crates : Crates} {plan : DuckDbExecutionPlan}
    {program : DuckDbRenderedProgram} (h : render crates plan = .ok program) :
    program.catalogName = duckdbCatalogName ∧
      program.fixture.namespace = plan.fixture.namespace ∧
      program.fixture.table = plan.fixture.table ∧
      credentialFreeHttpUrl crates program.fileIo.endpoint = true ∧
      ∃ q₀ q₁ q₂ q₃ e₃ q₄ q₅ q₆ e₆, program.operations =
          [.createNamespace q₀, .createTable q₁, .initialAppend q₂, .initialRead q₃ e₃,
            .addColumn q₄, .evolvedAppend q₅, .evolvedRead q₆ e₆, .snapshotRead] ∧
        RenderedTexts duckdbCatalogName plan.fixture.namespace plan.fixture.table q₀ q₁ q₂ q₃ q₄ q₅
          q₆ := by
  obtain ⟨_, hvalid, h⟩ := except_bind_eq_ok.mp h
  obtain ⟨_, hnamespace, h⟩ := except_bind_eq_ok.mp h
  obtain ⟨_, htable, h⟩ := except_bind_eq_ok.mp h
  obtain ⟨_, hcatalog, h⟩ := except_bind_eq_ok.mp h
  obtain ⟨_, -, h⟩ := except_bind_eq_ok.mp h
  obtain ⟨_, -, h⟩ := except_bind_eq_ok.mp h
  obtain ⟨_, -, h⟩ := except_bind_eq_ok.mp h
  obtain ⟨_, -, h⟩ := except_bind_eq_ok.mp h
  obtain ⟨_, -, h⟩ := except_bind_eq_ok.mp h
  obtain ⟨_, hinitial, h⟩ := except_bind_eq_ok.mp h
  obtain ⟨_, hevolved, h⟩ := except_bind_eq_ok.mp h
  obtain rfl := Except.ok.inj h
  obtain ⟨hn, rfl⟩ := except_ite_eq_ok hnamespace
  obtain ⟨ht, rfl⟩ := except_ite_eq_ok htable
  obtain ⟨-, rfl⟩ := except_ite_eq_ok hcatalog
  obtain ⟨hname, hendpoint⟩ := validatePlan_policy hvalid
  rw [hname]
  exact ⟨rfl, rfl, rfl, hendpoint, _, _, _, _, _, _, _, _, _, rfl, renderedTexts (by decide) hn ht _
    _ _ _ _ _ _ _ _ (renderRead_select hinitial) (renderRead_select hevolved)⟩

/-- The CLI over the catalog it attaches. -/
def duckdbServer (s : Catalog) (c : DuckDbCall) (r : c.Reply) (s' : Catalog) : Prop :=
  match c, r with
  | .cli _ sql, r => Serves duckdbCatalogName sql s r.isOk (countedRows r) s'
  | .loadTable, _ | .tableObservation, _ => s' = s

/-- What `StockDuckDbRunner` does to the catalog and what it returns. -/
inductive DuckDbExecutes (crates : Crates) (plan : DuckDbExecutionPlan) : CatalogRunner
  /-- Some preparation failed. -/
  | notStarted {s runtime outcome} :
      DuckDbExecutes crates plan s (.beforeProcess runtime outcome) s
  | finished {effects : DuckDbProductionEffects} {host runtime} {run : DuckDbRun} {micros s s'} :
      DuckDbRenderedProgram.render crates plan = .ok effects.program →
      (runDuckDbProgram crates effects host).Run duckdbServer s (some run) s' →
      DuckDbExecutes crates plan s (.fromInProcessEvents runtime run.1 run.2 micros) s'

def DuckDbCall.Readable : DuckDbCall → Prop
  | .cli _ sql => Engine.Readable duckdbCatalogName sql
  | .loadTable | .tableObservation => True

section DuckDb

variable {crates : Crates} {plan : DuckDbExecutionPlan} {effects : DuckDbProductionEffects}
  {host : HostConsts}

theorem duckdbQuery_readable {sql : String} (h : Readable duckdbCatalogName sql) :
    (duckdbQuery crates effects sql).All DuckDbCall.Readable := by
  unfold duckdbQuery
  split
  · exact all_pure _
  · exact all_ask h

theorem duckdbExecute_readable {operation : DuckDbOperation} {sql : String}
    (hsql : operation.sql = some sql) (h : Readable duckdbCatalogName sql) :
    (duckdbExecute crates effects operation).All DuckDbCall.Readable := by
  unfold duckdbExecute
  rw [hsql]
  exact all_bind (duckdbQuery_readable h) fun _ => all_pure _

theorem duckdbSnapshotCount_readable :
    (duckdbSnapshotCount crates effects).All DuckDbCall.Readable := by
  unfold duckdbSnapshotCount
  refine all_bind_except (all_ask trivial) (fun _ => all_pure _) fun load => ?_
  cases load with
  | absent _ _ => exact all_pure _
  | present _ _ state =>
    have hselect : startsWith ("SELECT count(*) AS snapshots FROM iceberg_snapshots(" ++
        literal state.table.metadataLocation ++ ")") "SELECT " = true :=
      startsWith_append (startsWith_append (by decide) _) _
    refine all_bind_except (duckdbQuery_readable (.inl hselect)) (fun _ => all_pure _) fun _ => ?_
    dsimp only
    split <;> exact all_pure _

theorem duckdbRead_readable {operation : DuckDbOperation} {sql : String}
    (hsql : operation.sql = some sql) (h : startsWith sql "SELECT " = true) :
    (duckdbRead crates effects operation).All DuckDbCall.Readable := by
  unfold duckdbRead
  split
  case h_3 => exact all_pure _
  all_goals
    obtain rfl := Option.some.inj hsql
    refine all_bind_except (duckdbQuery_readable (.inl h)) (fun _ => all_pure _) fun _ => ?_
    refine all_ite (all_pure _) ?_
    split
    · exact all_ite (all_pure _) (all_pure _)
    · exact all_pure _

theorem fixtureAbsentSql_select (program : DuckDbRenderedProgram) :
    startsWith (fixtureAbsentSql program) "SELECT " = true :=
  startsWith_append (by decide) _

theorem namespaceListedSql_select (program : DuckDbRenderedProgram) :
    startsWith (namespaceListedSql program) "SELECT " = true :=
  startsWith_append (by decide) _

theorem runDuckDbStages_readable
    (h : DuckDbRenderedProgram.render crates plan = .ok effects.program)
    (events : List EngineEvent) :
    (runDuckDbStages crates effects events).All DuckDbCall.Readable := by
  obtain ⟨-, -, -, -, _, _, _, _, _, _, _, _, _, hops, texts⟩ := DuckDbRenderedProgram.render_ok h
  unfold runDuckDbStages
  rw [hops]
  refine all_bind_except (duckdbExecute_readable rfl (.inr ⟨_, texts.createNamespace⟩))
    (fun _ => all_pure _) fun _ => ?_
  refine all_bind (duckdbQuery_readable (.inl (namespaceListedSql_select _))) fun _ => ?_
  refine all_ite (all_pure _) ?_
  refine all_bind_except (duckdbExecute_readable rfl (.inr ⟨_, texts.createTable⟩))
    (fun _ => all_pure _) fun _ => ?_
  refine all_bind_except (all_ask trivial) (fun _ => all_pure _) fun _ => ?_
  refine all_bind_except (duckdbExecute_readable rfl (.inr ⟨_, texts.initialAppend⟩))
    (fun _ => all_pure _) fun _ => ?_
  refine all_bind_except duckdbSnapshotCount_readable (fun _ => all_pure _) fun _ => ?_
  refine all_bind_except (duckdbRead_readable rfl texts.initialRead) (fun _ => all_pure _) fun _ => ?_
  refine all_bind_except (duckdbExecute_readable rfl (.inr ⟨_, texts.addColumn⟩))
    (fun _ => all_pure _) fun _ => ?_
  refine all_bind_except (all_ask trivial) (fun _ => all_pure _) fun _ => ?_
  refine all_bind_except (duckdbExecute_readable rfl (.inr ⟨_, texts.evolvedAppend⟩))
    (fun _ => all_pure _) fun _ => ?_
  refine all_bind_except duckdbSnapshotCount_readable (fun _ => all_pure _) fun _ => ?_
  refine all_bind_except (duckdbRead_readable rfl texts.evolvedRead) (fun _ => all_pure _) fun _ => ?_
  exact all_bind_except (all_ask trivial) (fun _ => all_pure _) fun _ => all_pure _

theorem runDuckDbProgram_readable
    (h : DuckDbRenderedProgram.render crates plan = .ok effects.program) :
    (runDuckDbProgram crates effects host).All DuckDbCall.Readable := by
  unfold runDuckDbProgram
  refine all_bind_except (duckdbQuery_readable (.inl (by decide))) (fun _ => all_pure _) fun _ => ?_
  refine all_ite (all_pure _) ?_
  refine all_bind (duckdbQuery_readable (.inl (fixtureAbsentSql_select _))) fun _ => ?_
  exact all_ite (all_pure _) (runDuckDbStages_readable h _)

theorem duckdbServer_survives {s₀ s s' : Catalog} {c : DuckDbCall} {r : c.Reply}
    (hread : c.Readable) (h : duckdbServer s c r s') (hs : s₀.Survives s) : s₀.Survives s' := by
  cases c with
  | cli _ _ => exact hs.trans (Serves.survives hread h)
  | loadTable | tableObservation => exact (show s' = s from h) ▸ hs

theorem DuckDbExecutes.survives {s s' : Catalog} {process : EngineProcessExecution}
    (h : DuckDbExecutes crates plan s process s') : s.Survives s' := by
  have hstep : ∀ s₁ (c : DuckDbCall) r s₂, c.Readable → duckdbServer s₁ c r s₂ →
      s.Survives s₁ → s.Survives s₂ := fun _ _ _ _ => duckdbServer_survives
  cases h with
  | notStarted => exact .refl s
  | finished hrender hrun =>
    exact hrun.preserves hstep (runDuckDbProgram_readable hrender) (.refl s)

theorem duckdbQuery_select {sql : String} {s s' : Catalog} {r : Except Unit (List Json)}
    (hselect : startsWith sql "SELECT " = true)
    (h : (duckdbQuery crates effects sql).Run duckdbServer s r s') :
    s' = s ∧ ∀ n query, countedRows r = some n → readCount sql = some query →
      n = query.count duckdbCatalogName s := by
  unfold duckdbQuery at h
  split at h
  · obtain ⟨rfl, rfl⟩ := h
    exact ⟨rfl, fun _ _ hn => by cases hn⟩
  · exact Serves.query hselect (run_ask.mp h)

theorem readCount_fixtureAbsentSql (program : DuckDbRenderedProgram) :
    readCount (fixtureAbsentSql program) =
      some (.tables (some program.catalogName) program.fixture.namespace program.fixture.table) :=
  readCount_tables_catalog _ _ _

/-- A run that reports an absent fixture has asked the CLI. -/
theorem runDuckDbProgram_owns (hname : effects.program.catalogName = duckdbCatalogName)
    {s s' : Catalog} {run : DuckDbRun}
    (h : (runDuckDbProgram crates effects host).Run duckdbServer s (some run) s')
    (hmem : .fixturePreflight true ∈ run.2) :
    (effects.program.fixture.namespace, effects.program.fixture.table) ∉ s.tables := by
  unfold runDuckDbProgram at h
  obtain ⟨_, _, _, h, -⟩ | ⟨rows, s₁, hversion, h⟩ := run_bind_except h
  · obtain rfl := Option.some.inj h
    simp [duckdbFailed] at hmem
  obtain ⟨_, h, -⟩ | ⟨_, h⟩ := run_ite h
  · obtain rfl := Option.some.inj h
    simp [duckdbFailed] at hmem
  obtain ⟨counted, s₂, hcounted, h⟩ := run_bind.mp h
  obtain ⟨hs₁, -⟩ := duckdbQuery_select (by decide) hversion
  obtain ⟨-, hright⟩ := duckdbQuery_select (fixtureAbsentSql_select _) hcounted
  by_cases habsent : countedRows counted = some 0
  · have hcount := hright 0 _ habsent (readCount_fixtureAbsentSql _)
    rw [← hs₁]
    intro htable
    exact CountQuery.tables_pos (by simp [hname]) htable hcount.symm
  · simp only [habsent, decide_false, Bool.not_false, if_true] at h
    obtain rfl := Option.some.inj h.1
    simp at hmem

/-- The credentials a plan calls for let every query start. -/
theorem setupSql_some {program : DuckDbRenderedProgram}
    (hendpoint : credentialFreeHttpUrl crates program.fileIo.endpoint = true) :
    ∃ effects : DuckDbProductionEffects, effects.program = program ∧
      ∃ setup, setupSql crates effects = some setup := by
  unfold credentialFreeHttpUrl at hendpoint
  split at hendpoint
  · cases hendpoint
  · next url hurl =>
    simp only [Bool.and_eq_true, Option.isSome_iff_exists] at hendpoint
    obtain ⟨⟨⟨⟨⟨-, host, hhost⟩, -⟩, -⟩, -⟩, -⟩ := hendpoint
    cases hauth : program.authentication with
    | anonymous =>
      refine ⟨⟨program, "access", "secret", none⟩, rfl, ?_⟩
      simp [setupSql, hurl, hhost, hauth, Except.toOption]
    | oAuth2ClientCredentials _ _ =>
      refine ⟨⟨program, "access", "secret", some ("id", "secret")⟩, rfl, ?_⟩
      simp [setupSql, hurl, hhost, hauth, Except.toOption]

theorem duckdbQuery_answers {setup sql : String} (hsetup : setupSql crates effects = some setup)
    {s s' : Catalog} {r : Except Unit (List Json)}
    (h : Serves duckdbCatalogName sql s r.isOk (countedRows r) s') :
    (duckdbQuery crates effects sql).Run duckdbServer s r s' := by
  unfold duckdbQuery
  rw [hsetup]
  exact run_ask.mpr h

/-- What a run reports whose CLI fails right after the preflight. -/
def duckdbOrphan (host : HostConsts) : DuckDbRun :=
  duckdbFailed [.runtimeReady (duckdbRuntime host), .catalogReady, .fixturePreflight true]
    .createNamespace .catalog

theorem runDuckDbProgram_orphan
    (hrender : DuckDbRenderedProgram.render crates plan = .ok effects.program) {setup : String}
    (hsetup : setupSql crates effects = some setup) (host : HostConsts) {s : Catalog}
    (hfresh : (effects.program.fixture.namespace, effects.program.fixture.table) ∉ s.tables) :
    (runDuckDbProgram crates effects host).Run duckdbServer s (some (duckdbOrphan host)) s := by
  obtain ⟨-, -, -, -, _, _, _, _, _, _, _, _, _, hops, -⟩ := DuckDbRenderedProgram.render_ok hrender
  have hversion : (duckdbQuery crates effects "SELECT version() AS version").Run duckdbServer s
      (.ok [.object [("version", .string "v1.5.3")]]) s := by
    refine duckdbQuery_answers hsetup ?_
    rw [Serves, if_pos (by decide)]
    exact ⟨rfl, fun _ _ h => by cases h⟩
  have habsent : (duckdbQuery crates effects (fixtureAbsentSql effects.program)).Run duckdbServer s
      (.ok [.object [("matches", .number (.posInt 0))]]) s := by
    refine duckdbQuery_answers hsetup ?_
    rw [Serves, if_pos (fixtureAbsentSql_select _)]
    refine ⟨rfl, fun n query hn hquery => ?_⟩
    obtain rfl := Option.some.inj hn
    obtain rfl := Option.some.inj ((readCount_fixtureAbsentSql _).symm.trans hquery)
    exact (CountQuery.tables_zero hfresh).symm
  refine run_bind.mpr ⟨_, s, hversion, run_bind.mpr ⟨_, s, habsent, ?_⟩⟩
  unfold runDuckDbStages
  rw [hops]
  refine run_bind.mpr ⟨.error (), s, ?_, rfl, rfl⟩
  exact run_bind.mpr ⟨.error (), s, duckdbQuery_answers hsetup (Serves.fails _ _ s), rfl, rfl⟩

theorem DuckDbExecutes.contract {program : DuckDbRenderedProgram}
    (hrender : DuckDbRenderedProgram.render crates plan = .ok program) :
    RunnerContract (DuckDbExecutes crates plan) plan.fixture True := by
  obtain ⟨-, hnamespace, htable, hendpoint, -⟩ := DuckDbRenderedProgram.render_ok hrender
  constructor
  · exact fun h => h.survives
  · intro s process s' h hauth
    cases h with
    | notStarted => simp [beforeProcess_unauthorized] at hauth
    | finished hrender' hrun =>
      obtain ⟨hname, hnamespace', htable', -⟩ := DuckDbRenderedProgram.render_ok hrender'
      rw [← hnamespace', ← htable']
      exact ⟨trivial, runDuckDbProgram_owns hname hrun (fixturePreflight_of_authorized hauth)⟩
  · intro _ s hfresh
    obtain ⟨effects, rfl, setup, hsetup⟩ := setupSql_some hendpoint
    rw [← hnamespace, ← htable] at hfresh
    exact ⟨.fromInProcessEvents unverified _ _ 0,
      .finished hrender (runDuckDbProgram_orphan hrender hsetup ⟨"linux", "aarch64"⟩ hfresh), rfl⟩

end DuckDb

-- ════════════════════════════════
-- What survives
-- ════════════════════════════════

/-- The preflight asks for the table alone, the namespace is created only if it does not exist,
and the cleanup drops it in any case. So what existed before survives every run exactly if the
fixture's namespace did not exist or held a table, or no server can be asked. -/
theorem runEngineWorkflow_survives_iff (crates : Crates) (plan : InteroperabilityPlan)
    (s₀ : Catalog) :
    (∀ trino program, plan.execution = .trino trino →
      TrinoRenderedProgram.render crates trino = .ok program →
      ((∀ execution s', (runEngineWorkflow crates plan).Run
          (catalogWorld (TrinoExecutes crates trino) plan.fixture) s₀ execution s' →
          s₀.Survives s') ↔
        plan.fixture.namespace ∉ s₀.namespaces ∨
          (∃ t ∈ s₀.tables, t.1 = plan.fixture.namespace) ∨ ¬TrinoAble program)) ∧
    (∀ duckDb program, plan.execution = .duckDb duckDb →
      DuckDbRenderedProgram.render crates duckDb = .ok program →
      ((∀ execution s', (runEngineWorkflow crates plan).Run
          (catalogWorld (DuckDbExecutes crates duckDb) plan.fixture) s₀ execution s' →
          s₀.Survives s') ↔
        plan.fixture.namespace ∉ s₀.namespaces ∨
          ∃ t ∈ s₀.tables, t.1 = plan.fixture.namespace)) := by
  constructor
  · intro trino program hplan hrender
    have hfixture : plan.fixture = trino.fixture := by
      simp [InteroperabilityPlan.fixture, hplan, EngineExecutionPlan.fixture]
    exact survives_iff_of_contract (hfixture ▸ TrinoExecutes.contract hrender) s₀
  · intro duckDb program hplan hrender
    have hfixture : plan.fixture = duckDb.fixture := by
      simp [InteroperabilityPlan.fixture, hplan, EngineExecutionPlan.fixture]
    have contract : RunnerContract (DuckDbExecutes crates duckDb) plan.fixture True :=
      hfixture ▸ DuckDbExecutes.contract hrender
    rw [survives_iff_of_contract contract s₀, not_true, or_false]

/-- A catalog with one empty namespace, the one the sample plan will use. -/
def emptyNamespaceCatalog : Catalog where
  namespaces := {"interop_run"}
  tables := ∅
  inNamespace := by simp

theorem render_sampleTrinoPlan :
    TrinoRenderedProgram.render sampleCrates sampleTrinoPlan = .ok sampleProgram := by
  decide +kernel

theorem trinoAble_sampleProgram : TrinoAble sampleProgram :=
  ⟨sampleProgram_configured, by decide +kernel⟩

theorem runEngineWorkflow_survives_iff_vacant :
    ∀ execution s', (runEngineWorkflow sampleCrates samplePlan).Run
      (catalogWorld (TrinoExecutes sampleCrates sampleTrinoPlan) samplePlan.fixture)
      ⟨∅, ∅, by simp⟩ execution s' → (⟨∅, ∅, by simp⟩ : Catalog).Survives s' :=
  ((runEngineWorkflow_survives_iff sampleCrates samplePlan ⟨∅, ∅, by simp⟩).1 sampleTrinoPlan
    sampleProgram rfl render_sampleTrinoPlan).mpr (.inl (by simp))

/-- An empty namespace that was there before the run is gone after it. -/
theorem runEngineWorkflow_drops_foreign_namespace :
    ∃ execution s', (runEngineWorkflow sampleCrates samplePlan).Run
        (catalogWorld (TrinoExecutes sampleCrates sampleTrinoPlan) samplePlan.fixture)
        emptyNamespaceCatalog execution s' ∧
      ¬emptyNamespaceCatalog.Survives s' := by
  obtain ⟨process, hrunner, hauth⟩ := (TrinoExecutes.contract render_sampleTrinoPlan).starts
    trinoAble_sampleProgram emptyNamespaceCatalog (by simp [emptyNamespaceCatalog])
  exact runEngineWorkflow_destroys hrunner hauth (by decide) (by simp [emptyNamespaceCatalog])

end CatalogBench.Engine
