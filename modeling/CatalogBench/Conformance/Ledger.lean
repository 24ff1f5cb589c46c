import Mathlib.Data.List.Nodup
import CatalogBench.Conformance.Namespace
import CatalogBench.Conformance.Table
import CatalogBench.Conformance.Commit

/-!
# The operation ledger

A transcript lists the operations of its scenario, attempted or skipped. Each part of a workflow
records the same operations on each of its branches, so the ledger of a workflow does not depend
on the replies, the further pages of a listing apart.
-/

set_option linter.all false

namespace CatalogBench.Conformance
open Interaction Workflow CatalogRoutes

-- ════════════════════════════════
-- Ledgers with pages
-- ════════════════════════════════

section Pages

variable {α β : Type}

/-- The workflow records the pages of a listing between these operations. -/
def LogsPages (workflow : Workflow (PaginationTranscript × α)) (first rest : List String) : Prop :=
  Emits workflow fun result calls =>
    ∃ pages, PageCount result.1 pages ∧ ids calls = first ++ pageIds 1 pages ++ rest

theorem Logs.bindPages {workflow : Workflow α} {f : α → Workflow (PaginationTranscript × β)}
    {operations first rest : List String} (h : Logs workflow operations)
    (hf : ∀ a, LogsPages (f a) first rest) :
    LogsPages (workflow >>= f) (operations ++ first) rest := by
  refine Emits.bind h fun a calls hcalls => (hf a).mono ?_
  rintro result calls' ⟨pages, hpages, hids⟩
  refine ⟨pages, hpages, ?_⟩
  rw [ids_append, hcalls, hids]
  simp only [List.append_assoc]

/-- What follows the pages keeps the report. -/
theorem LogsPages.bind {workflow : Workflow (PaginationTranscript × α)}
    {f : PaginationTranscript × α → Workflow (PaginationTranscript × β)}
    {first rest more : List String} (h : LogsPages workflow first rest)
    (hf : ∀ a, Emits (f a) fun b calls => ids calls = more ∧ b.1 = a.1) :
    LogsPages (workflow >>= f) first (rest ++ more) := by
  refine Emits.bind h ?_
  rintro a calls ⟨pages, hpages, hids⟩
  refine (hf a).mono ?_
  rintro b calls' ⟨hmore, hreport⟩
  refine ⟨pages, hreport ▸ hpages, ?_⟩
  rw [ids_append, hids, hmore]
  simp only [List.append_assoc]

/-- A listing that is not paged is recorded as its first page. -/
theorem logsPages_skip {capability reason : String} (a : α) :
    LogsPages (do
      skip (pageId 1) capability reason
      return (.notEvaluated reason, a)) [] [] := by
  rw [LogsPages, emits_bind, emits_skip, emits_pure]
  refine ⟨1, ⟨Nat.le_refl 1, by decide, ?_⟩, rfl⟩
  rintro reported unique ⟨⟩

theorem pageIds_succ (further : ℕ) :
    pageIds 1 (further + 1) = "list-page-001" :: pageIds 2 further := by
  have hfirst : pageId 1 = "list-page-001" := by decide
  rw [pageIds, List.range'_succ, List.map_cons, hfirst]
  rfl

/-- The further pages can be listed last. -/
theorem perm_pages {pages : ℕ} (h : 1 ≤ pages) (first rest : List String) :
    (first ++ (pageIds 1 pages ++ rest)).Perm
      (first ++ "list-page-001" :: rest ++ pageIds 2 (pages - 1)) := by
  obtain ⟨further, rfl⟩ : ∃ further, pages = further + 1 := ⟨pages - 1, by omega⟩
  rw [pageIds_succ, List.append_assoc, List.cons_append, List.cons_append, Nat.add_sub_cancel]
  exact (List.perm_append_comm.cons _).append_left first

/-- The workflow records these operations in some order, and the pages after the first. -/
def Records (workflow : Workflow (PaginationTranscript × α)) (operations : List String) : Prop :=
  Emits workflow fun result calls =>
    ∃ pages, PageCount result.1 pages ∧ (ids calls).Perm (operations ++ pageIds 2 (pages - 1))

theorem LogsPages.records {workflow : Workflow (PaginationTranscript × α)}
    {first rest : List String} (h : LogsPages workflow first rest) :
    Records workflow (first ++ "list-page-001" :: rest) := by
  refine h.mono ?_
  rintro result calls ⟨pages, hpages, hids⟩
  refine ⟨pages, hpages, ?_⟩
  rw [hids, List.append_assoc]
  exact perm_pages hpages.one_le first rest

theorem perm_further {operations fixed further : List String}
    (h : operations.Perm (fixed ++ further)) (first rest : List String) :
    (first ++ (operations ++ rest)).Perm (first ++ (fixed ++ rest) ++ further) := by
  rw [List.append_assoc, List.append_assoc]
  refine List.Perm.append_left first ((h.append_right rest).trans ?_)
  rw [List.append_assoc]
  exact List.perm_append_comm.append_left fixed

end Pages

-- ════════════════════════════════
-- The namespace workflow
-- ════════════════════════════════

namespace Namespace

/-- The preflights as checked requests. -/
def preflightRequests (setting : Setting) (routes : CatalogRoutes) (fixture : NamespaceFixture) :
    List CheckedRequest :=
  (preflightOperations fixture).map fun operation =>
    ⟨operation.1, loadCapability, .get, routes.namespace setting.web operation.2,
      (validateErrorResponse setting.web · 404 "NoSuchNamespaceException")⟩

variable {setting : Setting} {routes : CatalogRoutes} (h : routes.Buildable setting.web)
  (fixture : NamespaceFixture)

include h

theorem preflightRequests_urls : ∀ request ∈ preflightRequests setting routes fixture,
    request.url = .ok (built request.url) := by
  simp only [preflightRequests, List.forall_mem_map]
  exact fun operation _ => namespace_eq h operation.2

/-- Every preflight is sent, and its answer checked. -/
theorem preflightFixture_emits :
    Emits (preflightFixture setting routes fixture) fun results calls =>
      ∃ replies : List HttpReply,
        replies.length = (preflightRequests setting routes fixture).length ∧
        calls = List.zipWith CheckedRequest.issued (preflightRequests setting routes fixture)
          replies ∧
        (allResults results = .ok () ↔ ∀ entry ∈ (preflightRequests setting routes fixture).zip
          replies, entry.1.Passes setting entry.2) := by
  refine (attemptAll_emits setting (preflightRequests_urls h fixture)).mono ?_
  rintro _ calls ⟨replies, hlength, rfl, rfl⟩
  exact ⟨replies, hlength, rfl, allResults_checks setting _ replies⟩

theorem preflightFixture_logs :
    Logs (preflightFixture setting routes fixture)
      ["preflight-primary", "preflight-sibling", "preflight-child"] := by
  refine (preflightFixture_emits h fixture).mono ?_
  rintro _ _ ⟨replies, hlength, rfl, -⟩
  exact ids_issued hlength

theorem createChild_logs (primary : Except String Unit) :
    Logs (createChild setting routes fixture primary) ["create-child"] :=
  logs_ite ((logs_request (namespaceCollection_eq h)).cons fun _ => logs_pure _)
    (logs_skip.cons fun _ => logs_pure _)

theorem createNamespaces_logs :
    Logs (createNamespaces setting routes fixture)
      ["create-primary", "create-sibling", "create-child"] :=
  (logs_request (namespaceCollection_eq h)).cons fun _ =>
    (logs_request (namespaceCollection_eq h)).cons fun _ =>
      (createChild_logs h fixture _).cons fun _ => logs_pure _

theorem listTopLevel_logs (creates : Creates) :
    Logs (listTopLevel setting routes fixture creates) ["list-top-level"] :=
  logs_ite ((logs_request (namespaceCollection_eq h)).cons fun _ => logs_pure _)
    (logs_skip.cons fun _ => logs_pure _)

theorem exercisePrimary_logs (creates : Creates) (facts : NamespaceFacts) :
    Logs (exercisePrimary setting routes fixture creates facts)
      ["load-primary", "update-primary-properties", "reload-primary-properties",
        "create-primary-duplicate"] := by
  refine logs_ite ?_ ?_
  · exact (logs_request (namespace_eq h _)).cons fun _ =>
      (logs_request (namespaceProperties_eq h _)).cons fun _ =>
        (logs_request (namespace_eq h _)).cons fun _ =>
          (logs_request (namespaceCollection_eq h)).cons fun _ => logs_pure _
  · exact (logs_skipAll _).bind fun _ => logs_pure _

theorem listChildren_logs (creates : Creates) :
    Logs (listChildren setting routes fixture creates) ["list-primary-children"] :=
  logs_ite ((logs_request (namespacesUnder_eq h _)).cons fun _ => logs_pure _)
    (logs_skip.cons fun _ => logs_pure _)

theorem probeMissingParent_logs :
    Logs (probeMissingParent setting routes fixture) ["list-missing-parent"] :=
  (logs_request (namespacesUnder_eq h _)).cons fun _ => logs_pure _

theorem paginate_logs (creates : Creates) :
    LogsPages (paginate setting routes fixture creates) [] [] := by
  unfold paginate
  split
  · refine Emits.bind (traversePages_emits setting _
      fun token => ⟨_, namespacePage_eq h token pageSize⟩) ?_
    rintro result calls ⟨pages, hpages, hids⟩
    exact emits_pure.mpr ⟨pages, hpages, by simpa using hids⟩
  · exact logsPages_skip _

theorem exerciseFixture_logs (facts : NamespaceFacts) :
    LogsPages (exerciseFixture setting routes fixture facts)
      ["create-primary", "create-sibling", "create-child", "list-top-level", "load-primary",
        "update-primary-properties", "reload-primary-properties", "create-primary-duplicate",
        "list-primary-children"] ["list-missing-parent"] := by
  refine Logs.bindPages (createNamespaces_logs h fixture) fun creates => ?_
  refine Logs.bindPages (listTopLevel_logs h fixture creates) fun list => ?_
  refine Logs.bindPages (exercisePrimary_logs h fixture creates _) fun facts => ?_
  refine Logs.bindPages (listChildren_logs h fixture creates) fun hierarchy => ?_
  refine LogsPages.bind (paginate_logs h fixture creates) fun paginated => ?_
  refine Emits.bind (probeMissingParent_logs h fixture) fun missingParent calls hcalls => ?_
  exact emits_pure.mpr ⟨by simpa using hcalls, rfl⟩

theorem cleanupSteps_urls : ∀ step ∈ cleanupSteps setting routes fixture,
    step.url = .ok (built step.url) := by
  simp only [cleanupSteps, List.forall_mem_cons, dropStep, absenceStep]
  exact ⟨namespace_eq h _, namespace_eq h _, namespace_eq h _, namespace_eq h _, namespace_eq h _,
    namespace_eq h _, by simp⟩

theorem cleanupFixture_logs :
    Logs (cleanupFixture setting routes fixture)
      ["drop-child", "drop-sibling", "drop-primary", "verify-child-absent",
        "verify-sibling-absent", "verify-primary-absent"] :=
  cleanup_logs setting (cleanupSteps_urls h fixture)

/-- The operations of the namespace scenario, the further pages apart. -/
def operationIds : List String :=
  ["preflight-primary", "preflight-sibling", "preflight-child", "create-primary",
    "create-sibling", "create-child", "list-top-level", "load-primary",
    "update-primary-properties", "reload-primary-properties", "create-primary-duplicate",
    "list-primary-children", "list-page-001", "list-missing-parent", "drop-child",
    "drop-sibling", "drop-primary", "verify-child-absent", "verify-sibling-absent",
    "verify-primary-absent"]

/-- The namespace workflow records the operations of its scenario on every path. -/
theorem executeNamespaceWorkflow_records (facts : NamespaceFacts) :
    Records (executeNamespaceWorkflow setting routes fixture facts) operationIds := by
  refine Emits.bind (preflightFixture_logs h fixture) fun preflight calls hcalls => ?_
  dsimp only
  split
  · -- the probe for a missing parent runs last here, after the skipped cleanup
    refine Emits.bind (logs_skipAll remainingMutations) fun _ calls₁ hcalls₁ => ?_
    refine Emits.bind (probeMissingParent_logs h fixture) fun _ calls₂ hcalls₂ => ?_
    refine emits_pure.mpr ⟨1, ⟨Nat.le_refl 1, by decide, by rintro reported unique ⟨⟩⟩, ?_⟩
    simp only [ids_append, hcalls, hcalls₁, hcalls₂]
    decide
  · refine Emits.bind (exerciseFixture_logs h fixture _) ?_
    rintro result calls₁ ⟨pages, hpages, hcalls₁⟩
    refine Emits.bind (cleanupFixture_logs h fixture) fun _ calls₂ hcalls₂ => ?_
    refine emits_pure.mpr ⟨pages, hpages, ?_⟩
    simp only [ids_append, hcalls, hcalls₁, hcalls₂, List.append_assoc]
    exact perm_pages hpages.one_le (operationIds.take 12) (operationIds.drop 13)

end Namespace

-- ════════════════════════════════
-- The table workflow
-- ════════════════════════════════

/-- A location can be built under the root, or none is requested. -/
theorem forTable_eq {web : WebCrates} {locations : TableCreateLocations}
    (h : locations.Buildable web) (identifier : NamespaceIdentifier) (name : String) :
    ∃ location, locations.forTable web identifier name = .ok location := by
  obtain ⟨root⟩ := locations
  cases root with
  | none => exact ⟨none, rfl⟩
  | some root => exact ⟨_, if_neg (by simp [h root rfl])⟩

namespace Table

/-- The operations of the cleanup of the table workflow. -/
def cleanupIds : List String :=
  ["primary", "renamed", "sibling", "registered"].map (fun name => "cleanup-drop-" ++ name) ++
    ["primary", "renamed", "sibling", "registered"].map
      (fun name => "cleanup-verify-" ++ name ++ "-absent") ++
    ["cleanup-drop-namespace", "cleanup-verify-namespace-absent"]

variable {setting : Setting} {routes : CatalogRoutes} (h : routes.Buildable setting.web)
  {createLocations : TableCreateLocations} (hlocations : createLocations.Buildable setting.web)
  (fixture : TableFixture)

include h

include hlocations in
theorem createTable_logs (identifier : TableIdentifier) (operationId : String) :
    Logs (createTable setting routes createLocations identifier operationId) [operationId] := by
  obtain ⟨location, hlocation⟩ := forTable_eq hlocations identifier.namespace identifier.name
  rw [createTable, hlocation]
  refine Logs.bind (emits_ofExcept.mpr rfl) fun location => ?_
  exact (logs_request (tableCollection_eq h _)).cons fun _ => logs_pure _

include hlocations in
theorem createTables_logs :
    Logs (createTables setting routes fixture createLocations)
      ["create-primary", "create-sibling"] :=
  (createTable_logs h hlocations _ _).cons fun _ =>
    (createTable_logs h hlocations _ _).cons fun _ => logs_pure _

theorem listTables_logs (created : Tables) :
    Logs (listTables setting routes fixture created) ["list-tables"] :=
  logs_ite ((logs_request (tableCollection_eq h _)).cons fun _ => logs_pure _)
    (logs_skip.cons fun _ => logs_pure _)

theorem loadCreatedTable_logs (identifier : TableIdentifier) (operationId : String)
    (created : Except String TableSnapshot) :
    Logs (loadCreatedTable setting routes identifier operationId created) [operationId] := by
  cases created with
  | error e => exact logs_skip.cons fun _ => logs_pure _
  | ok snapshot => exact (logs_request (table_eq h _ _)).cons fun _ => logs_pure _

theorem loadTables_logs (created : Tables) :
    Logs (loadTables setting routes fixture created) ["load-primary", "load-sibling"] :=
  (loadCreatedTable_logs h _ _ _).cons fun _ =>
    (loadCreatedTable_logs h _ _ _).cons fun _ => logs_pure _

theorem paginate_logs (created : Tables) :
    LogsPages (paginate setting routes fixture created) [] [] := by
  unfold paginate
  split
  · refine Emits.bind (traversePages_emits setting _
      fun token => ⟨_, tablePage_eq h _ token pageSize⟩) ?_
    rintro result calls ⟨pages, hpages, hids⟩
    exact emits_pure.mpr ⟨pages, hpages, by simpa using hids⟩
  · exact logsPages_skip _

theorem updatePrimary_logs (loaded : Tables) :
    Logs (updatePrimary setting routes fixture loaded)
      ["update-primary-properties", "reload-primary-after-update"] := by
  unfold updatePrimary
  split
  · refine (logs_request (table_eq h _ _)).cons fun _ =>
      (logs_request (table_eq h _ _)).cons fun _ => ?_
    split
    · exact logs_pure _
    · exact logs_pure _
  · exact (logs_skipAll _).bind fun _ => logs_pure _

include hlocations in
theorem duplicatePrimary_logs (created : Tables) :
    Logs (duplicatePrimary setting routes fixture createLocations created)
      ["create-primary-duplicate"] :=
  logs_ite ((createTable_logs h hlocations _ _).cons fun _ => logs_pure _)
    (logs_skip.cons fun _ => logs_pure _)

theorem probeMissingTable_logs :
    Logs (probeMissingTable setting routes fixture) ["load-missing-table"] :=
  (logs_request (table_eq h _ _)).cons fun _ => logs_pure _

theorem probeMissingNamespace_logs :
    Logs (probeMissingNamespace setting routes fixture) ["list-tables-missing-namespace"] :=
  (logs_request (tableCollection_eq h _)).cons fun _ => logs_pure _

theorem attemptRename_logs (before : TableSnapshot) :
    Logs (attemptRename setting routes fixture before)
      ["rename-primary", "load-primary-after-rename", "load-renamed-after-rename"] :=
  (logs_request (tableRename_eq h)).cons fun _ => (logs_request (table_eq h _ _)).cons fun _ =>
    (logs_request (table_eq h _ _)).cons fun _ => logs_pure _

theorem renamePrimary_logs (optionalOperations : OptionalTableOperations)
    (updated : Option TableSnapshot) :
    Logs (renamePrimary setting routes fixture optionalOperations updated)
      (renameOperations.map Prod.fst) := by
  unfold renamePrimary
  split
  · exact (logs_skipAll _).bind fun _ => logs_pure _
  · exact (attemptRename_logs h fixture _).bind fun _ => logs_pure _
  · exact (logs_skipAll _).bind fun _ => logs_pure _

theorem dropSibling_logs (sibling : TableIdentifier) :
    Logs (dropSibling setting routes sibling)
      ["drop-sibling-without-purge", "load-sibling-after-drop"] :=
  (logs_request (tableDrop_eq h _ _)).cons fun _ =>
    (logs_request (table_eq h _ _)).cons fun _ => logs_pure _

theorem dropTable_logs (loaded : Tables) :
    Logs (dropTable setting routes fixture loaded)
      ["drop-sibling-without-purge", "load-sibling-after-drop"] := by
  unfold dropTable
  split
  · exact (dropSibling_logs h _).bind fun _ => logs_pure _
  · exact (logs_skipAll _).bind fun _ => logs_pure _

theorem attemptRegister_logs (registered : TableIdentifier) (source : TableSnapshot) :
    Logs (attemptRegister setting routes registered source)
      ["register-sibling-metadata", "load-registered-after-register"] :=
  (logs_request (tableRegister_eq h _)).cons fun _ =>
    (logs_request (table_eq h _ _)).cons fun _ => logs_pure _

theorem registerSibling_logs (optionalOperations : OptionalTableOperations)
    (dropped : Option TableSnapshot) :
    Logs (registerSibling setting routes fixture optionalOperations dropped)
      (registerOperations.map Prod.fst) := by
  unfold registerSibling
  split
  · exact (logs_skipAll _).bind fun _ => logs_pure _
  · exact (attemptRegister_logs h _ _).bind fun _ => logs_pure _
  · exact (logs_skipAll _).bind fun _ => logs_pure _

include hlocations in
theorem exerciseFixture_logs (optionalOperations : OptionalTableOperations) (facts : TableFacts) :
    LogsPages (exerciseFixture setting routes fixture createLocations optionalOperations facts)
      ["create-primary", "create-sibling", "list-tables", "load-primary", "load-sibling"]
      ["update-primary-properties", "reload-primary-after-update", "create-primary-duplicate",
        "load-missing-table", "list-tables-missing-namespace", "rename-primary",
        "load-primary-after-rename", "load-renamed-after-rename", "drop-sibling-without-purge",
        "load-sibling-after-drop", "register-sibling-metadata",
        "load-registered-after-register"] := by
  refine Logs.bindPages (createTables_logs h hlocations fixture) fun created => ?_
  refine Logs.bindPages (listTables_logs h fixture created) fun list => ?_
  refine Logs.bindPages (loadTables_logs h fixture created) fun loaded => ?_
  refine LogsPages.bind (paginate_logs h fixture created) fun paginated => ?_
  refine Emits.bind (updatePrimary_logs h fixture loaded) fun updated calls₁ hcalls₁ => ?_
  refine Emits.bind (duplicatePrimary_logs h hlocations fixture created)
    fun duplicate calls₂ hcalls₂ => ?_
  refine Emits.bind (probeMissingTable_logs h fixture) fun missingTable calls₃ hcalls₃ => ?_
  refine Emits.bind (probeMissingNamespace_logs h fixture) fun missing calls₄ hcalls₄ => ?_
  refine Emits.bind (renamePrimary_logs h fixture optionalOperations updated.2)
    fun rename calls₅ hcalls₅ => ?_
  refine Emits.bind (dropTable_logs h fixture loaded) fun dropped calls₆ hcalls₆ => ?_
  refine Emits.bind (registerSibling_logs h fixture optionalOperations dropped.2)
    fun register calls₇ hcalls₇ => ?_
  refine emits_pure.mpr ⟨?_, rfl⟩
  simp only [ids_append, hcalls₁, hcalls₂, hcalls₃, hcalls₄, hcalls₅, hcalls₆, hcalls₇]
  rfl

omit h in
theorem skipTableOperations_logs (reason : String) :
    Logs (skipTableOperations reason) (tableOperations.map Prod.fst) := logs_skipAll _

theorem createNamespace_logs :
    Logs (createNamespace setting routes fixture) ["create-namespace"] :=
  (logs_request (namespaceCollection_eq h)).cons fun _ => logs_pure _

theorem cleanupSteps_urls : ∀ step ∈ cleanupSteps setting routes fixture,
    step.url = .ok (built step.url) := by
  simp only [cleanupSteps, List.forall_mem_append, List.forall_mem_map, List.forall_mem_cons]
  exact ⟨⟨fun _ _ => tableDrop_eq h _ _, fun _ _ => table_eq h _ _⟩, namespace_eq h _,
    namespace_eq h _, by simp⟩

theorem cleanupFixture_logs : Logs (cleanupFixture setting routes fixture) cleanupIds :=
  cleanup_logs setting (cleanupSteps_urls h fixture)

omit h in
/-- The operations a failed preflight leaves, without the probe for a missing table. -/
theorem skipMutatingWorkflow_logs (reason : String) :
    Logs (skipMutatingWorkflow reason)
      ("create-namespace" :: (tableOperations.map Prod.fst ++ cleanupIds)) := by
  refine logs_skip.cons fun _ => ?_
  refine (skipTableOperations_logs reason).bind fun _ => ?_
  exact (logs_skipAll _).bind fun _ => (logs_skipAll _).bind fun _ => logs_skip.cons fun _ =>
    logs_skip

/-- The operations of the table scenario, the further pages apart. -/
def operationIds : List String :=
  ["preflight-namespace", "create-namespace", "create-primary", "create-sibling", "list-tables",
    "load-primary", "load-sibling", "list-page-001", "update-primary-properties",
    "reload-primary-after-update", "create-primary-duplicate", "load-missing-table",
    "list-tables-missing-namespace", "rename-primary", "load-primary-after-rename",
    "load-renamed-after-rename", "drop-sibling-without-purge", "load-sibling-after-drop",
    "register-sibling-metadata", "load-registered-after-register", "cleanup-drop-primary",
    "cleanup-drop-renamed", "cleanup-drop-sibling", "cleanup-drop-registered",
    "cleanup-verify-primary-absent", "cleanup-verify-renamed-absent",
    "cleanup-verify-sibling-absent", "cleanup-verify-registered-absent",
    "cleanup-drop-namespace", "cleanup-verify-namespace-absent"]

include hlocations in
/-- Whether the namespace was created or not, the same operations lie before the cleanup. -/
theorem exercise_records (optionalOperations : OptionalTableOperations)
    (namespaceCreated : Except String Unit) (facts : TableFacts) :
    Records (exercise setting routes fixture createLocations optionalOperations namespaceCreated
      facts) ((operationIds.drop 2).take 18) := by
  unfold exercise
  split
  · refine Emits.bind (skipTableOperations_logs _) fun _ calls hcalls => ?_
    refine Emits.bind (probeMissingTable_logs h fixture) fun _ calls₁ hcalls₁ => ?_
    refine Emits.bind (probeMissingNamespace_logs h fixture) fun _ calls₂ hcalls₂ => ?_
    refine emits_pure.mpr ⟨1, ⟨Nat.le_refl 1, by decide, by rintro reported unique ⟨⟩⟩, ?_⟩
    simp only [ids_append, hcalls, hcalls₁, hcalls₂]
    decide
  · exact (exerciseFixture_logs h hlocations fixture optionalOperations facts).records

/-- The entry of the preflight. -/
def preflightSent (setting : Setting) (routes : CatalogRoutes) (fixture : TableFixture)
    (reply : HttpReply) : Recorded :=
  sent "preflight-namespace" namespaceLoadCapability .get
    (built (routes.namespace setting.web fixture.namespace)) none reply

include hlocations in
/-- Past its preflight the table workflow records the operations of its scenario; with a failed
preflight it leaves out the probe for a missing table. -/
theorem executeTableWorkflow_emits (optionalOperations : OptionalTableOperations)
    (facts : TableFacts) :
    Emits (executeTableWorkflow setting routes fixture createLocations optionalOperations facts)
      fun result calls => ∃ reply rest, calls = preflightSent setting routes fixture reply :: rest ∧
        (reply.IsError setting.web 404 "NoSuchNamespaceException" → ∃ pages, PageCount result.1 pages ∧
          (ids calls).Perm (operationIds ++ pageIds 2 (pages - 1))) ∧
        (¬ reply.IsError setting.web 404 "NoSuchNamespaceException" → "load-missing-table" ∉ ids calls) := by
  rw [executeTableWorkflow, emits_bind, emits_request (namespace_eq h _)]
  intro reply
  dsimp only
  split
  · next hnot =>
    have hfailed : ¬ reply.IsError setting.web 404 "NoSuchNamespaceException" := by
      simpa only [Bool.not_eq_true', ← Bool.not_eq_true, validateErrorResponse_passed] using hnot
    refine Emits.bind (skipMutatingWorkflow_logs _) fun _ calls hcalls => ?_
    refine Emits.bind (probeMissingNamespace_logs h fixture) fun _ calls₁ hcalls₁ => ?_
    refine emits_pure.mpr ⟨reply, _, rfl, fun h => absurd h hfailed, fun _ => ?_⟩
    simp only [ids_append, ids_sent, ids_nil, hcalls, hcalls₁]
    decide
  · next hnot =>
    have hpassed : reply.IsError setting.web 404 "NoSuchNamespaceException" := by
      simpa only [Bool.not_eq_true', Bool.not_eq_false, validateErrorResponse_passed] using hnot
    refine Emits.bind (createNamespace_logs h fixture) fun created calls hcalls => ?_
    refine Emits.bind (exercise_records h hlocations fixture optionalOperations created _) ?_
    rintro result calls₁ ⟨pages, hpages, hcalls₁⟩
    refine Emits.bind (cleanupFixture_logs h fixture) fun _ calls₂ hcalls₂ => ?_
    refine emits_pure.mpr ⟨reply, _, rfl, fun _ => ⟨pages, hpages, ?_⟩, fun h => absurd hpassed h⟩
    have hoperations : operationIds = ["preflight-namespace", "create-namespace"] ++
        ((operationIds.drop 2).take 18 ++ cleanupIds) := by decide
    rw [hoperations]
    simp only [ids_append, ids_sent, hcalls, hcalls₂, List.append_nil]
    exact perm_further hcalls₁ ["preflight-namespace", "create-namespace"] cleanupIds

end Table

-- ════════════════════════════════
-- The commit workflow
-- ════════════════════════════════

namespace Commit

variable {setting : Setting} {routes : CatalogRoutes} (h : routes.Buildable setting.web)
  {createLocations : TableCreateLocations} (hlocations : createLocations.Buildable setting.web)
  (fixture : CommitFixture)

include h

theorem createNamespace_logs :
    Logs (createNamespace setting routes fixture) ["create-namespace"] :=
  (logs_request (namespaceCollection_eq h)).cons fun _ => logs_pure _

include hlocations in
theorem createAndLoadTable_logs :
    Logs (createAndLoadTable setting routes fixture createLocations)
      ["create-table", "load-initial-table"] := by
  obtain ⟨location, hlocation⟩ := forTable_eq hlocations fixture.namespace fixture.table
  rw [createAndLoadTable, hlocation]
  refine Logs.bind (emits_ofExcept.mpr rfl) fun location => ?_
  exact (logs_request (tableCollection_eq h _)).cons fun _ =>
    (logs_request (table_eq h _ _)).cons fun _ => logs_pure _

include hlocations in
theorem createFixture_logs :
    Logs (createFixture setting routes fixture createLocations)
      ["create-namespace", "create-table", "load-initial-table"] := by
  refine (createNamespace_logs h fixture).cons fun created => ?_
  cases created with
  | ok a => exact createAndLoadTable_logs h hlocations fixture
  | error e => exact (logs_skipAll _).bind fun _ => logs_pure _

theorem commitCurrentRequirements_logs (before : TableSnapshot) :
    Logs (commitCurrentRequirements setting routes fixture before)
      (currentOperations.map Prod.fst) :=
  (logs_request (table_eq h _ _)).cons fun _ => (logs_request (table_eq h _ _)).cons fun _ =>
    logs_pure _

theorem commitSchemaTransition_logs (before : TableSnapshot) :
    Logs (commitSchemaTransition setting routes fixture before)
      (schemaOperations.map Prod.fst) :=
  (logs_request (table_eq h _ _)).cons fun _ => (logs_request (table_eq h _ _)).cons fun _ =>
    logs_pure _

theorem rejectStaleRequirement_logs (before : TableSnapshot) :
    Logs (rejectStaleRequirement setting routes fixture before)
      ["commit-stale-requirement", "reload-after-stale-requirement"] :=
  (logs_request (table_eq h _ _)).cons fun _ => (logs_request (table_eq h _ _)).cons fun _ =>
    logs_pure _

theorem verifyRequiredFinalState_logs (expected : TableSnapshot) :
    Logs (verifyRequiredFinalState setting routes fixture expected)
      ["load-required-final-state"] :=
  (logs_request (table_eq h _ _)).cons fun _ => logs_pure _

theorem requestIdempotent_logs (id capability : String) (body : Json) (key : String) :
    Logs (requestIdempotent setting routes fixture id capability body key) [id] := by
  rw [requestIdempotent, tableUrl, table_eq h]
  exact Logs.bind (emits_ofExcept.mpr rfl) fun url => logs_attemptIdempotent

theorem attemptExactReplay_logs (before : TableSnapshot) (key : String) :
    Logs (attemptExactReplay setting routes fixture before key) (retryOperations.map Prod.fst) :=
  (requestIdempotent_logs h fixture _ _ _ key).cons fun _ =>
    (logs_request (table_eq h _ _)).cons fun _ =>
      (requestIdempotent_logs h fixture _ _ _ key).cons fun _ =>
        (logs_request (table_eq h _ _)).cons fun _ => logs_pure _

theorem rejectIdempotencyDrift_logs (before : TableSnapshot) (key : String) :
    Logs (rejectIdempotencyDrift setting routes fixture before key)
      (driftOperations.map Prod.fst) :=
  (requestIdempotent_logs h fixture _ _ _ key).cons fun _ =>
    (logs_request (table_eq h _ _)).cons fun _ => logs_pure _

/-- The operations of the optional branch, the same whether it is taken or skipped. -/
theorem executeWithKey_logs (before : TableSnapshot) (idempotency : CommitIdempotency)
    (key : String) (facts : CommitFacts) :
    Logs (executeWithKey setting routes fixture before idempotency key facts)
      ((retryOperations ++ driftOperations).map Prod.fst) := by
  rw [List.map_append]
  refine (attemptExactReplay_logs h fixture before key).bind fun exactSnapshot => ?_
  dsimp only
  split
  · exact (logs_skipAll _).bind fun _ => logs_pure _
  · exact (rejectIdempotencyDrift_logs h fixture _ key).bind fun _ => logs_pure _
  · exact (logs_skipAll _).bind fun _ => logs_pure _

theorem executeOptionalIdempotency_logs (before : TableSnapshot) (idempotency : CommitIdempotency)
    (facts : CommitFacts) :
    Logs (executeOptionalIdempotency setting routes fixture before idempotency facts)
      ((retryOperations ++ driftOperations).map Prod.fst) := by
  refine logs_ite ((logs_skipAll _).bind fun _ => logs_pure _) ?_
  refine logs_ite ((logs_skipAll _).bind fun _ => logs_pure _) ?_
  split
  · exact (logs_skipAll _).bind fun _ => logs_pure _
  · exact (logs_skipAll _).bind fun _ => logs_pure _
  · exact executeWithKey_logs h fixture before idempotency _ facts

theorem cleanupSteps_urls : ∀ step ∈ cleanupSteps setting routes fixture,
    step.url = .ok (built step.url) := by
  simp only [cleanupSteps, List.forall_mem_cons]
  exact ⟨tableDrop_eq h _ _, table_eq h _ _, namespace_eq h _, namespace_eq h _, by simp⟩

theorem finish_logs (facts : CommitFacts) :
    Logs (finish setting routes fixture facts)
      ((cleanupSteps setting routes fixture).map CheckedRequest.id) :=
  Logs.bind (cleanup_logs setting (cleanupSteps_urls h fixture)) fun _ => logs_pure _

omit h in
theorem skipRequiredCommits_logs (reason : String) :
    Logs (skipRequiredCommits reason)
      ((currentOperations ++ schemaOperations ++ staleOperations).map Prod.fst) :=
  logs_skipAll _

omit h in
theorem skipOptionalCommits_logs (reason : String) :
    Logs (skipOptionalCommits reason) ((retryOperations ++ driftOperations).map Prod.fst) :=
  logs_skipAll _

omit h in
theorem skipAfterSchemaCommit_logs (reason : String) :
    Logs (skipAfterSchemaCommit reason)
      (staleOperations.map Prod.fst ++ (retryOperations ++ driftOperations).map Prod.fst) :=
  (logs_skipAll _).bind fun _ => logs_skipAll _

omit h in
theorem skipAfterCurrentCommit_logs (reason : String) :
    Logs (skipAfterCurrentCommit reason)
      ((schemaOperations ++ staleOperations).map Prod.fst ++
        (retryOperations ++ driftOperations).map Prod.fst) :=
  (logs_skipAll _).bind fun _ => logs_skipAll _

theorem executeAfterSchema_logs (idempotency : CommitIdempotency) (schemaSnapshot : TableSnapshot)
    (facts : CommitFacts) :
    Logs (executeAfterSchema setting routes fixture idempotency schemaSnapshot facts)
      (staleOperations.map Prod.fst ++ ((retryOperations ++ driftOperations).map Prod.fst ++
        (cleanupSteps setting routes fixture).map CheckedRequest.id)) := by
  refine (rejectStaleRequirement_logs h fixture schemaSnapshot).bind fun stale => ?_
  refine (verifyRequiredFinalState_logs h fixture schemaSnapshot).bind fun final => ?_
  exact (executeOptionalIdempotency_logs h fixture schemaSnapshot idempotency _).bind
    fun facts => finish_logs h fixture facts

theorem executeAfterCurrent_logs (idempotency : CommitIdempotency)
    (currentSnapshot : TableSnapshot) (facts : CommitFacts) :
    Logs (executeAfterCurrent setting routes fixture idempotency currentSnapshot facts)
      (schemaOperations.map Prod.fst ++ (staleOperations.map Prod.fst ++
        ((retryOperations ++ driftOperations).map Prod.fst ++
          (cleanupSteps setting routes fixture).map CheckedRequest.id))) := by
  refine (commitSchemaTransition_logs h fixture currentSnapshot).bind fun schemaSnapshot => ?_
  cases schemaSnapshot with
  | error e =>
    exact (skipAfterSchemaCommit_logs _).bind fun _ => finish_logs h fixture _
  | ok snapshot => exact executeAfterSchema_logs h fixture idempotency snapshot _

theorem executeAfterFixture_logs (idempotency : CommitIdempotency)
    (initialSnapshot : TableSnapshot) (facts : CommitFacts) :
    Logs (executeAfterFixture setting routes fixture idempotency initialSnapshot facts)
      (currentOperations.map Prod.fst ++ (schemaOperations.map Prod.fst ++
        (staleOperations.map Prod.fst ++ ((retryOperations ++ driftOperations).map Prod.fst ++
          (cleanupSteps setting routes fixture).map CheckedRequest.id)))) := by
  refine (commitCurrentRequirements_logs h fixture initialSnapshot).bind fun currentSnapshot => ?_
  cases currentSnapshot with
  | error e => exact (skipAfterCurrentCommit_logs _).bind fun _ => finish_logs h fixture _
  | ok snapshot => exact executeAfterCurrent_logs h fixture idempotency snapshot _

/-- The operations of the commit scenario. -/
def operationIds : List String :=
  ["preflight-namespace", "create-namespace", "create-table", "load-initial-table",
    "commit-current-requirements", "reload-after-current-requirements",
    "commit-schema-transition", "reload-after-schema-transition", "commit-stale-requirement",
    "reload-after-stale-requirement", "load-required-final-state", "commit-idempotent-first",
    "reload-after-idempotent-first", "commit-idempotent-replay", "reload-after-idempotent-replay",
    "commit-idempotency-drift", "reload-after-idempotency-drift", "cleanup-drop-table",
    "cleanup-verify-table-absent", "cleanup-drop-namespace", "cleanup-verify-namespace-absent"]

include hlocations in
theorem executeAfterPreflight_logs (idempotency : CommitIdempotency) (facts : CommitFacts) :
    Logs (executeAfterPreflight setting routes fixture createLocations idempotency facts)
      operationIds.tail := by
  refine (createFixture_logs h hlocations fixture).bind fun initialSnapshot => ?_
  cases initialSnapshot with
  | error e =>
    exact (logs_skipAll _).bind fun _ => (logs_skipAll _).bind fun _ => finish_logs h fixture _
  | ok snapshot => exact executeAfterFixture_logs h fixture idempotency snapshot _

omit h in
theorem skipAfterPreflight_logs (reason : String) :
    Logs (skipAfterPreflight reason) operationIds.tail :=
  (logs_skipAll _).bind fun _ => (logs_skipAll _).bind fun _ => (logs_skipAll _).bind fun _ =>
    logs_skipAll _

/-- The commit workflow records its operations in one order on every path. -/
theorem executeCommitWorkflow_logs (idempotency : CommitIdempotency) (facts : CommitFacts)
    (hlocations : createLocations.Buildable setting.web) :
    Logs (executeCommitWorkflow setting routes fixture createLocations idempotency facts)
      operationIds := by
  refine (logs_request (namespace_eq h _)).cons fun preflight => ?_
  refine logs_ite ?_ ?_
  · exact (skipAfterPreflight_logs _).bind fun _ => logs_pure _
  · exact executeAfterPreflight_logs h hlocations fixture idempotency _

end Commit

-- ════════════════════════════════
-- Whole runs
-- ════════════════════════════════

/-- The ledger holds the operations of the scenario and the pages after the first, each once. -/
structure LedgerComplete (operationIds : List String) (pages : ℕ)
    (operations : List OperationTranscript) : Prop where
  perm : (operations.map OperationTranscript.id).Perm (operationIds ++ pageIds 2 (pages - 1))
  nodup : (operations.map OperationTranscript.id).Nodup

/-- The number of the page that an ID names. -/
def pageNumber (id : String) : Option ℕ :=
  if "list-page-".toList.isPrefixOf id.toList then
    some ((id.toList.drop 10).foldl (fun number digit => 10 * number + (digit.toNat - 48)) 0)
  else none

theorem pageNumber_ofList (cs : List Char) : pageNumber (String.ofList cs) =
    if ['l', 'i', 's', 't', '-', 'p', 'a', 'g', 'e', '-'].isPrefixOf cs then
      some ((cs.drop 10).foldl (fun number digit => 10 * number + (digit.toNat - 48)) 0)
    else none := by
  rw [pageNumber, String.toList_ofList, String.toList_ofList]

theorem pageId_eq_ofList (page : ℕ) : pageId page =
    String.ofList (['l', 'i', 's', 't', '-', 'p', 'a', 'g', 'e', '-'] ++
      List.replicate (3 - (Nat.toDigits 10 page).length) '0' ++ Nat.toDigits 10 page) := by
  have hdigits : toString page = String.ofList (Nat.toDigits 10 page) := rfl
  rw [pageId, hdigits, String.length_ofList, String.ofList_append, String.ofList_append]

theorem pageNumber_pageId :
    ∀ page ∈ List.range' 1 maximumPages, pageNumber (pageId page) = some page := by
  simp only [pageId_eq_ofList, pageNumber_ofList]
  decide

theorem pageNumber_eq_none {cs : List Char}
    (h : ['l', 'i', 's', 't', '-', 'p', 'a', 'g', 'e', '-'].isPrefixOf cs = false) :
    pageNumber (String.ofList cs) = none := by
  rw [pageNumber_ofList, h]
  rfl

theorem pageNumber_first : pageNumber "list-page-001" = some 1 := by decide

/-- No operation of the list is a page after the first. -/
def FirstPageOnly (operationIds : List String) : Prop :=
  ∀ id ∈ operationIds, pageNumber id = none ∨ pageNumber id = some 1

/-- Distinct operations stay distinct with as many pages as a traversal can have. -/
theorem nodup_pages {operationIds : List String} {pages : ℕ} (hnodup : operationIds.Nodup)
    (hfirst : FirstPageOnly operationIds) (hpages : pages ≤ maximumPages) :
    (operationIds ++ pageIds 2 (pages - 1)).Nodup := by
  have hnumber : ∀ page ∈ List.range' 2 (pages - 1), pageNumber (pageId page) = some page := by
    intro page hpage
    obtain ⟨hlow, hhigh⟩ := List.mem_range'_1.mp hpage
    exact pageNumber_pageId page (List.mem_range'_1.mpr ⟨by omega, by omega⟩)
  have hdistinct : (pageIds 2 (pages - 1)).Nodup := by
    refine List.Nodup.map_on ?_ List.nodup_range'
    intro page hpage page' hpage' heq
    have hsome := hnumber page hpage
    rw [heq, hnumber page' hpage'] at hsome
    exact (Option.some.inj hsome).symm
  refine List.nodup_append.mpr ⟨hnodup, hdistinct, ?_⟩
  rintro id hid _ hmem rfl
  obtain ⟨page, hpage, rfl⟩ := List.mem_map.mp hmem
  have hlow := (List.mem_range'_1.mp hpage).1
  have hcases := hfirst (pageId page) hid
  rw [hnumber page hpage] at hcases
  simp only [reduceCtorEq, Option.some.injEq, false_or] at hcases
  omega

theorem ledgerComplete_of_perm {operationIds : List String} {pages : ℕ} {setting : Setting}
    {calls : List Recorded} (hnodup : operationIds.Nodup) (hfirst : FirstPageOnly operationIds)
    (hpages : pages ≤ maximumPages)
    (hperm : (ids calls).Perm (operationIds ++ pageIds 2 (pages - 1))) :
    LedgerComplete operationIds pages
      (OperationRecorder.after setting.web setting.context calls).operations := by
  rw [← operations_ids setting.web setting.context] at hperm
  exact ⟨hperm, hperm.nodup_iff.mpr (nodup_pages hnodup hfirst hpages)⟩

theorem namespace_ids : Namespace.operationIds.Nodup ∧ FirstPageOnly Namespace.operationIds := by
  refine ⟨by simp [Namespace.operationIds], ?_⟩
  simp only [FirstPageOnly, Namespace.operationIds, List.forall_mem_cons]
  repeat (first
    | exact List.forall_mem_nil _
    | refine ⟨.inl (pageNumber_eq_none (by decide)), ?_⟩
    | refine ⟨.inr pageNumber_first, ?_⟩)

theorem table_ids : Table.operationIds.Nodup ∧ FirstPageOnly Table.operationIds := by
  refine ⟨by simp [Table.operationIds], ?_⟩
  simp only [FirstPageOnly, Table.operationIds, List.forall_mem_cons]
  repeat (first
    | exact List.forall_mem_nil _
    | refine ⟨.inl (pageNumber_eq_none (by decide)), ?_⟩
    | refine ⟨.inr pageNumber_first, ?_⟩)

theorem commit_ids : Commit.operationIds.Nodup ∧ FirstPageOnly Commit.operationIds := by
  refine ⟨by simp [Commit.operationIds], ?_⟩
  simp only [FirstPageOnly, Commit.operationIds, List.forall_mem_cons]
  repeat (first
    | exact List.forall_mem_nil _
    | refine ⟨.inl (pageNumber_eq_none (by decide)), ?_⟩
    | refine ⟨.inr pageNumber_first, ?_⟩)

/-- The ledgers of the namespace and the commit workflow are complete on every path, whatever the
replies. The ledger of the table workflow is complete exactly if its preflight passed. -/
theorem ledger_complete_iff {setting : Setting} {routes : CatalogRoutes}
    {createLocations : TableCreateLocations} (h : routes.Buildable setting.web)
    (hlocations : createLocations.Buildable setting.web) :
    (∀ fixture facts result calls,
      Prog.Run recording (Namespace.executeNamespaceWorkflow setting routes fixture facts).run []
        result calls →
      ∃ outcome pages, result = .ok outcome ∧ PageCount outcome.1 pages ∧
        LedgerComplete Namespace.operationIds pages
          (OperationRecorder.after setting.web setting.context calls).operations) ∧
    (∀ fixture idempotency facts result calls,
      Prog.Run recording (Commit.executeCommitWorkflow setting routes fixture createLocations
        idempotency facts).run [] result calls →
      LedgerComplete Commit.operationIds 1
        (OperationRecorder.after setting.web setting.context calls).operations) ∧
    (∀ fixture optionalOperations facts result calls,
      Prog.Run recording (Table.executeTableWorkflow setting routes fixture createLocations
        optionalOperations facts).run [] result calls →
      ∃ outcome reply rest, result = .ok outcome ∧
        calls = Table.preflightSent setting routes fixture reply :: rest ∧
        ((∃ pages, PageCount outcome.1 pages ∧ LedgerComplete Table.operationIds pages
            (OperationRecorder.after setting.web setting.context calls).operations) ↔
          reply.IsError setting.web 404 "NoSuchNamespaceException")) := by
  refine ⟨?_, ?_, ?_⟩
  · intro fixture facts result calls hrun
    obtain ⟨outcome, rfl, pages, hpages, hperm⟩ :=
      (Namespace.executeNamespaceWorkflow_records h fixture facts).traced hrun
    exact ⟨outcome, pages, rfl, hpages, ledgerComplete_of_perm namespace_ids.1 namespace_ids.2
      hpages.le_maximum hperm⟩
  · intro fixture idempotency facts result calls hrun
    obtain ⟨outcome, rfl, hids⟩ :=
      (Commit.executeCommitWorkflow_logs h fixture idempotency facts hlocations).traced hrun
    refine ledgerComplete_of_perm commit_ids.1 commit_ids.2 (by decide) ?_
    rw [hids]
    exact List.Perm.of_eq (List.append_nil _).symm
  · intro fixture optionalOperations facts result calls hrun
    obtain ⟨outcome, rfl, reply, rest, hcalls, hpassed, hfailed⟩ :=
      (Table.executeTableWorkflow_emits h hlocations fixture optionalOperations facts).traced hrun
    refine ⟨outcome, reply, rest, rfl, hcalls, ?_, ?_⟩
    · rintro ⟨pages, -, hcomplete⟩
      by_contra hreply
      refine hfailed hreply ?_
      rw [← operations_ids setting.web setting.context, hcomplete.perm.mem_iff]
      exact List.mem_append_left _ (by decide)
    · intro hreply
      obtain ⟨pages, hpages, hperm⟩ := hpassed hreply
      exact ⟨pages, hpages, ledgerComplete_of_perm table_ids.1 table_ids.2 hpages.le_maximum hperm⟩

def sampleTableFixture : TableFixture :=
  ⟨"run", sampleNamespace, ⟨["catalog_bench_missing"], by decide⟩⟩

def sampleTableSetting : Setting := sampleSetting [errorDocument 404 "NoSuchNamespaceException"]

def sampleTableWorkflow : Workflow (PaginationTranscript × Table.TableFacts) :=
  Table.executeTableWorkflow sampleTableSetting sampleRoutes sampleTableFixture sampleLocations
    ⟨none, none⟩ (.new true .pass)

/-- The recorded calls against a server that answers each operation in one way. -/
def sampleTableCalls (replies : String → HttpReply) : List Recorded :=
  (sampleTableWorkflow.run.exec (answering replies) []).2

/-- The server cannot be reached. -/
def unreachable (_ : String) : HttpReply := .failed "connection refused"

/-- The server answers the preflight and is lost then. -/
def lostAfterPreflight (id : String) : HttpReply :=
  if id = "preflight-namespace" then errorReply 404 "NoSuchNamespaceException"
  else .failed "connection refused"

theorem ledger_complete_iff_unreachable :
    ∃ outcome calls, Prog.Run recording sampleTableWorkflow.run [] (.ok outcome) calls ∧
      ¬ ∃ pages, PageCount outcome.1 pages ∧ LedgerComplete Table.operationIds pages
        (OperationRecorder.after sampleTableSetting.web sampleTableSetting.context
          calls).operations := by
  have hrun := run_answering sampleTableWorkflow unreachable
  obtain ⟨-, -, htable⟩ := @ledger_complete_iff sampleTableSetting sampleRoutes sampleLocations
    (sampleRoutes_buildable _) (sampleLocations_buildable _)
  obtain ⟨outcome, reply, rest, hresult, hcalls, hiff⟩ := htable _ _ _ _ _ hrun
  refine ⟨outcome, _, hresult ▸ hrun, fun hcomplete => ?_⟩
  have hstatus : reply.status = none := by
    have hhead : (exchanges sampleTableSetting.context (sampleTableCalls unreachable)).head?.map
        (fun exchange => exchange.reply.status) = some none := by decide
    rw [sampleTableCalls, hcalls] at hhead
    exact Option.some.inj hhead
  obtain ⟨herror, -⟩ := hiff.mp hcomplete
  cases hstatus.symm.trans herror

/-- Whether the probe for a missing table is recorded depends on the preflight. -/
theorem table_ledger_depends_on_preflight :
    ∃ result calls result' calls',
      Prog.Run recording sampleTableWorkflow.run [] result calls ∧
      Prog.Run recording sampleTableWorkflow.run [] result' calls' ∧
      "load-missing-table" ∉ (OperationRecorder.after sampleTableSetting.web
        sampleTableSetting.context calls).operations.map OperationTranscript.id ∧
      "load-missing-table" ∈ (OperationRecorder.after sampleTableSetting.web
        sampleTableSetting.context calls').operations.map OperationTranscript.id := by
  refine ⟨_, _, _, _, run_answering _ unreachable, run_answering _ lostAfterPreflight, ?_, ?_⟩
  · rw [operations_ids]
    have hmissing : "load-missing-table" ∉ ids (sampleTableCalls unreachable) := by decide
    exact hmissing
  · rw [operations_ids]
    have hprobed : "load-missing-table" ∈ ids (sampleTableCalls lostAfterPreflight) := by
      decide
    exact hprobed

end CatalogBench.Conformance
