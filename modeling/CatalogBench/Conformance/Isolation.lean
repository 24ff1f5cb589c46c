import CatalogBench.Conformance.Ledger

/-!
# Ownership of the fixture

A workflow may mutate a catalog only after it has seen that nothing of its fixture exists, and it
then ends in one cleanup block. Both are stated over the exchanges of a run: which requests were
sent, in which order, and what they were answered with.

## Main definitions

- `Duty`: a request of a preflight or a cleanup, with the answer it must get
- `OwnsFixture`: what the exchanges of a run owe to the fixture
- `Closes`: a workflow that ends in its cleanup
-/

set_option linter.all false

namespace CatalogBench.Conformance
open Interaction Workflow CatalogRoutes

-- ════════════════════════════════
-- What a workflow owes its fixture
-- ════════════════════════════════

/-- The answer a request must get. -/
inductive Required
  /-- A drop is done, or there was nothing to drop. -/
  | dropped
  /-- The status alone says that the resource is gone. -/
  | absent
  /-- The body says so too, with an error of this type. -/
  | missing (errorType : String)

def Required.Met (web : WebCrates) (reply : HttpReply) : Required → Prop
  | dropped => reply.status = some 204 ∨ reply.status = some 404
  | absent => reply.status = some 404
  | missing errorType => reply.IsError web 404 errorType

structure Duty where
  id : String
  method : Method
  url : String
  required : Required

namespace Duty

/-- The exchange is the request of the duty. -/
def Sent (context : RecorderContext) (duty : Duty) (exchange : Exchange) : Prop :=
  exchange.id = duty.id ∧
    exchange.request = ⟨duty.method, duty.url, context.bearerToken, none, none⟩

/-- The exchange was answered as required. -/
def Met (web : WebCrates) (duty : Duty) (exchange : Exchange) : Prop :=
  duty.required.Met web exchange.reply

end Duty

/-- The preflights come first. If one is not answered as required, nothing but `GET` is ever sent.
Otherwise the exchanges end in the cleanup, which occurs nowhere before, and its fact tells whether
every request of it was answered as required. -/
def OwnsFixture (setting : Setting) (preflight cleaning : List Duty) (cleanup : Fact)
    (sent : List Exchange) : Prop :=
  ∃ before after, sent = before ++ after ∧
    List.Forall₂ (Duty.Sent setting.context) preflight before ∧
    (∀ exchange ∈ before, exchange.request.method = .get) ∧
    (¬ List.Forall₂ (Duty.Met setting.web) preflight before →
      ∀ exchange ∈ after, exchange.request.method = .get) ∧
    (List.Forall₂ (Duty.Met setting.web) preflight before →
      ∃ body clean, after = body ++ clean ∧
        List.Forall₂ (Duty.Sent setting.context) cleaning clean ∧
        (∀ exchange ∈ body, exchange.id ∉ cleaning.map Duty.id) ∧
        (cleanup = .pass ↔ List.Forall₂ (Duty.Met setting.web) cleaning clean))

-- ════════════════════════════════
-- Duties and checked requests
-- ════════════════════════════════

/-- The request performs the duty: it is sent as the duty says, and its check accepts the
answers the duty requires. -/
structure Performs (setting : Setting) (duty : Duty) (request : CheckedRequest) : Prop where
  id : request.id = duty.id
  method : request.method = duty.method
  url : built request.url = duty.url
  passes : ∀ reply, request.Passes setting reply ↔ duty.required.Met setting.web reply

section Duties

variable {setting : Setting} {duties : List Duty} {requests : List CheckedRequest}

theorem exchanges_append (context : RecorderContext) (calls calls' : List Recorded) :
    exchanges context (calls ++ calls') = exchanges context calls ++ exchanges context calls' :=
  List.filterMap_append

theorem exchange_mem_ids {context : RecorderContext} {calls : List Recorded} {exchange : Exchange}
    (h : exchange ∈ exchanges context calls) : exchange.id ∈ ids calls := by
  obtain ⟨⟨call, reply⟩, hcall, hsome⟩ := List.mem_filterMap.mp h
  cases call with
  | attempt =>
    obtain rfl := Option.some.inj hsome
    exact List.mem_map_of_mem hcall
  | skip => cases hsome

/-- The exchanges of requests that perform duties, and what it means that all were answered as
required. -/
theorem issued_duties (h : List.Forall₂ (Performs setting) duties requests)
    {replies : List HttpReply} (hlength : replies.length = requests.length) :
    List.Forall₂ (Duty.Sent setting.context) duties
      (exchanges setting.context (List.zipWith CheckedRequest.issued requests replies)) ∧
    ((∀ entry ∈ requests.zip replies, entry.1.Passes setting entry.2) ↔
      List.Forall₂ (Duty.Met setting.web) duties
        (exchanges setting.context (List.zipWith CheckedRequest.issued requests replies))) := by
  induction h generalizing replies with
  | nil => simp [exchanges]
  | @cons duty request duties requests hperforms _ ih =>
    obtain ⟨reply, replies, rfl⟩ := List.exists_cons_of_length_eq_add_one hlength
    obtain ⟨hsent, hmet⟩ := ih (Nat.succ.inj hlength)
    have hexchange : exchanges setting.context
        (List.zipWith CheckedRequest.issued (request :: requests) (reply :: replies)) =
        ⟨request.id, ⟨request.method, built request.url, setting.context.bearerToken, none, none⟩,
          reply⟩ :: exchanges setting.context
            (List.zipWith CheckedRequest.issued requests replies) := rfl
    rw [hexchange, List.zip_cons_cons, List.forall_mem_cons, List.forall₂_cons, List.forall₂_cons,
      hmet]
    refine ⟨⟨⟨hperforms.id, ?_⟩, hsent⟩, and_congr_left' (hperforms.passes reply)⟩
    rw [hperforms.method, hperforms.url]

theorem performs_ids (h : List.Forall₂ (Performs setting) duties requests) :
    requests.map CheckedRequest.id = duties.map Duty.id := by
  induction h with
  | nil => rfl
  | cons hperforms _ ih => rw [List.map_cons, List.map_cons, hperforms.id, ih]

end Duties

-- ════════════════════════════════
-- Workflows that end in their cleanup
-- ════════════════════════════════

section Closing

variable {α β : Type} {setting : Setting}

/-- None of these operations is recorded. -/
def Avoids (workflow : Workflow α) (operations : List String) : Prop :=
  Emits workflow fun _ calls => ∀ id ∈ ids calls, id ∉ operations

theorem Logs.avoids {workflow : Workflow α} {operations avoided : List String}
    (h : Logs workflow operations) (havoided : ∀ id ∈ operations, id ∉ avoided) :
    Avoids workflow avoided :=
  h.mono fun _ _ hids => hids ▸ havoided

/-- No operation of the list is a page. -/
def PageFree (operations : List String) : Prop := ∀ id ∈ operations, pageNumber id = none

theorem Records.avoids {workflow : Workflow (PaginationTranscript × α)}
    {operations avoided : List String} (h : Records workflow operations)
    (hfixed : ∀ id ∈ operations, id ∉ avoided) (hfree : PageFree avoided) :
    Avoids workflow avoided := by
  refine h.mono ?_
  rintro result calls ⟨pages, hpages, hperm⟩ id hid havoided
  rcases List.mem_append.mp (hperm.mem_iff.mp hid) with hmem | hmem
  · exact hfixed id hmem havoided
  · obtain ⟨page, hpage, rfl⟩ := List.mem_map.mp hmem
    obtain ⟨hlow, hhigh⟩ := List.mem_range'_1.mp hpage
    have hmaximum := hpages.le_maximum
    have hnumber := pageNumber_pageId page (List.mem_range'_1.mpr ⟨by omega, by omega⟩)
    rw [hfree _ havoided] at hnumber
    cases hnumber

/-- The calls end in these requests, and the fact tells whether all of them passed. -/
def EndsIn (setting : Setting) (requests : List CheckedRequest) (cleanup : Fact)
    (calls : List Recorded) : Prop :=
  ∃ body replies, replies.length = requests.length ∧
    calls = body ++ List.zipWith CheckedRequest.issued requests replies ∧
    (∀ id ∈ ids body, id ∉ requests.map CheckedRequest.id) ∧
    (cleanup = .pass ↔ ∀ entry ∈ requests.zip replies, entry.1.Passes setting entry.2)

/-- On every path the workflow ends in its cleanup. -/
def Closes (setting : Setting) (requests : List CheckedRequest) (fact : α → Fact)
    (workflow : Workflow α) : Prop :=
  Emits workflow fun a calls => EndsIn setting requests (fact a) calls

variable {requests : List CheckedRequest}

theorem Closes.bind {fact : β → Fact} {workflow : Workflow α} {f : α → Workflow β}
    (h : Avoids workflow (requests.map CheckedRequest.id))
    (hf : ∀ a, Closes setting requests fact (f a)) :
    Closes setting requests fact (workflow >>= f) := by
  refine Emits.bind h fun a calls hcalls => (hf a).mono ?_
  rintro b calls' ⟨body, replies, hlength, rfl, hbody, hfact⟩
  refine ⟨calls ++ body, replies, hlength, (List.append_assoc _ _ _).symm, ?_, hfact⟩
  rw [ids_append, List.forall_mem_append]
  exact ⟨hcalls, hbody⟩

/-- The cleanup itself, with its fact. -/
theorem closes_cleanup {fact : β → Fact} {result : Except String Unit → β}
    (hurls : ∀ request ∈ requests, request.url = .ok (built request.url))
    (hfact : ∀ cleaned, fact (result cleaned) = .fromResult cleaned) :
    Closes setting requests fact (do
      let cleaned ← cleanup setting requests
      return result cleaned) := by
  refine Emits.bind (cleanup_emits setting hurls) ?_
  rintro cleaned _ ⟨replies, hlength, rfl, hpasses⟩
  refine emits_pure.mpr ⟨[], replies, hlength, by simp, by simp, ?_⟩
  rw [hfact, fromResult_eq_pass, hpasses]

/-- Nothing but `GET` is sent. -/
def Quiet (context : RecorderContext) (workflow : Workflow α) : Prop :=
  Emits workflow fun _ calls => ∀ exchange ∈ exchanges context calls, exchange.request.method = .get

theorem quiet_pure {context : RecorderContext} (a : α) : Quiet context (Pure.pure a) :=
  emits_pure.mpr (by simp [exchanges])

theorem Quiet.bind {context : RecorderContext} {workflow : Workflow α} {f : α → Workflow β}
    (h : Quiet context workflow) (hf : ∀ a, Quiet context (f a)) :
    Quiet context (workflow >>= f) := by
  refine Emits.bind h fun a calls hcalls => (hf a).mono fun b calls' hcalls' => ?_
  rw [exchanges_append, List.forall_mem_append]
  exact ⟨hcalls, hcalls'⟩

theorem quiet_skipAll {context : RecorderContext} (operations : List (String × String))
    (reason : String) : Quiet context (skipAll operations reason) := by
  refine emits_skipAll.mpr ?_
  have hnone : exchanges context (operations.map (skipped · reason)) = [] := by
    simp [exchanges, exchange?, skipped]
  simp [hnone]

theorem quiet_skip {context : RecorderContext} (id capability reason : String) :
    Quiet context (skip id capability reason) :=
  emits_skip.mpr (by simp [exchanges, exchange?, skipped])

theorem quiet_request {context : RecorderContext} {id capability url : String}
    {address : Except String String} (h : address = .ok url) {body : Option Json} :
    Quiet context (setting.request id capability .get address body) :=
  (emits_request h).mpr fun _ => by simp [exchanges, exchange?, sent]

end Closing

-- ════════════════════════════════
-- Assembling a run
-- ════════════════════════════════

section Assembly

variable {setting : Setting} {preflight cleaning : List Duty}
  {preflightRequests cleanupRequests : List CheckedRequest} {replies : List HttpReply} {α : Type}
  {fact : α → Fact} {workflow : Workflow α}

theorem preflight_get (hget : ∀ duty ∈ preflight, duty.method = .get) {before : List Exchange}
    (hsent : List.Forall₂ (Duty.Sent setting.context) preflight before) :
    ∀ exchange ∈ before, exchange.request.method = .get := by
  induction hsent with
  | nil => simp
  | cons hduty _ ih =>
    obtain ⟨hfirst, hrest⟩ := List.forall_mem_cons.mp hget
    refine List.forall_mem_cons.mpr ⟨?_, ih hrest⟩
    rw [hduty.2]
    exact hfirst

/-- A run that is refused by its preflight. -/
theorem refused_owns (hpreflight : List.Forall₂ (Performs setting) preflight preflightRequests)
    (hget : ∀ duty ∈ preflight, duty.method = .get)
    (hlength : replies.length = preflightRequests.length)
    (hfailed : ¬ ∀ entry ∈ preflightRequests.zip replies, entry.1.Passes setting entry.2)
    (hquiet : Quiet setting.context workflow) :
    Emits workflow fun a calls => OwnsFixture setting preflight cleaning (fact a)
      (exchanges setting.context
        (List.zipWith CheckedRequest.issued preflightRequests replies ++ calls)) := by
  obtain ⟨hsent, hmet⟩ := issued_duties hpreflight hlength
  refine hquiet.mono fun a calls hquiet => ?_
  exact ⟨_, _, exchanges_append _ _ _, hsent, preflight_get hget hsent, fun _ => hquiet,
    fun hall => absurd (hmet.mpr hall) hfailed⟩

/-- A run that passes its preflight and ends in its cleanup. -/
theorem cleaned_owns (hpreflight : List.Forall₂ (Performs setting) preflight preflightRequests)
    (hget : ∀ duty ∈ preflight, duty.method = .get)
    (hlength : replies.length = preflightRequests.length)
    (hpassed : ∀ entry ∈ preflightRequests.zip replies, entry.1.Passes setting entry.2)
    (hcleaning : List.Forall₂ (Performs setting) cleaning cleanupRequests)
    (hcloses : Closes setting cleanupRequests fact workflow) :
    Emits workflow fun a calls => OwnsFixture setting preflight cleaning (fact a)
      (exchanges setting.context
        (List.zipWith CheckedRequest.issued preflightRequests replies ++ calls)) := by
  obtain ⟨hsent, hmet⟩ := issued_duties hpreflight hlength
  refine hcloses.mono ?_
  rintro a calls ⟨body, cleanReplies, hcleanLength, rfl, hbody, hfact⟩
  obtain ⟨hcleanSent, hcleanMet⟩ := issued_duties hcleaning hcleanLength
  refine ⟨_, _, exchanges_append _ _ _, hsent, preflight_get hget hsent,
    fun hnot => absurd (hmet.mp hpassed) hnot, fun _ => ?_⟩
  refine ⟨_, _, exchanges_append _ _ _, hcleanSent, ?_, hfact.trans hcleanMet⟩
  rw [← performs_ids hcleaning]
  exact fun exchange hexchange => hbody _ (exchange_mem_ids hexchange)

end Assembly

-- ════════════════════════════════
-- The namespace workflow
-- ════════════════════════════════

/-- The check of a drop accepts what a drop requires. -/
theorem passes_dropped {setting : Setting} {id capability : String} {method : Method}
    {url : Except String String} (reply : HttpReply) :
    CheckedRequest.Passes setting ⟨id, capability, method, url, (validateStatus · [204, 404])⟩
      reply ↔ Required.dropped.Met setting.web reply := by
  rw [CheckedRequest.Passes, validateStatus_observe]
  simp [Required.Met]

theorem passes_absent {setting : Setting} {id capability : String} {method : Method}
    {url : Except String String} (reply : HttpReply) :
    CheckedRequest.Passes setting ⟨id, capability, method, url, (validateStatus · [404])⟩ reply ↔
      Required.absent.Met setting.web reply := by
  rw [CheckedRequest.Passes, validateStatus_observe]
  simp [Required.Met]

theorem passes_missing {setting : Setting} {id capability errorType : String} {method : Method}
    {url : Except String String} (reply : HttpReply) :
    CheckedRequest.Passes setting ⟨id, capability, method, url,
      (validateErrorResponse setting.web · 404 errorType)⟩ reply ↔
      (Required.missing errorType).Met setting.web reply :=
  validateErrorResponse_observe

namespace Namespace

section Duties

variable (setting : Setting) (routes : CatalogRoutes) (fixture : NamespaceFixture)

/-- The URL of a namespace. -/
def namespaceUrl (identifier : NamespaceIdentifier) : String :=
  built (routes.namespace setting.web identifier)

def preflightDuties : List Duty :=
  [⟨"preflight-primary", .get, namespaceUrl setting routes fixture.primary,
      .missing "NoSuchNamespaceException"⟩,
    ⟨"preflight-sibling", .get, namespaceUrl setting routes fixture.sibling,
      .missing "NoSuchNamespaceException"⟩,
    ⟨"preflight-child", .get, namespaceUrl setting routes fixture.child,
      .missing "NoSuchNamespaceException"⟩]

def cleanupDuties : List Duty :=
  [⟨"drop-child", .delete, namespaceUrl setting routes fixture.child, .dropped⟩,
    ⟨"drop-sibling", .delete, namespaceUrl setting routes fixture.sibling, .dropped⟩,
    ⟨"drop-primary", .delete, namespaceUrl setting routes fixture.primary, .dropped⟩,
    ⟨"verify-child-absent", .get, namespaceUrl setting routes fixture.child, .absent⟩,
    ⟨"verify-sibling-absent", .get, namespaceUrl setting routes fixture.sibling, .absent⟩,
    ⟨"verify-primary-absent", .get, namespaceUrl setting routes fixture.primary, .absent⟩]

theorem preflight_performs : List.Forall₂ (Performs setting)
    (preflightDuties setting routes fixture) (preflightRequests setting routes fixture) := by
  simp only [preflightDuties, preflightRequests, preflightOperations, List.map_cons, List.map_nil,
    List.forall₂_cons, List.forall₂_nil_left_iff, and_true]
  exact ⟨⟨rfl, rfl, rfl, passes_missing⟩, ⟨rfl, rfl, rfl, passes_missing⟩, rfl, rfl, rfl,
    passes_missing⟩

theorem cleanup_performs : List.Forall₂ (Performs setting)
    (cleanupDuties setting routes fixture) (cleanupSteps setting routes fixture) := by
  simp only [cleanupDuties, cleanupSteps, dropStep, absenceStep, List.forall₂_cons,
    List.forall₂_nil_left_iff, and_true]
  exact ⟨⟨rfl, rfl, rfl, passes_dropped⟩, ⟨rfl, rfl, rfl, passes_dropped⟩,
    ⟨rfl, rfl, rfl, passes_dropped⟩, ⟨rfl, rfl, rfl, passes_absent⟩,
    ⟨rfl, rfl, rfl, passes_absent⟩, rfl, rfl, rfl, passes_absent⟩

end Duties

variable {setting : Setting} {routes : CatalogRoutes} (h : routes.Buildable setting.web)
  (fixture : NamespaceFixture)

include h

theorem exerciseFixture_avoids (facts : NamespaceFacts) :
    Avoids (exerciseFixture setting routes fixture facts)
      ["drop-child", "drop-sibling", "drop-primary", "verify-child-absent",
        "verify-sibling-absent", "verify-primary-absent"] := by
  refine (exerciseFixture_logs h fixture facts).records.avoids (by decide) ?_
  unfold PageFree
  decide

theorem probeMissingParent_quiet :
    Quiet setting.context (probeMissingParent setting routes fixture) :=
  (quiet_request (namespacesUnder_eq h _)).bind fun _ => quiet_pure _

theorem executeNamespaceWorkflow_owns (facts : NamespaceFacts) :
    Emits (executeNamespaceWorkflow setting routes fixture facts) fun result calls =>
      OwnsFixture setting (preflightDuties setting routes fixture)
        (cleanupDuties setting routes fixture) result.2.cleanup
        (exchanges setting.context calls) := by
  refine Emits.bind (preflightFixture_emits h fixture) ?_
  rintro results _ ⟨replies, hlength, rfl, hresults⟩
  dsimp only
  split
  · next hnot =>
    have hfailed : ¬ allResults results = .ok () := by
      simpa only [Bool.not_eq_true', ← Bool.not_eq_true, passed_iff, fromResult_eq_pass] using hnot
    refine refused_owns (preflight_performs setting routes fixture) (by simp [preflightDuties])
      hlength (mt hresults.mpr hfailed) ?_
    refine (quiet_skipAll remainingMutations _).bind fun _ => ?_
    exact (probeMissingParent_quiet h fixture).bind fun _ => quiet_pure _
  · next hnot =>
    have hpassed : allResults results = .ok () := by
      simpa only [Bool.not_eq_true', Bool.not_eq_false, passed_iff, fromResult_eq_pass] using hnot
    refine cleaned_owns (preflight_performs setting routes fixture) (by simp [preflightDuties])
      hlength (hresults.mp hpassed) (cleanup_performs setting routes fixture) ?_
    exact Closes.bind (exerciseFixture_avoids h fixture _) fun _ =>
      closes_cleanup (cleanupSteps_urls h fixture) fun _ => rfl

end Namespace

-- ════════════════════════════════
-- The table workflow
-- ════════════════════════════════

/-- One namespace preflight, as the table and the commit workflow have it. -/
def preflightRequest (setting : Setting) (routes : CatalogRoutes) (capability : String)
    (identifier : NamespaceIdentifier) : CheckedRequest :=
  ⟨"preflight-namespace", capability, .get, routes.namespace setting.web identifier,
    (validateErrorResponse setting.web · 404 "NoSuchNamespaceException")⟩

def preflightDuty (setting : Setting) (routes : CatalogRoutes)
    (identifier : NamespaceIdentifier) : Duty :=
  ⟨"preflight-namespace", .get, built (routes.namespace setting.web identifier),
    .missing "NoSuchNamespaceException"⟩

theorem preflight_performs (setting : Setting) (routes : CatalogRoutes) (capability : String)
    (identifier : NamespaceIdentifier) :
    List.Forall₂ (Performs setting) [preflightDuty setting routes identifier]
      [preflightRequest setting routes capability identifier] :=
  .cons ⟨rfl, rfl, rfl, passes_missing⟩ .nil

/-- The preflight was answered as required if its only reply is the error it asks for. -/
theorem preflight_passes (setting : Setting) (routes : CatalogRoutes) (capability : String)
    (identifier : NamespaceIdentifier) (reply : HttpReply) :
    (∀ entry ∈ [preflightRequest setting routes capability identifier].zip [reply],
      entry.1.Passes setting entry.2) ↔
    reply.IsError setting.web 404 "NoSuchNamespaceException" := by
  rw [List.zip_cons_cons, List.zip_nil_left, List.forall_mem_singleton]
  exact passes_missing reply

namespace Table

def cleanupDuties (setting : Setting) (routes : CatalogRoutes) (fixture : TableFixture) :
    List Duty :=
  (fixture.candidates.map fun identifier =>
    ⟨"cleanup-drop-" ++ identifier.name, .delete,
      built (routes.tableDrop setting.web identifier.namespace identifier.name), .dropped⟩) ++
  (fixture.candidates.map fun identifier =>
    ⟨"cleanup-verify-" ++ identifier.name ++ "-absent", .get,
      built (routes.table setting.web identifier.namespace identifier.name),
      .missing "NoSuchTableException"⟩) ++
  [⟨"cleanup-drop-namespace", .delete, built (routes.namespace setting.web fixture.namespace),
      .dropped⟩,
    ⟨"cleanup-verify-namespace-absent", .get,
      built (routes.namespace setting.web fixture.namespace),
      .missing "NoSuchNamespaceException"⟩]

theorem cleanup_performs (setting : Setting) (routes : CatalogRoutes) (fixture : TableFixture) :
    List.Forall₂ (Performs setting) (cleanupDuties setting routes fixture)
      (cleanupSteps setting routes fixture) := by
  refine List.rel_append (List.rel_append ?_ ?_) ?_
  · rw [List.forall₂_map_left_iff, List.forall₂_map_right_iff, List.forall₂_same]
    exact fun _ _ => ⟨rfl, rfl, rfl, passes_dropped⟩
  · rw [List.forall₂_map_left_iff, List.forall₂_map_right_iff, List.forall₂_same]
    exact fun _ _ => ⟨rfl, rfl, rfl, passes_missing⟩
  · exact .cons ⟨rfl, rfl, rfl, passes_dropped⟩ (.cons ⟨rfl, rfl, rfl, passes_missing⟩ .nil)

variable {setting : Setting} {routes : CatalogRoutes} (h : routes.Buildable setting.web)
  {createLocations : TableCreateLocations} (hlocations : createLocations.Buildable setting.web)
  (fixture : TableFixture)

include h

include hlocations in
theorem exercise_avoids (optionalOperations : OptionalTableOperations)
    (namespaceCreated : Except String Unit) (facts : TableFacts) :
    Avoids (exercise setting routes fixture createLocations optionalOperations namespaceCreated
      facts) cleanupIds := by
  refine (exercise_records h hlocations fixture optionalOperations namespaceCreated
    facts).avoids (by decide) ?_
  simp only [PageFree, cleanupIds, List.map_cons, List.map_nil, List.cons_append, List.nil_append,
    String.reduceAppend, List.forall_mem_cons]
  repeat (first
    | exact List.forall_mem_nil _
    | refine ⟨pageNumber_eq_none (by decide), ?_⟩)

omit h in
theorem skipMutatingWorkflow_quiet (reason : String) :
    Quiet setting.context (skipMutatingWorkflow reason) :=
  (quiet_skip _ _ _).bind fun _ => (quiet_skipAll _ _).bind fun _ =>
    (quiet_skipAll _ _).bind fun _ => (quiet_skipAll _ _).bind fun _ =>
      (quiet_skip _ _ _).bind fun _ => quiet_skip _ _ _

theorem probeMissingNamespace_quiet :
    Quiet setting.context (probeMissingNamespace setting routes fixture) :=
  (quiet_request (tableCollection_eq h _)).bind fun _ => quiet_pure _

include hlocations in
theorem executeTableWorkflow_owns (optionalOperations : OptionalTableOperations)
    (facts : TableFacts) :
    Emits (executeTableWorkflow setting routes fixture createLocations optionalOperations facts)
      fun result calls =>
        OwnsFixture setting [preflightDuty setting routes fixture.namespace]
          (cleanupDuties setting routes fixture) result.2.cleanup
          (exchanges setting.context calls) := by
  rw [executeTableWorkflow, emits_bind, emits_request (namespace_eq h _)]
  intro reply
  have hperforms := preflight_performs setting routes namespaceLoadCapability fixture.namespace
  have hcreate : ∀ id ∈ ["create-namespace"], id ∉ cleanupIds := by decide
  dsimp only
  split
  · next hnot =>
    have hfailed : ¬ reply.IsError setting.web 404 "NoSuchNamespaceException" := by
      simpa only [Bool.not_eq_true', ← Bool.not_eq_true, validateErrorResponse_passed] using hnot
    rw [← preflight_passes setting routes namespaceLoadCapability fixture.namespace] at hfailed
    refine refused_owns hperforms (by simp [preflightDuty]) rfl hfailed ?_
    exact (skipMutatingWorkflow_quiet _).bind fun _ =>
      (probeMissingNamespace_quiet h fixture).bind fun _ => quiet_pure _
  · next hnot =>
    have hpassed : reply.IsError setting.web 404 "NoSuchNamespaceException" := by
      simpa only [Bool.not_eq_true', Bool.not_eq_false, validateErrorResponse_passed] using hnot
    rw [← preflight_passes setting routes namespaceLoadCapability fixture.namespace] at hpassed
    refine cleaned_owns hperforms (by simp [preflightDuty]) rfl hpassed
      (cleanup_performs setting routes fixture) ?_
    refine Closes.bind (Logs.avoids (createNamespace_logs h fixture) hcreate) fun _ => ?_
    refine Closes.bind (exercise_avoids h hlocations fixture optionalOperations _ _) fun _ => ?_
    exact closes_cleanup (cleanupSteps_urls h fixture) fun _ => rfl

end Table

-- ════════════════════════════════
-- The commit workflow
-- ════════════════════════════════

namespace Commit

def cleanupDuties (setting : Setting) (routes : CatalogRoutes) (fixture : CommitFixture) :
    List Duty :=
  [⟨"cleanup-drop-table", .delete,
      built (routes.tableDrop setting.web fixture.namespace fixture.table), .dropped⟩,
    ⟨"cleanup-verify-table-absent", .get,
      built (routes.table setting.web fixture.namespace fixture.table),
      .missing "NoSuchTableException"⟩,
    ⟨"cleanup-drop-namespace", .delete, built (routes.namespace setting.web fixture.namespace),
      .dropped⟩,
    ⟨"cleanup-verify-namespace-absent", .get,
      built (routes.namespace setting.web fixture.namespace),
      .missing "NoSuchNamespaceException"⟩]

theorem cleanup_performs (setting : Setting) (routes : CatalogRoutes) (fixture : CommitFixture) :
    List.Forall₂ (Performs setting) (cleanupDuties setting routes fixture)
      (cleanupSteps setting routes fixture) :=
  .cons ⟨rfl, rfl, rfl, passes_dropped⟩ <| .cons ⟨rfl, rfl, rfl, passes_missing⟩ <|
    .cons ⟨rfl, rfl, rfl, passes_dropped⟩ <| .cons ⟨rfl, rfl, rfl, passes_missing⟩ .nil

/-- The operations of the cleanup of the commit workflow. -/
def cleanupIds : List String :=
  ["cleanup-drop-table", "cleanup-verify-table-absent", "cleanup-drop-namespace",
    "cleanup-verify-namespace-absent"]

/-- No operation before the cleanup is one of the cleanup. -/
theorem operationIds_avoid : ∀ id ∈ operationIds.take 17, id ∉ cleanupIds := by decide

theorem avoids_of_subset {α : Type} {workflow : Workflow α} {operations : List String}
    (h : Logs workflow operations) (hsubset : operations ⊆ operationIds.take 17) :
    Avoids workflow cleanupIds :=
  Logs.avoids h fun id hid => operationIds_avoid id (hsubset hid)

variable {setting : Setting} {routes : CatalogRoutes} (h : routes.Buildable setting.web)
  {createLocations : TableCreateLocations} (hlocations : createLocations.Buildable setting.web)
  (fixture : CommitFixture)

include h

theorem finish_closes (facts : CommitFacts) :
    Closes setting (cleanupSteps setting routes fixture) CommitFacts.cleanup
      (finish setting routes fixture facts) :=
  closes_cleanup (cleanupSteps_urls h fixture) fun _ => rfl

theorem executeAfterSchema_closes (idempotency : CommitIdempotency)
    (schemaSnapshot : TableSnapshot) (facts : CommitFacts) :
    Closes setting (cleanupSteps setting routes fixture) CommitFacts.cleanup
      (executeAfterSchema setting routes fixture idempotency schemaSnapshot facts) := by
  refine Closes.bind (avoids_of_subset (rejectStaleRequirement_logs h fixture schemaSnapshot)
    (by simp [operationIds])) fun stale => ?_
  refine Closes.bind (avoids_of_subset (verifyRequiredFinalState_logs h fixture schemaSnapshot)
    (by simp [operationIds])) fun final => ?_
  refine Closes.bind (avoids_of_subset (executeOptionalIdempotency_logs h fixture schemaSnapshot
    idempotency _) (by simp [operationIds, retryOperations, driftOperations])) fun facts => ?_
  exact finish_closes h fixture facts

theorem executeAfterCurrent_closes (idempotency : CommitIdempotency)
    (currentSnapshot : TableSnapshot) (facts : CommitFacts) :
    Closes setting (cleanupSteps setting routes fixture) CommitFacts.cleanup
      (executeAfterCurrent setting routes fixture idempotency currentSnapshot facts) := by
  refine Closes.bind (avoids_of_subset (commitSchemaTransition_logs h fixture currentSnapshot)
    (by simp [operationIds, schemaOperations])) fun schemaSnapshot => ?_
  cases schemaSnapshot with
  | error e =>
    exact Closes.bind (avoids_of_subset (skipAfterSchemaCommit_logs _)
      (by simp [operationIds, staleOperations, retryOperations, driftOperations])) fun _ =>
        finish_closes h fixture _
  | ok snapshot => exact executeAfterSchema_closes h fixture idempotency snapshot _

theorem executeAfterFixture_closes (idempotency : CommitIdempotency)
    (initialSnapshot : TableSnapshot) (facts : CommitFacts) :
    Closes setting (cleanupSteps setting routes fixture) CommitFacts.cleanup
      (executeAfterFixture setting routes fixture idempotency initialSnapshot facts) := by
  refine Closes.bind (avoids_of_subset (commitCurrentRequirements_logs h fixture initialSnapshot)
    (by simp [operationIds, currentOperations])) fun currentSnapshot => ?_
  cases currentSnapshot with
  | error e =>
    exact Closes.bind (avoids_of_subset (skipAfterCurrentCommit_logs _)
      (by simp [operationIds, schemaOperations, staleOperations, retryOperations,
        driftOperations])) fun _ => finish_closes h fixture _
  | ok snapshot => exact executeAfterCurrent_closes h fixture idempotency snapshot _

include hlocations in
theorem executeAfterPreflight_closes (idempotency : CommitIdempotency) (facts : CommitFacts) :
    Closes setting (cleanupSteps setting routes fixture) CommitFacts.cleanup
      (executeAfterPreflight setting routes fixture createLocations idempotency facts) := by
  refine Closes.bind (avoids_of_subset (createFixture_logs h hlocations fixture)
    (by simp [operationIds])) fun initialSnapshot => ?_
  cases initialSnapshot with
  | error e =>
    refine Closes.bind (avoids_of_subset (skipRequiredCommits_logs _)
      (by simp [operationIds, currentOperations, schemaOperations, staleOperations])) fun _ => ?_
    exact Closes.bind (avoids_of_subset (skipOptionalCommits_logs _)
      (by simp [operationIds, retryOperations, driftOperations])) fun _ => finish_closes h fixture _
  | ok snapshot => exact executeAfterFixture_closes h fixture idempotency snapshot _

omit h in
theorem skipAfterPreflight_quiet (reason : String) :
    Quiet setting.context (skipAfterPreflight reason) :=
  (quiet_skipAll _ _).bind fun _ => (quiet_skipAll _ _).bind fun _ =>
    (quiet_skipAll _ _).bind fun _ => quiet_skipAll _ _

include hlocations in
theorem executeCommitWorkflow_owns (idempotency : CommitIdempotency) (facts : CommitFacts) :
    Emits (executeCommitWorkflow setting routes fixture createLocations idempotency facts)
      fun result calls =>
        OwnsFixture setting [preflightDuty setting routes fixture.namespace]
          (cleanupDuties setting routes fixture) result.cleanup
          (exchanges setting.context calls) := by
  rw [executeCommitWorkflow, emits_bind, emits_request (namespace_eq h _)]
  intro reply
  have hperforms := preflight_performs setting routes namespaceLoadCapability fixture.namespace
  dsimp only
  split
  · next hnot =>
    have hfailed : ¬ reply.IsError setting.web 404 "NoSuchNamespaceException" := by
      simpa only [Bool.not_eq_true', ← Bool.not_eq_true, validateErrorResponse_passed] using hnot
    rw [← preflight_passes setting routes namespaceLoadCapability fixture.namespace] at hfailed
    refine refused_owns hperforms (by simp [preflightDuty]) rfl hfailed ?_
    exact (skipAfterPreflight_quiet _).bind fun _ => quiet_pure _
  · next hnot =>
    have hpassed : reply.IsError setting.web 404 "NoSuchNamespaceException" := by
      simpa only [Bool.not_eq_true', Bool.not_eq_false, validateErrorResponse_passed] using hnot
    rw [← preflight_passes setting routes namespaceLoadCapability fixture.namespace] at hpassed
    refine cleaned_owns hperforms (by simp [preflightDuty]) rfl hpassed
      (cleanup_performs setting routes fixture) ?_
    exact executeAfterPreflight_closes h hlocations fixture idempotency _

end Commit

-- ════════════════════════════════
-- Whole runs
-- ════════════════════════════════

/-- Whatever the server replies, the three workflows mutate only a fixture they own, and then end
in its cleanup. -/
theorem workflows_own_fixture {setting : Setting} {routes : CatalogRoutes}
    {createLocations : TableCreateLocations} (h : routes.Buildable setting.web)
    (hlocations : createLocations.Buildable setting.web) :
    (∀ fixture facts result calls,
      Prog.Run recording (Namespace.executeNamespaceWorkflow setting routes fixture facts).run []
        result calls →
      ∃ pagination final, result = .ok (pagination, final) ∧
        OwnsFixture setting (Namespace.preflightDuties setting routes fixture)
          (Namespace.cleanupDuties setting routes fixture) final.cleanup
          (exchanges setting.context calls)) ∧
    (∀ fixture optionalOperations facts result calls,
      Prog.Run recording (Table.executeTableWorkflow setting routes fixture createLocations
        optionalOperations facts).run [] result calls →
      ∃ pagination final, result = .ok (pagination, final) ∧
        OwnsFixture setting [preflightDuty setting routes fixture.namespace]
          (Table.cleanupDuties setting routes fixture) final.cleanup
          (exchanges setting.context calls)) ∧
    (∀ fixture idempotency facts result calls,
      Prog.Run recording (Commit.executeCommitWorkflow setting routes fixture createLocations
        idempotency facts).run [] result calls →
      ∃ final, result = .ok final ∧
        OwnsFixture setting [preflightDuty setting routes fixture.namespace]
          (Commit.cleanupDuties setting routes fixture) final.cleanup
          (exchanges setting.context calls)) := by
  refine ⟨?_, ?_, ?_⟩
  · intro fixture facts result calls hrun
    obtain ⟨⟨pagination, final⟩, hresult, howns⟩ :=
      (Namespace.executeNamespaceWorkflow_owns h fixture facts).traced hrun
    exact ⟨pagination, final, hresult, howns⟩
  · intro fixture optionalOperations facts result calls hrun
    obtain ⟨⟨pagination, final⟩, hresult, howns⟩ :=
      (Table.executeTableWorkflow_owns h hlocations fixture optionalOperations facts).traced hrun
    exact ⟨pagination, final, hresult, howns⟩
  · intro fixture idempotency facts result calls hrun
    exact (Commit.executeCommitWorkflow_owns h hlocations fixture idempotency facts).traced hrun

/-- A server that is lost after the preflight still gets the cleanup. -/
theorem workflows_own_fixture_lost :
    ∃ pagination final calls,
      Prog.Run recording sampleTableWorkflow.run [] (.ok (pagination, final)) calls ∧
      (∃ exchange ∈ exchanges sampleTableSetting.context calls,
        exchange.request.method = .delete) ∧
      OwnsFixture sampleTableSetting
        [preflightDuty sampleTableSetting sampleRoutes sampleTableFixture.namespace]
        (Table.cleanupDuties sampleTableSetting sampleRoutes sampleTableFixture) final.cleanup
        (exchanges sampleTableSetting.context calls) := by
  have hrun := run_answering sampleTableWorkflow lostAfterPreflight
  obtain ⟨-, htable, -⟩ := @workflows_own_fixture sampleTableSetting sampleRoutes sampleLocations
    (sampleRoutes_buildable _) (sampleLocations_buildable _)
  obtain ⟨pagination, final, hresult, howns⟩ := htable _ _ _ _ _ hrun
  have hdelete : ∃ exchange ∈ exchanges sampleTableSetting.context
      (sampleTableCalls lostAfterPreflight), exchange.request.method = .delete := by
    decide
  exact ⟨pagination, final, _, hresult ▸ hrun, hdelete, howns⟩

end CatalogBench.Conformance
