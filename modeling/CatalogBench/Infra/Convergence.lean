import CatalogBench.Infra.Polaris
import CatalogBench.Infra.Lakekeeper

/-!
# Convergence of the reconcilers

Any number of interleaved runs of `EnsureCatalog` bring the same catalog and the same grant
about, or all of them refuse the catalog that they find; and so for `EnsureWarehouse` and its
warehouse.
-/

set_option linter.all false

namespace CatalogBench.Infra.Polaris

open Interaction NamedStore

variable (go : GoText) (deployment : Deployment) (settings : Settings)

/-- The stored catalogs of the fixture's name. -/
def found (server : Server) : List StoredCatalog :=
  named StoredCatalog.name server settings.catalog

/-- The catalog role holds the required privilege. -/
def StoredCatalog.Granted (stored : StoredCatalog) : Prop :=
  desiredCatalogAdminGrant ∈ stored.grants catalogAdminRole

/-- The catalog is absent, or there is one and it is the desired one. -/
def Open (server : Server) : Prop :=
  found settings server = [] ∨ ∃ stored, found settings server = [stored] ∧
    catalogMatches settings.desiredCatalog stored.catalog = true

/-- The catalog exists exactly once, is the desired one and has its grant. -/
def Settled (server : Server) : Prop :=
  ∃ stored, found settings server = [stored] ∧
    catalogMatches settings.desiredCatalog stored.catalog = true ∧ stored.Granted

/-- The catalog exists and differs in a compared field. -/
def Drifted (server : Server) : Prop :=
  ∃ stored, found settings server = [stored] ∧
    catalogMatches settings.desiredCatalog stored.catalog = false

/-- A catalog that is there stays as it is and keeps its grant. -/
def Later (server server' : Server) : Prop :=
  ∀ stored, found settings server = [stored] → ∃ stored', found settings server' = [stored'] ∧
    stored'.catalog = stored.catalog ∧ (stored.Granted → stored'.Granted)

/-- What concurrent runs may do to one another. -/
def converging : Discipline Server where
  good := Open settings
  later := Later settings
  refl _ := fun stored h => ⟨stored, h, rfl, id⟩
  trans h h' := fun stored hfound => by
    obtain ⟨stored', hfound', hcatalog, hgranted⟩ := h stored hfound
    obtain ⟨stored'', hfound'', hcatalog', hgranted'⟩ := h' stored' hfound'
    exact ⟨stored'', hfound'', hcatalog'.trans hcatalog, hgranted' ∘ hgranted⟩

/-- Concurrent runs that find a drifted catalog. -/
def refusing : Discipline Server where
  good := Drifted settings
  later server server' := server' = server
  refl _ := rfl
  trans h h' := h'.trans h

theorem equalOptionalString_self (value : Option String) :
    equalOptionalString value value = true := by
  cases value <;> simp [equalOptionalString]

theorem equivalentOptionalEndpoint_self (value : Option String) :
    equivalentOptionalEndpoint value value = true := by
  cases value <;> simp [equivalentOptionalEndpoint, equivalentEndpoint]

/-- A catalog that is stored as requested is the desired one. -/
theorem catalogMatches_self (catalog : Catalog) : catalogMatches catalog catalog = true := by
  unfold catalogMatches
  simp only [equalOptionalString_self, equivalentOptionalEndpoint_self, equivalentEndpoint,
    decide_true, Bool.and_true]

theorem Settled.of_later {server server' : Server} (h : Settled settings server)
    (hlater : Later settings server server') : Settled settings server' := by
  obtain ⟨stored, hfound, hmatches, hgranted⟩ := h
  obtain ⟨stored', hfound', hcatalog, hkeeps⟩ := hlater stored hfound
  exact ⟨stored', hfound', hcatalog ▸ hmatches, hkeeps hgranted⟩

-- ════════════════════════════════
-- What each function of the client does
-- ════════════════════════════════

section Specifications

variable {go deployment settings} {discipline : Discipline Server} {allows : Call → Prop} {α : Type}
  {post : α → Server → Prop} {server : Server}

/-- A request that changes nothing fits every discipline. -/
theorem within_read_bind {call : Call} {f : call.Reply → Request α} (hallows : allows call)
    (hsame : ∀ server, (handle go deployment server call).2 = server)
    (h : ∀ server', discipline.good server' → discipline.later server server' →
      (f (handle go deployment server' call).1).Within discipline (handle go deployment) allows
        post server') :
    (Prog.ask call >>= f).Within discipline (handle go deployment) allows post server :=
  Prog.within_ask_bind hallows fun server' hgood hlater => by
    rw [hsame]
    exact ⟨hgood, discipline.refl hgood, h server' hgood hlater⟩

variable (hreads : ∀ call : Call, call.Reads → allows call)
include hreads

theorem within_acquireToken_bind {f : Except InfraError String → Request α}
    (h : ∀ server', discipline.good server' → discipline.later server server' →
      (f (.ok (trimSpace deployment.accessToken))).Within discipline (handle go deployment) allows
        post server') :
    (acquireToken settings >>= f).Within discipline (handle go deployment) allows post server := by
  unfold acquireToken
  rw [bind_assoc]
  refine within_read_bind (hreads _ trivial) (fun _ => rfl) fun server' hgood hlater => ?_
  simp only [handle, deployment.accessToken_ne, if_false, pure_bind]
  exact h server' hgood hlater

variable (hone : ∀ {server}, discipline.good server →
  found settings server = [] ∨ ∃ stored, found settings server = [stored])
include hone

theorem within_getCatalog_bind {token : String}
    {f : Except InfraError (Option Catalog) → Request α}
    (habsent : ∀ server', discipline.good server' → discipline.later server server' →
      found settings server' = [] →
      (f (.ok none)).Within discipline (handle go deployment) allows post server')
    (hpresent : ∀ server', discipline.good server' → discipline.later server server' →
      ∀ stored, found settings server' = [stored] →
      (f (.ok (some stored.catalog))).Within discipline (handle go deployment) allows post
        server') :
    (getCatalog go settings token >>= f).Within discipline (handle go deployment) allows post
      server := by
  unfold getCatalog
  rw [bind_assoc]
  refine within_read_bind (hreads _ trivial) (fun server => ?_) fun server' hgood hlater => ?_
  · simp only [handle]
    split <;> rfl
  · simp only [handle]
    rcases hone hgood with hfound | ⟨stored, hfound⟩
    · have habsent' := habsent server' hgood hlater hfound
      unfold found at hfound
      simpa [hfound] using habsent'
    · have hpresent' := hpresent server' hgood hlater stored hfound
      unfold found at hfound
      simpa [hfound] using hpresent'

theorem within_listCatalogAdminGrants_bind {token : String}
    {f : Except InfraError (List Grant) → Request α}
    (hpresent : ∀ server', discipline.good server' → discipline.later server server' →
      found settings server' ≠ [])
    (h : ∀ server', discipline.good server' → discipline.later server server' →
      ∀ stored, found settings server' = [stored] →
      (f (.ok (stored.grants catalogAdminRole))).Within discipline (handle go deployment) allows
        post server') :
    (listCatalogAdminGrants go settings token >>= f).Within discipline (handle go deployment)
      allows post server := by
  unfold listCatalogAdminGrants
  rw [bind_assoc]
  refine within_read_bind (hreads _ trivial) (fun server => ?_) fun server' hgood hlater => ?_
  · simp only [handle]
    split <;> rfl
  · simp only [handle]
    obtain ⟨stored, hfound⟩ := (hone hgood).resolve_left (hpresent server' hgood hlater)
    have h' := h server' hgood hlater stored hfound
    unfold found at hfound
    simpa [hfound] using h'

end Specifications

-- ════════════════════════════════
-- Concurrent runs that converge
-- ════════════════════════════════

section Converging

variable {go deployment settings} {server : Server} {token : String}

/-- What every run is to achieve. -/
def Achieved (settings : Settings) (result : Except InfraError Unit) (server : Server) : Prop :=
  result = .ok () ∧ Settled settings server

theorem open_found (h : Open settings server) :
    found settings server = [] ∨ ∃ stored, found settings server = [stored] :=
  h.imp_right fun ⟨stored, hfound, _⟩ => ⟨stored, hfound⟩

/-- In an open state the catalog that is there is the desired one. -/
theorem Open.matches {stored : StoredCatalog} (h : Open settings server)
    (hfound : found settings server = [stored]) :
    catalogMatches settings.desiredCatalog stored.catalog = true := by
  rcases h with hnone | ⟨stored', hfound', hmatches⟩
  · rw [hnone] at hfound
    cases hfound
  · rw [hfound'] at hfound
    cases hfound
    exact hmatches

theorem Later.ne_nil {server' : Server} {stored : StoredCatalog}
    (h : Later settings server server') (hfound : found settings server = [stored]) :
    found settings server' ≠ [] := by
  obtain ⟨stored', hfound', -⟩ := h stored hfound
  simp [hfound']

/-- The request creates the catalog, or another run was first. -/
theorem within_createCatalog_bind {α : Type} {post : α → Server → Prop}
    {f : Except InfraError Unit → Request α}
    (h : ∀ server' stored result, Open settings server' → found settings server' = [stored] →
      (result = .ok () ∨ ∃ error, result = .error error ∧ error.hasStatus 409 = true) →
      (f result).Within (converging settings) (handle go deployment) (fun _ => True) post server') :
    (Prog.ask (Call.createCatalog token settings.realm settings.desiredCatalog) >>= f).Within
      (converging settings) (handle go deployment) (fun _ => True) post server := by
  refine Prog.within_ask_bind trivial fun server' hgood _ => ?_
  have hgood : Open settings server' := hgood
  simp only [handle]
  cases hcreate : create StoredCatalog.name server'
      ⟨settings.desiredCatalog, deployment.newGrants⟩ with
  | none =>
    obtain ⟨stored, hfound⟩ := (open_found hgood).resolve_left (create_eq_none.mp hcreate)
    exact ⟨hgood, (converging settings).refl hgood,
      h server' stored _ hgood hfound (.inr ⟨_, rfl, rfl⟩)⟩
  | some server'' =>
    obtain ⟨hnone, rfl⟩ := create_eq_some.mp hcreate
    have hnew : found settings (server' ++ [⟨settings.desiredCatalog, deployment.newGrants⟩]) =
        [⟨settings.desiredCatalog, deployment.newGrants⟩] := named_append_self hnone
    have hgood' : Open settings (server' ++ [⟨settings.desiredCatalog, deployment.newGrants⟩]) :=
      .inr ⟨_, hnew, catalogMatches_self _⟩
    refine ⟨hgood', fun stored hstored => ?_, h _ _ _ hgood' hnew (.inl rfl)⟩
    exact absurd (hstored.symm.trans hnone) (by simp)

/-- The request adds the grant to the catalog that is there. -/
theorem within_putGrant_bind {α : Type} {post : α → Server → Prop}
    {f : Except InfraError Unit → Request α} {stored : StoredCatalog}
    (hfound : found settings server = [stored])
    (h : ∀ server', Open settings server' → Settled settings server' →
      (f (.ok ())).Within (converging settings) (handle go deployment) (fun _ => True) post
        server') :
    (Prog.ask (Call.putGrant token settings.realm settings.catalog catalogAdminRole
        desiredCatalogAdminGrant) >>= f).Within
      (converging settings) (handle go deployment) (fun _ => True) post server := by
  refine Prog.within_ask_bind trivial fun server' hgood hlater => ?_
  have hgood : Open settings server' := hgood
  obtain ⟨stored', hfound', -, -⟩ := hlater stored hfound
  have hmatches := hgood.matches hfound'
  have hupdated : found settings (update StoredCatalog.name server' settings.catalog
      (StoredCatalog.grant catalogAdminRole desiredCatalogAdminGrant)) =
        [stored'.grant catalogAdminRole desiredCatalogAdminGrant] := by
    unfold found at hfound' ⊢
    have hname (stored : StoredCatalog) :
        (stored.grant catalogAdminRole desiredCatalogAdminGrant).name = stored.name := rfl
    rw [named_update hname, hfound']
    rfl
  have hgranted : (stored'.grant catalogAdminRole desiredCatalogAdminGrant).Granted := by
    simp [StoredCatalog.Granted, StoredCatalog.grant]
  have hreply : (handle go deployment server' (Call.putGrant token settings.realm settings.catalog
      catalogAdminRole desiredCatalogAdminGrant)) = (.ok (), update StoredCatalog.name server'
        settings.catalog (StoredCatalog.grant catalogAdminRole desiredCatalogAdminGrant)) := by
    unfold found at hfound'
    simp [handle, hfound']
  rw [hreply]
  refine ⟨.inr ⟨_, hupdated, hmatches⟩, fun other hother => ?_, ?_⟩
  · rw [hfound'] at hother
    cases hother
    exact ⟨_, hupdated, rfl, fun _ => hgranted⟩
  · exact h _ (.inr ⟨_, hupdated, hmatches⟩) ⟨_, hupdated, hmatches, hgranted⟩

theorem within_achieved (h : Settled settings server) :
    (pure (.ok ()) : Request (Except InfraError Unit)).Within (converging settings)
      (handle go deployment) (fun _ => True) (Achieved settings) server :=
  Prog.within_pure fun _ _ hlater => ⟨rfl, h.of_later _ hlater⟩

theorem within_verifyCatalogAdminGrant (h : Settled settings server) :
    (verifyCatalogAdminGrant go settings token).Within (converging settings)
      (handle go deployment) (fun _ => True) (Achieved settings) server := by
  obtain ⟨stored, hfound, -⟩ := id h
  refine within_listCatalogAdminGrants_bind (fun _ _ => trivial) open_found
    (fun server' _ hlater => Later.ne_nil hlater hfound) fun server' _ hlater stored' hfound' => ?_
  have hsettled := h.of_later settings hlater
  obtain ⟨stored'', hfound'', -, hgranted⟩ := id hsettled
  obtain rfl : stored' = stored'' := by simpa using hfound'.symm.trans hfound''
  simp only [show desiredCatalogAdminGrant ∈ stored'.grants catalogAdminRole from hgranted, if_true]
  exact within_achieved hsettled

theorem within_ensureCatalogAdminGrant {stored : StoredCatalog}
    (hfound : found settings server = [stored]) :
    (ensureCatalogAdminGrant go settings token).Within (converging settings)
      (handle go deployment) (fun _ => True) (Achieved settings) server := by
  refine within_listCatalogAdminGrants_bind (fun _ _ => trivial) open_found
    (fun server' _ hlater => Later.ne_nil hlater hfound) fun server' hgood _ stored' hfound' => ?_
  by_cases hgranted : stored'.Granted
  · simp only [show desiredCatalogAdminGrant ∈ stored'.grants catalogAdminRole from hgranted,
      if_true]
    exact within_achieved ⟨stored', hfound', Open.matches hgood hfound', hgranted⟩
  · simp only [show desiredCatalogAdminGrant ∉ stored'.grants catalogAdminRole from hgranted,
      if_false]
    exact within_putGrant_bind hfound' fun _ _ hsettled => within_verifyCatalogAdminGrant hsettled

theorem within_reconcileCatalog {stored : StoredCatalog}
    (hfound : found settings server = [stored])
    (hmatches : catalogMatches settings.desiredCatalog stored.catalog = true) :
    (reconcileCatalog go settings token stored.catalog).Within (converging settings)
      (handle go deployment) (fun _ => True) (Achieved settings) server := by
  rw [reconcileCatalog, compareCatalog_of_matches hmatches]
  exact within_ensureCatalogAdminGrant hfound

theorem within_verifyCatalog {stored : StoredCatalog} (hfound : found settings server = [stored]) :
    (verifyCatalog go settings token).Within (converging settings) (handle go deployment)
      (fun _ => True) (Achieved settings) server := by
  refine within_getCatalog_bind (fun _ _ => trivial) open_found
    (fun server' _ hlater hnone => absurd hnone (Later.ne_nil hlater hfound))
    fun server' hgood _ stored' hfound' => ?_
  exact within_reconcileCatalog hfound' (Open.matches hgood hfound')

/-- One run reaches its goal next to any others. -/
theorem within_ensureCatalog :
    (ensureCatalog go settings).Within (converging settings) (handle go deployment)
      (fun _ => True) (Achieved settings) server := by
  refine within_acquireToken_bind (fun _ _ => trivial) fun server' _ _ => ?_
  refine within_getCatalog_bind (fun _ _ => trivial) open_found (fun server' _ _ _ => ?_)
    fun server' hgood _ stored hfound => within_reconcileCatalog hfound (Open.matches hgood hfound)
  refine within_createCatalog_bind fun server' stored result _ hfound hresult => ?_
  rcases hresult with rfl | ⟨error, rfl, hconflict⟩
  · exact within_verifyCatalog hfound
  · simp only [hconflict, if_true]
    exact within_verifyCatalog hfound

/-- A run that finds the catalog with its grant only reads. -/
theorem within_ensureCatalog_settled :
    (ensureCatalog go settings).Within ((converging settings).restrict (Settled settings))
      (handle go deployment) Call.Reads (fun _ _ => True) server := by
  have hone {server : Server}
      (h : ((converging settings).restrict (Settled settings)).good server) := open_found h.1
  refine within_acquireToken_bind (fun _ h => h) fun server' hgood _ => ?_
  refine within_getCatalog_bind (fun _ h => h) hone (fun server' hgood _ hnone => ?_)
    fun server' hgood _ stored hfound => ?_
  · obtain ⟨stored, hfound, -⟩ := hgood.2
    rw [hnone] at hfound
    cases hfound
  · simp only [reconcileCatalog, compareCatalog_of_matches (Open.matches hgood.1 hfound)]
    refine within_listCatalogAdminGrants_bind (fun _ h => h) hone (fun server' hgood _ => ?_)
      fun server' hgood _ stored' hfound' => ?_
    · obtain ⟨stored, hfound, -⟩ := hgood.2
      simp [hfound]
    · obtain ⟨stored'', hfound'', -, hgranted⟩ := hgood.2
      obtain rfl : stored' = stored'' := by simpa using hfound'.symm.trans hfound''
      simp only [show desiredCatalogAdminGrant ∈ stored'.grants catalogAdminRole from hgranted,
        if_true]
      exact Prog.within_pure fun _ _ _ => trivial

theorem drifted_found (h : Drifted settings server) :
    found settings server = [] ∨ ∃ stored, found settings server = [stored] :=
  .inr ⟨h.choose, h.choose_spec.1⟩

/-- A run that finds a drifted catalog refuses it. -/
theorem within_ensureCatalog_drifted :
    (ensureCatalog go settings).Within (refusing settings) (handle go deployment) (fun _ => True)
      (fun result _ => ∃ error, result = .error error) server := by
  refine within_acquireToken_bind (fun _ _ => trivial) fun server' _ _ => ?_
  refine within_getCatalog_bind (fun _ _ => trivial)
    drifted_found (fun server' hgood _ hnone => ?_)
    fun server' hgood _ stored hfound => ?_
  · obtain ⟨stored, hfound, -⟩ := hgood
    rw [hnone] at hfound
    cases hfound
  · obtain ⟨stored', hfound', hdrift⟩ := hgood
    obtain rfl : stored = stored' := by simpa using hfound.symm.trans hfound'
    obtain ⟨error, hrefused⟩ := compareCatalog_of_drift go hdrift
    simp only [reconcileCatalog, hrefused]
    exact Prog.within_pure fun _ _ _ => ⟨error, rfl⟩

end Converging

-- ════════════════════════════════
-- The number of requests
-- ════════════════════════════════

section Requests

variable {go settings}

theorem atMost_listCatalogAdminGrants (token : String) :
    (listCatalogAdminGrants go settings token).AtMost 1 := by
  refine Prog.atMost_bind (n := 0) (Prog.atMost_ask _) fun reply => ?_
  cases reply <;> exact Prog.atMost_pure 0 _

theorem atMost_getCatalog (token : String) : (getCatalog go settings token).AtMost 1 := by
  refine Prog.atMost_bind (n := 0) (Prog.atMost_ask _) fun reply => ?_
  cases reply with
  | ok => exact Prog.atMost_pure 0 _
  | error error => exact Prog.atMost_ite (Prog.atMost_pure 0 _) (Prog.atMost_pure 0 _)

theorem atMost_acquireToken : (acquireToken settings).AtMost 1 := by
  refine Prog.atMost_bind (n := 0) (Prog.atMost_ask _) fun reply => ?_
  cases reply with
  | ok => exact Prog.atMost_ite (Prog.atMost_pure 0 _) (Prog.atMost_pure 0 _)
  | error => exact Prog.atMost_pure 0 _

theorem atMost_verifyCatalogAdminGrant (token : String) :
    (verifyCatalogAdminGrant go settings token).AtMost 1 := by
  refine Prog.atMost_bind (n := 0) (atMost_listCatalogAdminGrants token) fun reply => ?_
  cases reply with
  | ok => exact Prog.atMost_ite (Prog.atMost_pure 0 _) (Prog.atMost_pure 0 _)
  | error => exact Prog.atMost_pure 0 _

theorem atMost_ensureCatalogAdminGrant (token : String) :
    (ensureCatalogAdminGrant go settings token).AtMost 3 := by
  refine Prog.atMost_bind (n := 2) (atMost_listCatalogAdminGrants token) fun reply => ?_
  cases reply with
  | error => exact Prog.atMost_pure 2 _
  | ok =>
    refine Prog.atMost_ite (Prog.atMost_pure 2 _) ?_
    refine Prog.atMost_bind (n := 1) (Prog.atMost_ask _) fun reply => ?_
    cases reply with
    | ok => exact atMost_verifyCatalogAdminGrant token
    | error => exact Prog.atMost_ite (atMost_verifyCatalogAdminGrant token) (Prog.atMost_pure 1 _)

theorem atMost_reconcileCatalog (token : String) (actual : Catalog) :
    (reconcileCatalog go settings token actual).AtMost 3 := by
  unfold reconcileCatalog
  split
  · exact Prog.atMost_pure 3 _
  · exact atMost_ensureCatalogAdminGrant token

theorem atMost_verifyCatalog (token : String) : (verifyCatalog go settings token).AtMost 4 := by
  refine Prog.atMost_bind (n := 3) (atMost_getCatalog token) fun reply => ?_
  rcases reply with error | (- | actual)
  · exact Prog.atMost_pure 3 _
  · exact Prog.atMost_pure 3 _
  · exact atMost_reconcileCatalog token actual

theorem atMost_ensureCatalog : (ensureCatalog go settings).AtMost 7 := by
  refine Prog.atMost_bind (n := 6) atMost_acquireToken fun reply => ?_
  rcases reply with error | token
  · exact Prog.atMost_pure 6 _
  refine Prog.atMost_bind (n := 5) (atMost_getCatalog token) fun reply => ?_
  rcases reply with error | (- | actual)
  · exact Prog.atMost_pure 5 _
  · refine Prog.atMost_bind (n := 4) (Prog.atMost_ask _) fun reply => ?_
    cases reply with
    | ok => exact atMost_verifyCatalog token
    | error => exact Prog.atMost_ite (atMost_verifyCatalog token) (Prog.atMost_pure 4 _)
  · exact (atMost_reconcileCatalog token actual).mono (by decide)

end Requests

/-- Any number of interleaved runs of `EnsureCatalog` reconcile the fixture catalog. -/
theorem reconciles_ensureCatalog :
    Reconciles (handle go deployment) (ensureCatalog go settings) (Open settings)
      (Settled settings) (Drifted settings) Call.Reads 7 :=
  Reconciles.of_within (converging settings) id (Settled.of_later settings)
    (fun _ => within_ensureCatalog) (fun _ _ => within_ensureCatalog_settled) (refusing settings)
    id id (fun _ => within_ensureCatalog_drifted) atMost_ensureCatalog

end CatalogBench.Infra.Polaris

namespace CatalogBench.Infra.Lakekeeper

open Interaction NamedStore

variable (go : GoText) (desired : WarehouseRequest)

/-- The stored warehouses of the requested name. -/
def found (server : Server) : List WarehouseState := named WarehouseState.name server desired.name

/-- The warehouse exists exactly once and is the requested one. -/
def Settled (server : Server) : Prop :=
  ∃ state, found desired server = [state] ∧ compareWarehouse go desired state = .ok ()

/-- The warehouse is absent, or there is one and it is the requested one. -/
def Open (server : Server) : Prop := found desired server = [] ∨ Settled go desired server

/-- The warehouse exists and differs in a compared field. -/
def Drifted (server : Server) : Prop :=
  ∃ state, found desired server = [state] ∧
    ∃ error, compareWarehouse go desired state = .error error

/-- What concurrent runs may do to one another: a warehouse that is there stays. -/
def converging : Discipline Server where
  good := Open go desired
  later server server' :=
    ∀ state, found desired server = [state] → found desired server' = [state]
  refl _ := fun _ h => h
  trans h h' := fun state hfound => h' state (h state hfound)

/-- Concurrent runs that find a drifted warehouse. -/
def refusing : Discipline Server where
  good := Drifted go desired
  later server server' := server' = server
  refl _ := rfl
  trans h h' := h'.trans h

/-- A warehouse that is stored as requested is the requested one. -/
theorem compareWarehouse_stored : compareWarehouse go desired desired.stored = .ok () := by
  simp [compareWarehouse, warehouseDifferences, WarehouseRequest.stored]

theorem Settled.of_later {server server' : Server} (h : Settled go desired server)
    (hlater : (converging go desired).later server server') : Settled go desired server' := by
  obtain ⟨state, hfound, hmatches⟩ := h
  exact ⟨state, hlater state hfound, hmatches⟩

section Specifications

variable {go desired} {discipline : Discipline Server} {allows : Call → Prop} {α : Type}
  {post : α → Server → Prop} {server : Server}

/-- What `findWarehouse` hands on, if no two warehouses have the name. -/
theorem within_findWarehouse_bind {f : Except InfraError (Option WarehouseState) → Request α}
    (hreads : allows .listWarehouses)
    (hone : ∀ {server}, discipline.good server →
      found desired server = [] ∨ ∃ state, found desired server = [state])
    (habsent : ∀ server', discipline.good server' → discipline.later server server' →
      found desired server' = [] → (f (.ok none)).Within discipline handle allows post server')
    (hpresent : ∀ server', discipline.good server' → discipline.later server server' →
      ∀ state, found desired server' = [state] →
      (f (.ok (some state))).Within discipline handle allows post server') :
    (findWarehouse go desired.name >>= f).Within discipline handle allows post server := by
  unfold findWarehouse
  rw [bind_assoc]
  refine Prog.within_ask_bind hreads fun server' hgood hlater => ?_
  refine ⟨hgood, discipline.refl hgood, ?_⟩
  simp only [handle]
  rcases hone hgood with hfound | ⟨state, hfound⟩
  · have habsent' := habsent server' hgood hlater hfound
    unfold found named at hfound
    simpa [hfound] using habsent'
  · have hpresent' := hpresent server' hgood hlater state hfound
    unfold found named at hfound
    simpa [hfound] using hpresent'

/-- What every run is to achieve. -/
def Achieved (go : GoText) (desired : WarehouseRequest) (result : Except InfraError Unit)
    (server : Server) : Prop :=
  result = .ok () ∧ Settled go desired server

theorem open_found (h : Open go desired server) :
    found desired server = [] ∨ ∃ state, found desired server = [state] :=
  h.imp_right fun ⟨state, hfound, _⟩ => ⟨state, hfound⟩

/-- In an open state the warehouse that is there is the requested one. -/
theorem Open.compare {state : WarehouseState} (h : Open go desired server)
    (hfound : found desired server = [state]) : compareWarehouse go desired state = .ok () := by
  rcases h with hnone | ⟨state', hfound', hmatches⟩
  · rw [hnone] at hfound
    cases hfound
  · rw [hfound'] at hfound
    cases hfound
    exact hmatches

theorem within_compare {state : WarehouseState} (h : Open go desired server)
    (hfound : found desired server = [state]) :
    (pure (compareWarehouse go desired state) : Request (Except InfraError Unit)).Within
      (converging go desired) handle (fun _ => True) (Achieved go desired) server :=
  Prog.within_pure fun _ _ hlater =>
    ⟨h.compare hfound, state, hlater state hfound, h.compare hfound⟩

theorem within_verifyWarehouse {state : WarehouseState} (hfound : found desired server = [state]) :
    (verifyWarehouse go desired).Within (converging go desired) handle (fun _ => True)
      (Achieved go desired) server := by
  refine within_findWarehouse_bind trivial open_found (fun server' _ hlater hnone => ?_)
    fun server' hgood _ state' hfound' => within_compare hgood hfound'
  rw [hlater state hfound] at hnone
  cases hnone

/-- The request creates the warehouse, or another run was first. -/
theorem within_createWarehouse_bind {f : Except InfraError Unit → Request α}
    (h : ∀ server' state result, found desired server' = [state] →
      (result = .ok () ∨ ∃ error, result = .error error ∧ error.hasStatus 409 = true) →
      (f result).Within (converging go desired) handle (fun _ => True) post server') :
    (Prog.ask (Call.createWarehouse desired) >>= f).Within (converging go desired) handle
      (fun _ => True) post server := by
  refine Prog.within_ask_bind trivial fun server' hgood _ => ?_
  have hgood : Open go desired server' := hgood
  simp only [handle]
  cases hcreate : create WarehouseState.name server' desired.stored with
  | none =>
    obtain ⟨state, hfound⟩ := (open_found hgood).resolve_left (create_eq_none.mp hcreate)
    exact ⟨hgood, (converging go desired).refl hgood, h server' state _ hfound (.inr ⟨_, rfl, rfl⟩)⟩
  | some server'' =>
    obtain ⟨hnone, rfl⟩ := create_eq_some.mp hcreate
    have hnew : found desired (server' ++ [desired.stored]) = [desired.stored] :=
      named_append_self hnone
    refine ⟨.inr ⟨_, hnew, compareWarehouse_stored go desired⟩, fun state hstate => ?_,
      h _ _ _ hnew (.inl rfl)⟩
    exact absurd (hstate.symm.trans hnone) (by simp)

theorem drifted_found (h : Drifted go desired server) :
    found desired server = [] ∨ ∃ state, found desired server = [state] :=
  .inr ⟨h.choose, h.choose_spec.1⟩

variable (hvalid : validateWarehouseRequest desired = .ok ())
include hvalid

/-- One run reaches its goal next to any others. -/
theorem within_ensureWarehouse :
    (ensureWarehouse go desired).Within (converging go desired) handle (fun _ => True)
      (Achieved go desired) server := by
  simp only [ensureWarehouse, hvalid]
  refine within_findWarehouse_bind trivial open_found (fun server' _ _ _ => ?_)
    fun server' hgood _ state hfound => within_compare hgood hfound
  refine within_createWarehouse_bind fun server' state result hfound hresult => ?_
  rcases hresult with rfl | ⟨error, rfl, hconflict⟩
  · exact within_verifyWarehouse hfound
  · simp only [hconflict, if_true]
    exact within_verifyWarehouse hfound

/-- A run that finds the warehouse only reads. -/
theorem within_ensureWarehouse_settled :
    (ensureWarehouse go desired).Within ((converging go desired).restrict (Settled go desired))
      handle Call.Reads (fun _ _ => True) server := by
  simp only [ensureWarehouse, hvalid]
  refine within_findWarehouse_bind trivial (fun h => open_found h.1)
    (fun server' hgood _ hnone => ?_) fun _ _ _ _ _ => Prog.within_pure fun _ _ _ => trivial
  obtain ⟨state, hfound, -⟩ := hgood.2
  rw [hnone] at hfound
  cases hfound

/-- A run that finds a drifted warehouse refuses it. -/
theorem within_ensureWarehouse_drifted :
    (ensureWarehouse go desired).Within (refusing go desired) handle (fun _ => True)
      (fun result _ => ∃ error, result = .error error) server := by
  simp only [ensureWarehouse, hvalid]
  refine within_findWarehouse_bind trivial drifted_found (fun server' hgood _ hnone => ?_)
    fun server' hgood _ state hfound => Prog.within_pure fun _ _ _ => ?_
  · obtain ⟨state, hfound, -⟩ := hgood
    rw [hnone] at hfound
    cases hfound
  · obtain ⟨state', hfound', hdrift⟩ := hgood
    obtain rfl : state = state' := by simpa using hfound.symm.trans hfound'
    exact hdrift

end Specifications

section Requests

variable {go desired}

theorem atMost_findWarehouse (name : String) : (findWarehouse go name).AtMost 1 := by
  refine Prog.atMost_bind (n := 0) (Prog.atMost_ask _) fun reply => ?_
  cases reply with
  | error => exact Prog.atMost_pure 0 _
  | ok warehouses =>
    dsimp only
    split <;> exact Prog.atMost_pure 0 _

theorem atMost_verifyWarehouse : (verifyWarehouse go desired).AtMost 1 := by
  refine Prog.atMost_bind (n := 0) (atMost_findWarehouse _) fun reply => ?_
  rcases reply with error | (- | state) <;> exact Prog.atMost_pure 0 _

theorem atMost_ensureWarehouse : (ensureWarehouse go desired).AtMost 3 := by
  unfold ensureWarehouse
  split
  · exact Prog.atMost_pure 3 _
  refine Prog.atMost_bind (n := 2) (atMost_findWarehouse _) fun reply => ?_
  rcases reply with error | (- | state)
  · exact Prog.atMost_pure 2 _
  · refine Prog.atMost_bind (n := 1) (Prog.atMost_ask _) fun reply => ?_
    cases reply with
    | ok => exact atMost_verifyWarehouse
    | error => exact Prog.atMost_ite atMost_verifyWarehouse (Prog.atMost_pure 1 _)
  · exact Prog.atMost_pure 2 _

end Requests

/-- Any number of interleaved runs of `EnsureWarehouse` reconcile the warehouse. -/
theorem reconciles_ensureWarehouse (hvalid : validateWarehouseRequest desired = .ok ()) :
    Reconciles handle (ensureWarehouse go desired) (Open go desired) (Settled go desired)
      (Drifted go desired) Call.Reads 3 := by
  have hwithin := fun server => @within_ensureWarehouse go desired server hvalid
  have hsettled := fun server => @within_ensureWarehouse_settled go desired server hvalid
  have hdrifted := fun server => @within_ensureWarehouse_drifted go desired server hvalid
  have hbound := @atMost_ensureWarehouse go desired
  -- From here on only the specifications count, and no unification runs the program.
  generalize ensureWarehouse go desired = program at hwithin hsettled hdrifted hbound ⊢
  exact Reconciles.of_within (converging go desired) id (Settled.of_later go desired)
    (fun {s} _ => hwithin s) (fun {s} _ _ => hsettled s) (refusing go desired) id id
    (fun {s} _ => hdrifted s) hbound

end CatalogBench.Infra.Lakekeeper

namespace CatalogBench.Infra

open Interaction

/-- Go's functions on names that need no escape. -/
def sampleText : GoText := ⟨fun text => "\"" ++ text ++ "\"", id⟩

/-- The settings that `LoadPolarisSettings` falls back to, with the credentials of its tests. -/
def sampleSettings : Polaris.Settings where
  realm := "POLARIS"
  clientId := "root"
  clientSecret := "secret"
  scope := "PRINCIPAL_ROLE:ALL"
  catalog := "bench"
  defaultBaseLocation := "s3://warehouse/bench"
  s3Endpoint := "http://minio:9000"
  s3StsEndpoint := "http://minio:9000"
  s3RoleArn := "arn:aws:iam::000000000000:role/polaris-bench"
  s3Region := "us-east-1"

def sampleDeployment : Polaris.Deployment where
  accessToken := "fixture-token"
  accessToken_ne := by decide
  newGrants _ := []

/-- The warehouse of the repository's own payload. -/
def sampleWarehouse : Lakekeeper.WarehouseRequest where
  name := "bench"
  projectId := "00000000-0000-0000-0000-000000000000"
  storageProfile :=
    { type := "s3"
      bucket := "warehouse"
      keyPrefix := "lakekeeper"
      endpoint := "http://minio:9000"
      stsEndpoint := "http://minio:9000"
      region := "us-east-1"
      pathStyleAccess := true
      flavor := "s3-compat"
      stsEnabled := true }
  storageCredential := ⟨"s3", "access-key"⟩

end CatalogBench.Infra
