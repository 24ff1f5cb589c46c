import CatalogBench.PyIceberg.Steps

/-!
# Whole runs of the PyIceberg probe

A run either refuses to start or goes through all steps. What it has done by its end is what the
licence allows: nothing but looking, unless the fixture was found free.
-/

set_option linter.all false

namespace CatalogBench.PyIceberg
open Interaction Interaction.Script

variable {W : Type} {step : W → (c : ClientCall) → c.Reply → W → Prop}
  {fixture : FixtureIdentity} {licence : Licence step fixture} {libraries : PyLibraries}
  {contracts : ResolvedContracts}

-- ════════════════════════════════
-- Steps with a prerequisite
-- ════════════════════════════════

/-- The result of a step that is evaluated only if an earlier one passed. -/
structure Follows (earlier : OperationResult) (s : Step) (result : OperationResult) : Prop where
  id : result.id = s
  evaluated : result.status = .notEvaluated ↔ earlier.status ≠ .pass
  required : result.status = .unsupported → s.required = false

/-- The result of an optional step. -/
structure Offered (contracts : ResolvedContracts) (ready : Bool) (s : Step)
    (result : OperationResult) : Prop where
  id : result.id = s
  evaluated : s.capability.bind contracts.adapterLimitation = none →
    (result.status = .notEvaluated ↔ ready = false)

section Prerequisites

variable {I : State → W → Prop}

theorem follows_of_answers {earlier result : OperationResult} {s : Step} (h : Answers s result)
    (hearlier : earlier.status = .pass) : Follows earlier s result := by
  refine ⟨h.id, ?_, h.required⟩
  constructor
  · intro hresult
    exact absurd hresult h.evaluated
  · intro hfailed
    exact absurd hearlier hfailed

theorem follows_notEvaluated {earlier : OperationResult} {s : Step} {capability : Option String}
    {reason : String} (hearlier : earlier.status ≠ .pass) :
    Follows earlier s (.notEvaluated s capability reason) :=
  ⟨rfl, ⟨fun _ => hearlier, fun _ => rfl⟩, nofun⟩

theorem keeps_passedOrSkip {earlier : OperationResult} {s : Step} {reason : String}
    {operation : Py OperationResult}
    (h : earlier.status = .pass → Keeps step I operation (licence.Settles libraries (Answers s))) :
    Keeps step I (passedOrSkip earlier s reason operation)
      (licence.Settles libraries (Follows earlier s)) := by
  apply keeps_ite
  · intro hearlier
    apply (h hearlier).mono
    intro r hr
    exact hr.mono fun result hresult => follows_of_answers hresult hearlier
  · intro hearlier
    exact keeps_pure (settles_ok (follows_notEvaluated hearlier))

theorem keeps_optionalOrSkip {s : Step} {capability reason : String} {ready : Bool}
    {operation : Py OperationResult} (hcapability : s.capability = some capability)
    (h : ready = true → Keeps step I operation (licence.Settles libraries (Answers s))) :
    Keeps step I (optionalOrSkip contracts s ready reason operation)
      (licence.Settles libraries (Offered contracts ready s)) := by
  cases hlimitation : contracts.adapterLimitation capability with
  | some limitation =>
    have hdeclared : Offered contracts ready s (.unsupported s capability limitation) := by
      refine ⟨rfl, fun hnone => ?_⟩
      rw [hcapability, Option.bind_some, hlimitation] at hnone
      cases hnone
    simp only [optionalOrSkip, hcapability, hlimitation]
    exact keeps_pure (settles_ok hdeclared)
  | none =>
    simp only [optionalOrSkip, hcapability, hlimitation]
    apply keeps_ite
    · intro hready
      apply (h hready).mono
      intro r hr
      refine hr.mono fun result hresult => ⟨hresult.id, fun _ => ?_⟩
      constructor
      · intro hstatus
        exact absurd hstatus hresult.evaluated
      · intro hfalse
        rw [hready] at hfalse
        cases hfalse
    · intro hready
      exact keeps_pure (settles_ok ⟨rfl, fun _ => ⟨fun _ => Bool.eq_false_iff.mpr hready,
        fun _ => rfl⟩⟩)

theorem keeps_knownClientLimitation {s : Step} {capability : String}
    (hcapability : s.capability = some capability) :
    Keeps step I (knownClientLimitation contracts s)
      (licence.Settles libraries fun result => result.id = s) := by
  cases hlimitation : contracts.knownClientLimitation capability with
  | some limitation =>
    simp only [knownClientLimitation, hcapability, hlimitation]
    exact keeps_pure (settles_ok rfl)
  | none =>
    simp only [knownClientLimitation, hcapability, hlimitation]
    exact keeps_pure (settles_ok rfl)

end Prerequisites

-- ════════════════════════════════
-- The steps that act on the fixture
-- ════════════════════════════════

/-- The optional steps, in their order. -/
def optionalIds : List Step := [.updateProperties, .evolveSchema, .deleteRows, .recoverConflict,
  .observeDelegatedAccess, .renameTable, .registerTable]

/-- The results of the steps that act on the fixture. -/
structure FixtureResults (contracts : ResolvedContracts) (isolated : OperationResult)
    («namespace» table appended : OperationResult) (optional : List OperationResult)
    (views pagination cleaned : OperationResult) : Prop where
  roundTrip : Follows isolated .namespaceRoundTrip «namespace»
  created : Follows «namespace» .tableRoundTrip table
  scanned : Follows table .appendScan appended
  offered : List.Forall₂ (Offered contracts (decide (appended.status = .pass))) optionalIds optional
  views : views.id = .classifyViews
  pagination : pagination.id = .classifyPagination
  cleanedUp : Follows isolated .cleanupFixture cleaned

section Fixture

variable {fixtureId : String} {licence : Licence step (fixtureOf contracts fixtureId)}
  {I : State → W → Prop}

theorem keeps_optionalSteps {ready : Bool}
    (hI : ready = true → I = licence.Acting libraries) :
    Keeps step I (optionalSteps libraries contracts (fixtureOf contracts fixtureId) ready)
      (licence.Settles libraries (List.Forall₂ (Offered contracts ready) optionalIds)) := by
  apply settles_bind (keeps_optionalOrSkip rfl fun h => hI h ▸ acting_updateProperties)
  intro updated hupdated
  apply settles_bind (keeps_optionalOrSkip rfl fun h => hI h ▸ acting_evolveSchema)
  intro evolved hevolved
  apply settles_bind (keeps_optionalOrSkip rfl fun h => hI h ▸ acting_deleteRows)
  intro deleted hdeleted
  apply settles_bind (keeps_optionalOrSkip rfl fun h => hI h ▸ acting_recoverConflict)
  intro recovered hrecovered
  apply settles_bind (keeps_optionalOrSkip rfl fun h => hI h ▸ acting_observeDelegatedAccess)
  intro delegated hdelegated
  apply settles_bind (keeps_optionalOrSkip rfl fun h => hI h ▸
    acting_renameActive (candidate_mem contracts fixtureId (by decide)))
  intro renamed hrenamed
  apply settles_bind (keeps_optionalOrSkip rfl fun h => hI h ▸
    acting_reregister (candidate_mem contracts fixtureId (by decide)))
  intro registered hregistered
  exact keeps_pure (settles_ok (.cons hupdated (.cons hevolved (.cons hdeleted (.cons hrecovered
    (.cons hdelegated (.cons hrenamed (.cons hregistered .nil))))))))

theorem keeps_fixtureSteps {isolated : OperationResult}
    (hI : isolated.status = .pass → I = licence.Acting libraries)
    (hcleanup : Keeps step I (cleanup (fixtureOf contracts fixtureId))
      (licence.Settles libraries (Follows isolated .cleanupFixture))) :
    Keeps step I (fixtureSteps libraries contracts (fixtureOf contracts fixtureId) isolated)
      (licence.Settles libraries fun operations =>
        ∃ «namespace» table appended optional views pagination cleaned,
          operations = [«namespace», table, appended] ++ optional ++
            [views, pagination, cleaned, sanitized] ∧
          FixtureResults contracts isolated «namespace» table appended optional views pagination
            cleaned) := by
  apply settles_bind (keeps_passedOrSkip fun h => hI h ▸ acting_namespaceRoundTrip)
  intro «namespace» hnamespace
  -- A step that is evaluated has all the steps before it behind it.
  have hpassed : ∀ {earlier result : OperationResult} {s : Step}, Follows earlier s result →
      result.status = .pass → earlier.status = .pass := by
    intro earlier result s hfollows hpass
    by_contra hearlier
    rw [hfollows.evaluated.mpr hearlier] at hpass
    cases hpass
  apply settles_bind (keeps_passedOrSkip fun h => hI (hpassed hnamespace h) ▸
    acting_tableRoundTrip (candidate_mem contracts fixtureId (by decide)))
  intro table htable
  apply settles_bind (keeps_passedOrSkip fun h =>
    hI (hpassed hnamespace (hpassed htable h)) ▸ acting_appendScan)
  intro appended happended
  have hready : decide (appended.status = .pass) = true → I = licence.Acting libraries := by
    intro h
    exact hI (hpassed hnamespace (hpassed htable (hpassed happended (of_decide_eq_true h))))
  apply settles_bind (keeps_optionalSteps hready)
  intro optional hoptional
  apply settles_bind (keeps_knownClientLimitation rfl)
  intro views hviews
  apply settles_bind (keeps_knownClientLimitation rfl)
  intro pagination hpagination
  apply settles_bind hcleanup
  intro cleaned hcleaned
  exact keeps_pure (settles_ok ⟨_, _, _, _, _, _, _, rfl, hnamespace, htable, happended,
    hoptional, hviews, hpagination, hcleaned⟩)

end Fixture

-- ════════════════════════════════
-- Looking at the catalog
-- ════════════════════════════════

section Looking

variable {s s' : State} {w w' : W}

theorem idle_call {c : ClientCall} (hread : c.readOnly = true) (hc : Within fixture c) :
    Keeps step licence.Idle (call c) (Returned fun _ => True) := by
  apply keeps_request
  intro s w reply w' h hstep
  refine ⟨⟨h.ownershipSafe, licence.look hread hc hstep h.world, h.active, h.rows⟩, ?_⟩
  intro _ _
  trivial

theorem idle_closeCatalog : Keeps step licence.Idle closeCatalog (Yields fun _ => True) := by
  have hget : Keeps step licence.Idle (get : Py State) (Yields fun _ => True) :=
    keeps_get fun s _ _ => ⟨s, rfl, trivial⟩
  apply hget.total
  intro s _
  apply keeps_ite
  · intro _
    apply (idle_call (c := .close) rfl trivial).tryCatch
    · intro _ _
      exact ⟨_, rfl, trivial⟩
    · intro _ _
      exact keeps_pure ⟨_, rfl, trivial⟩
  · intro _
    exact keeps_pure ⟨_, rfl, trivial⟩

theorem idle_cleanup {isolated : OperationResult} (hisolated : isolated.status ≠ .pass) :
    Keeps step licence.Idle (cleanup fixture)
      (licence.Settles libraries (Follows isolated .cleanupFixture)) := by
  have hget : Keeps step licence.Idle (get : Py State) (Yields fun s => s.ownershipSafe = false) :=
    keeps_get fun s w h => ⟨s, rfl, h.ownershipSafe⟩
  apply hget.total
  intro s hsafe
  apply keeps_ite
  · intro _
    exact keeps_pure (settles_ok (follows_notEvaluated hisolated))
  · intro _
    rw [if_pos hsafe]
    exact keeps_pure (settles_ok (follows_notEvaluated hisolated))

/-- The client is open if its initialization passed. -/
theorem runs_initializeCatalog {properties : StringMap Json} {r : Except PyError OperationResult}
    (h : licence.Idle s w)
    (hrun : Runs step (initializeCatalog contracts properties) s w r s' w') :
    licence.Idle s' w' ∧ ∃ result, r = .ok result ∧ Answers .initializeCatalog result ∧
      (result.status = .pass → s'.catalogOpen = true) := by
  rcases runs_tryCatch.mp hrun with ⟨result, hbody, rfl⟩ | ⟨e, s₁, w₁, hbody, hhandler⟩
  · obtain ⟨_, s₁, w₁, hcall, hrest⟩ := runs_bind_ok.mp hbody
    obtain ⟨_, s₂, w₂, hopen, hresult⟩ := runs_bind_ok.mp hrest
    obtain ⟨hidle, -⟩ := idle_call (c := .restCatalog _ _) rfl trivial s w _ s₁ w₁ h hcall
    obtain ⟨-, rfl, rfl⟩ := runs_modify.mp hopen
    obtain ⟨rfl, rfl, rfl⟩ := runs_pure_ok.mp hresult
    exact ⟨⟨hidle.ownershipSafe, hidle.world, hidle.active, hidle.rows⟩, _, rfl,
      answers_passed, fun _ => rfl⟩
  · obtain ⟨rfl, rfl, rfl⟩ := runs_pure.mp hhandler
    have hbody' : licence.Idle s' w' := by
      rcases runs_bind.mp hbody with ⟨_, hcall, -⟩ | ⟨_, s₁, w₁, hcall, hrest⟩
      · exact (idle_call (c := .restCatalog _ _) rfl trivial s w _ s' w' h hcall).1
      · rcases runs_bind.mp hrest with ⟨_, hopen, -⟩ | ⟨_, s₂, w₂, _, hresult⟩
        · cases (runs_modify.mp hopen).1
        · cases (runs_pure.mp hresult).1
    exact ⟨hbody', _, rfl, answers_failure, nofun⟩

/-- The fixture is free if the preflight passed. -/
theorem runs_preflight {r : Except PyError OperationResult} (h : licence.Idle s w)
    (hopen : s.catalogOpen = true) (hrun : Runs step (preflight fixture) s w r s' w') :
    ∃ result, r = .ok result ∧ Answers .preflightFixture result ∧
      (result.status = .pass → licence.Acting libraries s' w') ∧
      (result.status ≠ .pass → licence.Idle s' w') := by
  have hlook : Keeps step licence.Idle (call (.namespaceExists fixture.namespace))
      (Returned fun _ => True) := idle_call rfl rfl
  rcases runs_tryCatch.mp hrun with ⟨result, hbody, rfl⟩ | ⟨e, s₁, w₁, hbody, hhandler⟩
  · obtain ⟨present, s₁, w₁, hcall, hrest⟩ := runs_bind_ok.mp hbody
    obtain ⟨_, s₂, w₂, hfree, hrest⟩ := runs_bind_ok.mp hrest
    obtain ⟨_, s₃, w₃, howned, hresult⟩ := runs_bind_ok.mp hrest
    obtain ⟨reply, hstep, hreply, rfl⟩ := runs_request.mp hcall
    obtain rfl : reply = .ok present := hreply.symm
    rcases runs_ite hfree with ⟨_, hraise⟩ | ⟨hpresent, hpure⟩
    · cases (runs_throw.mp hraise).1
    · obtain rfl : present = false := Bool.eq_false_iff.mpr hpresent
      obtain ⟨-, rfl, rfl⟩ := runs_pure.mp hpure
      obtain ⟨-, rfl, rfl⟩ := runs_modify.mp howned
      obtain ⟨rfl, rfl, rfl⟩ := runs_pure_ok.mp hresult
      refine ⟨_, rfl, answers_passed, fun _ => ?_, fun hfailed => absurd rfl hfailed⟩
      refine ⟨hopen, rfl, licence.claim hstep h.world, ?_, ?_⟩
      · intro identifier hactive
        rw [show _ = none from h.active] at hactive
        cases hactive
      · rw [show _ = [] from h.rows]
        exact goodRows_nil
  · obtain ⟨rfl, rfl, rfl⟩ := runs_pure.mp hhandler
    refine ⟨_, rfl, answers_failure, nofun, fun _ => ?_⟩
    rcases runs_bind.mp hbody with ⟨_, hcall, -⟩ | ⟨present, s₁, w₁, hcall, hrest⟩
    · exact (hlook s w _ s' w' h hcall).1
    · obtain ⟨hidle, -⟩ := hlook s w _ s₁ w₁ h hcall
      rcases runs_bind.mp hrest with ⟨_, hfree, -⟩ | ⟨_, s₂, w₂, _, hrest⟩
      · rcases runs_ite hfree with ⟨_, hraise⟩ | ⟨_, hpure⟩
        · obtain ⟨-, rfl, rfl⟩ := runs_throw.mp hraise
          exact hidle
        · cases (runs_pure.mp hpure).1
      · rcases runs_bind.mp hrest with ⟨_, howned, -⟩ | ⟨_, s₃, w₃, _, hresult⟩
        · cases (runs_modify.mp howned).1
        · cases (runs_pure.mp hresult).1

end Looking

-- ════════════════════════════════
-- The run
-- ════════════════════════════════

/-- The run does not start. -/
def Refused (libraries : PyLibraries) (contracts : ResolvedContracts) (fixtureId : String)
    (getenv : String → Option String) (runtime : RuntimeIdentity) : Prop :=
  validFixtureId fixtureId = false ∨
    runtime = contracts.pinned ∧ ∃ e, catalogProperties libraries contracts getenv = .error e

/-- One result for each step. A step that has a prerequisite is evaluated if and only if that
passed, unless the adapter declares it unsupported; a step that has to pass never is. -/
structure Complete (contracts : ResolvedContracts) (results : Step → OperationResult) : Prop where
  id : ∀ s, (results s).id = s
  required : ∀ s, (results s).status = .unsupported → s.required = false
  evaluated : ∀ s earlier, s.prerequisite = some earlier →
    s.required = true ∨ s.capability.bind contracts.adapterLimitation = none →
    ((results s).status = .notEvaluated ↔ (results earlier).status ≠ .pass)

/-- The results of a run, by step. -/
def resultsOf (verified initialized isolated «namespace» table appended updated evolved deleted
    recovered delegated renamed registered views pagination cleaned : OperationResult) :
    Step → OperationResult
  | .verifyClientRuntime => verified
  | .initializeCatalog => initialized
  | .preflightFixture => isolated
  | .namespaceRoundTrip => «namespace»
  | .tableRoundTrip => table
  | .appendScan => appended
  | .updateProperties => updated
  | .evolveSchema => evolved
  | .deleteRows => deleted
  | .recoverConflict => recovered
  | .observeDelegatedAccess => delegated
  | .renameTable => renamed
  | .registerTable => registered
  | .classifyViews => views
  | .classifyPagination => pagination
  | .cleanupFixture => cleaned
  | .sanitizeTranscript => sanitized

theorem verifyRuntime_answers (runtime : RuntimeIdentity) :
    Answers .verifyClientRuntime (verifyRuntime contracts runtime) := by
  unfold verifyRuntime
  split
  · exact answers_passed
  · exact ⟨rfl, nofun, nofun⟩

theorem verifyRuntime_passed {runtime : RuntimeIdentity} :
    (verifyRuntime contracts runtime).status = .pass ↔ runtime = contracts.pinned := by
  unfold verifyRuntime
  split
  · next h => exact ⟨fun _ => h, fun _ => rfl⟩
  · next h => exact ⟨nofun, fun h' => absurd h' h⟩

/-- The results of the parts of a run are complete. -/
theorem exists_complete {verified initialized isolated «namespace» table appended : OperationResult}
    {optional : List OperationResult} {views pagination cleaned : OperationResult}
    (hverified : Answers .verifyClientRuntime verified)
    (hinitialized : Follows verified .initializeCatalog initialized)
    (hisolated : Follows initialized .preflightFixture isolated)
    (h : FixtureResults contracts isolated «namespace» table appended optional views pagination
      cleaned) :
    ∃ results, Complete contracts results ∧ results .verifyClientRuntime = verified ∧
      results .preflightFixture = isolated ∧
      [verified, initialized, isolated] ++ ([«namespace», table, appended] ++ optional ++
        [views, pagination, cleaned, sanitized]) = Step.all.map results := by
  obtain ⟨updated, _, hupdated, h₁, rfl⟩ := List.forall₂_cons_left_iff.mp h.offered
  obtain ⟨evolved, _, hevolved, h₂, rfl⟩ := List.forall₂_cons_left_iff.mp h₁
  obtain ⟨deleted, _, hdeleted, h₃, rfl⟩ := List.forall₂_cons_left_iff.mp h₂
  obtain ⟨recovered, _, hrecovered, h₄, rfl⟩ := List.forall₂_cons_left_iff.mp h₃
  obtain ⟨delegated, _, hdelegated, h₅, rfl⟩ := List.forall₂_cons_left_iff.mp h₄
  obtain ⟨renamed, _, hrenamed, h₆, rfl⟩ := List.forall₂_cons_left_iff.mp h₅
  obtain ⟨registered, _, hregistered, h₇, rfl⟩ := List.forall₂_cons_left_iff.mp h₆
  obtain rfl := List.forall₂_nil_left_iff.mp h₇
  refine ⟨resultsOf verified initialized isolated «namespace» table appended updated evolved
    deleted recovered delegated renamed registered views pagination cleaned, ?_, rfl, rfl, rfl⟩
  have hready : ∀ {result : OperationResult} {s : Step},
      Offered contracts (decide (appended.status = .pass)) s result →
      s.required = false → s.required = true ∨ s.capability.bind contracts.adapterLimitation = none →
      (result.status = .notEvaluated ↔ appended.status ≠ .pass) := by
    intro result s hoffered hoptional hdeclared
    rcases hdeclared with hrequired | hnone
    · rw [hoptional] at hrequired
      cases hrequired
    · rw [hoffered.evaluated hnone, decide_eq_false_iff_not]
  constructor
  · intro s
    cases s with
    | verifyClientRuntime => exact hverified.id
    | initializeCatalog => exact hinitialized.id
    | preflightFixture => exact hisolated.id
    | namespaceRoundTrip => exact h.roundTrip.id
    | tableRoundTrip => exact h.created.id
    | appendScan => exact h.scanned.id
    | updateProperties => exact hupdated.id
    | evolveSchema => exact hevolved.id
    | deleteRows => exact hdeleted.id
    | recoverConflict => exact hrecovered.id
    | observeDelegatedAccess => exact hdelegated.id
    | renameTable => exact hrenamed.id
    | registerTable => exact hregistered.id
    | classifyViews => exact h.views
    | classifyPagination => exact h.pagination
    | cleanupFixture => exact h.cleanedUp.id
    | sanitizeTranscript => rfl
  · intro s hunsupported
    cases s with
    | verifyClientRuntime => exact hverified.required hunsupported
    | initializeCatalog => exact hinitialized.required hunsupported
    | preflightFixture => exact hisolated.required hunsupported
    | namespaceRoundTrip => exact h.roundTrip.required hunsupported
    | tableRoundTrip => exact h.created.required hunsupported
    | appendScan => exact h.scanned.required hunsupported
    | cleanupFixture => exact h.cleanedUp.required hunsupported
    | sanitizeTranscript => cases hunsupported
    | _ => rfl
  · intro s earlier hprerequisite hdeclared
    cases s with
    | verifyClientRuntime | classifyViews | classifyPagination | sanitizeTranscript =>
      cases hprerequisite
    | initializeCatalog => cases hprerequisite; exact hinitialized.evaluated
    | preflightFixture => cases hprerequisite; exact hisolated.evaluated
    | namespaceRoundTrip => cases hprerequisite; exact h.roundTrip.evaluated
    | tableRoundTrip => cases hprerequisite; exact h.created.evaluated
    | appendScan => cases hprerequisite; exact h.scanned.evaluated
    | cleanupFixture => cases hprerequisite; exact h.cleanedUp.evaluated
    | updateProperties => cases hprerequisite; exact hready hupdated rfl hdeclared
    | evolveSchema => cases hprerequisite; exact hready hevolved rfl hdeclared
    | deleteRows => cases hprerequisite; exact hready hdeleted rfl hdeclared
    | recoverConflict => cases hprerequisite; exact hready hrecovered rfl hdeclared
    | observeDelegatedAccess => cases hprerequisite; exact hready hdelegated rfl hdeclared
    | renameTable => cases hprerequisite; exact hready hrenamed rfl hdeclared
    | registerTable => cases hprerequisite; exact hready hregistered rfl hdeclared

section Runs

variable {fixtureId : String} {licence : Licence step (fixtureOf contracts fixtureId)}
  {getenv : String → Option String} {runtime : RuntimeIdentity} {s s' : State} {w w' : W}

/-- The steps before the preflight. -/
theorem runs_initialization {verified : OperationResult}
    {r : Except PyError (OperationResult × List String)} (h : licence.Idle s w)
    (hrun : Runs step (initialization libraries contracts getenv verified) s w r s' w') :
    (verified.status = .pass ∧ w' = w ∧
        ∃ e, r = .error e ∧ catalogProperties libraries contracts getenv = .error e) ∨
      ¬(verified.status = .pass ∧ ∃ e, catalogProperties libraries contracts getenv = .error e) ∧
      licence.Idle s' w' ∧ ∃ result forbidden, r = .ok (result, forbidden) ∧
        Follows verified .initializeCatalog result ∧
        (result.status = .pass → s'.catalogOpen = true) := by
  rcases runs_ite hrun with ⟨hverified, hstart⟩ | ⟨hverified, hskip⟩
  · rcases runs_bind.mp hstart with ⟨e, hlift, rfl⟩ | ⟨⟨properties, forbidden⟩, s₁, w₁, hlift, hrest⟩
    · obtain ⟨he, rfl, rfl⟩ := runs_ofExcept.mp hlift
      exact .inl ⟨hverified, rfl, e, rfl, he.symm⟩
    · obtain ⟨hproperties, rfl, rfl⟩ := runs_ofExcept.mp hlift
      rcases runs_bind.mp hrest with ⟨e, hinit, rfl⟩ | ⟨result, s₂, w₂, hinit, hresult⟩
      · obtain ⟨-, _, hok, -⟩ := runs_initializeCatalog h hinit
        cases hok
      · obtain ⟨hidle, _, hok, hanswers, hopen⟩ := runs_initializeCatalog h hinit
        cases hok
        obtain ⟨rfl, rfl, rfl⟩ := runs_pure.mp hresult
        refine .inr ⟨?_, hidle, result, forbidden, rfl, follows_of_answers hanswers hverified, hopen⟩
        rintro ⟨-, e, he⟩
        rw [← hproperties] at he
        cases he
  · obtain ⟨rfl, rfl, rfl⟩ := runs_pure.mp hskip
    exact .inr ⟨fun h => hverified h.1, h, _, _, rfl, follows_notEvaluated hverified, nofun⟩

variable (libraries) in
theorem runs_isolation {initialized : OperationResult} {reason : String}
    {r : Except PyError OperationResult} (h : licence.Idle s w)
    (hopen : initialized.status = .pass → s.catalogOpen = true)
    (hrun : Runs step (passedOrSkip initialized .preflightFixture reason
      (preflight (fixtureOf contracts fixtureId))) s w r s' w') :
    ∃ result, r = .ok result ∧ Follows initialized .preflightFixture result ∧
      (result.status = .pass → licence.Acting libraries s' w') ∧
      (result.status ≠ .pass → licence.Idle s' w') := by
  rcases runs_ite hrun with ⟨hinitialized, hpreflight⟩ | ⟨hinitialized, hskip⟩
  · obtain ⟨result, rfl, hanswers, hacting, hidle⟩ :=
      runs_preflight h (hopen hinitialized) hpreflight
    exact ⟨result, rfl, follows_of_answers hanswers hinitialized, hacting, hidle⟩
  · obtain ⟨rfl, rfl, rfl⟩ := runs_pure.mp hskip
    exact ⟨_, rfl, follows_notEvaluated hinitialized, nofun, fun _ => h⟩

/-- A run that starts has looked only, or acted as its licence allows; if rows have digests it
returns a result for every step. -/
theorem runs_runProbe {r : Except PyError ProbeRun} (hidle : licence.idle w)
    (hrun : Runs step (runProbe libraries contracts fixtureId getenv runtime) .initial w r s' w') :
    (Refused libraries contracts fixtureId getenv runtime ∧ w' = w ∧ ∃ e, r = .error e) ∨
      ¬Refused libraries contracts fixtureId getenv runtime ∧ ∃ isolated : OperationResult,
        (isolated.status = .pass → licence.Acting libraries s' w') ∧
        (isolated.status ≠ .pass → licence.Idle s' w') ∧
        licence.Settles libraries (fun run => ∃ results, Complete contracts results ∧
          results .verifyClientRuntime = verifyRuntime contracts runtime ∧
          results .preflightFixture = isolated ∧
          run.operations = Step.all.map results) r := by
  have hinitial : licence.Idle .initial w := ⟨rfl, hidle, rfl, rfl⟩
  rcases runs_bind.mp hrun with ⟨e, hlift, rfl⟩ | ⟨_, s₁, w₁, hlift, hstart⟩
  · obtain ⟨he, -, rfl⟩ := runs_ofExcept.mp hlift
    refine .inl ⟨.inl ?_, rfl, e, rfl⟩
    by_contra hvalid
    rw [validateFixtureId, if_pos (Bool.eq_true_of_not_eq_false hvalid)] at he
    cases he
  obtain ⟨hvalidated, rfl, rfl⟩ := runs_ofExcept.mp hlift
  have hvalid := (except_ite_eq_ok hvalidated.symm).1
  rcases runs_bind.mp hstart with ⟨e, hinit, rfl⟩ | ⟨⟨initialized, forbidden⟩, s₂, w₂, hinit, hlook⟩
  · rcases runs_initialization hinitial hinit with
      ⟨hverified, rfl, e', -, he⟩ | ⟨-, -, _, _, hok, -⟩
    · exact .inl ⟨.inr ⟨verifyRuntime_passed.mp hverified, e', he⟩, rfl, e, rfl⟩
    · cases hok
  rcases runs_initialization hinitial hinit with
    ⟨-, -, _, hok, -⟩ | ⟨hstarted, hidle₁, _, _, hok, hinitialized, hopen⟩
  · cases hok
  cases hok
  rcases runs_bind.mp hlook with ⟨e, hisolate, rfl⟩ | ⟨isolated, s₃, w₃, hisolate, hact⟩
  · obtain ⟨_, hok, -⟩ := runs_isolation libraries hidle₁ hopen hisolate
    cases hok
  obtain ⟨_, hok, hisolated, hacting₂, hidle₂⟩ :=
    runs_isolation libraries hidle₁ hopen hisolate
  cases hok
  refine .inr ⟨?_, isolated, ?_⟩
  · rintro (hinvalid | ⟨hpinned, he⟩)
    · rw [hvalid] at hinvalid
      cases hinvalid
    · exact hstarted ⟨verifyRuntime_passed.mpr hpinned, he⟩
  -- The rest keeps whichever invariant holds after the preflight.
  have hrest : ∀ {I : State → W → Prop},
      (isolated.status = .pass → I = licence.Acting libraries) → I s₃ w₃ →
      Keeps step I (cleanup (fixtureOf contracts fixtureId))
        (licence.Settles libraries (Follows isolated .cleanupFixture)) →
      Keeps step I closeCatalog (Yields fun _ => True) →
      I s' w' ∧ licence.Settles libraries (fun run => ∃ results, Complete contracts results ∧
        results .verifyClientRuntime = verifyRuntime contracts runtime ∧
        results .preflightFixture = isolated ∧ run.operations = Step.all.map results) r := by
    intro I hI hbefore hcleanup hclose
    refine settles_bind (keeps_fixtureSteps hI hcleanup) ?_ s₃ w₃ r s' w' hbefore hact
    rintro operations ⟨«namespace», table, appended, optional, views, pagination, cleaned, rfl,
      hfixture⟩
    apply hclose.total
    intro _ _
    obtain ⟨results, hcomplete, hfirst, hsecond, hoperations⟩ :=
      exists_complete (verifyRuntime_answers runtime) hinitialized hisolated hfixture
    exact keeps_pure (settles_ok ⟨results, hcomplete, hfirst, hsecond, hoperations⟩)
  by_cases hpass : isolated.status = .pass
  · have hcleanup : Keeps step (licence.Acting libraries) (cleanup (fixtureOf contracts fixtureId))
        (licence.Settles libraries (Follows isolated .cleanupFixture)) := by
      apply acting_cleanup.mono
      intro r hr
      exact hr.mono fun result hresult => follows_of_answers hresult hpass
    obtain ⟨hafter, hsettles⟩ := hrest (fun _ => rfl) (hacting₂ hpass) hcleanup acting_closeCatalog
    exact ⟨fun _ => hafter, fun hfailed => absurd hpass hfailed, hsettles⟩
  · obtain ⟨hafter, hsettles⟩ := hrest (fun h => absurd h hpass) (hidle₂ hpass) (idle_cleanup hpass)
      idle_closeCatalog
    exact ⟨fun h => absurd h hpass, fun _ => hafter, hsettles⟩

end Runs

end CatalogBench.PyIceberg
