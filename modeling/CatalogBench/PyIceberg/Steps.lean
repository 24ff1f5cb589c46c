import CatalogBench.PyIceberg.Licence

/-!
# The steps act within their licence

One lemma for each step: it keeps what the licence says, and settles in its own result.
-/

set_option linter.all false

namespace CatalogBench.PyIceberg
open Interaction Interaction.Script

variable {W : Type} {step : W → (c : ClientCall) → c.Reply → W → Prop}
  {fixture : FixtureIdentity} {licence : Licence step fixture} {libraries : PyLibraries}
  {contracts : ResolvedContracts}

/-- A block whose exceptions become a result. -/
theorem acting_settles {id : Step} {body : Py OperationResult}
    {handler : PyError → Py OperationResult}
    (hbody : Keeps step (licence.Acting libraries) body (Returned (Answers id)))
    (hhandler : ∀ e, Keeps step (licence.Acting libraries) (handler e)
      (licence.Settles libraries (Answers id))) :
    Keeps step (licence.Acting libraries) (tryCatch body handler)
      (licence.Settles libraries (Answers id)) := by
  apply hbody.tryCatch
  · intro result h
    exact settles_ok (h result rfl)
  · intro e _
    exact hhandler e

theorem acting_loadActive :
    Keeps step (licence.Acting libraries) loadActive
      (Returned fun table => table.identifier ∈ fixture.identifiers) :=
  acting_activeIdentifier.seq fun _ h => acting_loadTable h

theorem acting_batch {table : PyTable} {start : ℤ} {count : ℕ} :
    Keeps step (licence.Acting libraries) (lift (batch libraries table start count))
      (Returned (licence.GoodRows libraries)) :=
  acting_lift fun _ h => goodRows_batch h

theorem acting_assertRows {table : PyTable} {expected : List Row}
    (h : table.identifier ∈ fixture.identifiers) :
    Keeps step (licence.Acting libraries) (assertRows libraries table expected)
      (Returned fun _ => True) := by
  apply (acting_scan h).seq
  intro rows _
  apply (acting_lift fun _ _ => trivial).seq
  intro observed _
  apply (acting_lift fun _ _ => trivial).seq
  intro canonicalExpected _
  apply acting_raiseIf.seq
  intro _ _
  exact acting_lift fun _ _ => trivial

-- ════════════════════════════════
-- Required steps
-- ════════════════════════════════

theorem acting_namespaceRoundTrip :
    Keeps step (licence.Acting libraries) (namespaceRoundTrip contracts fixture)
      (licence.Settles libraries (Answers .namespaceRoundTrip)) := by
  apply acting_settles
  · apply (acting_call (c := .createNamespace fixture.namespace _) rfl).seq
    intro _ _
    have hlist : Keeps step (licence.Acting libraries) listNamespaces (Returned fun _ => True) :=
      acting_call (c := .listNamespaces) trivial
    apply hlist.seq
    intro listed _
    apply (acting_call (c := .loadNamespaceProperties fixture.namespace) rfl).seq
    intro loaded _
    apply acting_raiseIf.seq
    intro _ _
    apply acting_raiseIf.seq
    intro _ _
    exact keeps_pure (returned_ok answers_passed)
  · intro e
    exact keeps_pure (settles_ok answers_failure)

theorem acting_assertSameTable {created loaded : PyTable} :
    Keeps step (licence.Acting libraries) (assertSameTable created loaded)
      (Returned fun _ => True) := by
  apply acting_raiseIf.seq
  intro _ _
  apply acting_raiseIf.seq
  intro _ _
  exact acting_raiseIf

theorem acting_tableRoundTrip
    (h : fixture.identifiers.getD 0 [] ∈ fixture.identifiers) :
    Keeps step (licence.Acting libraries) (tableRoundTrip contracts fixture)
      (licence.Settles libraries (Answers .tableRoundTrip)) := by
  apply acting_settles
  · have hcreate : Keeps step (licence.Acting libraries)
        (createTable (fixture.identifiers.getD 0 []) (tableLocation contracts fixture)
          contracts.parameters.initialProperties) (Returned fun _ => True) := by
      apply (acting_call (c := .createTable _ _ _) h).seq
      intro view _
      exact keeps_pure (returned_ok trivial)
    apply hcreate.seq
    intro table _
    have hlist : Keeps step (licence.Acting libraries) (listTables fixture.namespace)
        (Returned fun _ => True) := acting_call (c := .listTables fixture.namespace) rfl
    apply hlist.seq
    intro listed _
    apply (acting_loadTable h).seq
    intro loaded _
    apply acting_raiseIf.seq
    intro _ _
    apply acting_assertSameTable.seq
    intro _ _
    apply acting_raiseIf.seq
    intro _ _
    have hset : ∀ identifier ∈ some (fixture.identifiers.getD 0 []),
        identifier ∈ fixture.identifiers := by
      rintro _ ⟨⟩
      exact h
    apply (acting_setActive hset).total
    intro _ _
    exact keeps_pure (returned_ok answers_passed)
  · intro e
    apply acting_resolveActive.total
    intro _ _
    exact keeps_pure (settles_ok answers_failure)

theorem acting_appendScan :
    Keeps step (licence.Acting libraries) (appendScan libraries contracts fixture)
      (licence.Settles libraries (Answers .appendScan)) := by
  apply acting_settles
  · apply acting_loadActive.seq
    intro table htable
    apply acting_batch.seq
    intro rows hrows
    apply (acting_call (c := .append table rows) htable).seq
    intro _ _
    apply acting_loadActive.seq
    intro loaded hloaded
    apply (acting_setRows hrows).total
    intro _ _
    apply (acting_assertRows hloaded).seq
    intro observation _
    refine (acting_modify ?_).total ?_
    · intro _
      rfl
    intro _ _
    exact keeps_pure (returned_ok answers_passed)
  · intro e
    apply acting_refreshRows.total
    intro _ _
    exact keeps_pure (settles_ok answers_failure)

-- ════════════════════════════════
-- Optional steps
-- ════════════════════════════════

theorem acting_updateProperties :
    Keeps step (licence.Acting libraries) (updateProperties contracts)
      (licence.Settles libraries (Answers .updateProperties)) := by
  apply acting_settles
  · apply acting_loadActive.seq
    intro table htable
    apply (acting_call (c := .commitProperties table _ _) htable).seq
    intro _ _
    apply acting_loadActive.seq
    intro loaded _
    apply acting_raiseIf.seq
    intro _ _
    apply acting_raiseIf.seq
    intro _ _
    exact keeps_pure (returned_ok answers_passed)
  · intro e
    exact keeps_pure (settles_ok (answers_unsupportedOr rfl answers_failure))

theorem acting_evolveSchema :
    Keeps step (licence.Acting libraries) (evolveSchema libraries contracts fixture)
      (licence.Settles libraries (Answers .evolveSchema)) := by
  apply acting_settles
  · apply acting_loadActive.seq
    intro table htable
    apply (acting_call (c := .addColumn table "note") htable).seq
    intro _ _
    apply acting_loadActive.seq
    intro evolved hevolved
    apply acting_raiseIf.seq
    intro _ _
    apply acting_stateRows.total
    intro before hbefore
    apply (acting_setRows (goodRows_note hbefore)).total
    intro _ _
    apply (acting_lift fun _ _ => trivial).seq
    intro start _
    apply acting_batch.seq
    intro rows hrows
    apply (acting_call (c := .append evolved rows) hevolved).seq
    intro _ _
    apply (acting_setRows (goodRows_append (goodRows_note hbefore) hrows)).total
    intro _ _
    apply acting_loadActive.seq
    intro loaded hloaded
    apply (acting_assertRows hloaded).seq
    intro observation _
    exact keeps_pure (returned_ok answers_passed)
  · intro e
    apply acting_refreshRows.total
    intro _ _
    exact keeps_pure (settles_ok (answers_unsupportedOr rfl answers_failure))

theorem acting_deleteRows :
    Keeps step (licence.Acting libraries) (deleteRows libraries contracts fixture)
      (licence.Settles libraries (Answers .deleteRows)) := by
  apply acting_settles
  · apply acting_loadActive.seq
    intro table htable
    apply (acting_call (c := .delete table _) htable).seq
    intro _ _
    apply acting_stateRows.total
    intro before hbefore
    have hsurviving : Keeps step (licence.Acting libraries)
        (lift (survivingRows libraries before)) (Returned (licence.GoodRows libraries)) :=
      acting_lift fun _ h => goodRows_surviving h hbefore
    apply hsurviving.seq
    intro rows hrows
    apply (acting_setRows hrows).total
    intro _ _
    apply acting_loadActive.seq
    intro loaded hloaded
    apply (acting_assertRows hloaded).seq
    intro observation _
    exact keeps_pure (returned_ok answers_passed)
  · intro e
    apply acting_refreshRows.total
    intro _ _
    exact keeps_pure (settles_ok (answers_unsupportedOr rfl answers_failure))

theorem acting_staleAppend {writer : PyTable} {rows : List Row}
    (hwriter : writer.identifier ∈ fixture.identifiers) (hrows : licence.GoodRows libraries rows) :
    Keeps step (licence.Acting libraries) (staleAppend libraries writer rows)
      (Returned fun _ => True) := by
  have happend : Keeps step (licence.Acting libraries)
      (do
        call (.append writer rows)
        return (none : Option PyError)) (Returned fun _ => True) := by
    apply (acting_call (c := .append writer rows) hwriter).seq
    intro _ _
    exact keeps_pure (returned_ok trivial)
  have hcaught : Keeps step (licence.Acting libraries)
      (tryCatch (do
        call (.append writer rows)
        return (none : Option PyError))
        fun error => if error.commitFailed then return some error else raise error)
      (Returned fun _ => True) := by
    apply happend.tryCatch
    · intro _ _
      exact returned_ok trivial
    · intro error _
      apply keeps_ite
      · intro _
        exact keeps_pure (returned_ok trivial)
      · intro _
        exact keeps_throw returned_error
  apply hcaught.seq
  intro conflict _
  cases conflict with
  | some error =>
    refine (acting_modify ?_).mono ?_
    · intro _
      rfl
    · intro _ _ _ _
      trivial
  | none =>
    apply acting_stateRows.total
    intro before hbefore
    apply (acting_setRows (goodRows_append hbefore hrows)).total
    intro _ _
    apply acting_loadActive.seq
    intro loaded hloaded
    apply (acting_assertRows hloaded).seq
    intro _ _
    exact keeps_throw returned_error

theorem acting_recoverConflict :
    Keeps step (licence.Acting libraries) (recoverConflict libraries contracts fixture)
      (licence.Settles libraries (Answers .recoverConflict)) := by
  refine (acting_modify ?_).total ?_
  · intro _
    rfl
  intro _ _
  apply acting_settles
  · apply acting_loadActive.seq
    intro writerA hwriterA
    apply acting_loadActive.seq
    intro writerB hwriterB
    apply acting_stateRows.total
    intro before hbefore
    apply (acting_lift fun _ _ => trivial).seq
    intro start _
    apply acting_batch.seq
    intro firstRows hfirst
    apply acting_batch.seq
    intro secondRows hsecond
    apply (acting_call (c := .append writerA firstRows) hwriterA).seq
    intro _ _
    apply (acting_setRows (goodRows_append hbefore hfirst)).total
    intro _ _
    apply (acting_staleAppend hwriterB hsecond).seq
    intro _ _
    have hrefresh : Keeps step (licence.Acting libraries) (refresh writerB)
        (Returned fun table => table.identifier ∈ fixture.identifiers) := by
      apply (acting_call (c := .refresh writerB) hwriterB).seq
      intro view _
      exact keeps_pure (returned_ok hwriterB)
    apply hrefresh.seq
    intro refreshed hrefreshed
    apply (acting_lift fun _ _ => trivial).seq
    intro retryStart _
    apply acting_batch.seq
    intro retryRows _
    apply (acting_call (c := .append refreshed retryRows) hrefreshed).seq
    intro _ _
    apply (acting_setRows (goodRows_append (goodRows_append hbefore hfirst) hsecond)).total
    intro _ _
    apply acting_loadActive.seq
    intro loaded hloaded
    apply (acting_assertRows hloaded).seq
    intro observation _
    apply acting_get.total
    intro s _
    exact keeps_pure (returned_ok answers_passed)
  · intro e
    apply acting_refreshRows.total
    intro _ _
    apply keeps_ite
    · intro _
      exact keeps_pure (settles_ok (answers_unsupported rfl))
    · intro _
      apply acting_get.total
      intro s hs
      apply settles_bind (settles_rowObservation hs)
      intro finalRows _
      exact keeps_pure (settles_ok answers_failure)

theorem acting_observeDelegatedAccess :
    Keeps step (licence.Acting libraries) (observeDelegatedAccess libraries)
      (licence.Settles libraries (Answers .observeDelegatedAccess)) := by
  apply acting_settles
  · apply acting_loadActive.seq
    intro table _
    apply keeps_ite
    · intro _
      exact keeps_pure (returned_ok (answers_unsupported rfl))
    · intro _
      apply acting_get.total
      intro s _
      exact keeps_pure (returned_ok answers_passed)
  · intro e
    exact keeps_pure (settles_ok answers_failure)

theorem acting_renameActive
    (h : fixture.identifiers.getD 1 [] ∈ fixture.identifiers) :
    Keeps step (licence.Acting libraries) (renameActive libraries fixture)
      (licence.Settles libraries (Answers .renameTable)) := by
  apply acting_stateRows.total
  intro rows hrows
  apply settles_bind (settles_rowObservation hrows)
  intro before _
  apply acting_settles
  · apply acting_activeIdentifier.seq
    intro source hsource
    have hrename : Keeps step (licence.Acting libraries)
        (renameTable source (fixture.identifiers.getD 1 []))
        (Returned fun table => table.identifier ∈ fixture.identifiers) := by
      apply (acting_call (c := .renameTable source _) ⟨hsource, h⟩).seq
      intro view _
      exact keeps_pure (returned_ok h)
    apply hrename.seq
    intro renamed hrenamed
    have hexists : Keeps step (licence.Acting libraries) (tableExists source)
        (Returned fun _ => True) := acting_call (c := .tableExists source) hsource
    apply hexists.seq
    intro remains _
    apply acting_raiseIf.seq
    intro _ _
    have hset : ∀ identifier ∈ some (fixture.identifiers.getD 1 []),
        identifier ∈ fixture.identifiers := by
      rintro _ ⟨⟩
      exact h
    apply (acting_setActive hset).total
    intro _ _
    apply (acting_assertRows hrenamed).seq
    intro observation _
    apply acting_raiseIf.seq
    intro _ _
    exact keeps_pure (returned_ok answers_passed)
  · intro e
    apply acting_resolveActive.total
    intro _ _
    exact keeps_pure (settles_ok (answers_unsupportedOr rfl answers_failure))

theorem acting_reregister
    (h : fixture.identifiers.getD 2 [] ∈ fixture.identifiers) :
    Keeps step (licence.Acting libraries) (reregister libraries fixture)
      (licence.Settles libraries (Answers .registerTable)) := by
  apply acting_settles
  · apply acting_activeIdentifier.seq
    intro active hactive
    apply (acting_loadTable hactive).seq
    intro table _
    apply acting_stateRows.total
    intro rows _
    apply (acting_lift fun _ _ => trivial).seq
    intro before _
    apply (acting_call (c := .dropTable active false) ⟨hactive, rfl⟩).seq
    intro _ _
    have hnone : ∀ identifier ∈ (none : Option Identifier), identifier ∈ fixture.identifiers := by
      rintro _ ⟨⟩
    apply (acting_setActive hnone).total
    intro _ _
    have hregister : Keeps step (licence.Acting libraries)
        (registerTable (fixture.identifiers.getD 2 []) table.view.metadataLocation)
        (Returned fun table => table.identifier ∈ fixture.identifiers) := by
      apply (acting_call (c := .registerTable _ _) h).seq
      intro view _
      exact keeps_pure (returned_ok h)
    apply hregister.seq
    intro registered hregistered
    have hset : ∀ identifier ∈ some (fixture.identifiers.getD 2 []),
        identifier ∈ fixture.identifiers := by
      rintro _ ⟨⟩
      exact h
    apply (acting_setActive hset).total
    intro _ _
    apply acting_raiseIf.seq
    intro _ _
    apply (acting_assertRows hregistered).seq
    intro observation _
    apply acting_raiseIf.seq
    intro _ _
    exact keeps_pure (returned_ok answers_passed)
  · intro e
    apply acting_resolveActive.total
    intro _ _
    exact keeps_pure (settles_ok (answers_unsupportedOr rfl answers_failure))

-- ════════════════════════════════
-- Cleanup
-- ════════════════════════════════

theorem acting_tableExists {identifier : Identifier} (h : identifier ∈ fixture.identifiers) :
    Keeps step (licence.Acting libraries) (tableExists identifier) (Returned fun _ => True) :=
  acting_call (c := .tableExists identifier) h

theorem acting_dropCandidates {identifiers : List Identifier}
    (h : ∀ identifier ∈ identifiers, identifier ∈ fixture.identifiers) :
    Keeps step (licence.Acting libraries) (dropCandidates identifiers)
      (Returned fun _ => True) := by
  induction identifiers with
  | nil => exact keeps_pure (returned_ok trivial)
  | cons identifier identifiers ih =>
    have hfirst := h identifier List.mem_cons_self
    have hrest := ih fun i hi => h i (List.mem_cons_of_mem _ hi)
    apply (acting_tableExists hfirst).seq
    intro present _
    apply keeps_ite
    · intro _
      apply (acting_call (c := .dropTable identifier false) ⟨hfirst, rfl⟩).seq
      intro _ _
      refine (acting_modify ?_).total ?_
      · intro _
        rfl
      · intro _ _
        exact hrest
    · intro _
      exact hrest

theorem acting_remainingCandidates {identifiers : List Identifier}
    (h : ∀ identifier ∈ identifiers, identifier ∈ fixture.identifiers) :
    Keeps step (licence.Acting libraries) (remainingCandidates identifiers)
      (Returned fun _ => True) := by
  induction identifiers with
  | nil => exact keeps_pure (returned_ok trivial)
  | cons identifier identifiers ih =>
    apply (acting_tableExists (h identifier List.mem_cons_self)).seq
    intro present _
    apply (ih fun i hi => h i (List.mem_cons_of_mem _ hi)).seq
    intro remaining _
    exact keeps_pure (returned_ok trivial)

theorem acting_namespaceExists :
    Keeps step (licence.Acting libraries) (namespaceExists fixture.namespace)
      (Returned fun _ => True) :=
  acting_call (c := .namespaceExists fixture.namespace) rfl

theorem acting_reconcile :
    Keeps step (licence.Acting libraries) (reconcile fixture)
      (licence.Settles libraries (Answers .cleanupFixture)) := by
  apply acting_settles
  · apply (acting_dropCandidates fun _ h => h).seq
    intro _ _
    apply (acting_remainingCandidates fun _ h => h).seq
    intro remaining _
    apply acting_raiseIf.seq
    intro _ _
    apply acting_namespaceExists.seq
    intro present _
    have hdrop : Keeps step (licence.Acting libraries)
        (dropNamespaceIf present fixture.namespace) (Returned fun _ => True) := by
      apply keeps_ite
      · intro _
        exact acting_call (c := .dropNamespace fixture.namespace) rfl
      · intro _
        exact keeps_pure (returned_ok trivial)
    apply hdrop.seq
    intro _ _
    apply acting_namespaceExists.seq
    intro remains _
    apply acting_raiseIf.seq
    intro _ _
    have hnone : ∀ identifier ∈ (none : Option Identifier), identifier ∈ fixture.identifiers := by
      rintro _ ⟨⟩
    apply (acting_setActive hnone).total
    intro _ _
    apply acting_get.total
    intro s _
    exact keeps_pure (returned_ok answers_passed)
  · intro e
    apply acting_get.total
    intro s _
    exact keeps_pure (settles_ok answers_failure)

theorem acting_cleanup :
    Keeps step (licence.Acting libraries) (cleanup fixture)
      (licence.Settles libraries (Answers .cleanupFixture)) := by
  have hget : Keeps step (licence.Acting libraries) (get : Py State)
      (Yields fun s => s.catalogOpen = true ∧ s.ownershipSafe = true) :=
    keeps_get fun s w h => ⟨s, rfl, h.catalogOpen, h.ownershipSafe⟩
  apply hget.total
  rintro s ⟨hopen, hsafe⟩
  rw [if_neg (by rw [hopen]; exact Bool.noConfusion),
    if_neg (by rw [hsafe]; exact Bool.noConfusion)]
  refine (acting_modify ?_).total ?_
  · intro _
    rfl
  · intro _ _
    exact acting_reconcile

theorem acting_closeCatalog :
    Keeps step (licence.Acting libraries) closeCatalog (Yields fun _ => True) := by
  apply acting_get.total
  intro s _
  apply keeps_ite
  · intro _
    apply (acting_call (c := .close) trivial).tryCatch
    · intro _ _
      exact ⟨_, rfl, trivial⟩
    · intro _ _
      exact keeps_pure ⟨_, rfl, trivial⟩
  · intro _
    exact keeps_pure ⟨_, rfl, trivial⟩

end CatalogBench.PyIceberg
