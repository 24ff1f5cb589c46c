import CatalogBench.Library.Emission
import CatalogBench.PyIceberg.Ids
import CatalogBench.PyIceberg.Verdict

/-!
# What a passing run has seen

Against any catalog, the calls of the steps that passed and the replies they were given are read
off the trace of the run.

## Main definitions

- `NamespaceEvidence`, `TableEvidence`, `AppendEvidence`, `CleanupEvidence`: what the required
  steps called and were told
- `Scanned`: a scan showed the rows with these ids
-/

set_option linter.all false

namespace CatalogBench.PyIceberg
open Interaction Interaction.Script

variable {fixture : FixtureIdentity} {libraries : PyLibraries} {contracts : ResolvedContracts}
  {x y : State × List Recorded}

/-- The trace only grows. -/
theorem ran_grows {α : Type} {script : Py α} {a : α} (h : Ran recording script x a y) :
    ∃ es, y.2 = x.2 ++ es := by
  obtain ⟨es, hes, -⟩ := Prog.run_recording.mp h
  exact ⟨es, hes⟩

/-- Every expected property is there. -/
def Projects (expected actual : StringMap String) : Prop :=
  ∀ key value : String, expected[key]? = some value → actual[key]? = some value

theorem projects_of_propertyDiffers {properties expected : StringMap String}
    (h : ¬propertyDiffers properties expected = true) : Projects expected properties := by
  intro key value hexpected
  by_contra hdiffers
  apply h
  refine List.any_eq_true.mpr
    ⟨(key, value), Std.ExtTreeMap.mem_toList_iff_getElem?_eq_some.mpr hexpected, ?_⟩
  exact bne_iff_ne.mpr hdiffers

-- ════════════════════════════════
-- Required steps
-- ════════════════════════════════

/-- The namespace was created, listed and loaded with its properties. -/
def NamespaceEvidence (contracts : ResolvedContracts) (fixture : FixtureIdentity)
    (es : List Recorded) : Prop :=
  let properties := contracts.parameters.namespaceProperties
  ∃ (listed : List Identifier) (loaded : StringMap String),
    es = [⟨.createNamespace fixture.namespace properties, .ok ()⟩, ⟨.listNamespaces, .ok listed⟩,
      ⟨.loadNamespaceProperties fixture.namespace, .ok loaded⟩] ∧
    fixture.namespace ∈ listed ∧ Projects properties loaded

/-- The table was created, listed and loaded as it was created. -/
def TableEvidence (contracts : ResolvedContracts) (fixture : FixtureIdentity)
    (es : List Recorded) : Prop :=
  let identifier := fixture.identifiers.getD 0 []
  let properties := contracts.parameters.initialProperties
  ∃ (created loaded : TableView) (listed : List Identifier),
    es = [⟨.createTable identifier (tableLocation contracts fixture) properties, .ok created⟩,
      ⟨.listTables fixture.namespace, .ok listed⟩, ⟨.loadTable identifier, .ok loaded⟩] ∧
    identifier ∈ listed ∧ created.tableUuid = loaded.tableUuid ∧
    created.metadataLocation = loaded.metadataLocation ∧
    created.schemaNames = loaded.schemaNames ∧ Projects properties loaded.properties

/-- The first batch was appended and scanned back. -/
def AppendEvidence (libraries : PyLibraries) (contracts : ResolvedContracts)
    (fixture : FixtureIdentity) (es : List Recorded) : Prop :=
  let identifier := fixture.identifiers.getD 0 []
  ∃ (before after : TableView) (rows scanned : List Row),
    es = [⟨.loadTable identifier, .ok before⟩, ⟨.append ⟨identifier, before⟩ rows, .ok ()⟩,
      ⟨.loadTable identifier, .ok after⟩, ⟨.scan ⟨identifier, after⟩, .ok scanned⟩] ∧
    batch libraries ⟨identifier, before⟩ 0 contracts.parameters.initialRows = .ok rows ∧
    Matches libraries rows scanned

/-- Every candidate and then the namespace were found to be gone. -/
def CleanupEvidence (fixture : FixtureIdentity) (es : List Recorded) : Prop :=
  ∃ (dropping : List Recorded) (present : Bool),
    es = dropping ++ fixture.identifiers.map (fun i => ⟨.tableExists i, .ok false⟩) ++
      [⟨.namespaceExists fixture.namespace, .ok present⟩] ++
      (if present then [⟨.dropNamespace fixture.namespace, .ok ()⟩] else []) ++ [absence fixture]

theorem ran_namespaceRoundTrip {result : OperationResult}
    (h : Ran recording (namespaceRoundTrip contracts fixture) x result y)
    (hpass : result.status = .pass) :
    ∃ es, y.2 = x.2 ++ es ∧ NamespaceEvidence contracts fixture es := by
  have hbody := ran_tryCatch_passed h hpass fun e z hhandler => by
    obtain ⟨rfl, -⟩ := ran_pure.mp hhandler
    exact nofun
  obtain ⟨_, x₁, hcreate, h₁⟩ := ran_bind.mp hbody
  obtain ⟨htr₁, -⟩ := ran_call.mp hcreate
  obtain ⟨listed, x₂, hlist, h₂⟩ := ran_bind.mp h₁
  obtain ⟨htr₂, -⟩ := ran_call.mp hlist
  obtain ⟨loaded, x₃, hload, h₃⟩ := ran_bind.mp h₂
  obtain ⟨htr₃, -⟩ := ran_call.mp hload
  obtain ⟨_, x₄, hraise, h₄⟩ := ran_bind.mp h₃
  obtain ⟨hlisted, rfl⟩ := ran_raiseIf.mp hraise
  obtain ⟨_, x₅, hraise', h₅⟩ := ran_bind.mp h₄
  obtain ⟨hproperties, rfl⟩ := ran_raiseIf.mp hraise'
  obtain ⟨-, rfl⟩ := ran_pure.mp h₅
  refine ⟨_, ?_, listed, loaded, rfl, of_not_not hlisted, projects_of_propertyDiffers hproperties⟩
  rw [show _ = _ from htr₃, show _ = _ from htr₂, show _ = _ from htr₁, List.append_assoc,
    List.append_assoc]
  rfl

theorem ran_assertSameTable {created loaded : PyTable} {a : Unit}
    (h : Ran recording (assertSameTable created loaded) x a y) :
    y = x ∧ created.view.tableUuid = loaded.view.tableUuid ∧
      created.view.metadataLocation = loaded.view.metadataLocation ∧
      created.view.schemaNames = loaded.view.schemaNames := by
  obtain ⟨_, x₁, hraise₁, h₁⟩ := ran_bind.mp h
  obtain ⟨huuid, rfl⟩ := ran_raiseIf.mp hraise₁
  obtain ⟨_, x₂, hraise₂, h₂⟩ := ran_bind.mp h₁
  obtain ⟨hlocation, rfl⟩ := ran_raiseIf.mp hraise₂
  obtain ⟨hschema, rfl⟩ := ran_raiseIf.mp h₂
  exact ⟨rfl, of_not_not huuid, of_not_not hlocation, of_not_not hschema⟩

/-- The created table is the active one from then on. -/
theorem ran_tableRoundTrip {result : OperationResult}
    (h : Ran recording (tableRoundTrip contracts fixture) x result y)
    (hpass : result.status = .pass) :
    y.1.activeIdentifier = some (fixture.identifiers.getD 0 []) ∧
      ∃ es, y.2 = x.2 ++ es ∧ TableEvidence contracts fixture es := by
  have hbody := ran_tryCatch_passed h hpass fun e z hhandler => by
    refine ran_settled ?_ hhandler
    exact nofun
  obtain ⟨table, x₁, hcreate, h₁⟩ := ran_bind.mp hbody
  obtain ⟨created, z, hcall, hpure⟩ := ran_bind.mp hcreate
  obtain ⟨htr₁, -⟩ := ran_call.mp hcall
  obtain ⟨rfl, rfl⟩ := ran_pure.mp hpure
  obtain ⟨listed, x₂, hlist, h₂⟩ := ran_bind.mp h₁
  obtain ⟨htr₂, -⟩ := ran_call.mp hlist
  obtain ⟨loaded, x₃, hload, h₃⟩ := ran_bind.mp h₂
  obtain ⟨hidentifier, htr₃, -⟩ := ran_loadTable hload
  obtain ⟨_, x₄, hraise, h₄⟩ := ran_bind.mp h₃
  obtain ⟨hlisted, rfl⟩ := ran_raiseIf.mp hraise
  obtain ⟨_, x₅, hsame, h₅⟩ := ran_bind.mp h₄
  obtain ⟨rfl, huuid, hlocation, hschema⟩ := ran_assertSameTable hsame
  obtain ⟨_, x₆, hraise', h₆⟩ := ran_bind.mp h₅
  obtain ⟨hproperties, rfl⟩ := ran_raiseIf.mp hraise'
  obtain ⟨_, x₇, hset, h₇⟩ := ran_bind.mp h₆
  obtain rfl := ran_setActive.mp hset
  obtain ⟨-, rfl⟩ := ran_pure.mp h₇
  refine ⟨rfl, _, ?_, created, loaded.view, listed, rfl, of_not_not hlisted, huuid, hlocation,
    hschema, projects_of_propertyDiffers hproperties⟩
  rw [show _ = _ from htr₃, show _ = _ from htr₂, show _ = _ from htr₁, List.append_assoc,
    List.append_assoc]
  rfl

-- ════════════════════════════════
-- Rows
-- ════════════════════════════════

/-- A scan showed rows with exactly these ids, each of them once. -/
def Scanned (libraries : PyLibraries) (tr : List Recorded) (ids : List ℤ) : Prop :=
  ∃ (table : PyTable) (scanned canonical : List Row), ⟨.scan table, .ok scanned⟩ ∈ tr ∧
    canonicalRows libraries scanned = .ok canonical ∧ HasIds libraries canonical ids

theorem Scanned.grows {tr tr' : List Recorded} {ids : List ℤ} (h : Scanned libraries tr ids)
    (hgrows : ∃ es, tr' = tr ++ es) : Scanned libraries tr' ids := by
  obtain ⟨table, scanned, canonical, hmem, hcanonical⟩ := h
  obtain ⟨es, rfl⟩ := hgrows
  exact ⟨table, scanned, canonical, List.mem_append_left es hmem, hcanonical⟩

/-- The scan of an accepted table, and what follows if the expected ids are a range. -/
theorem ran_assertRows_scanned {table : PyTable} {expected : List Row}
    {observation : RowObservation} {start : ℤ} {count : ℕ}
    (h : Ran recording (assertRows libraries table expected) x observation y)
    (hids : HasIds libraries expected (idRange start count)) :
    y.1 = x.1 ∧ Scanned libraries y.2 (idRange start count) := by
  obtain ⟨scanned, htr, hs, canonical, canonicalExpected, hcanonical, hexpected, hsame⟩ :=
    ran_assertRows h
  refine ⟨hs, table, scanned, canonical, ?_, hcanonical,
    sameRows_hasIds hsame (canonicalRows_idRange hids hexpected)⟩
  rw [show _ = _ from htr]
  exact List.mem_append_right _ List.mem_cons_self

theorem ran_appendScan {result : OperationResult}
    (h : Ran recording (appendScan libraries contracts fixture) x result y)
    (hpass : result.status = .pass)
    (hactive : x.1.activeIdentifier = some (fixture.identifiers.getD 0 [])) :
    HasIds libraries y.1.rows (idRange 0 contracts.parameters.initialRows) ∧
      Scanned libraries y.2 (idRange 0 contracts.parameters.initialRows) ∧
      ∃ es, y.2 = x.2 ++ es ∧ AppendEvidence libraries contracts fixture es := by
  have hbody := ran_tryCatch_passed h hpass fun e z hhandler => by
    refine ran_settled ?_ hhandler
    exact nofun
  obtain ⟨⟨identifier, before⟩, x₁, hload, h₁⟩ := ran_bind.mp hbody
  obtain ⟨hidentifier, htr₁, hs₁⟩ := ran_loadActive hload
  obtain rfl : identifier = _ := Option.some.inj (hidentifier.symm.trans hactive)
  obtain ⟨rows, x₂, hlift, h₂⟩ := ran_bind.mp h₁
  obtain ⟨hbatch, rfl⟩ := ran_lift.mp hlift
  obtain ⟨_, x₃, happend, h₃⟩ := ran_bind.mp h₂
  obtain ⟨htr₃, hs₃⟩ := ran_call.mp happend
  obtain ⟨⟨identifier', after⟩, x₄, hreload, h₄⟩ := ran_bind.mp h₃
  obtain ⟨hidentifier', htr₄, hs₄⟩ := ran_loadActive hreload
  rw [hs₃, hs₁] at hidentifier'
  obtain rfl : identifier' = _ := Option.some.inj (hidentifier'.symm.trans hactive)
  obtain ⟨_, x₅, hset, h₅⟩ := ran_bind.mp h₄
  obtain rfl := ran_setRows.mp hset
  obtain ⟨observation, x₆, hassert, h₆⟩ := ran_bind.mp h₅
  obtain ⟨scanned, htr₆, -, hmatches⟩ := ran_assertRows hassert
  obtain ⟨hs₆, hscanned⟩ := ran_assertRows_scanned hassert (batch_hasIds hbatch)
  obtain ⟨_, x₇, hmark, h₇⟩ := ran_bind.mp h₆
  obtain rfl := ran_modify.mp hmark
  obtain ⟨-, rfl⟩ := ran_pure.mp h₇
  refine ⟨?_, hscanned, _, ?_, before, after, rows, scanned, rfl, hbatch, hmatches⟩
  · show HasIds libraries x₆.1.rows _
    rw [hs₆]
    exact batch_hasIds hbatch
  · rw [show _ = _ from htr₆, show _ = _ from htr₄, show _ = _ from htr₃, show _ = _ from htr₁,
      List.append_assoc, List.append_assoc, List.append_assoc]
    rfl

section Frame

variable {rows : List Row}

theorem frame_call {c : ClientCall} :
    Keeps recording (fun (s : State) _ => s.rows = rows) (call c) (Returned fun _ => True) := by
  apply keeps_request
  intro s tr reply tr' hs _
  refine ⟨hs, ?_⟩
  intro _ _
  trivial

theorem frame_loadActive :
    Keeps recording (fun (s : State) _ => s.rows = rows) loadActive (Returned fun _ => True) := by
  have hget : Keeps recording (fun (s : State) _ => s.rows = rows) (get : Py State)
      (Yields fun _ => True) := keeps_get fun s _ _ => ⟨s, rfl, trivial⟩
  have hactive : Keeps recording (fun (s : State) _ => s.rows = rows) activeIdentifier
      (Returned fun _ => True) := by
    apply hget.total
    intro s _
    cases s.activeIdentifier with
    | none => exact keeps_throw returned_error
    | some identifier => exact keeps_pure (returned_ok trivial)
  apply hactive.seq
  intro identifier _
  apply frame_call.seq
  intro view _
  exact keeps_pure (returned_ok trivial)

theorem frame_raiseIf {c : Prop} [Decidable c] {error : PyError} :
    Keeps recording (fun (s : State) _ => s.rows = rows) (raiseIf c error)
      (Returned fun _ => True) := by
  apply keeps_ite
  · intro _
    exact keeps_throw returned_error
  · intro _
    exact keeps_pure (returned_ok trivial)

theorem frame_updateProperties :
    Keeps recording (fun (s : State) _ => s.rows = rows) (updateProperties contracts)
      (Returned fun _ => True) := by
  have hblock : ∀ {body : Py OperationResult} {handler : PyError → Py OperationResult},
      Keeps recording (fun (s : State) _ => s.rows = rows) body (Returned fun _ => True) →
      (∀ e, Keeps recording (fun (s : State) _ => s.rows = rows) (handler e)
        (Returned fun _ => True)) →
      Keeps recording (fun (s : State) _ => s.rows = rows) (tryCatch body handler)
        (Returned fun _ => True) :=
    fun hbody hhandler => hbody.tryCatch (fun _ h => h) fun e _ => hhandler e
  refine hblock ?_ fun e => keeps_pure (returned_ok trivial)
  apply frame_loadActive.seq
  intro table _
  apply frame_call.seq
  intro _ _
  apply frame_loadActive.seq
  intro loaded _
  apply frame_raiseIf.seq
  intro _ _
  apply frame_raiseIf.seq
  intro _ _
  exact keeps_pure (returned_ok trivial)

end Frame

/-- Setting properties leaves the expected rows as they are, whatever comes of it. -/
theorem ran_updateProperties_rows {reason : String} {ready : Bool} {result : OperationResult}
    (h : Ran recording (optionalOrSkip contracts .updateProperties ready reason
      (updateProperties contracts)) x result y) : y.1.rows = x.1.rows := by
  rcases ran_optionalOrSkip_or h with hran | rfl
  · exact (frame_updateProperties x.1 x.2 _ y.1 y.2 rfl hran).1
  · rfl

theorem ran_evolveSchema {result : OperationResult} {count : ℕ}
    (h : Ran recording (evolveSchema libraries contracts fixture) x result y)
    (hpass : result.status = .pass) (hids : HasIds libraries x.1.rows (idRange 0 count)) :
    HasIds libraries y.1.rows (idRange 0 (count + contracts.parameters.evolvedRows)) ∧
      Scanned libraries y.2 (idRange 0 (count + contracts.parameters.evolvedRows)) := by
  have hbody := ran_tryCatch_passed h hpass fun e z hhandler => by
    refine ran_settled ?_ hhandler
    exact unsupportedOr_failed nofun
  obtain ⟨table, x₁, hload, h₁⟩ := ran_bind.mp hbody
  obtain ⟨-, -, hs₁⟩ := ran_loadActive hload
  obtain ⟨_, x₂, hadd, h₂⟩ := ran_bind.mp h₁
  obtain ⟨-, hs₂⟩ := ran_call.mp hadd
  obtain ⟨evolved, x₃, hevolved, h₃⟩ := ran_bind.mp h₂
  obtain ⟨-, -, hs₃⟩ := ran_loadActive hevolved
  obtain ⟨_, x₄, hraise, h₄⟩ := ran_bind.mp h₃
  obtain ⟨-, rfl⟩ := ran_raiseIf.mp hraise
  obtain ⟨before, x₅, hstate, h₅⟩ := ran_bind.mp h₄
  obtain ⟨rfl, rfl⟩ := ran_stateRows.mp hstate
  have hnoted := note_hasIds hids
  rw [← hs₁, ← hs₂, ← hs₃] at hnoted
  obtain ⟨_, x₆, hset, h₆⟩ := ran_bind.mp h₅
  obtain rfl := ran_setRows.mp hset
  obtain ⟨start, x₇, hlift, h₇⟩ := ran_bind.mp h₆
  obtain ⟨hnext, rfl⟩ := ran_lift.mp hlift
  obtain ⟨rows, x₈, hlift', h₈⟩ := ran_bind.mp h₇
  obtain ⟨hbatch, rfl⟩ := ran_lift.mp hlift'
  have hall := hasIds_append hnoted (batch_hasIds hbatch)
  rw [nextId_idRange_zero hnoted hnext, idRange_append] at hall
  obtain ⟨_, x₉, happend, h₉⟩ := ran_bind.mp h₈
  obtain ⟨_, x₁₀, hset', h₁₀⟩ := ran_bind.mp h₉
  obtain rfl := ran_setRows.mp hset'
  obtain ⟨loaded, x₁₁, hreload, h₁₁⟩ := ran_bind.mp h₁₀
  obtain ⟨-, -, hs₁₁⟩ := ran_loadActive hreload
  obtain ⟨observation, x₁₂, hassert, h₁₂⟩ := ran_bind.mp h₁₁
  obtain ⟨hs₁₂, hscanned⟩ := ran_assertRows_scanned hassert hall
  obtain ⟨-, rfl⟩ := ran_pure.mp h₁₂
  refine ⟨?_, hscanned⟩
  rw [hs₁₂, hs₁₁]
  exact hall

theorem ran_deleteRows {result : OperationResult} {count : ℕ}
    (h : Ran recording (deleteRows libraries contracts fixture) x result y)
    (hpass : result.status = .pass) (hids : HasIds libraries x.1.rows (idRange 0 count)) :
    HasIds libraries y.1.rows (idRange 4 (count - 4)) ∧
      Scanned libraries y.2 (idRange 4 (count - 4)) := by
  have hbody := ran_tryCatch_passed h hpass fun e z hhandler => by
    refine ran_settled ?_ hhandler
    exact unsupportedOr_failed nofun
  obtain ⟨table, x₁, hload, h₁⟩ := ran_bind.mp hbody
  obtain ⟨-, -, hs₁⟩ := ran_loadActive hload
  obtain ⟨_, x₂, hdelete, h₂⟩ := ran_bind.mp h₁
  obtain ⟨-, hs₂⟩ := ran_call.mp hdelete
  obtain ⟨before, x₃, hstate, h₃⟩ := ran_bind.mp h₂
  obtain ⟨rfl, rfl⟩ := ran_stateRows.mp hstate
  rw [← hs₁, ← hs₂] at hids
  obtain ⟨rows, x₄, hlift, h₄⟩ := ran_bind.mp h₃
  obtain ⟨hsurviving, rfl⟩ := ran_lift.mp hlift
  have hkept := survivingRows_hasIds hids hsurviving
  rw [filter_idRange 0 4 count (by decide), Int.zero_add,
    show ((count : ℤ) - 4).toNat = count - 4 by omega] at hkept
  obtain ⟨_, x₅, hset, h₅⟩ := ran_bind.mp h₄
  obtain rfl := ran_setRows.mp hset
  obtain ⟨loaded, x₆, hreload, h₆⟩ := ran_bind.mp h₅
  obtain ⟨-, -, hs₆⟩ := ran_loadActive hreload
  obtain ⟨observation, x₇, hassert, h₇⟩ := ran_bind.mp h₆
  obtain ⟨hs₇, hscanned⟩ := ran_assertRows_scanned hassert hkept
  obtain ⟨-, rfl⟩ := ran_pure.mp h₇
  refine ⟨?_, hscanned⟩
  rw [hs₇, hs₆]
  exact hkept

/-- The stale append only returns after a conflict. -/
theorem ran_staleAppend {writer : PyTable} {rows : List Row} {a : Unit}
    (h : Ran recording (staleAppend libraries writer rows) x a y) :
    y.1.rows = x.1.rows ∧ ∃ error : PyError, error.commitFailed = true ∧
      ⟨.append writer rows, .error error⟩ ∈ y.2 := by
  obtain ⟨conflict, x₁, hattempt, h₁⟩ := ran_bind.mp h
  cases conflict with
  | none =>
    obtain ⟨before, x₂, -, h₂⟩ := ran_bind.mp h₁
    obtain ⟨_, x₃, -, h₃⟩ := ran_bind.mp h₂
    obtain ⟨loaded, x₄, -, h₄⟩ := ran_bind.mp h₃
    obtain ⟨_, x₅, -, h₅⟩ := ran_bind.mp h₄
    exact absurd h₅ ran_throw
  | some error =>
    obtain rfl := ran_modify.mp h₁
    rcases ran_tryCatch.mp hattempt with hbody | ⟨e, z, hbody, hhandler⟩
    · obtain ⟨_, x₂, -, h₂⟩ := ran_bind.mp hbody
      cases (ran_pure.mp h₂).1
    · rcases ran_ite.mp hhandler with ⟨hconflict, hpure⟩ | ⟨-, hraise⟩
      · obtain ⟨herror, rfl⟩ := ran_pure.mp hpure
        obtain rfl := Option.some.inj herror
        rcases runs_bind.mp hbody with ⟨_, hcall, he⟩ | ⟨_, s, w, -, hpure⟩
        · cases he
          obtain ⟨reply, htr, hreply, hs⟩ := runs_request.mp hcall
          obtain rfl : reply = .error error := hreply.symm
          have hrows : x₁.1.rows = x.1.rows := congrArg State.rows hs
          refine ⟨hrows, error, hconflict, ?_⟩
          show _ ∈ x₁.2
          rw [show _ = _ from htr]
          exact List.mem_append_right _ List.mem_cons_self
        · cases (runs_pure.mp hpure).1
      · exact absurd hraise ran_throw

theorem ran_recoverConflict {result : OperationResult} {count : ℕ}
    (h : Ran recording (recoverConflict libraries contracts fixture) x result y)
    (hpass : result.status = .pass) (hcount : 0 < count)
    (hids : HasIds libraries x.1.rows (idRange 4 count)) :
    Scanned libraries y.2
        (idRange 4 (count + 2 * contracts.parameters.conflictRowsPerWriter)) ∧
      ∃ (writer : PyTable) (rows : List Row) (error : PyError), error.commitFailed = true ∧
        ⟨.append writer rows, .error error⟩ ∈ y.2 := by
  obtain ⟨_, x₀, hreset, h₀⟩ := ran_bind.mp h
  obtain rfl := ran_modify.mp hreset
  have hbody := ran_tryCatch_passed h₀ hpass fun e z hhandler => by
    obtain ⟨_, z₁, -, h₁⟩ := ran_bind.mp hhandler
    rcases ran_ite.mp h₁ with ⟨-, hpure⟩ | ⟨-, h₂⟩
    · obtain ⟨rfl, -⟩ := ran_pure.mp hpure
      exact nofun
    · obtain ⟨s, z₂, -, h₃⟩ := ran_bind.mp h₂
      obtain ⟨finalRows, z₃, -, hpure⟩ := ran_bind.mp h₃
      obtain ⟨rfl, -⟩ := ran_pure.mp hpure
      exact nofun
  obtain ⟨writerA, x₁, hload₁, h₁⟩ := ran_bind.mp hbody
  obtain ⟨-, -, hs₁⟩ := ran_loadActive hload₁
  obtain ⟨writerB, x₂, hload₂, h₂⟩ := ran_bind.mp h₁
  obtain ⟨-, -, hs₂⟩ := ran_loadActive hload₂
  obtain ⟨before, x₃, hstate, h₃⟩ := ran_bind.mp h₂
  obtain ⟨rfl, rfl⟩ := ran_stateRows.mp hstate
  have hbefore : HasIds libraries x₃.1.rows (idRange 4 count) := by
    rw [hs₂, hs₁]
    exact hids
  obtain ⟨start, x₄, hlift₁, h₄⟩ := ran_bind.mp h₃
  obtain ⟨hnext, rfl⟩ := ran_lift.mp hlift₁
  obtain ⟨firstRows, x₅, hlift₂, h₅⟩ := ran_bind.mp h₄
  obtain ⟨hfirst, rfl⟩ := ran_lift.mp hlift₂
  obtain ⟨secondRows, x₆, hlift₃, h₆⟩ := ran_bind.mp h₅
  obtain ⟨hsecond, rfl⟩ := ran_lift.mp hlift₃
  obtain ⟨_, x₇, happend, h₇⟩ := ran_bind.mp h₆
  obtain ⟨_, x₈, hset, h₈⟩ := ran_bind.mp h₇
  obtain ⟨_, x₉, hstale, h₉⟩ := ran_bind.mp h₈
  obtain ⟨-, error, hconflict, herror⟩ := ran_staleAppend hstale
  obtain ⟨refreshed, x₁₀, -, h₁₀⟩ := ran_bind.mp h₉
  obtain ⟨retryStart, x₁₁, -, h₁₁⟩ := ran_bind.mp h₁₀
  obtain ⟨retryRows, x₁₂, -, h₁₂⟩ := ran_bind.mp h₁₁
  obtain ⟨_, x₁₃, hretry, h₁₃⟩ := ran_bind.mp h₁₂
  obtain ⟨_, x₁₄, hset', h₁₄⟩ := ran_bind.mp h₁₃
  obtain ⟨loaded, x₁₅, hreload, h₁₅⟩ := ran_bind.mp h₁₄
  obtain ⟨observation, x₁₆, hassert, h₁₆⟩ := ran_bind.mp h₁₅
  have hall := hasIds_append (hasIds_append hbefore (batch_hasIds hfirst)) (batch_hasIds hsecond)
  have hthird : (4 : ℤ) + count + contracts.parameters.conflictRowsPerWriter =
      4 + ↑(count + contracts.parameters.conflictRowsPerWriter) := by
    push_cast
    ring
  rw [nextId_idRange hcount hbefore hnext, idRange_append, hthird, idRange_append, Nat.add_assoc,
    ← Nat.two_mul] at hall
  obtain ⟨-, hscanned⟩ := ran_assertRows_scanned hassert hall
  obtain ⟨s, x₁₇, hget, h₁₇⟩ := ran_bind.mp h₁₆
  obtain ⟨-, rfl⟩ := ran_get.mp hget
  obtain ⟨-, rfl⟩ := ran_pure.mp h₁₇
  refine ⟨hscanned, writerB, secondRows, error, hconflict, ?_⟩
  obtain ⟨es, hes⟩ := ran_grows h₉
  rw [hes]
  exact List.mem_append_left es herror

-- ════════════════════════════════
-- The first and the last steps
-- ════════════════════════════════

theorem ran_initialization {getenv : String → Option String} {verified result : OperationResult}
    {forbidden : List String}
    (h : Ran recording (initialization libraries contracts getenv verified) x (result, forbidden) y)
    (hpass : result.status = .pass) :
    ∃ properties, catalogProperties libraries contracts getenv = .ok (properties, forbidden) ∧
      y.2 = x.2 ++ [⟨.restCatalog ("catalog-bench-" ++ contracts.catalog) properties, .ok ()⟩] := by
  rcases ran_ite.mp h with ⟨-, hstart⟩ | ⟨-, hskip⟩
  · obtain ⟨⟨properties, secrets⟩, x₁, hlift, h₁⟩ := ran_bind.mp hstart
    obtain ⟨hproperties, rfl⟩ := ran_lift.mp hlift
    obtain ⟨initialized, x₂, hinit, h₂⟩ := ran_bind.mp h₁
    obtain ⟨hresult, rfl⟩ := ran_pure.mp h₂
    obtain ⟨rfl, rfl⟩ := Prod.mk.inj hresult
    have hbody := ran_tryCatch_passed hinit hpass fun e z hhandler => by
      obtain ⟨rfl, -⟩ := ran_pure.mp hhandler
      exact nofun
    obtain ⟨_, x₃, hcall, h₃⟩ := ran_bind.mp hbody
    obtain ⟨htr, -⟩ := ran_call.mp hcall
    obtain ⟨_, x₄, hopen, h₄⟩ := ran_bind.mp h₃
    obtain rfl := ran_modify.mp hopen
    obtain ⟨-, rfl⟩ := ran_pure.mp h₄
    exact ⟨properties, hproperties, htr⟩
  · obtain ⟨hresult, -⟩ := ran_pure.mp hskip
    obtain ⟨rfl, -⟩ := Prod.mk.inj hresult
    cases hpass

theorem ran_preflight {result : OperationResult}
    (h : Ran recording (preflight fixture) x result y) (hpass : result.status = .pass) :
    y.2 = x.2 ++ [absence fixture] := by
  have hbody := ran_tryCatch_passed h hpass fun e z hhandler => by
    obtain ⟨rfl, -⟩ := ran_pure.mp hhandler
    exact nofun
  obtain ⟨present, x₁, hcall, h₁⟩ := ran_bind.mp hbody
  obtain ⟨htr, -⟩ := ran_call.mp hcall
  obtain ⟨_, x₂, hraise, h₂⟩ := ran_bind.mp h₁
  obtain ⟨hpresent, rfl⟩ := ran_raiseIf.mp hraise
  obtain rfl : present = false := Bool.eq_false_iff.mpr hpresent
  obtain ⟨_, x₃, howned, h₃⟩ := ran_bind.mp h₂
  obtain rfl := ran_modify.mp howned
  obtain ⟨-, rfl⟩ := ran_pure.mp h₃
  exact htr

theorem ran_remainingCandidates_nil {identifiers : List Identifier}
    (h : Ran recording (remainingCandidates identifiers) x [] y) :
    y.2 = x.2 ++ identifiers.map fun i => ⟨.tableExists i, .ok false⟩ := by
  induction identifiers generalizing x with
  | nil =>
    obtain ⟨-, rfl⟩ := ran_pure.mp h
    exact (List.append_nil _).symm
  | cons identifier identifiers ih =>
    obtain ⟨present, x₁, hcall, h₁⟩ := ran_bind.mp h
    obtain ⟨htr, -⟩ := ran_call.mp hcall
    obtain ⟨remaining, x₂, hothers, h₂⟩ := ran_bind.mp h₁
    obtain ⟨hnone, rfl⟩ := ran_pure.mp h₂
    split at hnone
    · cases hnone
    · next hpresent =>
      obtain rfl : present = false := Bool.eq_false_iff.mpr hpresent
      subst hnone
      rw [ih hothers, show _ = _ from htr, List.append_assoc]
      rfl

theorem ran_cleanup_passed {result : OperationResult}
    (h : Ran recording (cleanup fixture) x result y) (hpass : result.status = .pass) :
    ∃ es, y.2 = x.2 ++ es ∧ CleanupEvidence fixture es := by
  obtain ⟨s, z, hget, h₁⟩ := ran_bind.mp h
  obtain ⟨-, rfl⟩ := ran_get.mp hget
  rcases ran_ite.mp h₁ with ⟨-, hpure⟩ | ⟨-, h₂⟩
  · obtain ⟨rfl, -⟩ := ran_pure.mp hpure
    cases hpass
  rcases ran_ite.mp h₂ with ⟨-, hpure⟩ | ⟨-, h₃⟩
  · obtain ⟨rfl, -⟩ := ran_pure.mp hpure
    cases hpass
  obtain ⟨_, z₁, hreset, hreconcile⟩ := ran_bind.mp h₃
  obtain rfl := ran_modify.mp hreset
  have hbody := ran_tryCatch_passed hreconcile hpass fun e z' hhandler => by
    obtain ⟨_, _, -, hpure⟩ := ran_bind.mp hhandler
    obtain ⟨rfl, -⟩ := ran_pure.mp hpure
    exact nofun
  obtain ⟨_, x₁, hdrop, h₄⟩ := ran_bind.mp hbody
  obtain ⟨dropping, hdropping⟩ := ran_grows hdrop
  obtain ⟨remaining, x₂, hremaining, h₅⟩ := ran_bind.mp h₄
  obtain ⟨_, x₃, hraise, h₆⟩ := ran_bind.mp h₅
  obtain ⟨hnone, rfl⟩ := ran_raiseIf.mp hraise
  obtain rfl : remaining = [] := of_not_not hnone
  have htr₂ := ran_remainingCandidates_nil hremaining
  obtain ⟨present, x₄, hexists, h₇⟩ := ran_bind.mp h₆
  obtain ⟨htr₄, -⟩ := ran_call.mp hexists
  obtain ⟨_, x₅, hdropNamespace, h₈⟩ := ran_bind.mp h₇
  have htr₅ : x₅.2 = x₄.2 ++
      (if present then [⟨.dropNamespace fixture.namespace, .ok ()⟩] else []) := by
    rcases ran_ite.mp hdropNamespace with ⟨hpresent, hcall⟩ | ⟨habsent, hpure⟩
    · rw [if_pos hpresent]
      exact (ran_call.mp hcall).1
    · rw [if_neg habsent, (ran_pure.mp hpure).2, List.append_nil]
  obtain ⟨remains, x₆, hexists', h₉⟩ := ran_bind.mp h₈
  obtain ⟨htr₆, -⟩ := ran_call.mp hexists'
  obtain ⟨_, x₇, hraise', h₁₀⟩ := ran_bind.mp h₉
  obtain ⟨hgone, rfl⟩ := ran_raiseIf.mp hraise'
  obtain rfl : remains = false := Bool.eq_false_iff.mpr hgone
  obtain ⟨_, x₈, hset, h₁₁⟩ := ran_bind.mp h₁₀
  obtain rfl := ran_setActive.mp hset
  obtain ⟨s', x₉, hget', h₁₂⟩ := ran_bind.mp h₁₁
  obtain ⟨-, rfl⟩ := ran_get.mp hget'
  obtain ⟨-, rfl⟩ := ran_pure.mp h₁₂
  refine ⟨_, ?_, dropping, present, rfl⟩
  rw [show _ = _ from htr₆, htr₅, show _ = _ from htr₄, htr₂, hdropping]
  simp only [List.append_assoc]
  rfl

-- ════════════════════════════════
-- Runs
-- ════════════════════════════════

theorem grows_trans {tr₁ tr₂ tr₃ : List Recorded} (h : ∃ es, tr₂ = tr₁ ++ es)
    (h' : ∃ es, tr₃ = tr₂ ++ es) : ∃ es, tr₃ = tr₁ ++ es := by
  obtain ⟨es, rfl⟩ := h
  obtain ⟨es', rfl⟩ := h'
  exact ⟨es ++ es', List.append_assoc _ _ _⟩

theorem Stages.optional_grows {isolated : OperationResult} {operations : List OperationResult}
    (S : Stages recording libraries contracts fixture isolated x operations y) :
    ∃ es, S.x₁₀.2 = S.x₃.2 ++ es := by
  apply grows_trans (ran_grows S.ranUpdated)
  apply grows_trans (ran_grows S.ranEvolved)
  apply grows_trans (ran_grows S.ranDeleted)
  apply grows_trans (ran_grows S.ranRecovered)
  apply grows_trans (ran_grows S.ranDelegated)
  apply grows_trans (ran_grows S.ranRenamed)
  exact ran_grows S.ranRegistered

/-- A run that is classified as a pass has, on the pinned runtime and in this order, found the
fixture absent, made its namespace and table, read them back as it made them, scanned exactly the
rows it appended, and found everything gone again. -/
theorem runProbe_pass_sound (libraries : PyLibraries) (contracts : ResolvedContracts)
    (fixtureId : String) (getenv : String → Option String) (runtime : RuntimeIdentity)
    {run : ProbeRun} {s' : State} {tr : List Recorded}
    (hrun : Runs recording (runProbe libraries contracts fixtureId getenv runtime) .initial []
      (.ok run) s' tr)
    (hpass : classify contracts.assertions run.operations = .ok .pass) :
    let fixture := fixtureOf contracts fixtureId
    runtime = contracts.pinned ∧
    ∃ (properties : StringMap Json) («namespace» table append optional cleanup closing :
        List Recorded),
      catalogProperties libraries contracts getenv = .ok (properties, run.forbiddenValues) ∧
      tr = [⟨.restCatalog ("catalog-bench-" ++ contracts.catalog) properties, .ok ()⟩,
        absence fixture] ++ «namespace» ++ table ++ append ++ optional ++ cleanup ++ closing ∧
      NamespaceEvidence contracts fixture «namespace» ∧ TableEvidence contracts fixture table ∧
      AppendEvidence libraries contracts fixture append ∧ CleanupEvidence fixture cleanup := by
  intro fixture
  have hran : Ran recording (runProbe libraries contracts fixtureId getenv runtime) (.initial, [])
      run (s', tr) := hrun
  obtain ⟨S, hcomplete, hoperations, -⟩ := ran_stages hran
  have hstep : ∀ s : Step, s.required = true → (S.result s).status = .pass := by
    rw [hoperations] at hpass
    exact (classify_complete hcomplete).2.mp hpass
  refine ⟨verifyRuntime_passed.mp (hstep .verifyClientRuntime rfl), ?_⟩
  obtain ⟨properties, hproperties, htr₀⟩ :=
    ran_initialization S.ranInitialized (hstep .initializeCatalog rfl)
  have htr₁ := ran_preflight (ran_passedOrSkip S.ranIsolated (hstep .preflightFixture rfl)).2
    (hstep .preflightFixture rfl)
  obtain ⟨namespaceEs, htr₂, hnamespace⟩ := ran_namespaceRoundTrip
    (ran_passedOrSkip S.stages.ranNamespace (hstep .namespaceRoundTrip rfl)).2
    (hstep .namespaceRoundTrip rfl)
  obtain ⟨hactive, tableEs, htr₃, htable⟩ := ran_tableRoundTrip
    (ran_passedOrSkip S.stages.ranTable (hstep .tableRoundTrip rfl)).2 (hstep .tableRoundTrip rfl)
  obtain ⟨-, -, appendEs, htr₄, happend⟩ := ran_appendScan
    (ran_passedOrSkip S.stages.ranAppended (hstep .appendScan rfl)).2 (hstep .appendScan rfl) hactive
  obtain ⟨optionalEs, htr₅⟩ := S.stages.optional_grows
  obtain ⟨cleanupEs, htr₆, hcleanup⟩ :=
    ran_cleanup_passed S.stages.ranCleaned (hstep .cleanupFixture rfl)
  obtain ⟨closing, htr₇⟩ := ran_grows S.ranClosed
  refine ⟨properties, namespaceEs, tableEs, appendEs, optionalEs, cleanupEs, closing, hproperties,
    ?_, hnamespace, htable, happend, hcleanup⟩
  rw [show tr = _ from htr₇, htr₆, htr₅, htr₄, htr₃, htr₂, htr₁, htr₀]
  rfl

theorem runProbe_pass_sound_sample :
    ∃ run, samplePlay.1.1 = .ok run ∧
      ∃ (properties : StringMap Json) («namespace» table append optional cleanup closing :
          List Recorded),
        catalogProperties sampleLibraries sampleContracts some =
          .ok (properties, run.forbiddenValues) ∧
        samplePlay.2.2 = [⟨.restCatalog "catalog-bench-polaris" properties, .ok ()⟩,
          absence (fixtureOf sampleContracts "run_1")] ++ «namespace» ++ table ++ append ++
            optional ++ cleanup ++ closing ∧
        AppendEvidence sampleLibraries sampleContracts (fixtureOf sampleContracts "run_1")
          append := by
  obtain ⟨run, hrun, hpass⟩ := except_exists_of_any (x := samplePlay.1.1)
    (p := fun run => decide (classify sampleContracts.assertions run.operations = .ok .pass))
    (by decide +kernel)
  have hran := samplePlay_recorded
  rw [hrun] at hran
  obtain ⟨-, properties, namespaceEs, tableEs, appendEs, optionalEs, cleanupEs, closing,
      hproperties, htr, -, -, happend, -⟩ :=
    runProbe_pass_sound sampleLibraries sampleContracts "run_1" some sampleRuntime hran
      (of_decide_eq_true hpass)
  exact ⟨run, hrun, properties, namespaceEs, tableEs, appendEs, optionalEs, cleanupEs, closing,
    hproperties, htr, happend⟩

/-- If the data steps passed, then after each of them a scan showed exactly the rows that ought to
be there, each once: those of the first batch, with those of the second, without the first four,
and with those of both writers, one of which had run into a conflict. -/
theorem runProbe_rows_exact (libraries : PyLibraries) (contracts : ResolvedContracts)
    (fixtureId : String) (getenv : String → Option String) (runtime : RuntimeIdentity)
    {run : ProbeRun} {s' : State} {tr : List Recorded}
    (hrun : Runs recording (runProbe libraries contracts fixtureId getenv runtime) .initial []
      (.ok run) s' tr)
    (happended : run.Passed .appendScan) (hevolved : run.Passed .evolveSchema)
    (hdeleted : run.Passed .deleteRows) (hrecovered : run.Passed .recoverConflict)
    (hrows : 4 < contracts.parameters.initialRows + contracts.parameters.evolvedRows) :
    let initial := contracts.parameters.initialRows
    let total := initial + contracts.parameters.evolvedRows
    Scanned libraries tr (idRange 0 initial) ∧ Scanned libraries tr (idRange 0 total) ∧
    Scanned libraries tr (idRange 4 (total - 4)) ∧
    Scanned libraries tr
      (idRange 4 (total - 4 + 2 * contracts.parameters.conflictRowsPerWriter)) ∧
    ∃ (writer : PyTable) (rows : List Row) (error : PyError), error.commitFailed = true ∧
      ⟨.append writer rows, .error error⟩ ∈ tr := by
  intro initial total
  have hran : Ran recording (runProbe libraries contracts fixtureId getenv runtime) (.initial, [])
      run (s', tr) := hrun
  obtain ⟨S, -, -, hpassed⟩ := ran_stages hran
  replace happended := (hpassed _).mp happended
  replace hevolved := (hpassed _).mp hevolved
  replace hdeleted := (hpassed _).mp hdeleted
  replace hrecovered := (hpassed _).mp hrecovered
  obtain ⟨hcreated, hranAppended⟩ := ran_passedOrSkip S.stages.ranAppended happended
  obtain ⟨-, hranTable⟩ := ran_passedOrSkip S.stages.ranTable hcreated
  obtain ⟨hactive, -⟩ := ran_tableRoundTrip hranTable hcreated
  obtain ⟨hids₃, hscanned₃, -⟩ := ran_appendScan hranAppended happended hactive
  rw [← ran_updateProperties_rows S.stages.ranUpdated] at hids₃
  obtain ⟨hids₅, hscanned₅⟩ :=
    ran_evolveSchema (ran_optionalOrSkip S.stages.ranEvolved hevolved) hevolved hids₃
  obtain ⟨hids₆, hscanned₆⟩ :=
    ran_deleteRows (ran_optionalOrSkip S.stages.ranDeleted hdeleted) hdeleted hids₅
  obtain ⟨hscanned₇, writer, rows, error, hconflict, hstale⟩ :=
    ran_recoverConflict (ran_optionalOrSkip S.stages.ranRecovered hrecovered) hrecovered
      (Nat.sub_pos_of_lt hrows) hids₆
  have hgrows₇ : ∃ es, tr = S.stages.x₇.2 ++ es := by
    apply grows_trans (ran_grows S.stages.ranDelegated)
    apply grows_trans (ran_grows S.stages.ranRenamed)
    apply grows_trans (ran_grows S.stages.ranRegistered)
    apply grows_trans (ran_grows S.stages.ranCleaned)
    exact ran_grows S.ranClosed
  have hgrows₆ := grows_trans (ran_grows S.stages.ranRecovered) hgrows₇
  have hgrows₅ := grows_trans (ran_grows S.stages.ranDeleted) hgrows₆
  have hgrows₃ := grows_trans (ran_grows S.stages.ranUpdated)
    (grows_trans (ran_grows S.stages.ranEvolved) hgrows₅)
  refine ⟨hscanned₃.grows hgrows₃, hscanned₅.grows hgrows₅, hscanned₆.grows hgrows₆,
    hscanned₇.grows hgrows₇, writer, rows, error, hconflict, ?_⟩
  obtain ⟨es, hes⟩ := hgrows₇
  rw [hes]
  exact List.mem_append_left es hstale

theorem runProbe_rows_exact_sample :
    Scanned sampleLibraries samplePlay.2.2 (idRange 0 40) ∧
      Scanned sampleLibraries samplePlay.2.2 (idRange 4 44) := by
  obtain ⟨run, hrun, hpassed⟩ := samplePlay_passed
  have hran := samplePlay_recorded
  rw [hrun] at hran
  obtain ⟨-, hevolved, -, hrecovered, -⟩ :=
    runProbe_rows_exact sampleLibraries sampleContracts "run_1" some sampleRuntime hran
      (hpassed _ (by decide) (by decide)) (hpassed _ (by decide) (by decide))
      (hpassed _ (by decide) (by decide)) (hpassed _ (by decide) (by decide)) (by decide)
  exact ⟨hevolved, hrecovered⟩

end CatalogBench.PyIceberg
