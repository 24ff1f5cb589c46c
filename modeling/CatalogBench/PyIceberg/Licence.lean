import CatalogBench.PyIceberg.Rows

/-!
# Acting on the fixture

The probe may look at a catalog at any time, but acts only after it has been told that the
namespace of its fixture does not exist, and then on that fixture only. A licence says what this
means in a world: what holds of the world before and after, and which rows it shows. Every step of
the probe keeps what its licence says, and settles in a result for that step.

## Main definitions

- `Within`: the calls that concern a fixture only
- `Licence`: a world in which the probe may act
- `Licence.Acting`, `Licence.Idle`: the invariants after and before the fixture was found free
- `Licence.Settles`: the outcome of a step
-/

set_option linter.all false

namespace CatalogBench.PyIceberg
open Interaction Interaction.Script

-- ════════════════════════════════
-- Calls
-- ════════════════════════════════

/-- The call concerns nothing but the fixture, and purges nothing. -/
def Within (fixture : FixtureIdentity) : ClientCall → Prop
  | .restCatalog .. | .listNamespaces | .close => True
  | .namespaceExists n | .createNamespace n _ | .loadNamespaceProperties n | .listTables n
  | .dropNamespace n => n = fixture.namespace
  | .createTable i _ _ | .loadTable i | .tableExists i | .registerTable i _ =>
    i ∈ fixture.identifiers
  | .dropTable i purgeRequested => i ∈ fixture.identifiers ∧ purgeRequested = false
  | .renameTable source destination =>
    source ∈ fixture.identifiers ∧ destination ∈ fixture.identifiers
  | .append table _ | .scan table | .commitProperties table _ _ | .addColumn table _
  | .delete table _ | .refresh table => table.identifier ∈ fixture.identifiers

/-- The call cannot change a catalog. -/
def ClientCall.readOnly : ClientCall → Bool
  | .restCatalog .. | .namespaceExists _ | .listNamespaces | .loadNamespaceProperties _
  | .listTables _ | .loadTable _ | .tableExists _ | .scan _ | .refresh _ | .close => true
  | .createNamespace .. | .createTable .. | .dropTable .. | .dropNamespace _ | .renameTable ..
  | .registerTable .. | .append .. | .commitProperties .. | .addColumn .. | .delete .. => false

theorem candidate_mem (contracts : ResolvedContracts) (fixtureId : String) {n : ℕ} (hn : n < 3) :
    (fixtureOf contracts fixtureId).identifiers.getD n [] ∈
      (fixtureOf contracts fixtureId).identifiers := by
  match n, hn with
  | 0, _ => exact .head _
  | 1, _ => exact .tail _ (.head _)
  | 2, _ => exact .tail _ (.tail _ (.head _))

-- ════════════════════════════════
-- Licences
-- ════════════════════════════════

/-- A world in which the probe may look, and act once the fixture is known to be free. -/
structure Licence {W : Type} (step : W → (c : ClientCall) → c.Reply → W → Prop)
    (fixture : FixtureIdentity) where
  idle : W → Prop
  acting : W → Prop
  good : Row → Prop
  look : ∀ {w c r w'}, c.readOnly = true → Within fixture c → step w c r w' → idle w → idle w'
  claim : ∀ {w w'}, step w (.namespaceExists fixture.namespace) (.ok false) w' → idle w → acting w'
  act : ∀ {w c r w'}, Within fixture c → step w c r w' → acting w → acting w'
  good_scan : ∀ {w table w'} {rows : List Row}, step w (.scan table) (.ok rows) w' →
    ∀ row ∈ rows, good row
  good_finite : ∀ {row : Row}, row.finite = true → good row
  good_note : ∀ {row : Row}, good row → good (row.insert "note" .none)

/-- The result of a step that was evaluated. No step that has to pass is unsupported. -/
structure Answers (step : Step) (result : OperationResult) : Prop where
  id : result.id = step
  evaluated : result.status ≠ .notEvaluated
  required : result.status = .unsupported → step.required = false

theorem answers_passed {id : Step} {capability : Option String}
    {observations : List (String × Json)} :
    Answers id (.passed id capability observations) :=
  ⟨rfl, nofun, nofun⟩

theorem answers_failure {id : Step} {error : PyError} {explanation category : String}
    {observations : List (String × Json)} :
    Answers id (failure id error explanation category observations) :=
  ⟨rfl, nofun, nofun⟩

theorem answers_unsupported {id : Step} {capability : Option String} {limitation : Limitation}
    (h : id.required = false) : Answers id (.unsupported id capability limitation) :=
  ⟨rfl, nofun, fun _ => h⟩

theorem answers_unsupportedOr {id : Step} {attributedTo : String} {error : PyError}
    {failed : OperationResult} (hid : id.required = false) (h : Answers id failed) :
    Answers id (unsupportedOr id attributedTo error failed) := by
  unfold unsupportedOr
  split
  · exact answers_unsupported hid
  · exact h

variable {W : Type} {step : W → (c : ClientCall) → c.Reply → W → Prop}
  {fixture : FixtureIdentity} (licence : Licence step fixture) (libraries : PyLibraries)

namespace Licence

/-- The rows are good, and have ids. -/
def GoodRows (rows : List Row) : Prop :=
  ∀ row ∈ rows, licence.good row ∧ Keyed libraries row

/-- The fixture is known to be free. -/
structure Acting (s : State) (w : W) : Prop where
  catalogOpen : s.catalogOpen = true
  ownershipSafe : s.ownershipSafe = true
  world : licence.acting w
  active : ∀ identifier ∈ s.activeIdentifier, identifier ∈ fixture.identifiers
  rows : licence.GoodRows libraries s.rows

/-- The fixture may belong to somebody else. -/
structure Idle (s : State) (w : W) : Prop where
  ownershipSafe : s.ownershipSafe = false
  world : licence.idle w
  active : s.activeIdentifier = none
  rows : s.rows = []

/-- Good rows have digests. -/
def Digests : Prop :=
  ∀ rows : List Row, (∀ row ∈ rows, licence.good row) →
    ∃ digest, libraries.rowDigest rows = .ok digest

/-- A value with the property is returned; an exception is only raised where rows have no
digest. -/
def Settles {α : Type} (p : α → Prop) (r : Except PyError α) : Prop :=
  (licence.Digests libraries → ∃ a, r = .ok a) ∧ Returned p r

end Licence

variable {licence libraries}

theorem goodRows_nil : licence.GoodRows libraries [] :=
  fun _ h => absurd h List.not_mem_nil

theorem goodRows_append {rows rows' : List Row} (h : licence.GoodRows libraries rows)
    (h' : licence.GoodRows libraries rows') : licence.GoodRows libraries (rows ++ rows') := by
  intro row hrow
  rcases List.mem_append.mp hrow with hrow | hrow
  · exact h row hrow
  · exact h' row hrow

theorem goodRows_batch {table : PyTable} {start : ℤ} {count : ℕ} {rows : List Row}
    (h : batch libraries table start count = .ok rows) : licence.GoodRows libraries rows := by
  intro row hrow
  obtain ⟨hkey, hfinite⟩ := forall_batch h row hrow
  exact ⟨licence.good_finite hfinite, hkey⟩

theorem goodRows_canonical {rows canonical : List Row}
    (h : canonicalRows libraries rows = .ok canonical) (hgood : ∀ row ∈ rows, licence.good row) :
    licence.GoodRows libraries canonical := by
  obtain ⟨hperm, hkeys⟩ := canonicalRows_eq_ok h
  intro row hrow
  have hmem : row ∈ rows := hperm.mem_iff.mp hrow
  exact ⟨hgood row hmem, hkeys row hmem⟩

theorem goodRows_note {rows : List Row} (h : licence.GoodRows libraries rows) :
    licence.GoodRows libraries (rows.map fun row => row.insert "note" .none) := by
  intro row hrow
  obtain ⟨row', hrow', rfl⟩ := List.mem_map.mp hrow
  obtain ⟨hgood, hkey⟩ := h row' hrow'
  refine ⟨licence.good_note hgood, ?_⟩
  unfold Keyed
  rw [rowId_insert_note]
  exact hkey

theorem goodRows_surviving {rows surviving : List Row}
    (h : survivingRows libraries rows = .ok surviving) (hgood : licence.GoodRows libraries rows) :
    licence.GoodRows libraries surviving :=
  fun row hrow => hgood row (survivingRows_eq_ok h row hrow)

/-- Good rows with ids can be observed. -/
theorem Licence.Digests.observes {rows : List Row} (h : licence.Digests libraries)
    (hrows : licence.GoodRows libraries rows) :
    ∃ observation, rowObservation libraries rows = .ok observation := by
  refine rowObservation_exists (fun row hrow => (hrows row hrow).2) ?_
  intro canonical hperm
  exact h canonical fun row hrow => (hrows row (hperm.mem_iff.mp hrow)).1

section Settles

variable {α β : Type} {I : State → W → Prop} {p : α → Prop} {q : β → Prop}

theorem settles_ok {a : α} (h : p a) : licence.Settles libraries p (.ok a) :=
  ⟨fun _ => ⟨a, rfl⟩, returned_ok h⟩

theorem Licence.Settles.mono {p' : α → Prop} {r : Except PyError α}
    (h : licence.Settles libraries p r) (hp : ∀ a, p a → p' a) : licence.Settles libraries p' r :=
  ⟨h.1, fun a ha => hp a (h.2 a ha)⟩

/-- A statement that settles, and the rest. -/
theorem settles_bind {script : Py α} {f : α → Py β}
    (h : Keeps step I script (licence.Settles libraries p))
    (hf : ∀ a, p a → Keeps step I (f a) (licence.Settles libraries q)) :
    Keeps step I (script >>= f) (licence.Settles libraries q) := by
  apply h.bind
  · rintro e ⟨hdigests, -⟩
    refine ⟨fun h => ?_, returned_error⟩
    obtain ⟨_, h⟩ := hdigests h
    cases h
  · intro a ha
    exact hf a (ha.2 a rfl)

/-- The rows that the probe believes in, observed outside of any handler. -/
theorem settles_rowObservation {rows : List Row} (h : licence.GoodRows libraries rows) :
    Keeps step I (lift (rowObservation libraries rows))
      (licence.Settles libraries fun _ => True) := by
  refine keeps_ofExcept ⟨fun hdigests => hdigests.observes h, ?_⟩
  intro _ _
  trivial

end Settles

-- ════════════════════════════════
-- Statements
-- ════════════════════════════════

section Statements

variable {s : State} {w : W}

theorem acting_call {c : ClientCall} (hc : Within fixture c) :
    Keeps step (licence.Acting libraries) (call c) (Returned fun _ => True) := by
  apply keeps_request
  intro s w reply w' h hstep
  refine ⟨⟨h.catalogOpen, h.ownershipSafe, licence.act hc hstep h.world, h.active, h.rows⟩, ?_⟩
  intro _ _
  trivial

theorem acting_scan {table : PyTable} (htable : table.identifier ∈ fixture.identifiers) :
    Keeps step (licence.Acting libraries) (scan table)
      (Returned fun rows => ∀ row ∈ rows, licence.good row) := by
  apply keeps_request
  intro s w reply w' h hstep
  have hc : Within fixture (.scan table) := htable
  refine ⟨⟨h.catalogOpen, h.ownershipSafe, licence.act hc hstep h.world, h.active, h.rows⟩, ?_⟩
  rintro rows (rfl : reply = .ok rows)
  exact licence.good_scan hstep

theorem acting_setActive {active : Option Identifier}
    (hactive : ∀ identifier ∈ active, identifier ∈ fixture.identifiers) :
    Keeps step (licence.Acting libraries) (setActive active) (Yields fun _ => True) := by
  apply keeps_modify
  · intro s w h
    exact ⟨h.catalogOpen, h.ownershipSafe, h.world, hactive, h.rows⟩
  · exact ⟨_, rfl, trivial⟩

theorem acting_setRows {rows : List Row} (hrows : licence.GoodRows libraries rows) :
    Keeps step (licence.Acting libraries) (setRows rows) (Yields fun _ => True) := by
  apply keeps_modify
  · intro s w h
    exact ⟨h.catalogOpen, h.ownershipSafe, h.world, h.active, hrows⟩
  · exact ⟨_, rfl, trivial⟩

/-- The other variables are not looked at. -/
theorem acting_modify {f : State → State}
    (hf : ∀ s, ((f s).catalogOpen, (f s).ownershipSafe, (f s).activeIdentifier, (f s).rows) =
      (s.catalogOpen, s.ownershipSafe, s.activeIdentifier, s.rows)) :
    Keeps step (licence.Acting libraries) (modify f : Py PUnit) (Yields fun _ => True) := by
  apply keeps_modify
  · intro s w h
    obtain ⟨hopen, hsafe, hactive, hrows⟩ := by simpa only [Prod.mk.injEq] using hf s
    refine ⟨?_, ?_, h.world, ?_, ?_⟩
    · rw [hopen]
      exact h.catalogOpen
    · rw [hsafe]
      exact h.ownershipSafe
    · rw [hactive]
      exact h.active
    · rw [hrows]
      exact h.rows
  · exact ⟨_, rfl, trivial⟩

theorem acting_raiseIf {c : Prop} [Decidable c] {error : PyError} :
    Keeps step (licence.Acting libraries) (raiseIf c error) (Returned fun _ => True) := by
  apply keeps_ite
  · intro _
    exact keeps_throw returned_error
  · intro _
    exact keeps_pure (returned_ok trivial)

theorem acting_get :
    Keeps step (licence.Acting libraries) (get : Py State)
      (Yields fun s => licence.GoodRows libraries s.rows) :=
  keeps_get fun s _ h => ⟨s, rfl, h.rows⟩

theorem acting_stateRows :
    Keeps step (licence.Acting libraries) stateRows
      (Yields fun rows => licence.GoodRows libraries rows) :=
  acting_get.total fun s hs => keeps_pure ⟨s.rows, rfl, hs⟩

theorem acting_activeIdentifier :
    Keeps step (licence.Acting libraries) activeIdentifier
      (Returned fun identifier => identifier ∈ fixture.identifiers) := by
  have hget : Keeps step (licence.Acting libraries) (get : Py State)
      (Returned fun s => ∀ identifier ∈ s.activeIdentifier, identifier ∈ fixture.identifiers) :=
    keeps_get fun s w h => returned_ok h.active
  apply hget.seq
  intro s hs
  cases hactive : s.activeIdentifier with
  | none => exact keeps_throw returned_error
  | some identifier => exact keeps_pure (returned_ok (hs identifier hactive))

theorem acting_loadTable {identifier : Identifier} (h : identifier ∈ fixture.identifiers) :
    Keeps step (licence.Acting libraries) (loadTable identifier)
      (Returned fun table => table.identifier ∈ fixture.identifiers) := by
  apply (acting_call (c := .loadTable identifier) h).seq
  intro view _
  exact keeps_pure (returned_ok h)

theorem acting_lift {α : Type} {result : Except PyError α} {p : α → Prop}
    (h : ∀ a, result = .ok a → p a) :
    Keeps step (licence.Acting libraries) (lift result) (Returned p) :=
  keeps_ofExcept h

end Statements

-- ════════════════════════════════
-- Finding the active table again
-- ════════════════════════════════

theorem acting_candidatePresent {identifier : Identifier} (h : identifier ∈ fixture.identifiers) :
    Keeps step (licence.Acting libraries) (candidatePresent identifier) (Yields fun _ => True) := by
  have hexists : Keeps step (licence.Acting libraries) (tableExists identifier)
      (Returned fun _ => True) := acting_call (c := .tableExists identifier) h
  have hbody : Keeps step (licence.Acting libraries)
      (do
        let present ← tableExists identifier
        return some present) (Returned fun _ => True) :=
    hexists.seq fun _ _ => keeps_pure (returned_ok trivial)
  apply hbody.tryCatch
  · intro present _
    exact ⟨present, rfl, trivial⟩
  · intro _ _
    exact keeps_pure ⟨none, rfl, trivial⟩

theorem acting_activeCandidates {identifiers : List Identifier}
    (h : ∀ identifier ∈ identifiers, identifier ∈ fixture.identifiers) :
    Keeps step (licence.Acting libraries) (activeCandidates identifiers)
      (Yields fun active => ∀ found ∈ active, ∀ identifier ∈ found,
        identifier ∈ fixture.identifiers) := by
  induction identifiers with
  | nil =>
    refine keeps_pure ⟨some [], rfl, ?_⟩
    rintro _ ⟨⟩ identifier hmem
    exact absurd hmem List.not_mem_nil
  | cons identifier identifiers ih =>
    have hfirst := h identifier List.mem_cons_self
    apply (acting_candidatePresent hfirst).total
    intro present _
    cases present with
    | none =>
      refine keeps_pure ⟨none, rfl, ?_⟩
      rintro _ ⟨⟩
    | some present =>
      apply (ih fun i hi => h i (List.mem_cons_of_mem _ hi)).total
      intro active hactive
      refine keeps_pure ⟨_, rfl, ?_⟩
      intro found hfound i hi
      obtain ⟨rest, hrest, rfl⟩ := Option.map_eq_some_iff.mp hfound
      cases present with
      | false => exact hactive rest hrest i hi
      | true =>
        rcases List.mem_cons.mp hi with rfl | hi
        · exact hfirst
        · exact hactive rest hrest i hi

theorem acting_resolveActive :
    Keeps step (licence.Acting libraries) (resolveActive fixture) (Yields fun _ => True) := by
  apply acting_get.total
  intro s _
  apply keeps_ite
  · intro _
    apply (acting_activeCandidates fun _ h => h).total
    intro active hactive
    apply acting_setActive
    intro identifier honly
    unfold onlyCandidate at honly
    split at honly
    · next only =>
      obtain rfl := Option.some.inj honly
      exact hactive [_] rfl _ (.head _)
    · cases honly
  · intro _
    apply acting_setActive
    rintro _ ⟨⟩

theorem acting_refreshRows :
    Keeps step (licence.Acting libraries) (refreshRows libraries fixture)
      (Yields fun _ => True) := by
  apply acting_resolveActive.total
  intro _ _
  have hget : Keeps step (licence.Acting libraries) (get : Py State)
      (Yields fun s => ∀ identifier ∈ s.activeIdentifier, identifier ∈ fixture.identifiers) :=
    keeps_get fun s w h => ⟨s, rfl, h.active⟩
  apply hget.total
  intro s hs
  cases hactive : s.activeIdentifier with
  | none => exact keeps_pure ⟨_, rfl, trivial⟩
  | some identifier =>
    have hbody : Keeps step (licence.Acting libraries)
        (do
          let table ← loadTable identifier
          let rows ← scan table
          let canonical ← lift (canonicalRows libraries rows)
          setRows canonical) (Returned fun _ => True) := by
      apply (acting_loadTable (hs identifier hactive)).seq
      intro table htable
      apply (acting_scan htable).seq
      intro rows hrows
      have hcanonical : Keeps step (licence.Acting libraries)
          (lift (canonicalRows libraries rows)) (Returned (licence.GoodRows libraries)) :=
        acting_lift fun canonical h => goodRows_canonical h hrows
      apply hcanonical.seq
      intro canonical h
      apply (acting_setRows h).mono
      intro _ _ _ _
      trivial
    apply hbody.tryCatch
    · intro a _
      exact ⟨a, rfl, trivial⟩
    · intro _ _
      exact keeps_pure ⟨_, rfl, trivial⟩

end CatalogBench.PyIceberg
