import CatalogBench.PyIceberg.Stages

/-!
# What a run leaves behind

In a catalog that does what it says, and may still fail at any call before or after its effect, a
run changes nothing outside of its fixture. A fixture that was there before is left alone, and one
that the run made is gone when its cleanup passed.
-/

set_option linter.all false

namespace CatalogBench.PyIceberg
open Interaction Interaction.Script

variable {libraries : PyLibraries} {contracts : ResolvedContracts}

theorem dropLast_identifier {fixture : FixtureIdentity} {identifier : Identifier}
    (h : identifier ∈ fixture.identifiers) : identifier.dropLast = fixture.namespace := by
  obtain ⟨table, -, rfl⟩ := List.mem_map.mp h
  exact List.dropLast_concat

/-- A fixture that was free and is gone again leaves the catalog as it was. -/
theorem Warehouse.SameOutside.restored {fixture : FixtureIdentity} {w w' : Warehouse}
    (h : w.SameOutside fixture w') (hfree : fixture.namespace ∉ w.namespaces)
    (htables : ∀ identifier ∈ fixture.identifiers, identifier ∉ w'.tables)
    (hgone : fixture.namespace ∉ w'.namespaces) : w' = w := by
  refine Warehouse.ext_iff'.mpr ⟨fun n => ?_, fun t => ?_⟩
  · by_cases hn : n = fixture.namespace
    · subst hn
      exact iff_of_false hgone hfree
    · exact h.namespaces n hn
  · by_cases ht : t ∈ fixture.identifiers
    · refine iff_of_false (htables t ht) fun hmem => ?_
      apply hfree
      rw [← dropLast_identifier ht]
      exact w.nested t hmem
    · exact h.tables t ht

theorem ran_closeCatalog {x y : State × Warehouse} {a : Unit}
    (h : Ran Truthful closeCatalog x a y) : y.2 = x.2 := by
  have hclose : Keeps Truthful (fun _ w => w = x.2) closeCatalog fun _ => True := by
    have hget : Keeps Truthful (fun _ w => w = x.2) (get : Py State) (Yields fun _ => True) :=
      keeps_get fun s _ _ => ⟨s, rfl, trivial⟩
    apply hget.total
    intro s _
    apply keeps_ite
    · intro _
      have hcall : Keeps Truthful (fun _ w => w = x.2) (call .close) fun _ => True := by
        apply keeps_request
        intro _ w reply w' hw hstep
        exact ⟨(hstep.readOnly rfl).trans hw, trivial⟩
      apply hcall.tryCatch
      · intro _ _
        trivial
      · intro _ _
        exact keeps_pure trivial
    · intro _
      exact keeps_pure trivial
  exact (hclose x.1 x.2 _ y.1 y.2 rfl h).1

/-- A run changes nothing outside of its fixture, and nothing at all if the fixture existed or was
cleaned up. -/
theorem runProbe_leaves_catalog (libraries : PyLibraries) (contracts : ResolvedContracts)
    (fixtureId : String) (getenv : String → Option String) (runtime : RuntimeIdentity)
    {w w' : Warehouse} {r : Except PyError ProbeRun} {s' : State}
    (hrun : Runs Truthful (runProbe libraries contracts fixtureId getenv runtime) .initial w r
      s' w') :
    w.SameOutside (fixtureOf contracts fixtureId) w' ∧
      ((fixtureOf contracts fixtureId).namespace ∈ w.namespaces → w' = w) ∧
      ∀ run, r = .ok run → run.Passed .cleanupFixture → w' = w := by
  have hidle : (warehouseLicence (fixtureOf contracts fixtureId) w).idle w := rfl
  rcases runs_runProbe hidle hrun with ⟨-, rfl, e, rfl⟩ | ⟨-, isolated, hacting, hidle', -⟩
  · exact ⟨.refl w', fun _ => rfl, nofun⟩
  by_cases hpass : isolated.status = .pass
  · obtain ⟨hfree, hsame⟩ := (hacting hpass).world
    refine ⟨hsame, fun hthere => absurd hthere hfree, ?_⟩
    rintro run rfl hcleaned
    have hran : Ran Truthful (runProbe libraries contracts fixtureId getenv runtime) (.initial, w)
        run (s', w') := hrun
    obtain ⟨S, -, -, hpassed⟩ := ran_stages hran
    obtain ⟨htables, hgone⟩ := ran_cleanup S.stages.ranCleaned ((hpassed _).mp hcleaned)
    have hclosed : w' = S.x₂.2 := ran_closeCatalog S.ranClosed
    rw [← hclosed] at htables hgone
    exact hsame.restored hfree htables hgone
  · obtain rfl : w' = w := (hidle' hpass).world
    exact ⟨.refl w', fun _ => rfl, fun _ _ _ => rfl⟩

theorem runProbe_leaves_catalog_sample :
    ["sales", "orders"] ∈ sampleCatalog.warehouse.tables ∧
      samplePlay.2.1.warehouse = sampleCatalog.warehouse := by
  obtain ⟨run, hrun, hpassed⟩ := samplePlay_passed
  obtain ⟨-, -, hrestored⟩ := runProbe_leaves_catalog sampleLibraries sampleContracts "run_1" some
    sampleRuntime samplePlay_truthful
  exact ⟨by decide, hrestored run hrun (hpassed _ (by decide) (by decide))⟩

-- ════════════════════════════════
-- Runs that are cut short
-- ════════════════════════════════

/-- The licence of a run whose scans only show finite numbers. -/
def finiteLicence {W : Type} {step : W → (c : ClientCall) → c.Reply → W → Prop}
    (fixture : FixtureIdentity)
    (hscan : ∀ w table w' (rows : List Row), step w (.scan table) (.ok rows) w' →
      ∀ row ∈ rows, row.finite = true) : Licence step fixture where
  idle _ := True
  acting _ := True
  good row := row.finite = true
  look _ _ _ _ := trivial
  claim _ _ := trivial
  act _ _ _ := trivial
  good_scan h := hscan _ _ _ _ h
  good_finite := id
  good_note := finite_insert_note

/-- A catalog in memory that shows finite numbers only. -/
def finiteHandle (m : Memory) : (c : ClientCall) → c.Reply × Memory
  | .scan table =>
    ((m.load table.identifier).map fun stored => stored.rows.filter Row.finite, m)
  | c => m.handle c

theorem finite_of_finiteHandle {m m' : Memory} {table : PyTable} {rows : List Row}
    (h : (Except.ok rows, m') = finiteHandle m (.scan table)) : ∀ row ∈ rows, row.finite = true := by
  intro row hrow
  have hscan : Except.ok rows =
      (m.load table.identifier).map fun stored => stored.rows.filter Row.finite :=
    congrArg Prod.fst h
  cases hload : m.load table.identifier with
  | error _ =>
    rw [hload] at hscan
    cases hscan
  | ok stored =>
    rw [hload] at hscan
    rw [Except.ok.inj hscan] at hrow
    exact (List.mem_filter.mp hrow).2

end CatalogBench.PyIceberg
