import CatalogBench.PyIceberg.Catalog
import CatalogBench.PyIceberg.Run

/-!
# The footprint of a run

Whatever a catalog replies, a run concerns its own fixture only, and mutates nothing before the
catalog has said that the fixture does not exist. In a catalog that does what it says, a fixture
that exists is therefore left alone.

## Main definitions

- `Contained`: the traces of such runs
- `traceLicence`, `warehouseLicence`: the licences of a run in terms of its trace and of the catalog
-/

set_option linter.all false

namespace CatalogBench.PyIceberg
open Interaction Interaction.Script

-- ════════════════════════════════
-- Traces
-- ════════════════════════════════

/-- The catalog says that the fixture does not exist. -/
def absence (fixture : FixtureIdentity) : Recorded :=
  ⟨.namespaceExists fixture.namespace, .ok false⟩

/-- Every call concerns the fixture, and whatever is not a question comes after `absence`. -/
structure Contained (fixture : FixtureIdentity) (tr : List Recorded) : Prop where
  within : ∀ e ∈ tr, Within fixture e.call
  licensed : ∀ before (e : Recorded) after, tr = before ++ e :: after → e.call.readOnly = false →
    absence fixture ∈ before

theorem Contained.snoc {fixture : FixtureIdentity} {tr : List Recorded} {e : Recorded}
    (h : Contained fixture tr) (he : Within fixture e.call)
    (habsence : e.call.readOnly = false → absence fixture ∈ tr) :
    Contained fixture (tr ++ [e]) := by
  constructor
  · intro e' he'
    rcases List.mem_append.mp he' with he' | he'
    · exact h.within e' he'
    · rw [List.mem_singleton.mp he']
      exact he
  · intro before e' after hsplit hread
    rcases List.eq_nil_or_concat after with rfl | ⟨after, last, rfl⟩
    · obtain ⟨rfl, hlast⟩ := List.append_inj' hsplit rfl
      obtain rfl : e = e' := List.head_eq_of_cons_eq hlast
      exact habsence hread
    · have hsplit' : tr ++ [e] = (before ++ e' :: after) ++ [last] := by
        rw [hsplit, List.concat_eq_append, List.append_assoc]
        rfl
      obtain ⟨htr, -⟩ := List.append_inj' hsplit' rfl
      exact h.licensed before e' after htr hread

/-- A trace of questions. -/
theorem contained_of_questions {fixture : FixtureIdentity} {tr : List Recorded}
    (h : ∀ e ∈ tr, e.call.readOnly = true ∧ Within fixture e.call) : Contained fixture tr := by
  constructor
  · exact fun e he => (h e he).2
  · intro before e after hsplit hread
    have hmem : e ∈ tr := by
      rw [hsplit]
      exact List.mem_append_right before List.mem_cons_self
    rw [(h e hmem).1] at hread
    cases hread

/-- The licence of a run against any catalog, in terms of its trace. -/
def traceLicence (fixture : FixtureIdentity) :
    Licence (recording : List Recorded → (c : ClientCall) → c.Reply → List Recorded → Prop)
      fixture where
  idle tr := ∀ e ∈ tr, e.call.readOnly = true ∧ Within fixture e.call
  acting tr := Contained fixture tr ∧ absence fixture ∈ tr
  good _ := True
  look := by
    rintro tr c r _ hread hc rfl htr e he
    rcases List.mem_append.mp he with he | he
    · exact htr e he
    · rw [List.mem_singleton.mp he]
      exact ⟨hread, hc⟩
  claim := by
    rintro tr _ rfl htr
    refine ⟨(contained_of_questions htr).snoc rfl nofun, ?_⟩
    exact List.mem_append_right tr List.mem_cons_self
  act := by
    rintro tr c r _ hc rfl ⟨hcontained, habsence⟩
    exact ⟨hcontained.snoc hc fun _ => habsence, List.mem_append_left _ habsence⟩
  good_scan _ _ _ := trivial
  good_finite _ := trivial
  good_note _ := trivial

-- ════════════════════════════════
-- A run against a catalog in memory
-- ════════════════════════════════

def sampleLibraries : PyLibraries where
  parseInt := String.toInt?
  toFloat id := .ok id
  rowDigest rows := .ok (toString rows.length)
  arrowTable _ _ := .ok ()
  lower text := .ofList (text.toList.map Char.toLower)
  urljoin base path := base ++ path

def sampleRuntime : RuntimeIdentity :=
  ⟨"3.13.15", "0.11.1", "25.0.1", "2026.7.0", "linux", "arm64"⟩

/-- The parameters of the scenario, and a catalog without authentication. -/
def sampleContracts : ResolvedContracts where
  catalog := "polaris"
  pinned := sampleRuntime
  adapter := ⟨"http://catalog:8181/", some "bench", none, .anonymous, .exerciseAll⟩
  parameters := {
    fixturePrefix := "cb_c107"
    initialRows := 32
    evolvedRows := 8
    conflictRowsPerWriter := 4
    deleteFilter := "id < 4"
    namespaceProperties := .ofList [("catalog-bench.owner", "catalog-bench")] _
    initialProperties := .ofList [("c1-07.remove", "before"), ("c1-07.state", "before")] _
    propertyUpdates := .ofList [("c1-07.state", "after")] _
    propertyRemovals := ["c1-07.remove"]
    objectStore := ⟨"http://minio:9000", "us-east-1", "ACCESS_KEY", "SECRET_KEY"⟩
    knownClientLimitations := .ofList [
      ("client.pyiceberg.view-lifecycle", ⟨"no public create_view or load_view", "0.11.1"⟩),
      ("client.pyiceberg.pagination", ⟨"no public page controls", "0.11.1"⟩)] _ }

/-- A catalog that holds a table of somebody else. -/
def sampleCatalog : Memory := .holding ⟨{["sales"]}, {["sales", "orders"]}, by decide⟩

/-- A catalog in memory, and the trace of its calls. -/
def sampleHandle (x : Memory × List Recorded) (c : ClientCall) :
    c.Reply × Memory × List Recorded :=
  ((x.1.handle c).1, (x.1.handle c).2, x.2 ++ [⟨c, (x.1.handle c).1⟩])

def samplePlay : (Except PyError ProbeRun × State) × Memory × List Recorded :=
  (runProbe sampleLibraries sampleContracts "run_1" some sampleRuntime).play sampleHandle .initial
    (sampleCatalog, [])

theorem samplePlay_recorded :
    Runs recording (runProbe sampleLibraries sampleContracts "run_1" some sampleRuntime) .initial []
      samplePlay.1.1 samplePlay.1.2 samplePlay.2.2 :=
  runs_play sampleHandle Prod.snd (fun _ _ => rfl) _ State.initial (sampleCatalog, [])

theorem samplePlay_truthful :
    Runs Truthful (runProbe sampleLibraries sampleContracts "run_1" some sampleRuntime) .initial
      sampleCatalog.warehouse samplePlay.1.1 samplePlay.1.2 samplePlay.2.1.warehouse :=
  runs_play sampleHandle (fun x => x.1.warehouse) (fun x c => x.1.handle_truthful c) _ State.initial
    (sampleCatalog, [])

-- ════════════════════════════════
-- Runs are contained
-- ════════════════════════════════

/-- Whatever the catalog replies and however the run ends, it stays within its fixture and asks
before it acts. -/
theorem runProbe_contained (libraries : PyLibraries) (contracts : ResolvedContracts)
    (fixtureId : String) (getenv : String → Option String) (runtime : RuntimeIdentity)
    {r : Except PyError ProbeRun} {s' : State} {tr : List Recorded}
    (hrun : Runs recording (runProbe libraries contracts fixtureId getenv runtime) .initial [] r
      s' tr) :
    Contained (fixtureOf contracts fixtureId) tr := by
  have hidle : (traceLicence (fixtureOf contracts fixtureId)).idle [] :=
    fun _ he => absurd he List.not_mem_nil
  rcases runs_runProbe hidle hrun with ⟨-, rfl, -⟩ | ⟨-, isolated, hacting, hidle, -⟩
  · exact contained_of_questions fun _ he => absurd he List.not_mem_nil
  · by_cases hpass : isolated.status = .pass
    · exact (hacting hpass).world.1
    · exact contained_of_questions (hidle hpass).world

theorem runProbe_contained_sample :
    samplePlay.2.2.length = 52 ∧
      Contained (fixtureOf sampleContracts "run_1") samplePlay.2.2 :=
  ⟨by decide +kernel, runProbe_contained sampleLibraries sampleContracts "run_1" some sampleRuntime
    samplePlay_recorded⟩

-- ════════════════════════════════
-- Truthful catalogs
-- ════════════════════════════════

/-- The licence of a run in a truthful catalog that held `before`. -/
def warehouseLicence (fixture : FixtureIdentity) (before : Warehouse) :
    Licence Truthful fixture where
  idle w := w = before
  acting w := fixture.namespace ∉ before.namespaces ∧ before.SameOutside fixture w
  good _ := True
  look := by
    rintro w c r w' hread - hstep rfl
    exact hstep.readOnly hread
  claim := by
    rintro w w' hstep rfl
    obtain rfl := hstep.readOnly rfl
    have habsent : false = decide (fixture.namespace ∈ w'.namespaces) := hstep.1
    exact ⟨of_decide_eq_false habsent.symm, .refl w'⟩
  act := by
    rintro w c r w' hc hstep ⟨habsent, hsame⟩
    exact ⟨habsent, hsame.trans (hstep.sameOutside hc)⟩
  good_scan _ _ _ := trivial
  good_finite _ := trivial
  good_note _ := trivial

end CatalogBench.PyIceberg
