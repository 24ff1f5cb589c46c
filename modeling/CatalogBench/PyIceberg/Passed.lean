import CatalogBench.PyIceberg.Footprint

/-!
# Steps that passed

A result that says pass was returned by the block of its step, not by a handler. What the block
called and checked is read off the run.
-/

set_option linter.all false

namespace CatalogBench.PyIceberg
open Interaction Interaction.Script

variable {W : Type} {step : W → (c : ClientCall) → c.Reply → W → Prop}
  {fixture : FixtureIdentity} {libraries : PyLibraries} {contracts : ResolvedContracts}
  {x y : State × W}

-- ════════════════════════════════
-- Statements
-- ════════════════════════════════

theorem ran_call {c : ClientCall} {a : c.Value} :
    Ran step (call c) x a y ↔ step x.2 c (.ok a) y.2 ∧ y.1 = x.1 := by
  constructor
  · intro h
    obtain ⟨reply, hstep, hreply, hvariables⟩ := ran_request.mp h
    obtain rfl : reply = .ok a := hreply
    exact ⟨hstep, hvariables⟩
  · rintro ⟨hstep, hvariables⟩
    exact ran_request.mpr ⟨.ok a, hstep, rfl, hvariables⟩

theorem ran_lift {α : Type} {result : Except PyError α} {a : α} :
    Ran step (lift result) x a y ↔ result = .ok a ∧ y = x :=
  ran_ofExcept

theorem ran_raiseIf {c : Prop} [Decidable c] {error : PyError} {a : Unit} :
    Ran step (raiseIf c error) x a y ↔ ¬c ∧ y = x := by
  unfold raiseIf
  rw [ran_ite]
  constructor
  · rintro (⟨_, hraise⟩ | ⟨hc, hpure⟩)
    · exact absurd hraise ran_throw
    · exact ⟨hc, (ran_pure.mp hpure).2⟩
  · rintro ⟨hc, rfl⟩
    exact .inr ⟨hc, ran_pure.mpr ⟨rfl, rfl⟩⟩

theorem ran_setActive {active : Option Identifier} {a : Unit} :
    Ran step (setActive active) x a y ↔ y = ({ x.1 with activeIdentifier := active }, x.2) :=
  ran_modify

theorem ran_setRows {rows : List Row} {a : Unit} :
    Ran step (setRows rows) x a y ↔ y = ({ x.1 with rows := rows }, x.2) :=
  ran_modify

theorem ran_stateRows {rows : List Row} :
    Ran step stateRows x rows y ↔ rows = x.1.rows ∧ y = x := by
  unfold stateRows
  rw [ran_bind]
  constructor
  · rintro ⟨s, z, hget, hpure⟩
    obtain ⟨rfl, rfl⟩ := ran_get.mp hget
    exact ran_pure.mp hpure
  · rintro ⟨rfl, rfl⟩
    exact ⟨y.1, y, ran_get.mpr ⟨rfl, rfl⟩, ran_pure.mpr ⟨rfl, rfl⟩⟩

theorem ran_activeIdentifier {identifier : Identifier}
    (h : Ran step activeIdentifier x identifier y) :
    x.1.activeIdentifier = some identifier ∧ y = x := by
  obtain ⟨s, z, hget, hrest⟩ := ran_bind.mp h
  obtain ⟨rfl, rfl⟩ := ran_get.mp hget
  cases hactive : z.1.activeIdentifier with
  | none =>
    simp only [hactive] at hrest
    exact absurd hrest ran_throw
  | some active =>
    simp only [hactive] at hrest
    obtain ⟨rfl, rfl⟩ := ran_pure.mp hrest
    exact ⟨rfl, rfl⟩

theorem ran_loadTable {identifier : Identifier} {table : PyTable}
    (h : Ran step (loadTable identifier) x table y) :
    table.identifier = identifier ∧ step x.2 (.loadTable identifier) (.ok table.view) y.2 ∧
      y.1 = x.1 := by
  obtain ⟨view, z, hcall, hpure⟩ := ran_bind.mp h
  obtain ⟨hstep, hvariables⟩ := ran_call.mp hcall
  obtain ⟨rfl, rfl⟩ := ran_pure.mp hpure
  exact ⟨rfl, hstep, hvariables⟩

theorem ran_loadActive {table : PyTable} (h : Ran step loadActive x table y) :
    x.1.activeIdentifier = some table.identifier ∧
      step x.2 (.loadTable table.identifier) (.ok table.view) y.2 ∧ y.1 = x.1 := by
  obtain ⟨identifier, z, hactive, hload⟩ := ran_bind.mp h
  obtain ⟨hactive, rfl⟩ := ran_activeIdentifier hactive
  obtain ⟨rfl, hstep, hvariables⟩ := ran_loadTable hload
  exact ⟨hactive, hstep, hvariables⟩

/-- The rows of a table were scanned, and are the expected ones in canonical order. -/
structure Matches (libraries : PyLibraries) (expected scanned : List Row) : Prop where
  same : ∃ canonical canonicalExpected, canonicalRows libraries scanned = .ok canonical ∧
    canonicalRows libraries expected = .ok canonicalExpected ∧
    sameRows canonical canonicalExpected = true

theorem ran_assertRows {table : PyTable} {expected : List Row} {observation : RowObservation}
    (h : Ran step (assertRows libraries table expected) x observation y) :
    ∃ scanned, step x.2 (.scan table) (.ok scanned) y.2 ∧ y.1 = x.1 ∧
      Matches libraries expected scanned := by
  obtain ⟨scanned, z, hscan, hrest₁⟩ := ran_bind.mp h
  obtain ⟨hstep, hvariables⟩ := ran_call.mp hscan
  obtain ⟨canonical, z₁, hsorted, hrest₂⟩ := ran_bind.mp hrest₁
  obtain ⟨hcanonical, rfl⟩ := ran_lift.mp hsorted
  obtain ⟨canonicalExpected, z₂, hlift, hrest₃⟩ := ran_bind.mp hrest₂
  obtain ⟨hexpected, rfl⟩ := ran_lift.mp hlift
  obtain ⟨_, z₃, hraise, hrest₄⟩ := ran_bind.mp hrest₃
  obtain ⟨hsame, rfl⟩ := ran_raiseIf.mp hraise
  obtain ⟨-, rfl⟩ := ran_lift.mp hrest₄
  exact ⟨scanned, hstep, hvariables, canonical, canonicalExpected, hcanonical, hexpected,
    Bool.eq_true_of_not_eq_false hsame⟩

/-- A result that says pass comes from the block. -/
theorem ran_tryCatch_passed {body : Py OperationResult} {handler : PyError → Py OperationResult}
    {result : OperationResult} (h : Ran step (tryCatch body handler) x result y)
    (hpass : result.status = .pass)
    (hhandler : ∀ e z, Ran step (handler e) z result y → result.status ≠ .pass) :
    Ran step body x result y := by
  rcases ran_tryCatch.mp h with hbody | ⟨e, z, -, hran⟩
  · exact hbody
  · exact absurd hpass (hhandler e z hran)

theorem unsupportedOr_failed {s : Step} {attributedTo : String} {error : PyError}
    {failed : OperationResult} (h : failed.status ≠ .pass) :
    (unsupportedOr s attributedTo error failed).status ≠ .pass := by
  unfold unsupportedOr
  split
  · exact nofun
  · exact h

/-- A handler that only settles the result. -/
theorem ran_settled {before : Py Unit} {failed result : OperationResult}
    (hfailed : failed.status ≠ .pass)
    (h : Ran step (do before; return failed) x result y) : result.status ≠ .pass := by
  obtain ⟨_, z, -, hpure⟩ := ran_bind.mp h
  obtain ⟨rfl, -⟩ := ran_pure.mp hpure
  exact hfailed

-- ════════════════════════════════
-- Cleanup
-- ════════════════════════════════

section Cleanup

variable {x y : State × Warehouse}

theorem ran_tableExists {identifier : Identifier} {present : Bool}
    (h : Ran Truthful (tableExists identifier) x present y) :
    present = decide (identifier ∈ x.2.tables) ∧ y = x := by
  obtain ⟨hstep, hvariables⟩ := ran_call.mp h
  exact ⟨hstep.1, Prod.ext hvariables (hstep.readOnly rfl)⟩

theorem ran_namespaceExists {n : Identifier} {present : Bool}
    (h : Ran Truthful (namespaceExists n) x present y) :
    present = decide (n ∈ x.2.namespaces) ∧ y = x := by
  obtain ⟨hstep, hvariables⟩ := ran_call.mp h
  exact ⟨hstep.1, Prod.ext hvariables (hstep.readOnly rfl)⟩

/-- The candidates that remain are those that exist. -/
theorem ran_remainingCandidates {identifiers : List Identifier} {remaining : List String}
    (h : Ran Truthful (remainingCandidates identifiers) x remaining y) :
    y = x ∧ (remaining = [] → ∀ identifier ∈ identifiers, identifier ∉ x.2.tables) := by
  induction identifiers generalizing remaining x y with
  | nil =>
    obtain ⟨-, rfl⟩ := ran_pure.mp h
    exact ⟨rfl, fun _ _ hmem => absurd hmem List.not_mem_nil⟩
  | cons identifier identifiers ih =>
    obtain ⟨present, z, hexists, hrest⟩ := ran_bind.mp h
    obtain ⟨hpresent, rfl⟩ := ran_tableExists hexists
    obtain ⟨others, z₁, hothers, hpure⟩ := ran_bind.mp hrest
    obtain ⟨rfl, habsent⟩ := ih hothers
    obtain ⟨rfl, rfl⟩ := ran_pure.mp hpure
    refine ⟨rfl, fun hnone i hi => ?_⟩
    split at hnone
    · cases hnone
    · next hfalse =>
      rcases List.mem_cons.mp hi with rfl | hi
      · rw [hpresent] at hfalse
        exact fun hmem => hfalse (decide_eq_true hmem)
      · exact habsent hnone i hi

/-- A cleanup that passed leaves nothing of the fixture. -/
theorem ran_reconcile {result : OperationResult} (h : Ran Truthful (reconcile fixture) x result y)
    (hpass : result.status = .pass) :
    (∀ identifier ∈ fixture.identifiers, identifier ∉ y.2.tables) ∧
      fixture.namespace ∉ y.2.namespaces := by
  have hbody := ran_tryCatch_passed h hpass fun e z hhandler => by
    obtain ⟨s, z₁, -, hpure⟩ := ran_bind.mp hhandler
    obtain ⟨rfl, -⟩ := ran_pure.mp hpure
    exact nofun
  obtain ⟨_, x₁, -, hrest₁⟩ := ran_bind.mp hbody
  obtain ⟨remaining, x₂, hremaining, hrest₂⟩ := ran_bind.mp hrest₁
  obtain ⟨rfl, habsent⟩ := ran_remainingCandidates hremaining
  obtain ⟨_, x₃, hraise, hrest₃⟩ := ran_bind.mp hrest₂
  obtain ⟨hnone, rfl⟩ := ran_raiseIf.mp hraise
  replace habsent := habsent (of_not_not hnone)
  obtain ⟨present, x₄, hexists, hrest₄⟩ := ran_bind.mp hrest₃
  obtain ⟨-, rfl⟩ := ran_namespaceExists hexists
  obtain ⟨_, x₅, hdrop, hrest₅⟩ := ran_bind.mp hrest₄
  have htables : x₅.2.tables = x₄.2.tables := by
    rcases ran_ite.mp hdrop with ⟨-, hcall⟩ | ⟨-, hpure⟩
    · obtain ⟨⟨-, heffect | ⟨hfailed, -⟩⟩, -⟩ := ran_call.mp hcall
      · exact (Warehouse.mem_dropNamespace heffect).2.1
      · cases hfailed
    · rw [(ran_pure.mp hpure).2]
  obtain ⟨remains, x₆, hexists, hrest₆⟩ := ran_bind.mp hrest₅
  obtain ⟨hremains, rfl⟩ := ran_namespaceExists hexists
  obtain ⟨_, x₇, hraise, hrest₇⟩ := ran_bind.mp hrest₆
  obtain ⟨hgone, rfl⟩ := ran_raiseIf.mp hraise
  obtain ⟨_, x₈, hset, hrest₈⟩ := ran_bind.mp hrest₇
  obtain rfl := ran_setActive.mp hset
  obtain ⟨s, x₉, hget, hrest₉⟩ := ran_bind.mp hrest₈
  obtain ⟨-, rfl⟩ := ran_get.mp hget
  obtain ⟨-, rfl⟩ := ran_pure.mp hrest₉
  constructor
  · intro identifier hmem
    show identifier ∉ x₇.2.tables
    rw [htables]
    exact habsent identifier hmem
  · intro hmem
    exact hgone (hremains.trans (decide_eq_true hmem))

theorem ran_cleanup {result : OperationResult} (h : Ran Truthful (cleanup fixture) x result y)
    (hpass : result.status = .pass) :
    (∀ identifier ∈ fixture.identifiers, identifier ∉ y.2.tables) ∧
      fixture.namespace ∉ y.2.namespaces := by
  obtain ⟨s, z, -, hrest⟩ := ran_bind.mp h
  rcases ran_ite.mp hrest with ⟨-, hpure⟩ | ⟨-, hrest⟩
  · obtain ⟨rfl, -⟩ := ran_pure.mp hpure
    cases hpass
  rcases ran_ite.mp hrest with ⟨-, hpure⟩ | ⟨-, hrest⟩
  · obtain ⟨rfl, -⟩ := ran_pure.mp hpure
    cases hpass
  obtain ⟨_, z₁, -, hreconcile⟩ := ran_bind.mp hrest
  exact ran_reconcile hreconcile hpass

end Cleanup

end CatalogBench.PyIceberg
