import CatalogBench.Commit.Accounting

/-!
# Merging ledgers in place

A merge changes one collection after the other. Here it is run statement by statement, with the
sums of the last loop as the machine takes them, and compared with the merge that either happens
as a whole or not at all.
-/

set_option linter.all false

namespace CatalogBench.Commit
open MachineInt Tally

-- ════════════════════════════════
-- The representation
-- ════════════════════════════════

/-- What every ledger keeps to: it has seen what it accepted, and its counts are machine integers. -/
structure RequestLedger.Represented (ledger : RequestLedger) : Prop where
  accepted : ledger.acceptedRequests.requests ⊆ ledger.seenRequests
  counts : ∀ (error : SanitizedRequestError) count,
    ledger.errorCounts[error]? = some count → count < 2 ^ 64

namespace RequestLedger.Represented

variable {crates : Crates} {ledger other : RequestLedger}

theorem default : RequestLedger.Represented {} where
  accepted := subset_rfl
  counts error count h := by simp at h

theorem getD_lt (h : ledger.Represented) (error : SanitizedRequestError) :
    ledger.errorCounts.getD error 0 < 2 ^ 64 := by
  rw [Std.ExtTreeMap.getD_eq_getD_getElem?]
  cases hcount : ledger.errorCounts[error]? with
  | none => simp
  | some count => exact h.counts error count hcount

/-- Setting one count to a machine integer keeps the counts so. -/
theorem counts_insert (h : ledger.Represented) {error : SanitizedRequestError} {count : ℕ}
    (hcount : count < 2 ^ 64) (error' : SanitizedRequestError) (count' : ℕ)
    (hget : (ledger.errorCounts.insert error count)[error']? = some count') : count' < 2 ^ 64 := by
  rw [Std.ExtTreeMap.getElem?_insert] at hget
  split at hget
  · exact Option.some.inj hget ▸ hcount
  · exact h.counts error' count' hget

theorem record (h : ledger.Represented) (identity : RequestIdentity) (latency : Duration)
    (outcome : RequestOutcome) :
    (ledger.record crates identity latency outcome).2.Represented := by
  unfold RequestLedger.record
  split
  · exact h
  cases outcome with
  | accepted =>
    exact ⟨Finset.insert_subset_insert _ h.accepted, h.counts⟩
  | conflict => exact ⟨h.accepted.trans (Finset.subset_insert _ _), h.counts⟩
  | error error =>
    have haccepted := h.accepted.trans
      (Finset.subset_insert (identity.digest crates) ledger.seenRequests)
    dsimp only
    split
    · next count hcount =>
      exact ⟨haccepted, h.counts_insert ((checkedAdd_eq_some.mp hcount).1 ▸
        (checkedAdd_eq_some.mp hcount).2)⟩
    · exact ⟨haccepted, h.counts_insert (h.getD_lt error)⟩

end RequestLedger.Represented

-- ════════════════════════════════
-- Statement by statement
-- ════════════════════════════════

/-- What a statement of the merge does to the ledger it runs on, failures included. -/
abbrev LedgerAct := ExceptT ModelError (StateM RequestLedger)

/-- The result beside the ledger that is left behind. -/
def LedgerAct.runOn {α : Type} (act : LedgerAct α) (ledger : RequestLedger) :
    Except ModelError α × RequestLedger :=
  act.run.run ledger

/-- Addition of machine integers, which wraps where the machine does not stop. -/
def wrappingAdd (bits a b : ℕ) : ℕ := (a + b) % 2 ^ bits

/-- The sum of one count would fit. -/
def checkSum (entry : SanitizedRequestError × ℕ) : LedgerAct Unit := do
  let self ← get
  match checkedAdd 64 (self.errorCounts.getD entry.1 0) entry.2 with
  | some _ => return ()
  | none => throw .countOverflow

def addCount (entry : SanitizedRequestError × ℕ) : LedgerAct Unit :=
  modify fun self => { self with
    errorCounts := self.errorCounts.insert entry.1
      (wrappingAdd 64 (self.errorCounts.getD entry.1 0) entry.2) }

def extendAccepted (other : AcceptedRequests) : LedgerAct Unit := do
  let self ← get
  match self.acceptedRequests.tryExtend other with
  | .ok acceptedRequests => modify fun self => { self with acceptedRequests }
  | .error error => throw error

def checkIdentities (other : RequestLedger) : LedgerAct Unit := do
  let self ← get
  if ¬Disjoint self.seenRequests other.seenRequests then throw .duplicateRequestIdentity

def mergeStatements (other : RequestLedger) : LedgerAct Unit := do
  checkIdentities other
  other.errorCounts.toList.forM checkSum
  extendAccepted other.acceptedRequests
  modify fun self => { self with seenRequests := self.seenRequests ∪ other.seenRequests }
  modify fun self => { self with all := self.all ++ other.all }
  modify fun self => { self with accepted := self.accepted ++ other.accepted }
  modify fun self => { self with conflicts := self.conflicts ++ other.conflicts }
  modify fun self => { self with errors := self.errors ++ other.errors }
  other.errorCounts.toList.forM addCount

section Statements

variable {α β : Type}

theorem LedgerAct.runOn_bind (act : LedgerAct α) (next : α → LedgerAct β) (ledger : RequestLedger) :
    (act >>= next).runOn ledger =
      match act.runOn ledger with
      | (.ok value, later) => (next value).runOn later
      | (.error error, later) => (.error error, later) := by
  change (match act ledger with | (result, later) => ExceptT.bindCont next result later) = _
  unfold LedgerAct.runOn
  change _ = match act ledger with | (.ok value, later) => _ | (.error error, later) => _
  rcases act ledger with ⟨_ | _, _⟩ <;> rfl

theorem LedgerAct.runOn_ok {act : LedgerAct α} {next : α → LedgerAct β} {ledger later : RequestLedger}
    {value : α} (h : act.runOn ledger = (.ok value, later)) :
    (act >>= next).runOn ledger = (next value).runOn later := by
  rw [runOn_bind, h]

theorem LedgerAct.runOn_error {act : LedgerAct α} {next : α → LedgerAct β}
    {ledger later : RequestLedger} {error : ModelError}
    (h : act.runOn ledger = (.error error, later)) :
    (act >>= next).runOn ledger = (.error error, later) := by
  rw [runOn_bind, h]

theorem runOn_checkSum (entry : SanitizedRequestError × ℕ) (ledger : RequestLedger) :
    (checkSum entry).runOn ledger =
      if (checkedAdd 64 (ledger.errorCounts.getD entry.1 0) entry.2).isNone then
        (.error .countOverflow, ledger)
      else (.ok (), ledger) := by
  have hrun : (checkSum entry).runOn ledger =
      LedgerAct.runOn (match checkedAdd 64 (ledger.errorCounts.getD entry.1 0) entry.2 with
        | some _ => return ()
        | none => throw .countOverflow) ledger := rfl
  rw [hrun]
  cases checkedAdd 64 (ledger.errorCounts.getD entry.1 0) entry.2 <;> rfl

theorem forM_cons_runOn (act : α → LedgerAct Unit) (value : α) (values : List α)
    (ledger : RequestLedger) :
    LedgerAct.runOn ((value :: values).forM act) ledger =
      LedgerAct.runOn (act value >>= fun _ => values.forM act) ledger := rfl

/-- The checks of the sums change nothing. -/
theorem runOn_checkSums (entries : List (SanitizedRequestError × ℕ)) (ledger : RequestLedger) :
    LedgerAct.runOn (entries.forM checkSum) ledger =
      if entries.any fun entry =>
          (checkedAdd 64 (ledger.errorCounts.getD entry.1 0) entry.2).isNone then
        (.error .countOverflow, ledger)
      else (.ok (), ledger) := by
  induction entries with
  | nil => rfl
  | cons entry entries ih =>
    have hcheck := runOn_checkSum entry ledger
    rw [forM_cons_runOn, List.any_cons]
    cases hsum : (checkedAdd 64 (ledger.errorCounts.getD entry.1 0) entry.2).isNone with
    | true =>
      rw [hsum] at hcheck
      exact LedgerAct.runOn_error hcheck
    | false =>
      rw [hsum] at hcheck
      exact (LedgerAct.runOn_ok hcheck).trans ih

theorem runOn_extendAccepted (other : AcceptedRequests) (ledger : RequestLedger) :
    (extendAccepted other).runOn ledger =
      match ledger.acceptedRequests.tryExtend other with
      | .ok acceptedRequests => (.ok (), { ledger with acceptedRequests })
      | .error error => (.error error, ledger) := by
  have hrun : (extendAccepted other).runOn ledger =
      LedgerAct.runOn (match ledger.acceptedRequests.tryExtend other with
        | .ok acceptedRequests => modify fun self => { self with acceptedRequests }
        | .error error => throw error) ledger := rfl
  rw [hrun]
  cases ledger.acceptedRequests.tryExtend other <;> rfl

theorem runOn_checkIdentities (other ledger : RequestLedger) :
    (checkIdentities other).runOn ledger =
      if ¬Disjoint ledger.seenRequests other.seenRequests then
        (.error .duplicateRequestIdentity, ledger)
      else (.ok (), ledger) := by
  have hrun : (checkIdentities other).runOn ledger =
      LedgerAct.runOn (if ¬Disjoint ledger.seenRequests other.seenRequests then
        throw .duplicateRequestIdentity else pure ()) ledger := rfl
  rw [hrun]
  split <;> rfl

/-- Where every sum fits, the loop adds the counts. -/
theorem runOn_addCounts (entries : List (SanitizedRequestError × ℕ)) (ledger : RequestLedger)
    (hkeys : (entries.map Prod.fst).Nodup)
    (hfits : ∀ entry ∈ entries, ledger.errorCounts.getD entry.1 0 + entry.2 < 2 ^ 64) :
    LedgerAct.runOn (entries.forM addCount) ledger =
      (.ok (), { ledger with errorCounts := addAll ledger.errorCounts entries }) := by
  induction entries generalizing ledger with
  | nil => rfl
  | cons entry entries ih =>
    rw [List.map_cons, List.nodup_cons] at hkeys
    rw [List.forall_mem_cons] at hfits
    have hstep : (addCount entry).runOn ledger = (.ok (), { ledger with
        errorCounts := ledger.errorCounts.insert entry.1
          (ledger.errorCounts.getD entry.1 0 + entry.2) }) := by
      have hsum : wrappingAdd 64 (ledger.errorCounts.getD entry.1 0) entry.2 =
          ledger.errorCounts.getD entry.1 0 + entry.2 := Nat.mod_eq_of_lt hfits.1
      rw [← hsum]
      rfl
    rw [forM_cons_runOn, LedgerAct.runOn_ok hstep, ih _ hkeys.2]
    · rfl
    · -- no later entry is about the error just counted
      intro later hmem
      have hne : entry.1 ≠ later.1 := fun heq => hkeys.1 (List.mem_map.mpr ⟨later, hmem, heq.symm⟩)
      have hcmp : SanitizedRequestError.cmp entry.1 later.1 ≠ .eq :=
        fun heq => hne (Std.LawfulEqCmp.eq_of_compare heq)
      rw [Std.ExtTreeMap.getD_insert, if_neg hcmp]
      exact hfits.2 later hmem

end Statements

namespace RequestLedger

variable {ledger other : RequestLedger}

theorem sums_fit (hchecked : (other.errorCounts.toList.any fun entry =>
      (checkedAdd 64 (ledger.errorCounts.getD entry.1 0) entry.2).isNone) = false) :
    ∀ entry ∈ other.errorCounts.toList,
      ledger.errorCounts.getD entry.1 0 + entry.2 < 2 ^ 64 := by
  intro entry hmem
  have hentry := List.any_eq_false.mp hchecked entry hmem
  cases hsum : checkedAdd 64 (ledger.errorCounts.getD entry.1 0) entry.2 with
  | none => simp [hsum] at hentry
  | some sum => exact (checkedAdd_eq_some.mp hsum).2

/-- The statements in turn do what the merge does as a whole. -/
theorem runOn_mergeStatements (ledger other : RequestLedger) :
    (mergeStatements other).runOn ledger = ledger.tryMerge other := by
  unfold mergeStatements tryMerge
  have hidentities := runOn_checkIdentities other ledger
  split
  · next hshared =>
    rw [if_pos hshared] at hidentities
    exact LedgerAct.runOn_error hidentities
  next hdisjoint =>
  rw [if_neg hdisjoint] at hidentities
  rw [LedgerAct.runOn_ok hidentities]
  have hsums := runOn_checkSums other.errorCounts.toList ledger
  split
  · next hoverflow =>
    rw [if_pos hoverflow] at hsums
    exact LedgerAct.runOn_error hsums
  next hfits =>
  rw [if_neg hfits] at hsums
  rw [LedgerAct.runOn_ok hsums]
  have haccepted := runOn_extendAccepted other.acceptedRequests ledger
  split
  · next error hextend =>
    rw [hextend] at haccepted
    exact LedgerAct.runOn_error haccepted
  · next acceptedRequests hextend =>
    rw [hextend] at haccepted
    rw [LedgerAct.runOn_ok haccepted]
    exact runOn_addCounts other.errorCounts.toList _ (nodup_keys other.errorCounts)
      (sums_fit (Bool.not_eq_true _ ▸ hfits))

/-- The merge as a whole, if nothing stands against it. -/
def merged (ledger other : RequestLedger) : RequestLedger where
  seenRequests := ledger.seenRequests ∪ other.seenRequests
  all := ledger.all ++ other.all
  accepted := ledger.accepted ++ other.accepted
  conflicts := ledger.conflicts ++ other.conflicts
  errors := ledger.errors ++ other.errors
  errorCounts := addAll ledger.errorCounts other.errorCounts.toList
  acceptedRequests := ⟨ledger.acceptedRequests.requests ∪ other.acceptedRequests.requests⟩

/-- The sum of some count is no machine integer. -/
def Overflows (ledger other : RequestLedger) : Prop :=
  ∃ (error : SanitizedRequestError) (count count' : ℕ), ledger.errorCounts[error]? = some count ∧
    other.errorCounts[error]? = some count' ∧ 2 ^ 64 ≤ count + count'

theorem overflows_iff (hother : other.Represented) :
    (other.errorCounts.toList.any fun entry =>
        (checkedAdd 64 (ledger.errorCounts.getD entry.1 0) entry.2).isNone) = true ↔
      Overflows ledger other := by
  have hnone : ∀ count count' : ℕ, (checkedAdd 64 count count').isNone = true ↔
      2 ^ 64 ≤ count + count' := by
    intro count count'
    unfold checkedAdd
    split
    · next hlt => exact ⟨nofun, fun hle => absurd hlt (Nat.not_lt.mpr hle)⟩
    · next hnot => exact ⟨fun _ => Nat.not_lt.mp hnot, fun _ => rfl⟩
  rw [List.any_eq_true]
  constructor
  · rintro ⟨⟨error, count'⟩, hmem, hsum⟩
    rw [Std.ExtTreeMap.mem_toList_iff_getElem?_eq_some] at hmem
    rw [hnone, Std.ExtTreeMap.getD_eq_getD_getElem?] at hsum
    cases hcount : ledger.errorCounts[error]? with
    | none =>
      have hlt := hother.counts error count' hmem
      rw [hcount, Option.getD_none] at hsum
      omega
    | some count =>
      rw [hcount] at hsum
      exact ⟨error, count, count', hcount, hmem, hsum⟩
  · rintro ⟨error, count, count', hcount, hcount', hsum⟩
    refine ⟨(error, count'), Std.ExtTreeMap.mem_toList_iff_getElem?_eq_some.mpr hcount', ?_⟩
    rw [hnone, Std.ExtTreeMap.getD_eq_getD_getElem?, hcount]
    exact hsum

/-- A merge either fails and changes nothing, or happens as a whole. -/
theorem tryMerge_cases (hledger : ledger.Represented) (hother : other.Represented) :
    (Disjoint ledger.seenRequests other.seenRequests ∧ ¬Overflows ledger other ∧
        ledger.tryMerge other = (.ok (), merged ledger other)) ∨
      ((¬Disjoint ledger.seenRequests other.seenRequests ∨ Overflows ledger other) ∧
        ∃ error, ledger.tryMerge other = (.error error, ledger)) := by
  unfold tryMerge
  split
  · next hshared => exact .inr ⟨.inl hshared, _, rfl⟩
  next hdisjoint =>
  rw [not_not] at hdisjoint
  split
  · next hoverflow => exact .inr ⟨.inr ((overflows_iff hother).mp hoverflow), _, rfl⟩
  next hfits =>
  have haccepted := hdisjoint.mono hledger.accepted hother.accepted
  rw [AcceptedRequests.tryExtend, if_pos haccepted]
  exact .inl ⟨hdisjoint, fun hoverflow => hfits ((overflows_iff hother).mpr hoverflow), rfl⟩

theorem errorCounts_merged (error : SanitizedRequestError) :
    (merged ledger other).errorCounts[error]? =
      Option.merge (· + ·) ledger.errorCounts[error]? other.errorCounts[error]? := by
  rw [merged, getElem?_addAll _ (nodup_keys other.errorCounts), find?_toList]
  cases hother : other.errorCounts[error]? with
  | none => cases hledger : ledger.errorCounts[error]? <;> simp
  | some count' =>
    cases hledger : ledger.errorCounts[error]? with
    | none => simp [Std.ExtTreeMap.getD_eq_getD_getElem?, hledger]
    | some count => simp [Std.ExtTreeMap.getD_eq_getD_getElem?, hledger]

theorem Represented.merged (hledger : ledger.Represented) (hother : other.Represented)
    (hfits : ¬Overflows ledger other) : (merged ledger other).Represented where
  accepted := Finset.union_subset_union hledger.accepted hother.accepted
  counts error count hcount := by
    rw [errorCounts_merged] at hcount
    cases hl : ledger.errorCounts[error]? with
    | none =>
      rw [hl, Option.merge_none_left] at hcount
      exact hother.counts error count hcount
    | some left =>
      cases ho : other.errorCounts[error]? with
      | none =>
        rw [hl, ho] at hcount
        exact hledger.counts error count (hl.trans hcount)
      | some right =>
        rw [hl, ho] at hcount
        obtain rfl : left + right = count := Option.some.inj hcount
        exact Nat.not_le.mp fun hle => hfits ⟨error, left, right, hl, ho, hle⟩

theorem Represented.tryMerge (hledger : ledger.Represented) (hother : other.Represented) :
    (ledger.tryMerge other).2.Represented := by
  rcases tryMerge_cases hledger hother with ⟨-, hfits, hmerge⟩ | ⟨-, error, hmerge⟩
  · rw [hmerge]
    exact hledger.merged hother hfits
  · rwa [hmerge]

/-- Every ledger that comes about keeps to the representation. -/
theorem represented_replay (crates : Crates) (history : LedgerHistory) :
    (history.replay crates).Represented := by
  induction history with
  | init => exact .default
  | record history record ih => exact ih.record record.identity record.latency record.outcome
  | merge history other ih ih' => exact ih.tryMerge ih'

/-- Run statement by statement, a merge that fails leaves the ledger as it was, one that succeeds
puts each collection together, and it fails for a shared request or a sum too large and no other
reason. -/
theorem mergeStatements_atomic (hledger : ledger.Represented) (hother : other.Represented) :
    let outcome := (mergeStatements other).runOn ledger
    (outcome.1.isOk = false → outcome.2 = ledger) ∧
      (outcome.1.isOk = true →
        outcome.2.seenRequests = ledger.seenRequests ∪ other.seenRequests ∧
          outcome.2.all = ledger.all ++ other.all ∧
          outcome.2.accepted = ledger.accepted ++ other.accepted ∧
          outcome.2.conflicts = ledger.conflicts ++ other.conflicts ∧
          outcome.2.errors = ledger.errors ++ other.errors ∧
          (∀ error : SanitizedRequestError, outcome.2.errorCounts[error]? =
            Option.merge (· + ·) ledger.errorCounts[error]? other.errorCounts[error]?) ∧
          outcome.2.acceptedRequests.requests =
            ledger.acceptedRequests.requests ∪ other.acceptedRequests.requests) ∧
      (outcome.1.isOk = false ↔
        ¬Disjoint ledger.seenRequests other.seenRequests ∨ Overflows ledger other) := by
  dsimp only
  rw [runOn_mergeStatements]
  rcases tryMerge_cases hledger hother with ⟨hdisjoint, hfits, hmerge⟩ | ⟨hcause, error, hmerge⟩
  · rw [hmerge]
    refine ⟨nofun, fun _ => ⟨rfl, rfl, rfl, rfl, rfl, errorCounts_merged, rfl⟩, nofun, ?_⟩
    rintro (hshared | hoverflow)
    · exact absurd hdisjoint hshared
    · exact absurd hoverflow hfits
  · rw [hmerge]
    exact ⟨fun _ => rfl, nofun, fun _ => hcause, fun _ => rfl⟩

def sampleLedger (digest : String) (count : ℕ) : RequestLedger where
  seenRequests := {⟨digest⟩}
  all := [5]
  errors := [5]
  errorCounts := (∅ : Std.ExtTreeMap SanitizedRequestError ℕ SanitizedRequestError.cmp).insert
    ⟨.timeout, none⟩ count

theorem sampleLedger_represented {digest : String} {count : ℕ} (h : count < 2 ^ 64) :
    (sampleLedger digest count).Represented where
  accepted := Finset.empty_subset _
  counts error count' hget := by
    rw [sampleLedger, Std.ExtTreeMap.getElem?_insert] at hget
    split at hget
    · exact Option.some.inj hget ▸ h
    · simp at hget

/-- Two ledgers that count the same error. -/
theorem mergeStatements_atomic_timeouts :
    let outcome := (mergeStatements (sampleLedger "b" 1)).runOn (sampleLedger "a" 1)
    (outcome.1.isOk = false → outcome.2 = sampleLedger "a" 1) :=
  (mergeStatements_atomic (sampleLedger_represented (by decide))
    (sampleLedger_represented (by decide))).1

end RequestLedger

end CatalogBench.Commit
