import CatalogBench.Commit.Accounting
import CatalogBench.Commit.Round

/-!
# Joining writers

The writers of a concurrent phase end in any order and their ledgers are merged in that order.
What the merged ledger holds is the records of all writers together, so the order does not
matter; and a request that two writers issued cannot be merged away.
-/

set_option linter.all false

namespace CatalogBench.Commit
open Interaction

variable {crates : Crates}

/-- Record one request after the other, keeping the first failure. -/
def recordAll (crates : Crates) (records : List RequestRecord) :
    Except ModelError Unit × RequestLedger :=
  records.foldl
    (fun state record =>
      let recorded := state.2.record crates record.identity record.latency record.outcome
      (state.1.bind fun _ => recorded.1, recorded.2))
    (.ok (), {})

theorem recordAll_append (records : List RequestRecord) (record : RequestRecord) :
    recordAll crates (records ++ [record]) =
      let ledger := (recordAll crates records).2
      let recorded := ledger.record crates record.identity record.latency record.outcome
      ((recordAll crates records).1.bind fun _ => recorded.1, recorded.2) := by
  simp [recordAll, List.foldl_append]

/-- Distinct requests are all taken. -/
theorem recordAll_accounts {records : List RequestRecord}
    (hdistinct : (records.map (·.identity.digest crates)).Nodup) (hfits : records.length < 2 ^ 64) :
    (recordAll crates records).1 = .ok () ∧ Accounts crates records (recordAll crates records).2 := by
  induction records using List.reverseRecOn with
  | nil => exact ⟨rfl, .default crates⟩
  | append_singleton records record ih =>
    rw [List.length_append, List.length_singleton] at hfits
    rw [List.map_append, List.nodup_append] at hdistinct
    obtain ⟨hok, haccounts⟩ := ih hdistinct.1 (by omega)
    have hfresh : record.identity.digest crates ∉ (recordAll crates records).2.seenRequests := by
      rw [haccounts.seenRequests, mem_digests_all]
      intro hmem
      exact hdistinct.2.2 _ hmem _ (by simp) rfl
    have hrecord := haccounts.record_fresh record hfresh hfits
    rw [recordAll_append, hok]
    exact ⟨hrecord, haccounts.record_ok record (Prod.ext hrecord rfl)⟩

theorem mem_seenRequests_record (ledger : RequestLedger) (record : RequestRecord) :
    insert (record.identity.digest crates) ledger.seenRequests ⊆
      (ledger.record crates record.identity record.latency record.outcome).2.seenRequests := by
  obtain ⟨identity, latency, outcome⟩ := record
  unfold RequestLedger.record
  split
  · next hseen => exact (Finset.insert_eq_of_mem hseen).subset
  · cases outcome with
    | accepted => exact subset_rfl
    | conflict => exact subset_rfl
    | error error =>
      dsimp only
      split <;> exact subset_rfl

/-- Every request of a writer is seen by its ledger. -/
theorem mem_seenRequests_recordAll (crates : Crates) (records : List RequestRecord) :
    ∀ record ∈ records,
      record.identity.digest crates ∈ (recordAll crates records).2.seenRequests := by
  induction records using List.reverseRecOn with
  | nil => simp
  | append_singleton records last ih =>
    intro record hmem
    rw [recordAll_append]
    apply mem_seenRequests_record (recordAll crates records).2 last
    rcases List.mem_append.mp hmem with hmem | hmem
    · exact Finset.mem_insert_of_mem (ih record hmem)
    · rw [List.mem_singleton.mp hmem]
      exact Finset.mem_insert_self _ _

section Fold

variable {results : List (Except WorkflowError RequestLedger)} {ledger merged : RequestLedger}

/-- The first failure is never forgotten. -/
theorem joinWriter_some (state : RequestLedger × Option WorkflowError) {error : WorkflowError}
    (h : state.2 = some error) (result : Except WorkflowError RequestLedger) :
    (joinWriter state result).2 = some error := by
  unfold joinWriter
  rw [h]
  cases result with
  | error e => rfl
  | ok ledger =>
    dsimp only
    split <;> rfl

theorem foldl_joinWriter_some (results : List (Except WorkflowError RequestLedger))
    (state : RequestLedger × Option WorkflowError) {error : WorkflowError}
    (h : state.2 = some error) : (results.foldl joinWriter state).2 = some error := by
  induction results generalizing state with
  | nil => exact h
  | cons result results ih => exact ih _ (joinWriter_some state h result)

/-- A loop without a failure merged its first ledger and went on. -/
theorem foldl_joinWriter_none {result : Except WorkflowError RequestLedger}
    (h : ((result :: results).foldl joinWriter (ledger, none)).2 = none) :
    ∃ other merged, result = .ok other ∧ ledger.tryMerge other = (.ok (), merged) ∧
      (result :: results).foldl joinWriter (ledger, none) =
        results.foldl joinWriter (merged, none) := by
  cases result with
  | error error =>
    rw [List.foldl_cons, foldl_joinWriter_some results _ rfl] at h
    cases h
  | ok other =>
    cases hmerge : ledger.tryMerge other with
    | mk outcome merged =>
      have hstep : joinWriter (ledger, none) (.ok other) = match outcome with
          | .ok _ => (merged, none)
          | .error error => (merged, some (.model error)) := by
        simp only [joinWriter, hmerge]
        cases outcome <;> rfl
      cases outcome with
      | error error =>
        rw [List.foldl_cons, hstep, foldl_joinWriter_some results _ rfl] at h
        cases h
      | ok _ =>
        rw [List.foldl_cons, hstep]
        exact ⟨other, merged, rfl, hmerge, rfl⟩

/-- Ledgers that were joined without a failure hold all their records together. -/
theorem foldl_joinWriter_accounts {before : List RequestRecord} {records : List (List RequestRecord)}
    (hbefore : Accounts crates before ledger)
    (hresults : List.Forall₂ (fun result records => ∀ other, result = .ok other →
      Accounts crates records other) results records)
    (h : results.foldl joinWriter (ledger, none) = (merged, none)) :
    Accounts crates (before ++ records.flatten) merged ∧
      ∀ result ∈ results, ∃ other, result = .ok other := by
  induction hresults generalizing before ledger with
  | nil =>
    obtain ⟨rfl, -⟩ := Prod.mk.inj h
    exact ⟨by simpa using hbefore, by simp⟩
  | @cons result head results records hhead _ ih =>
    obtain ⟨other, next, rfl, hmerge, hfold⟩ := foldl_joinWriter_none (congrArg Prod.snd h)
    have hnext := hbefore.tryMerge_ok (hhead other rfl) hmerge
    obtain ⟨hmerged, hok⟩ := ih hnext (hfold ▸ h)
    rw [List.append_assoc] at hmerged
    exact ⟨hmerged, by simpa using hok⟩

/-- Ledgers of distinct requests are joined without a failure. -/
theorem foldl_joinWriter_distinct {before : List RequestRecord} {ledgers : List RequestLedger}
    {records : List (List RequestRecord)} (hbefore : Accounts crates before ledger)
    (hledgers : List.Forall₂ (Accounts crates) records ledgers)
    (hdistinct : ((before ++ records.flatten).map (·.identity.digest crates)).Nodup)
    (hfits : (before ++ records.flatten).length < 2 ^ 64) :
    ∃ merged, (ledgers.map .ok).foldl joinWriter (ledger, none) = (merged, none) ∧
      Accounts crates (before ++ records.flatten) merged := by
  induction hledgers generalizing before ledger with
  | nil => exact ⟨ledger, rfl, by simpa using hbefore⟩
  | @cons head other records ledgers hhead _ ih =>
    rw [List.flatten_cons, ← List.append_assoc] at hdistinct hfits ⊢
    have hdisjoint : Disjoint ledger.seenRequests other.seenRequests := by
      rw [hbefore.seenRequests, hhead.seenRequests, Finset.disjoint_left]
      intro digest hleft hright
      rw [List.map_append, List.map_append, List.nodup_append, List.nodup_append] at hdistinct
      exact hdistinct.1.2.2 _ (mem_digests_all.mp hleft) _ (mem_digests_all.mp hright) rfl
    have hlength : before.length + head.length < 2 ^ 64 := by
      simp only [List.length_append] at hfits
      omega
    have hok := hbefore.tryMerge_disjoint hhead hdisjoint hlength
    have hmerge : ledger.tryMerge other = (.ok (), (ledger.tryMerge other).2) := Prod.ext hok rfl
    obtain ⟨merged, hfold, hmerged⟩ := ih (hbefore.tryMerge_ok hhead hmerge) hdistinct hfits
    refine ⟨merged, ?_, hmerged⟩
    rw [List.map_cons, List.foldl_cons, ← hfold]
    simp only [joinWriter]
    rw [hmerge]

theorem seenRequests_tryMerge {other : RequestLedger}
    (h : ledger.tryMerge other = (.ok (), merged)) :
    Disjoint ledger.seenRequests other.seenRequests ∧
      merged.seenRequests = ledger.seenRequests ∪ other.seenRequests := by
  unfold RequestLedger.tryMerge at h
  split at h
  · cases h
  next hdisjoint =>
  split at h
  · cases h
  split at h
  · cases h
  · obtain ⟨-, rfl⟩ := Prod.mk.inj h
    exact ⟨not_not.mp hdisjoint, rfl⟩

/-- Ledgers that were joined without a failure have no request in common. -/
theorem foldl_joinWriter_disjoint {ledgers : List RequestLedger}
    (h : ((ledgers.map .ok).foldl joinWriter (ledger, none)).2 = none) :
    (∀ other ∈ ledgers, Disjoint ledger.seenRequests other.seenRequests) ∧
      ledgers.Pairwise fun a b => Disjoint a.seenRequests b.seenRequests := by
  induction ledgers generalizing ledger with
  | nil => exact ⟨by simp, .nil⟩
  | cons head ledgers ih =>
    rw [List.map_cons] at h
    obtain ⟨other, next, hhead, hmerge, hfold⟩ := foldl_joinWriter_none h
    obtain rfl := Except.ok.inj hhead
    obtain ⟨hdisjoint, hseen⟩ := seenRequests_tryMerge hmerge
    obtain ⟨hnext, hpairwise⟩ := ih (hfold ▸ h)
    rw [hseen] at hnext
    have hboth : ∀ other ∈ ledgers, Disjoint ledger.seenRequests other.seenRequests ∧
        Disjoint head.seenRequests other.seenRequests :=
      fun other hmem => Finset.disjoint_union_left.mp (hnext other hmem)
    refine ⟨?_, .cons (fun other hmem => (hboth other hmem).2) hpairwise⟩
    rintro other (_ | ⟨_, hmem⟩)
    · exact hdisjoint
    · exact (hboth other hmem).1

end Fold

/-- Only a merge can fail if every writer returned a ledger. -/
theorem foldl_joinWriter_model {ledgers : List RequestLedger}
    {state : RequestLedger × Option WorkflowError} {error : WorkflowError}
    (hstate : state.2 = none) (h : ((ledgers.map .ok).foldl joinWriter state).2 = some error) :
    ∃ model, error = .model model := by
  induction ledgers generalizing state with
  | nil =>
    rw [List.map_nil, List.foldl_nil, hstate] at h
    cases h
  | cons head ledgers ih =>
    rw [List.map_cons, List.foldl_cons] at h
    cases hmerge : state.1.tryMerge head with
    | mk outcome merged =>
      cases outcome with
      | ok _ =>
        have hstep : joinWriter state (.ok head) = (merged, none) := by
          simp only [joinWriter, hmerge, hstate]
        exact ih (by rw [hstep]) h
      | error model =>
        have hstep : (joinWriter state (.ok head)).2 = some (.model model) := by
          simp only [joinWriter, hmerge, hstate, Option.none_or]
        rw [foldl_joinWriter_some _ _ hstep] at h
        exact ⟨model, (Option.some.inj h).symm⟩

/-- What writers return that recorded these requests, in the order in which they are joined. -/
def writerResults (crates : Crates) (order : List (List RequestRecord)) :
    List (Except WorkflowError RequestLedger) :=
  (order.map fun records => (recordAll crates records).2).map .ok

theorem joinWriters_distinct {order : List (List RequestRecord)}
    (hdistinct : (order.flatten.map (·.identity.digest crates)).Nodup)
    (hfits : order.flatten.length < 2 ^ 64) :
    ∃ merged, joinWriters (writerResults crates order) = (merged, none) ∧
      Accounts crates order.flatten merged := by
  have hledgers : List.Forall₂ (Accounts crates) order
      (order.map fun records => (recordAll crates records).2) := by
    rw [List.forall₂_map_right_iff, List.forall₂_same]
    intro records hmem
    have hsublist := List.sublist_flatten_of_mem hmem
    have hlength := hsublist.length_le
    exact (recordAll_accounts (hdistinct.sublist (hsublist.map _)) (by omega)).2
  exact foldl_joinWriter_distinct (.default crates) hledgers hdistinct hfits

/-- A request of two writers leaves two ledgers that have it in common. -/
theorem joinWriters_shared {order writers : List (List RequestRecord)} (hperm : order.Perm writers)
    {i j : ℕ} (hij : i ≠ j) {records records' : List RequestRecord}
    (hi : writers[i]? = some records) (hj : writers[j]? = some records')
    {identity : RequestIdentity} (hmem : identity ∈ records.map (·.identity))
    (hmem' : identity ∈ records'.map (·.identity)) :
    (joinWriters (writerResults crates order)).2 ≠ none := by
  intro hnone
  have hpairwise := (foldl_joinWriter_disjoint hnone).2
  rw [List.pairwise_map] at hpairwise
  have hsymm : ∀ {a b : List RequestRecord},
      Disjoint (recordAll crates a).2.seenRequests (recordAll crates b).2.seenRequests →
      Disjoint (recordAll crates b).2.seenRequests (recordAll crates a).2.seenRequests :=
    fun h => h.symm
  rw [hperm.pairwise_iff hsymm, List.pairwise_iff_getElem] at hpairwise
  obtain ⟨hilt, rfl⟩ := List.getElem?_eq_some_iff.mp hi
  obtain ⟨hjlt, rfl⟩ := List.getElem?_eq_some_iff.mp hj
  obtain ⟨record, hrecord, rfl⟩ := List.mem_map.mp hmem
  obtain ⟨record', hrecord', hidentity⟩ := List.mem_map.mp hmem'
  have hseen := mem_seenRequests_recordAll crates _ record hrecord
  have hseen' := mem_seenRequests_recordAll crates _ record' hrecord'
  rw [hidentity] at hseen'
  rcases Nat.lt_or_gt_of_ne hij with hlt | hlt
  · exact Finset.disjoint_left.mp (hpairwise i j hilt hjlt hlt) hseen hseen'
  · exact Finset.disjoint_left.mp (hpairwise j i hjlt hilt hlt) hseen' hseen

/-- The ledgers of writers with distinct requests can be merged in every order, and the result
reports what a single ledger of all requests reports. If two writers issued the same request,
some merge fails in every order. No vector holds `2 ^ 64` latencies. -/
theorem joinWriters_order (crates : Crates) (writers : List (List RequestRecord)) :
    (writers.flatten.length < 2 ^ 64 → (writers.flatten.map (·.identity)).Nodup →
      Set.InjOn (RequestIdentity.digest crates) { i | i ∈ writers.flatten.map (·.identity) } →
      (∀ records ∈ writers, (recordAll crates records).1 = .ok ()) ∧
      (recordAll crates writers.flatten).1 = .ok () ∧
      ∀ order : List (List RequestRecord), order.Perm writers →
        ∃ merged, joinWriters (writerResults crates order) = (merged, none) ∧
          ∀ elapsed, elapsed ≠ 0 → ∃ phase accepted,
            merged.finish crates elapsed = .ok (phase, accepted) ∧
            (recordAll crates writers.flatten).2.finish crates elapsed = .ok (phase, accepted)) ∧
    (∀ (i j : ℕ) (records records' : List RequestRecord) (identity : RequestIdentity),
      i ≠ j → writers[i]? = some records → writers[j]? = some records' →
      identity ∈ records.map (·.identity) → identity ∈ records'.map (·.identity) →
      ∀ order : List (List RequestRecord), order.Perm writers →
        ∃ error, (joinWriters (writerResults crates order)).2 = some (.model error)) := by
  constructor
  · intro hfits hidentities hinjective
    have hdigests : (writers.flatten.map (·.identity.digest crates)).Nodup := by
      have hmap := List.Nodup.map_on (fun a ha b hb => hinjective ha hb) hidentities
      rwa [List.map_map] at hmap
    obtain ⟨hok, hsingle⟩ := recordAll_accounts hdigests hfits
    refine ⟨?_, hok, ?_⟩
    · intro records hmem
      have hsublist := List.sublist_flatten_of_mem hmem
      have hlength := hsublist.length_le
      exact (recordAll_accounts (hdigests.sublist (hsublist.map _)) (by omega)).1
    · intro order hperm
      have hflat := hperm.flatten
      obtain ⟨merged, hjoin, hmerged⟩ := joinWriters_distinct
        ((hflat.map _).nodup_iff.mpr hdigests) (by rwa [hflat.length_eq])
      refine ⟨merged, hjoin, fun elapsed helapsed => ?_⟩
      have hlength : merged.all.length < 2 ^ 64 := by
        rwa [hmerged.length_all, hflat.length_eq]
      obtain ⟨phase, accepted, hfinish⟩ :=
        hmerged.consistent.finish_reports crates hlength helapsed
      exact ⟨phase, accepted, hfinish, hmerged.finish_perm hsingle hflat elapsed ▸ hfinish⟩
  · intro i j records records' identity hij hi hj hmem hmem' order hperm
    cases herror : (joinWriters (writerResults crates order)).2 with
    | none => exact absurd herror (joinWriters_shared hperm hij hi hj hmem hmem')
    | some error =>
      obtain ⟨model, rfl⟩ := foldl_joinWriter_model rfl herror
      exact ⟨model, rfl⟩

/-- Two writers with one request each. -/
def sampleWriters : List (List RequestRecord) :=
  [[⟨sampleWarmup, 5, .accepted⟩], [⟨sampleSequential, 7, .conflict⟩]]

theorem joinWriters_order_sample :
    ∃ merged, joinWriters (writerResults sampleCrates sampleWriters.reverse) = (merged, none) ∧
      ∀ elapsed, elapsed ≠ 0 → ∃ phase accepted,
        merged.finish sampleCrates elapsed = .ok (phase, accepted) ∧
        (recordAll sampleCrates sampleWriters.flatten).2.finish sampleCrates elapsed =
          .ok (phase, accepted) := by
  have hdigests : ∀ a ∈ sampleWriters.flatten.map (·.identity),
      ∀ b ∈ sampleWriters.flatten.map (·.identity),
        a.digest sampleCrates = b.digest sampleCrates → a = b := by decide
  exact ((joinWriters_order sampleCrates sampleWriters).1 (by decide) (by decide)
    fun a ha b hb => hdigests a ha b hb).2.2 _ (List.reverse_perm _)

end CatalogBench.Commit
