import CatalogBench.Commit.Ledger
import CatalogBench.Library.Interaction

/-!
# What a ledger accounts for

`Accounts` relates a ledger to the list of records it holds, up to their order. Recording and
merging extend that list, and everything a ledger reports is a function of it: the invariants
of single ledgers and the independence of merged ledgers from their order both follow.
-/

set_option linter.all false

namespace CatalogBench.Commit
open MachineInt Interaction Tally

/-- One call of `RequestLedger.record`. -/
structure RequestRecord where
  identity : RequestIdentity
  latency : Duration
  outcome : RequestOutcome
  deriving DecidableEq

namespace RequestOutcome

def isAccepted : RequestOutcome → Bool
  | .accepted => true
  | _ => false

def isConflict : RequestOutcome → Bool
  | .conflict => true
  | _ => false

def error? : RequestOutcome → Option SanitizedRequestError
  | .error e => some e
  | _ => none

end RequestOutcome

/-- The latencies of the records whose outcome satisfies `p`. -/
def latencies (p : RequestOutcome → Bool) (records : List RequestRecord) : List Duration :=
  (records.filter (p ·.outcome)).map (·.latency)

@[simp] theorem latencies_append (p : RequestOutcome → Bool) (records records' : List RequestRecord) :
    latencies p (records ++ records') = latencies p records ++ latencies p records' := by
  simp [latencies]

theorem latencies_perm (p : RequestOutcome → Bool) {records records' : List RequestRecord}
    (h : records.Perm records') : (latencies p records).Perm (latencies p records') :=
  (h.filter _).map _

/-- The digests of the records whose outcome satisfies `p`. -/
def digests (crates : Crates) (p : RequestOutcome → Bool) (records : List RequestRecord) :
    Finset RequestDigest :=
  ((records.filter (p ·.outcome)).map (·.identity.digest crates)).toFinset

theorem digests_append (crates : Crates) (p : RequestOutcome → Bool)
    (records records' : List RequestRecord) :
    digests crates p (records ++ records') = digests crates p records ∪ digests crates p records' := by
  simp [digests]

/-- The ledger holds exactly these records, in some order. -/
structure Accounts (crates : Crates) (records : List RequestRecord) (ledger : RequestLedger) :
    Prop where
  distinct : (records.map (·.identity.digest crates)).Nodup
  seenRequests : ledger.seenRequests = digests crates (fun _ => true) records
  all : ledger.all = latencies (fun _ => true) records
  accepted : ledger.accepted = latencies (·.isAccepted) records
  conflicts : ledger.conflicts = latencies (·.isConflict) records
  errors : ledger.errors = latencies (·.error?.isSome) records
  errorCounts : Tallies ledger.errorCounts (records.filterMap (·.outcome.error?))
  acceptedRequests : ledger.acceptedRequests.requests = digests crates (·.isAccepted) records

theorem mem_digests_all {crates : Crates} {records : List RequestRecord} {digest : RequestDigest} :
    digest ∈ digests crates (fun _ => true) records ↔
      digest ∈ records.map (·.identity.digest crates) := by
  simp [digests]

theorem digests_subset_all (crates : Crates) (p : RequestOutcome → Bool)
    (records : List RequestRecord) :
    digests crates p records ⊆ digests crates (fun _ => true) records := by
  intro digest hmem
  simp only [digests, List.mem_toFinset, List.mem_map, List.mem_filter] at hmem ⊢
  obtain ⟨record, ⟨hrecord, -⟩, rfl⟩ := hmem
  exact ⟨record, ⟨hrecord, trivial⟩, rfl⟩

namespace Accounts

variable {crates : Crates} {records records' : List RequestRecord}
  {ledger ledger' merged : RequestLedger}

theorem default (crates : Crates) : Accounts crates [] {} where
  distinct := List.nodup_nil
  seenRequests := rfl
  all := rfl
  accepted := rfl
  conflicts := rfl
  errors := rfl
  errorCounts := tallies_empty
  acceptedRequests := rfl

/-- A record that was taken is held. -/
theorem record_ok (h : Accounts crates records ledger) (record : RequestRecord)
    (hrecord : ledger.record crates record.identity record.latency record.outcome =
      (.ok (), ledger')) : Accounts crates (records ++ [record]) ledger' := by
  obtain ⟨identity, latency, outcome⟩ := record
  unfold RequestLedger.record at hrecord
  split at hrecord
  · cases hrecord
  next hfresh =>
  rw [h.seenRequests, mem_digests_all] at hfresh
  have hdistinct : ((records ++ [RequestRecord.mk identity latency outcome]).map
      (·.identity.digest crates)).Nodup := by
    rw [List.map_append, List.nodup_append]
    refine ⟨h.distinct, by simp, ?_⟩
    rintro a ha b hb rfl
    rw [List.mem_singleton.mp hb] at ha
    exact hfresh ha
  have hseen : insert (identity.digest crates) ledger.seenRequests =
      digests crates (fun _ => true) (records ++ [⟨identity, latency, outcome⟩]) := by
    rw [h.seenRequests, digests_append, Finset.union_comm]
    rfl
  cases outcome with
  | accepted =>
    obtain ⟨-, rfl⟩ := Prod.mk.inj hrecord
    have hrequests : insert (identity.digest crates) ledger.acceptedRequests.requests =
        digests crates (·.isAccepted) (records ++ [⟨identity, latency, .accepted⟩]) := by
      rw [h.acceptedRequests, digests_append, Finset.union_comm]
      rfl
    exact {
      distinct := hdistinct
      seenRequests := hseen
      all := by simp [h.all, latencies]
      accepted := by simp [h.accepted, latencies, RequestOutcome.isAccepted]
      conflicts := by simp [h.conflicts, latencies, RequestOutcome.isConflict]
      errors := by simp [h.errors, latencies, RequestOutcome.error?]
      errorCounts := by simpa [RequestOutcome.error?] using h.errorCounts
      acceptedRequests := hrequests }
  | conflict =>
    obtain ⟨-, rfl⟩ := Prod.mk.inj hrecord
    exact {
      distinct := hdistinct
      seenRequests := hseen
      all := by simp [h.all, latencies]
      accepted := by simp [h.accepted, latencies, RequestOutcome.isAccepted]
      conflicts := by simp [h.conflicts, latencies, RequestOutcome.isConflict]
      errors := by simp [h.errors, latencies, RequestOutcome.error?]
      errorCounts := by simpa [RequestOutcome.error?] using h.errorCounts
      acceptedRequests := by
        simp [h.acceptedRequests, digests, RequestOutcome.isAccepted] }
  | error error =>
    dsimp only at hrecord
    split at hrecord
    · next count hcount =>
      obtain ⟨-, rfl⟩ := Prod.mk.inj hrecord
      have hcounts : Tallies (ledger.errorCounts.insert error count)
          (records.filterMap (·.outcome.error?) ++ [error]) := by
        rw [← (checkedAdd_eq_some.mp hcount).1]
        exact h.errorCounts.count error
      exact {
        distinct := hdistinct
        seenRequests := hseen
        all := by simp [h.all, latencies]
        accepted := by simp [h.accepted, latencies, RequestOutcome.isAccepted]
        conflicts := by simp [h.conflicts, latencies, RequestOutcome.isConflict]
        errors := by simp [h.errors, latencies, RequestOutcome.error?]
        errorCounts := by simpa [RequestOutcome.error?] using hcounts
        acceptedRequests := by
          simp [h.acceptedRequests, digests, RequestOutcome.isAccepted] }
    · cases hrecord

/-- A fresh record is taken as long as the counts fit. -/
theorem record_fresh (h : Accounts crates records ledger) (record : RequestRecord)
    (hfresh : record.identity.digest crates ∉ ledger.seenRequests)
    (hfits : records.length + 1 < 2 ^ 64) :
    (ledger.record crates record.identity record.latency record.outcome).1 = .ok () := by
  obtain ⟨identity, latency, outcome⟩ := record
  rw [RequestLedger.record, if_neg hfresh]
  cases outcome with
  | accepted => rfl
  | conflict => rfl
  | error error =>
    have hcount : ledger.errorCounts.getD error 0 ≤ records.length := by
      rw [h.errorCounts.getD_eq]
      exact List.count_le_length.trans (List.length_filterMap_le _ _)
    have hadd : ledger.errorCounts.getD error 0 + 1 < 2 ^ 64 := by omega
    simp only [checkedAdd_of_lt hadd]

/-- A merge that succeeded holds what both ledgers held. -/
theorem tryMerge_ok (h : Accounts crates records ledger) (h' : Accounts crates records' ledger')
    (hmerge : ledger.tryMerge ledger' = (.ok (), merged)) :
    Accounts crates (records ++ records') merged := by
  unfold RequestLedger.tryMerge at hmerge
  split at hmerge
  · cases hmerge
  next hdisjoint =>
  split at hmerge
  · cases hmerge
  unfold AcceptedRequests.tryExtend at hmerge
  split_ifs at hmerge
  · obtain ⟨-, rfl⟩ := Prod.mk.inj hmerge
    rw [not_not, h.seenRequests, h'.seenRequests] at hdisjoint
    have hdistinct : ((records ++ records').map (·.identity.digest crates)).Nodup := by
      rw [List.map_append, List.nodup_append]
      refine ⟨h.distinct, h'.distinct, ?_⟩
      rintro a ha b hb rfl
      exact Finset.disjoint_left.mp hdisjoint (mem_digests_all.mpr ha) (mem_digests_all.mpr hb)
    exact {
      distinct := hdistinct
      seenRequests := by rw [h.seenRequests, h'.seenRequests, digests_append]
      all := by rw [h.all, h'.all, latencies_append]
      accepted := by rw [h.accepted, h'.accepted, latencies_append]
      conflicts := by rw [h.conflicts, h'.conflicts, latencies_append]
      errors := by rw [h.errors, h'.errors, latencies_append]
      errorCounts := by
        rw [List.filterMap_append]
        exact h.errorCounts.addAll h'.errorCounts
      acceptedRequests := by rw [h.acceptedRequests, h'.acceptedRequests, digests_append] }
  · cases hmerge

/-- Ledgers without a common request accepted no common request. -/
theorem disjoint_accepted (h : Accounts crates records ledger)
    (h' : Accounts crates records' ledger')
    (hdisjoint : Disjoint ledger.seenRequests ledger'.seenRequests) :
    Disjoint ledger.acceptedRequests.requests ledger'.acceptedRequests.requests := by
  rw [h.seenRequests, h'.seenRequests] at hdisjoint
  rw [h.acceptedRequests, h'.acceptedRequests]
  exact hdisjoint.mono (digests_subset_all _ _ _) (digests_subset_all _ _ _)

/-- Ledgers without a common request can be merged as long as the counts fit. -/
theorem tryMerge_disjoint (h : Accounts crates records ledger)
    (h' : Accounts crates records' ledger')
    (hdisjoint : Disjoint ledger.seenRequests ledger'.seenRequests)
    (hfits : records.length + records'.length < 2 ^ 64) :
    (ledger.tryMerge ledger').1 = .ok () := by
  have hcounts : (ledger'.errorCounts.toList.any fun entry =>
      (checkedAdd 64 (ledger.errorCounts.getD entry.1 0) entry.2).isNone) = false := by
    rw [List.any_eq_false]
    rintro ⟨error, count⟩ hmem
    have hcount : count = (records'.filterMap (·.outcome.error?)).count error := by
      rw [Std.ExtTreeMap.mem_toList_iff_getElem?_eq_some, h'.errorCounts error] at hmem
      split at hmem
      · exact (Option.some.inj hmem).symm
      · cases hmem
    have hleft : (records.filterMap (·.outcome.error?)).count error ≤ records.length :=
      List.count_le_length.trans (List.length_filterMap_le _ _)
    have hright : (records'.filterMap (·.outcome.error?)).count error ≤ records'.length :=
      List.count_le_length.trans (List.length_filterMap_le _ _)
    dsimp only
    rw [h.errorCounts.getD_eq, hcount, checkedAdd_of_lt (by omega)]
    simp
  have haccepted := h.disjoint_accepted h' hdisjoint
  rw [RequestLedger.tryMerge, if_neg (not_not.mpr hdisjoint), hcounts, AcceptedRequests.tryExtend,
    if_pos haccepted]
  rfl

/-- A merge reports a duplicate only if the two ledgers have a request in common. -/
theorem tryMerge_duplicate (h : Accounts crates records ledger)
    (h' : Accounts crates records' ledger')
    (hmerge : (ledger.tryMerge ledger').1 = .error .duplicateRequestIdentity) :
    ¬((records ++ records').map (·.identity.digest crates)).Nodup := by
  intro hnodup
  have hdisjoint : Disjoint ledger.seenRequests ledger'.seenRequests := by
    rw [h.seenRequests, h'.seenRequests, Finset.disjoint_left]
    intro digest hleft hright
    rw [List.map_append, List.nodup_append] at hnodup
    exact hnodup.2.2 _ (mem_digests_all.mp hleft) _ (mem_digests_all.mp hright) rfl
  have haccepted := h.disjoint_accepted h' hdisjoint
  rw [RequestLedger.tryMerge, if_neg (not_not.mpr hdisjoint), AcceptedRequests.tryExtend,
    if_pos haccepted] at hmerge
  split at hmerge <;> cases hmerge

end Accounts

/-- A merge that failed changed nothing. -/
theorem tryMerge_error {ledger other merged : RequestLedger} {error : ModelError}
    (h : ledger.tryMerge other = (.error error, merged)) : merged = ledger := by
  unfold RequestLedger.tryMerge at h
  split at h
  · exact (Prod.mk.inj h).2.symm
  split at h
  · exact (Prod.mk.inj h).2.symm
  split at h
  · exact (Prod.mk.inj h).2.symm
  · cases h

-- ════════════════════════════════
-- What a ledger reports
-- ════════════════════════════════

theorem sampleCount_ok {samples : List Duration} {n : ℕ} (h : sampleCount samples = .ok n) :
    n = samples.length ∧ samples.length < 2 ^ 64 := by
  unfold sampleCount at h
  split at h
  · next hlt => exact ⟨(Except.ok.inj h).symm, hlt⟩
  · cases h

theorem sampleCount_error {samples : List Duration} {error : ModelError}
    (h : sampleCount samples = .error error) : error = .countOverflow := by
  unfold sampleCount at h
  split at h
  · cases h
  · exact (Except.error.inj h).symm

theorem mapError_statistics {α : Type} {x : Except StatisticsError α} {error : ModelError}
    (h : x.mapError ModelError.statistics = .error error) : ∃ cause, error = .statistics cause := by
  cases x with
  | error cause => exact ⟨cause, (Except.error.inj h).symm⟩
  | ok value => cases h

/-- The evidence holds every number that is read off it later, and none of them is negative. -/
structure PhaseEvidence.Measured (phase : PhaseEvidence) : Prop where
  elapsed : 0 ≤ phase.elapsedMs
  latency : ∀ distribution, phase.latencyMs.all = some distribution →
    ∀ quantile ∈ quantiles, ∃ value, distribution.quantiles[quantile.1]? = some value ∧ 0 ≤ value
  attemptedThroughput : 0 ≤ phase.attemptedThroughputPerSecond
  acceptedThroughput : 0 ≤ phase.acceptedThroughputPerSecond
  conflictRate : 0 ≤ phase.conflictRate
  errorRate : 0 ≤ phase.errorRate

theorem ratio_nonneg (numerator denominator : ℕ) : 0 ≤ ratio numerator denominator := by
  unfold ratio
  split
  · exact le_rfl
  · positivity

theorem perSecond_nonneg {count : ℕ} {elapsed : Duration} {rate : ℚ}
    (h : perSecond count elapsed = .ok rate) : 0 ≤ rate := by
  unfold perSecond at h
  split at h
  · cases h
  · obtain rfl := Except.ok.inj h
    exact div_nonneg (Nat.cast_nonneg count) (asSecs_nonneg elapsed)

/-- A latency summary has all its quantiles, and they are latencies. -/
theorem optionalDistribution_quantiles {crates : Crates} {samples : List Duration}
    {distribution : Distribution}
    (h : optionalDistribution crates samples = .ok (some distribution)) :
    ∀ quantile ∈ quantiles, ∃ value, distribution.quantiles[quantile.1]? = some value ∧ 0 ≤ value := by
  rintro ⟨name, probability⟩ hquantile
  by_cases hne : samples = []
  · simp [optionalDistribution, hne] at h
  have hempty : samples.isEmpty = false := by simpa using hne
  rw [optionalDistribution, hempty, latencyDistribution_eq hne] at h
  obtain rfl := Option.some.inj (Except.ok.inj h)
  refine ⟨_, summarize_quantile crates _ hquantile, ?_⟩
  have hsorted : (samples.map fun sample => asSecs sample * 1000).mergeSort (· ≤ ·) ≠ [] := by
    intro hnil
    have hlength := congrArg List.length hnil
    simp [hne] at hlength
  have hmem := List.mem_mergeSort.mp (nearestRank_mem hsorted probability)
  obtain ⟨sample, -, hsample⟩ := List.mem_map.mp hmem
  rw [← hsample]
  exact mul_nonneg (asSecs_nonneg sample) (by norm_num)

/-- The phase a ledger reports counts its records and hands out its accepted requests. -/
theorem RequestLedger.finish_ok {crates : Crates} {ledger : RequestLedger} {elapsed : Duration}
    {phase : PhaseEvidence} {accepted : AcceptedRequests}
    (h : ledger.finish crates elapsed = .ok (phase, accepted)) :
    phase.counts = ⟨ledger.all.length, ledger.accepted.length, ledger.conflicts.length,
      ledger.errors.length⟩ ∧ accepted = ledger.acceptedRequests ∧ phase.Measured := by
  obtain ⟨attempts, hattempts, h⟩ := except_bind_eq_ok.mp h
  obtain ⟨_, haccepted, h⟩ := except_bind_eq_ok.mp h
  obtain ⟨_, hconflicts, h⟩ := except_bind_eq_ok.mp h
  obtain ⟨_, herrors, h⟩ := except_bind_eq_ok.mp h
  rw [(sampleCount_ok hattempts).1, (sampleCount_ok haccepted).1, (sampleCount_ok hconflicts).1,
    (sampleCount_ok herrors).1] at h
  dsimp only at h
  split at h
  · cases h
  obtain ⟨all, hall, h⟩ := except_bind_eq_ok.mp h
  obtain ⟨_, -, h⟩ := except_bind_eq_ok.mp h
  obtain ⟨_, -, h⟩ := except_bind_eq_ok.mp h
  obtain ⟨_, -, h⟩ := except_bind_eq_ok.mp h
  obtain ⟨attempted, hattempted, h⟩ := except_bind_eq_ok.mp h
  obtain ⟨throughput, hthroughput, h⟩ := except_bind_eq_ok.mp h
  obtain ⟨rfl, rfl⟩ := Prod.mk.inj (Except.ok.inj h)
  refine ⟨rfl, rfl, ?_⟩
  exact {
    elapsed := mul_nonneg (asSecs_nonneg elapsed) (by norm_num)
    latency := fun distribution hsome => optionalDistribution_quantiles
      ((except_mapError_eq_ok.mp hall).trans (congrArg Except.ok hsome))
    attemptedThroughput := perSecond_nonneg (except_mapError_eq_ok.mp hattempted)
    acceptedThroughput := perSecond_nonneg (except_mapError_eq_ok.mp hthroughput)
    conflictRate := ratio_nonneg _ _
    errorRate := ratio_nonneg _ _ }

/-- Why a ledger reports nothing. -/
theorem RequestLedger.finish_error {crates : Crates} {ledger : RequestLedger} {elapsed : Duration}
    {error : ModelError} (h : ledger.finish crates elapsed = .error error) :
    error = .countOverflow ∨ (∃ cause, error = .statistics cause) ∨
      error = .unaccountedRequests ∧ ledger.all.length < 2 ^ 64 ∧
        RequestCounts.fullyAccounted ⟨ledger.all.length, ledger.accepted.length,
          ledger.conflicts.length, ledger.errors.length⟩ = false := by
  obtain herror | ⟨attempts, hattempts, h⟩ := except_bind_eq_error.mp h
  · exact .inl (sampleCount_error herror)
  obtain herror | ⟨accepted, haccepted, h⟩ := except_bind_eq_error.mp h
  · exact .inl (sampleCount_error herror)
  obtain herror | ⟨conflicts, hconflicts, h⟩ := except_bind_eq_error.mp h
  · exact .inl (sampleCount_error herror)
  obtain herror | ⟨errors, herrors, h⟩ := except_bind_eq_error.mp h
  · exact .inl (sampleCount_error herror)
  obtain ⟨rfl, hlt⟩ := sampleCount_ok hattempts
  obtain ⟨rfl, -⟩ := sampleCount_ok haccepted
  obtain ⟨rfl, -⟩ := sampleCount_ok hconflicts
  obtain ⟨rfl, -⟩ := sampleCount_ok herrors
  dsimp only at h
  split at h
  · next hnot => exact .inr (.inr ⟨(Except.error.inj h).symm, hlt, by simpa using hnot⟩)
  -- only the statistics can still fail
  · refine .inr (.inl ?_)
    obtain herror | ⟨_, -, h⟩ := except_bind_eq_error.mp h
    · exact mapError_statistics herror
    obtain herror | ⟨_, -, h⟩ := except_bind_eq_error.mp h
    · exact mapError_statistics herror
    obtain herror | ⟨_, -, h⟩ := except_bind_eq_error.mp h
    · exact mapError_statistics herror
    obtain herror | ⟨_, -, h⟩ := except_bind_eq_error.mp h
    · exact mapError_statistics herror
    obtain herror | ⟨_, -, h⟩ := except_bind_eq_error.mp h
    · exact mapError_statistics herror
    obtain herror | ⟨_, -, h⟩ := except_bind_eq_error.mp h
    · exact mapError_statistics herror
    · cases h

section Reports

variable {crates : Crates} {records records' : List RequestRecord}
  {ledger ledger' : RequestLedger}

/-- Every outcome is accepted, a conflict or an error. -/
theorem latencies_split (records : List RequestRecord) :
    (latencies (fun _ => true) records).Perm (latencies (·.isAccepted) records ++
      latencies (·.isConflict) records ++ latencies (·.error?.isSome) records) := by
  induction records with
  | nil => exact .refl _
  | cons record records ih =>
    obtain ⟨identity, latency, outcome⟩ := record
    cases outcome with
    | accepted => exact ih.cons latency
    | conflict =>
      refine (ih.cons latency).trans ?_
      rw [← List.cons_append]
      exact List.perm_middle.symm.append_right _
    | error error =>
      exact (ih.cons latency).trans List.perm_middle.symm

/-- The invariant that ties the collections of a ledger together. -/
structure RequestLedger.Consistent (ledger : RequestLedger) : Prop where
  all_perm : ledger.all.Perm (ledger.accepted ++ ledger.conflicts ++ ledger.errors)
  all_length : ledger.all.length =
    ledger.accepted.length + ledger.conflicts.length + ledger.errors.length
  seenRequests_card : ledger.seenRequests.card = ledger.all.length
  errorCounts_sum : (ledger.errorCounts.toList.map Prod.snd).sum = ledger.errors.length
  acceptedRequests_subset : ledger.acceptedRequests.requests ⊆ ledger.seenRequests
  acceptedRequests_card : ledger.acceptedRequests.requests.card = ledger.accepted.length

theorem card_digests (hdistinct : (records.map (·.identity.digest crates)).Nodup)
    (p : RequestOutcome → Bool) :
    (digests crates p records).card = (latencies p records).length := by
  have hsublist : ((records.filter (p ·.outcome)).map (·.identity.digest crates)).Nodup :=
    hdistinct.sublist (List.filter_sublist.map _)
  rw [digests, List.toFinset_card_of_nodup hsublist, latencies, List.length_map, List.length_map]

theorem length_filterMap_error (records : List RequestRecord) :
    (records.filterMap (·.outcome.error?)).length = (latencies (·.error?.isSome) records).length := by
  induction records with
  | nil => rfl
  | cons record records ih =>
    obtain ⟨identity, latency, outcome⟩ := record
    cases outcome <;> simpa [latencies, RequestOutcome.error?] using ih

theorem Accounts.consistent (h : Accounts crates records ledger) : ledger.Consistent := by
  have hperm : ledger.all.Perm (ledger.accepted ++ ledger.conflicts ++ ledger.errors) := by
    rw [h.all, h.accepted, h.conflicts, h.errors]
    exact latencies_split records
  refine ⟨hperm, ?_, ?_, ?_, ?_, ?_⟩
  · simpa [Nat.add_assoc] using hperm.length_eq
  · rw [h.seenRequests, h.all, card_digests h.distinct]
  · rw [h.errorCounts.sum, h.errors, length_filterMap_error]
  · rw [h.acceptedRequests, h.seenRequests]
    exact digests_subset_all _ _ _
  · rw [h.acceptedRequests, h.accepted, card_digests h.distinct]

theorem Accounts.length_all (h : Accounts crates records ledger) :
    ledger.all.length = records.length := by
  rw [h.all]
  simp [latencies]

theorem fullyAccounted_of_sum {counts : RequestCounts}
    (hsum : counts.attempts = counts.accepted + counts.conflicts + counts.errors)
    (hlt : counts.attempts < 2 ^ 64) : counts.fullyAccounted = true := by
  have hfirst : counts.accepted + counts.conflicts < 2 ^ 64 := by omega
  have hsecond : counts.accepted + counts.conflicts + counts.errors < 2 ^ 64 := by omega
  simp [RequestCounts.fullyAccounted, checkedAdd_of_lt hfirst, checkedAdd_of_lt hsecond, hsum]

/-- A consistent ledger never reports requests it cannot account for. -/
theorem RequestLedger.Consistent.finish_accounted (h : ledger.Consistent) (elapsed : Duration) :
    ledger.finish crates elapsed ≠ .error .unaccountedRequests := by
  intro heq
  obtain herror | ⟨cause, herror⟩ | ⟨-, hlt, hnot⟩ := RequestLedger.finish_error heq
  · cases herror
  · cases herror
  · have hfull : RequestCounts.fullyAccounted ⟨ledger.all.length, ledger.accepted.length,
        ledger.conflicts.length, ledger.errors.length⟩ = true :=
      fullyAccounted_of_sum h.all_length hlt
    rw [hfull] at hnot
    cases hnot

theorem sampleCount_perm {samples samples' : List Duration} (h : samples.Perm samples') :
    sampleCount samples = sampleCount samples' := by
  simp only [sampleCount, h.length_eq]

/-- Ledgers that hold the same records report the same. -/
theorem Accounts.finish_perm (h : Accounts crates records ledger)
    (h' : Accounts crates records' ledger') (hperm : records.Perm records') (elapsed : Duration) :
    ledger.finish crates elapsed = ledger'.finish crates elapsed := by
  have hall : ledger.all.Perm ledger'.all := by
    rw [h.all, h'.all]
    exact latencies_perm _ hperm
  have haccepted : ledger.accepted.Perm ledger'.accepted := by
    rw [h.accepted, h'.accepted]
    exact latencies_perm _ hperm
  have hconflicts : ledger.conflicts.Perm ledger'.conflicts := by
    rw [h.conflicts, h'.conflicts]
    exact latencies_perm _ hperm
  have herrors : ledger.errors.Perm ledger'.errors := by
    rw [h.errors, h'.errors]
    exact latencies_perm _ hperm
  have herrorCounts : ledger.errorCounts = ledger'.errorCounts :=
    (h.errorCounts.perm (hperm.filterMap _)).unique h'.errorCounts
  have hrequests : ledger.acceptedRequests = ledger'.acceptedRequests := by
    have hdigests : digests crates (·.isAccepted) records =
        digests crates (·.isAccepted) records' :=
      List.toFinset_eq_of_perm _ _ ((hperm.filter _).map _)
    rw [← h.acceptedRequests, ← h'.acceptedRequests] at hdigests
    exact congrArg AcceptedRequests.mk hdigests
  simp only [RequestLedger.finish, sampleCount_perm hall, sampleCount_perm haccepted,
    sampleCount_perm hconflicts, sampleCount_perm herrors, optionalDistribution_perm hall,
    optionalDistribution_perm haccepted, optionalDistribution_perm hconflicts,
    optionalDistribution_perm herrors, herrorCounts, hrequests]

theorem optionalDistribution_ok (crates : Crates) (samples : List Duration) :
    ∃ distribution, optionalDistribution crates samples = .ok distribution := by
  by_cases hne : samples = []
  · exact ⟨none, by simp [optionalDistribution, hne]⟩
  · have hempty : samples.isEmpty = false := by simpa using hne
    rw [optionalDistribution, hempty, latencyDistribution_eq hne]
    exact ⟨_, rfl⟩

/-- A consistent ledger reports a phase as long as its counts fit and some time has passed. -/
theorem RequestLedger.Consistent.finish_reports (h : ledger.Consistent) (crates : Crates)
    (hlt : ledger.all.length < 2 ^ 64) {elapsed : Duration} (helapsed : elapsed ≠ 0) :
    ∃ phase accepted, ledger.finish crates elapsed = .ok (phase, accepted) := by
  have hcount : ∀ samples : List Duration, samples.length ≤ ledger.all.length →
      sampleCount samples = .ok samples.length := by
    intro samples hle
    exact if_pos (by omega)
  have hlength := h.all_length
  have hfull : RequestCounts.fullyAccounted ⟨ledger.all.length, ledger.accepted.length,
      ledger.conflicts.length, ledger.errors.length⟩ = true := fullyAccounted_of_sum hlength hlt
  obtain ⟨all, hall⟩ := optionalDistribution_ok crates ledger.all
  obtain ⟨accepted, haccepted⟩ := optionalDistribution_ok crates ledger.accepted
  obtain ⟨conflicts, hconflicts⟩ := optionalDistribution_ok crates ledger.conflicts
  obtain ⟨errors, herrors⟩ := optionalDistribution_ok crates ledger.errors
  simp only [RequestLedger.finish, hcount ledger.all le_rfl,
    hcount ledger.accepted (by omega), hcount ledger.conflicts (by omega),
    hcount ledger.errors (by omega), hall, haccepted, hconflicts, herrors, perSecond, helapsed,
    if_false, bind, Except.bind, hfull, Bool.not_true, Bool.false_eq_true, Except.mapError]
  exact ⟨_, _, rfl⟩

end Reports

-- ════════════════════════════════
-- Histories
-- ════════════════════════════════

/-- The identities of two requests whose digests `sampleCrates` knows. -/
def sampleWarmup : RequestIdentity := ⟨"bench/fixture/1/warmup/0", by decide⟩

def sampleSequential : RequestIdentity := ⟨"bench/fixture/1/sequential/0", by decide⟩

/-- How a ledger came about: a tree, since merged ledgers have histories of their own. -/
inductive LedgerHistory
  | init
  | record (history : LedgerHistory) (record : RequestRecord)
  | merge (history other : LedgerHistory)

namespace LedgerHistory

/-- The ledger after all calls of a history, failed ones included. -/
def replay (crates : Crates) : LedgerHistory → RequestLedger
  | .init => {}
  | .record history entry =>
    ((history.replay crates).record crates entry.identity entry.latency entry.outcome).2
  | .merge history other => ((history.replay crates).tryMerge (other.replay crates)).2

/-- The calls of `record`, successful or not. -/
def records : LedgerHistory → ℕ
  | .init => 0
  | .record history _ => history.records + 1
  | .merge history other => history.records + other.records

/-- The successful calls of `record` whose ledger was not lost in a failed merge. -/
def successes (crates : Crates) : LedgerHistory → ℕ
  | .init => 0
  | .record history entry =>
    if ((history.replay crates).record crates entry.identity entry.latency
        entry.outcome).1.isOk then
      history.successes crates + 1
    else history.successes crates
  | .merge history other =>
    if ((history.replay crates).tryMerge (other.replay crates)).1.isOk then
      history.successes crates + other.successes crates
    else history.successes crates

/-- Every ledger with a history accounts for the records that were taken. -/
theorem accounts (crates : Crates) (history : LedgerHistory) (hfits : history.records < 2 ^ 64) :
    ∃ records, Accounts crates records (history.replay crates) ∧
      records.length = history.successes crates ∧ records.length ≤ history.records := by
  induction history with
  | init => exact ⟨[], .default crates, rfl, le_rfl⟩
  | record history entry ih =>
    simp only [LedgerHistory.records] at hfits
    obtain ⟨records, haccounts, hlength, hle⟩ := ih (by omega)
    by_cases hseen : entry.identity.digest crates ∈ (history.replay crates).seenRequests
    · have hsame : (history.replay crates).record crates entry.identity entry.latency
          entry.outcome = (.error .duplicateRequestIdentity, history.replay crates) := if_pos hseen
      refine ⟨records, ?_, ?_, ?_⟩
      · rwa [replay, hsame]
      · rw [successes, hsame]
        exact hlength
      · exact hle.trans (Nat.le_succ _)
    · have hok := haccounts.record_fresh entry hseen (by omega)
      refine ⟨records ++ [entry], haccounts.record_ok entry (Prod.ext hok rfl), ?_, ?_⟩
      · rw [successes, hok, List.length_append, hlength]
        rfl
      · simp only [List.length_append, LedgerHistory.records]
        exact Nat.add_le_add_right hle 1
  | merge history other ih ih' =>
    simp only [LedgerHistory.records] at hfits
    obtain ⟨records, haccounts, hlength, hle⟩ := ih (by omega)
    obtain ⟨records', haccounts', hlength', hle'⟩ := ih' (by omega)
    cases hmerge : (history.replay crates).tryMerge (other.replay crates) with
    | mk result merged =>
      cases result with
      | error error =>
        obtain rfl := tryMerge_error hmerge
        refine ⟨records, ?_, ?_, ?_⟩
        · rwa [replay, hmerge]
        · rw [successes, hmerge]
          exact hlength
        · exact hle.trans (Nat.le_add_right _ _)
      | ok _ =>
        refine ⟨records ++ records', ?_, ?_, ?_⟩
        · rw [replay, hmerge]
          exact haccounts.tryMerge_ok haccounts' hmerge
        · rw [successes, hmerge, List.length_append, hlength, hlength']
          rfl
        · simp only [List.length_append, LedgerHistory.records]
          exact Nat.add_le_add hle hle'

/-- Every ledger with a history keeps its collections in step, so that it never reports
unaccounted requests, and reports as many attempts as there were successful records. -/
theorem replay_consistent (crates : Crates) (history : LedgerHistory)
    (hfits : history.records < 2 ^ 64) :
    (history.replay crates).Consistent ∧
      ∀ elapsed, (history.replay crates).finish crates elapsed ≠ .error .unaccountedRequests ∧
        ∀ phase accepted, (history.replay crates).finish crates elapsed = .ok (phase, accepted) →
          phase.counts.attempts = history.successes crates := by
  obtain ⟨records, haccounts, hlength, -⟩ := history.accounts crates hfits
  have hconsistent := haccounts.consistent
  refine ⟨hconsistent, fun elapsed => ⟨hconsistent.finish_accounted elapsed, ?_⟩⟩
  intro phase accepted hfinish
  rw [(RequestLedger.finish_ok hfinish).1, ← hlength]
  exact haccounts.length_all

/-- A ledger that saw one request twice, merged with one that saw an error. -/
def sample : LedgerHistory :=
  .merge
    (.record (.record .init ⟨sampleWarmup, 5, .accepted⟩) ⟨sampleWarmup, 6, .conflict⟩)
    (.record .init ⟨sampleSequential, 7, .error ⟨.timeout, none⟩⟩)

theorem replay_consistent_sample :
    (sample.replay sampleCrates).Consistent ∧
      ∀ phase accepted, (sample.replay sampleCrates).finish sampleCrates 9 = .ok (phase, accepted) →
        phase.counts.attempts = 2 := by
  obtain ⟨hconsistent, hfinish⟩ := replay_consistent sampleCrates sample (by decide)
  have hsuccesses : sample.successes sampleCrates = 2 := by decide
  exact ⟨hconsistent, fun phase accepted h => hsuccesses ▸ (hfinish 9).2 phase accepted h⟩

end LedgerHistory

end CatalogBench.Commit
