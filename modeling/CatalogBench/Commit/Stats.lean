import CatalogBench.Crates
import Mathlib.Data.Rat.Floor
import Mathlib.Data.List.Sort
import Mathlib.Algebra.Order.Floor.Defs
import Mathlib.Algebra.Order.Field.Rat

/-!
# Statistics

Latency summaries over exact rational numbers in place of `f64`. A summary sorts its samples
first, so it does not depend on their order.
-/

set_option linter.all false

namespace CatalogBench.Commit

/-- A `Duration`, in nanoseconds. -/
abbrev Duration := ℕ

/-- `Duration::as_secs_f64`. -/
def asSecs (duration : Duration) : ℚ := duration / 1000000000

structure Distribution where
  samples : ℕ
  minimum : ℚ
  maximum : ℚ
  mean : Option ℚ
  standardDeviation : Option ℚ
  quantiles : StringMap ℚ
  deriving DecidableEq

inductive StatisticsError
  | emptySamples
  | nonFiniteSample (index : ℕ)
  | negativeSample (index : ℕ)
  | zeroElapsed
  deriving DecidableEq

def StatisticsError.display : StatisticsError → String
  | .emptySamples => "statistics require at least one sample"
  | .nonFiniteSample index => "sample " ++ toString index ++ " is not finite"
  | .negativeSample index => "sample " ++ toString index ++ " is negative"
  | .zeroElapsed => "throughput requires nonzero elapsed time"

/-- The samples in order. Every rational is finite, so only the sign is checked. -/
def sortedNonnegative (samples : List ℚ) : Except StatisticsError (List ℚ) :=
  if samples.isEmpty then .error .emptySamples
  else
    match samples.findIdx? (· < 0) with
    | some index => .error (.negativeSample index)
    | none => .ok (samples.mergeSort (· ≤ ·))

/-- Median and full observed range of repeated measurements. -/
structure MedianRange where
  samples : ℕ
  minimum : ℚ
  median : ℚ
  maximum : ℚ
  deriving DecidableEq

/-- The observation in the middle, or the midpoint of the two in the middle. -/
def middle (sorted : List ℚ) : ℚ :=
  let middle := sorted.length / 2
  if sorted.length % 2 = 0 then (sorted.getD (middle - 1) 0 + sorted.getD middle 0) / 2
  else sorted.getD middle 0

def MedianRange.ofSorted (sorted : List ℚ) : MedianRange where
  samples := sorted.length
  minimum := sorted.getD 0 0
  median := middle sorted
  maximum := sorted.getD (sorted.length - 1) 0

def medianWithRange (samples : List ℚ) : Except StatisticsError MedianRange :=
  (sortedNonnegative samples).map MedianRange.ofSorted

def nearestRank (sorted : List ℚ) (probability : ℚ) : ℚ :=
  let rank := ⌈probability * sorted.length⌉₊
  sorted.getD (min (rank - 1) (sorted.length - 1)) 0

/-- Welford's recurrence. -/
def populationMoments (crates : Crates) (samples : List ℚ) : ℚ × ℚ :=
  let (count, mean, squaredDeviation) := samples.foldl
    (fun (count, mean, squaredDeviation) sample =>
      let count := count + 1
      let delta := sample - mean
      let mean := mean + delta / count
      (count, mean, squaredDeviation + delta * (sample - mean)))
    ((0 : ℚ), (0 : ℚ), (0 : ℚ))
  (mean, crates.sqrt (max (squaredDeviation / count) 0))

def quantiles : List (String × ℚ) := [("p50", 1 / 2), ("p95", 19 / 20), ("p99", 99 / 100)]

/-- The summary of sorted samples. -/
def summarize (crates : Crates) (sorted : List ℚ) : Distribution :=
  let (mean, standardDeviation) := populationMoments crates sorted
  { samples := sorted.length
    minimum := sorted.getD 0 0
    maximum := sorted.getD (sorted.length - 1) 0
    mean := some mean
    standardDeviation := some standardDeviation
    quantiles := .ofList (quantiles.map fun (name, probability) =>
      (name, nearestRank sorted probability)) _ }

def nonnegativeDistribution (crates : Crates) (samples : List ℚ) :
    Except StatisticsError Distribution :=
  (sortedNonnegative samples).map (summarize crates)

def latencyDistribution (crates : Crates) (samples : List Duration) :
    Except StatisticsError Distribution :=
  nonnegativeDistribution crates (samples.map fun sample => asSecs sample * 1000)

def perSecond (count : ℕ) (elapsed : Duration) : Except StatisticsError ℚ :=
  if elapsed = 0 then .error .zeroElapsed else .ok (count / asSecs elapsed)

def optionalDistribution (crates : Crates) (samples : List Duration) :
    Except StatisticsError (Option Distribution) :=
  if samples.isEmpty then .ok none else (latencyDistribution crates samples).map some

section Nonnegative

variable {samples : List ℚ}

/-- Only an empty list and a negative sample are refused. -/
theorem sortedNonnegative_eq (hne : samples ≠ []) (hnonneg : ∀ sample ∈ samples, 0 ≤ sample) :
    sortedNonnegative samples = .ok (samples.mergeSort (· ≤ ·)) := by
  have hnone : samples.findIdx? (· < 0) = none := by
    rw [List.findIdx?_eq_none_iff]
    intro sample hsample
    simpa using hnonneg sample hsample
  have hempty : samples.isEmpty = false := by simpa using hne
  rw [sortedNonnegative, hempty, hnone]
  rfl

/-- The median of the samples. -/
def median (samples : List ℚ) : ℚ := middle (samples.mergeSort (· ≤ ·))

theorem medianWithRange_eq (hne : samples ≠ []) (hnonneg : ∀ sample ∈ samples, 0 ≤ sample) :
    medianWithRange samples = .ok (.ofSorted (samples.mergeSort (· ≤ ·))) := by
  rw [medianWithRange, sortedNonnegative_eq hne hnonneg]
  rfl

theorem sortedNonnegative_ok {sorted : List ℚ} (h : sortedNonnegative samples = .ok sorted) :
    sorted = samples.mergeSort (· ≤ ·) := by
  unfold sortedNonnegative at h
  split at h
  · cases h
  · split at h
    · cases h
    · exact (Except.ok.inj h).symm

theorem medianWithRange_ok {range : MedianRange} (h : medianWithRange samples = .ok range) :
    range.median = median samples := by
  unfold medianWithRange at h
  cases hsorted : sortedNonnegative samples with
  | error error => rw [hsorted] at h; cases h
  | ok sorted =>
    rw [hsorted] at h
    obtain rfl := Except.ok.inj h
    rw [median, ← sortedNonnegative_ok hsorted]
    rfl

/-- Over an odd number of samples the nearest rank of one half is the observation in the middle. -/
theorem nearestRank_half {sorted : List ℚ} (hodd : Odd sorted.length) :
    nearestRank sorted (1 / 2) = middle sorted := by
  obtain ⟨half, hlength⟩ := hodd
  have hrank : ⌈(1 / 2 : ℚ) * sorted.length⌉₊ = half + 1 := by
    rw [Nat.ceil_eq_iff (by omega), hlength]
    push_cast
    constructor
    · linarith
    · linarith
  rw [nearestRank, hrank, middle, if_neg (by omega)]
  congr 1
  omega

theorem nearestRank_mem {sorted : List ℚ} (hne : sorted ≠ []) (probability : ℚ) :
    nearestRank sorted probability ∈ sorted := by
  have hpos := List.length_pos_iff.mpr hne
  have hlt : min (⌈probability * sorted.length⌉₊ - 1) (sorted.length - 1) < sorted.length := by
    omega
  rw [nearestRank, List.getD_eq_getElem?_getD, List.getElem?_eq_getElem hlt]
  exact List.getElem_mem hlt

/-- Every quantile of a summary is one of the samples. -/
theorem summarize_quantile (crates : Crates) (sorted : List ℚ) {name : String}
    {probability : ℚ} (hquantile : (name, probability) ∈ quantiles) :
    (summarize crates sorted).quantiles[name]? = some (nearestRank sorted probability) := by
  refine (getElem?_ofList_iff (by simp [quantiles]) _ _).mpr ?_
  exact List.mem_map.mpr ⟨(name, probability), hquantile, rfl⟩

theorem nonnegativeDistribution_ok {crates : Crates} {distribution : Distribution}
    (h : nonnegativeDistribution crates samples = .ok distribution) :
    distribution = summarize crates (samples.mergeSort (· ≤ ·)) := by
  unfold nonnegativeDistribution at h
  cases hsorted : sortedNonnegative samples with
  | error error => rw [hsorted] at h; cases h
  | ok sorted =>
    rw [hsorted] at h
    obtain rfl := Except.ok.inj h
    rw [sortedNonnegative_ok hsorted]

/-- The p50 of an odd number of samples is their median. -/
theorem nonnegativeDistribution_p50 {crates : Crates} {distribution : Distribution}
    (h : nonnegativeDistribution crates samples = .ok distribution) (hodd : Odd samples.length) :
    distribution.quantiles["p50"]? = some (median samples) := by
  have hlength : Odd (samples.mergeSort (· ≤ ·)).length := by rwa [List.length_mergeSort]
  have hquantile : ("p50", 1 / 2) ∈ quantiles := List.mem_cons_self
  rw [nonnegativeDistribution_ok h, summarize_quantile crates _ hquantile, nearestRank_half hlength,
    median]

end Nonnegative

section Latencies

variable {crates : Crates} {samples samples' : List Duration}

theorem asSecs_nonneg (duration : Duration) : 0 ≤ asSecs duration := by
  unfold asSecs
  positivity

/-- Latencies are never negative, so they are always summarised. -/
theorem latencyDistribution_eq (hne : samples ≠ []) :
    latencyDistribution crates samples = .ok (summarize crates
      ((samples.map fun sample => asSecs sample * 1000).mergeSort (· ≤ ·))) := by
  have hnonneg : ∀ sample ∈ samples.map fun sample => asSecs sample * 1000, (0 : ℚ) ≤ sample := by
    intro q hq
    obtain ⟨sample, -, rfl⟩ := List.mem_map.mp hq
    exact mul_nonneg (asSecs_nonneg sample) (by norm_num)
  have hmapped : (samples.map fun sample => asSecs sample * 1000) ≠ [] := by simpa using hne
  rw [latencyDistribution, nonnegativeDistribution, sortedNonnegative_eq hmapped hnonneg]
  rfl

/-- A summary does not depend on the order of the samples. -/
theorem optionalDistribution_perm (h : samples.Perm samples') :
    optionalDistribution crates samples = optionalDistribution crates samples' := by
  by_cases hne : samples = []
  · subst hne
    rw [List.nil_perm.mp h]
  · have hne' : samples' ≠ [] := fun hnil => hne (List.perm_nil.mp (hnil ▸ h))
    have hsorted : (samples.map fun sample => asSecs sample * 1000).mergeSort (· ≤ ·) =
        (samples'.map fun sample => asSecs sample * 1000).mergeSort (· ≤ ·) := by
      have hperm := h.map fun sample => asSecs sample * 1000
      refine List.Perm.eq_of_sortedLE List.sortedLE_mergeSort List.sortedLE_mergeSort ?_
      exact (List.mergeSort_perm _ _).trans (hperm.trans (List.mergeSort_perm _ _).symm)
    simp only [optionalDistribution, latencyDistribution_eq hne, latencyDistribution_eq hne',
      hsorted, List.isEmpty_iff, hne, hne']

end Latencies

end CatalogBench.Commit
