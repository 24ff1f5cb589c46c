import CatalogBench.ContractTool.MatrixOrder
import CatalogBench.Library.OrderStatistics
import Mathlib.Algebra.Order.BigOperators.Group.List

/-!
# Summaries pass their checks

The summary of nonnegative samples, as the harness computes it, is what the contract validator and
the verdict of a round ask for: its quantiles are order statistics of the samples, and its mean, a
running one, is their mean.
-/

set_option linter.all false

namespace CatalogBench.ContractTool
open OrderStatistics CatalogBench.Commit CatalogBench.Contract

-- ════════════════════════════════
-- The running mean
-- ════════════════════════════════

/-- One step of the recurrence: a sample more, and its share in the mean. -/
theorem mean_step {count mean sample : ℚ} (h : 0 ≤ count) :
    (mean + (sample - mean) / (count + 1)) * (count + 1) = mean * count + sample := by
  have hne : count + 1 ≠ 0 := by positivity
  field_simp
  ring

/-- The recurrence of the moments. -/
def momentStep : ℚ × ℚ × ℚ → ℚ → ℚ × ℚ × ℚ := fun (count, mean, squaredDeviation) sample =>
  let count := count + 1
  let delta := sample - mean
  let mean := mean + delta / count
  (count, mean, squaredDeviation + delta * (sample - mean))

theorem foldl_momentStep (samples : List ℚ) {count mean deviation : ℚ} (h : 0 ≤ count) :
    (samples.foldl momentStep (count, mean, deviation)).1 = count + samples.length ∧
      (samples.foldl momentStep (count, mean, deviation)).2.1 * (count + samples.length) =
        mean * count + samples.sum := by
  induction samples generalizing count mean deviation with
  | nil => simp
  | cons sample samples ih =>
    have hnext : (0 : ℚ) ≤ count + 1 := by positivity
    obtain ⟨hcount, hmean⟩ := @ih (count + 1) (mean + (sample - mean) / (count + 1))
      (deviation + (sample - mean) * (sample - (mean + (sample - mean) / (count + 1)))) hnext
    have hlength : count + ((sample :: samples).length : ℚ) = count + 1 + samples.length := by
      rw [List.length_cons]
      push_cast
      ring
    rw [List.foldl_cons, hlength, List.sum_cons, ← add_assoc, ← mean_step h]
    exact ⟨hcount, hmean⟩

/-- The running mean is the mean. -/
theorem populationMoments_mean (crates : Crates) (samples : List ℚ) :
    (populationMoments crates samples).1 * samples.length = samples.sum := by
  have hmoments : (populationMoments crates samples).1 =
      (samples.foldl momentStep (0, 0, 0)).2.1 := rfl
  have hmean := (@foldl_momentStep samples 0 0 0 le_rfl).2
  rwa [zero_add, zero_mul, zero_add, ← hmoments] at hmean

theorem le_populationMoments (crates : Crates) {samples : List ℚ} {bound : ℚ} (hne : samples ≠ [])
    (h : ∀ sample ∈ samples, bound ≤ sample) : bound ≤ (populationMoments crates samples).1 := by
  have hpos : (0 : ℚ) < samples.length := by exact_mod_cast List.length_pos_iff.mpr hne
  have hsum := List.card_nsmul_le_sum samples bound h
  rw [← populationMoments_mean crates, nsmul_eq_mul, mul_comm] at hsum
  exact le_of_mul_le_mul_right hsum hpos

theorem populationMoments_le (crates : Crates) {samples : List ℚ} {bound : ℚ} (hne : samples ≠ [])
    (h : ∀ sample ∈ samples, sample ≤ bound) : (populationMoments crates samples).1 ≤ bound := by
  have hpos : (0 : ℚ) < samples.length := by exact_mod_cast List.length_pos_iff.mpr hne
  have hsum := List.sum_le_card_nsmul samples bound h
  rw [← populationMoments_mean crates, nsmul_eq_mul, mul_comm (samples.length : ℚ)] at hsum
  exact le_of_mul_le_mul_right hsum hpos

-- ════════════════════════════════
-- Quantiles
-- ════════════════════════════════

/-- The least sample that at least the given share of the samples does not exceed. -/
structure IsQuantile (samples : List ℚ) (probability quantile : ℚ) : Prop where
  mem : quantile ∈ samples
  covers : probability * samples.length ≤ countLe samples quantile
  least : ∀ sample ∈ samples, probability * samples.length ≤ countLe samples sample →
    quantile ≤ sample

section Quantiles

variable {samples : List ℚ} {probability : ℚ}

/-- The nearest rank in sorted samples. -/
theorem isRanked_nearestRank (hne : samples ≠ []) (hpos : 0 < probability)
    (hle : probability ≤ 1) :
    IsRanked samples ⌈probability * samples.length⌉₊
      (nearestRank (samples.mergeSort (· ≤ ·)) probability) := by
  have hlength : 0 < samples.length := List.length_pos_iff.mpr hne
  have hcast : (0 : ℚ) < samples.length := by exact_mod_cast hlength
  have hceil : 0 < ⌈probability * samples.length⌉₊ := Nat.ceil_pos.mpr (mul_pos hpos hcast)
  have hrank : ⌈probability * samples.length⌉₊ ≤ samples.length :=
    Nat.ceil_le.mpr (mul_le_of_le_one_left hcast.le hle)
  have hindex : ⌈probability * samples.length⌉₊ - 1 < (samples.mergeSort (· ≤ ·)).length := by
    rw [List.length_mergeSort]
    omega
  have hsorted : (samples.mergeSort (· ≤ ·)).Pairwise (· ≤ ·) := List.sortedLE_mergeSort.pairwise
  have hranked := (isRanked_get hsorted hindex).perm (List.mergeSort_perm _ _)
  rw [Nat.sub_add_cancel hceil] at hranked
  have hmin : min (⌈probability * samples.length⌉₊ - 1) (samples.length - 1) =
      ⌈probability * samples.length⌉₊ - 1 := by omega
  rw [nearestRank, List.length_mergeSort, hmin, List.getD_eq_getElem?_getD,
    List.getElem?_eq_getElem hindex]
  exact hranked

/-- A greater share has no smaller quantile. -/
theorem nearestRank_le {probability' : ℚ} (hne : samples ≠ []) (hpos : 0 < probability)
    (hle : probability ≤ probability') (hone : probability' ≤ 1) :
    nearestRank (samples.mergeSort (· ≤ ·)) probability ≤
      nearestRank (samples.mergeSort (· ≤ ·)) probability' := by
  have hcast : (0 : ℚ) ≤ samples.length := by positivity
  exact (isRanked_nearestRank hne hpos (hle.trans hone)).le
    (isRanked_nearestRank hne (hpos.trans_le hle) hone)
    (Nat.ceil_mono (mul_le_mul_of_nonneg_right hle hcast))

theorem isQuantile_nearestRank (hne : samples ≠ []) (hpos : 0 < probability)
    (hle : probability ≤ 1) :
    IsQuantile samples probability (nearestRank (samples.mergeSort (· ≤ ·)) probability) := by
  obtain ⟨hmem, hcovers, hleast⟩ := isRanked_nearestRank hne hpos hle
  exact ⟨hmem, Nat.ceil_le.mp hcovers, fun sample _ hsample =>
    hleast sample (Nat.ceil_le.mpr hsample)⟩

theorem isRanked_minimum (hne : samples ≠ []) :
    IsRanked samples 1 ((samples.mergeSort (· ≤ ·)).getD 0 0) := by
  have hlength : 0 < (samples.mergeSort (· ≤ ·)).length := by
    rw [List.length_mergeSort]
    exact List.length_pos_iff.mpr hne
  have hsorted : (samples.mergeSort (· ≤ ·)).Pairwise (· ≤ ·) := List.sortedLE_mergeSort.pairwise
  rw [List.getD_eq_getElem?_getD, List.getElem?_eq_getElem hlength]
  exact (isRanked_get hsorted hlength).perm (List.mergeSort_perm _ _)

theorem isRanked_maximum (hne : samples ≠ []) :
    IsRanked samples samples.length
      ((samples.mergeSort (· ≤ ·)).getD ((samples.mergeSort (· ≤ ·)).length - 1) 0) := by
  have hpos : 0 < samples.length := List.length_pos_iff.mpr hne
  have hlength : samples.length - 1 < (samples.mergeSort (· ≤ ·)).length := by
    rw [List.length_mergeSort]
    omega
  have hsorted : (samples.mergeSort (· ≤ ·)).Pairwise (· ≤ ·) := List.sortedLE_mergeSort.pairwise
  have hranked := (isRanked_get hsorted hlength).perm (List.mergeSort_perm _ _)
  rw [Nat.sub_add_cancel hpos] at hranked
  rw [List.length_mergeSort, List.getD_eq_getElem?_getD, List.getElem?_eq_getElem hlength]
  exact hranked

end Quantiles

-- ════════════════════════════════
-- The summary
-- ════════════════════════════════

/-- The numbers of a summary are in order. -/
def InOrder (distribution : Commit.Distribution) : Prop :=
  ∃ p50 p95 p99 mean, distribution.quantiles["p50"]? = some p50 ∧
    distribution.quantiles["p95"]? = some p95 ∧ distribution.quantiles["p99"]? = some p99 ∧
    distribution.mean = some mean ∧ distribution.minimum ≤ p50 ∧ p50 ≤ p95 ∧ p95 ≤ p99 ∧
    p99 ≤ distribution.maximum ∧ distribution.minimum ≤ mean ∧ mean ≤ distribution.maximum

theorem latencyComplete_of_inOrder {phase : PhaseEvidence} {distribution : Commit.Distribution}
    (hlatency : phase.latencyMs.all = some distribution) (h : InOrder distribution) :
    latencyComplete phase distribution.samples = true := by
  obtain ⟨p50, p95, p99, mean, hp50, hp95, hp99, -, hminimum, hle95, hle99, hmaximum, -, -⟩ := h
  simp [latencyComplete, hlatency, hp50, hp95, hp99, hminimum, hle95, hle99, hmaximum]

section Summary

variable {crates : Crates} {samples : List ℚ}

theorem inOrder_summarize (hne : samples ≠ []) :
    InOrder (summarize crates (samples.mergeSort (· ≤ ·))) := by
  have hminimum := isRanked_minimum hne
  have hmaximum := isRanked_maximum hne
  have hnearest {probability : ℚ} (hpos : 0 < probability) (hle : probability ≤ 1) :
      nearestRank (samples.mergeSort (· ≤ ·)) probability ∈ samples :=
    (isRanked_nearestRank hne hpos hle).mem
  have hsortedNe : samples.mergeSort (· ≤ ·) ≠ [] := fun hnil =>
    hne (List.perm_nil.mp (hnil ▸ (List.mergeSort_perm samples _).symm))
  have hfirst : ∀ sample ∈ samples.mergeSort (· ≤ ·),
      (samples.mergeSort (· ≤ ·)).getD 0 0 ≤ sample := fun sample hsample =>
    hminimum.first_le ((List.mergeSort_perm _ _).mem_iff.mp hsample)
  have hlast : ∀ sample ∈ samples.mergeSort (· ≤ ·),
      sample ≤ (samples.mergeSort (· ≤ ·)).getD ((samples.mergeSort (· ≤ ·)).length - 1) 0 :=
    fun sample hsample => hmaximum.le_last ((List.mergeSort_perm _ _).mem_iff.mp hsample)
  have hp50 : ("p50", 1 / 2) ∈ quantiles := List.mem_cons_self
  have hp95 : ("p95", 19 / 20) ∈ quantiles := by simp [quantiles]
  have hp99 : ("p99", 99 / 100) ∈ quantiles := by simp [quantiles]
  refine ⟨_, _, _, _, summarize_quantile crates _ hp50, summarize_quantile crates _ hp95,
    summarize_quantile crates _ hp99, rfl, ?_, ?_, ?_, ?_, ?_, ?_⟩
  · exact hminimum.first_le (hnearest (by norm_num) (by norm_num))
  · exact nearestRank_le hne (by norm_num) (by norm_num) (by norm_num)
  · exact nearestRank_le hne (by norm_num) (by norm_num) (by norm_num)
  · exact hmaximum.le_last (hnearest (by norm_num) (by norm_num))
  · exact le_populationMoments crates hsortedNe hfirst
  · exact populationMoments_le crates hsortedNe hlast

/-- A standard deviation is not negative. -/
theorem summarize_deviation (hsqrt : ∀ variance, 0 ≤ variance → 0 ≤ crates.sqrt variance)
    (sorted : List ℚ) : ∃ deviation,
      (summarize crates sorted).standardDeviation = some deviation ∧ 0 ≤ deviation :=
  ⟨_, rfl, hsqrt _ (le_max_right _ _)⟩

theorem summarize_accepted {parseF64 : String → Option ℚ} (hparse : ReadsPercentiles parseF64)
    (hsqrt : ∀ variance, 0 ≤ variance → 0 ≤ crates.sqrt variance) (hne : samples ≠ [])
    (hnonneg : ∀ sample ∈ samples, 0 ≤ sample) (path : String) :
    (contractDistribution (summarize crates (samples.mergeSort (· ≤ ·)))).collectIssues parseF64
      path = [] := by
  have hinOrder : InOrder (summarize crates (samples.mergeSort (· ≤ ·))) := inOrder_summarize hne
  obtain ⟨p50, p95, p99, mean, hp50, hp95, hp99, hmean, hminimum, hle95, hle99, hmaximum, hle,
    hge⟩ := hinOrder
  have hquantile50 : ("p50", 1 / 2) ∈ quantiles := List.mem_cons_self
  have hquantile95 : ("p95", 19 / 20) ∈ quantiles := by simp [quantiles]
  have hquantile99 : ("p99", 99 / 100) ∈ quantiles := by simp [quantiles]
  obtain rfl := Option.some.inj (hp50.symm.trans (summarize_quantile crates _ hquantile50))
  obtain rfl := Option.some.inj (hp95.symm.trans (summarize_quantile crates _ hquantile95))
  obtain rfl := Option.some.inj (hp99.symm.trans (summarize_quantile crates _ hquantile99))
  obtain ⟨deviation, hdeviation, hdeviationNonneg⟩ :=
    summarize_deviation hsqrt (samples.mergeSort (· ≤ ·))
  have hquantiles : (contractDistribution (summarize crates (samples.mergeSort (· ≤ ·)))).quantiles =
      .ofList [("p50", nearestRank (samples.mergeSort (· ≤ ·)) (1 / 2)),
        ("p95", nearestRank (samples.mergeSort (· ≤ ·)) (19 / 20)),
        ("p99", nearestRank (samples.mergeSort (· ≤ ·)) (99 / 100))] _ := rfl
  have hsamples : 0 < (summarize crates (samples.mergeSort (· ≤ ·))).samples := by
    change 0 < (samples.mergeSort (· ≤ ·)).length
    rw [List.length_mergeSort]
    exact List.length_pos_iff.mpr hne
  have hsmallest : 0 ≤ (summarize crates (samples.mergeSort (· ≤ ·))).minimum :=
    hnonneg _ (isRanked_minimum hne).mem
  -- from here on the summary is known by its fields only
  generalize summarize crates (samples.mergeSort (· ≤ ·)) = summary at *
  exact summary_accepted hparse hquantiles hsamples hsmallest hminimum hle95 hle99 hmaximum hmean hle
    hge hdeviation hdeviationNonneg path

/-- The summary of nonnegative samples is in order, passes the validator and is complete for as many
samples. It does not depend on their order; its quantiles are those of the samples, and the first of
them is the median of an odd number. -/
theorem nonnegativeDistribution_accepted {parseF64 : String → Option ℚ}
    (hparse : ReadsPercentiles parseF64)
    (hsqrt : ∀ variance, 0 ≤ variance → 0 ≤ crates.sqrt variance) (hne : samples ≠ [])
    (hnonneg : ∀ sample ∈ samples, 0 ≤ sample) :
    ∃ distribution, nonnegativeDistribution crates samples = .ok distribution ∧
      InOrder distribution ∧
      (∀ path, (contractDistribution distribution).collectIssues parseF64 path = []) ∧
      (∀ phase : PhaseEvidence, phase.latencyMs.all = some distribution →
        latencyComplete phase samples.length = true) ∧
      (∀ samples', samples'.Perm samples →
        nonnegativeDistribution crates samples' = .ok distribution) ∧
      (∀ name probability,
        (name, probability) ∈ [("p50", 50 / 100), ("p95", 95 / 100), ("p99", 99 / 100)] →
        ∃ quantile, distribution.quantiles[name]? = some quantile ∧
          IsQuantile samples probability quantile) ∧
      (Odd samples.length → ∃ range, medianWithRange samples = .ok range ∧
        distribution.quantiles["p50"]? = some range.median) := by
  have hsummary : nonnegativeDistribution crates samples =
      .ok (summarize crates (samples.mergeSort (· ≤ ·))) := by
    rw [nonnegativeDistribution, sortedNonnegative_eq hne hnonneg]
    rfl
  have hinOrder : InOrder (summarize crates (samples.mergeSort (· ≤ ·))) := inOrder_summarize hne
  refine ⟨_, hsummary, hinOrder, summarize_accepted hparse hsqrt hne hnonneg,
    fun phase hphase => ?_, fun samples' hperm => ?_, fun name probability hquantile => ?_, fun hodd => ?_⟩
  · have hcomplete := latencyComplete_of_inOrder hphase hinOrder
    have hlength : (summarize crates (samples.mergeSort (· ≤ ·))).samples = samples.length :=
      List.length_mergeSort _
    rwa [hlength] at hcomplete
  · have hne' : samples' ≠ [] := fun hnil => hne (List.nil_perm.mp (hnil ▸ hperm))
    have hnonneg' : ∀ sample ∈ samples', 0 ≤ sample := fun sample hsample =>
      hnonneg sample (hperm.mem_iff.mp hsample)
    have hsorted : samples'.mergeSort (· ≤ ·) = samples.mergeSort (· ≤ ·) :=
      List.Perm.eq_of_sortedLE List.sortedLE_mergeSort List.sortedLE_mergeSort
        ((List.mergeSort_perm _ _).trans (hperm.trans (List.mergeSort_perm _ _).symm))
    rw [nonnegativeDistribution, sortedNonnegative_eq hne' hnonneg', hsorted]
    rfl
  · have hmem : (name, probability) ∈ quantiles := by
      norm_num at hquantile
      simpa [quantiles] using hquantile
    have hrange : 0 < probability ∧ probability ≤ 1 := by
      simp only [List.mem_cons, Prod.mk.injEq, List.not_mem_nil, or_false] at hquantile
      rcases hquantile with ⟨-, rfl⟩ | ⟨-, rfl⟩ | ⟨-, rfl⟩ <;> norm_num
    exact ⟨_, summarize_quantile crates _ hmem, isQuantile_nearestRank hne hrange.1 hrange.2⟩
  · exact ⟨_, medianWithRange_eq hne hnonneg, nonnegativeDistribution_p50 hsummary hodd⟩

end Summary

theorem nonnegativeDistribution_accepted_three :
    ∃ distribution,
      nonnegativeDistribution Matrix.publisherCrates.toCrates [3, 1, 2] = .ok distribution ∧
        InOrder distribution := by
  have hparse : ReadsPercentiles Matrix.publisherCrates.parseF64 := ⟨rfl, rfl, rfl⟩
  have hsqrt : ∀ variance, 0 ≤ variance → 0 ≤ Matrix.publisherCrates.toCrates.sqrt variance :=
    fun _ hnonneg => hnonneg
  obtain ⟨distribution, hdistribution, hinOrder, -⟩ := nonnegativeDistribution_accepted
    hparse hsqrt (List.cons_ne_nil 3 [1, 2]) (by decide)
  exact ⟨distribution, hdistribution, hinOrder⟩

end CatalogBench.ContractTool
