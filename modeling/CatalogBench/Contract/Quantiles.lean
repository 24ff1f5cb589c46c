import CatalogBench.Contract.Result
import Mathlib.Algebra.Order.Ring.Rat
import Mathlib.Data.List.Pairwise
import Mathlib.Tactic.NormNum

/-!
# The quantiles of an accepted distribution

The validator sorts the quantiles by percentile and compares neighbours. For different percentiles
that makes the values grow; two names of one percentile are compared in one direction only.
-/

set_option linter.all false

namespace CatalogBench.Contract

-- ════════════════════════════════
-- The order of the percentiles
-- ════════════════════════════════

theorem totalLe_trans (a b c : ℚ × ℚ × String) (hab : totalLe a b = true)
    (hbc : totalLe b c = true) : totalLe a c = true := by
  simp only [totalLe, Bool.or_eq_true, Bool.and_eq_true, decide_eq_true_eq] at *
  rcases hab with hab | ⟨hab, hnab⟩ <;> rcases hbc with hbc | ⟨hbc, hnbc⟩
  · exact .inl (hab.trans hbc)
  · exact .inl (hbc ▸ hab)
  · exact .inl (hab ▸ hbc)
  · refine .inr ⟨hab.trans hbc, ?_⟩
    grind

theorem totalLe_total (a b : ℚ × ℚ × String) : (totalLe a b || totalLe b a) = true := by
  simp only [totalLe, Bool.or_eq_true, Bool.and_eq_true, decide_eq_true_eq]
  rcases lt_trichotomy a.1 b.1 with h | h | h
  · exact .inl (.inl h)
  · grind
  · exact .inr (.inl h)

theorem totalLe_le {a b : ℚ × ℚ × String} (h : totalLe a b = true) : a.1 ≤ b.1 := by
  simp only [totalLe, Bool.or_eq_true, Bool.and_eq_true, decide_eq_true_eq] at h
  rcases h with h | ⟨h, -⟩
  · exact h.le
  · exact h.le

/-- Neighbours that grow, and with them all. -/
theorem pairwise_of_quantileOrderIssues {path : String} {entries : List (ℚ × ℚ × String)}
    (h : quantileOrderIssues path entries = []) :
    entries.Pairwise fun left right => left.2.1 ≤ right.2.1 := by
  induction entries with
  | nil => exact List.Pairwise.nil
  | cons entry entries ih =>
    cases entries with
    | nil => exact List.pairwise_singleton _ _
    | cons next rest =>
      rw [quantileOrderIssues, List.append_eq_nil_iff, issueWhen_eq_nil, decide_eq_false_iff_not,
        gt_iff_lt, not_lt] at h
      obtain ⟨hnext, hrest⟩ := List.pairwise_cons.mp (ih h.2)
      refine List.pairwise_cons.mpr ⟨fun other hother => ?_, ih h.2⟩
      rcases List.mem_cons.mp hother with rfl | hother
      · exact h.1
      · exact h.1.trans (hnext other hother)

-- ════════════════════════════════
-- Accepted distributions
-- ════════════════════════════════

/-- The name of the entry denotes the percentile. -/
def Denotes (parseF64 : String → Option ℚ) (distribution : Distribution) (percentile : ℚ)
    (name : String) (value : ℚ) : Prop :=
  distribution.quantiles[name]? = some value ∧ parsePercentile parseF64 name = some percentile

/-- The values are a monotone function of the percentile. -/
def QuantilesMonotone (parseF64 : String → Option ℚ) (distribution : Distribution) : Prop :=
  ∀ (percentile percentile' : ℚ) (name name' : String) (value value' : ℚ),
    Denotes parseF64 distribution percentile name value →
    Denotes parseF64 distribution percentile' name' value' →
    percentile ≤ percentile' → value ≤ value'

/-- No percentile has two names with different values. -/
def OneValueEach (parseF64 : String → Option ℚ) (distribution : Distribution) : Prop :=
  ∀ (percentile : ℚ) (name name' : String) (value value' : ℚ),
    Denotes parseF64 distribution percentile name value →
    Denotes parseF64 distribution percentile name' value' → value = value'

section Accepted

variable {parseF64 : String → Option ℚ} {distribution : Distribution} {path : String}

/-- The quantiles in the order in which the validator compares them. -/
def sortedQuantiles (parseF64 : String → Option ℚ) (distribution : Distribution) :
    List (ℚ × ℚ × String) :=
  (distribution.quantiles.toList.filterMap fun (name, value) =>
    (parsePercentile parseF64 name).map fun percentile =>
      (percentile, value, name)).mergeSort totalLe

theorem mem_sortedQuantiles {percentile value : ℚ} {name : String} :
    (percentile, value, name) ∈ sortedQuantiles parseF64 distribution ↔
      Denotes parseF64 distribution percentile name value := by
  rw [sortedQuantiles, List.mem_mergeSort, List.mem_filterMap, Denotes]
  constructor
  · rintro ⟨⟨other, number⟩, hmem, hentry⟩
    obtain ⟨found, hfound, hentry⟩ := Option.map_eq_some_iff.mp hentry
    cases hentry
    exact ⟨Std.ExtTreeMap.mem_toList_iff_getElem?_eq_some.mp hmem, hfound⟩
  · rintro ⟨hmem, hfound⟩
    refine ⟨(name, value), Std.ExtTreeMap.mem_toList_iff_getElem?_eq_some.mpr hmem, ?_⟩
    simp only [hfound, Option.map_some]

/-- A smaller percentile has no greater value. -/
theorem value_le_of_percentile_lt (h : distribution.collectIssues parseF64 path = [])
    {percentile percentile' value value' : ℚ} {name name' : String}
    (hname : Denotes parseF64 distribution percentile name value)
    (hname' : Denotes parseF64 distribution percentile' name' value')
    (hlt : percentile < percentile') : value ≤ value' := by
  have hvalues : (sortedQuantiles parseF64 distribution).Pairwise fun left right =>
      left.2.1 ≤ right.2.1 := by
    simp only [Distribution.collectIssues, List.append_eq_nil_iff] at h
    exact pairwise_of_quantileOrderIssues h.2
  have hsorted : (sortedQuantiles parseF64 distribution).Pairwise fun left right =>
      totalLe left right = true :=
    List.pairwise_mergeSort totalLe_trans totalLe_total _
  let Ordered (left right : ℚ × ℚ × String) : Prop :=
    (left.1 < right.1 → left.2.1 ≤ right.2.1) ∧ (right.1 < left.1 → right.2.1 ≤ left.2.1)
  have hsymm : Std.Symm Ordered := ⟨fun _ _ hordered => hordered.symm⟩
  have hordered : (sortedQuantiles parseF64 distribution).Pairwise Ordered :=
    (hsorted.and hvalues).imp fun hpair =>
      ⟨fun _ => hpair.2, fun hgt => absurd (totalLe_le hpair.1) (not_le.mpr hgt)⟩
  have hrefl : ∀ entry ∈ sortedQuantiles parseF64 distribution, Ordered entry entry :=
    fun _ _ => ⟨fun _ => le_rfl, fun _ => le_rfl⟩
  exact (List.Pairwise.forall_of_forall hrefl hordered (mem_sortedQuantiles.mpr hname)
    (mem_sortedQuantiles.mpr hname')).1 hlt

/-- The quantiles of an accepted distribution are a monotone function of the percentile if and only
if no percentile has two names with different values. -/
theorem quantiles_monotone_iff (h : distribution.collectIssues parseF64 path = []) :
    QuantilesMonotone parseF64 distribution ↔ OneValueEach parseF64 distribution := by
  constructor
  · intro hmonotone percentile name name' value value' hname hname'
    exact le_antisymm (hmonotone _ _ _ _ _ _ hname hname' le_rfl)
      (hmonotone _ _ _ _ _ _ hname' hname le_rfl)
  · intro hone percentile percentile' name name' value value' hname hname' hle
    rcases hle.lt_or_eq with hlt | rfl
    · exact value_le_of_percentile_lt h hname hname' hlt
    · exact (hone _ _ _ _ _ hname hname').le

end Accepted

-- ════════════════════════════════
-- Summaries by three percentiles
-- ════════════════════════════════

/-- The three percentiles of a summary are read as what their names say. -/
structure ReadsPercentiles (parseF64 : String → Option ℚ) : Prop where
  p50 : parseF64 "50" = some 50
  p95 : parseF64 "95" = some 95
  p99 : parseF64 "99" = some 99

theorem parsePercentile_eq {parseF64 : String → Option ℚ} {digits : List Char} {value : ℚ}
    (h : parseF64 (String.ofList digits) = some value) (hnonneg : 0 ≤ value) (hle : value ≤ 100) :
    parsePercentile parseF64 (String.ofList ('p' :: digits)) = some value := by
  simp [parsePercentile, h, hnonneg, hle]

/-- A summary whose numbers are in order is accepted. -/
theorem summary_accepted {parseF64 : String → Option ℚ} (hparse : ReadsPercentiles parseF64)
    {distribution : Distribution} {p50 p95 p99 mean deviation : ℚ}
    (hquantiles : distribution.quantiles = .ofList [("p50", p50), ("p95", p95), ("p99", p99)] _)
    (hsamples : 0 < distribution.samples) (hminimum : 0 ≤ distribution.minimum)
    (hp50 : distribution.minimum ≤ p50) (hp95 : p50 ≤ p95) (hp99 : p95 ≤ p99)
    (hmaximum : p99 ≤ distribution.maximum) (hmean : distribution.mean = some mean)
    (hle : distribution.minimum ≤ mean) (hge : mean ≤ distribution.maximum)
    (hdeviation : distribution.standardDeviation = some deviation) (hnonneg : 0 ≤ deviation)
    (path : String) : distribution.collectIssues parseF64 path = [] := by
  have hfifty : parsePercentile parseF64 "p50" = some 50 :=
    parsePercentile_eq hparse.p50 (by norm_num) (by norm_num)
  have hninetyFive : parsePercentile parseF64 "p95" = some 95 :=
    parsePercentile_eq hparse.p95 (by norm_num) (by norm_num)
  have hninetyNine : parsePercentile parseF64 "p99" = some 99 :=
    parsePercentile_eq hparse.p99 (by norm_num) (by norm_num)
  have hlist : distribution.quantiles.toList = [("p50", p50), ("p95", p95), ("p99", p99)] := by
    rw [hquantiles]
    rfl
  have hsorted : List.mergeSort [((50 : ℚ), p50, "p50"), (95, p95, "p95"), (99, p99, "p99")]
      totalLe = [(50, p50, "p50"), (95, p95, "p95"), (99, p99, "p99")] := by
    refine List.mergeSort_of_pairwise ?_
    norm_num [List.pairwise_cons, totalLe]
  have hfinite (number : ℚ) (path : String) (h : 0 ≤ number) :
      requireFiniteNonNegative number path = [] := by
    rw [requireFiniteNonNegative, issueWhen_eq_nil, decide_eq_false_iff_not]
    exact not_lt.mpr h
  simp only [Distribution.collectIssues, hlist, List.flatMap_cons, List.flatMap_nil, hfifty,
    hninetyFive, hninetyNine, List.filterMap_cons, List.filterMap_nil, Option.map_some, hsorted,
    hmean, hdeviation, whenSome, Option.getD_some, quantileOrderIssues, List.append_eq_nil_iff,
    issueWhen_eq_nil]
  have h95 := hp50.trans hp95
  have h99 := h95.trans hp99
  have hmax95 := hp99.trans hmaximum
  have hmax50 := hp95.trans hmax95
  have hrange := hp50.trans hmax50
  simp only [hfinite _ _ hminimum, hfinite _ _ (hminimum.trans hrange),
    hfinite _ _ (hminimum.trans hle), hfinite _ _ hnonneg, hfinite _ _ (hminimum.trans hp50),
    hfinite _ _ (hminimum.trans h95), hfinite _ _ (hminimum.trans h99), Bool.or_eq_false_iff,
    decide_eq_false_iff_not, gt_iff_lt, not_lt, and_true, hrange, hle, hge, hp50, hp95,
    hp99, h95, h99, hmaximum, hmax95, hmax50]
  exact hsamples.ne'

-- ════════════════════════════════
-- Two names of the median
-- ════════════════════════════════

def medianTexts (text : String) : Option ℚ :=
  if text = "50" ∨ text = "50.0" then some 50 else none

/-- A distribution with two medians. -/
def twoMedians : Distribution where
  samples := 3
  minimum := 1
  maximum := 4
  mean := none
  standardDeviation := none
  quantiles := .ofList [("p50", 2), ("p50.0", 3)] _

theorem twoMedians_accepted : twoMedians.collectIssues medianTexts "$" = [] := by
  have hlist : twoMedians.quantiles.toList = [("p50", 2), ("p50.0", 3)] := by rfl
  have hp50 : parsePercentile medianTexts "p50" = some 50 := by decide
  have hother : parsePercentile medianTexts "p50.0" = some 50 := by decide
  have hsorted : List.mergeSort [((50 : ℚ), (2 : ℚ), "p50"), (50, 3, "p50.0")] totalLe =
      [(50, 2, "p50"), (50, 3, "p50.0")] :=
    List.mergeSort_of_pairwise (by decide)
  simp only [Distribution.collectIssues, hlist, List.flatMap_cons, List.flatMap_nil, hp50, hother,
    List.filterMap_cons, List.filterMap_nil, Option.map_some, hsorted]
  decide

/-- The smaller of its medians is the value of the later name, too. -/
theorem twoMedians_not_monotone :
    twoMedians.collectIssues medianTexts "$" = [] ∧ ¬QuantilesMonotone medianTexts twoMedians := by
  refine ⟨twoMedians_accepted, fun hmonotone => ?_⟩
  have hp50 : Denotes medianTexts twoMedians 50 "p50" 2 := ⟨by decide, by decide⟩
  have hother : Denotes medianTexts twoMedians 50 "p50.0" 3 := ⟨by decide, by decide⟩
  exact absurd (hmonotone _ _ _ _ _ _ hother hp50 le_rfl) (by decide)

theorem quantiles_monotone_iff_twoMedians :
    QuantilesMonotone medianTexts twoMedians ↔ OneValueEach medianTexts twoMedians :=
  quantiles_monotone_iff twoMedians_accepted

end CatalogBench.Contract
