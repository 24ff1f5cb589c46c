import CatalogBench.Commit.Policy

/-!
# Schedules

The rounds of a plan are rotations of its catalogs, so over as many consecutive measured rounds
as there are catalogs every catalog has every turn once.
-/

set_option linter.all false

namespace CatalogBench.Commit
open MachineInt Interaction CatalogBench.Contract Rotation

@[simp] theorem rejectWhen_eq_ok {violated : Bool} {message : String} {done : Unit} :
    rejectWhen violated message = .ok done ↔ violated = false := by
  cases violated <;> simp [rejectWhen]

@[simp] theorem requireSome_eq_ok {α : Type} {value : Option α} {message : String} {found : α} :
    requireSome value message = .ok found ↔ value = some found := by
  cases value <;> simp [requireSome]

-- ════════════════════════════════
-- Rounds
-- ════════════════════════════════

section Rounds

variable {catalogs : List CatalogRun} {policy : RoundPolicy}

/-- The catalogs of a round are rotated by its index. -/
theorem scheduledRound_catalogs (catalogs : List CatalogRun) (policy : RoundPolicy) (index : ℕ) :
    (scheduledRound catalogs policy index).catalogs = catalogs.rotate index := by
  by_cases hempty : catalogs = []
  · simp [scheduledRound, hempty]
  · have hlt : index % catalogs.length < catalogs.length :=
      Nat.mod_lt _ (List.length_pos_iff.mpr hempty)
    rw [scheduledRound, ← List.rotate_mod, List.rotate_eq_drop_append_take hlt.le]

theorem scheduledRound_perm (index : ℕ) :
    (scheduledRound catalogs policy index).catalogs.Perm catalogs := by
  rw [scheduledRound_catalogs]
  exact List.rotate_perm catalogs index

theorem scheduleRounds_eq_ok {rounds : List RoundPlan} :
    scheduleRounds catalogs policy = .ok rounds ↔
      catalogs ≠ [] ∧ policy.conditioningRounds + policy.measuredRounds < 2 ^ 32 ∧
        rounds = (List.range (policy.conditioningRounds + policy.measuredRounds)).map
          (scheduledRound catalogs policy) := by
  constructor
  · intro h
    obtain ⟨hempty, h⟩ := except_seq_eq_ok.mp h
    obtain ⟨total, htotal, h⟩ := except_bind_eq_ok.mp h
    cases h
    obtain ⟨rfl, hlt⟩ := checkedAdd_eq_some.mp (requireSome_eq_ok.mp htotal)
    exact ⟨by simpa using hempty, hlt, rfl⟩
  · rintro ⟨hempty, hlt, rfl⟩
    refine except_seq_eq_ok.mpr ⟨by simpa using hempty, ?_⟩
    exact except_bind_eq_ok.mpr ⟨_, requireSome_eq_ok.mpr (checkedAdd_of_lt hlt), rfl⟩

theorem validateRounds_eq_ok (h : validateRounds policy = .ok ()) :
    0 < policy.conditioningRounds ∧ 0 < policy.measuredRounds ∧
      policy.conditioningRounds + policy.measuredRounds < 2 ^ 32 := by
  obtain ⟨hpositive, h⟩ := except_seq_eq_ok.mp h
  obtain ⟨total, htotal, -⟩ := except_bind_eq_ok.mp h
  obtain ⟨-, hlt⟩ := checkedAdd_eq_some.mp (requireSome_eq_ok.mp htotal)
  simp only [rejectWhen_eq_ok, Bool.or_eq_false_iff, decide_eq_false_iff_not] at hpositive
  exact ⟨Nat.pos_of_ne_zero hpositive.1, Nat.pos_of_ne_zero hpositive.2, hlt⟩

/-- The catalog has the turn at `position`. -/
def hasTurn (catalog : CatalogRun) (position : ℕ) (round : RoundPlan) : Bool :=
  round.catalogs[position]? = some catalog

/-- The measured rounds with the numbers of a window, as rotations. -/
theorem countP_hasTurn (catalog : CatalogRun) (position start count : ℕ) :
    ((List.range' start count).map (scheduledRound catalogs policy)).countP
        (hasTurn catalog position) =
      (List.range' start count).countP (standsAt catalogs catalog position) := by
  rw [List.countP_map]
  refine List.countP_congr fun index _ => ?_
  rw [Function.comp_apply, hasTurn, scheduledRound_catalogs, standsAt]

theorem range_append (a b : ℕ) : List.range (a + b) = List.range a ++ List.range' a b := by
  rw [List.range_eq_range', List.range_eq_range', ← List.range'_append_1, Nat.zero_add]

/-- A window of consecutive rounds is the schedule of a window of numbers. -/
theorem drop_take_schedule {total start count : ℕ} (hfits : start + count ≤ total) :
    (((List.range total).map (scheduledRound catalogs policy)).drop start).take count =
      (List.range' start count).map (scheduledRound catalogs policy) := by
  obtain ⟨rest, rfl⟩ := Nat.exists_eq_add_of_le hfits
  rw [← List.map_drop, ← List.map_take, Nat.add_assoc, range_append,
    List.drop_left' List.length_range, ← List.range'_append_1, List.take_left' List.length_range']

/-- The conditioning rounds come first. -/
theorem schedule_eq_append :
    (List.range (policy.conditioningRounds + policy.measuredRounds)).map
        (scheduledRound catalogs policy) =
      (List.range policy.conditioningRounds).map (scheduledRound catalogs policy) ++
        (List.range' policy.conditioningRounds policy.measuredRounds).map
          (scheduledRound catalogs policy) := by
  rw [range_append, List.map_append]

theorem kind_conditioning {round : RoundPlan} (h : round ∈
    (List.range policy.conditioningRounds).map (scheduledRound catalogs policy)) :
    round.kind = .conditioning := by
  obtain ⟨index, hindex, rfl⟩ := List.mem_map.mp h
  simp [scheduledRound, List.mem_range.mp hindex]

theorem kind_measured {round : RoundPlan} (h : round ∈
    (List.range' policy.conditioningRounds policy.measuredRounds).map
      (scheduledRound catalogs policy)) : round.kind = .measured := by
  obtain ⟨index, hindex, rfl⟩ := List.mem_map.mp h
  have hle := (List.mem_range'_1.mp hindex).1
  simp [scheduledRound, Nat.not_lt.mpr hle]

theorem kinds_schedule :
    ((List.range (policy.conditioningRounds + policy.measuredRounds)).map
        (scheduledRound catalogs policy)).map (·.kind) =
      List.replicate policy.conditioningRounds .conditioning ++
        List.replicate policy.measuredRounds .measured := by
  rw [schedule_eq_append, List.map_append]
  congr 1
  · refine List.eq_replicate_iff.mpr ⟨by simp, List.forall_mem_map.mpr fun round hround => ?_⟩
    exact kind_conditioning hround
  · refine List.eq_replicate_iff.mpr ⟨by simp, List.forall_mem_map.mpr fun round hround => ?_⟩
    exact kind_measured hround

theorem filter_measured :
    ((List.range (policy.conditioningRounds + policy.measuredRounds)).map
        (scheduledRound catalogs policy)).filter (·.kind = .measured) =
      (List.range' policy.conditioningRounds policy.measuredRounds).map
        (scheduledRound catalogs policy) := by
  have hfirst : ((List.range policy.conditioningRounds).map
      (scheduledRound catalogs policy)).filter (·.kind = .measured) = [] :=
    List.filter_eq_nil_iff.mpr fun round hround => by simp [kind_conditioning hround]
  have hlast : ((List.range' policy.conditioningRounds policy.measuredRounds).map
      (scheduledRound catalogs policy)).filter (·.kind = .measured) =
      (List.range' policy.conditioningRounds policy.measuredRounds).map
        (scheduledRound catalogs policy) :=
    List.filter_eq_self.mpr fun round hround => by simp [kind_measured hround]
  rw [schedule_eq_append, List.filter_append, hfirst, hlast, List.nil_append]

/-- **Balance of the schedule.** The rounds are numbered from one, the conditioning rounds come
first, and each is a permutation of the catalogs. Over as many consecutive measured rounds as
there are catalogs every catalog has every turn once; over `k` times as many, `k` times. -/
theorem scheduleRounds_balanced (hne : catalogs ≠ []) (hnodup : catalogs.Nodup)
    (hpolicy : validateRounds policy = .ok ()) :
    ∃ rounds, scheduleRounds catalogs policy = .ok rounds ∧
      rounds.map (·.repetition) =
        List.range' 1 (policy.conditioningRounds + policy.measuredRounds) ∧
      rounds.map (·.kind) = List.replicate policy.conditioningRounds .conditioning ++
        List.replicate policy.measuredRounds .measured ∧
      (∀ round ∈ rounds, round.catalogs.Perm catalogs) ∧
      ∀ catalog ∈ catalogs, ∀ position < catalogs.length,
        (∀ start, policy.conditioningRounds ≤ start →
          start + catalogs.length ≤ policy.conditioningRounds + policy.measuredRounds →
          ((rounds.drop start).take catalogs.length).countP (hasTurn catalog position) = 1) ∧
        ∀ k, policy.measuredRounds = k * catalogs.length →
          (rounds.filter (·.kind = .measured)).countP (hasTurn catalog position) = k := by
  obtain ⟨-, -, hlt⟩ := validateRounds_eq_ok hpolicy
  refine ⟨_, scheduleRounds_eq_ok.mpr ⟨hne, hlt, rfl⟩, ?_, kinds_schedule, ?_, ?_⟩
  · rw [List.map_map, List.range'_eq_map_range]
    refine List.map_congr_left fun index _ => ?_
    simp [scheduledRound, Nat.add_comm]
  · intro round hround
    obtain ⟨index, -, rfl⟩ := List.mem_map.mp hround
    exact scheduledRound_perm index
  · intro catalog hcatalog position hposition
    refine ⟨?_, ?_⟩
    · intro start _ hfits
      rw [drop_take_schedule hfits, countP_hasTurn]
      exact countP_standsAt_window hnodup hcatalog hposition start
    · intro k hk
      rw [filter_measured, countP_hasTurn, hk]
      exact countP_standsAt_windows hnodup hcatalog hposition _ k

/-- With two catalogs and two measured rounds each catalog goes first once. -/
theorem scheduleRounds_balanced_two : ∃ rounds,
    scheduleRounds [⟨"polaris", "Polaris", "1.5"⟩, ⟨"nessie", "Nessie", "0.104"⟩]
        ⟨1, 2, .rotateLeft, .medianWithMinMax, true⟩ = .ok rounds ∧
      (rounds.filter (·.kind = .measured)).countP (hasTurn ⟨"nessie", "Nessie", "0.104"⟩ 0) =
        1 := by
  obtain ⟨rounds, hrounds, -, -, -, hbalance⟩ :=
    @scheduleRounds_balanced [⟨"polaris", "Polaris", "1.5"⟩, ⟨"nessie", "Nessie", "0.104"⟩]
      ⟨1, 2, .rotateLeft, .medianWithMinMax, true⟩ (by decide) (by decide) rfl
  exact ⟨rounds, hrounds, (hbalance _ (by decide) 0 (by decide)).2 1 rfl⟩

end Rounds

end CatalogBench.Commit
