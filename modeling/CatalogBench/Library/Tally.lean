import Mathlib.Data.List.Dedup
import Mathlib.Algebra.BigOperators.Group.List.Lemmas
import Mathlib.Tactic.Common
import Mathlib.Algebra.Order.Group.Nat
import Mathlib.Algebra.GroupWithZero.Nat

/-!
# Counting with an ordered map

A map from keys to counts tallies a list if it holds every key of the list with the number of
its occurrences and no other key. Such a map is determined by the list up to permutation, and
its counts add up to the length of the list.
-/

set_option linter.all false

namespace Tally

open Std

variable {α : Type*} {cmp : α → α → Ordering} [TransCmp cmp] [DecidableEq α]

/-- Count `k` once more. -/
def count (m : ExtTreeMap α ℕ cmp) (k : α) : ExtTreeMap α ℕ cmp := m.insert k (m.getD k 0 + 1)

/-- Add the counts of `kvs` to those of `m`, one key after the other. -/
def addAll (m : ExtTreeMap α ℕ cmp) (kvs : List (α × ℕ)) : ExtTreeMap α ℕ cmp :=
  kvs.foldl (fun m kv => m.insert kv.1 (m.getD kv.1 0 + kv.2)) m

/-- The map `m` counts the occurrences in `l`. -/
def Tallies (m : ExtTreeMap α ℕ cmp) (l : List α) : Prop :=
  ∀ k, m[k]? = if k ∈ l then some (l.count k) else none

section Tallies

variable {m m' : ExtTreeMap α ℕ cmp} {l l' : List α}

theorem tallies_empty : Tallies (∅ : ExtTreeMap α ℕ cmp) [] := by
  intro k
  simp

theorem Tallies.getD_eq (h : Tallies m l) (k : α) : m.getD k 0 = l.count k := by
  have hk := h k
  rw [ExtTreeMap.getD_eq_getD_getElem?, hk]
  by_cases hmem : k ∈ l
  · simp [hmem]
  · simp [hmem, List.count_eq_zero_of_not_mem hmem]

theorem Tallies.perm (h : Tallies m l) (hp : l.Perm l') : Tallies m l' := by
  intro k
  rw [h k, hp.count_eq]
  simp only [hp.mem_iff]

variable [LawfulEqCmp cmp]

theorem Tallies.unique (h : Tallies m l) (h' : Tallies m' l) : m = m' := by
  apply ExtTreeMap.ext_getElem?
  intro k
  rw [h k, h' k]

theorem Tallies.count (h : Tallies m l) (k : α) : Tallies (count m k) (l ++ [k]) := by
  intro k'
  have hd := h.getD_eq k
  rw [Tally.count, ExtTreeMap.getElem?_insert]
  by_cases hk : k = k'
  · subst hk
    simp [hd]
  · have hcmp : cmp k k' ≠ .eq := fun heq => hk (LawfulEqCmp.eq_of_compare heq)
    rw [if_neg hcmp, h k']
    simp [Ne.symm hk, hk]

/-- What `addAll` does to one key, if every key is added once. -/
theorem getElem?_addAll (kvs : List (α × ℕ)) (hd : (kvs.map Prod.fst).Nodup)
    (m : ExtTreeMap α ℕ cmp) (k : α) :
    (addAll m kvs)[k]? =
      match kvs.find? (·.1 = k) with
      | some kv => some (m.getD k 0 + kv.2)
      | none => m[k]? := by
  induction kvs generalizing m with
  | nil => rfl
  | cons kv kvs ih =>
    rw [List.map_cons, List.nodup_cons] at hd
    have hrest := ih hd.2 (m.insert kv.1 (m.getD kv.1 0 + kv.2))
    rw [addAll, List.foldl_cons, ← addAll, hrest]
    by_cases hk : kv.1 = k
    · -- the key was just added, so it is not among the remaining ones
      subst hk
      have hnone : kvs.find? (fun kv' => kv'.1 = kv.1) = none := by
        rw [List.find?_eq_none]
        intro kv' hmem heq
        exact hd.1 (List.mem_map.mpr ⟨kv', hmem, by simpa using heq⟩)
      simp [hnone]
    · have hcmp : cmp kv.1 k ≠ .eq := fun heq => hk (LawfulEqCmp.eq_of_compare heq)
      have hget : (m.insert kv.1 (m.getD kv.1 0 + kv.2))[k]? = m[k]? := by
        rw [ExtTreeMap.getElem?_insert, if_neg hcmp]
      have hgetD : (m.insert kv.1 (m.getD kv.1 0 + kv.2)).getD k 0 = m.getD k 0 := by
        rw [ExtTreeMap.getD_insert, if_neg hcmp]
      simp only [List.find?_cons, decide_eq_false hk, hget, hgetD]

omit [DecidableEq α] in
theorem nodup_keys (m : ExtTreeMap α ℕ cmp) : (m.toList.map Prod.fst).Nodup := by
  have hdistinct : m.toList.Pairwise fun a b => ¬cmp a.1 b.1 = .eq :=
    ExtTreeMap.distinct_keys_toList
  rw [List.Nodup, List.pairwise_map]
  refine hdistinct.imp ?_
  intro a b hab heq
  exact hab (heq ▸ ReflCmp.compare_self)

theorem find?_toList (m : ExtTreeMap α ℕ cmp) (k : α) :
    m.toList.find? (·.1 = k) = m[k]?.map fun n => (k, n) := by
  cases hk : m[k]? with
  | none =>
    rw [Option.map_none, List.find?_eq_none]
    rintro ⟨k', n⟩ hmem heq
    obtain rfl : k' = k := by simpa using heq
    rw [ExtTreeMap.mem_toList_iff_getElem?_eq_some, hk] at hmem
    cases hmem
  | some n =>
    have hmem : (k, n) ∈ m.toList := ExtTreeMap.mem_toList_iff_getElem?_eq_some.mpr hk
    rw [Option.map_some]
    cases hfind : m.toList.find? (·.1 = k) with
    | none => simpa using List.find?_eq_none.mp hfind _ hmem
    | some kv =>
      obtain rfl : kv.1 = k := by simpa using List.find?_some hfind
      have hkv := ExtTreeMap.mem_toList_iff_getElem?_eq_some.mp (List.mem_of_find?_eq_some hfind)
      rw [hk] at hkv
      rw [Option.some.inj hkv]

/-- Adding one tally to another tallies both lists. -/
theorem Tallies.addAll (h : Tallies m l) (h' : Tallies m' l') :
    Tallies (addAll m m'.toList) (l ++ l') := by
  intro k
  rw [getElem?_addAll _ (nodup_keys m'), find?_toList, h' k, h.getD_eq k]
  by_cases hl' : k ∈ l'
  · simp [hl']
  · by_cases hl : k ∈ l
    · simp [hl', hl, h k, List.count_eq_zero_of_not_mem hl']
    · simp [hl', hl, h k]

/-- The counts add up to the number of things counted. -/
theorem Tallies.sum (h : Tallies m l) : (m.toList.map Prod.snd).sum = l.length := by
  have hvalues : m.toList.map Prod.snd = (m.toList.map Prod.fst).map fun k => l.count k := by
    rw [List.map_map]
    apply List.map_congr_left
    rintro ⟨k, n⟩ hmem
    rw [ExtTreeMap.mem_toList_iff_getElem?_eq_some, h k] at hmem
    split at hmem
    · exact (Option.some.inj hmem).symm
    · cases hmem
  have hkeys : (m.toList.map Prod.fst).Perm l.dedup := by
    rw [List.perm_ext_iff_of_nodup (nodup_keys m) (List.nodup_dedup l)]
    intro k
    rw [List.mem_dedup, List.mem_map]
    constructor
    · rintro ⟨⟨k', n⟩, hmem, rfl⟩
      rw [ExtTreeMap.mem_toList_iff_getElem?_eq_some, h k'] at hmem
      by_contra hnot
      simp [hnot] at hmem
    · intro hmem
      refine ⟨(k, l.count k), ?_, rfl⟩
      rw [ExtTreeMap.mem_toList_iff_getElem?_eq_some, h k, if_pos hmem]
  rw [hvalues, (hkeys.map _).sum_eq, List.sum_map_count_dedup_eq_length]

end Tallies

end Tally
