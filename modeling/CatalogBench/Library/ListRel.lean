import Mathlib.Data.List.Forall2
import Mathlib.Tactic.Common

/-!
# Lists related element by element

What a relation between the elements of two lists says about the lists, and where such a relation
comes from.
-/

set_option linter.all false

namespace ListRel

theorem forall₂_mem_right {α β : Type} {R : α → β → Prop} {as : List α} {bs : List β} {b : β}
    (h : List.Forall₂ R as bs) (hb : b ∈ bs) : ∃ a ∈ as, R a b := by
  induction h with
  | nil => cases hb
  | @cons a _ as _ hhead _ ih =>
    rcases List.mem_cons.mp hb with rfl | hb
    · exact ⟨a, List.mem_cons_self, hhead⟩
    · obtain ⟨a', ha', hab⟩ := ih hb
      exact ⟨a', List.mem_cons_of_mem _ ha', hab⟩

theorem forall₂_mem_left {α β : Type} {R : α → β → Prop} {as : List α} {bs : List β} {a : α}
    (h : List.Forall₂ R as bs) (ha : a ∈ as) : ∃ b ∈ bs, R a b := by
  induction h with
  | nil => cases ha
  | @cons _ b _ bs hhead _ ih =>
    rcases List.mem_cons.mp ha with rfl | ha
    · exact ⟨b, List.mem_cons_self, hhead⟩
    · obtain ⟨b', hb', hab⟩ := ih ha
      exact ⟨b', List.mem_cons_of_mem _ hb', hab⟩

theorem forall₂_map_eq {α β γ : Type} {R : α → β → Prop} {key : β → γ} {key' : α → γ}
    {as : List α} {bs : List β} (h : List.Forall₂ R as bs)
    (hkey : ∀ a b, R a b → key b = key' a) : bs.map key = as.map key' := by
  induction h with
  | nil => rfl
  | cons hhead _ ih => rw [List.map_cons, List.map_cons, hkey _ _ hhead, ih]

theorem forall₂_filterMap_eq {α β γ : Type} {R : α → β → Prop} {f : α → Option γ} {g : β → γ}
    {as : List α} {bs : List β} (h : List.Forall₂ R as bs)
    (hfg : ∀ a b, R a b → f a = some (g b)) : as.filterMap f = bs.map g := by
  induction h with
  | nil => rfl
  | cons hhead _ ih => rw [List.filterMap_cons_some (hfg _ _ hhead), List.map_cons, ih]

/-- A list read in two steps and in one, where the two ways agree on every element. -/
theorem forall₂_two_ways {α β γ : Type} {R : α → β → Prop} {S : β → γ → Prop} {T : α → γ → Prop}
    (hagree : ∀ a b c d, R a b → S b c → T a d → c = d) {as : List α} {bs : List β}
    {cs ds : List γ} (hR : List.Forall₂ R as bs) (hS : List.Forall₂ S bs cs)
    (hT : List.Forall₂ T as ds) : cs = ds := by
  induction hR generalizing cs ds with
  | nil => cases hS; cases hT; rfl
  | cons hab _ ih =>
    cases hS with
    | cons hbc hS =>
      cases hT with
      | cons had hT => rw [hagree _ _ _ _ hab hbc had, ih hS hT]

/-- Two views of elements that tell the same apart tell the same lists apart. -/
theorem map_eq_map_iff {α β γ : Type} {f : α → β} {g : α → γ} {as bs : List α}
    (h : ∀ a ∈ as, ∀ b ∈ bs, f a = f b ↔ g a = g b) :
    as.map f = bs.map f ↔ as.map g = bs.map g := by
  induction as generalizing bs with
  | nil => simp [eq_comm]
  | cons a as ih =>
    cases bs with
    | nil => simp
    | cons b bs =>
      have htail := @ih bs fun a' ha' b' hb' =>
        h a' (List.mem_cons_of_mem _ ha') b' (List.mem_cons_of_mem _ hb')
      simp only [List.map_cons, List.cons.injEq, htail,
        h a List.mem_cons_self b List.mem_cons_self]

/-- Computations that agree on every element agree on the list. -/
theorem mapM_congr {m : Type → Type} [Monad m] [LawfulMonad m] {α β : Type} {f g : α → m β}
    {l : List α} (h : ∀ a ∈ l, f a = g a) : l.mapM f = l.mapM g := by
  induction l with
  | nil => rfl
  | cons a l ih =>
    rw [List.mapM_cons, List.mapM_cons, h a List.mem_cons_self,
      ih fun a' ha' => h a' (List.mem_cons_of_mem _ ha')]

theorem mapM_flatMap {m : Type → Type} [Monad m] [LawfulMonad m] {α β γ : Type} {f : α → List β}
    {g : β → m γ} {l : List α} :
    (l.flatMap f).mapM g = List.flatten <$> l.mapM fun a => (f a).mapM g := by
  induction l with
  | nil => simp
  | cons a l ih =>
    rw [List.flatMap_cons, List.mapM_append, ih, List.mapM_cons]
    simp

theorem option_mapM_forall₂ {α β : Type} {f : α → Option β} {l : List α} {out : List β}
    (h : l.mapM f = some out) : List.Forall₂ (fun a b => f a = some b) l out := by
  induction l generalizing out with
  | nil => cases h; exact .nil
  | cons a l ih =>
    rw [List.mapM_cons] at h
    obtain ⟨b, hb, h⟩ := Option.bind_eq_some_iff.mp h
    obtain ⟨rest, hrest, h⟩ := Option.bind_eq_some_iff.mp h
    cases h
    exact .cons hb (ih hrest)

theorem option_mapM_eq_some_iff {α β : Type} {f : α → Option β} {l : List α} {out : List β} :
    l.mapM f = some out ↔ List.Forall₂ (fun a b => f a = some b) l out := by
  refine ⟨option_mapM_forall₂, fun h => ?_⟩
  induction h with
  | nil => rfl
  | cons hhead _ ih =>
    rw [List.mapM_cons, hhead, ih]
    rfl

/-- An entry of a list without repeated keys is what its key is looked up to. -/
theorem lookup_eq_some_iff {α : Type} {entries : List (String × α)}
    (hdistinct : (entries.map Prod.fst).Nodup) {key : String} {value : α} :
    entries.lookup key = some value ↔ (key, value) ∈ entries := by
  induction entries with
  | nil => simp
  | cons entry entries ih =>
    obtain ⟨key', value'⟩ := entry
    obtain ⟨hfresh, hdistinct⟩ := List.nodup_cons.mp hdistinct
    by_cases hkey : key = key'
    · subst hkey
      have habsent : (key, value) ∉ entries := fun hmem =>
        hfresh (List.mem_map.mpr ⟨_, hmem, rfl⟩)
      simp [habsent, eq_comm]
    · rw [List.lookup_cons, beq_false_of_ne hkey, ih hdistinct]
      simp [hkey]

end ListRel
