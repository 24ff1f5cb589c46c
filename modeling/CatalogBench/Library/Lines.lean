import CatalogBench.Library.LineReader

/-!
# Terminated lines

A text whose lines are each closed by a separator is the same as the list of its lines.
-/

set_option linter.all false

namespace Lines

variable {β : Type*} [DecidableEq β] {sep : β}

/-- The lines, each closed by the separator. -/
def terminated (sep : β) (lines : List (List β)) : List β := lines.flatMap (· ++ [sep])

omit [DecidableEq β] in
@[simp] theorem terminated_nil : terminated sep [] = [] := rfl

omit [DecidableEq β] in
theorem terminated_cons (line : List β) (lines : List (List β)) :
    terminated sep (line :: lines) = line ++ [sep] ++ terminated sep lines := rfl

omit [DecidableEq β] in
theorem terminated_append (lines lines' : List (List β)) :
    terminated sep (lines ++ lines') = terminated sep lines ++ terminated sep lines' :=
  List.flatMap_append

omit [DecidableEq β] in
theorem terminated_eq_nil {lines : List (List β)} : terminated sep lines = [] ↔ lines = [] := by
  constructor
  · intro h
    cases lines with
    | nil => rfl
    | cons line lines => simp [terminated_cons] at h
  · rintro rfl
    rfl

/-- The text of lines without separators determines them. -/
theorem terminated_injective {a b : List (List β)} (ha : ∀ line ∈ a, sep ∉ line)
    (hb : ∀ line ∈ b, sep ∉ line) (h : terminated sep a = terminated sep b) : a = b := by
  have hsplit := congrArg (List.splitOn sep) h
  rw [terminated, terminated, List.splitOn_flatMap_terminated ha,
    List.splitOn_flatMap_terminated hb] at hsplit
  exact List.append_cancel_right hsplit

theorem notMem_of_mem_splitOn {text line : List β} (h : line ∈ text.splitOn sep) : sep ∉ line := by
  induction text generalizing line with
  | nil =>
    rw [List.splitOn_nil, List.mem_singleton] at h
    rw [h]
    exact List.not_mem_nil
  | cons symbol text ih =>
    rw [List.splitOn_cons_eq_if_modifyHead] at h
    split at h
    · rcases List.mem_cons.mp h with rfl | hmem
      · exact List.not_mem_nil
      · exact ih hmem
    · next hne =>
      obtain ⟨first, rest, hlines⟩ := List.exists_cons_of_ne_nil (List.splitOn_ne_nil sep text)
      rw [hlines, List.modifyHead_cons] at h
      rw [hlines] at ih
      rcases List.mem_cons.mp h with rfl | hmem
      · intro hsep
        rcases List.mem_cons.mp hsep with rfl | hfirst
        · exact hne (beq_self_eq_true _)
        · exact ih List.mem_cons_self hfirst
      · exact ih (List.mem_cons_of_mem _ hmem)

/-- A closed text is that of its lines. -/
theorem terminated_splitOn (body : List β) : terminated sep (body.splitOn sep) = body ++ [sep] := by
  have hlines : ∀ lines : List (List β), lines ≠ [] →
      terminated sep lines = [sep].intercalate lines ++ [sep] := by
    intro lines hne
    induction lines with
    | nil => exact absurd rfl hne
    | cons line lines ih =>
      by_cases hnil : lines = []
      · rw [hnil, List.intercalate_singleton]
        exact List.append_nil _
      · rw [terminated_cons, List.intercalate_cons_of_ne_nil hnil, ih hnil]
        simp
  rw [hlines _ (List.splitOn_ne_nil sep body), List.intercalate_splitOn]

omit [DecidableEq β] in
theorem exists_body {lines : List (List β)} (h : lines ≠ []) :
    ∃ body, terminated sep lines = body ++ [sep] := by
  obtain ⟨first, last, rfl⟩ := (List.eq_nil_or_concat lines).resolve_left h
  refine ⟨terminated sep first ++ last, ?_⟩
  rw [List.concat_eq_append, terminated_append, List.append_assoc]
  exact congrArg (terminated sep first ++ ·) (List.append_nil _)

/-- Without its last separator, a text splits into its lines. -/
theorem splitOn_of_terminated {lines : List (List β)} (h : ∀ line ∈ lines, sep ∉ line)
    {body : List β} (hbody : terminated sep lines = body ++ [sep]) : body.splitOn sep = lines := by
  refine terminated_injective (fun _ => notMem_of_mem_splitOn) h ?_
  rw [terminated_splitOn, hbody]

end Lines
