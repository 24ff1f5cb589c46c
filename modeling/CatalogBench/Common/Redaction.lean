import CatalogBench.Conformance.Sanitize

/-!
# Redacted texts

The runtime secrets in the text of a failure are replaced one after the other. The marker that
stands for them begins and ends with characters that no secret has, so that no later replacement
brings an earlier secret back.
-/

set_option linter.all false

namespace CatalogBench.Conformance

-- ════════════════════════════════
-- Replacing one pattern
-- ════════════════════════════════

theorem prefix_append_cons {word before after : List Char} {c : Char} (hc : c ∉ word)
    (h : word <+: before ++ c :: after) : word <+: before := by
  induction before generalizing word with
  | nil =>
    cases word with
    | nil => exact List.nil_prefix
    | cons d word =>
      obtain ⟨rfl, -⟩ := List.cons_prefix_cons.mp h
      exact absurd List.mem_cons_self hc
  | cons d before ih =>
    cases word with
    | nil => exact List.nil_prefix
    | cons e word =>
      obtain ⟨rfl, htail⟩ := List.cons_prefix_cons.mp h
      have hword : c ∉ word := fun hmem => hc (List.mem_cons_of_mem _ hmem)
      exact List.cons_prefix_cons.mpr ⟨rfl, ih hword htail⟩

/-- A text without a character lies on one side of it. -/
theorem infix_append_cons {word before after : List Char} {c : Char} (hc : c ∉ word)
    (h : word <:+: before ++ c :: after) : word <:+: before ∨ word <:+: after := by
  induction before with
  | nil =>
    rcases List.infix_cons_iff.mp h with hstarts | hinside
    · exact .inl (@prefix_append_cons word [] after c hc hstarts).isInfix
    · exact .inr hinside
  | cons d before ih =>
    rcases List.infix_cons_iff.mp h with hstarts | hinside
    · exact .inl (@prefix_append_cons word (d :: before) after c hc hstarts).isInfix
    · exact (ih hinside).imp_left List.infix_cons

theorem infix_of_infix_cons {word after : List Char} {c : Char} (hc : c ∉ word)
    (h : word <:+: c :: after) : word <:+: after := by
  rcases @infix_append_cons word [] after c hc h with hnil | hafter
  · rw [List.infix_nil.mp hnil]
    exact List.nil_infix
  · exact hafter

/-- A text that the marker cannot be part of: it has neither of its ends and is not inside. -/
structure Unmarked (first last : Char) (middle word : List Char) : Prop where
  no_first : first ∉ word
  no_last : last ∉ word
  not_inside : ¬word <:+: middle

section Marker

variable {pattern word middle : List Char} {first last : Char}

/-- What begins a text after the replacement began it before. -/
theorem prefix_of_replaceText (hfirst : first ∉ word) {text : List Char}
    (h : word <+: replaceText pattern (first :: (middle ++ [last])) text) : word <+: text := by
  fun_induction replaceText pattern (first :: (middle ++ [last])) text generalizing word with
  | case1 => exact h
  | case2 c rest hmatch ih =>
    have hnil := @prefix_append_cons word [] _ first hfirst h
    rw [List.prefix_nil.mp hnil]
    exact List.nil_prefix
  | case3 c rest hmatch ih =>
    cases word with
    | nil => exact List.nil_prefix
    | cons d word =>
      obtain ⟨rfl, htail⟩ := List.cons_prefix_cons.mp h
      have hword : first ∉ word := fun hmem => hfirst (List.mem_cons_of_mem _ hmem)
      exact List.cons_prefix_cons.mpr ⟨rfl, ih hword htail⟩

/-- A replacement brings no such text in. -/
theorem infix_of_replaceText (hword : Unmarked first last middle word) {text : List Char}
    (h : word <:+: replaceText pattern (first :: (middle ++ [last])) text) : word <:+: text := by
  fun_induction replaceText pattern (first :: (middle ++ [last])) text with
  | case1 => exact h
  | case2 c rest hmatch ih =>
    -- The text is not across the marker nor in it, so it is in what follows.
    rw [List.cons_append, List.append_assoc] at h
    rcases infix_append_cons hword.no_last (infix_of_infix_cons hword.no_first h) with hinside | hafter
    · exact absurd hinside hword.not_inside
    · exact ((ih hafter).trans (List.drop_suffix _ _).isInfix).trans (List.infix_cons List.infix_rfl)
  | case3 c rest hmatch ih =>
    rcases List.infix_cons_iff.mp h with hstarts | hinside
    · refine (@prefix_of_replaceText pattern word middle first last hword.no_first _ ?_).isInfix
      rw [replaceText, if_neg hmatch]
      exact hstarts
    · exact List.infix_cons (ih hinside)

/-- A replaced pattern is gone. -/
theorem not_infix_replaceText (hpattern : Unmarked first last middle pattern) {text : List Char} :
    ¬pattern <:+: replaceText pattern (first :: (middle ++ [last])) text := by
  intro h
  fun_induction replaceText pattern (first :: (middle ++ [last])) text with
  | case1 =>
    rw [List.infix_nil.mp h] at hpattern
    exact hpattern.not_inside List.nil_infix
  | case2 c rest hmatch ih =>
    rw [List.cons_append, List.append_assoc] at h
    rcases infix_append_cons hpattern.no_last (infix_of_infix_cons hpattern.no_first h) with hinside | hafter
    · exact hpattern.not_inside hinside
    · exact ih hafter
  | case3 c rest hmatch ih =>
    rcases List.infix_cons_iff.mp h with hstarts | hinside
    · -- It would have begun the text before, where it was not found.
      refine hmatch (List.isPrefixOf_iff_prefix.mpr
        (@prefix_of_replaceText pattern pattern middle first last hpattern.no_first _ ?_))
      rw [replaceText, if_neg hmatch]
      exact hstarts
    · exact ih hinside

end Marker

-- ════════════════════════════════
-- Replacing all of them
-- ════════════════════════════════

theorem redacted_toList : redacted.toList = '<' :: ("redacted".toList ++ ['>']) := by decide

/-- The replacements of `redact_text`. -/
def replaceAll (values : List String) (text : String) : String :=
  values.foldl
    (fun text value => String.ofList (replaceText value.toList redacted.toList text.toList)) text

theorem replaceAll_cons (value : String) (values : List String) (text : String) :
    replaceAll (value :: values) text =
      replaceAll values (.ofList (replaceText value.toList redacted.toList text.toList)) := rfl

/-- No replacement brings a secret in. -/
theorem infix_of_replaceAll {word : List Char} (hword : Unmarked '<' '>' "redacted".toList word)
    {values : List String} {text : String} (h : word <:+: (replaceAll values text).toList) :
    word <:+: text.toList := by
  induction values generalizing text with
  | nil => exact h
  | cons value values ih =>
    rw [replaceAll_cons] at h
    have hstep := ih h
    rw [String.toList_ofList, redacted_toList] at hstep
    exact infix_of_replaceText hword hstep

/-- Each secret is gone after its own replacement, and stays gone. -/
theorem not_infix_replaceAll {values : List String} {value : String} (hvalue : value ∈ values)
    (hunmarked : Unmarked '<' '>' "redacted".toList value.toList) (text : String) :
    ¬value.toList <:+: (replaceAll values text).toList := by
  induction values generalizing text with
  | nil => cases hvalue
  | cons head values ih =>
    rw [replaceAll_cons]
    rcases List.mem_cons.mp hvalue with rfl | hvalue
    · intro h
      have hstep := infix_of_replaceAll hunmarked h
      rw [String.toList_ofList, redacted_toList] at hstep
      exact not_infix_replaceText hunmarked hstep
    · exact ih hvalue _

theorem redactText_eq (text : String) (sensitiveValues : List String) :
    redactText text sensitiveValues =
      replaceAll (sensitiveValues.filter fun value => 4 ≤ (utf8 value).length) text := rfl

-- ════════════════════════════════
-- Bounding
-- ════════════════════════════════

def maximumFailureDetailCharacters : ℕ := 512

/-- `redact_and_bound` of the object store. -/
def redactAndBound (detail : String) (sensitiveValues : List String) : String :=
  let redacted := redactText detail sensitiveValues
  let bounded := redacted.toList.take maximumFailureDetailCharacters
  if maximumFailureDetailCharacters < redacted.length then .ofList (bounded ++ ['…'])
  else .ofList bounded

theorem redactAndBound_length (detail : String) (sensitiveValues : List String) :
    (redactAndBound detail sensitiveValues).length ≤ 513 := by
  have htake : ((redactText detail sensitiveValues).toList.take 512).length ≤ 512 :=
    List.length_take_le _ _
  unfold redactAndBound maximumFailureDetailCharacters
  dsimp only
  split
  · rw [← String.length_toList, String.toList_ofList, List.length_append]
    exact Nat.add_le_add_right htake 1
  · rw [← String.length_toList, String.toList_ofList]
    omega

/-- Bounding a text brings nothing in but an ellipsis. -/
theorem infix_of_redactAndBound {word : List Char} (hword : '…' ∉ word) {detail : String}
    {sensitiveValues : List String}
    (h : word <:+: (redactAndBound detail sensitiveValues).toList) :
    word <:+: (redactText detail sensitiveValues).toList := by
  unfold redactAndBound at h
  dsimp only at h
  split at h
  · rw [String.toList_ofList] at h
    rcases infix_append_cons hword h with hbounded | hnil
    · exact hbounded.trans (List.take_prefix _ _).isInfix
    · rw [List.infix_nil.mp hnil]
      exact List.nil_infix
  · rw [String.toList_ofList] at h
    exact h.trans (List.take_prefix _ _).isInfix

/-- The runtime secrets of at least four bytes have no character of the markers and are not in
the word between them. -/
def Redactable (sensitiveValues : List String) : Prop :=
  ∀ value ∈ sensitiveValues, 4 ≤ (utf8 value).length →
    '<' ∉ value.toList ∧ '>' ∉ value.toList ∧ '…' ∉ value.toList ∧
      ¬value.toList <:+: "redacted".toList

/-- A redacted text holds no runtime secret, and a bounded one is short. -/
theorem redaction_complete (text : String) {sensitiveValues : List String}
    (h : Redactable sensitiveValues) :
    (∀ value ∈ sensitiveValues, 4 ≤ (utf8 value).length →
      ¬value.toList <:+: (redactText text sensitiveValues).toList ∧
        ¬value.toList <:+: (redactAndBound text sensitiveValues).toList) ∧
      (redactAndBound text sensitiveValues).length ≤ 513 := by
  refine ⟨fun value hvalue hlength => ?_, redactAndBound_length _ _⟩
  obtain ⟨hfirst, hlast, hellipsis, hinside⟩ := h value hvalue hlength
  have hgone : ¬value.toList <:+: (redactText text sensitiveValues).toList := by
    rw [redactText_eq]
    exact not_infix_replaceAll (List.mem_filter.mpr ⟨hvalue, decide_eq_true hlength⟩)
      ⟨hfirst, hlast, hinside⟩ text
  exact ⟨hgone, fun hbounded => hgone (infix_of_redactAndBound hellipsis hbounded)⟩

/-- Two secrets that overlap. -/
def overlappingSecrets : List String := ["hunter2x", "er2xyz"]

theorem overlappingSecrets_redactable : Redactable overlappingSecrets := by
  have hx : 'x' ∉ "redacted".toList := by decide
  intro value hvalue _
  rcases List.mem_pair.mp hvalue with rfl | rfl
  · exact ⟨by decide, by decide, by decide, fun hinside => hx (hinside.subset (by decide))⟩
  · exact ⟨by decide, by decide, by decide, fun hinside => hx (hinside.subset (by decide))⟩

theorem redaction_complete_overlapping :
    (∀ value ∈ overlappingSecrets, 4 ≤ (utf8 value).length →
      ¬value.toList <:+: (redactText "see hunter2xyz" overlappingSecrets).toList ∧
        ¬value.toList <:+: (redactAndBound "see hunter2xyz" overlappingSecrets).toList) ∧
      (redactAndBound "see hunter2xyz" overlappingSecrets).length ≤ 513 :=
  redaction_complete "see hunter2xyz" overlappingSecrets_redactable

end CatalogBench.Conformance
