import CatalogBench.Common.Pointer
import CatalogBench.Conformance.Operation
import CatalogBench.Library.ListRel

/-!
# What sanitizing changes

`sanitize_json` puts texts in some places of a value, reports the pointers of these places, and
changes nothing else.
-/

set_option linter.all false

namespace CatalogBench.Conformance
open Json (Step)

-- ════════════════════════════════
-- The redacted places
-- ════════════════════════════════

variable (web : WebCrates) (sensitiveValues : List String)

/-- What a text is replaced by, if it is. -/
def textRedaction (text : String) : Option String :=
  if containsSensitiveValue (utf8 text) sensitiveValues || isBearer text then some redacted
  else sanitizeUrl web text

/-- The text that is put in a place of a value. -/
def redactionAt : Json → List Step → Option String
  | .string text, [] => textRedaction web sensitiveValues text
  | .object fields, .field key :: place =>
    (fields.lookup key).bind fun child =>
      if isSensitiveKey key then (if place = [] then some redacted else none)
      else redactionAt child place
  | .array values, .index i :: place => values[i]?.bind fun child => redactionAt child place
  | _, _ => none
  termination_by structural _ place => place

/-- The text that is put in a place of the value of a field. -/
def fieldRedaction (key : String) (child : Json) (place : List Step) : Option String :=
  if isSensitiveKey key then (if place = [] then some redacted else none)
  else redactionAt web sensitiveValues child place

theorem sanitizeText_eq (pointer text : String) :
    sanitizeText web sensitiveValues pointer text =
      match textRedaction web sensitiveValues text with
      | some redaction => (redaction, [pointer])
      | none => (text, []) := by
  unfold sanitizeText textRedaction
  split
  · rfl
  · rfl

variable {web : WebCrates} {sensitiveValues : List String}

theorem redactionAt_object {fields : List (String × Json)} {key : String} {child : Json}
    (h : fields.lookup key = some child) (place : List Step) :
    redactionAt web sensitiveValues (.object fields) (.field key :: place) =
      fieldRedaction web sensitiveValues key child place := by
  rw [redactionAt, h]
  rfl

theorem redactionAt_array {values : List Json} {i : ℕ} {child : Json} (h : values[i]? = some child)
    (place : List Step) :
    redactionAt web sensitiveValues (.array values) (.index i :: place) =
      redactionAt web sensitiveValues child place := by
  rw [redactionAt, h]
  rfl

/-- Only texts are replaced where they stand. -/
theorem redactionAt_root {value : Json} {step : Step} {below : Json}
    (h : value.child step = some below) : redactionAt web sensitiveValues value [] = none := by
  cases value with
  | object | array => rfl
  | _ => cases step <;> cases h

/-- Below a step the redacted places are those of the value there, or that value itself. -/
theorem redactionAt_step {value below : Json} {step : Step} (h : value.child step = some below) :
    (∀ place, redactionAt web sensitiveValues value (step :: place) =
        redactionAt web sensitiveValues below place) ∨
      ∀ place, redactionAt web sensitiveValues value (step :: place) =
        if place = [] then some redacted else none := by
  cases value with
  | object fields =>
    cases step with
    | index i => cases h
    | field key =>
      by_cases hkey : isSensitiveKey key
      · refine .inr fun place => (redactionAt_object h place).trans ?_
        rw [fieldRedaction, if_pos hkey]
      · refine .inl fun place => (redactionAt_object h place).trans ?_
        rw [fieldRedaction, if_neg hkey]
  | array values =>
    cases step with
    | field key => cases h
    | index i => exact .inl fun place => redactionAt_array h place
  | _ => cases step <;> cases h

/-- A step towards a redacted place. -/
theorem child_of_redactionAt {value : Json} {step : Step} {place : List Step} {text : String}
    (h : redactionAt web sensitiveValues value (step :: place) = some text) :
    ∃ below, value.child step = some below := by
  cases value with
  | object fields =>
    cases step with
    | index i => cases h
    | field key => exact (Option.bind_eq_some_iff.mp h).imp fun _ hbelow => hbelow.1
  | array values =>
    cases step with
    | field key => cases h
    | index i => exact (Option.bind_eq_some_iff.mp h).imp fun _ hbelow => hbelow.1
  | _ => cases step <;> cases h

/-- A redacted place is a place of the value. -/
theorem descend_of_redactionAt {value : Json} {place : List Step} {text : String}
    (h : redactionAt web sensitiveValues value place = some text) :
    ∃ below, value.descend place = some below := by
  induction place generalizing value with
  | nil => exact ⟨value, rfl⟩
  | cons step place ih =>
    obtain ⟨next, hnext⟩ := child_of_redactionAt h
    rcases redactionAt_step hnext with hsame | hall
    · obtain ⟨below, hbelow⟩ := ih ((hsame place).symm.trans h)
      exact ⟨below, Option.bind_eq_some_iff.mpr ⟨next, hnext, hbelow⟩⟩
    · have hplace : place = [] := by
        by_contra hne
        rw [hall, if_neg hne] at h
        cases h
      subst hplace
      exact ⟨next, Option.bind_eq_some_iff.mpr ⟨next, hnext, rfl⟩⟩

/-- Nothing above a redacted place is redacted. -/
theorem redactionAt_above {value : Json} {place above : List Step} {text : String}
    (h : redactionAt web sensitiveValues value place = some text) (hstarts : above <+: place)
    (hne : above ≠ place) : redactionAt web sensitiveValues value above = none := by
  induction above generalizing value place with
  | nil =>
    cases place with
    | nil => exact absurd rfl hne
    | cons step place =>
      obtain ⟨next, hnext⟩ := child_of_redactionAt h
      exact redactionAt_root hnext
  | cons step above ih =>
    cases place with
    | nil => cases List.prefix_nil.mp hstarts
    | cons step' place =>
      obtain ⟨rfl, htail⟩ := List.cons_prefix_cons.mp hstarts
      have hne' : above ≠ place := fun heq => hne (congrArg _ heq)
      obtain ⟨next, hnext⟩ := child_of_redactionAt h
      rcases redactionAt_step hnext with hsame | hall
      · rw [hsame] at h ⊢
        exact ih h htail hne'
      · have hplace : place = [] := by
          by_contra hne
          rw [hall, if_neg hne] at h
          cases h
        subst hplace
        exact absurd (List.prefix_nil.mp htail) hne'

-- ════════════════════════════════
-- The sanitized value
-- ════════════════════════════════

mutual

/-- Sanitizing puts the redactions in their places. -/
theorem sanitizeValue_fst (pointer : String) : ∀ value : Json, value.Distinct →
    (sanitizeValue web sensitiveValues pointer value).1 =
      value.replaceAt (redactionAt web sensitiveValues value)
  | .object fields, h => by
    rw [sanitizeValue, Json.replaceAt]
    refine congrArg Json.object (sanitizeFields_fst pointer fields h.2 fun key child hmem place => ?_)
    exact redactionAt_object ((ListRel.lookup_eq_some_iff h.1).mpr hmem) place
  | .array values, h => by
    rw [sanitizeValue, Json.replaceAt]
    refine congrArg Json.array (sanitizeValues_fst pointer 0 values h fun i child hchild place => ?_)
    rw [Nat.zero_add]
    exact redactionAt_array hchild place
  | .string text, _ => by
    rw [sanitizeValue, sanitizeText_eq, Json.replaceAt, redactionAt]
    cases textRedaction web sensitiveValues text <;> rfl
  | .null, _ => rfl
  | .bool _, _ => rfl
  | .number _, _ => rfl

theorem sanitizeFields_fst (pointer : String) {texts : List Step → Option String} :
    ∀ fields : List (String × Json), Json.DistinctFields fields →
      (∀ key child, (key, child) ∈ fields → ∀ place, texts (.field key :: place) =
        fieldRedaction web sensitiveValues key child place) →
      (sanitizeFields web sensitiveValues pointer fields).1 = Json.replaceFields texts fields
  | [], _, _ => rfl
  | (key, child) :: fields, h, htexts => by
    have hrest := sanitizeFields_fst pointer fields h.2 fun key child hmem =>
      htexts key child (List.mem_cons_of_mem _ hmem)
    have hhead := funext (htexts key child List.mem_cons_self)
    rw [sanitizeFields, Json.replaceFields, hhead]
    dsimp only
    split
    · next hkey =>
      rw [Json.replaceAt_root (by rw [fieldRedaction, if_pos hkey, if_pos rfl])]
      exact congrArg _ hrest
    · next hkey =>
      have heq : fieldRedaction web sensitiveValues key child =
          redactionAt web sensitiveValues child := by
        funext place
        rw [fieldRedaction, if_neg hkey]
      rw [heq]
      dsimp only
      rw [sanitizeValue_fst _ child h.1, hrest]

theorem sanitizeValues_fst (pointer : String) {texts : List Step → Option String} (index : ℕ) :
    ∀ values : List Json, Json.DistinctElements values →
      (∀ i child, values[i]? = some child → ∀ place, texts (.index (index + i) :: place) =
        redactionAt web sensitiveValues child place) →
      (sanitizeValues web sensitiveValues pointer index values).1 =
        Json.replaceElements texts index values
  | [], _, _ => rfl
  | child :: values, h, htexts => by
    have hrest := sanitizeValues_fst pointer (index + 1) values h.2 fun i child hchild place => by
      rw [Nat.add_right_comm, Nat.add_assoc]
      exact htexts (i + 1) child hchild place
    have hhead := funext (htexts 0 child rfl)
    rw [Nat.add_zero] at hhead
    rw [sanitizeValues, Json.replaceElements, hhead]
    dsimp only
    rw [sanitizeValue_fst _ child h.1, hrest]

end

-- ════════════════════════════════
-- The reported pointers
-- ════════════════════════════════

theorem pointerText_field (pointer key : String) (place : List Step) :
    pointer ++ Json.pointerText (.field key :: place) =
      pointer ++ "/" ++ escapePointerSegment key ++ Json.pointerText place := by
  refine String.toList_inj.mp ?_
  simp [Json.pointerText, escapePointerSegment, Json.escapeToken, Step.token]

/-- The digits of an index need no escape. -/
theorem escapeToken_toString (i : ℕ) :
    Json.escapeToken (toString i).toList = (toString i).toList := by
  refine (List.flatMap_congr fun c hc => ?_).trans (List.flatMap_singleton' _)
  have hdigit := Decimal.isDigit_of_mem_toString hc
  rw [if_neg, if_neg]
  · rintro rfl
    exact absurd hdigit (by decide)
  · rintro rfl
    exact absurd hdigit (by decide)

theorem pointerText_index (pointer : String) (i : ℕ) (place : List Step) :
    pointer ++ Json.pointerText (.index i :: place) =
      pointer ++ "/" ++ toString i ++ Json.pointerText place := by
  have hescape := escapeToken_toString i
  refine String.toList_inj.mp ?_
  simp only [Json.pointerText, Step.token, List.flatMap_cons, hescape, String.toList_append,
    String.toList_ofList]
  simp

/-- The pointers under which the redacted places of a value are reported. -/
def Reported (redactions : List String) (pointer : String) (texts : List Step → Option String) :
    Prop :=
  ∀ reported, reported ∈ redactions ↔
    ∃ place, (texts place).isSome ∧ reported = pointer ++ Json.pointerText place

/-- A value with nothing below it that is no text has no redacted place. -/
theorem reported_scalar {value : Json} (hchild : ∀ step, value.child step = none)
    (hroot : redactionAt web sensitiveValues value [] = none) (pointer : String) :
    Reported [] pointer (redactionAt web sensitiveValues value) := by
  intro reported
  refine iff_of_false List.not_mem_nil ?_
  rintro ⟨place, hplace, -⟩
  obtain ⟨text, htext⟩ := Option.isSome_iff_exists.mp hplace
  cases place with
  | nil => cases hroot.symm.trans htext
  | cons step place =>
    obtain ⟨below, hbelow⟩ := child_of_redactionAt htext
    cases (hchild step).symm.trans hbelow

mutual

theorem sanitizeValue_reported (pointer : String) : ∀ value : Json, value.Distinct →
    Reported (sanitizeValue web sensitiveValues pointer value).2 pointer
      (redactionAt web sensitiveValues value)
  | .object fields, h => by
    intro reported
    rw [sanitizeValue]
    refine (sanitizeFields_reported pointer fields h.2 reported).trans ⟨?_, ?_⟩
    · rintro ⟨key, child, hmem, place, hplace, rfl⟩
      have hlookup := (ListRel.lookup_eq_some_iff h.1).mpr hmem
      exact ⟨.field key :: place, by rwa [redactionAt_object hlookup], rfl⟩
    · rintro ⟨place, hplace, rfl⟩
      obtain ⟨text, htext⟩ := Option.isSome_iff_exists.mp hplace
      cases place with
      | nil => cases htext
      | cons step place =>
        cases step with
        | index i => cases htext
        | field key =>
          obtain ⟨child, hlookup⟩ := child_of_redactionAt htext
          rw [redactionAt_object hlookup] at hplace
          exact ⟨key, child, (ListRel.lookup_eq_some_iff h.1).mp hlookup, place, hplace, rfl⟩
  | .array values, h => by
    intro reported
    rw [sanitizeValue]
    refine (sanitizeValues_reported pointer 0 values h reported).trans ⟨?_, ?_⟩
    · rintro ⟨i, child, hchild, place, hplace, rfl⟩
      rw [Nat.zero_add]
      exact ⟨.index i :: place, by rwa [redactionAt_array hchild], rfl⟩
    · rintro ⟨place, hplace, rfl⟩
      obtain ⟨text, htext⟩ := Option.isSome_iff_exists.mp hplace
      cases place with
      | nil => cases htext
      | cons step place =>
        cases step with
        | field key => cases htext
        | index i =>
          obtain ⟨child, hchild⟩ := child_of_redactionAt htext
          rw [redactionAt_array hchild] at hplace
          exact ⟨i, child, hchild, place, hplace, by rw [Nat.zero_add]⟩
  | .string text, _ => by
    intro reported
    have hbelow : ∀ step place,
        redactionAt web sensitiveValues (.string text) (step :: place) = none := by
      intro step place
      cases step <;> rfl
    rw [sanitizeValue, sanitizeText_eq]
    cases hredaction : textRedaction web sensitiveValues text with
    | some redaction =>
      refine List.mem_singleton.trans ⟨?_, ?_⟩
      · rintro rfl
        exact ⟨[], by rw [redactionAt, hredaction]; rfl, (String.append_empty).symm⟩
      · rintro ⟨place, hplace, rfl⟩
        cases place with
        | nil => exact String.append_empty
        | cons step place =>
          rw [hbelow] at hplace
          cases hplace
    | none =>
      refine iff_of_false List.not_mem_nil ?_
      rintro ⟨place, hplace, rfl⟩
      cases place with
      | nil =>
        rw [redactionAt, hredaction] at hplace
        cases hplace
      | cons step place =>
        rw [hbelow] at hplace
        cases hplace
  | .null, _ => reported_scalar (fun step => by cases step <;> rfl) rfl pointer
  | .bool _, _ => reported_scalar (fun step => by cases step <;> rfl) rfl pointer
  | .number _, _ => reported_scalar (fun step => by cases step <;> rfl) rfl pointer

theorem sanitizeFields_reported (pointer : String) :
    ∀ fields : List (String × Json), Json.DistinctFields fields → ∀ reported,
      reported ∈ (sanitizeFields web sensitiveValues pointer fields).2 ↔
        ∃ key child, (key, child) ∈ fields ∧ ∃ place,
          (fieldRedaction web sensitiveValues key child place).isSome ∧
            reported = pointer ++ Json.pointerText (.field key :: place)
  | [], _, reported => by simp [sanitizeFields]
  | (key, child) :: fields, h, reported => by
    have hrest := sanitizeFields_reported pointer fields h.2 reported
    -- What is reported of the first field.
    have hfirst : reported ∈ (if isSensitiveKey key then
          [pointer ++ "/" ++ escapePointerSegment key]
        else (sanitizeValue web sensitiveValues (pointer ++ "/" ++ escapePointerSegment key)
          child).2) ↔
        ∃ place, (fieldRedaction web sensitiveValues key child place).isSome ∧
          reported = pointer ++ Json.pointerText (.field key :: place) := by
      simp only [pointerText_field]
      split
      · next hkey =>
        rw [List.mem_singleton]
        constructor
        · rintro rfl
          refine ⟨[], ?_, String.append_empty.symm⟩
          rw [fieldRedaction, if_pos hkey]
          rfl
        · rintro ⟨place, hplace, rfl⟩
          rw [fieldRedaction, if_pos hkey] at hplace
          split at hplace
          · next hnil =>
            subst hnil
            exact String.append_empty
          · cases hplace
      · next hkey =>
        have heq : fieldRedaction web sensitiveValues key child =
            redactionAt web sensitiveValues child := by
          funext place
          rw [fieldRedaction, if_neg hkey]
        rw [heq]
        exact sanitizeValue_reported _ child h.1 reported
    have hsplit : reported ∈ (sanitizeFields web sensitiveValues pointer
          ((key, child) :: fields)).2 ↔
        reported ∈ (if isSensitiveKey key then [pointer ++ "/" ++ escapePointerSegment key]
          else (sanitizeValue web sensitiveValues (pointer ++ "/" ++ escapePointerSegment key)
            child).2) ∨ reported ∈ (sanitizeFields web sensitiveValues pointer fields).2 := by
      rw [sanitizeFields]
      dsimp only
      split
      · rw [List.mem_cons, List.mem_singleton]
      · rw [List.mem_append]
    rw [hsplit, hfirst, hrest]
    constructor
    · rintro (⟨place, hplace⟩ | ⟨key', child', hmem, hplace⟩)
      · exact ⟨key, child, List.mem_cons_self, place, hplace⟩
      · exact ⟨key', child', List.mem_cons_of_mem _ hmem, hplace⟩
    · rintro ⟨key', child', hmem, hplace⟩
      rcases List.mem_cons.mp hmem with heq | hmem
      · cases heq
        exact .inl hplace
      · exact .inr ⟨key', child', hmem, hplace⟩

theorem sanitizeValues_reported (pointer : String) (index : ℕ) :
    ∀ values : List Json, Json.DistinctElements values → ∀ reported,
      reported ∈ (sanitizeValues web sensitiveValues pointer index values).2 ↔
        ∃ i child, values[i]? = some child ∧ ∃ place,
          (redactionAt web sensitiveValues child place).isSome ∧
            reported = pointer ++ Json.pointerText (.index (index + i) :: place)
  | [], _, reported => by simp [sanitizeValues]
  | child :: values, h, reported => by
    have hrest := sanitizeValues_reported pointer (index + 1) values h.2 reported
    have hfirst := sanitizeValue_reported (pointer ++ "/" ++ toString index) child h.1 reported
    rw [sanitizeValues]
    dsimp only
    rw [List.mem_append, hfirst, hrest]
    constructor
    · rintro (⟨place, hplace, rfl⟩ | ⟨i, child', hchild, place, hplace, rfl⟩)
      · exact ⟨0, child, rfl, place, hplace, by rw [Nat.add_zero, pointerText_index]⟩
      · exact ⟨i + 1, child', hchild, place, hplace, by rw [Nat.add_right_comm, Nat.add_assoc]⟩
    · rintro ⟨i, child', hchild, place, hplace, rfl⟩
      cases i with
      | zero =>
        obtain rfl := Option.some.inj hchild
        exact .inl ⟨place, hplace, by rw [Nat.add_zero, pointerText_index]⟩
      | succ i =>
        exact .inr ⟨i, child', hchild, place, hplace, by rw [Nat.add_right_comm, Nat.add_assoc]⟩

end

-- ════════════════════════════════
-- Nothing redacted
-- ════════════════════════════════

mutual

/-- A value in which nothing is redacted stays as it is. -/
theorem sanitizeValue_unchanged (pointer : String) : ∀ value : Json,
    (sanitizeValue web sensitiveValues pointer value).2 = [] →
      (sanitizeValue web sensitiveValues pointer value).1 = value
  | .object fields, h => by
    rw [sanitizeValue] at h ⊢
    exact congrArg Json.object (sanitizeFields_unchanged pointer fields h)
  | .array values, h => by
    rw [sanitizeValue] at h ⊢
    exact congrArg Json.array (sanitizeValues_unchanged pointer 0 values h)
  | .string text, h => by
    rw [sanitizeValue, sanitizeText_eq] at h ⊢
    cases hredaction : textRedaction web sensitiveValues text with
    | some redaction =>
      rw [hredaction] at h
      cases h
    | none => rfl
  | .null, _ => rfl
  | .bool _, _ => rfl
  | .number _, _ => rfl

theorem sanitizeFields_unchanged (pointer : String) : ∀ fields : List (String × Json),
    (sanitizeFields web sensitiveValues pointer fields).2 = [] →
      (sanitizeFields web sensitiveValues pointer fields).1 = fields
  | [], _ => rfl
  | (key, child) :: fields, h => by
    rw [sanitizeFields] at h ⊢
    dsimp only at h ⊢
    split at h
    · cases h
    · next hkey =>
      obtain ⟨hchild, hrest⟩ := List.append_eq_nil_iff.mp h
      rw [if_neg hkey]
      dsimp only
      rw [sanitizeValue_unchanged _ child hchild, sanitizeFields_unchanged pointer fields hrest]

theorem sanitizeValues_unchanged (pointer : String) (index : ℕ) : ∀ values : List Json,
    (sanitizeValues web sensitiveValues pointer index values).2 = [] →
      (sanitizeValues web sensitiveValues pointer index values).1 = values
  | [], _ => rfl
  | child :: values, h => by
    rw [sanitizeValues] at h ⊢
    obtain ⟨hchild, hrest⟩ := List.append_eq_nil_iff.mp h
    dsimp only
    rw [sanitizeValue_unchanged _ child hchild,
      sanitizeValues_unchanged pointer (index + 1) values hrest]

end

theorem mem_sortDedup {texts : List String} {text : String} :
    text ∈ sortDedup texts ↔ text ∈ texts := by
  rw [sortDedup, List.mem_eraseDups, List.mem_mergeSort]

theorem sortDedup_eq_nil {texts : List String} (h : sortDedup texts = []) : texts = [] :=
  List.eq_nil_iff_forall_not_mem.mpr fun text hmem => by
    rw [← mem_sortDedup, h] at hmem
    cases hmem

theorem sanitizeJson_unchanged {value : Json}
    (h : (sanitizeJson web value sensitiveValues).2 = []) :
    (sanitizeJson web value sensitiveValues).1 = value :=
  sanitizeValue_unchanged "" value (sortDedup_eq_nil h)

/-- The digest of a body is published next to the body as it was received. -/
theorem captureCompleteBody_digest {status : ℕ} {headers : StringMap String} {bytes : List UInt8}
    {response : HttpResponseTranscript} {digest : String}
    (hresponse : (captureCompleteBody web status headers bytes sensitiveValues).response =
      some response) (hdigest : response.rawBodySha256 = some digest) :
    ∃ received, web.parseJson bytes = some received ∧ response.body = .json received := by
  unfold captureCompleteBody at hresponse
  split at hresponse
  · cases hresponse
    cases hdigest
  cases hparse : web.parseJson bytes with
  | none =>
    rw [hparse] at hresponse
    cases hresponse
    cases hdigest
  | some received =>
    rw [hparse] at hresponse
    cases hresponse
    dsimp only at hdigest
    split at hdigest
    · next hnil => exact ⟨received, rfl, congrArg _ (sanitizeJson_unchanged hnil)⟩
    · cases hdigest

-- ════════════════════════════════
-- The frame
-- ════════════════════════════════

/-- A sanitized value is the value with some places replaced, and the pointers are those of these
places. -/
structure FramedBy (value : Json) (sanitized : Json × List String)
    (texts : List Step → Option String) : Prop where
  reported : ∀ pointer, pointer ∈ sanitized.2 ↔
    ∃ place, (texts place).isSome ∧ pointer = Json.pointerText place
  resolves : ∀ place text, texts place = some text →
    (∃ below, value.descend place = some below ∧
      value.resolve (Json.pointerText place) = some below) ∧
    sanitized.1.descend place = some (.string text) ∧
    sanitized.1.resolve (Json.pointerText place) = some (.string text)
  distinct : ∀ p q, (texts p).isSome → (texts q).isSome →
    Json.pointerText p = Json.pointerText q → p = q
  replaced : sanitized.1 = value.replaceAt texts
  unchanged : sanitized.2 = [] → sanitized.1 = value

/-- Sanitizing changes what it reports and nothing else, and the digest of a received body stands
only next to that body. -/
theorem sanitizeJson_frame (web : WebCrates) (sensitiveValues : List String) {value : Json}
    (h : value.Distinct) :
    (∃ texts, FramedBy value (sanitizeJson web value sensitiveValues) texts) ∧
      ∀ status headers bytes response digest,
        (captureCompleteBody web status headers bytes sensitiveValues).response = some response →
          response.rawBodySha256 = some digest →
            ∃ received, web.parseJson bytes = some received ∧ response.body = .json received := by
  have hreplaced : (sanitizeJson web value sensitiveValues).1 =
      value.replaceAt (redactionAt web sensitiveValues value) := sanitizeValue_fst "" value h
  refine ⟨⟨redactionAt web sensitiveValues value, ?_, ?_, ?_, hreplaced,
    sanitizeJson_unchanged⟩, fun _ _ _ _ _ => captureCompleteBody_digest⟩
  · intro pointer
    rw [sanitizeJson, mem_sortDedup]
    refine (sanitizeValue_reported "" value h pointer).trans ?_
    simp only [String.empty_append]
  · intro place text htext
    obtain ⟨below, hbelow⟩ := descend_of_redactionAt htext
    have hput := Json.descend_replaceAt hbelow htext fun above hstarts hne =>
      redactionAt_above htext hstarts hne
    rw [← hreplaced] at hput
    exact ⟨⟨below, hbelow, Json.resolve_pointerText hbelow⟩, hput, Json.resolve_pointerText hput⟩
  · intro p q hp hq heq
    obtain ⟨_, hp⟩ := Option.isSome_iff_exists.mp hp
    obtain ⟨_, hq⟩ := Option.isSome_iff_exists.mp hq
    obtain ⟨_, hp⟩ := descend_of_redactionAt hp
    obtain ⟨_, hq⟩ := descend_of_redactionAt hq
    exact Json.pointerText_inj hp hq heq

/-- A body with a secret under an escaped key. -/
def sampleBody : Json :=
  .object [("a/b~c", .object [("token", .string "hunter2x")]), ("note", .array [.string "kept"])]

theorem sampleBody_distinct : sampleBody.Distinct := by
  simp [sampleBody, Json.Distinct, Json.DistinctFields, Json.DistinctElements]

theorem sanitizeJson_frame_sample :
    (∃ texts, FramedBy sampleBody (sanitizeJson (sampleWeb []) sampleBody ["hunter2x"]) texts) ∧
      ∀ status headers bytes response digest,
        (captureCompleteBody (sampleWeb []) status headers bytes ["hunter2x"]).response =
            some response → response.rawBodySha256 = some digest →
          ∃ received, (sampleWeb []).parseJson bytes = some received ∧
            response.body = .json received :=
  sanitizeJson_frame (sampleWeb []) ["hunter2x"] sampleBody_distinct

end CatalogBench.Conformance
