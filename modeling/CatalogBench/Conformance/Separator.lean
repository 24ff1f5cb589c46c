import CatalogBench.Conformance.Negotiation
import CatalogBench.Library.Percent

/-!
# The namespace separator

Which texts of a config `decode_separator` takes for a separator, next to the percent-encoded
characters they are meant to be: the text goes through a form parser, which stops at an ampersand,
reads a plus sign as a space and replaces what is not UTF-8.
-/

set_option linter.all false

namespace CatalogBench.Conformance
open Percent (ampersand plus space)

-- ════════════════════════════════
-- The form parser
-- ════════════════════════════════

/-- The value of the first pair of `form_urlencoded::parse`. -/
def formFirstValue (query : String) : Option String :=
  ((Percent.formPairs (utf8 query)).head?).map (·.2)

/-- What the form parser reads of a text: it stops at an ampersand. -/
def separatorRead (encoded : String) : List UInt8 := (Percent.cut ampersand (utf8 encoded)).1

theorem formFirstValue_separator (encoded : String) :
    formFirstValue ("separator=" ++ encoded) = some (Percent.formText (separatorRead encoded)) := by
  have hstarts : utf8 "separator=" = utf8 "separator" ++ [Percent.equals] := by decide
  have hbytes : utf8 ("separator=" ++ encoded) = utf8 "separator=" ++ utf8 encoded := by
    simp [utf8]
  have hread : (Percent.cut ampersand (utf8 ("separator=" ++ encoded))).1 =
      utf8 "separator" ++ Percent.equals :: separatorRead encoded := by
    rw [hbytes, Percent.cut_fst_append (by decide), hstarts, List.append_assoc]
    rfl
  rw [formFirstValue, Percent.formPairs_head? (by rw [hread]; simp), hread,
    Percent.cut_append (by decide)]
  rfl

theorem decodeSeparator_eq_ok {web : WebCrates} {encoded separator : String} :
    decodeSeparator web encoded = .ok separator ↔
      web.firstFormValue ("separator=" ++ encoded) = some separator ∧ separator.length = 1 ∧
        separator.toList.any isStructural = false := by
  unfold decodeSeparator
  cases web.firstFormValue ("separator=" ++ encoded) with
  | none => simp
  | some decoded =>
    dsimp only
    constructor
    · intro h
      split at h
      · cases h
      next hlength =>
      split at h
      · cases h
      next hstructural =>
      cases h
      exact ⟨rfl, not_not.mp hlength, Bool.eq_false_iff.mpr hstructural⟩
    · rintro ⟨hdecoded, hlength, hstructural⟩
      cases hdecoded
      rw [if_neg (not_not.mpr hlength), if_neg (by simp [hstructural])]

-- ════════════════════════════════
-- The grammar
-- ════════════════════════════════

/-- The bytes are the percent-encoding of one character that is not structural. -/
def EncodesSeparator (bytes : List UInt8) (separator : String) : Prop :=
  Percent.decode bytes = utf8 separator ∧ separator.length = 1 ∧
    separator.toList.any isStructural = false

/-- The form parser reads a text as it was meant: the text is no lone ampersand, and what stands
before its first ampersand is no lone plus sign, no ill-formed sequence, and no separator with
more text after it. -/
structure ReadAsMeant (encoded : String) : Prop where
  ne_ampersand : encoded ≠ "&"
  ne_plus : separatorRead encoded ≠ [plus]
  wellFormed : ¬Utf8.IllFormed (Percent.decode (separatorRead encoded))
  nothing_ignored : ampersand ∈ utf8 encoded →
    ∀ separator, ¬EncodesSeparator (separatorRead encoded) separator

/-- A text of one character. -/
theorem eq_singleton_of_length {text : String} (h : text.length = 1) :
    ∃ c, text = String.singleton c := by
  obtain ⟨c, hc⟩ := List.length_eq_one_iff.mp (String.length_toList.trans h)
  exact ⟨c, String.toList_inj.mp (hc.trans (by simp))⟩

theorem encodesSeparator_singleton {bytes : List UInt8} {c : Char} :
    EncodesSeparator bytes (String.singleton c) ↔
      Percent.decode bytes = String.utf8EncodeChar c ∧ isStructural c = false := by
  rw [EncodesSeparator, utf8_singleton]
  simp

/-- A byte that stays is in what the bytes decode to. -/
theorem mem_decode {bytes : List UInt8} {byte : UInt8} (hbyte : byte ≠ Percent.percent)
    (hhex : Percent.hexValue byte = none) (hmem : byte ∈ bytes) : byte ∈ Percent.decode bytes := by
  obtain ⟨before, after, rfl⟩ := List.append_of_mem hmem
  rw [Percent.decode_append_cons hbyte hhex]
  simp

/-- A literal ampersand or plus sign in an encoded character is all of it. -/
theorem eq_singleton_of_encodes {bytes : List UInt8} {byte : UInt8} {c : Char}
    (hbyte : byte ≠ Percent.percent) (hhex : Percent.hexValue byte = none)
    (hascii : byte.toNat < 0x80) (hmem : byte ∈ bytes)
    (h : Percent.decode bytes = String.utf8EncodeChar c) : bytes = [byte] := by
  have hdecoded := mem_decode hbyte hhex hmem
  rw [h] at hdecoded
  rw [Utf8.encode_of_ascii_mem hascii hdecoded] at h
  exact (Percent.eq_singleton_of_mem hbyte hhex hmem h).1

/-- What the form parser makes of bytes that are read as one character. -/
theorem formText_eq_singleton {bytes : List UInt8} {c : Char} :
    Percent.formText bytes = String.singleton c ↔
      Percent.decode (Percent.plusToSpace bytes) = String.utf8EncodeChar c ∨
        c = Utf8.replacement ∧ Utf8.IllFormed (Percent.decode (Percent.plusToSpace bytes)) := by
  rw [← Utf8.decode_eq_singleton, Percent.formText, ← String.toList_inj]
  simp

/-- A plus sign is read as one character only alone. -/
theorem formText_of_plus_mem {bytes : List UInt8} (hplus : plus ∈ bytes) {c : Char} :
    Percent.formText bytes = String.singleton c ↔ bytes = [plus] ∧ c = ' ' := by
  have hspace := Percent.space_mem_plusToSpace hplus
  constructor
  · intro h
    rcases formText_eq_singleton.mp h with hencode | ⟨-, hill⟩
    · have hbytes := eq_singleton_of_encodes (by decide) (by decide) (by decide) hspace hencode
      obtain ⟨byte, rfl, -⟩ := List.map_eq_singleton_iff.mp hbytes
      obtain rfl := List.mem_singleton.mp hplus
      refine ⟨rfl, ?_⟩
      have hc := congrArg Utf8.decode hencode
      rw [Utf8.decode_eq_singleton.mpr (.inl rfl)] at hc
      exact ((List.cons.inj hc).1).symm
    · exact absurd (hill.not_ascii space (mem_decode (by decide) (by decide) hspace)) (by decide)
  · rintro ⟨rfl, rfl⟩
    decide

theorem formText_of_plus_not_mem {bytes : List UInt8} (hplus : plus ∉ bytes) {c : Char} :
    Percent.formText bytes = String.singleton c ↔
      Percent.decode bytes = String.utf8EncodeChar c ∨
        c = Utf8.replacement ∧ Utf8.IllFormed (Percent.decode bytes) := by
  rw [formText_eq_singleton, Percent.plusToSpace_of_not_mem hplus]

section Reading

variable {web : WebCrates} (hform : ∀ query, web.firstFormValue query = formFirstValue query)

include hform

/-- `decode_separator` accepts the one character that the form parser reads. -/
theorem decodeSeparator_singleton {encoded : String} {c : Char} :
    decodeSeparator web encoded = .ok (String.singleton c) ↔
      Percent.formText (separatorRead encoded) = String.singleton c ∧ isStructural c = false := by
  rw [decodeSeparator_eq_ok, hform, formFirstValue_separator]
  simp

/-- `decode_separator` accepts exactly its grammar when it does so character by character. -/
theorem decodeSeparator_exact_iff {encoded : String} :
    (∀ separator, decodeSeparator web encoded = .ok separator ↔
        EncodesSeparator (utf8 encoded) separator) ↔
      ∀ c, isStructural c = false →
        (Percent.formText (separatorRead encoded) = String.singleton c ↔
          Percent.decode (utf8 encoded) = String.utf8EncodeChar c) := by
  constructor
  · intro h c hc
    have hsingle := h (String.singleton c)
    rw [decodeSeparator_singleton hform, encodesSeparator_singleton] at hsingle
    simpa only [hc, and_true] using hsingle
  · intro h separator
    constructor
    · intro hok
      obtain ⟨c, rfl⟩ := eq_singleton_of_length (decodeSeparator_eq_ok.mp hok).2.1
      obtain ⟨htext, hc⟩ := (decodeSeparator_singleton hform).mp hok
      exact encodesSeparator_singleton.mpr ⟨(h c hc).mp htext, hc⟩
    · intro hencodes
      obtain ⟨c, rfl⟩ := eq_singleton_of_length hencodes.2.1
      obtain ⟨hbytes, hc⟩ := encodesSeparator_singleton.mp hencodes
      exact (decodeSeparator_singleton hform).mpr ⟨(h c hc).mpr hbytes, hc⟩

end Reading

/-- Where the form parser reads a text as it was meant, it reads its character. -/
theorem ReadAsMeant.reads {encoded : String} (h : ReadAsMeant encoded) {c : Char}
    (hc : isStructural c = false) :
    Percent.formText (separatorRead encoded) = String.singleton c ↔
      Percent.decode (utf8 encoded) = String.utf8EncodeChar c := by
  by_cases hampersand : ampersand ∈ utf8 encoded
  · -- A text with an ampersand encodes no character, and none is read before the ampersand.
    constructor
    · intro hread
      exfalso
      by_cases hplus : plus ∈ separatorRead encoded
      · exact h.ne_plus ((formText_of_plus_mem hplus).mp hread).1
      · rcases (formText_of_plus_not_mem hplus).mp hread with hencode | ⟨-, hill⟩
        · exact h.nothing_ignored hampersand _ (encodesSeparator_singleton.mpr ⟨hencode, hc⟩)
        · exact h.wellFormed hill
    · intro hencode
      have hbytes := eq_singleton_of_encodes (by decide) (by decide) (by decide) hampersand hencode
      exact absurd (utf8_injective (hbytes.trans (by decide : [ampersand] = utf8 "&")))
        h.ne_ampersand
  · have hread : separatorRead encoded = utf8 encoded := Percent.cut_fst_of_not_mem hampersand
    have hne := h.ne_plus
    have hwell := h.wellFormed
    rw [hread] at hne hwell ⊢
    by_cases hplus : plus ∈ utf8 encoded
    · rw [formText_of_plus_mem hplus]
      constructor
      · exact fun hbytes => absurd hbytes.1 hne
      · intro hencode
        exact absurd (eq_singleton_of_encodes (by decide) (by decide) (by decide) hplus hencode) hne
    · rw [formText_of_plus_not_mem hplus]
      exact or_iff_left fun hill => hwell hill.2

/-- A text that is not read as it was meant has a character that tells. -/
theorem readAsMeant_of_reads {encoded : String}
    (h : ∀ c, isStructural c = false →
      (Percent.formText (separatorRead encoded) = String.singleton c ↔
        Percent.decode (utf8 encoded) = String.utf8EncodeChar c)) :
    ReadAsMeant encoded := by
  have hsub : ∀ byte ∈ separatorRead encoded, byte ∈ utf8 encoded := fun byte hbyte =>
    (List.takeWhile_sublist _).subset hbyte
  have hne : separatorRead encoded ≠ [plus] := by
    intro hread
    have hencode := (h ' ' (by decide)).mp
      ((formText_of_plus_mem (by simp [hread])).mpr ⟨hread, rfl⟩)
    have hbytes := eq_singleton_of_encodes (by decide) (by decide) (by decide)
      (hsub plus (by simp [hread])) hencode
    rw [hbytes] at hencode
    revert hencode
    decide
  refine ⟨?_, hne, ?_, ?_⟩
  · rintro rfl
    have hread := (h '&' (by decide)).mpr (by decide)
    revert hread
    decide
  · -- An ill-formed sequence is read as a replacement, which it does not encode.
    intro hill
    have hplus : plus ∉ separatorRead encoded := fun hmem =>
      absurd (hill.not_ascii plus (mem_decode (by decide) (by decide) hmem)) (by decide)
    have hencode := (h Utf8.replacement (by decide)).mp
      ((formText_of_plus_not_mem hplus).mpr (.inr ⟨rfl, hill⟩))
    by_cases hampersand : ampersand ∈ utf8 encoded
    · have hmem := mem_decode (by decide) (by decide) hampersand
      rw [hencode] at hmem
      revert hmem
      decide
    · rw [separatorRead, Percent.cut_fst_of_not_mem hampersand] at hill
      exact hill.ne_encode _ hencode
  · -- What is read before an ampersand is not what the whole text encodes.
    intro hampersand separator hencodes
    obtain ⟨c, rfl⟩ := eq_singleton_of_length hencodes.2.1
    obtain ⟨hencode, hc⟩ := encodesSeparator_singleton.mp hencodes
    by_cases hplus : plus ∈ separatorRead encoded
    · exact hne (eq_singleton_of_encodes (by decide) (by decide) (by decide) hplus hencode)
    · have hwhole := (h c hc).mp ((formText_of_plus_not_mem hplus).mpr (.inl hencode))
      have hbytes := eq_singleton_of_encodes (by decide) (by decide) (by decide) hampersand hwhole
      obtain rfl := utf8_injective (hbytes.trans (by decide : [ampersand] = utf8 "&"))
      revert hencode
      change Percent.decode (separatorRead "&") = _ → False
      rw [show separatorRead "&" = [] by decide]
      exact fun hnil => by
        have := congrArg List.length hnil
        rw [String.length_utf8EncodeChar] at this
        exact absurd this.symm (Nat.pos_iff_ne_zero.mp c.utf8Size_pos)

/-- `decode_separator` accepts exactly the encoded characters where the form parser reads the text
as it was meant. -/
theorem decodeSeparator_exact {web : WebCrates}
    (hform : ∀ query, web.firstFormValue query = formFirstValue query) (encoded : String) :
    (∀ separator, decodeSeparator web encoded = .ok separator ↔
        EncodesSeparator (utf8 encoded) separator) ↔ ReadAsMeant encoded :=
  (decodeSeparator_exact_iff hform).trans
    ⟨readAsMeant_of_reads, fun h _ hc => h.reads hc⟩

/-- The functions of the sample runs with the form parser of the standard. -/
def formWeb : WebCrates := { sampleWeb [] with firstFormValue := formFirstValue }

/-- The default separator is read as it is meant. -/
theorem decodeSeparator_exact_default :
    (∀ separator, decodeSeparator formWeb defaultNamespaceSeparator = .ok separator ↔
        EncodesSeparator (utf8 defaultNamespaceSeparator) separator) ↔
      ReadAsMeant defaultNamespaceSeparator :=
  decodeSeparator_exact (fun _ => rfl) _

/-- A lone plus sign is taken for a space. -/
theorem decodeSeparator_plus :
    ¬∀ web : WebCrates, (∀ query, web.firstFormValue query = formFirstValue query) →
      ∀ encoded separator, decodeSeparator web encoded = .ok separator ↔
        EncodesSeparator (utf8 encoded) separator := by
  intro h
  have hspace := (h formWeb (fun _ => rfl) "+" " ").mp (by decide)
  revert hspace
  unfold EncodesSeparator
  decide

end CatalogBench.Conformance
