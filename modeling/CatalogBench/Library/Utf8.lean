import CatalogBench.Library.ListRel

/-!
# Decoding UTF-8 with replacement

The decoder of the Encoding Standard: a machine over bytes that yields U+FFFD for each longest
beginning of a sequence that no character has.
-/

set_option linter.all false

namespace Utf8

def replacement : Char := '\uFFFD'

-- ════════════════════════════════
-- The bytes of a character
-- ════════════════════════════════

/-- The bytes that may stand at a place, by their least and their greatest. -/
abbrev Range := ℕ × ℕ

def continuation : Range := (0x80, 0xBF)

/-- What follows the first byte of a character. -/
def tails (first : ℕ) : Option (List Range) :=
  if first ≤ 0x7F then some []
  else if 0xC2 ≤ first ∧ first ≤ 0xDF then some [continuation]
  else if 0xE0 ≤ first ∧ first ≤ 0xEF then
    some [(if first = 0xE0 then 0xA0 else 0x80, if first = 0xED then 0x9F else 0xBF), continuation]
  else if 0xF0 ≤ first ∧ first ≤ 0xF4 then
    some [(if first = 0xF0 then 0x90 else 0x80, if first = 0xF4 then 0x8F else 0xBF), continuation,
      continuation]
  else none

/-- The part of the code point that the first byte holds. -/
def leading (first : ℕ) : ℕ :=
  if first ≤ 0x7F then first
  else if first ≤ 0xDF then first % 32
  else if first ≤ 0xEF then first % 16
  else first % 8

def Range.Has (range : Range) (byte : UInt8) : Prop :=
  range.1 ≤ byte.toNat ∧ byte.toNat ≤ range.2

instance (range : Range) (byte : UInt8) : Decidable (range.Has byte) :=
  inferInstanceAs (Decidable (_ ∧ _))

/-- The code point after more bytes. -/
def extended (value : ℕ) (bytes : List UInt8) : ℕ :=
  bytes.foldl (fun value byte => value * 64 + byte.toNat % 64) value

@[simp] theorem extended_nil (value : ℕ) : extended value [] = value := rfl

@[simp] theorem extended_cons (value : ℕ) (byte : UInt8) (bytes : List UInt8) :
    extended value (byte :: bytes) = extended (value * 64 + byte.toNat % 64) bytes := rfl

/-- A code point is no surrogate and at most U+10FFFF. -/
theorem scalar (c : Char) : c.toNat < 0xD800 ∨ 0xDFFF < c.toNat ∧ c.toNat < 0x110000 := c.valid

/-- A byte made from a number that fits. -/
theorem toNat_ofNat {n : ℕ} (h : n < 256) : (UInt8.ofNat n).toNat = n := by
  simp [Nat.mod_eq_of_lt h]

theorem byte_ext {a b : UInt8} (h : a.toNat = b.toNat) : a = b := UInt8.toNat.inj h

section Table

variable {first : ℕ}

theorem tails_one (h : first ≤ 0x7F) : tails first = some [] := if_pos h

theorem tails_two (h : 0xC2 ≤ first ∧ first ≤ 0xDF) : tails first = some [continuation] := by
  rw [tails, if_neg (by omega), if_pos h]

theorem tails_three (h : 0xE0 ≤ first ∧ first ≤ 0xEF) :
    tails first =
      some [(if first = 0xE0 then 0xA0 else 0x80, if first = 0xED then 0x9F else 0xBF),
        continuation] := by
  rw [tails, if_neg (by omega), if_neg (by omega), if_pos h]

theorem tails_four (h : 0xF0 ≤ first ∧ first ≤ 0xF4) :
    tails first =
      some [(if first = 0xF0 then 0x90 else 0x80, if first = 0xF4 then 0x8F else 0xBF),
        continuation, continuation] := by
  rw [tails, if_neg (by omega), if_neg (by omega), if_neg (by omega), if_pos h]

theorem tails_none (h : 0x80 ≤ first) (h' : first < 0xC2 ∨ 0xF4 < first) : tails first = none := by
  rw [tails, if_neg (by omega), if_neg (by omega), if_neg (by omega), if_neg (by omega)]

theorem le_of_tails_nil (h : tails first = some []) : first ≤ 0x7F := by
  unfold tails at h
  split at h
  · assumption
  split at h
  · cases h
  split at h
  · cases h
  split at h <;> cases h

/-- Every place of the table may be taken. -/
theorem has_of_mem_tails {ranges : List Range} (h : tails first = some ranges) :
    ∀ range ∈ ranges, range.Has (UInt8.ofNat range.1) := by
  unfold tails at h
  -- The two ends of the first range are moved for different bytes.
  split_ifs at h <;> first | omega | (cases h; decide)

theorem leading_one (h : first ≤ 0x7F) : leading first = first := if_pos h

theorem leading_two (h : 0xC0 ≤ first ∧ first ≤ 0xDF) : leading first = first - 0xC0 := by
  rw [leading, if_neg (by omega), if_pos h.2]
  omega

theorem leading_three (h : 0xE0 ≤ first ∧ first ≤ 0xEF) : leading first = first - 0xE0 := by
  rw [leading, if_neg (by omega), if_neg (by omega), if_pos h.2]
  omega

theorem leading_four (h : 0xF0 ≤ first ∧ first ≤ 0xF7) : leading first = first - 0xF0 := by
  rw [leading, if_neg (by omega), if_neg (by omega), if_neg (by omega)]
  omega

end Table

/-- A character is encoded by the bytes of the table. -/
theorem tails_of_encode {c : Char} {first : UInt8} {bytes : List UInt8}
    (h : String.utf8EncodeChar c = first :: bytes) :
    ∃ ranges, tails first.toNat = some ranges ∧ List.Forall₂ Range.Has ranges bytes ∧
      c.toNat = extended (leading first.toNat) bytes := by
  have hscalar := scalar c
  have hval : c.val.toNat = c.toNat := rfl
  unfold String.utf8EncodeChar at h
  simp only [hval] at h
  split_ifs at h with h1 h2 h3 <;> obtain ⟨rfl, rfl⟩ := List.cons.inj h
  · rw [toNat_ofNat (by omega), tails_one h1, leading_one h1]
    exact ⟨[], rfl, .nil, rfl⟩
  · rw [toNat_ofNat (by omega), tails_two (by omega), leading_two (by omega)]
    refine ⟨_, rfl, .cons ?_ .nil, ?_⟩
    · rw [Range.Has, toNat_ofNat (by omega), continuation]
      omega
    · rw [extended_cons, toNat_ofNat (by omega), extended_nil]
      omega
  · rw [toNat_ofNat (by omega), tails_three (by omega), leading_three (by omega)]
    refine ⟨_, rfl, .cons ?_ (.cons ?_ .nil), ?_⟩
    · rw [Range.Has, toNat_ofNat (by omega)]
      split_ifs <;> omega
    · rw [Range.Has, toNat_ofNat (by omega), continuation]
      omega
    · rw [extended_cons, extended_cons, toNat_ofNat (by omega), toNat_ofNat (by omega),
        extended_nil]
      omega
  · rw [toNat_ofNat (by omega), tails_four (by omega), leading_four (by omega)]
    refine ⟨_, rfl, .cons ?_ (.cons ?_ (.cons ?_ .nil)), ?_⟩
    · rw [Range.Has, toNat_ofNat (by omega)]
      split_ifs <;> omega
    · rw [Range.Has, toNat_ofNat (by omega), continuation]
      omega
    · rw [Range.Has, toNat_ofNat (by omega), continuation]
      omega
    · rw [extended_cons, extended_cons, extended_cons, toNat_ofNat (by omega),
        toNat_ofNat (by omega), toNat_ofNat (by omega), extended_nil]
      omega

theorem toNat_char {n : ℕ} (h : n < 0xD800 ∨ 0xDFFF < n ∧ n < 0x110000) :
    (Char.ofNat n).val.toNat = n := by
  rw [Char.ofNat, dif_pos h]
  rfl

/-- Bytes of the table encode the character of their code point. -/
theorem encode_of_tails {first : UInt8} {ranges : List Range} {bytes : List UInt8}
    (hfirst : tails first.toNat = some ranges) (hbytes : List.Forall₂ Range.Has ranges bytes) :
    String.utf8EncodeChar (Char.ofNat (extended (leading first.toNat) bytes)) = first :: bytes := by
  have hlt : first.toNat < 256 := first.toNat_lt
  unfold String.utf8EncodeChar
  rcases (by omega : first.toNat ≤ 0x7F ∨
      (0x80 ≤ first.toNat ∧ (first.toNat < 0xC2 ∨ 0xF4 < first.toNat)) ∨
      (0xC2 ≤ first.toNat ∧ first.toNat ≤ 0xDF) ∨ (0xE0 ≤ first.toNat ∧ first.toNat ≤ 0xEF) ∨
      (0xF0 ≤ first.toNat ∧ first.toNat ≤ 0xF4)) with h | h | h | h | h
  · cases (tails_one h).symm.trans hfirst
    cases hbytes
    rw [extended_nil, leading_one h]
    simp only [toNat_char (n := first.toNat) (by omega), if_pos h]
    exact congrArg (· :: []) (byte_ext (toNat_ofNat hlt))
  · cases (tails_none h.1 h.2).symm.trans hfirst
  · cases (tails_two h).symm.trans hfirst
    obtain _ | ⟨hb, _ | _⟩ := hbytes
    rename_i b
    simp only [Range.Has, continuation] at hb
    rw [extended_cons, extended_nil, leading_two (by omega)]
    have hn := @toNat_char ((first.toNat - 0xC0) * 64 + b.toNat % 64) (by omega)
    simp only [hn]
    rw [if_neg (by omega), if_pos (by omega)]
    congr 1
    · exact byte_ext ((toNat_ofNat (by omega)).trans (by omega))
    · exact congrArg (· :: []) (byte_ext ((toNat_ofNat (by omega)).trans (by omega)))
  · cases (tails_three h).symm.trans hfirst
    obtain _ | ⟨hb, _ | ⟨hc, _ | _⟩⟩ := hbytes
    rename_i b c
    simp only [Range.Has, continuation] at hb hc
    have hb' : 0x80 ≤ b.toNat ∧ b.toNat ≤ 0xBF ∧ (first.toNat = 0xE0 → 0xA0 ≤ b.toNat) ∧
        (first.toNat = 0xED → b.toNat ≤ 0x9F) := by
      split_ifs at hb <;> omega
    rw [extended_cons, extended_cons, extended_nil, leading_three (by omega)]
    have hn := @toNat_char (((first.toNat - 0xE0) * 64 + b.toNat % 64) * 64 + c.toNat % 64)
      (by omega)
    simp only [hn]
    rw [if_neg (by omega), if_neg (by omega), if_pos (by omega)]
    congr 1
    · exact byte_ext ((toNat_ofNat (by omega)).trans (by omega))
    congr 1
    · exact byte_ext ((toNat_ofNat (by omega)).trans (by omega))
    · exact congrArg (· :: []) (byte_ext ((toNat_ofNat (by omega)).trans (by omega)))
  · cases (tails_four h).symm.trans hfirst
    obtain _ | ⟨hb, _ | ⟨hc, _ | ⟨hd, _ | _⟩⟩⟩ := hbytes
    rename_i b c d
    simp only [Range.Has, continuation] at hb hc hd
    have hb' : 0x80 ≤ b.toNat ∧ b.toNat ≤ 0xBF ∧ (first.toNat = 0xF0 → 0x90 ≤ b.toNat) ∧
        (first.toNat = 0xF4 → b.toNat ≤ 0x8F) := by
      split_ifs at hb <;> omega
    rw [extended_cons, extended_cons, extended_cons, extended_nil, leading_four (by omega)]
    have hn := @toNat_char ((((first.toNat - 0xF0) * 64 + b.toNat % 64) * 64 + c.toNat % 64) * 64 +
      d.toNat % 64) (by omega)
    simp only [hn]
    rw [if_neg (by omega), if_neg (by omega), if_neg (by omega)]
    congr 1
    · exact byte_ext ((toNat_ofNat (by omega)).trans (by omega))
    congr 1
    · exact byte_ext ((toNat_ofNat (by omega)).trans (by omega))
    congr 1
    · exact byte_ext ((toNat_ofNat (by omega)).trans (by omega))
    · exact congrArg (· :: []) (byte_ext ((toNat_ofNat (by omega)).trans (by omega)))

-- ════════════════════════════════
-- The decoder
-- ════════════════════════════════

inductive State
  | start
  /-- Inside a character: the code point so far, and what the next bytes may be. -/
  | owing (value : ℕ) (range : Range) (ranges : List Range)
  deriving DecidableEq

/-- A byte between characters. -/
def begin (byte : UInt8) : List Char × State :=
  match tails byte.toNat with
  | none => ([replacement], .start)
  | some [] => ([Char.ofNat byte.toNat], .start)
  | some (range :: ranges) => ([], .owing (leading byte.toNat) range ranges)

def step : State → UInt8 → List Char × State
  | .start, byte => begin byte
  | .owing value range ranges, byte =>
    if range.Has byte then
      match ranges with
      | [] => ([Char.ofNat (value * 64 + byte.toNat % 64)], .start)
      | range :: ranges => ([], .owing (value * 64 + byte.toNat % 64) range ranges)
    else
      -- The character breaks off here, and the byte is read again.
      (replacement :: (begin byte).1, (begin byte).2)

def decodeFrom : State → List UInt8 → List Char
  | .start, [] => []
  | .owing .., [] => [replacement]
  | state, byte :: bytes => (step state byte).1 ++ decodeFrom (step state byte).2 bytes

/-- The characters of bytes, ill-formed sequences replaced. -/
def decode (bytes : List UInt8) : List Char := decodeFrom .start bytes

theorem decodeFrom_cons (state : State) (byte : UInt8) (bytes : List UInt8) :
    decodeFrom state (byte :: bytes) =
      (step state byte).1 ++ decodeFrom (step state byte).2 bytes := by
  cases state <;> rfl

/-- The bytes a character still owes complete it. -/
theorem decodeFrom_owing {range : Range} {ranges : List Range} {bytes : List UInt8}
    (h : List.Forall₂ Range.Has (range :: ranges) bytes) (value : ℕ) (rest : List UInt8) :
    decodeFrom (.owing value range ranges) (bytes ++ rest) =
      Char.ofNat (extended value bytes) :: decode rest := by
  induction ranges generalizing range bytes value with
  | nil =>
    obtain _ | ⟨hbyte, _ | _⟩ := h
    simp [decodeFrom_cons, step, hbyte, decode]
  | cons next ranges ih =>
    obtain _ | ⟨hbyte, hrest⟩ := h
    rw [List.cons_append, decodeFrom_cons]
    simp only [step, if_pos hbyte, List.nil_append, extended_cons]
    exact ih hrest _

/-- The encoding of a character is read as that character. -/
theorem decode_encode_append (c : Char) (rest : List UInt8) :
    decode (String.utf8EncodeChar c ++ rest) = c :: decode rest := by
  cases hencode : String.utf8EncodeChar c with
  | nil =>
    have := congrArg List.length hencode
    rw [String.length_utf8EncodeChar] at this
    exact absurd this (Nat.pos_iff_ne_zero.mp c.utf8Size_pos)
  | cons first bytes =>
    obtain ⟨ranges, htails, hbytes, hvalue⟩ := tails_of_encode hencode
    have hc : Char.ofNat (extended (leading first.toNat) bytes) = c := by
      rw [← hvalue, Char.ofNat_toNat]
    rw [List.cons_append, decode, decodeFrom_cons]
    cases ranges with
    | nil =>
      cases hbytes
      rw [extended_nil, leading_one (le_of_tails_nil htails)] at hc
      simp only [step, begin, htails, hc]
      rfl
    | cons range ranges =>
      simp only [step, begin, htails, List.nil_append]
      rw [decodeFrom_owing hbytes, hc]

/-- The encoding of characters is read as those characters. -/
theorem decode_encode (chars : List Char) :
    decode (chars.flatMap String.utf8EncodeChar) = chars := by
  induction chars with
  | nil => rfl
  | cons c chars ih => rw [List.flatMap_cons, decode_encode_append, ih]

-- ════════════════════════════════
-- One character
-- ════════════════════════════════

/-- One ill-formed sequence: a byte that is not ASCII, alone, or the beginning of a character. -/
def IllFormed (bytes : List UInt8) : Prop :=
  (∃ byte : UInt8, 0x80 ≤ byte.toNat ∧ bytes = [byte]) ∨
    bytes ≠ [] ∧ ∃ c, bytes <+: String.utf8EncodeChar c ∧ bytes ≠ String.utf8EncodeChar c

theorem step_progress (state : State) (byte : UInt8) :
    (step state byte).1 ≠ [] ∨ (step state byte).2 ≠ .start := by
  have hbegin : (begin byte).1 ≠ [] ∨ (begin byte).2 ≠ .start := by
    unfold begin
    split <;> simp
  cases state with
  | start => exact hbegin
  | owing value range ranges =>
    simp only [step]
    split
    · cases ranges <;> simp
    · simp

theorem decodeFrom_ne_nil {state : State} {bytes : List UInt8}
    (h : state ≠ .start ∨ bytes ≠ []) : decodeFrom state bytes ≠ [] := by
  induction bytes generalizing state with
  | nil =>
    cases state with
    | start => simp at h
    | owing => exact List.cons_ne_nil _ _
  | cons byte bytes ih =>
    rw [decodeFrom_cons]
    rcases step_progress state byte with hchars | hstate
    · exact List.append_ne_nil_of_left_ne_nil hchars _
    · exact List.append_ne_nil_of_right_ne_nil _ (ih (.inl hstate))

@[simp] theorem decode_eq_nil {bytes : List UInt8} : decode bytes = [] ↔ bytes = [] :=
  ⟨fun h => by_contra fun hne => decodeFrom_ne_nil (.inr hne) h, fun h => h ▸ rfl⟩

/-- One character read inside a character: the one begun, or a replacement where it breaks off. -/
theorem decodeFrom_owing_singleton {value : ℕ} {range : Range} {ranges : List Range}
    {bytes : List UInt8} {c : Char} (h : decodeFrom (.owing value range ranges) bytes = [c]) :
    List.Forall₂ Range.Has (range :: ranges) bytes ∧ c = Char.ofNat (extended value bytes) ∨
      c = replacement ∧ ∃ met unmet, range :: ranges = met ++ unmet ∧ unmet ≠ [] ∧
        List.Forall₂ Range.Has met bytes := by
  induction bytes generalizing value range ranges with
  | nil =>
    cases h
    exact .inr ⟨rfl, [], range :: ranges, rfl, List.cons_ne_nil _ _, .nil⟩
  | cons byte bytes ih =>
    rw [decodeFrom_cons] at h
    by_cases hbyte : range.Has byte
    · cases ranges with
      | nil =>
        simp only [step, if_pos hbyte, List.singleton_append, List.cons.injEq] at h
        obtain ⟨hc, hrest⟩ := h
        obtain rfl := decode_eq_nil.mp hrest
        exact .inl ⟨.cons hbyte .nil, hc.symm⟩
      | cons next ranges =>
        simp only [step, if_pos hbyte, List.nil_append] at h
        rcases ih h with ⟨hall, hc⟩ | ⟨hc, met, unmet, hranges, hunmet, hmet⟩
        · exact .inl ⟨.cons hbyte hall, hc⟩
        · exact .inr ⟨hc, range :: met, unmet, congrArg _ hranges, hunmet, .cons hbyte hmet⟩
    · -- The byte that breaks the character off is read again and yields more.
      simp only [step, if_neg hbyte, List.cons_append, List.cons.injEq] at h
      have hne : decodeFrom .start (byte :: bytes) ≠ [] :=
        decodeFrom_ne_nil (.inr (List.cons_ne_nil _ _))
      exact absurd h.2 hne

/-- A character that breaks off at the end is one replacement. -/
theorem decodeFrom_owing_short {value : ℕ} {range : Range} {ranges met unmet : List Range}
    {bytes : List UInt8} (hranges : range :: ranges = met ++ unmet) (hunmet : unmet ≠ [])
    (hmet : List.Forall₂ Range.Has met bytes) :
    decodeFrom (.owing value range ranges) bytes = [replacement] := by
  induction hmet generalizing value range ranges with
  | nil => rfl
  | @cons range' byte met bytes hbyte hmet ih =>
    obtain ⟨rfl, htail⟩ := List.cons.inj hranges
    cases ranges with
    | nil => exact absurd (List.append_eq_nil_iff.mp htail.symm).2 hunmet
    | cons next ranges =>
      rw [decodeFrom_cons]
      simp only [step, if_pos hbyte, List.nil_append]
      exact ih htail

/-- Ranges that may all be met. -/
theorem exists_forall₂_has {ranges : List Range}
    (h : ∀ range ∈ ranges, range.Has (UInt8.ofNat range.1)) :
    ∃ bytes, List.Forall₂ Range.Has ranges bytes :=
  ⟨ranges.map fun range => UInt8.ofNat range.1,
    List.forall₂_map_right_iff.mpr (List.forall₂_same.mpr h)⟩

/-- One character read from a first byte and what follows it. -/
theorem decode_cons_singleton {first : UInt8} {bytes : List UInt8} {c : Char}
    (h : decode (first :: bytes) = [c]) :
    first :: bytes = String.utf8EncodeChar c ∨ c = replacement ∧ IllFormed (first :: bytes) := by
  rw [decode, decodeFrom_cons] at h
  simp only [step, begin] at h
  cases htails : tails first.toNat with
  | none =>
    simp only [htails, List.singleton_append, List.cons.injEq] at h
    obtain ⟨rfl, hrest⟩ := h
    obtain rfl := decode_eq_nil.mp hrest
    refine .inr ⟨rfl, .inl ⟨first, ?_, rfl⟩⟩
    by_contra hlow
    rw [tails_one (by omega)] at htails
    cases htails
  | some ranges =>
    cases ranges with
    | nil =>
      simp only [htails, List.singleton_append, List.cons.injEq] at h
      obtain ⟨rfl, hrest⟩ := h
      obtain rfl := decode_eq_nil.mp hrest
      have hencode := encode_of_tails htails .nil
      rw [extended_nil, leading_one (le_of_tails_nil htails)] at hencode
      exact .inl hencode.symm
    | cons range ranges =>
      simp only [htails, List.nil_append] at h
      rcases decodeFrom_owing_singleton h with ⟨hall, rfl⟩ | ⟨rfl, met, unmet, hranges, hne, hmet⟩
      · exact .inl (encode_of_tails htails hall).symm
      · -- The beginning of a character: some bytes complete it.
        have hinhabited := has_of_mem_tails htails
        rw [hranges] at hinhabited htails
        obtain ⟨more, hmore⟩ := exists_forall₂_has fun range hrange =>
          hinhabited range (List.mem_append_right _ hrange)
        have hencode := encode_of_tails htails (List.rel_append hmet hmore)
        refine .inr ⟨rfl, .inr ⟨List.cons_ne_nil _ _, _, ⟨more, hencode.symm⟩, fun heq => ?_⟩⟩
        have hlength := congrArg List.length (heq.trans hencode)
        have hpos := List.length_pos_iff.mpr hne
        rw [hmore.length_eq] at hpos
        rw [List.length_cons, List.length_cons, List.length_append] at hlength
        omega

/-- An ill-formed sequence is replaced by one character. -/
theorem decode_illFormed {bytes : List UInt8} (h : IllFormed bytes) :
    decode bytes = [replacement] := by
  rcases h with ⟨byte, hbyte, rfl⟩ | ⟨hne, c, hstarts, hproper⟩
  · rw [decode, decodeFrom_cons]
    simp only [step, begin]
    cases htails : tails byte.toNat with
    | none => rfl
    | some ranges =>
      cases ranges with
      | nil => exact absurd (le_of_tails_nil htails) (by omega)
      | cons range ranges => rfl
  · obtain ⟨more, hencode⟩ := hstarts
    obtain ⟨first, bytes, rfl⟩ := List.exists_cons_of_ne_nil hne
    obtain ⟨ranges, htails, hall, -⟩ := tails_of_encode hencode.symm
    have hlength : ranges.length = bytes.length + more.length :=
      hall.length_eq.trans List.length_append
    have hmore : 0 < more.length := by
      refine List.length_pos_iff.mpr ?_
      rintro rfl
      exact hproper (by simpa using hencode)
    cases ranges with
    | nil =>
      rw [List.length_nil] at hlength
      omega
    | cons range ranges =>
      rw [decode, decodeFrom_cons]
      simp only [step, begin, htails, List.nil_append]
      refine decodeFrom_owing_short (List.take_append_drop bytes.length _).symm ?_
        (List.forall₂_take_append _ _ _ hall)
      refine List.length_pos_iff.mp ?_
      rw [List.length_drop]
      omega

/-- What is read as one character. -/
theorem decode_eq_singleton {bytes : List UInt8} {c : Char} :
    decode bytes = [c] ↔
      bytes = String.utf8EncodeChar c ∨ c = replacement ∧ IllFormed bytes := by
  constructor
  · intro h
    cases bytes with
    | nil => cases h
    | cons first bytes => exact decode_cons_singleton h
  · rintro (rfl | ⟨rfl, hill⟩)
    · have := decode_encode_append c []
      rwa [List.append_nil] at this
    · exact decode_illFormed hill

/-- An ASCII character is one byte. -/
theorem encode_ascii {c : Char} (h : c.toNat < 128) :
    String.utf8EncodeChar c = [.ofNat c.toNat] := by
  have hle : c.val.toNat ≤ 127 := Nat.le_of_lt_succ h
  rw [String.utf8EncodeChar]
  simp only [hle, if_true]
  rfl

theorem encode_injective {a b : Char} (h : String.utf8EncodeChar a = String.utf8EncodeChar b) :
    a = b := by
  have hdecode := decode_eq_singleton.mpr (.inl h)
  rw [decode_eq_singleton.mpr (.inl rfl)] at hdecode
  exact (List.cons.inj hdecode).1

-- ════════════════════════════════
-- ASCII
-- ════════════════════════════════

/-- No byte after the first is ASCII. -/
theorem le_of_mem_tails {first : ℕ} {ranges : List Range} (h : tails first = some ranges) :
    ∀ range ∈ ranges, 0x80 ≤ range.1 := by
  unfold tails at h
  split_ifs at h <;> cases h <;> decide

/-- An ASCII byte of a character is the whole character. -/
theorem encode_of_ascii_mem {c : Char} {byte : UInt8} (hbyte : byte.toNat < 0x80)
    (hmem : byte ∈ String.utf8EncodeChar c) : String.utf8EncodeChar c = [byte] := by
  cases hencode : String.utf8EncodeChar c with
  | nil =>
    rw [hencode] at hmem
    cases hmem
  | cons first bytes =>
    obtain ⟨ranges, htails, hbytes, -⟩ := tails_of_encode hencode
    rw [hencode, List.mem_cons] at hmem
    rcases hmem with rfl | hmem
    · cases (tails_one (by omega)).symm.trans htails
      cases hbytes
      rfl
    · obtain ⟨range, hrange, hhas⟩ := ListRel.forall₂_mem_right hbytes hmem
      have hlow := le_of_mem_tails htails range hrange
      exact absurd (Nat.le_trans hlow hhas.1) (by omega)

/-- An ill-formed sequence holds no ASCII. -/
theorem IllFormed.not_ascii {bytes : List UInt8} (h : IllFormed bytes) :
    ∀ byte ∈ bytes, 0x80 ≤ byte.toNat := by
  intro byte hmem
  rcases h with ⟨first, hfirst, rfl⟩ | ⟨hne, c, hstarts, hproper⟩
  · rw [List.mem_singleton.mp hmem]
    exact hfirst
  · by_contra hlow
    have hencode := encode_of_ascii_mem (by omega) (hstarts.subset hmem)
    rw [hencode] at hstarts hproper
    rcases List.prefix_cons_iff.mp hstarts with heq | ⟨rest, rfl, hrest⟩
    · exact hne heq
    · rw [List.prefix_nil.mp hrest] at hproper
      exact hproper rfl

/-- An ill-formed sequence encodes no character. -/
theorem IllFormed.ne_encode {bytes : List UInt8} (h : IllFormed bytes) (c : Char) :
    bytes ≠ String.utf8EncodeChar c := by
  rintro rfl
  rcases h with ⟨byte, hbyte, hsingle⟩ | ⟨-, c', ⟨more, hstarts⟩, hproper⟩
  · obtain ⟨ranges, htails, hall, -⟩ := tails_of_encode hsingle
    cases List.forall₂_nil_right_iff.mp hall
    have := le_of_tails_nil htails
    omega
  · have hdecode := congrArg decode hstarts
    rw [decode_encode_append, decode_eq_singleton.mpr (.inl rfl)] at hdecode
    obtain rfl := decode_eq_nil.mp (List.cons.inj hdecode).2
    exact hproper (by simpa using hstarts)

end Utf8
