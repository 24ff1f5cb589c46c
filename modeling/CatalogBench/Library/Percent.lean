import CatalogBench.Library.Utf8

/-!
# Percent-encoding and forms

Percent-decoding and the parser of `application/x-www-form-urlencoded`, as the URL Standard has
them, over bytes.
-/

set_option linter.all false

namespace Percent

def percent : UInt8 := 0x25
def ampersand : UInt8 := 0x26
def plus : UInt8 := 0x2B
def equals : UInt8 := 0x3D
def space : UInt8 := 0x20

/-- The value of a hexadecimal digit. -/
def hexValue (byte : UInt8) : Option ℕ :=
  let n := byte.toNat
  if 0x30 ≤ n ∧ n ≤ 0x39 then some (n - 0x30)
  else if 0x41 ≤ n ∧ n ≤ 0x46 then some (n - 0x41 + 10)
  else if 0x61 ≤ n ∧ n ≤ 0x66 then some (n - 0x61 + 10)
  else none

/-- The byte that two digits after a percent sign stand for. -/
def escaped (high low : UInt8) : Option UInt8 :=
  match hexValue high, hexValue low with
  | some high, some low => some (.ofNat (high * 16 + low))
  | _, _ => none

def decode : List UInt8 → List UInt8
  | [] => []
  | [byte] => [byte]
  | [byte, next] => [byte, next]
  | byte :: high :: low :: rest =>
    match if byte = percent then escaped high low else none with
    | some value => value :: decode rest
    | none => byte :: decode (high :: low :: rest)

/-- A byte that starts no escape stays. -/
theorem decode_cons {byte : UInt8} {rest : List UInt8}
    (h : ∀ high low after, rest = high :: low :: after → byte = percent → escaped high low = none) :
    decode (byte :: rest) = byte :: decode rest := by
  match rest with
  | [] => rfl
  | [_] => rfl
  | high :: low :: after =>
    have hnone : (if byte = percent then escaped high low else none) = none := by
      split
      · next heq => exact h high low after rfl heq
      · rfl
    rw [decode]
    simp only [hnone]

theorem decode_escape {high low value : UInt8} (h : escaped high low = some value)
    (rest : List UInt8) : decode (percent :: high :: low :: rest) = value :: decode rest := by
  rw [decode]
  simp only [if_pos, h]

/-- A byte that is no digit is part of no escape. -/
theorem escaped_eq_none {high low : UInt8} (h : hexValue high = none ∨ hexValue low = none) :
    escaped high low = none := by
  unfold escaped
  rcases h with h | h <;> rw [h]
  cases hexValue high <;> rfl

/-- A byte that is neither a percent sign nor a digit stays where it is. -/
theorem decode_append_cons {byte : UInt8} (hbyte : byte ≠ percent) (hhex : hexValue byte = none)
    (before after : List UInt8) :
    decode (before ++ byte :: after) = decode before ++ byte :: decode after := by
  have hcons : decode (byte :: after) = byte :: decode after :=
    decode_cons fun _ _ _ _ heq => absurd heq hbyte
  fun_induction decode before with
  | case1 => exact hcons
  | case2 first =>
    rw [List.singleton_append, decode_cons, hcons]
    · rfl
    · rintro high low rest heq -
      obtain ⟨rfl, -⟩ := List.cons.inj heq
      exact escaped_eq_none (.inl hhex)
  | case3 first next =>
    have hnext : decode (next :: byte :: after) = next :: byte :: decode after := by
      rw [decode_cons, hcons]
      rintro high low rest heq -
      obtain ⟨rfl, -⟩ := List.cons.inj heq
      exact escaped_eq_none (.inl hhex)
    change decode (first :: next :: byte :: after) = first :: next :: byte :: decode after
    rw [decode_cons, hnext]
    rintro high low rest heq -
    obtain ⟨rfl, hrest⟩ := List.cons.inj heq
    obtain ⟨rfl, -⟩ := List.cons.inj hrest
    exact escaped_eq_none (.inr hhex)
  | case4 first high low rest value hvalue ih =>
    split at hvalue
    · next heq =>
      subst heq
      change decode (percent :: high :: low :: (rest ++ byte :: after)) = _
      rw [decode_escape hvalue, ih]
      rfl
    · cases hvalue
  | case5 first high low rest hvalue ih =>
    change decode (first :: high :: low :: (rest ++ byte :: after)) = _
    rw [decode_cons]
    · exact congrArg (first :: ·) ih
    · intro high' low' rest' heq hfirst
      obtain ⟨rfl, hrest⟩ := List.cons.inj heq
      obtain ⟨rfl, -⟩ := List.cons.inj hrest
      rwa [if_pos hfirst] at hvalue

@[simp] theorem decode_eq_nil {bytes : List UInt8} : decode bytes = [] ↔ bytes = [] := by
  fun_cases decode bytes <;> simp_all

/-- Bytes that decode to one byte and hold one that stays hold only it. -/
theorem eq_singleton_of_mem {byte value : UInt8} (hbyte : byte ≠ percent)
    (hhex : hexValue byte = none) {bytes : List UInt8} (hmem : byte ∈ bytes)
    (h : decode bytes = [value]) : bytes = [byte] ∧ value = byte := by
  obtain ⟨before, after, rfl⟩ := List.append_of_mem hmem
  rw [decode_append_cons hbyte hhex] at h
  have hlength := congrArg List.length h
  rw [List.length_append, List.length_cons, List.length_singleton] at hlength
  have hbefore : decode before = [] := List.length_eq_zero_iff.mp (by omega)
  have hafter : decode after = [] := List.length_eq_zero_iff.mp (by omega)
  rw [hbefore, hafter] at h
  rw [decode_eq_nil.mp hbefore, decode_eq_nil.mp hafter]
  exact ⟨rfl, (List.cons.inj h).1.symm⟩

-- ════════════════════════════════
-- Forms
-- ════════════════════════════════

/-- The two sides of the first such byte; all is on the left where there is none. -/
def cut (byte : UInt8) (bytes : List UInt8) : List UInt8 × List UInt8 :=
  (bytes.takeWhile (· ≠ byte), (bytes.dropWhile (· ≠ byte)).drop 1)

def plusToSpace (bytes : List UInt8) : List UInt8 :=
  bytes.map fun byte => if byte = plus then space else byte

/-- The text of a name or a value. -/
def formText (bytes : List UInt8) : String := .ofList (Utf8.decode (decode (plusToSpace bytes)))

/-- The pairs of a form. -/
def formPairs (bytes : List UInt8) : List (String × String) :=
  ((bytes.splitOn ampersand).filter fun sequence => !sequence.isEmpty).map fun sequence =>
    (formText (cut equals sequence).1, formText (cut equals sequence).2)

theorem cut_fst_append {byte : UInt8} {before : List UInt8} (h : byte ∉ before)
    (after : List UInt8) : (cut byte (before ++ after)).1 = before ++ (cut byte after).1 :=
  List.takeWhile_append_of_pos fun _ hb => decide_eq_true fun heq => h (heq ▸ hb)

theorem cut_append {byte : UInt8} {before : List UInt8} (h : byte ∉ before) (after : List UInt8) :
    cut byte (before ++ byte :: after) = (before, after) := by
  have hfst := cut_fst_append h (byte :: after)
  have hsnd := @List.dropWhile_append_of_pos _ (· ≠ byte) before (byte :: after)
    fun b hb => decide_eq_true fun heq => h (heq ▸ hb)
  refine Prod.ext (hfst.trans ?_) ?_
  · simp [cut]
  · simp only [cut, hsnd]
    simp

theorem cut_fst_of_not_mem {byte : UInt8} {bytes : List UInt8} (h : byte ∉ bytes) :
    (cut byte bytes).1 = bytes := by
  have hcut := cut_fst_append h []
  rw [List.append_nil] at hcut
  exact hcut.trans (List.append_nil _)

theorem cut_snd_of_not_mem {byte : UInt8} {bytes : List UInt8} (h : byte ∉ bytes) :
    (cut byte bytes).2 = [] := by
  have hrest := @List.dropWhile_append_of_pos _ (· ≠ byte) bytes []
    fun b hb => decide_eq_true fun heq => h (heq ▸ hb)
  rw [List.append_nil, List.dropWhile_nil] at hrest
  rw [cut, hrest, List.drop_nil]

/-- Where the byte stands, if it does. -/
theorem eq_cut_of_mem {byte : UInt8} {bytes : List UInt8} (h : byte ∈ bytes) :
    bytes = (cut byte bytes).1 ++ byte :: (cut byte bytes).2 ∧ byte ∉ (cut byte bytes).1 := by
  obtain ⟨before, after, rfl, hbefore⟩ := List.eq_append_cons_of_mem h
  rw [cut_append hbefore]
  exact ⟨rfl, hbefore⟩

theorem splitOn_head (byte : UInt8) (bytes : List UInt8) :
    ∃ rest, bytes.splitOn byte = (cut byte bytes).1 :: rest := by
  by_cases h : byte ∈ bytes
  · refine ⟨(cut byte bytes).2.splitOn byte, ?_⟩
    obtain ⟨hbytes, hbefore⟩ := eq_cut_of_mem h
    conv_lhs => rw [hbytes]
    exact List.splitOn_append_cons_self_of_not_mem hbefore _
  · exact ⟨[], by rw [cut_fst_of_not_mem h, List.splitOn_eq_singleton h]⟩

/-- The first pair of a form that does not begin with an ampersand. -/
theorem formPairs_head? {bytes : List UInt8} (h : (cut ampersand bytes).1 ≠ []) :
    (formPairs bytes).head? =
      some (formText (cut equals (cut ampersand bytes).1).1,
        formText (cut equals (cut ampersand bytes).1).2) := by
  obtain ⟨rest, hsplit⟩ := splitOn_head ampersand bytes
  rw [formPairs, hsplit, List.filter_cons_of_pos (by simpa using h)]
  rfl

theorem plusToSpace_of_not_mem {bytes : List UInt8} (h : plus ∉ bytes) :
    plusToSpace bytes = bytes := by
  refine (List.map_congr_left fun byte hbyte => ?_).trans (List.map_id _)
  have hne : byte ≠ plus := fun heq => h (heq ▸ hbyte)
  exact if_neg hne

@[simp] theorem plusToSpace_eq_nil {bytes : List UInt8} : plusToSpace bytes = [] ↔ bytes = [] :=
  List.map_eq_nil_iff

theorem space_mem_plusToSpace {bytes : List UInt8} (h : plus ∈ bytes) :
    space ∈ plusToSpace bytes :=
  List.mem_map.mpr ⟨plus, h, if_pos rfl⟩

end Percent
