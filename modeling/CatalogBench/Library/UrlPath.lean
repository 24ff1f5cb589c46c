import CatalogBench.Library.Percent

/-!
# Building URL paths

Percent-encoding, the segments of a path, and the path after segments were pushed. A segment that
is one or two dots is not pushed.
-/

set_option linter.all false

namespace UrlPath
open Percent (percent)

def slash : UInt8 := 0x2F
def dot : UInt8 := 0x2E

-- ════════════════════════════════
-- Encoding
-- ════════════════════════════════

def digit (n : ℕ) : UInt8 := .ofNat (if n < 10 then 0x30 + n else 0x41 + (n - 10))

/-- The bytes with all but the kept ones escaped. -/
def encode (kept : UInt8 → Bool) (bytes : List UInt8) : List UInt8 :=
  bytes.flatMap fun byte =>
    if kept byte then [byte] else [percent, digit (byte.toNat / 16), digit (byte.toNat % 16)]

theorem hexValue_digit : ∀ {n : ℕ}, n < 16 → Percent.hexValue (digit n) = some n := by
  decide

theorem escaped_digits (byte : UInt8) :
    Percent.escaped (digit (byte.toNat / 16)) (digit (byte.toNat % 16)) = some byte := by
  have hlt : byte.toNat < 256 := byte.toNat_lt
  rw [Percent.escaped, hexValue_digit (by omega), hexValue_digit (by omega)]
  refine congrArg some (Utf8.byte_ext ((Utf8.toNat_ofNat (by omega)).trans (by omega)))

/-- What was encoded is read back. -/
theorem decode_encode {kept : UInt8 → Bool} (hpercent : kept percent = false)
    (bytes : List UInt8) : Percent.decode (encode kept bytes) = bytes := by
  induction bytes with
  | nil => rfl
  | cons byte bytes ih =>
    rw [encode, List.flatMap_cons]
    split
    · next hkept =>
      have hne : byte ≠ percent := by
        rintro rfl
        rw [hpercent] at hkept
        cases hkept
      rw [List.singleton_append, Percent.decode_cons fun _ _ _ _ heq => absurd heq hne]
      exact congrArg _ ih
    · rw [List.cons_append, List.cons_append, List.singleton_append,
        Percent.decode_escape (escaped_digits byte)]
      exact congrArg _ ih

theorem digit_ne_slash : ∀ {n : ℕ}, n < 16 → digit n ≠ slash := by
  decide

theorem slash_notMem_encode {kept : UInt8 → Bool} (hslash : kept slash = false)
    (bytes : List UInt8) : slash ∉ encode kept bytes := by
  intro h
  obtain ⟨byte, -, hbyte⟩ := List.mem_flatMap.mp h
  have hlt : byte.toNat < 256 := byte.toNat_lt
  split at hbyte
  · next hkept =>
    rw [← List.mem_singleton.mp hbyte, hslash] at hkept
    cases hkept
  · simp only [List.mem_cons, List.not_mem_nil, or_false] at hbyte
    rcases hbyte with heq | heq | heq
    · exact absurd heq (by decide)
    · exact digit_ne_slash (by omega) heq.symm
    · exact digit_ne_slash (by omega) heq.symm

-- ════════════════════════════════
-- Segments
-- ════════════════════════════════

/-- The segments of a path that begins with a slash. -/
def segments (path : List UInt8) : List (List UInt8) := (path.drop 1).splitOn slash

/-- The segments to which more are added: the root path has none. -/
def baseSegments (path : List UInt8) : List (List UInt8) :=
  if path = [slash] then [] else segments path

def IsDots (segment : List UInt8) : Prop := segment = [dot] ∨ segment = [dot, dot]

instance (segment : List UInt8) : Decidable (IsDots segment) := inferInstanceAs (Decidable (_ ∨ _))

/-- The path after a segment was pushed. -/
def push (kept : UInt8 → Bool) (path segment : List UInt8) : List UInt8 :=
  if IsDots segment then path
  else (if path = [slash] then path else path ++ [slash]) ++ encode kept segment

def pushAll (kept : UInt8 → Bool) (path : List UInt8) (pushed : List (List UInt8)) : List UInt8 :=
  pushed.foldl (push kept) path

/-- A path below the root stays one. -/
theorem push_below_root {kept : UInt8 → Bool} {path : List UInt8}
    (hpath : ∃ rest, path = slash :: rest) {segment : List UInt8} (hne : path ≠ [slash] ∨ ¬IsDots segment ∧ segment ≠ []) :
    (∃ rest, push kept path segment = slash :: rest) ∧ push kept path segment ≠ [slash] := by
  obtain ⟨rest, rfl⟩ := hpath
  unfold push
  split
  · next hdots => exact ⟨⟨rest, rfl⟩, hne.resolve_right fun h => h.1 hdots⟩
  split
  · next heq =>
    obtain ⟨-, rfl⟩ := List.cons.inj heq
    have hsegment := (hne.resolve_left fun h => h rfl).2
    have hencode : encode kept segment ≠ [] := by
      obtain ⟨byte, segment, rfl⟩ := List.exists_cons_of_ne_nil hsegment
      rw [encode, List.flatMap_cons]
      split <;> exact List.cons_ne_nil _ _
    exact ⟨⟨_, rfl⟩, fun h => hencode (List.cons.inj h).2⟩
  · exact ⟨⟨_, rfl⟩, fun h => absurd (List.cons.inj h).2 (by simp)⟩

section Push

variable {kept : UInt8 → Bool} (hslash : kept slash = false)

include hslash

theorem segments_push {path : List UInt8} (hpath : ∃ rest, path = slash :: rest)
    {segment : List UInt8} (hdots : ¬IsDots segment) :
    segments (push kept path segment) = baseSegments path ++ [encode kept segment] := by
  have hencode := slash_notMem_encode hslash segment
  obtain ⟨rest, rfl⟩ := hpath
  rw [push, if_neg hdots, baseSegments]
  split
  · next heq =>
    obtain ⟨-, rfl⟩ := List.cons.inj heq
    exact List.splitOn_eq_singleton hencode
  · rw [List.append_assoc, List.singleton_append]
    refine (List.splitOn_append_cons_self rest _).trans ?_
    rw [List.splitOn_eq_singleton hencode]
    rfl

theorem segments_pushAll_below_root {path : List UInt8} (hpath : ∃ rest, path = slash :: rest)
    (hne : path ≠ [slash]) {pushed : List (List UInt8)}
    (hdots : ∀ segment ∈ pushed, ¬IsDots segment) :
    segments (pushAll kept path pushed) = segments path ++ pushed.map (encode kept) := by
  induction pushed generalizing path with
  | nil => exact (List.append_nil _).symm
  | cons segment pushed ih =>
    obtain ⟨hpath', hne'⟩ := @push_below_root kept _ hpath segment (.inl hne)
    have hrest := ih hpath' hne' fun other hmem => hdots other (List.mem_cons_of_mem _ hmem)
    rw [segments_push hslash hpath (hdots segment List.mem_cons_self), baseSegments, if_neg hne]
      at hrest
    rw [List.map_cons, List.append_cons]
    exact hrest

/-- The segments of a path are those it had and the pushed ones. -/
theorem segments_pushAll {path : List UInt8} (hpath : ∃ rest, path = slash :: rest)
    {first : List UInt8} (hfirst : first ≠ []) {pushed : List (List UInt8)}
    (hdots : ∀ segment ∈ first :: pushed, ¬IsDots segment) :
    segments (pushAll kept path (first :: pushed)) =
      baseSegments path ++ (first :: pushed).map (encode kept) := by
  have hfirst' := hdots first List.mem_cons_self
  obtain ⟨hpath', hne'⟩ := @push_below_root kept _ hpath first (.inr ⟨hfirst', hfirst⟩)
  have hrest := segments_pushAll_below_root hslash hpath' hne' fun other hmem =>
    hdots other (List.mem_cons_of_mem _ hmem)
  rw [segments_push hslash hpath hfirst'] at hrest
  rw [List.map_cons, List.append_cons]
  exact hrest

end Push

/-- Segments of one or two dots are not pushed. -/
theorem pushAll_filter (kept : UInt8 → Bool) (path : List UInt8) (pushed : List (List UInt8)) :
    pushAll kept path pushed =
      pushAll kept path (pushed.filter fun segment => !decide (IsDots segment)) := by
  induction pushed generalizing path with
  | nil => rfl
  | cons segment pushed ih =>
    by_cases hdots : IsDots segment
    · rw [List.filter_cons_of_neg (by simpa using hdots), ← ih]
      exact congrArg (pushAll kept · pushed) (if_pos hdots)
    · rw [List.filter_cons_of_pos (by simpa using hdots)]
      exact ih _

end UrlPath
