import Mathlib.Data.List.Basic

/-!
# Bounded line readers

A line reader folds a stream of symbols into a state. Symbols up to a
separator form a line of bounded length; a finished line is handed to
`onLine`, a line that outgrows the bound to `overlong`. Once `stuck` holds the
reader ignores its input.

`LineReader.close_feed` says that reading symbol by symbol is folding over the
lines of the stream, so the result cannot depend on how the stream was cut.
-/

set_option linter.all false

/-- Lines that are each closed by the separator leave an empty line at the end. -/
theorem List.splitOn_flatMap_terminated {β : Type*} [DecidableEq β] {sep : β} {lines : List (List β)}
    (h : ∀ l ∈ lines, sep ∉ l) : (lines.flatMap (· ++ [sep])).splitOn sep = lines ++ [[]] := by
  induction lines with
  | nil => rfl
  | cons l lines ih =>
    rw [List.forall_mem_cons] at h
    rw [List.flatMap_cons, List.append_assoc, List.singleton_append,
      List.splitOn_append_cons_self_of_not_mem h.1, ih h.2, List.cons_append]

/-- A reader of `sep`-separated lines of at most `limit` symbols. -/
structure LineReader (β S : Type*) where
  sep : β
  limit : ℕ
  onLine : S → List β → S
  overlong : S → S
  stuck : S → Bool

namespace LineReader

variable {β S : Type*} (m : LineReader β S)

/-- The effect of one whole line. -/
def line (s : S) (l : List β) : S :=
  if m.stuck s then s else if l.length ≤ m.limit then m.onLine s l else m.overlong s

theorem foldl_line_stuck {s : S} (hs : m.stuck s = true) (ls : List (List β)) :
    ls.foldl m.line s = s := by
  induction ls with
  | nil => rfl
  | cons l ls ih => rw [List.foldl_cons, line, if_pos hs, ih]

theorem foldl_overlong (hover : ∀ s, m.stuck (m.overlong s) = true) {s : S}
    (hs : m.stuck s = false) {l : List β} (hl : m.limit < l.length) (ls : List (List β)) :
    (l :: ls).foldl m.line s = m.overlong s := by
  have hline : m.line s l = m.overlong s := by
    rw [line, if_neg (by simp [hs]), if_neg (by omega)]
  rw [List.foldl_cons, hline, m.foldl_line_stuck (hover s)]

/-- Hand over the unfinished line at the end of the stream. -/
def close (st : S × List β) : S := if m.stuck st.1 then st.1 else m.onLine st.1 st.2

theorem close_grows {r : S → S → Prop} (hrefl : ∀ s, r s s) (hline : ∀ s l, r s (m.onLine s l))
    (st : S × List β) : r st.1 (m.close st) := by
  unfold close
  split
  · exact hrefl _
  · exact hline _ _

section Growth

variable {r : S → S → Prop} (hrefl : ∀ s, r s s) (htrans : ∀ a b c, r a b → r b c → r a c)
  (hline : ∀ s l, r s (m.onLine s l))
include hrefl htrans hline

theorem foldl_onLine_grows (s : S) (ls : List (List β)) : r s (ls.foldl m.onLine s) := by
  induction ls generalizing s with
  | nil => exact hrefl s
  | cons l ls ih => exact htrans _ _ _ (hline s l) (ih _)

/-- Dropping the bound and the stop can only let a growing state grow further. -/
theorem foldl_line_le_onLine (hover : ∀ s, m.stuck (m.overlong s) = true)
    (hsame : ∀ s t, r s t → r (m.overlong s) t) (s : S) (ls : List (List β)) :
    r (ls.foldl m.line s) (ls.foldl m.onLine s) := by
  induction ls generalizing s with
  | nil => exact hrefl s
  | cons l ls ih =>
    by_cases hs : m.stuck s = true
    · rw [m.foldl_line_stuck hs]
      exact m.foldl_onLine_grows hrefl htrans hline s (l :: ls)
    · by_cases hl : l.length ≤ m.limit
      · have hnext : m.line s l = m.onLine s l := by rw [line, if_neg hs, if_pos hl]
        rw [List.foldl_cons, List.foldl_cons, hnext]
        exact ih _
      · rw [m.foldl_overlong hover (by simpa using hs) (by omega)]
        exact hsame _ _ (m.foldl_onLine_grows hrefl htrans hline s (l :: ls))

end Growth

variable [DecidableEq β]

/-- Read one symbol; the second component is the unfinished line. -/
def byte : S × List β → β → S × List β
  | (s, line), b =>
    if m.stuck s then (s, line)
    else if b = m.sep then (m.onLine s line, [])
    else if line.length < m.limit then (s, line ++ [b])
    else (m.overlong s, [])

/-- Read a piece of the stream. -/
def feed (st : S × List β) (bs : List β) : S × List β := bs.foldl m.byte st

@[simp] theorem feed_nil (st : S × List β) : m.feed st [] = st := rfl

theorem feed_cons (st : S × List β) (b : β) (bs : List β) :
    m.feed st (b :: bs) = m.feed (m.byte st b) bs := rfl

/-- Where a stream is cut does not matter. -/
theorem feed_append (st : S × List β) (xs ys : List β) :
    m.feed st (xs ++ ys) = m.feed (m.feed st xs) ys := List.foldl_append

theorem feed_stuck {s : S} (hs : m.stuck s = true) (l bs : List β) :
    m.feed (s, l) bs = (s, l) := by
  induction bs with
  | nil => rfl
  | cons b bs ih => rw [feed_cons, byte, if_pos hs, ih]

/-- Reading a stream to its end folds `line` over its lines, the unfinished
line `l` being the beginning of the first one. -/
theorem close_feed (hover : ∀ s, m.stuck (m.overlong s) = true) (s : S) (l bs : List β)
    (hl : l.length ≤ m.limit) :
    m.close (m.feed (s, l) bs) = ((bs.splitOn m.sep).modifyHead (l ++ ·)).foldl m.line s := by
  by_cases hs : m.stuck s = true
  · rw [m.feed_stuck hs, m.foldl_line_stuck hs, close, if_pos hs]
  induction bs generalizing s l with
  | nil =>
    simp only [feed_nil, List.splitOn_nil, List.modifyHead_cons, List.append_nil,
      List.foldl_cons, List.foldl_nil]
    rw [close, line, if_neg hs, if_neg hs, if_pos hl]
  | cons b bs ih =>
    obtain ⟨first, rest, hsplit⟩ := List.exists_cons_of_ne_nil (List.splitOn_ne_nil m.sep bs)
    rw [feed_cons, byte, if_neg hs, List.splitOn_cons_eq_if_modifyHead]
    by_cases hb : b = m.sep
    · -- a finished line: the rest starts with an empty one
      have hnext : m.line s l = m.onLine s l := by rw [line, if_neg hs, if_pos hl]
      rw [if_pos hb, if_pos (by simp [hb])]
      simp only [List.modifyHead_cons, List.append_nil, List.foldl_cons, hnext]
      by_cases hs' : m.stuck (m.onLine s l) = true
      · rw [m.feed_stuck hs', m.foldl_line_stuck hs', close, if_pos hs']
      · rw [ih _ [] (Nat.zero_le _) hs']
        simp [hsplit]
    · rw [if_neg hb, if_neg (show ¬(b == m.sep) = true by simpa using hb)]
      by_cases hlen : l.length < m.limit
      · rw [if_pos hlen, ih s (l ++ [b]) (by simp; omega) hs]
        simp [hsplit]
      · -- the line is full: one more symbol makes the whole line overlong
        rw [if_neg hlen, m.feed_stuck (hover s), close, if_pos (hover s), hsplit]
        simp only [List.modifyHead_cons]
        rw [m.foldl_overlong hover (by simpa using hs) (by simp; omega)]

/-- A relation that every line and every overrun respects holds along a stream. -/
theorem feed_grows {r : S → S → Prop} (hrefl : ∀ s, r s s)
    (htrans : ∀ a b c, r a b → r b c → r a c) (hline : ∀ s l, r s (m.onLine s l))
    (hlong : ∀ s, r s (m.overlong s)) (st : S × List β) (bs : List β) :
    r st.1 (m.feed st bs).1 := by
  induction bs generalizing st with
  | nil => exact hrefl _
  | cons b bs ih =>
    refine htrans _ _ _ ?_ (ih (m.byte st b))
    obtain ⟨s, l⟩ := st
    simp only [byte]
    split_ifs
    · exact hrefl _
    · exact hline _ _
    · exact hrefl _
    · exact hlong _

end LineReader
