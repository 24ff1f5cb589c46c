import CatalogBench.Crates
import CatalogBench.Library.Calendar
import CatalogBench.Library.Interaction
import CatalogBench.Library.MachineInt
import Mathlib.Algebra.Order.Field.Rat
import Mathlib.Tactic.FieldSimp
import Mathlib.Tactic.IntervalCases
import Mathlib.Tactic.Positivity
import Mathlib.Tactic.Ring

/-!
# Timestamps

The reader of UTC timestamps: which texts it takes, and that it orders them by the instants that
they denote. It indexes bytes and adds up digits in an `u32`; the model keeps apart what would panic
there.
-/

set_option linter.all false

namespace CatalogBench.ContractTool.Timestamp
open Interaction MachineInt

-- ════════════════════════════════
-- The reader
-- ════════════════════════════════

structure UtcTimestamp where
  year : ℕ
  month : ℕ
  day : ℕ
  hour : ℕ
  minute : ℕ
  second : ℕ
  nanosecond : ℕ
  deriving DecidableEq

/-- The derived order: field by field. -/
instance : Ord UtcTimestamp where
  compare a b := (compare a.year b.year).then ((compare a.month b.month).then
    ((compare a.day b.day).then ((compare a.hour b.hour).then ((compare a.minute b.minute).then
      ((compare a.second b.second).then (compare a.nanosecond b.nanosecond))))))

theorem UtcTimestamp.eq_of_compare {a b : UtcTimestamp} (h : compare a b = .eq) : a = b := by
  have hfields : (compare a.year b.year).then ((compare a.month b.month).then
      ((compare a.day b.day).then ((compare a.hour b.hour).then ((compare a.minute b.minute).then
        ((compare a.second b.second).then (compare a.nanosecond b.nanosecond)))))) = .eq := h
  simp only [Ordering.then_eq_eq, compare_eq_iff_eq] at hfields
  obtain ⟨hyear, hmonth, hday, hhour, hminute, hsecond, hnanosecond⟩ := hfields
  cases a
  cases b
  simp_all

/-- How a call ends without a timestamp. -/
inductive Failure
  | panic
  | invalid (message : String)
  deriving DecidableEq

abbrev Reading := Except Failure

/-- A value that is there, or else a panic. -/
def orPanic {α : Type} : Option α → Reading α
  | some value => .ok value
  | none => .error .panic

def canonicalMessage (name : String) : String :=
  name ++ " must be a canonical UTC RFC 3339 timestamp"

def slice (bytes : List UInt8) (start stop : ℕ) : Reading (List UInt8) :=
  if start ≤ stop ∧ stop ≤ bytes.length then .ok ((bytes.take stop).drop start)
  else .error .panic

/-- `u8::is_ascii_digit`. -/
def isAsciiDigit (byte : UInt8) : Bool := 48 ≤ byte && byte ≤ 57

/-- One step of the fold: a digit more. -/
def pushDigit (value : ℕ) (digit : UInt8) : Reading ℕ := do
  let scaled ← orPanic (checkedMul 32 value 10)
  let digit ← orPanic (checkedSub digit.toNat 48)
  orPanic (checkedAdd 32 scaled digit)

/-- The digits, or an error, and their number. -/
def readDigits (digits : List UInt8) (name : String) : Reading ℕ :=
  if digits.all isAsciiDigit then digits.foldlM pushDigit 0
  else .error (.invalid (canonicalMessage name))

def decimal (bytes : List UInt8) (start stop : ℕ) (name : String) : Reading ℕ := do
  let digits ← slice bytes start stop
  readDigits digits name

/-- The bytes that stand between the numbers, compared one after the other. -/
def separated (bytes : List UInt8) : List (ℕ × UInt8) → Reading Bool
  | [] => .ok true
  | (index, separator) :: separators => do
    let byte ← orPanic bytes[index]?
    if byte = separator then separated bytes separators else pure false

/-- `-`, `-`, `T`, `:` and `:`. -/
def separators : List (ℕ × UInt8) := [(4, 45), (7, 45), (10, 84), (13, 58), (16, 58)]

def fixedShape (bytes : List UInt8) : Reading Bool :=
  if bytes.length < 20 then .ok false
  else do
    let separated ← separated bytes separators
    pure (separated && bytes.getLast? = some 90)

/-- Times ten, for each digit that the fraction does not have. -/
def scaleNanos : ℕ → ℕ → Reading ℕ
  | 0, nanos => .ok nanos
  | missing + 1, nanos => do
    let nanos ← orPanic (checkedMul 32 nanos 10)
    scaleNanos missing nanos

def fraction (bytes : List UInt8) (name : String) : Reading ℕ := do
  let digits ← slice bytes 20 (bytes.length - 1)
  let nanos ← readDigits digits name
  scaleNanos (9 - digits.length) nanos

def nanosecond (bytes : List UInt8) (name : String) : Reading ℕ :=
  if bytes.length = 20 then .ok 0
  else if 22 ≤ bytes.length ∧ bytes.length ≤ 30 then do
    let byte ← orPanic bytes[19]?
    if byte = 46 then fraction bytes name else .error (.invalid (canonicalMessage name))
  else .error (.invalid (canonicalMessage name))

def daysInMonth (year month : ℕ) : ℕ :=
  if month ∈ [1, 3, 5, 7, 8, 10, 12] then 31
  else if month ∈ [4, 6, 9, 11] then 30
  else if month = 2 then
    if year % 400 = 0 ∨ (year % 4 = 0 ∧ ¬year % 100 = 0) then 29 else 28
  else 0

/-- The calendar does not have this value. -/
def isInvalid (timestamp : UtcTimestamp) : Bool :=
  timestamp.year = 0 || !(1 ≤ timestamp.month && timestamp.month ≤ 12) || timestamp.day = 0 ||
    timestamp.day > daysInMonth timestamp.year timestamp.month || timestamp.hour > 23 ||
    timestamp.minute > 59 || timestamp.second > 59

/-- The end of the reader: a check of the calendar. -/
def checkCalendar (timestamp : UtcTimestamp) (name : String) : Reading UtcTimestamp :=
  if isInvalid timestamp then .error (.invalid (name ++ " contains an invalid UTC calendar value"))
  else .ok timestamp

def parseBytes (bytes : List UInt8) (name : String) : Reading UtcTimestamp := do
  let shaped ← fixedShape bytes
  if !shaped then .error (.invalid (canonicalMessage name))
  else do
    let year ← decimal bytes 0 4 name
    let month ← decimal bytes 5 7 name
    let day ← decimal bytes 8 10 name
    let hour ← decimal bytes 11 13 name
    let minute ← decimal bytes 14 16 name
    let second ← decimal bytes 17 19 name
    let nanosecond ← nanosecond bytes name
    checkCalendar ⟨year, month, day, hour, minute, second, nanosecond⟩ name

def parseUtcTimestamp (value name : String) : Reading UtcTimestamp := parseBytes (utf8 value) name

example : parseUtcTimestamp "2024-02-29T23:59:59.5Z" "at" =
    .ok ⟨2024, 2, 29, 23, 59, 59, 500000000⟩ := by
  decide +kernel

-- ════════════════════════════════
-- The texts of timestamps
-- ════════════════════════════════

abbrev Digit := Fin 10

def digitChar (digit : Digit) : Char := Char.ofNat (48 + digit)

def digitByte (digit : Digit) : UInt8 := .ofNat (48 + digit)

def pushValue (value : ℕ) (digit : Digit) : ℕ := value * 10 + digit

def number (digits : List Digit) : ℕ := digits.foldl pushValue 0

/-- `YYYY-MM-DDTHH:MM:SS`, with up to nine digits of a fraction. -/
structure TimestampText where
  year : List Digit
  month : List Digit
  day : List Digit
  hour : List Digit
  minute : List Digit
  second : List Digit
  fraction : List Digit
  year_length : year.length = 4
  month_length : month.length = 2
  day_length : day.length = 2
  hour_length : hour.length = 2
  minute_length : minute.length = 2
  second_length : second.length = 2
  fraction_length : fraction.length ≤ 9

namespace TimestampText

/-- The text in some alphabet: its digits, and the characters between them. -/
def spell {α : Type} (digit : Digit → α) (char : Char → α) (text : TimestampText) : List α :=
  text.year.map digit ++ char '-' :: (text.month.map digit ++ char '-' :: (text.day.map digit ++
    char 'T' :: (text.hour.map digit ++ char ':' :: (text.minute.map digit ++ char ':' ::
      (text.second.map digit ++
        ((if text.fraction = [] then [] else char '.' :: text.fraction.map digit) ++
          [char 'Z']))))))

def render (text : TimestampText) : String := .ofList (text.spell digitChar id)

def bytes (text : TimestampText) : List UInt8 :=
  text.spell digitByte fun char => .ofNat char.toNat

theorem encode_digit :
    ∀ digit : Digit, String.utf8EncodeChar (digitChar digit) = [digitByte digit] := by
  decide

theorem encode_digits (digits : List Digit) :
    (digits.map digitChar).flatMap String.utf8EncodeChar = digits.map digitByte := by
  induction digits with
  | nil => rfl
  | cons digit digits ih => rw [List.map_cons, List.flatMap_cons, encode_digit, ih]; rfl

theorem utf8_render (text : TimestampText) : utf8 text.render = text.bytes := by
  have hdash : String.utf8EncodeChar '-' = [45] := by decide
  have hletter : String.utf8EncodeChar 'T' = [84] := by decide
  have hcolon : String.utf8EncodeChar ':' = [58] := by decide
  have hdot : String.utf8EncodeChar '.' = [46] := by decide
  have hzulu : String.utf8EncodeChar 'Z' = [90] := by decide
  rw [utf8_eq_flatMap, render, String.toList_ofList, bytes, spell, spell]
  split <;>
    simp only [List.flatMap_append, List.flatMap_cons, List.flatMap_nil, encode_digits, id, hdash,
      hletter, hcolon, hdot, hzulu, List.cons_append, List.nil_append, List.append_nil] <;>
    rfl

/-- The values of the fields. -/
def timestamp (text : TimestampText) : UtcTimestamp where
  year := number text.year
  month := number text.month
  day := number text.day
  hour := number text.hour
  minute := number text.minute
  second := number text.second
  nanosecond := number text.fraction * 10 ^ (9 - text.fraction.length)

end TimestampText

-- ════════════════════════════════
-- Digits
-- ════════════════════════════════

theorem digitByte_digit : ∀ digit : Digit, isAsciiDigit (digitByte digit) = true ∧
    (digitByte digit).toNat = 48 + digit := by
  decide

theorem exists_digitByte : ∀ {byte : UInt8}, isAsciiDigit byte = true →
    ∃ digit : Digit, byte = digitByte digit := by
  intro byte h
  simp only [isAsciiDigit, Bool.and_eq_true, decide_eq_true_eq, UInt8.le_iff_toNat_le] at h
  have hlow : 48 ≤ byte.toNat := h.1
  have hhigh : byte.toNat ≤ 57 := h.2
  refine ⟨⟨byte.toNat - 48, by omega⟩, UInt8.toNat_inj.mp ?_⟩
  rw [(digitByte_digit _).2]
  exact (Nat.add_sub_cancel' hlow).symm

theorem exists_digits {bytes : List UInt8} (h : bytes.all isAsciiDigit = true) :
    ∃ digits : List Digit, bytes = digits.map digitByte := by
  induction bytes with
  | nil => exact ⟨[], rfl⟩
  | cons byte bytes ih =>
    rw [List.all_cons, Bool.and_eq_true] at h
    obtain ⟨digit, rfl⟩ := exists_digitByte h.1
    obtain ⟨digits, rfl⟩ := ih h.2
    exact ⟨digit :: digits, rfl⟩

/-- At most nine digits do not overflow. -/
theorem pushDigit_eq {value bound : ℕ} {digit : Digit} (hvalue : value < 10 ^ bound)
    (hbound : bound < 9) : pushDigit value (digitByte digit) = .ok (pushValue value digit) := by
  have hpow : (10 : ℕ) ^ bound ≤ 10 ^ 8 := Nat.pow_le_pow_right (by decide) (by omega)
  have hscaled : value * 10 < 2 ^ 32 := by omega
  have hsum : value * 10 + digit < 2 ^ 32 := by
    have hdigit := digit.isLt
    omega
  have hbyte := (digitByte_digit digit).2
  have hmul : checkedMul 32 value 10 = some (value * 10) := checkedMul_eq_some.mpr ⟨rfl, hscaled⟩
  have hsub : checkedSub (digitByte digit).toNat 48 = some (digit : ℕ) := by
    rw [checkedSub, if_pos (by omega), hbyte]
    congr 1
    omega
  have hadd : checkedAdd 32 (value * 10) digit = some (value * 10 + digit) := checkedAdd_of_lt hsum
  rw [pushDigit, hmul, hsub]
  exact congrArg orPanic hadd

theorem foldlM_pushDigit {digits : List Digit} {value bound : ℕ} (hvalue : value < 10 ^ bound)
    (hbound : bound + digits.length ≤ 9) :
    (digits.map digitByte).foldlM pushDigit value =
      .ok (digits.foldl pushValue value) := by
  induction digits generalizing value bound with
  | nil => rfl
  | cons digit digits ih =>
    rw [List.length_cons] at hbound
    have hnext : pushValue value digit < 10 ^ (bound + 1) := by
      have hdigit := digit.isLt
      rw [pushValue, Nat.pow_succ]
      omega
    rw [List.map_cons, List.foldlM_cons, pushDigit_eq hvalue (by omega), List.foldl_cons]
    exact ih hnext (by omega)

theorem readDigits_digits {digits : List Digit} (h : digits.length ≤ 9) (name : String) :
    readDigits (digits.map digitByte) name = .ok (number digits) := by
  have hall : (digits.map digitByte).all isAsciiDigit = true := by
    rw [List.all_eq_true]
    intro byte hbyte
    obtain ⟨digit, -, rfl⟩ := List.mem_map.mp hbyte
    exact (digitByte_digit digit).1
  rw [readDigits, if_pos hall]
  have hstart : 0 < 10 ^ 0 := Nat.one_pos
  exact foldlM_pushDigit hstart (by omega)

/-- Digits are read, and anything else is turned down. -/
theorem readDigits_cases (bytes : List UInt8) (name : String) :
    (∃ digits : List Digit, bytes = digits.map digitByte) ∨
      readDigits bytes name = .error (.invalid (canonicalMessage name)) := by
  by_cases h : bytes.all isAsciiDigit = true
  · exact .inl (exists_digits h)
  · exact .inr (if_neg h)

-- ════════════════════════════════
-- Where the fields are
-- ════════════════════════════════

/-- At least twenty bytes, cut where the separators stand. -/
structure Layout where
  year : List UInt8
  mark₁ : UInt8
  month : List UInt8
  mark₂ : UInt8
  day : List UInt8
  mark₃ : UInt8
  hour : List UInt8
  mark₄ : UInt8
  minute : List UInt8
  mark₅ : UInt8
  second : List UInt8
  next : UInt8
  rest : List UInt8
  year_length : year.length = 4
  month_length : month.length = 2
  day_length : day.length = 2
  hour_length : hour.length = 2
  minute_length : minute.length = 2
  second_length : second.length = 2

theorem exists_field {bytes : List UInt8} {width : ℕ} (h : width < bytes.length) :
    ∃ (field : List UInt8) (mark : UInt8) (rest : List UInt8),
      bytes = field ++ mark :: rest ∧ field.length = width ∧
      bytes.length = width + 1 + rest.length := by
  refine ⟨bytes.take width, bytes.get ⟨width, h⟩, bytes.drop (width + 1), ?_, ?_, ?_⟩
  · rw [List.get_eq_getElem, List.getElem_cons_drop, List.take_append_drop]
  · rw [List.length_take, min_eq_left h.le]
  · rw [List.length_drop]
    omega

theorem exists_four {bytes : List UInt8} (h : bytes.length = 4) :
    ∃ a b c d, bytes = [a, b, c, d] :=
  match bytes, h with
  | [a, b, c, d], _ => ⟨a, b, c, d, rfl⟩

namespace Layout

def bytes (layout : Layout) : List UInt8 :=
  layout.year ++ layout.mark₁ :: (layout.month ++ layout.mark₂ :: (layout.day ++
    layout.mark₃ :: (layout.hour ++ layout.mark₄ :: (layout.minute ++ layout.mark₅ ::
      (layout.second ++ layout.next :: layout.rest)))))

theorem exists_of_length {bytes : List UInt8} (h : 20 ≤ bytes.length) :
    ∃ layout : Layout, bytes = layout.bytes := by
  obtain ⟨year, mark₁, afterYear, rfl, hyear, hlength⟩ := @exists_field bytes 4 (by omega)
  obtain ⟨month, mark₂, afterMonth, rfl, hmonth, hlength₂⟩ := @exists_field afterYear 2 (by omega)
  obtain ⟨day, mark₃, afterDay, rfl, hday, hlength₃⟩ := @exists_field afterMonth 2 (by omega)
  obtain ⟨hour, mark₄, afterHour, rfl, hhour, hlength₄⟩ := @exists_field afterDay 2 (by omega)
  obtain ⟨minute, mark₅, afterMinute, rfl, hminute, hlength₅⟩ :=
    @exists_field afterHour 2 (by omega)
  obtain ⟨second, next, rest, rfl, hsecond, -⟩ := @exists_field afterMinute 2 (by omega)
  exact ⟨⟨year, mark₁, month, mark₂, day, mark₃, hour, mark₄, minute, mark₅, second, next, rest,
    hyear, hmonth, hday, hhour, hminute, hsecond⟩, rfl⟩

section Read

variable (layout : Layout) (name : String)

theorem length_bytes : layout.bytes.length = 20 + layout.rest.length := by
  simp only [bytes, List.length_append, List.length_cons, layout.year_length, layout.month_length,
    layout.day_length, layout.hour_length, layout.minute_length, layout.second_length]
  omega

/-- The fields, one byte after the other. -/
theorem exists_bytes : ∃ a b c d e f g h i j k l m n, layout.year = [a, b, c, d] ∧
    layout.month = [e, f] ∧ layout.day = [g, h] ∧ layout.hour = [i, j] ∧ layout.minute = [k, l] ∧
    layout.second = [m, n] := by
  obtain ⟨a, b, c, d, hyear⟩ := exists_four layout.year_length
  obtain ⟨e, f, hmonth⟩ := List.length_eq_two.mp layout.month_length
  obtain ⟨g, h, hday⟩ := List.length_eq_two.mp layout.day_length
  obtain ⟨i, j, hhour⟩ := List.length_eq_two.mp layout.hour_length
  obtain ⟨k, l, hminute⟩ := List.length_eq_two.mp layout.minute_length
  obtain ⟨m, n, hsecond⟩ := List.length_eq_two.mp layout.second_length
  exact ⟨a, b, c, d, e, f, g, h, i, j, k, l, m, n, hyear, hmonth, hday, hhour, hminute, hsecond⟩

/-- The separators stand where they should, and the text ends in `Z`. -/
def Marked : Prop :=
  layout.mark₁ = 45 ∧ layout.mark₂ = 45 ∧ layout.mark₃ = 84 ∧ layout.mark₄ = 58 ∧
    layout.mark₅ = 58 ∧ (layout.next :: layout.rest).getLast? = some 90

instance : Decidable layout.Marked := inferInstanceAs (Decidable (_ ∧ _))

theorem getLast?_bytes : layout.bytes.getLast? = (layout.next :: layout.rest).getLast? := by
  obtain ⟨a, b, c, d, e, f, g, h, i, j, k, l, m, n, hyear, hmonth, hday, hhour, hminute, hsecond⟩ :=
    layout.exists_bytes
  rw [bytes, hyear, hmonth, hday, hhour, hminute, hsecond]
  simp [List.getLast?_cons]

theorem fixedShape_bytes : fixedShape layout.bytes = .ok (decide layout.Marked) := by
  have hlength : ¬layout.bytes.length < 20 := by
    rw [length_bytes]
    omega
  have hlast := layout.getLast?_bytes
  rw [fixedShape, if_neg hlength, hlast]
  obtain ⟨a, b, c, d, e, f, g, h, i, j, k, l, m, n, hyear, hmonth, hday, hhour, hminute, hsecond⟩ :=
    layout.exists_bytes
  have hmark₁ : layout.bytes[4]? = some layout.mark₁ := by simp [bytes, hyear]
  have hmark₂ : layout.bytes[7]? = some layout.mark₂ := by simp [bytes, hyear, hmonth]
  have hmark₃ : layout.bytes[10]? = some layout.mark₃ := by simp [bytes, hyear, hmonth, hday]
  have hmark₄ : layout.bytes[13]? = some layout.mark₄ := by
    simp [bytes, hyear, hmonth, hday, hhour]
  have hmark₅ : layout.bytes[16]? = some layout.mark₅ := by
    simp [bytes, hyear, hmonth, hday, hhour, hminute]
  simp only [separators, separated, hmark₁, hmark₂, hmark₃, hmark₄, hmark₅, orPanic, Marked, bind,
    Except.bind, pure, Except.pure]
  by_cases h₁ : layout.mark₁ = 45
  · by_cases h₂ : layout.mark₂ = 45
    · by_cases h₃ : layout.mark₃ = 84
      · by_cases h₄ : layout.mark₄ = 58
        · by_cases h₅ : layout.mark₅ = 58
          · simp [h₁, h₂, h₃, h₄, h₅]
          · simp [h₁, h₂, h₃, h₄, h₅]
        · simp [h₁, h₂, h₃, h₄]
      · simp [h₁, h₂, h₃]
    · simp [h₁, h₂]
  · simp [h₁]

theorem slice_fields : slice layout.bytes 0 4 = .ok layout.year ∧
    slice layout.bytes 5 7 = .ok layout.month ∧ slice layout.bytes 8 10 = .ok layout.day ∧
    slice layout.bytes 11 13 = .ok layout.hour ∧ slice layout.bytes 14 16 = .ok layout.minute ∧
    slice layout.bytes 17 19 = .ok layout.second := by
  obtain ⟨a, b, c, d, e, f, g, h, i, j, k, l, m, n, hyear, hmonth, hday, hhour, hminute, hsecond⟩ :=
    layout.exists_bytes
  simp [slice, bytes, hyear, hmonth, hday, hhour, hminute, hsecond]

theorem getElem?_next : layout.bytes[19]? = some layout.next := by
  obtain ⟨a, b, c, d, e, f, g, h, i, j, k, l, m, n, hyear, hmonth, hday, hhour, hminute, hsecond⟩ :=
    layout.exists_bytes
  simp [bytes, hyear, hmonth, hday, hhour, hminute, hsecond]

theorem slice_rest (hne : layout.rest ≠ []) :
    slice layout.bytes 20 (layout.bytes.length - 1) = .ok layout.rest.dropLast := by
  obtain ⟨a, b, c, d, e, f, g, h, i, j, k, l, m, n, hyear, hmonth, hday, hhour, hminute, hsecond⟩ :=
    layout.exists_bytes
  have hpos := List.length_pos_iff.mpr hne
  have hlength := layout.length_bytes
  have hlast : layout.bytes.length - 1 = 20 + (layout.rest.length - 1) := by omega
  have hfront : layout.bytes = [a, b, c, d, layout.mark₁, e, f, layout.mark₂, g, h, layout.mark₃, i,
      j, layout.mark₄, k, l, layout.mark₅, m, n, layout.next] ++ layout.rest := by
    simp [bytes, hyear, hmonth, hday, hhour, hminute, hsecond]
  have hdrop : layout.bytes.drop 20 = layout.rest := by rw [hfront]; rfl
  rw [slice, if_pos (by omega), hlast, List.drop_take, hdrop, List.dropLast_eq_take,
    Nat.add_sub_cancel_left]

/-- What the bytes after the seconds say. -/
def fractionOf : Reading ℕ :=
  if layout.rest = [] then .ok 0
  else if layout.next = 46 ∧ 2 ≤ layout.rest.length ∧ layout.rest.length ≤ 10 then do
    let nanos ← readDigits layout.rest.dropLast name
    scaleNanos (9 - layout.rest.dropLast.length) nanos
  else .error (.invalid (canonicalMessage name))

theorem nanosecond_bytes : nanosecond layout.bytes name = layout.fractionOf name := by
  have hlength := layout.length_bytes
  by_cases hrest : layout.rest = []
  · have htwenty : layout.bytes.length = 20 := by rw [hlength, hrest]; rfl
    rw [nanosecond, if_pos htwenty, fractionOf, if_pos hrest]
  · have hpos := List.length_pos_iff.mpr hrest
    rw [nanosecond, if_neg (by omega), fractionOf, if_neg hrest, getElem?_next]
    by_cases hrange : 2 ≤ layout.rest.length ∧ layout.rest.length ≤ 10
    · rw [if_pos (by omega)]
      by_cases hnext : layout.next = 46
      · have hslice := layout.slice_rest hrest
        simp only [orPanic, bind, Except.bind, hnext, hrange, and_self, if_true, fraction, hslice]
      · rw [if_neg (fun h => hnext h.1)]
        exact if_neg hnext
    · rw [if_neg (by omega), if_neg (fun h => hrange h.2)]

/-- The reader, on a text of at least twenty bytes. -/
theorem parseBytes_bytes : parseBytes layout.bytes name =
    if layout.Marked then do
      let year ← readDigits layout.year name
      let month ← readDigits layout.month name
      let day ← readDigits layout.day name
      let hour ← readDigits layout.hour name
      let minute ← readDigits layout.minute name
      let second ← readDigits layout.second name
      let nanosecond ← layout.fractionOf name
      checkCalendar ⟨year, month, day, hour, minute, second, nanosecond⟩ name
    else .error (.invalid (canonicalMessage name)) := by
  by_cases hmarked : layout.Marked
  · obtain ⟨hyear, hmonth, hday, hhour, hminute, hsecond⟩ := layout.slice_fields
    rw [if_pos hmarked]
    simp only [parseBytes, decimal, fixedShape_bytes, hyear, hmonth, hday, hhour, hminute, hsecond,
      nanosecond_bytes, hmarked, bind, Except.bind, decide_true, Bool.not_true]
    rfl
  · rw [if_neg hmarked]
    simp only [parseBytes, fixedShape_bytes, hmarked, bind, Except.bind, decide_false]
    rfl

end Read

end Layout

-- ════════════════════════════════
-- What is read of a text
-- ════════════════════════════════

theorem foldl_pushValue_lt {digits : List Digit} {value bound : ℕ} (h : value < 10 ^ bound) :
    digits.foldl pushValue value < 10 ^ (bound + digits.length) := by
  induction digits generalizing value bound with
  | nil => exact h
  | cons digit digits ih =>
    have hnext : pushValue value digit < 10 ^ (bound + 1) := by
      have hdigit := digit.isLt
      rw [pushValue, Nat.pow_succ]
      omega
    rw [List.foldl_cons, List.length_cons, Nat.add_comm digits.length, ← Nat.add_assoc]
    exact ih hnext

theorem number_lt (digits : List Digit) : number digits < 10 ^ digits.length := by
  have hstart : 0 < 10 ^ 0 := Nat.one_pos
  have hlt := @foldl_pushValue_lt digits 0 0 hstart
  rwa [Nat.zero_add] at hlt

theorem scaleNanos_eq {missing nanos : ℕ} (h : nanos * 10 ^ missing < 2 ^ 32) :
    scaleNanos missing nanos = .ok (nanos * 10 ^ missing) := by
  induction missing generalizing nanos with
  | zero => rw [Nat.pow_zero, Nat.mul_one]; rfl
  | succ missing ih =>
    rw [Nat.pow_succ, Nat.mul_comm (10 ^ missing), ← Nat.mul_assoc] at h ⊢
    have hscaled : nanos * 10 < 2 ^ 32 :=
      (Nat.le_mul_of_pos_right _ (Nat.pow_pos (by decide))).trans_lt h
    rw [scaleNanos, checkedMul_eq_some.mpr ⟨rfl, hscaled⟩]
    exact ih h

namespace TimestampText

variable (text : TimestampText) (name : String)

/-- Where the fields of a text are. -/
def layout : Layout where
  year := text.year.map digitByte
  mark₁ := 45
  month := text.month.map digitByte
  mark₂ := 45
  day := text.day.map digitByte
  mark₃ := 84
  hour := text.hour.map digitByte
  mark₄ := 58
  minute := text.minute.map digitByte
  mark₅ := 58
  second := text.second.map digitByte
  next := if text.fraction = [] then 90 else 46
  rest := if text.fraction = [] then [] else text.fraction.map digitByte ++ [90]
  year_length := by rw [List.length_map, text.year_length]
  month_length := by rw [List.length_map, text.month_length]
  day_length := by rw [List.length_map, text.day_length]
  hour_length := by rw [List.length_map, text.hour_length]
  minute_length := by rw [List.length_map, text.minute_length]
  second_length := by rw [List.length_map, text.second_length]

theorem bytes_layout : text.layout.bytes = text.bytes := by
  rw [Layout.bytes, bytes, spell]
  by_cases hfraction : text.fraction = []
  · simp only [layout, hfraction, if_true, List.nil_append]
    rfl
  · simp only [layout, hfraction, if_false, List.cons_append]
    rfl

theorem layout_marked : text.layout.Marked := by
  refine ⟨rfl, rfl, rfl, rfl, rfl, ?_⟩
  by_cases hfraction : text.fraction = []
  · simp [layout, hfraction]
  · simp [layout, hfraction, List.getLast?_cons]

/-- The nanoseconds of a text. -/
theorem fractionOf_layout : text.layout.fractionOf name =
    .ok (number text.fraction * 10 ^ (9 - text.fraction.length)) := by
  by_cases hfraction : text.fraction = []
  · have hrest : text.layout.rest = [] := if_pos hfraction
    rw [Layout.fractionOf, if_pos hrest, hfraction]
    rfl
  · have hrest : text.layout.rest = text.fraction.map digitByte ++ [90] := if_neg hfraction
    have hnext : text.layout.next = 46 := if_neg hfraction
    have hpos := List.length_pos_iff.mpr hfraction
    have hle := text.fraction_length
    have hlength : text.layout.rest.length = text.fraction.length + 1 := by
      rw [hrest, List.length_append, List.length_map]
      rfl
    have hne : text.layout.rest ≠ [] := List.ne_nil_of_length_pos (by omega)
    have hscaled : number text.fraction * 10 ^ (9 - text.fraction.length) < 2 ^ 32 :=
      calc number text.fraction * 10 ^ (9 - text.fraction.length)
          < 10 ^ text.fraction.length * 10 ^ (9 - text.fraction.length) :=
            Nat.mul_lt_mul_of_pos_right (number_lt _) (Nat.pow_pos (by decide))
        _ = 10 ^ 9 := by rw [← Nat.pow_add, Nat.add_sub_cancel' hle]
        _ < 2 ^ 32 := by decide
    rw [Layout.fractionOf, if_neg hne, if_pos ⟨hnext, by omega, by omega⟩, hrest,
      List.dropLast_concat, readDigits_digits hle, List.length_map]
    exact scaleNanos_eq hscaled

theorem parseBytes_bytes : parseBytes text.bytes name = checkCalendar text.timestamp name := by
  have hread {digits : List Digit} (hlength : digits.length = 2) :
      readDigits (digits.map digitByte) name = .ok (number digits) :=
    readDigits_digits (by omega) name
  have hyear := readDigits_digits (show text.year.length ≤ 9 by rw [text.year_length]; decide) name
  have hmonth := hread text.month_length
  have hday := hread text.day_length
  have hhour := hread text.hour_length
  have hminute := hread text.minute_length
  have hsecond := hread text.second_length
  have hfraction := text.fractionOf_layout name
  rw [← bytes_layout, Layout.parseBytes_bytes, if_pos text.layout_marked]
  simp only [layout] at hfraction ⊢
  simp only [hyear, hmonth, hday, hhour, hminute, hsecond, hfraction, bind, Except.bind, timestamp]

end TimestampText

/-- The bytes after the seconds are those of a fraction, or they are turned down. -/
theorem Layout.fractionOf_cases (layout : Layout) (name : String)
    (hlast : (layout.next :: layout.rest).getLast? = some 90) :
    (∃ fraction : List Digit, fraction.length ≤ 9 ∧ layout.next :: layout.rest =
      (if fraction = [] then [] else 46 :: fraction.map digitByte) ++ [90]) ∨
      layout.fractionOf name = .error (.invalid (canonicalMessage name)) := by
  by_cases hrest : layout.rest = []
  · left
    rw [hrest, List.getLast?_singleton] at hlast
    exact ⟨[], Nat.zero_le _, by rw [hrest, Option.some.inj hlast]; rfl⟩
  by_cases hshape : layout.next = 46 ∧ 2 ≤ layout.rest.length ∧ layout.rest.length ≤ 10
  · rw [Layout.fractionOf, if_neg hrest, if_pos hshape]
    rcases readDigits_cases layout.rest.dropLast name with ⟨digits, hdigits⟩ | herror
    · left
      have hlength : digits.length + 1 = layout.rest.length := by
        have hmapped := congrArg List.length hdigits
        rw [List.length_dropLast, List.length_map] at hmapped
        omega
      have hne : digits ≠ [] := List.ne_nil_of_length_pos (by omega)
      have hend : layout.rest = digits.map digitByte ++ [90] := by
        rw [List.getLast?_cons, Option.some.injEq, List.getLast?_eq_some_getLast hrest,
          Option.getD_some] at hlast
        rw [← hdigits, ← hlast, List.dropLast_append_getLast]
      exact ⟨digits, by omega, by rw [if_neg hne, hshape.1, hend, List.cons_append]⟩
    · right
      rw [herror]
      rfl
  · exact .inr (by rw [Layout.fractionOf, if_neg hrest, if_neg hshape])

/-- Bytes are those of a text, or they are turned down. -/
theorem exists_text (bytes : List UInt8) (name : String) :
    (∃ text : TimestampText, bytes = text.bytes) ∨
      parseBytes bytes name = .error (.invalid (canonicalMessage name)) := by
  by_cases hlength : bytes.length < 20
  · right
    rw [parseBytes, fixedShape, if_pos hlength]
    rfl
  obtain ⟨layout, rfl⟩ := Layout.exists_of_length (not_lt.mp hlength)
  rw [Layout.parseBytes_bytes]
  by_cases hmarked : layout.Marked
  · rw [if_pos hmarked]
    obtain ⟨hmark₁, hmark₂, hmark₃, hmark₄, hmark₅, hlast⟩ := hmarked
    -- a field that is no number ends the reading, whatever comes after it
    have hread (field : List UInt8) (hfield : field.length ≤ 9) :
        (∃ digits : List Digit, field = digits.map digitByte ∧ digits.length = field.length ∧
          readDigits field name = .ok (number digits)) ∨
          readDigits field name = .error (.invalid (canonicalMessage name)) := by
      rcases readDigits_cases field name with ⟨digits, rfl⟩ | herror
      · rw [List.length_map] at hfield
        exact .inl ⟨digits, rfl, (List.length_map _).symm, readDigits_digits hfield name⟩
      · exact .inr herror
    rcases hread layout.year (by rw [layout.year_length]; decide) with
      ⟨year, hyear, hyearLength, hok⟩ | herror
    swap
    · exact .inr (by rw [herror]; rfl)
    rw [hok]
    rcases hread layout.month (by rw [layout.month_length]; decide) with
      ⟨month, hmonth, hmonthLength, hok⟩ | herror
    swap
    · exact .inr (by rw [herror]; rfl)
    rw [hok]
    rcases hread layout.day (by rw [layout.day_length]; decide) with
      ⟨day, hday, hdayLength, hok⟩ | herror
    swap
    · exact .inr (by rw [herror]; rfl)
    rw [hok]
    rcases hread layout.hour (by rw [layout.hour_length]; decide) with
      ⟨hour, hhour, hhourLength, hok⟩ | herror
    swap
    · exact .inr (by rw [herror]; rfl)
    rw [hok]
    rcases hread layout.minute (by rw [layout.minute_length]; decide) with
      ⟨minute, hminute, hminuteLength, hok⟩ | herror
    swap
    · exact .inr (by rw [herror]; rfl)
    rw [hok]
    rcases hread layout.second (by rw [layout.second_length]; decide) with
      ⟨second, hsecond, hsecondLength, hok⟩ | herror
    swap
    · exact .inr (by rw [herror]; rfl)
    rw [hok]
    rcases layout.fractionOf_cases name hlast with ⟨fraction, hfractionLength, hfraction⟩ | herror
    swap
    · exact .inr (by rw [herror]; rfl)
    left
    refine ⟨⟨year, month, day, hour, minute, second, fraction,
      hyearLength.trans layout.year_length, hmonthLength.trans layout.month_length,
      hdayLength.trans layout.day_length, hhourLength.trans layout.hour_length,
      hminuteLength.trans layout.minute_length, hsecondLength.trans layout.second_length,
      hfractionLength⟩, ?_⟩
    simp only [Layout.bytes, TimestampText.bytes, TimestampText.spell, hyear, hmonth, hday, hhour,
      hminute, hsecond, hmark₁, hmark₂, hmark₃, hmark₄, hmark₅, hfraction]
    rfl
  · exact .inr (if_neg hmarked)

-- ════════════════════════════════
-- Instants
-- ════════════════════════════════

theorem daysInMonth_eq (year month : ℕ) :
    daysInMonth year month = Calendar.monthLength year month := by
  by_cases hmonth : month ≤ 12
  · interval_cases month <;> rfl
  · have hnone : Calendar.monthLength year month = 0 := if_pos (.inr (not_le.mp hmonth))
    have hlong : month ∉ [1, 3, 5, 7, 8, 10, 12] := by simp; omega
    have hshort : month ∉ [4, 6, 9, 11] := by simp; omega
    rw [hnone, daysInMonth, if_neg hlong, if_neg hshort, if_neg (by omega)]

namespace TimestampText

/-- The text names a time of a day that there is. -/
structure Valid (text : TimestampText) : Prop where
  date : Calendar.IsDate (number text.year) (number text.month) (number text.day)
  hour_le : number text.hour ≤ 23
  minute_le : number text.minute ≤ 59
  second_le : number text.second ≤ 59

/-- The instant that a text denotes, in seconds. -/
def instant (text : TimestampText) : ℚ :=
  Calendar.dayNumber (number text.year) (number text.month) (number text.day) * 86400 +
    number text.hour * 3600 + number text.minute * 60 + number text.second +
    number text.fraction / 10 ^ text.fraction.length

theorem isInvalid_timestamp (text : TimestampText) :
    isInvalid text.timestamp = false ↔ text.Valid := by
  simp only [isInvalid, daysInMonth_eq, Bool.or_eq_false_iff, Bool.not_eq_eq_eq_not, Bool.not_false,
    Bool.and_eq_true, decide_eq_false_iff_not, decide_eq_true_eq, not_lt, gt_iff_lt]
  constructor
  · rintro ⟨⟨⟨⟨⟨⟨hyear, -⟩, hday⟩, hle⟩, hhour⟩, hminute⟩, hsecond⟩
    exact ⟨⟨Nat.pos_of_ne_zero hyear, Nat.pos_of_ne_zero hday, hle⟩, hhour, hminute, hsecond⟩
  · rintro ⟨hdate, hhour, hminute, hsecond⟩
    have hmonth : 1 ≤ number text.month := by
      by_contra hzero
      have hle := hdate.day_le
      rw [Calendar.monthLength, if_pos (.inl (by omega))] at hle
      exact absurd hdate.day_pos (by omega)
    exact ⟨⟨⟨⟨⟨⟨hdate.year_pos.ne', hmonth, hdate.month_le⟩, hdate.day_pos.ne'⟩, hdate.day_le⟩,
      hhour⟩, hminute⟩, hsecond⟩

end TimestampText

/-- The nanoseconds since the first day. -/
def UtcTimestamp.nanoseconds (timestamp : UtcTimestamp) : ℕ :=
  (((Calendar.dayNumber timestamp.year timestamp.month timestamp.day * 24 + timestamp.hour) * 60 +
    timestamp.minute) * 60 + timestamp.second) * 1000000000 + timestamp.nanosecond

namespace TimestampText

variable {text text' : TimestampText}

theorem nanosecond_lt (text : TimestampText) : text.timestamp.nanosecond < 1000000000 :=
  calc number text.fraction * 10 ^ (9 - text.fraction.length)
      < 10 ^ text.fraction.length * 10 ^ (9 - text.fraction.length) :=
        Nat.mul_lt_mul_of_pos_right (number_lt _) (Nat.pow_pos (by decide))
    _ = 10 ^ 9 := by rw [← Nat.pow_add, Nat.add_sub_cancel' text.fraction_length]

theorem instant_eq (text : TimestampText) :
    text.instant = (text.timestamp.nanoseconds : ℚ) / 1000000000 := by
  have hfraction : (number text.fraction : ℚ) / 10 ^ text.fraction.length =
      number text.fraction * 10 ^ (9 - text.fraction.length) / 1000000000 := by
    have hpow : (10 : ℚ) ^ text.fraction.length * 10 ^ (9 - text.fraction.length) = 1000000000 := by
      rw [← pow_add, Nat.add_sub_cancel' text.fraction_length]
      norm_num
    rw [← hpow]
    field_simp
  rw [instant, hfraction, UtcTimestamp.nanoseconds, timestamp]
  push_cast
  ring

/-- Field by field, and by the instants. -/
theorem compare_timestamp (h : text.Valid) (h' : text'.Valid) :
    compare text.timestamp text'.timestamp =
      compare text.timestamp.nanoseconds text'.timestamp.nanoseconds := by
  have hhour : text.timestamp.hour < 24 := Nat.lt_succ_of_le h.hour_le
  have hhour' : text'.timestamp.hour < 24 := Nat.lt_succ_of_le h'.hour_le
  have hminute : text.timestamp.minute < 60 := Nat.lt_succ_of_le h.minute_le
  have hminute' : text'.timestamp.minute < 60 := Nat.lt_succ_of_le h'.minute_le
  have hsecond : text.timestamp.second < 60 := Nat.lt_succ_of_le h.second_le
  have hsecond' : text'.timestamp.second < 60 := Nat.lt_succ_of_le h'.second_le
  rw [UtcTimestamp.nanoseconds, UtcTimestamp.nanoseconds,
    Calendar.compare_places text.nanosecond_lt text'.nanosecond_lt,
    Calendar.compare_places hsecond hsecond', Calendar.compare_places hminute hminute',
    Calendar.compare_places hhour hhour']
  have hdate := Calendar.compare_dayNumber h.date h'.date
  simp only [timestamp] at hdate ⊢
  rw [hdate]
  simp only [Ordering.then_assoc]
  rfl

theorem compare_instant : compare text.instant text'.instant =
    compare text.timestamp.nanoseconds text'.timestamp.nanoseconds := by
  rw [instant_eq, instant_eq]
  have hpos : (0 : ℚ) < 1000000000 := by norm_num
  have hlt {a b : ℕ} (h : a < b) : (a : ℚ) / 1000000000 < (b : ℚ) / 1000000000 :=
    div_lt_div_of_pos_right (Nat.cast_lt.mpr h) hpos
  rcases lt_trichotomy text.timestamp.nanoseconds text'.timestamp.nanoseconds with h | h | h
  · rw [compare_lt_iff_lt.mpr h, compare_lt_iff_lt.mpr (hlt h)]
  · rw [h, compare_eq_iff_eq.mpr rfl, compare_eq_iff_eq.mpr rfl]
  · rw [compare_gt_iff_gt.mpr h, compare_gt_iff_gt.mpr (hlt h)]

end TimestampText

theorem checkCalendar_eq_ok {timestamp timestamp' : UtcTimestamp} {name : String} :
    checkCalendar timestamp name = .ok timestamp' ↔
      isInvalid timestamp = false ∧ timestamp' = timestamp := by
  rw [checkCalendar]
  by_cases h : isInvalid timestamp = true
  · rw [if_pos h, h]
    exact ⟨fun hok => (nomatch hok), fun hfalse => (nomatch hfalse.1)⟩
  · rw [if_neg h]
    rw [Bool.not_eq_true] at h
    exact ⟨fun hok => ⟨h, (Except.ok.inj hok).symm⟩, fun hok => by rw [hok.2]⟩

theorem checkCalendar_ne_panic (timestamp : UtcTimestamp) (name : String) :
    checkCalendar timestamp name ≠ .error .panic := by
  rw [checkCalendar]
  split <;> simp

/-- What is read of a text that is written out. -/
theorem TimestampText.parse_render (text : TimestampText) (name : String) :
    parseUtcTimestamp text.render name = checkCalendar text.timestamp name := by
  rw [parseUtcTimestamp, text.utf8_render, text.parseBytes_bytes]

theorem TimestampText.parse_render_eq_ok {text : TimestampText} {timestamp : UtcTimestamp}
    {name : String} : parseUtcTimestamp text.render name = .ok timestamp ↔
      text.Valid ∧ timestamp = text.timestamp := by
  rw [text.parse_render, checkCalendar_eq_ok, isInvalid_timestamp]

/-- Another value is turned down. -/
theorem exists_render (value name : String) :
    (∃ text : TimestampText, value = text.render) ∨
      parseUtcTimestamp value name = .error (.invalid (canonicalMessage name)) := by
  rcases exists_text (utf8 value) name with ⟨text, htext⟩ | herror
  · exact .inl ⟨text, utf8_injective (htext.trans text.utf8_render.symm)⟩
  · exact .inr herror

/-- The reader never panics, takes the texts of timestamps and no others, and orders two of them by
the instants that they denote. -/
theorem parseUtcTimestamp_exact (name : String) :
    (∀ value, parseUtcTimestamp value name ≠ .error .panic) ∧
    (∀ value, (∃ timestamp, parseUtcTimestamp value name = .ok timestamp) ↔
      ∃ text : TimestampText, text.Valid ∧ value = text.render) ∧
    ∀ (text text' : TimestampText) timestamp timestamp',
      parseUtcTimestamp text.render name = .ok timestamp →
      parseUtcTimestamp text'.render name = .ok timestamp' →
      compare timestamp timestamp' = compare text.instant text'.instant ∧
        (timestamp = timestamp' ↔ text.instant = text'.instant) := by
  refine ⟨fun value => ?_, fun value => ⟨?_, ?_⟩, ?_⟩
  · rcases exists_render value name with ⟨text, rfl⟩ | herror
    · rw [text.parse_render]
      exact checkCalendar_ne_panic _ _
    · rw [herror]
      simp
  · rintro ⟨timestamp, hok⟩
    rcases exists_render value name with ⟨text, rfl⟩ | herror
    · exact ⟨text, (TimestampText.parse_render_eq_ok.mp hok).1, rfl⟩
    · rw [herror] at hok
      nomatch hok
  · rintro ⟨text, hvalid, rfl⟩
    exact ⟨text.timestamp, TimestampText.parse_render_eq_ok.mpr ⟨hvalid, rfl⟩⟩
  · intro text text' timestamp timestamp' hok hok'
    obtain ⟨hvalid, rfl⟩ := TimestampText.parse_render_eq_ok.mp hok
    obtain ⟨hvalid', rfl⟩ := TimestampText.parse_render_eq_ok.mp hok'
    have hcompare : compare text.timestamp text'.timestamp = compare text.instant text'.instant :=
      (TimestampText.compare_timestamp hvalid hvalid').trans TimestampText.compare_instant.symm
    refine ⟨hcompare, fun heq => ?_, fun heq => ?_⟩
    · rw [TimestampText.instant_eq, TimestampText.instant_eq, heq]
    · rw [heq, compare_eq_iff_eq.mpr rfl] at hcompare
      exact UtcTimestamp.eq_of_compare hcompare

end CatalogBench.ContractTool.Timestamp
