import CatalogBench.Flink.Codec
import CatalogBench.Flink.ProgramRunner
import CatalogBench.Library.Lines
import CatalogBench.Library.MachineInt

/-!
# The canonical read of the Flink process

The process adds the rows of a result to a digest one by one, and refuses a row as soon as the
read cannot be the expected one any more.
-/

set_option linter.all false

namespace CatalogBench.Flink
open CatalogBench.Engine Interaction MachineInt

/-- A field of a row, as an `Object`. -/
inductive JavaValue
  | null
  | long (n : ℤ)
  | string (text : String)
  | other
  deriving DecidableEq

inductive RowKind
  | insert | updateBefore | updateAfter | delete
  deriving DecidableEq

structure Row where
  kind : RowKind
  fields : List JavaValue
  deriving DecidableEq

/-- The fields of `CanonicalRead`, where the digest is what it has been updated with. -/
structure CanonicalReadState where
  digest : List UInt8
  maximumRows : ℤ
  maximumBytes : ℤ
  expectedArity : ℕ
  rows : ℤ
  bytes : ℤ
  deriving DecidableEq

/-- What a library returned, an exception being a failure. -/
def orFail {α : Type} (value : Option α) : Except EffectFailure α :=
  match value with
  | some value => .ok value
  | none => .error ⟨⟩

@[simp] theorem orFail_eq_ok {α : Type} {value : Option α} {a : α} :
    orFail value = .ok a ↔ value = some a := by
  cases value <;> simp [orFail]

namespace CanonicalReadState

def start (oracle : ReadOracle) : CanonicalReadState where
  digest := []
  maximumRows := oracle.rows
  maximumBytes := oracle.bytes
  expectedArity := oracle.columns.length
  rows := 0
  bytes := 0

/-- A field that is no integer and no text, or a text that is longer than what is left. -/
def refuses (read : CanonicalReadState) : JavaValue → Bool
  | .null | .long _ => false
  | .string text => read.maximumBytes - read.bytes < javaLength text
  | .other => true

/-- `Math.addExact(bytes, Math.addExact(encoded.length, 1))`. -/
def nextBytes (read : CanonicalReadState) (encoded : List UInt8) : Option ℤ :=
  (checkedSignedAdd 32 encoded.length 1).bind fun line => checkedSignedAdd 64 read.bytes line

variable (mapper : List JavaValue → Option (List UInt8))

/-- `add`, where `mapper` is `ObjectMapper.writeValueAsBytes`. -/
def add (read : CanonicalReadState) (row : Row) : Except EffectFailure CanonicalReadState :=
  if row.kind ≠ .insert ∨ row.fields.length ≠ read.expectedArity ∨ read.maximumRows ≤ read.rows then
    .error ⟨⟩
  else if row.fields.any read.refuses then .error ⟨⟩
  else do
    let encoded ← orFail (mapper row.fields)
    let bytes ← orFail (read.nextBytes encoded)
    if read.maximumBytes < bytes then .error ⟨⟩
    else .ok { read with
      digest := read.digest ++ encoded ++ [lineFeed]
      bytes := bytes
      rows := read.rows + 1 }

def finish (sha256 : List UInt8 → List UInt8) (read : CanonicalReadState) : ReadObservation :=
  ⟨read.rows, read.bytes, hex (sha256 read.digest)⟩

/-- `read` over the rows of a result. -/
def readRows (sha256 : List UInt8 → List UInt8) (oracle : ReadOracle) (rows : List Row) :
    Except EffectFailure ReadObservation := do
  let read ← rows.foldlM (add mapper) (start oracle)
  return read.finish sha256

-- ════════════════════════════════
-- Rows that are added
-- ════════════════════════════════

/-- A row of an expected arity that is written as a text no shorter than its own texts. -/
structure Writes (arity : ℕ) (row : Row) (text : List UInt8) : Prop where
  inserted : row.kind = .insert
  arity : row.fields.length = arity
  written : mapper row.fields = some text
  known : .other ∉ row.fields
  long_enough : ∀ value, .string value ∈ row.fields → javaLength value ≤ text.length

/-- The state after the lines of some rows. -/
def after (oracle : ReadOracle) (texts : List (List UInt8)) : CanonicalReadState :=
  { start oracle with
    digest := Lines.terminated lineFeed texts
    rows := texts.length
    bytes := (Lines.terminated lineFeed texts).length }

variable {mapper} {oracle : ReadOracle} {texts : List (List UInt8)}

/-- A sum of lengths below the limit of an array does not overflow. -/
theorem nextBytes_of_lt {read : CanonicalReadState} {encoded : List UInt8} (hbytes : 0 ≤ read.bytes)
    (h : read.bytes + ((encoded.length : ℤ) + 1) < 2 ^ 31) :
    read.nextBytes encoded = some (read.bytes + ((encoded.length : ℤ) + 1)) := by
  have hline : checkedSignedAdd 32 encoded.length 1 = some ((encoded.length : ℤ) + 1) :=
    checkedSignedAdd_of_lt (by omega) (by omega)
  have hsum : checkedSignedAdd 64 read.bytes ((encoded.length : ℤ) + 1) =
      some (read.bytes + ((encoded.length : ℤ) + 1)) :=
    checkedSignedAdd_of_lt (by omega) (by omega)
  rw [nextBytes, hline, Option.bind_some, hsum]

theorem length_terminated_concat (text : List UInt8) :
    (Lines.terminated lineFeed (texts ++ [text])).length =
      (Lines.terminated lineFeed texts).length + (text.length + 1) := by
  rw [Lines.terminated_append, List.length_append, Lines.terminated_cons]
  simp

theorem refuses_after {row : Row} {text : List UInt8}
    (h : Writes mapper oracle.columns.length row text)
    (hbytes : (Lines.terminated lineFeed (texts ++ [text])).length ≤ oracle.bytes) :
    row.fields.any (after oracle texts).refuses = false := by
  rw [List.any_eq_false]
  intro value hvalue
  cases value with
  | null => exact Bool.false_ne_true
  | long n => exact Bool.false_ne_true
  | other => exact absurd hvalue h.known
  | string value =>
    intro hrefused
    have hlong := h.long_enough value hvalue
    have hshort := of_decide_eq_true hrefused
    simp only [after, start] at hshort
    rw [length_terminated_concat] at hbytes
    push_cast at hbytes
    omega

theorem add_eq_ok {read : CanonicalReadState} {row : Row} {encoded : List UInt8} {bytes : ℤ}
    (hkind : row.kind = .insert) (harity : row.fields.length = read.expectedArity)
    (hrows : read.rows < read.maximumRows) (hkept : row.fields.any read.refuses = false)
    (hwritten : mapper row.fields = some encoded)
    (hnext : read.nextBytes encoded = some bytes) (hfits : bytes ≤ read.maximumBytes) :
    add mapper read row = .ok { read with
      digest := read.digest ++ encoded ++ [lineFeed]
      bytes := bytes
      rows := read.rows + 1 } := by
  have hadmitted : ¬(row.kind ≠ .insert ∨ row.fields.length ≠ read.expectedArity ∨
      read.maximumRows ≤ read.rows) := by
    rintro (hne | hne | hle)
    · exact hne hkind
    · exact hne harity
    · exact absurd hle (not_le.mpr hrows)
  rw [add, if_neg hadmitted, hkept, if_neg Bool.false_ne_true]
  refine except_bind_eq_ok.mpr ⟨encoded, orFail_eq_ok.mpr hwritten, ?_⟩
  refine except_bind_eq_ok.mpr ⟨bytes, orFail_eq_ok.mpr hnext, ?_⟩
  exact if_neg (not_lt.mpr hfits)

/-- A row that fits is added. -/
theorem add_after {row : Row} {text : List UInt8}
    (h : Writes mapper oracle.columns.length row text) (hrows : (texts.length : ℤ) < oracle.rows)
    (hbytes : (Lines.terminated lineFeed (texts ++ [text])).length ≤ oracle.bytes)
    (hlimit : oracle.bytes < 2 ^ 31) :
    add mapper (after oracle texts) row = .ok (after oracle (texts ++ [text])) := by
  have hkept := refuses_after h hbytes
  rw [length_terminated_concat] at hbytes
  push_cast at hbytes
  have hnext : (after oracle texts).nextBytes text =
      some ((Lines.terminated lineFeed texts).length + ((text.length : ℤ) + 1)) :=
    nextBytes_of_lt (Int.natCast_nonneg _) (lt_of_le_of_lt hbytes hlimit)
  rw [add_eq_ok h.inserted h.arity hrows hkept h.written hnext hbytes]
  simp only [after, start, Lines.terminated_append, Lines.terminated_cons, Lines.terminated_nil,
    List.append_nil, List.append_assoc, List.length_append, List.length_cons, List.length_nil]
  push_cast
  rfl

/-- Rows that fit are all added. -/
theorem foldlM_add_after {rows : List Row} {texts' : List (List UInt8)}
    (h : List.Forall₂ (Writes mapper oracle.columns.length) rows texts')
    (hrows : ((texts ++ texts').length : ℤ) ≤ oracle.rows)
    (hbytes : (Lines.terminated lineFeed (texts ++ texts')).length ≤ oracle.bytes)
    (hlimit : oracle.bytes < 2 ^ 31) :
    rows.foldlM (add mapper) (after oracle texts) = .ok (after oracle (texts ++ texts')) := by
  induction h generalizing texts with
  | nil => rw [List.append_nil, List.foldlM_nil]; rfl
  | @cons row text rows texts' hrow _ ih =>
    have hfirst : (Lines.terminated lineFeed (texts ++ [text])).length ≤ oracle.bytes := by
      rw [List.append_cons, Lines.terminated_append, List.length_append] at hbytes
      push_cast at hbytes
      omega
    have hcount : (texts.length : ℤ) < oracle.rows := by
      rw [List.length_append, List.length_cons] at hrows
      push_cast at hrows
      omega
    rw [List.append_cons] at hrows hbytes ⊢
    rw [List.foldlM_cons, add_after hrow hcount hfirst hlimit]
    exact ih hrows hbytes

/-- Rows that fit are read as their lines. -/
theorem readRows_eq {sha256 : List UInt8 → List UInt8} {rows : List Row}
    (h : List.Forall₂ (Writes mapper oracle.columns.length) rows texts)
    (hrows : (texts.length : ℤ) ≤ oracle.rows)
    (hbytes : (Lines.terminated lineFeed texts).length ≤ oracle.bytes)
    (hlimit : oracle.bytes < 2 ^ 31) :
    readRows mapper sha256 oracle rows =
      .ok ⟨texts.length, (Lines.terminated lineFeed texts).length,
        hex (sha256 (Lines.terminated lineFeed texts))⟩ :=
  except_bind_eq_ok.mpr ⟨_, @foldlM_add_after mapper oracle [] _ _ h hrows hbytes hlimit, rfl⟩

end CanonicalReadState

end CatalogBench.Flink
