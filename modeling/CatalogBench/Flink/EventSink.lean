import CatalogBench.Engine.Decoding
import CatalogBench.Flink.Program

/-!
# The event sink of the Flink runner

`emit` bounds the encoded event, the decoder of the harness bounds the whole line. Jackson is
outside the repository: its encoding of an event is the parameter `writeValueAsString`.
-/

set_option linter.all false

namespace CatalogBench.Flink
open CatalogBench.Engine

/-- `PREFIX`. -/
def eventPrefix : String := "CATALOG_BENCH_EVENT "

/-- `MAX_EVENT_BYTES`. -/
def maxEventBytes : ℕ := 16 * 1024

structure EventFailure where
  deriving DecidableEq

/-- `emit` returns the line it printed, without its line feed. `checkError` is what the stream
reports after the line was flushed. -/
def emit (writeValueAsString : ChildEvent → Except Unit String) (checkError : Bool)
    (event : ChildEvent) : Except EventFailure String :=
  match writeValueAsString event with
  | .error _ => .error ⟨⟩
  | .ok encoded =>
    if (utf8 encoded).length > maxEventBytes then .error ⟨⟩
    else if checkError then .error ⟨⟩
    else .ok (eventPrefix ++ encoded)

theorem emit_eq_ok {writeValueAsString : ChildEvent → Except Unit String} {checkError : Bool}
    {event : ChildEvent} {encoded line : String}
    (hencoded : writeValueAsString event = .ok encoded)
    (h : emit writeValueAsString checkError event = .ok line) :
    (utf8 encoded).length ≤ maxEventBytes ∧ line = eventPrefix ++ encoded := by
  rw [emit, hencoded] at h
  dsimp only at h
  split at h
  · cases h
  · next hlength =>
    split at h
    · cases h
    · exact ⟨by omega, (Except.ok.inj h).symm⟩

end CatalogBench.Flink

namespace CatalogBench.Engine.EngineEventDecoder

variable (decode : List UInt8 → Option EngineEvent)

/-- No accepted or refused event is reported as an overlong line. -/
theorem accept_failure_ne {d : EngineEventDecoder} (event : EngineEvent)
    (h : d.failure = none) : (d.accept event).failure ≠ some ⟨.eventLineTooLarge⟩ := by
  unfold accept
  split
  · simp [fail, h]
  split
  · simp [fail, h]
  split <;> split <;> simp [fail, h]

theorem finishLine_failure_ne {d : EngineEventDecoder} (h : d.failure = none) :
    (d.finishLine decode).failure ≠ some ⟨.eventLineTooLarge⟩ := by
  unfold finishLine
  split
  · simp [h]
  split
  · simp [fail, h]
  · exact accept_failure_ne _ h

/-- One line read by a decoder without a failure is reported as overlong exactly when it is. -/
theorem pushBytes_line_tooLarge_iff {line : List UInt8} (hline : lineFeed ∉ line)
    {d : EngineEventDecoder} (h : d.failure = none)
    (hfits : d.line.length ≤ maximumEngineEventBytes) :
    (d.pushBytes decode (line ++ [lineFeed])).failure = some ⟨.eventLineTooLarge⟩ ↔
      maximumEngineEventBytes < d.line.length + line.length := by
  induction line generalizing d with
  | nil =>
    have hne : (d.finishLine decode).failure ≠ some ⟨.eventLineTooLarge⟩ :=
      finishLine_failure_ne decode h
    simpa [pushBytes, hne] using hfits
  | cons byte line ih =>
    rw [List.mem_cons, not_or] at hline
    rw [List.cons_append, pushBytes, if_neg (Ne.symm hline.1)]
    by_cases hroom : d.line.length < maximumEngineEventBytes
    · rw [if_pos hroom]
      have hrest := @ih hline.2 { d with line := d.line ++ [byte] } h
        (by rw [List.length_append, List.length_singleton]; omega)
      simp only [List.length_append, List.length_cons, List.length_nil] at hrest ⊢
      rw [hrest]
      omega
    · have hfull : maximumEngineEventBytes < d.line.length + (byte :: line).length := by
        rw [List.length_cons]
        omega
      have hfail : (d.fail .eventLineTooLarge).failure = some ⟨.eventLineTooLarge⟩ := by
        simp [fail, h]
      rw [if_neg hroom]
      exact ⟨fun _ => hfull, fun _ => hfail⟩

/-- A fresh decoder reports a line as overlong exactly when it is. -/
theorem push_line_tooLarge_iff {line : List UInt8} (hline : lineFeed ∉ line)
    (htotal : line.length < maximumEngineStdoutBytes) :
    (new.push decode (line ++ [lineFeed])).failure = some ⟨.eventLineTooLarge⟩ ↔
      maximumEngineEventBytes < line.length := by
  have hobserved : MachineInt.saturatingAdd 64 0 (line ++ [lineFeed]).length ≤
      maximumEngineStdoutBytes := by
    have hmin := Nat.min_le_left (0 + (line ++ [lineFeed]).length) (2 ^ 64 - 1)
    rw [List.length_append, List.length_singleton] at hmin ⊢
    exact hmin.trans (by omega)
  unfold push
  dsimp only [new]
  rw [if_neg (by omega), if_neg (by simp)]
  rw [pushBytes_line_tooLarge_iff decode hline rfl (Nat.zero_le _)]
  simp

end CatalogBench.Engine.EngineEventDecoder

namespace CatalogBench.Flink
open CatalogBench.Engine

theorem utf8_append (a b : String) : utf8 (a ++ b) = utf8 a ++ utf8 b := by
  simp [utf8]

/-- The line an emitted event is printed on reaches the decoder whole exactly when the encoded
event leaves room for the prefix. -/
theorem emit_line_fits_iff {writeValueAsString : ChildEvent → Except Unit String}
    {checkError : Bool} {event : ChildEvent} {encoded line : String}
    (hencoded : writeValueAsString event = .ok encoded) (hlf : lineFeed ∉ utf8 encoded)
    (hemit : emit writeValueAsString checkError event = .ok line)
    (decode : List UInt8 → Option EngineEvent) :
    ((utf8 line).length ≤ maximumEngineEventBytes ∧
      (EngineEventDecoder.new.push decode (utf8 line ++ [lineFeed])).failure ≠
        some ⟨.eventLineTooLarge⟩) ↔
      (utf8 encoded).length ≤ maximumEngineEventBytes - engineEventPrefix.length := by
  obtain ⟨hbytes, rfl⟩ := emit_eq_ok hencoded hemit
  have hstarts : (utf8 eventPrefix).length = 20 := by decide
  have hlength : (utf8 (eventPrefix ++ encoded)).length = 20 + (utf8 encoded).length := by
    rw [utf8_append, List.length_append, hstarts]
  have hline : lineFeed ∉ utf8 (eventPrefix ++ encoded) := by
    rw [utf8_append, List.mem_append, not_or]
    exact ⟨by decide, hlf⟩
  have hlimits : maximumEngineEventBytes = 16384 ∧ maxEventBytes = 16384 ∧
      engineEventPrefix.length = 20 ∧ maximumEngineStdoutBytes = 1048576 := by decide
  rw [Ne, EngineEventDecoder.push_line_tooLarge_iff decode hline (by omega)]
  omega

/-- What Jackson writes for a runtime of Flink on Linux without dependencies, up to the value
of its last field. -/
def runtimeReadyStart : String :=
  "\x7b\"event\":\"runtime-ready\",\"runtime\":\x7b\"engine_version\":\"2.1.3\"," ++
    "\"dependencies\":\x7b\x7d,\"operating_system\":\"linux\",\"architecture\":\""

def runtimeReadyJson (architecture : String) : String :=
  runtimeReadyStart ++ architecture ++ "\"\x7d\x7d"

def sampleWriteValue : ChildEvent → Except Unit String
  | .runtimeReady runtime => .ok (runtimeReadyJson runtime.architecture)
  | _ => .error ()

/-- A runtime whose architecture has `n` letters. -/
def wideRuntime (n : ℕ) : ChildEvent :=
  .runtimeReady ⟨"2.1.3", ∅, "linux", String.ofList (List.replicate n 'a')⟩

theorem utf8_replicate (n : ℕ) : utf8 (String.ofList (List.replicate n 'a')) = List.replicate n 97 := by
  induction n with
  | zero => rfl
  | succ n ih =>
    have hletter : utf8 (String.ofList ['a']) = [97] := by decide
    rw [List.replicate_succ, ← List.singleton_append, String.ofList_append, utf8_append, ih,
      hletter, List.replicate_succ, List.singleton_append]

theorem utf8_runtimeReadyJson (n : ℕ) :
    (utf8 (runtimeReadyJson (String.ofList (List.replicate n 'a')))).length = 125 + n ∧
      lineFeed ∉ utf8 (runtimeReadyJson (String.ofList (List.replicate n 'a'))) := by
  have hstart : (utf8 runtimeReadyStart).length = 122 ∧ lineFeed ∉ utf8 runtimeReadyStart := by
    decide +kernel
  have hend : (utf8 "\"\x7d\x7d").length = 3 ∧ lineFeed ∉ utf8 "\"\x7d\x7d" := by decide
  simp only [runtimeReadyJson, utf8_append, utf8_replicate, List.length_append,
    List.length_replicate, List.mem_append, List.mem_replicate, not_or, hstart.1, hend.1]
  exact ⟨by omega, ⟨hstart.2, by simp [lineFeed]⟩, hend.2⟩

/-- A payload of exactly the limit is emitted, and its line is 20 bytes too long. -/
theorem emit_line_too_long :
    ∃ line, emit sampleWriteValue false (wideRuntime 16259) = .ok line ∧
      lineFeed ∉ utf8 line ∧ (utf8 line).length = maximumEngineEventBytes + 20 ∧
      (EngineEventDecoder.new.push (fun _ => none) (utf8 line ++ [lineFeed])).failure =
        some ⟨.eventLineTooLarge⟩ := by
  obtain ⟨hlength, hlf⟩ := utf8_runtimeReadyJson 16259
  have hemit : emit sampleWriteValue false (wideRuntime 16259) = .ok (eventPrefix ++
      runtimeReadyJson (String.ofList (List.replicate 16259 'a'))) := by
    simp only [emit, sampleWriteValue, wideRuntime, hlength, maxEventBytes]
    rfl
  have hline : lineFeed ∉ utf8 (eventPrefix ++
      runtimeReadyJson (String.ofList (List.replicate 16259 'a'))) := by
    rw [utf8_append, List.mem_append, not_or]
    exact ⟨by decide, hlf⟩
  have hstarts : (utf8 eventPrefix).length = 20 := by decide
  have hlong : (utf8 (eventPrefix ++
      runtimeReadyJson (String.ofList (List.replicate 16259 'a')))).length =
      maximumEngineEventBytes + 20 := by
    rw [utf8_append, List.length_append, hlength, hstarts]
    rfl
  refine ⟨_, hemit, hline, hlong, ?_⟩
  rw [EngineEventDecoder.push_line_tooLarge_iff _ hline (by rw [hlong]; decide), hlong]
  exact Nat.lt_add_of_pos_right (by decide)

theorem emit_line_fits_iff_short :
    (utf8 (eventPrefix ++ runtimeReadyJson "")).length ≤ maximumEngineEventBytes ∧
      (EngineEventDecoder.new.push (fun _ => none)
        (utf8 (eventPrefix ++ runtimeReadyJson "") ++ [lineFeed])).failure ≠
        some ⟨.eventLineTooLarge⟩ :=
  have hshort := utf8_runtimeReadyJson 0
  (@emit_line_fits_iff sampleWriteValue false (wideRuntime 0) _ _ rfl hshort.2
    (by simp only [emit, sampleWriteValue, wideRuntime, hshort.1]; rfl) _).mpr
    (by rw [hshort.1]; decide)

end CatalogBench.Flink
