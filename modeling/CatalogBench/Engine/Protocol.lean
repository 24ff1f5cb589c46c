import CatalogBench.Crates
import CatalogBench.Library.MachineInt
import Mathlib.Data.Int.Notation

/-!
# The engine event protocol

Every stock engine reports its progress on standard output, one JSON event per
line behind `engineEventPrefix`. `EngineEventDecoder` reads that output in
whatever pieces the pipe delivers and keeps the first protocol failure.

`serde_json` is outside the repository: its decoding of an event payload is
the parameter `decode` of every function that reads a line.
-/

set_option linter.all false

namespace CatalogBench.Engine
open MachineInt

def engineEventPrefix : List UInt8 := utf8 "CATALOG_BENCH_EVENT "

def maximumEngineEventBytes : ℕ := 16 * 1024
def maximumEngineEvents : ℕ := 32
def maximumEngineStdoutBytes : ℕ := 1024 * 1024

/-- `b'\n'`. -/
def lineFeed : UInt8 := 10

inductive EngineStage
  | verifyRuntime | initializeCatalog | preflightFixture | createNamespace | createTable
  | appendInitial | readInitial | evolveSchema | appendEvolved | readEvolved
  | observeFinalTable
  deriving DecidableEq

def EngineStage.order : List EngineStage :=
  [.verifyRuntime, .initializeCatalog, .preflightFixture, .createNamespace, .createTable,
    .appendInitial, .readInitial, .evolveSchema, .appendEvolved, .readEvolved,
    .observeFinalTable]

inductive EngineFailureCategory
  | runtime | connector | catalog | data
  deriving DecidableEq

structure EngineRuntimeObservation where
  engineVersion : String
  dependencies : StringMap String
  operatingSystem : String
  architecture : String
  deriving DecidableEq

inductive IcebergPrimitiveType
  | long | string
  deriving DecidableEq

structure EngineFieldObservation where
  id : ℤ
  name : String
  required : Bool
  fieldType : IcebergPrimitiveType
  deriving DecidableEq

inductive EnginePropertyObservation
  | «match» | mismatch
  deriving DecidableEq

structure EngineTableObservation where
  tableUuid : String
  metadataLocation : String
  location : String
  formatVersion : ℕ
  lastColumnId : ℤ
  schema : List EngineFieldObservation
  snapshots : ℕ
  properties : StringMap EnginePropertyObservation
  deriving DecidableEq

structure RowReadObservation where
  rows : ℕ
  bytes : ℕ
  sha256 : String
  deriving DecidableEq

inductive EngineEvent
  | runtimeReady (runtime : EngineRuntimeObservation)
  | catalogReady
  | fixturePreflight (absent : Bool)
  | namespaceReady (listedExactly : Bool)
  | tableReady (table : EngineTableObservation)
  | initialAppended (snapshots : ℕ)
  | initialRead (read : RowReadObservation)
  | schemaEvolved (table : EngineTableObservation)
  | evolvedAppended (snapshots : ℕ)
  | evolvedRead (read : RowReadObservation)
  | finalTable (table : EngineTableObservation)
  | completed
  | failed (stage : EngineStage) (category : EngineFailureCategory)
  deriving DecidableEq

def EngineEvent.successfulStage : EngineEvent → Option EngineStage
  | .runtimeReady _ => some .verifyRuntime
  | .catalogReady => some .initializeCatalog
  | .fixturePreflight _ => some .preflightFixture
  | .namespaceReady _ => some .createNamespace
  | .tableReady _ => some .createTable
  | .initialAppended _ => some .appendInitial
  | .initialRead _ => some .readInitial
  | .schemaEvolved _ => some .evolveSchema
  | .evolvedAppended _ => some .appendEvolved
  | .evolvedRead _ => some .readEvolved
  | .finalTable _ => some .observeFinalTable
  | .completed | .failed _ _ => none

inductive EngineProtocolFailureKind
  | stdoutTooLarge | eventLineTooLarge | malformedEvent | tooManyEvents | outOfOrder
  | postTerminal | missingTerminal
  deriving DecidableEq

structure EngineProtocolFailure where
  kind : EngineProtocolFailureKind
  deriving DecidableEq

structure EngineEventCapture where
  events : List EngineEvent
  failure : Option EngineProtocolFailure
  stdoutBytesObserved : ℕ
  deriving DecidableEq

namespace EngineEventCapture

def cleanupAuthorized (capture : EngineEventCapture) : Bool :=
  capture.events.any fun event => event = .fixturePreflight true

def fixtureCollision (capture : EngineEventCapture) : Bool :=
  capture.failure.isNone && capture.events.getLast? = some (.fixturePreflight false)

def completed (capture : EngineEventCapture) : Bool :=
  capture.failure.isNone && capture.events.getLast? = some .completed

def engineFailure (capture : EngineEventCapture) :
    Option (EngineStage × EngineFailureCategory) :=
  match capture.events.getLast? with
  | some (.failed stage category) =>
    if capture.failure.isNone then some (stage, category) else none
  | _ => none

end EngineEventCapture

structure EngineEventDecoder where
  line : List UInt8 := []
  events : List EngineEvent := []
  failure : Option EngineProtocolFailure := none
  stdoutBytesObserved : ℕ := 0
  nextStage : ℕ := 0
  terminal : Bool := false
  deriving DecidableEq

namespace EngineEventDecoder

def new : EngineEventDecoder := {}

/-- Only the first failure is kept. -/
def fail (d : EngineEventDecoder) (kind : EngineProtocolFailureKind) : EngineEventDecoder :=
  if d.failure.isNone then { d with failure := some ⟨kind⟩ } else d

def accept (d : EngineEventDecoder) (event : EngineEvent) : EngineEventDecoder :=
  if d.terminal then d.fail .postTerminal
  else if d.events.length ≥ maximumEngineEvents then d.fail .tooManyEvents
  else
    match event with
    | .failed stage _ =>
      if EngineStage.order[d.nextStage]? ≠ some stage then d.fail .outOfOrder
      else { d with terminal := true, events := d.events ++ [event] }
    | .completed =>
      if d.nextStage ≠ EngineStage.order.length then d.fail .outOfOrder
      else { d with terminal := true, events := d.events ++ [event] }
    | .fixturePreflight false =>
      if EngineStage.order[d.nextStage]? ≠ some .preflightFixture then d.fail .outOfOrder
      else
        { d with nextStage := d.nextStage + 1, terminal := true, events := d.events ++ [event] }
    | _ =>
      if event.successfulStage ≠ EngineStage.order[d.nextStage]? then d.fail .outOfOrder
      else { d with nextStage := d.nextStage + 1, events := d.events ++ [event] }

def failed (d : EngineEventDecoder) : Bool := d.failure.isSome

variable (decode : List UInt8 → Option EngineEvent)

def finishLine (d : EngineEventDecoder) : EngineEventDecoder :=
  if d.failure.isSome || !engineEventPrefix.isPrefixOf d.line then d
  else
    match decode (d.line.drop engineEventPrefix.length) with
    | none => d.fail .malformedEvent
    | some event => d.accept event

/-- The loop of `push` over the bytes of one chunk. -/
def pushBytes : EngineEventDecoder → List UInt8 → EngineEventDecoder
  | d, [] => d
  | d, byte :: bytes =>
    if byte = lineFeed then pushBytes { d.finishLine decode with line := [] } bytes
    else if d.line.length < maximumEngineEventBytes then
      pushBytes { d with line := d.line ++ [byte] } bytes
    else d.fail .eventLineTooLarge

def push (d : EngineEventDecoder) (bytes : List UInt8) : EngineEventDecoder :=
  let d := { d with stdoutBytesObserved := saturatingAdd 64 d.stdoutBytesObserved bytes.length }
  if d.stdoutBytesObserved > maximumEngineStdoutBytes then d.fail .stdoutTooLarge
  else if d.failure.isSome then d
  else d.pushBytes decode bytes

def finish (d : EngineEventDecoder) : EngineEventCapture :=
  let d := if d.failure.isNone && !d.line.isEmpty then d.finishLine decode else d
  let d := if d.failure.isNone && !d.terminal then d.fail .missingTerminal else d
  { events := d.events, failure := d.failure, stdoutBytesObserved := d.stdoutBytesObserved }

/-- What `drain_stdout` and `finish_decoder` make of the chunks of a process's output. -/
def capture (chunks : List (List UInt8)) : EngineEventCapture :=
  (chunks.foldl (push decode) new).finish decode

end EngineEventDecoder

end CatalogBench.Engine
