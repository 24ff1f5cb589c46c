import CatalogBench.Engine.Policy

/-!
# The program and the events of the Flink runner

The stock Flink engine runs behind a Java process. Its records are those of `Program.java` and
`ChildEvent.java`; an `int` or a `long` is an integer here, a nullable reference an `Option`.
The decoder hands over a program whose other references are present.
-/

set_option linter.all false

namespace CatalogBench.Flink
open CatalogBench.Engine

structure CatalogSetup where
  name : String
  properties : StringMap String
  authentication : EngineCatalogAuthentication
  deriving DecidableEq

structure FixtureTarget where
  «namespace» : String
  table : String
  requestedLocation : Option String
  bucket : String
  deriving DecidableEq

structure ObservationPolicy where
  formatVersion : ℤ
  initialSchema : List IcebergField
  evolvedField : EvolutionField
  properties : StringMap String
  deriving DecidableEq

structure ReadOracle where
  bytes : ℤ
  columns : List String
  rows : ℤ
  sha256 : String
  deriving DecidableEq

inductive Operation
  | createNamespace (sql : String)
  | createTable (sql : String)
  | initialAppend (sql : String)
  | initialRead (sql : String) (expected : ReadOracle)
  | addColumn (sql : String)
  | evolvedAppend (sql : String)
  | evolvedRead (sql : String) (expected : ReadOracle)
  | snapshotRead (sql : String)
  deriving DecidableEq

/-- The classes of `Operation`. -/
inductive OperationClass
  | createNamespace | createTable | initialAppend | initialRead | addColumn | evolvedAppend
  | evolvedRead | snapshotRead
  deriving DecidableEq

namespace Operation

def sql : Operation → String
  | .createNamespace sql | .createTable sql | .initialAppend sql | .initialRead sql _
  | .addColumn sql | .evolvedAppend sql | .evolvedRead sql _ | .snapshotRead sql => sql

def getClass : Operation → OperationClass
  | .createNamespace _ => .createNamespace
  | .createTable _ => .createTable
  | .initialAppend _ => .initialAppend
  | .initialRead _ _ => .initialRead
  | .addColumn _ => .addColumn
  | .evolvedAppend _ => .evolvedAppend
  | .evolvedRead _ _ => .evolvedRead
  | .snapshotRead _ => .snapshotRead

/-- The oracle of a read; any other operation fails a cast. -/
def oracle : Operation → Option ReadOracle
  | .initialRead _ expected | .evolvedRead _ expected => some expected
  | _ => none

end Operation

/-- `OPERATION_ORDER` of the codec. -/
def operationOrder : List OperationClass :=
  [.createNamespace, .createTable, .initialAppend, .initialRead, .addColumn, .evolvedAppend,
    .evolvedRead, .snapshotRead]

structure Program where
  parallelism : ℤ
  catalog : CatalogSetup
  fixture : FixtureTarget
  observation : ObservationPolicy
  operations : List Operation
  deriving DecidableEq

-- ════════════════════════════════
-- Events
-- ════════════════════════════════

structure TableObservation where
  tableUuid : String
  metadataLocation : String
  location : String
  formatVersion : ℤ
  lastColumnId : ℤ
  schema : List EngineFieldObservation
  snapshots : ℤ
  properties : StringMap EnginePropertyObservation
  deriving DecidableEq

structure ReadObservation where
  rows : ℤ
  bytes : ℤ
  sha256 : String
  deriving DecidableEq

def ReadObservation.fromOracle (oracle : ReadOracle) : ReadObservation :=
  ⟨oracle.rows, oracle.bytes, oracle.sha256⟩

inductive ChildEvent
  | runtimeReady (runtime : EngineRuntimeObservation)
  | catalogReady
  | fixturePreflight (absent : Bool)
  | namespaceReady (listedExactly : Bool)
  | tableReady (table : TableObservation)
  | initialAppended (snapshots : ℤ)
  | initialRead (read : ReadObservation)
  | schemaEvolved (table : TableObservation)
  | evolvedAppended (snapshots : ℤ)
  | evolvedRead (read : ReadObservation)
  | finalTable (table : TableObservation)
  | completed
  | failed (stage : EngineStage) (category : EngineFailureCategory)
  deriving DecidableEq

end CatalogBench.Flink
