import Mathlib.Data.List.Sort
import CatalogBench.Library.Scripts
import CatalogBench.PyIceberg.Model

/-!
# The stock client

The calls that the PyIceberg probe makes of the catalog client, each of which may raise, and the
rows that it writes and reads back.
-/

set_option linter.all false

namespace CatalogBench.PyIceberg
open Interaction

-- ════════════════════════════════
-- Exceptions
-- ════════════════════════════════

/-- What the probe sees of an exception: the name of its class, and of which classes it is an
instance. -/
structure PyError where
  exceptionClass : String
  notImplemented : Bool
  commitFailed : Bool
  deriving DecidableEq

namespace PyError

def workflowAssertion : PyError :=
  ⟨"catalog_bench_pyiceberg.workflow.WorkflowAssertion", false, false⟩

def contractError : PyError := ⟨"catalog_bench_pyiceberg.contracts.ContractError", false, false⟩

def valueError : PyError := ⟨"builtins.ValueError", false, false⟩

def indexError : PyError := ⟨"builtins.IndexError", false, false⟩

def assertionError : PyError := ⟨"builtins.AssertionError", false, false⟩

def keyError : PyError := ⟨"builtins.KeyError", false, false⟩

def typeError : PyError := ⟨"builtins.TypeError", false, false⟩

def overflowError : PyError := ⟨"builtins.OverflowError", false, false⟩

end PyError

def SafeFailure.fromException (error : PyError) (category explanation : String) : SafeFailure :=
  ⟨category, error.exceptionClass, explanation⟩

-- ════════════════════════════════
-- Rows
-- ════════════════════════════════

inductive PyValue
  | none
  | int (value : ℤ)
  | float (value : ℚ)
  | infinite (negative : Bool)
  | nan
  | str (value : String)
  deriving DecidableEq

namespace PyValue

/-- `==`, which compares numbers by value. -/
def same : PyValue → PyValue → Bool
  | none, none => true
  | int a, int b => a = b
  | int a, float b => (a : ℚ) = b
  | float a, int b => a = (b : ℚ)
  | float a, float b => a = b
  | infinite a, infinite b => a = b
  | str a, str b => a = b
  | _, _ => false

/-- `json.dumps` refuses the other values. -/
def finite : PyValue → Bool
  | infinite _ | nan => false
  | none | int _ | float _ | str _ => true

end PyValue

abbrev Row := StringMap PyValue

/-- `==` of two dictionaries. -/
def sameRow (a b : Row) : Bool :=
  a.toList.length = b.toList.length &&
    (a.toList.zip b.toList).all fun entries =>
      entries.1.1 = entries.2.1 && entries.1.2.same entries.2.2

def sameRows (a b : List Row) : Bool :=
  a.length = b.length && (a.zip b).all fun rows => sameRow rows.1 rows.2

/-- The library functions that the probe calls. -/
structure PyLibraries where
  /-- `int` of a text. -/
  parseInt : String → Option ℤ
  /-- `float` of an integer. -/
  toFloat : ℤ → Except PyError ℚ
  /-- `hashlib.sha256(json.dumps(rows, allow_nan=False, ..).encode()).hexdigest()`. -/
  rowDigest : List Row → Except PyError String
  /-- The columns of `pyarrow.Table.from_arrays`, with or without `note`. -/
  arrowTable : Bool → List Row → Except PyError Unit
  /-- `str.lower`. -/
  lower : String → String
  /-- `urllib.parse.urljoin`. -/
  urljoin : String → String → String

/-- `int(row["id"])`. -/
def rowId (libraries : PyLibraries) (row : Row) : Except PyError ℤ :=
  match row["id"]? with
  | none => .error .keyError
  | some .none => .error .typeError
  | some (.int value) => .ok value
  | some (.float value) => .ok (value.num.tdiv value.den)
  | some (.infinite _) => .error .overflowError
  | some .nan => .error .valueError
  | some (.str value) =>
    match libraries.parseInt value with
    | some id => .ok id
    | none => .error .valueError

def canonicalRows (libraries : PyLibraries) (rows : List Row) : Except PyError (List Row) := do
  let keyed ← rows.mapM fun row => do
    let id ← rowId libraries row
    return (id, row)
  return (keyed.insertionSort fun a b => a.1 ≤ b.1).map Prod.snd

def jsonInt (value : ℤ) : Json :=
  if 0 ≤ value then .number (.posInt value.toNat) else .number (.negInt value)

structure RowObservation where
  rowCount : ℕ
  minimumId : Option ℤ
  maximumId : Option ℤ
  rowSha256 : String
  deriving DecidableEq

def RowObservation.toFields (observation : RowObservation) : List (String × Json) :=
  [("row_count", jsonInt observation.rowCount),
    ("minimum_id", (observation.minimumId.map jsonInt).getD .null),
    ("maximum_id", (observation.maximumId.map jsonInt).getD .null),
    ("row_sha256", .string observation.rowSha256)]

def rowObservation (libraries : PyLibraries) (rows : List Row) : Except PyError RowObservation := do
  let canonical ← canonicalRows libraries rows
  let digest ← libraries.rowDigest canonical
  let ids ← canonical.mapM (rowId libraries)
  return ⟨canonical.length, ids.min?, ids.max?, digest⟩

def nextId (libraries : PyLibraries) (rows : List Row) : Except PyError ℤ := do
  let ids ← rows.mapM (rowId libraries)
  return ids.max?.getD (-1) + 1

/-- One generated row. -/
def generatedRow (libraries : PyLibraries) (hasNote : Bool) (id : ℤ) : Except PyError Row := do
  let amount ← libraries.toFloat id
  return .ofList ([("id", PyValue.int id), ("category", .str ("g" ++ toString (id % 4))),
    ("amount", .float (amount / 2))] ++
      if hasNote then [("note", PyValue.str ("n" ++ toString (id % 3)))] else []) _

/-- The ids `range(start, start + count)`. -/
def idRange (start : ℤ) (count : ℕ) : List ℤ := (List.range count).map fun i : ℕ => start + i

-- ════════════════════════════════
-- Calls
-- ════════════════════════════════

/-- A namespace or table, by its parts. -/
abbrev Identifier := List String

/-- What a loaded table shows. -/
structure TableView where
  tableUuid : String
  metadataLocation : String
  schemaNames : List String
  properties : StringMap String
  snapshots : ℕ
  config : StringMap String
  deriving DecidableEq

/-- A table object: the table it is for, and what it showed when it was loaded. -/
structure PyTable where
  identifier : Identifier
  view : TableView
  deriving DecidableEq

inductive ClientCall
  /-- `RestCatalog(name, **properties)`. -/
  | restCatalog (name : String) (properties : StringMap Json)
  | namespaceExists («namespace» : Identifier)
  | createNamespace («namespace» : Identifier) (properties : StringMap String)
  | listNamespaces
  | loadNamespaceProperties («namespace» : Identifier)
  | createTable (identifier : Identifier) (location : Option String) (properties : StringMap String)
  | listTables («namespace» : Identifier)
  | loadTable (identifier : Identifier)
  | tableExists (identifier : Identifier)
  | dropTable (identifier : Identifier) (purgeRequested : Bool)
  | dropNamespace («namespace» : Identifier)
  | renameTable (source destination : Identifier)
  | registerTable (identifier : Identifier) (metadataLocation : String)
  | append (table : PyTable) (rows : List Row)
  | scan (table : PyTable)
  /-- A transaction that sets and removes properties. -/
  | commitProperties (table : PyTable) (updates : StringMap String) (removals : List String)
  | addColumn (table : PyTable) (name : String)
  | delete (table : PyTable) (filter : String)
  | refresh (table : PyTable)
  | close
  deriving DecidableEq

namespace ClientCall

/-- What a call returns unless it raises. -/
def Value : ClientCall → Type
  | namespaceExists .. | tableExists .. => Bool
  | listNamespaces | listTables .. => List Identifier
  | loadNamespaceProperties .. => StringMap String
  | createTable .. | loadTable .. | renameTable .. | registerTable .. | refresh .. => TableView
  | scan .. => List Row
  | _ => Unit

def Reply (call : ClientCall) : Type := Except PyError call.Value

end ClientCall

/-- One call and what came back of it. -/
abbrev Recorded := Answered ClientCall ClientCall.Reply

structure FixtureIdentity where
  id : String
  «namespace» : Identifier
  tableCandidates : List String
  deriving DecidableEq

def FixtureIdentity.identifiers (fixture : FixtureIdentity) : List Identifier :=
  fixture.tableCandidates.map fun table => fixture.namespace ++ [table]

/-- The variables of the probe, and those of its steps that an exception handler reads. -/
structure State where
  catalogOpen : Bool
  ownershipSafe : Bool
  activeIdentifier : Option Identifier
  rows : List Row
  objectIoVerified : Bool
  staleConflictClass : Option String
  dropped : List String

def State.initial : State := ⟨false, false, none, [], false, none, []⟩

abbrev Py := Script ClientCall ClientCall.Reply State PyError

/-- Make a call. -/
def call (c : ClientCall) : Py c.Value := Script.request c id

def raise {α : Type} (error : PyError) : Py α := throw error

def lift {α : Type} (result : Except PyError α) : Py α := Script.ofExcept result

def namespaceExists («namespace» : Identifier) : Py Bool := call (.namespaceExists «namespace»)

def tableExists (identifier : Identifier) : Py Bool := call (.tableExists identifier)

def listNamespaces : Py (List Identifier) := call .listNamespaces

def listTables («namespace» : Identifier) : Py (List Identifier) := call (.listTables «namespace»)

def loadNamespaceProperties («namespace» : Identifier) : Py (StringMap String) :=
  call (.loadNamespaceProperties «namespace»)

def scan (table : PyTable) : Py (List Row) := call (.scan table)

def loadTable (identifier : Identifier) : Py PyTable := do
  let view ← call (.loadTable identifier)
  return ⟨identifier, view⟩

def createTable (identifier : Identifier) (location : Option String)
    (properties : StringMap String) : Py PyTable := do
  let view ← call (.createTable identifier location properties)
  return ⟨identifier, view⟩

def renameTable (source destination : Identifier) : Py PyTable := do
  let view ← call (.renameTable source destination)
  return ⟨destination, view⟩

def registerTable (identifier : Identifier) (metadataLocation : String) : Py PyTable := do
  let view ← call (.registerTable identifier metadataLocation)
  return ⟨identifier, view⟩

def refresh (table : PyTable) : Py PyTable := do
  let view ← call (.refresh table)
  return ⟨table.identifier, view⟩

end CatalogBench.PyIceberg
