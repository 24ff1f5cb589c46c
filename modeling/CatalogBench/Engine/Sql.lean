import CatalogBench.Engine.Policy

/-!
# Generated SQL

The row values, inserts and reads of a scenario, and the validation of the URLs in a plan.
Both SQL engines render through these functions.
-/

set_option linter.all false

namespace CatalogBench.Engine
open MachineInt

structure SqlGenerationError where
  message : String
  deriving DecidableEq

/-- `str::starts_with`. -/
def startsWith (value start : String) : Bool := start.toList.isPrefixOf value.toList

def validIdentifier (value : String) : Bool :=
  !value.isEmpty && value.toList.all fun c => c.isLower || c.isDigit || c = '_'

/-- An identifier as both engines write it. -/
def quoted (value : String) : String := "\"" ++ value ++ "\""

/-- Quotes inside a literal are doubled. -/
def literal (value : String) : String :=
  let quote := Char.ofNat 39
  "'" ++ String.ofList (value.toList.flatMap fun c => if c = quote then [quote, quote] else [c]) ++
    "'"

def join (parts : List String) : String := String.intercalate ", " parts

def renderRow (scenario : EngineScenarioParameters) (evolved : Bool) (id : ℕ) :
    Except SqlGenerationError String := do
  let .affine multiplier offset := scenario.rowGenerator.amountCents
  let .some amount := (checkedMul 64 multiplier id).bind (checkedAdd 64 · offset)
    | throw ⟨"generated amount exceeds unsigned 64-bit range"⟩
  let .moduloLabel modulus label := scenario.rowGenerator.category
  if modulus = 0 then throw ⟨"category modulus must be positive"⟩
  let values := [toString id, literal (label ++ toString (id % modulus)), toString amount]
  let .idLabel note := scenario.rowGenerator.note
  let values := if evolved then values ++ [literal (note ++ toString id)] else values
  return "(" ++ join values ++ ")"

def renderRows (scenario : EngineScenarioParameters) (evolved : Bool) :
    Except SqlGenerationError (List String) := do
  let batch := if evolved then scenario.batches.evolved else scenario.batches.initial
  let .some _ := checkedAdd 64 batch.idStart batch.rows
    | throw ⟨"generated row range exceeds unsigned 64-bit range"⟩
  ((List.range batch.rows).map (batch.idStart + ·)).mapM (renderRow scenario evolved)

def renderInsert (table : String) (columns values : List String) : String :=
  "INSERT INTO " ++ table ++ " (" ++ join columns ++ ") VALUES " ++ join values

theorem renderInsert_eq (table : String) (columns values : List String) :
    renderInsert table columns values =
      "INSERT INTO " ++ table ++ " (" ++ join columns ++ ") VALUES " ++ join values := rfl

def renderRead {ε : Type} (table : String) (columns orderBy : List String)
    (identifier : String → Except ε String) : Except ε String := do
  let columns ← columns.mapM identifier
  let orderBy ← orderBy.mapM identifier
  return "SELECT " ++ join columns ++ " FROM " ++ table ++ " ORDER BY " ++ join orderBy

def renderType : IcebergPrimitiveType → String
  | .long => "BIGINT"
  | .string => "VARCHAR"

def renderField {ε : Type} (identifier : String → Except ε String) (field : IcebergField) :
    Except ε String := do
  let name ← identifier field.name
  return name ++ " " ++ renderType field.fieldType ++ (if field.required then " NOT NULL" else "")

def credentialFreeHttpUrl (crates : Crates) (value : String) : Bool :=
  match crates.parseUrl value with
  | .error _ => false
  | .ok url =>
    (url.scheme = "http" || url.scheme = "https") && url.hostStr.isSome && url.username.isEmpty &&
      url.password.isNone && url.query.isNone && url.fragment.isNone

/-- The requested table location lies in the bucket of the plan. -/
def validTableLocation (crates : Crates) (bucket location : String) : Bool :=
  match crates.parseUrl location with
  | .error _ => false
  | .ok url =>
    url.scheme = "s3" && url.hostStr = some bucket && url.username.isEmpty &&
      url.password.isNone && url.query.isNone && url.fragment.isNone

/-- The policy every SQL renderer demands of a scenario and its fixture. -/
def scenarioAuthorizesRenderer (scenario : EngineScenarioParameters) (fixture : Fixture) : Bool :=
  scenario.enginePolicy.catalogSpecificBranches = .forbidden &&
    scenario.enginePolicy.catalogSpecificShims = .forbidden &&
    scenario.enginePolicy.connector = .stockProfileComponent &&
    scenario.enginePolicy.syntaxRendering = .engineSpecificButCatalogNeutral &&
    scenario.enginePolicy.unsupported = .classifyBeforeMutationWithoutASubstituteRequest &&
    scenario.transcriptFormat = engineTranscriptFormat &&
    startsWith fixture.namespace (scenario.fixturePrefix ++ "_")

end CatalogBench.Engine
