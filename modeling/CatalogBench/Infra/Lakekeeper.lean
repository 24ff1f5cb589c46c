import CatalogBench.Infra.HttpJson
import CatalogBench.Library.Clients
import CatalogBench.Library.NamedStore

/-!
# The Lakekeeper reconciler

`EnsureWarehouse` creates a missing warehouse through the management API and otherwise proves
that the warehouse of that name is the requested one.
-/

set_option linter.all false

namespace CatalogBench.Infra.Lakekeeper

open Interaction NamedStore

/-- `s3StorageProfile`. -/
structure S3StorageProfile where
  type : String
  bucket : String
  keyPrefix : String
  endpoint : String
  stsEndpoint : String
  region : String
  pathStyleAccess : Bool
  flavor : String
  stsEnabled : Bool
  deriving DecidableEq

/-- `s3Credential`. -/
structure S3Credential where
  type : String
  credentialType : String
  deriving DecidableEq

structure WarehouseRequest where
  name : String
  projectId : String
  storageProfile : S3StorageProfile
  storageCredential : S3Credential
  deriving DecidableEq

structure WarehouseState where
  name : String
  projectId : String
  status : String
  storageProfile : S3StorageProfile
  storageCredentialType : S3Credential
  deriving DecidableEq

/-- `validateWarehouseRequest`: the first required field that is blank. -/
def validateWarehouseRequest (request : WarehouseRequest) : Except InfraError Unit :=
  let required :=
    [("warehouse-name", request.name),
      ("project-id", request.projectId),
      ("storage-profile.type", request.storageProfile.type),
      ("storage-profile.bucket", request.storageProfile.bucket),
      ("storage-profile.endpoint", request.storageProfile.endpoint),
      ("storage-profile.region", request.storageProfile.region),
      ("storage-credential.type", request.storageCredential.type),
      ("storage-credential.credential-type", request.storageCredential.credentialType)]
  match required.find? fun field => trimSpace field.2 = "" with
  | some field =>
    .error (.ofMessage ("warehouse payload field " ++ field.1 ++ " must not be empty"))
  | none => .ok ()

def normalizeRootUrl (value : String) : String := trimSuffixSlash value

/-- The differences that `compareWarehouse` collects, before they are sorted. -/
def warehouseDifferences (go : GoText) (desired : WarehouseRequest) (actual : WarehouseState) :
    List String :=
  let compare (field expected observed : String) : List String :=
    if expected ≠ observed then
      [field ++ " expected " ++ go.quote expected ++ ", got " ++ go.quote observed]
    else []
  let left := desired.storageProfile
  let right := actual.storageProfile
  compare "project-id" desired.projectId actual.projectId ++
    compare "status" "active" actual.status ++
    compare "storage-profile.type" left.type right.type ++
    compare "storage-profile.bucket" left.bucket right.bucket ++
    compare "storage-profile.key-prefix" left.keyPrefix right.keyPrefix ++
    compare "storage-profile.endpoint" (normalizeRootUrl left.endpoint)
      (normalizeRootUrl right.endpoint) ++
    compare "storage-profile.sts-endpoint" (normalizeRootUrl left.stsEndpoint)
      (normalizeRootUrl right.stsEndpoint) ++
    compare "storage-profile.region" left.region right.region ++
    compare "storage-profile.flavor" left.flavor right.flavor ++
    compare "storage-credential.type" desired.storageCredential.type
      actual.storageCredentialType.type ++
    compare "storage-credential.credential-type" desired.storageCredential.credentialType
      actual.storageCredentialType.credentialType ++
    (if left.pathStyleAccess ≠ right.pathStyleAccess then
      ["storage-profile.path-style-access differs"] else []) ++
    (if left.stsEnabled ≠ right.stsEnabled then ["storage-profile.sts-enabled differs"] else [])

/-- `compareWarehouse`. -/
def compareWarehouse (go : GoText) (desired : WarehouseRequest) (actual : WarehouseState) :
    Except InfraError Unit :=
  let differences := warehouseDifferences go desired actual
  if differences ≠ [] then
    .error (.ofMessage ("warehouse " ++ go.quote desired.name ++ " configuration drift: " ++
      "; ".intercalate (sortStrings differences)))
  else .ok ()

-- ════════════════════════════════
-- The requests
-- ════════════════════════════════

inductive Call
  | listWarehouses
  | createWarehouse (request : WarehouseRequest)

/-- The decoded answer, or the error of the transport. -/
abbrev Call.Reply : Call → Type
  | .listWarehouses => Except InfraError (List WarehouseState)
  | .createWarehouse .. => Except InfraError Unit

/-- A request that creates nothing. -/
def Call.Reads : Call → Prop
  | .listWarehouses => True
  | .createWarehouse .. => False

abbrev Request := Prog Call Call.Reply

section Client

variable (go : GoText)

/-- `findWarehouse`: the warehouse if it is found. -/
def findWarehouse (name : String) : Request (Except InfraError (Option WarehouseState)) := do
  let reply : Except InfraError (List WarehouseState) ← Prog.ask Call.listWarehouses
  match reply with
  | .error error => pure (.error (error.wrap "list Lakekeeper warehouses"))
  | .ok warehouses =>
    match warehouses.filter fun warehouse => warehouse.name = name with
    | [] => pure (.ok none)
    | [warehouse] => pure (.ok (some warehouse))
    | _ => pure (.error (.ofMessage ("multiple warehouses are named " ++ go.quote name)))

/-- `EnsureWarehouse` after the creation of the warehouse was requested. -/
def verifyWarehouse (desired : WarehouseRequest) : Request (Except InfraError Unit) := do
  match ← findWarehouse go desired.name with
  | .error error => pure (.error (error.wrap ("verify warehouse " ++ go.quote desired.name)))
  | .ok none =>
    pure (.error (.ofMessage
      ("warehouse " ++ go.quote desired.name ++ " is absent after creation")))
  | .ok (some state) => pure (compareWarehouse go desired state)

/-- `EnsureWarehouse` of a decoded payload. -/
def ensureWarehouse (desired : WarehouseRequest) : Request (Except InfraError Unit) := do
  match validateWarehouseRequest desired with
  | .error error => pure (.error error)
  | .ok () =>
    match ← findWarehouse go desired.name with
    | .error error => pure (.error error)
    | .ok (some state) => pure (compareWarehouse go desired state)
    | .ok none => do
      let reply : Except InfraError Unit ← Prog.ask (Call.createWarehouse desired)
      match reply with
      | .ok () => verifyWarehouse go desired
      | .error error =>
        if error.hasStatus 409 then verifyWarehouse go desired
        else pure (.error (error.wrap ("create warehouse " ++ go.quote desired.name)))

end Client

-- ════════════════════════════════
-- The management server
-- ════════════════════════════════

abbrev Server := List WarehouseState

/-- The warehouse as it was requested, active. -/
def WarehouseRequest.stored (request : WarehouseRequest) : WarehouseState :=
  ⟨request.name, request.projectId, "active", request.storageProfile, request.storageCredential⟩

/-- The store behind the management API. -/
def handle (server : Server) : (call : Call) → call.Reply × Server
  | .listWarehouses => (.ok server, server)
  | .createWarehouse request =>
    match create WarehouseState.name server request.stored with
    | none => (.error (.ofStatus ⟨"POST", "/management/v1/warehouse", 409⟩), server)
    | some server' => (.ok (), server')

end CatalogBench.Infra.Lakekeeper
