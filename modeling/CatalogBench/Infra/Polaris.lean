import CatalogBench.Infra.HttpJson
import CatalogBench.Library.Clients
import CatalogBench.Library.NamedStore

/-!
# The Polaris reconciler

`EnsureCatalog` brings the fixture catalog and the grant of its admin role about through the
management API, and refuses a catalog that is configured in another way.
-/

set_option linter.all false

namespace CatalogBench.Infra.Polaris

open Interaction NamedStore

/-- The fields of `PolarisSettings` that `EnsureCatalog` reads. -/
structure Settings where
  realm : String
  clientId : String
  clientSecret : String
  scope : String
  catalog : String
  defaultBaseLocation : String
  s3Endpoint : String
  s3StsEndpoint : String
  s3RoleArn : String
  s3Region : String

structure StorageConfig where
  storageType : String
  allowedLocations : List String
  storageName : Option String
  roleArn : Option String
  externalId : Option String
  userArn : Option String
  region : String
  endpoint : String
  endpointInternal : String
  stsEndpoint : Option String
  stsUnavailable : Bool
  pathStyleAccess : Bool
  kmsUnavailable : Bool

/-- `polarisCatalog`. -/
structure Catalog where
  type : String
  name : String
  properties : StringMap String
  storageConfigInfo : StorageConfig

/-- `polarisGrant`. -/
structure Grant where
  type : String
  privilege : String
  deriving DecidableEq

def catalogAdminRole : String := "catalog_admin"

/-- `desiredPolarisCatalogAdminGrant`. -/
def desiredCatalogAdminGrant : Grant := ⟨"catalog", "CATALOG_MANAGE_CONTENT"⟩

def Settings.desiredCatalog (settings : Settings) : Catalog where
  type := "INTERNAL"
  name := settings.catalog
  properties :=
    Std.ExtTreeMap.ofList [("default-base-location", settings.defaultBaseLocation)] compare
  storageConfigInfo :=
    { storageType := "S3"
      allowedLocations := [settings.defaultBaseLocation]
      storageName := none
      roleArn := some settings.s3RoleArn
      externalId := none
      userArn := none
      region := settings.s3Region
      endpoint := settings.s3Endpoint
      endpointInternal := settings.s3Endpoint
      stsEndpoint := some settings.s3StsEndpoint
      stsUnavailable := false
      pathStyleAccess := true
      kmsUnavailable := true }

-- ════════════════════════════════
-- The comparison
-- ════════════════════════════════

def equivalentEndpoint (left right : String) : Bool :=
  trimRightSlashes left = trimRightSlashes right

def equalOptionalString : Option String → Option String → Bool
  | some left, some right => left = right
  | left, right => left.isNone && right.isNone

def equivalentOptionalEndpoint : Option String → Option String → Bool
  | some left, some right => equivalentEndpoint left right
  | left, right => left.isNone && right.isNone

def effectiveInternalEndpoint (config : StorageConfig) : String :=
  if config.endpointInternal ≠ "" then config.endpointInternal else config.endpoint

/-- The condition `matches` of `comparePolarisCatalog`. -/
@[irreducible] def catalogMatches (desired actual : Catalog) : Bool :=
  let left := desired.storageConfigInfo
  let right := actual.storageConfigInfo
  desired.type = actual.type &&
    desired.name = actual.name &&
    desired.properties.toList = actual.properties.toList &&
    left.storageType = right.storageType &&
    sortStrings left.allowedLocations = sortStrings right.allowedLocations &&
    equalOptionalString left.storageName right.storageName &&
    equalOptionalString left.roleArn right.roleArn &&
    equalOptionalString left.externalId right.externalId &&
    equalOptionalString left.userArn right.userArn &&
    left.region = right.region &&
    equivalentEndpoint left.endpoint right.endpoint &&
    equivalentEndpoint (effectiveInternalEndpoint left) (effectiveInternalEndpoint right) &&
    equivalentOptionalEndpoint left.stsEndpoint right.stsEndpoint &&
    left.stsUnavailable = right.stsUnavailable &&
    left.pathStyleAccess = right.pathStyleAccess &&
    left.kmsUnavailable = right.kmsUnavailable

/-- `comparePolarisCatalog`. -/
def compareCatalog (go : GoText) (desired actual : Catalog) : Except InfraError Unit :=
  if catalogMatches desired actual then .ok ()
  else .error (.ofMessage
    ("Polaris catalog " ++ go.quote desired.name ++ " exists with configuration drift"))

theorem compareCatalog_of_matches {go : GoText} {desired actual : Catalog}
    (h : catalogMatches desired actual = true) : compareCatalog go desired actual = .ok () :=
  if_pos h

theorem compareCatalog_of_drift (go : GoText) {desired actual : Catalog}
    (h : catalogMatches desired actual = false) :
    ∃ error, compareCatalog go desired actual = .error error :=
  ⟨_, if_neg (Bool.eq_false_iff.mp h)⟩

-- ════════════════════════════════
-- The requests
-- ════════════════════════════════

inductive Call
  | token (realm clientId clientSecret scope : String)
  | getCatalog (token realm name : String)
  | createCatalog (token realm : String) (catalog : Catalog)
  | listGrants (token realm catalog role : String)
  | putGrant (token realm catalog role : String) (grant : Grant)

/-- The decoded answer, or the error of the transport. -/
abbrev Call.Reply : Call → Type
  | .token .. => Except InfraError String
  | .getCatalog .. => Except InfraError Catalog
  | .createCatalog .. => Except InfraError Unit
  | .listGrants .. => Except InfraError (List Grant)
  | .putGrant .. => Except InfraError Unit

/-- A request that neither creates nor grants. -/
def Call.Reads : Call → Prop
  | .createCatalog .. => False
  | .putGrant .. => False
  | _ => True

abbrev Request := Prog Call Call.Reply

section Client

/-- `acquireToken`. -/
def acquireToken (settings : Settings) : Request (Except InfraError String) := do
  let reply : Except InfraError String ←
    Prog.ask (Call.token settings.realm settings.clientId settings.clientSecret settings.scope)
  match reply with
  | .error error => pure (.error (error.wrap "acquire Polaris token"))
  | .ok accessToken =>
    let token := trimSpace accessToken
    if token = "" then pure (.error (.ofMessage "Polaris token response omitted access_token"))
    else pure (.ok token)

variable (go : GoText) (settings : Settings)

/-- `getCatalog`: the catalog if it is found. -/
def getCatalog (token : String) : Request (Except InfraError (Option Catalog)) := do
  let reply : Except InfraError Catalog ←
    Prog.ask (Call.getCatalog token settings.realm settings.catalog)
  match reply with
  | .ok catalog => pure (.ok (some catalog))
  | .error error =>
    if error.hasStatus 404 then pure (.ok none)
    else pure (.error (error.wrap ("read Polaris catalog " ++ go.quote settings.catalog)))

/-- `listCatalogAdminGrants`. -/
def listCatalogAdminGrants (token : String) : Request (Except InfraError (List Grant)) := do
  let reply : Except InfraError (List Grant) ←
    Prog.ask (Call.listGrants token settings.realm settings.catalog catalogAdminRole)
  match reply with
  | .ok grants => pure (.ok grants)
  | .error error =>
    pure (.error (error.wrap
      ("read grants for Polaris catalog role " ++ go.quote catalogAdminRole)))

/-- The end of `ensureCatalogAdminGrant`, after the grant was requested. -/
def verifyCatalogAdminGrant (token : String) : Request (Except InfraError Unit) := do
  match ← listCatalogAdminGrants go settings token with
  | .error error => pure (.error (error.wrap "verify Polaris catalog-role grant"))
  | .ok grants =>
    if desiredCatalogAdminGrant ∈ grants then pure (.ok ())
    else pure (.error (.ofMessage ("Polaris catalog role " ++ go.quote catalogAdminRole ++
      " lacks privilege " ++ desiredCatalogAdminGrant.privilege ++ " after grant")))

def ensureCatalogAdminGrant (token : String) : Request (Except InfraError Unit) := do
  match ← listCatalogAdminGrants go settings token with
  | .error error => pure (.error error)
  | .ok grants =>
    if desiredCatalogAdminGrant ∈ grants then pure (.ok ())
    else do
      let reply : Except InfraError Unit ← Prog.ask (Call.putGrant token settings.realm
        settings.catalog catalogAdminRole desiredCatalogAdminGrant)
      match reply with
      | .ok () => verifyCatalogAdminGrant go settings token
      | .error error =>
        if error.hasStatus 409 then verifyCatalogAdminGrant go settings token
        else pure (.error (error.wrap ("grant Polaris privilege " ++
          desiredCatalogAdminGrant.privilege ++ " to catalog role " ++
          go.quote catalogAdminRole)))

/-- The end of `EnsureCatalog`, once a catalog was read. -/
def reconcileCatalog (token : String) (actual : Catalog) : Request (Except InfraError Unit) :=
  match compareCatalog go settings.desiredCatalog actual with
  | .error error => pure (.error error)
  | .ok () => ensureCatalogAdminGrant go settings token

/-- `EnsureCatalog` after the creation of the catalog was requested. -/
def verifyCatalog (token : String) : Request (Except InfraError Unit) := do
  match ← getCatalog go settings token with
  | .error error =>
    pure (.error (error.wrap ("verify Polaris catalog " ++ go.quote settings.catalog)))
  | .ok none =>
    pure (.error (.ofMessage
      ("Polaris catalog " ++ go.quote settings.catalog ++ " is absent after creation")))
  | .ok (some actual) => reconcileCatalog go settings token actual

/-- `EnsureCatalog`. -/
def ensureCatalog : Request (Except InfraError Unit) := do
  match ← acquireToken settings with
  | .error error => pure (.error error)
  | .ok token =>
    match ← getCatalog go settings token with
    | .error error => pure (.error error)
    | .ok (some actual) => reconcileCatalog go settings token actual
    | .ok none => do
      let reply : Except InfraError Unit ←
        Prog.ask (Call.createCatalog token settings.realm settings.desiredCatalog)
      match reply with
      | .ok () => verifyCatalog go settings token
      | .error error =>
        if error.hasStatus 409 then verifyCatalog go settings token
        else pure (.error (error.wrap
          ("create Polaris catalog " ++ go.quote settings.catalog)))

end Client

-- ════════════════════════════════
-- The management server
-- ════════════════════════════════

/-- A catalog with the grants of each of its roles. -/
structure StoredCatalog where
  catalog : Catalog
  grants : String → List Grant

def StoredCatalog.name (stored : StoredCatalog) : String := stored.catalog.name

/-- Add a grant to a role. -/
def StoredCatalog.grant (role : String) (grant : Grant) (stored : StoredCatalog) : StoredCatalog :=
  { stored with grants := Function.update stored.grants role (stored.grants role ++ [grant]) }

/-- What a deployment fixes: a usable token and the grants of a new catalog. -/
structure Deployment where
  accessToken : String
  accessToken_ne : trimSpace accessToken ≠ ""
  newGrants : String → List Grant

abbrev Server := List StoredCatalog

/-- The path of a request, as in the errors of the transport. -/
def catalogPath (go : GoText) (name : String) : String :=
  "/api/management/v1/catalogs/" ++ go.pathEscape name

def grantsPath (go : GoText) (catalog role : String) : String :=
  catalogPath go catalog ++ "/catalog-roles/" ++ go.pathEscape role ++ "/grants"

/-- The store behind the management API. -/
def handle (go : GoText) (deployment : Deployment) (server : Server) :
    (call : Call) → call.Reply × Server
  | .token .. => (.ok deployment.accessToken, server)
  | .getCatalog _ _ name =>
    match named StoredCatalog.name server name with
    | [] => (.error (.ofStatus ⟨"GET", catalogPath go name, 404⟩), server)
    | stored :: _ => (.ok stored.catalog, server)
  | .createCatalog _ _ catalog =>
    match create StoredCatalog.name server ⟨catalog, deployment.newGrants⟩ with
    | none => (.error (.ofStatus ⟨"POST", "/api/management/v1/catalogs", 409⟩), server)
    | some server' => (.ok (), server')
  | .listGrants _ _ catalog role =>
    match named StoredCatalog.name server catalog with
    | [] => (.error (.ofStatus ⟨"GET", grantsPath go catalog role, 404⟩), server)
    | stored :: _ => (.ok (stored.grants role), server)
  | .putGrant _ _ catalog role grant =>
    match named StoredCatalog.name server catalog with
    | [] => (.error (.ofStatus ⟨"PUT", grantsPath go catalog role, 404⟩), server)
    | _ :: _ => (.ok (), update StoredCatalog.name server catalog (StoredCatalog.grant role grant))

end CatalogBench.Infra.Polaris
