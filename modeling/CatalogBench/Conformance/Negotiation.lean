import CatalogBench.Conformance.Routes
import CatalogBench.Library.TwoRuns

/-!
# Negotiation

Before its workflow a probe authenticates, reads the config of the catalog and resolves the route
prefix and the namespace separator from it. A probe is a program over the requests it sends and
the idempotency key it generates.
-/

set_option linter.all false

namespace CatalogBench.Conformance
open Interaction

-- ════════════════════════════════
-- The adapter
-- ════════════════════════════════

/-- The config values a profile may name as the source of the route prefix. -/
inductive PrefixPointer
  | defaults | overrides
  deriving DecidableEq

namespace PrefixPointer

def asStr : PrefixPointer → String
  | defaults => "/defaults/prefix"
  | overrides => "/overrides/prefix"

def tokens : PrefixPointer → List String
  | defaults => ["defaults", "prefix"]
  | overrides => ["overrides", "prefix"]

end PrefixPointer

inductive CatalogRoutePrefix
  | unprefixed
  | static (value : String)
  | negotiated (configJsonPointer : PrefixPointer)
  deriving DecidableEq

inductive CatalogAuthentication
  | anonymous
  | oauth2ClientCredentials (tokenPath scope clientIdEnv clientSecretEnv : String)
  deriving DecidableEq

structure UnsupportedAdapterCapability where
  capability : String
  attributedTo : String
  explanation : String
  deriving DecidableEq

inductive AdapterCapabilityCoverage
  | exerciseAll
  | explicit (unsupported : List UnsupportedAdapterCapability)
  deriving DecidableEq

def AdapterCapabilityCoverage.limitation (capabilities : AdapterCapabilityCoverage) (capability : String) :
    Option UnsupportedAdapterCapability :=
  match capabilities with
  | exerciseAll => none
  | explicit unsupported => unsupported.find? fun limitation => limitation.capability = capability

structure CatalogAdapter where
  baseUrl : String
  configPath : String
  configQuery : StringMap String
  routePrefix : CatalogRoutePrefix
  createTableLocation : Option String
  authentication : CatalogAuthentication
  capabilities : AdapterCapabilityCoverage

-- ════════════════════════════════
-- Calls
-- ════════════════════════════════

/-- What a probe asks of its surroundings. -/
inductive ProbeCall
  /-- The form sent to the token endpoint. -/
  | token (url form : String)
  | config (url : String) (bearerToken : Option String)
  | operation (bearerToken : Option String) (recorded : RecorderCall)
  /-- `IdempotencyKey::generate`. -/
  | generateKey
  deriving DecidableEq

namespace ProbeCall

def Reply : ProbeCall → Type
  | token .. => HttpReply
  | config .. => HttpReply
  | operation _ recorded => recorded.Reply
  | generateKey => String

end ProbeCall

abbrev Probe (α : Type) := Prog ProbeCall ProbeCall.Reply α

/-- Send the token form. -/
def askToken (url form : String) : Probe HttpReply := Prog.ask (ProbeCall.token url form)

def askConfig (url : String) (bearerToken : Option String) : Probe HttpReply :=
  Prog.ask (ProbeCall.config url bearerToken)

def askKey : Probe String := Prog.ask ProbeCall.generateKey

-- ════════════════════════════════
-- Authentication
-- ════════════════════════════════

inductive AuthenticationOutcome
  | ready | failed | notAttempted
  deriving DecidableEq

structure AuthenticationTranscript where
  mode : String
  outcome : AuthenticationOutcome
  tokenUrl : Option String
  scope : Option String
  httpStatus : Option ℕ
  deriving DecidableEq

structure AuthenticationAttempt where
  transcript : AuthenticationTranscript
  bearerToken : Option String
  sensitiveValues : List String
  failure : Option ProbeFailure
  deriving DecidableEq

def endpointUrl (web : WebCrates) (baseUrl path : String) (query : StringMap String) :
    Except String String :=
  match web.normalizeUrl (baseUrl ++ path) with
  | .error _ => .error ("invalid adapter endpoint `" ++ baseUrl ++ path ++ "`")
  | .ok url => .ok (if query.isEmpty then url else web.appendPairs url query.toList)

def authenticationFailure (transcript : AuthenticationTranscript) (explanation : String) :
    AuthenticationAttempt :=
  ⟨transcript, none, [], some ⟨.authentication, explanation⟩⟩

/-- The transcript of an OAuth2 negotiation. -/
def oauth2Transcript (scope : String) (outcome : AuthenticationOutcome) (httpStatus : Option ℕ)
    (tokenUrl : Option String) : AuthenticationTranscript :=
  ⟨"oauth2-client-credentials", outcome, tokenUrl, some scope, httpStatus⟩

/-- The answer of the token endpoint. -/
def readToken (web : WebCrates) (scope tokenUrl clientId clientSecret : String)
    (reply : HttpReply) : AuthenticationAttempt :=
  let failed (status : Option ℕ) (explanation : String) : AuthenticationAttempt :=
    authenticationFailure (oauth2Transcript scope .failed status (some tokenUrl)) explanation
  match reply with
  | .failed error =>
    failed none ("OAuth2 request failed: " ++ redactText error [clientId, clientSecret])
  | .unreadable status _ error => failed (some status) ("OAuth2 response read failed: " ++ error)
  | .answered status _ (.tooLarge _) =>
    failed (some status) "OAuth2 response exceeds the evidence body limit"
  | .answered status _ (.complete bytes) =>
    if !(200 ≤ status && status < 300) then
      failed (some status) ("OAuth2 endpoint returned HTTP " ++ toString status)
    else
      match web.parseJson bytes with
      | none => failed (some status) "OAuth2 endpoint did not return JSON"
      | some body =>
        match (body.get "access_token").bind Json.asStr with
        | none => failed (some status) "OAuth2 response omitted string `access_token`"
        | some token =>
          if token.isEmpty then
            failed (some status) "OAuth2 response returned an empty access token"
          else
            ⟨oauth2Transcript scope .ready (some status) (some tokenUrl), some token,
              [clientId, clientSecret, token], none⟩

/-- A nonempty environment variable. -/
def environment (getenv : String → Option String) (name : String) : Option String :=
  (getenv name).filter fun value => !value.isEmpty

def acquireAuthentication (web : WebCrates) (adapter : CatalogAdapter)
    (getenv : String → Option String) : Probe AuthenticationAttempt :=
  match adapter.authentication with
  | .anonymous => return ⟨⟨"anonymous", .ready, none, none, none⟩, none, [], none⟩
  | .oauth2ClientCredentials tokenPath scope clientIdEnv clientSecretEnv =>
    let unset (tokenUrl name : String) : AuthenticationAttempt :=
      authenticationFailure (oauth2Transcript scope .failed none (some tokenUrl))
        ("environment variable `" ++ name ++ "` is not set or is empty")
    match endpointUrl web adapter.baseUrl tokenPath ∅ with
    | .error error =>
      return authenticationFailure (oauth2Transcript scope .failed none none)
        ("invalid token endpoint: " ++ error)
    | .ok tokenUrl =>
      match environment getenv clientIdEnv, environment getenv clientSecretEnv with
      | none, _ => return unset tokenUrl clientIdEnv
      | some _, none => return unset tokenUrl clientSecretEnv
      | some clientId, some clientSecret => do
        let reply ← askToken tokenUrl (web.encodeForm [("grant_type", "client_credentials"),
          ("client_id", clientId), ("client_secret", clientSecret), ("scope", scope)])
        return readToken web scope tokenUrl clientId clientSecret reply

-- ════════════════════════════════
-- Routing
-- ════════════════════════════════

inductive PrefixResolution
  | unprefixed
  | static (value : String)
  | negotiated (jsonPointer value : String)
  | failed (explanation : String)
  | notEvaluated (reason : String)
  deriving DecidableEq

inductive NamespaceSeparatorResolution
  | default (encoded : String)
  | configured (jsonPointer encoded : String)
  | failed (explanation : String)
  | notEvaluated (reason : String)
  deriving DecidableEq

/-- A character that no path segment holds. -/
def isStructural (c : Char) : Bool := c = '/' || c = '?' || c = '#'

def validPathSegment (value : String) : Bool :=
  !value.isEmpty && !value.toList.any fun c => isWhiteSpace c || isStructural c

def resolvePrefix (adapter : CatalogAdapter) (body : Option Json) : PrefixResolution :=
  match adapter.routePrefix with
  | .unprefixed => .unprefixed
  | .static value => .static value
  | .negotiated pointer =>
    match (body.bind (Json.pointer · pointer.tokens)).bind Json.asStr with
    | some value =>
      if validPathSegment value then .negotiated pointer.asStr value
      else .failed ("config value at `" ++ pointer.asStr ++ "` is not one nonempty path segment")
    | none => .failed ("config response has no string prefix at `" ++ pointer.asStr ++ "`")

def defaultNamespaceSeparator : String := "%1F"

def decodeSeparator (web : WebCrates) (encoded : String) : Except String String :=
  match web.firstFormValue ("separator=" ++ encoded) with
  | none => .error "decode namespace separator"
  | some decoded =>
    if decoded.length ≠ 1 then
      .error ("namespace separator `" ++ encoded ++ "` must decode to exactly one character")
    else if decoded.toList.any isStructural then
      .error ("namespace separator `" ++ encoded ++ "` cannot be a URL structural character")
    else .ok decoded

/-- The configured separator and where it was found. -/
def configuredSeparator (config : Option Json) : Option (String × Json) :=
  [("/overrides/namespace-separator", ["overrides", "namespace-separator"]),
    ("/defaults/namespace-separator", ["defaults", "namespace-separator"])].findSome? fun pointer =>
      (config.bind (Json.pointer · pointer.2)).map fun value => (pointer.1, value)

/-- The separator a text encodes, or why there is none. -/
def NamespaceCodec.decode (web : WebCrates) (resolution : NamespaceSeparatorResolution)
    (encoded : String) : NamespaceSeparatorResolution × Option NamespaceCodec :=
  match decodeSeparator web encoded with
  | .ok separator => (resolution, some ⟨separator⟩)
  | .error error => (.failed error, none)

def NamespaceCodec.resolve (web : WebCrates) (config : Option Json) :
    NamespaceSeparatorResolution × Option NamespaceCodec :=
  match configuredSeparator config with
  | some (pointer, .string encoded) => decode web (.configured pointer encoded) encoded
  | some (pointer, _) =>
    (.failed ("config namespace separator at `" ++ pointer ++ "` must be a string"), none)
  | none =>
    if config.isSome then decode web (.default defaultNamespaceSeparator) defaultNamespaceSeparator
    else (.notEvaluated "config response has no captured JSON body", none)

def asciiLower (c : Char) : Char := if 'A' ≤ c && c ≤ 'Z' then Char.ofNat (c.toNat + 32) else c

def isJsonMediaType (contentType : String) : Bool :=
  let mediaType := contentType.toList.takeWhile fun c => c ≠ ';'
  let trimmed := ((mediaType.dropWhile isWhiteSpace).reverse.dropWhile isWhiteSpace).reverse
  trimmed.map asciiLower = "application/json".toList

def validateConfigRouting (authenticationFailure : Option ProbeFailure)
    (response : Option HttpResponseTranscript) (privateJson : Option Json)
    (routePrefix : PrefixResolution) (codec : Option NamespaceCodec) : Except String Unit :=
  match authenticationFailure, response with
  | some failure, _ => .error failure.explanation
  | none, none => .error "no config response was received"
  | none, some response =>
    if response.status ≠ 200 then
      .error ("config returned HTTP " ++ toString response.status ++ " instead of 200")
    else if !(response.headers["content-type"]?.any isJsonMediaType) then
      .error "config response did not declare application/json"
    else if privateJson.isNone then .error "config response did not contain valid captured JSON"
    else
      match routePrefix with
      | .failed explanation => .error explanation
      | .notEvaluated reason => .error reason
      | _ => if codec.isNone then .error "namespace separator did not resolve" else .ok ()

structure HttpRequestTranscript where
  method : String
  url : String
  headers : StringMap String
  deriving DecidableEq

structure RoutingConfigTranscript where
  request : HttpRequestTranscript
  response : Option HttpResponseTranscript
  routePrefix : PrefixResolution
  namespaceSeparator : NamespaceSeparatorResolution
  failure : Option ProbeFailure
  deriving DecidableEq

structure RoutingNegotiation where
  authentication : AuthenticationAttempt
  config : RoutingConfigTranscript
  codec : Option NamespaceCodec
  configRouting : Fact
  redactions : List String
  deriving DecidableEq

def configRequest (url : String) (authenticated : Bool) : HttpRequestTranscript :=
  let headers : StringMap String := .ofList [("accept", "application/json")] _
  ⟨"GET", url, if authenticated then headers.insert "authorization" redacted else headers⟩

/-- What the negotiation makes of the captured config. -/
def routingNegotiation (web : WebCrates) (adapter : CatalogAdapter) (url : String)
    (authentication : AuthenticationAttempt) (captured : CapturedResponse) : RoutingNegotiation :=
  let routePrefix := resolvePrefix adapter captured.privateJson
  let separator := NamespaceCodec.resolve web captured.privateJson
  { authentication
    config :=
      { request := configRequest url authentication.bearerToken.isSome
        response := captured.response
        routePrefix
        namespaceSeparator := separator.1
        failure := authentication.failure.or captured.failure }
    codec := separator.2
    configRouting := .fromResult (validateConfigRouting authentication.failure captured.response
      captured.privateJson routePrefix separator.2)
    redactions := captured.redactions.map ("config." ++ ·) ++
      if authentication.bearerToken.isSome then
        ["config.request.headers.authorization", "authentication.oauth2-request-credentials",
          "authentication.oauth2-response-token"]
      else [] }

/-- The config request, unless the authentication failed. -/
def captureConfig (web : WebCrates) (url : String) (authentication : AuthenticationAttempt) :
    Probe CapturedResponse :=
  if authentication.failure.isNone then do
    let reply ← askConfig url authentication.bearerToken
    return captureReply web authentication.sensitiveValues "config" reply
  else return ⟨none, none, [], none⟩

def negotiateRouting (web : WebCrates) (adapter : CatalogAdapter)
    (getenv : String → Option String) : Probe (Except String RoutingNegotiation) := do
  let authentication ← acquireAuthentication web adapter getenv
  match endpointUrl web adapter.baseUrl adapter.configPath adapter.configQuery with
  | .error error => return .error error
  | .ok url => do
    let captured ← captureConfig web url authentication
    return .ok (routingNegotiation web adapter url authentication captured)

/-- `CatalogRoutes::new`. -/
def CatalogRoutes.new (adapter : CatalogAdapter) (routePrefix : PrefixResolution)
    (codec : NamespaceCodec) (probe : String) : Except String CatalogRoutes :=
  match routePrefix with
  | .unprefixed => .ok ⟨adapter.baseUrl, none, codec⟩
  | .static value => .ok ⟨adapter.baseUrl, some value, codec⟩
  | .negotiated _ value => .ok ⟨adapter.baseUrl, some value, codec⟩
  | .failed explanation => .error ("cannot build " ++ probe ++ " routes: " ++ explanation)
  | .notEvaluated reason => .error ("cannot build " ++ probe ++ " routes: " ++ reason)

end CatalogBench.Conformance
