import CatalogBench.Conformance.Sanitize
import CatalogBench.Library.Emission

/-!
# Operations and their recorder

A probe talks to a catalog through an `OperationRecorder`: it attempts an operation, which sends
one request, or skips it with a reason. A workflow is a program over these two calls; the reply to
an attempt is whatever comes back, the reply to a skip is nothing. The recorder is determined by
the calls it got.
-/

set_option linter.all false

namespace CatalogBench.Conformance
open Interaction Interaction.Prog

-- ════════════════════════════════
-- Requests and replies
-- ════════════════════════════════

inductive Method
  | get | post | delete
  deriving DecidableEq

def Method.asStr : Method → String
  | .get => "GET"
  | .post => "POST"
  | .delete => "DELETE"

/-- What the transport sends, the `Accept` and `Content-Type` headers apart. -/
structure HttpRequest where
  method : Method
  url : String
  bearerToken : Option String
  body : Option Json
  idempotencyKey : Option String
  deriving DecidableEq

/-- The body of a response, read up to a limit. -/
inductive CollectedBody
  | complete (bytes : List UInt8)
  | tooLarge (observed : ℕ)
  deriving DecidableEq

/-- What comes back of a request: the error of the transport, or a response whose body may
fail to be read. -/
inductive HttpReply
  | failed (error : String)
  | unreadable (status : ℕ) (headers : StringMap String) (error : String)
  | answered (status : ℕ) (headers : StringMap String) (body : CollectedBody)
  deriving DecidableEq

inductive ProbeFailureStage
  | authentication | request | response
  deriving DecidableEq

structure ProbeFailure where
  stage : ProbeFailureStage
  explanation : String
  deriving DecidableEq

inductive SanitizedResponseBody
  | json (value : Json)
  | omitted (reason : String)
  deriving DecidableEq

structure HttpResponseTranscript where
  status : ℕ
  headers : StringMap String
  bodyBytesObserved : ℕ
  rawBodySha256 : Option String
  body : SanitizedResponseBody
  deriving DecidableEq

def HttpResponseTranscript.json (response : HttpResponseTranscript) : Option Json :=
  match response.body with
  | .json value => some value
  | .omitted _ => none

structure CapturedResponse where
  response : Option HttpResponseTranscript
  /-- The parsed body, kept for the protocol checks only. -/
  privateJson : Option Json
  redactions : List String
  failure : Option ProbeFailure
  deriving DecidableEq

def maximumResponseBytes : ℕ := 1024 * 1024

def allowlistedResponseHeaders (headers : StringMap String) (sensitiveValues : List String) :
    StringMap String :=
  .ofList (["content-type", "iceberg-version", "x-request-id", "traceparent"].filterMap fun name =>
    headers[name]?.map fun value => (name, redactText value sensitiveValues)) _

def captureCompleteBody (web : WebCrates) (status : ℕ) (headers : StringMap String)
    (bytes : List UInt8) (sensitiveValues : List String) : CapturedResponse :=
  if bytes = [] then
    ⟨some ⟨status, headers, 0, none, .omitted "response body is empty"⟩, none, [], none⟩
  else
    match web.parseJson bytes with
    | some value =>
      let sanitized := sanitizeJson web value sensitiveValues
      let digest := if sanitized.2 = [] then some (web.sha256Hex bytes) else none
      ⟨some ⟨status, headers, bytes.length, digest, .json sanitized.1⟩, some value,
        sanitized.2.map ("response.body" ++ ·), none⟩
    | none =>
      ⟨some ⟨status, headers, bytes.length, none, .omitted "response body is not valid JSON"⟩,
        none, [], none⟩

/-- `execute_json_request_with_context` after the request was sent. -/
def captureReply (web : WebCrates) (sensitiveValues : List String) (responseLabel : String) :
    HttpReply → CapturedResponse
  | .failed error => ⟨none, none, [], some ⟨.request, redactText error sensitiveValues⟩⟩
  | .unreadable _ _ error => ⟨none, none, [], some ⟨.response, redactText error sensitiveValues⟩⟩
  | .answered status headers (.tooLarge observed) =>
    ⟨some ⟨status, allowlistedResponseHeaders headers sensitiveValues, observed, none,
        .omitted ("response exceeds maximum capture size of " ++ toString maximumResponseBytes ++
          " bytes")⟩, none, [],
      some ⟨.response, responseLabel ++ " response exceeded the evidence body limit"⟩⟩
  | .answered status headers (.complete bytes) =>
    captureCompleteBody web status (allowlistedResponseHeaders headers sensitiveValues) bytes
      sensitiveValues

-- ════════════════════════════════
-- The recorder
-- ════════════════════════════════

/-- The calls of a workflow to its recorder. -/
inductive RecorderCall
  | attempt (id : String) (capability : Option String) (method : Method) (url : String)
      (body : Option Json) (idempotencyKey : Option String)
  | skip (id : String) (capability : Option String) (reason : String)
  deriving DecidableEq

namespace RecorderCall

def Reply : RecorderCall → Type
  | attempt .. => HttpReply
  | skip .. => Unit

def id : RecorderCall → String
  | attempt id .. => id
  | skip id .. => id

end RecorderCall

/-- One call to the recorder and what came back of it. -/
abbrev Recorded := Answered RecorderCall RecorderCall.Reply

structure Observation where
  status : Option ℕ
  privateJson : Option Json
  failure : Option ProbeFailure
  deriving DecidableEq

/-- What the recorder knows of its connection. -/
structure RecorderContext where
  bearerToken : Option String
  sensitiveValues : List String
  deriving DecidableEq

def RecorderContext.requestSensitiveValues (context : RecorderContext)
    (idempotencyKey : Option String) : List String :=
  context.sensitiveValues ++ idempotencyKey.toList

/-- What a workflow sees of a reply. -/
def observe (web : WebCrates) (context : RecorderContext) (id : String)
    (idempotencyKey : Option String) (reply : HttpReply) : Observation :=
  let captured := captureReply web (context.requestSensitiveValues idempotencyKey) id reply
  ⟨captured.response.map HttpResponseTranscript.status, captured.privateJson, captured.failure⟩

structure OperationHttpRequestTranscript where
  method : String
  url : String
  headers : StringMap String
  body : Option Json
  deriving DecidableEq

inductive OperationExecution
  | attempted (request : OperationHttpRequestTranscript) (response : Option HttpResponseTranscript)
      (failure : Option ProbeFailure)
  | notAttempted (reason : String)
  deriving DecidableEq

structure OperationTranscript where
  id : String
  capability : Option String
  execution : OperationExecution
  deriving DecidableEq

structure OperationRecorder where
  operations : List OperationTranscript
  redactions : List String
  deriving DecidableEq

namespace OperationRecorder

def new : OperationRecorder := ⟨[], []⟩

def requestHeaders (context : RecorderContext) (body : Option Json)
    (idempotencyKey : Option String) : StringMap String :=
  let headers : StringMap String := .ofList [("accept", "application/json")] _
  let headers := if body.isSome then headers.insert "content-type" "application/json" else headers
  let headers := if context.bearerToken.isSome then headers.insert "authorization" redacted
    else headers
  if idempotencyKey.isSome then headers.insert "idempotency-key" redacted else headers

/-- What `attempt_with_idempotency` and `skip` add to the recorder. -/
def record (web : WebCrates) (context : RecorderContext) (recorder : OperationRecorder) :
    Recorded → OperationRecorder
  | ⟨.attempt id capability method url body idempotencyKey, reply⟩ =>
    let sensitiveValues := context.requestSensitiveValues idempotencyKey
    let start := "operations." ++ id ++ "."
    let sanitizedUrl := sanitizeText web sensitiveValues "" url
    let sanitizedBody := body.map (sanitizeJson web · sensitiveValues)
    let captured := captureReply web sensitiveValues id reply
    { operations := recorder.operations ++
        [⟨id, capability, .attempted
          ⟨method.asStr, sanitizedUrl.1, requestHeaders context body idempotencyKey,
            sanitizedBody.map (·.1)⟩ captured.response captured.failure⟩]
      redactions := recorder.redactions ++
        (if context.bearerToken.isSome then [start ++ "request.headers.authorization"] else []) ++
        (if idempotencyKey.isSome then [start ++ "request.headers.idempotency-key"] else []) ++
        (if sanitizedUrl.2 = [] then [] else [start ++ "request.url"]) ++
        (sanitizedBody.elim [] fun sanitized => sanitized.2.map (start ++ "request.body" ++ ·)) ++
        captured.redactions.map (start ++ ·) }
  | ⟨.skip id capability reason, _⟩ =>
    { recorder with
      operations := recorder.operations ++ [⟨id, capability, .notAttempted reason⟩] }

/-- The recorder after a sequence of calls. -/
def after (web : WebCrates) (context : RecorderContext) (calls : List Recorded) :
    OperationRecorder :=
  calls.foldl (record web context) new

end OperationRecorder

/-- The request an attempt sends, and the reply. -/
structure Exchange where
  id : String
  request : HttpRequest
  reply : HttpReply
  deriving DecidableEq

/-- What was sent over the wire. -/
def exchange? (context : RecorderContext) : Recorded → Option Exchange
  | ⟨.attempt id _ method url body idempotencyKey, reply⟩ =>
    some ⟨id, ⟨method, url, context.bearerToken, body, idempotencyKey⟩, reply⟩
  | ⟨.skip .., _⟩ => none

def exchanges (context : RecorderContext) (calls : List Recorded) : List Exchange :=
  calls.filterMap (exchange? context)

/-- A workflow: a program over the recorder that may fail to build a URL. -/
abbrev Workflow (α : Type) := ExceptT String (Prog RecorderCall RecorderCall.Reply) α

/-- A step that can fail before anything is sent. -/
def ofExcept {α : Type} (result : Except String α) : Workflow α := ExceptT.mk (.pure result)

/-- The setting a workflow runs in. -/
structure Setting where
  web : WebCrates
  context : RecorderContext

namespace Setting

variable (setting : Setting)

def attemptWithIdempotency (id : String) (capability : Option String) (method : Method)
    (url : String) (body : Option Json) (idempotencyKey : Option String) : Workflow Observation :=
  ExceptT.lift (.call (RecorderCall.attempt id capability method url body idempotencyKey) fun reply =>
    .pure (observe setting.web setting.context id idempotencyKey reply))

def attempt (id : String) (capability : String) (method : Method) (url : String)
    (body : Option Json) : Workflow Observation :=
  setting.attemptWithIdempotency id (some capability) method url body none

def attemptIdempotent (id : String) (capability : String) (method : Method) (url : String)
    (body : Option Json) (idempotencyKey : String) : Workflow Observation :=
  setting.attemptWithIdempotency id (some capability) method url body (some idempotencyKey)

/-- An attempt whose URL is built first. -/
def request (id : String) (capability : String) (method : Method) (url : Except String String)
    (body : Option Json) : Workflow Observation := do
  let url ← ofExcept url
  setting.attempt id capability method url body

end Setting

def skip (id : String) (capability : String) (reason : String) : Workflow Unit :=
  ExceptT.lift (.call (RecorderCall.skip id (some capability) reason) fun reply => .pure reply)

def skipAll (operations : List (String × String)) (reason : String) : Workflow Unit :=
  operations.forM fun operation => skip operation.1 operation.2 reason

namespace Workflow

/-- Whatever is replied, the workflow finishes without an error and with `post` of its result and
of the calls it made. -/
def Emits {α : Type} (workflow : Workflow α) (post : α → List Recorded → Prop) : Prop :=
  Prog.Emits workflow.run fun result calls => ∃ a, result = .ok a ∧ post a calls

section Rules

variable {α β : Type} {post : α → List Recorded → Prop}

theorem emits_pure {a : α} : Emits (Pure.pure a : Workflow α) post ↔ post a [] := by
  constructor
  · rintro ⟨_, ⟨rfl⟩, h⟩
    exact h
  · intro h
    exact ⟨a, rfl, h⟩

theorem emits_ofExcept {a : α} : Emits (ofExcept (.ok a)) post ↔ post a [] := emits_pure

theorem emits_bind {workflow : Workflow α} {f : α → Workflow β} {post : β → List Recorded → Prop} :
    Emits (workflow >>= f) post ↔
      Emits workflow fun a calls => Emits (f a) fun b calls' => post b (calls ++ calls') := by
  unfold Emits
  rw [ExceptT.run_bind, Prog.emits_bind]
  constructor
  · intro h
    refine h.mono fun result calls hresult => ?_
    cases result with
    | ok a => exact ⟨a, rfl, hresult⟩
    | error e =>
      obtain ⟨_, herror, -⟩ := hresult
      cases herror
  · intro h
    refine h.mono ?_
    rintro _ calls ⟨a, rfl, hresult⟩
    exact hresult

theorem Emits.mono {workflow : Workflow α} {post' : α → List Recorded → Prop}
    (h : Emits workflow post) (hpost : ∀ a calls, post a calls → post' a calls) :
    Emits workflow post' :=
  Prog.Emits.mono h fun _ _ hresult => hresult.imp fun a ha => ⟨ha.1, hpost a _ ha.2⟩

/-- The composition rule, with the postcondition of the first part. -/
theorem Emits.bind {workflow : Workflow α} {f : α → Workflow β} {post' : β → List Recorded → Prop}
    (h : Emits workflow post)
    (hf : ∀ a calls, post a calls → Emits (f a) fun b calls' => post' b (calls ++ calls')) :
    Emits (workflow >>= f) post' :=
  emits_bind.mpr (h.mono hf)

theorem Emits.traced {workflow : Workflow α} (h : Emits workflow post) {result : Except String α}
    {calls : List Recorded} (hrun : Prog.Run recording workflow.run [] result calls) :
    ∃ a, result = .ok a ∧ post a calls := by
  obtain ⟨_, rfl, htraced⟩ := Prog.run_recording.mp hrun
  exact Prog.Emits.traced h htraced

variable {setting : Setting} {id capability reason url : String} {method : Method}
  {body : Option Json}

theorem emits_attempt {post : Observation → List Recorded → Prop} :
    Emits (setting.attempt id capability method url body) post ↔
      ∀ reply : HttpReply, post (observe setting.web setting.context id none reply)
        [⟨.attempt id (some capability) method url body none, reply⟩] := by
  refine forall_congr' fun reply => ?_
  constructor
  · rintro ⟨_, ⟨rfl⟩, h⟩
    exact h
  · intro h
    exact ⟨_, rfl, h⟩

theorem emits_attemptIdempotent {key : String} {post : Observation → List Recorded → Prop} :
    Emits (setting.attemptIdempotent id capability method url body key) post ↔
      ∀ reply : HttpReply, post (observe setting.web setting.context id (some key) reply)
        [⟨.attempt id (some capability) method url body (some key), reply⟩] := by
  refine forall_congr' fun reply => ?_
  constructor
  · rintro ⟨_, ⟨rfl⟩, h⟩
    exact h
  · intro h
    exact ⟨_, rfl, h⟩

/-- The entry of an attempted operation. -/
def sent (id capability : String) (method : Method) (url : String) (body : Option Json)
    (reply : HttpReply) : Recorded :=
  ⟨.attempt id (some capability) method url body none, reply⟩

theorem emits_request {built : Except String String} (h : built = .ok url)
    {post : Observation → List Recorded → Prop} :
    Emits (setting.request id capability method built body) post ↔
      ∀ reply, post (observe setting.web setting.context id none reply)
        [sent id capability method url body reply] := by
  rw [h, Setting.request, emits_bind, emits_ofExcept]
  exact emits_attempt

/-- The entry of a skipped operation. -/
def skipped (operation : String × String) (reason : String) : Recorded :=
  ⟨.skip operation.1 (some operation.2) reason, ()⟩

theorem emits_skip {post : Unit → List Recorded → Prop} :
    Emits (skip id capability reason) post ↔ post () [skipped (id, capability) reason] := by
  constructor
  · intro h
    obtain ⟨_, -, h⟩ := h ()
    exact h
  · intro h _
    exact ⟨(), rfl, h⟩

theorem emits_skipAll {operations : List (String × String)} {post : Unit → List Recorded → Prop} :
    Emits (skipAll operations reason) post ↔ post () (operations.map (skipped · reason)) := by
  induction operations generalizing post with
  | nil => exact emits_pure
  | cons operation operations ih =>
    have hcons : skipAll (operation :: operations) reason =
        (skip operation.1 operation.2 reason >>= fun _ => skipAll operations reason) := rfl
    rw [hcons, emits_bind, emits_skip]
    exact ih

theorem Emits.and {workflow : Workflow α} {post' : α → List Recorded → Prop}
    (h : Emits workflow post) (h' : Emits workflow post') :
    Emits workflow fun a calls => post a calls ∧ post' a calls := by
  refine (Prog.emits_and h h').mono ?_
  rintro _ calls ⟨⟨a, rfl, ha⟩, b, hb, hb'⟩
  obtain rfl := Except.ok.inj hb
  exact ⟨a, rfl, ha, hb'⟩

-- ════════════════════════════════
-- Runs that finish
-- ════════════════════════════════

/-- Whatever is replied, if the workflow finishes without an error then with `post`. -/
def Ensures (workflow : Workflow α) (post : α → List Recorded → Prop) : Prop :=
  Prog.Emits workflow.run fun result calls => ∀ a, result = .ok a → post a calls

theorem Emits.ensures {workflow : Workflow α} (h : Emits workflow post) : Ensures workflow post := by
  refine Prog.Emits.mono h ?_
  rintro _ calls ⟨a, rfl, hpost⟩ b ⟨⟩
  exact hpost

theorem ensures_pure {a : α} (h : post a []) : Ensures (Pure.pure a : Workflow α) post :=
  (emits_pure.mpr h).ensures

theorem ensures_ofExcept {result : Except String α} (h : ∀ a, result = .ok a → post a []) :
    Ensures (ofExcept result) post := h

theorem Ensures.mono {workflow : Workflow α} {post' : α → List Recorded → Prop}
    (h : Ensures workflow post) (hpost : ∀ a calls, post a calls → post' a calls) :
    Ensures workflow post' :=
  Prog.Emits.mono h fun _ _ hresult a ha => hpost a _ (hresult a ha)

theorem Ensures.bind {workflow : Workflow α} {f : α → Workflow β}
    {post' : β → List Recorded → Prop} (h : Ensures workflow post)
    (hf : ∀ a calls, post a calls → Ensures (f a) fun b calls' => post' b (calls ++ calls')) :
    Ensures (workflow >>= f) post' := by
  unfold Ensures
  rw [ExceptT.run_bind]
  refine Prog.Emits.bind h fun result calls hresult => ?_
  cases result with
  | ok a => exact hf a calls (hresult a rfl)
  | error e =>
    rintro b ⟨⟩

theorem ensures_request {address : Except String String}
    {post : Observation → List Recorded → Prop}
    (h : ∀ url reply, address = .ok url → post (observe setting.web setting.context id none reply)
      [sent id capability method url body reply]) :
    Ensures (setting.request id capability method address body) post := by
  cases address with
  | ok url => exact ((emits_request rfl).mpr fun reply => h url reply rfl).ensures
  | error e =>
    rintro a ⟨⟩

theorem Ensures.traced {workflow : Workflow α} (h : Ensures workflow post) {a : α}
    {calls : List Recorded} (hrun : Prog.Run recording workflow.run [] (.ok a) calls) :
    post a calls := by
  obtain ⟨_, rfl, htraced⟩ := Prog.run_recording.mp hrun
  exact Prog.Emits.traced h htraced a rfl

end Rules

-- ════════════════════════════════
-- Ledgers
-- ════════════════════════════════

/-- The IDs of the operations in a sequence of calls, attempted or skipped. -/
def ids (calls : List Recorded) : List String := calls.map fun call => call.call.id

@[simp] theorem ids_append (calls calls' : List Recorded) :
    ids (calls ++ calls') = ids calls ++ ids calls' := List.map_append

@[simp] theorem ids_nil : ids [] = [] := rfl

@[simp] theorem ids_sent (id capability : String) (method : Method) (url : String)
    (body : Option Json) (reply : HttpReply) : ids [sent id capability method url body reply] = [id] :=
  rfl

/-- The workflow finishes, and on every path it records exactly these operations in this order. -/
def Logs {α : Type} (workflow : Workflow α) (operations : List String) : Prop :=
  Emits workflow fun _ calls => ids calls = operations

section Ledger

variable {α β : Type} {setting : Setting} {id capability reason url : String} {method : Method}
  {body : Option Json}

theorem logs_pure (a : α) : Logs (Pure.pure a : Workflow α) [] := emits_pure.mpr rfl

theorem Logs.bind {workflow : Workflow α} {f : α → Workflow β} {first rest : List String}
    (h : Logs workflow first) (hf : ∀ a, Logs (f a) rest) :
    Logs (workflow >>= f) (first ++ rest) := by
  refine Emits.bind h fun a calls hcalls => (hf a).mono fun b calls' hcalls' => ?_
  rw [ids_append, hcalls, hcalls']

/-- One operation, then the others. -/
theorem Logs.cons {workflow : Workflow α} {f : α → Workflow β} {rest : List String}
    (h : Logs workflow [id]) (hf : ∀ a, Logs (f a) rest) : Logs (workflow >>= f) (id :: rest) :=
  h.bind hf

theorem logs_request {built : Except String String} (h : built = .ok url) :
    Logs (setting.request id capability method built body) [id] :=
  (emits_request h).mpr fun _ => rfl

theorem logs_attemptIdempotent {key : String} :
    Logs (setting.attemptIdempotent id capability method url body key) [id] :=
  emits_attemptIdempotent.mpr fun _ => rfl

theorem logs_skip : Logs (skip id capability reason) [id] := emits_skip.mpr rfl

theorem logs_skipAll (operations : List (String × String)) :
    Logs (skipAll operations reason) (operations.map Prod.fst) := by
  refine emits_skipAll.mpr ?_
  rw [ids, List.map_map]
  rfl

theorem logs_ite {c : Prop} [Decidable c] {p q : Workflow α} {operations : List String}
    (hp : Logs p operations) (hq : Logs q operations) : Logs (if c then p else q) operations := by
  split
  · exact hp
  · exact hq

end Ledger

end Workflow

-- ════════════════════════════════
-- Facts and checks
-- ════════════════════════════════

inductive Fact
  | pass
  | fail (explanation : String)
  | notEvaluated (reason : String)
  deriving DecidableEq

namespace Fact

def fromResult : Except String Unit → Fact
  | .ok _ => .pass
  | .error explanation => .fail explanation

def fromBool (value : Bool) (explanation : String) : Fact :=
  if value then .pass else .fail explanation

def passed : Fact → Bool
  | .pass => true
  | _ => false

def explanation (fact : Fact) (fallback : String) : String :=
  match fact with
  | .pass => fallback
  | .fail explanation => explanation
  | .notEvaluated reason => reason

end Fact

/-- `Result::is_ok`. -/
def isOk {α : Type} : Except String α → Bool
  | .ok _ => true
  | .error _ => false

/-- `result.map(|_| ())`. -/
def unitResult {α : Type} (result : Except String α) : Except String Unit := result.map fun _ => ()

def validateStatus (observation : Observation) (allowed : List ℕ) : Except String Unit :=
  match observation.status with
  | some status =>
    if status ∈ allowed then .ok ()
    else .error ("HTTP " ++ toString status ++ " is not in " ++ debugList (allowed.map toString))
  | none => .error ((observation.failure.map ProbeFailure.explanation).getD
      "no response was received")

def parseJsonResponse {α : Type} (web : WebCrates) (typeName : String) (decode : Json → Option α)
    (observation : Observation) (status : ℕ) : Except String α := do
  validateStatus observation [status]
  match observation.privateJson with
  | none => throw "response did not contain valid JSON"
  | some value =>
    match decode value with
    | some decoded => return decoded
    | none => throw ("invalid response shape: " ++ web.fromValueError typeName value)

def validateSpecErrorResponse (web : WebCrates) (observation : Observation) (status : ℕ) :
    Except String String := do
  let response ← parseJsonResponse web "IcebergErrorResponse" decodeIcebergErrorResponse
    observation status
  if response.error.code ≠ status then
    throw ("error code " ++ toString response.error.code ++ " does not match HTTP " ++
      toString status)
  else if isBlank response.error.type then throw "error type is empty"
  else if isBlank response.error.message then throw "error message is empty"
  else return response.error.type

def validateErrorResponse (web : WebCrates) (observation : Observation) (status : ℕ)
    (errorType : String) : Except String Unit := do
  let actualType ← validateSpecErrorResponse web observation status
  if actualType ≠ errorType then
    throw ("error type `" ++ actualType ++ "` does not match `" ++ errorType ++ "`")
  else return ()

/-- The first error, if there is one. -/
def allResults : List (Except String Unit) → Except String Unit
  | [] => .ok ()
  | .ok _ :: results => allResults results
  | .error explanation :: _ => .error explanation

-- ════════════════════════════════
-- What the checks ask of a reply
-- ════════════════════════════════

namespace HttpReply

/-- The status of a response that was read. -/
def status : HttpReply → Option ℕ
  | answered status _ _ => some status
  | _ => none

/-- The JSON body of a response. -/
def json (web : WebCrates) : HttpReply → Option Json
  | answered _ _ (.complete bytes) => if bytes = [] then none else web.parseJson bytes
  | _ => none

/-- A response with this status whose body is an error of this type. -/
def IsError (web : WebCrates) (reply : HttpReply) (status : ℕ) (errorType : String) : Prop :=
  reply.status = some status ∧ ∃ error : IcebergError,
    (reply.json web).bind decodeIcebergErrorResponse = some ⟨error⟩ ∧ error.code = status ∧
      error.type = errorType ∧ isBlank error.type = false ∧ isBlank error.message = false

end HttpReply

section Replies

variable {web : WebCrates} {context : RecorderContext} {id : String} {key : Option String}
  {reply : HttpReply}

theorem observe_status : (observe web context id key reply).status = reply.status := by
  cases reply with
  | failed error => rfl
  | unreadable status headers error => rfl
  | answered status headers body =>
    cases body with
    | tooLarge observed => rfl
    | complete bytes =>
      simp only [observe, captureReply, captureCompleteBody, HttpReply.status]
      split
      · rfl
      · split <;> rfl

theorem observe_privateJson :
    (observe web context id key reply).privateJson = reply.json web := by
  cases reply with
  | failed error => rfl
  | unreadable status headers error => rfl
  | answered status headers body =>
    cases body with
    | tooLarge observed => rfl
    | complete bytes =>
      simp only [observe, captureReply, captureCompleteBody, HttpReply.json]
      split
      · rfl
      · split
        · next value hvalue => exact hvalue.symm
        · next hvalue => exact hvalue.symm

theorem validateStatus_eq_ok {observation : Observation} {allowed : List ℕ} :
    validateStatus observation allowed = .ok () ↔ ∃ status ∈ allowed,
      observation.status = some status := by
  unfold validateStatus
  cases observation.status with
  | none => simp
  | some status => simp

theorem parseJsonResponse_eq_ok {α : Type} {typeName : String} {decode : Json → Option α}
    {observation : Observation} {status : ℕ} {decoded : α} :
    parseJsonResponse web typeName decode observation status = .ok decoded ↔
      observation.status = some status ∧ observation.privateJson.bind decode = some decoded := by
  rw [parseJsonResponse, except_seq_eq_ok, validateStatus_eq_ok]
  simp only [List.mem_singleton, exists_eq_left]
  refine and_congr_right fun _ => ?_
  cases observation.privateJson with
  | none => simp [throw, throwThe, MonadExceptOf.throw]
  | some value =>
    simp only [Option.bind_some]
    cases decode value with
    | none => simp [throw, throwThe, MonadExceptOf.throw]
    | some a => simp [Pure.pure, Except.pure]

theorem validateSpecErrorResponse_eq_ok {observation : Observation} {status : ℕ}
    {errorType : String} :
    validateSpecErrorResponse web observation status = .ok errorType ↔
      observation.status = some status ∧ ∃ error : IcebergError,
        observation.privateJson.bind decodeIcebergErrorResponse = some ⟨error⟩ ∧
        error.code = status ∧ error.type = errorType ∧ isBlank error.type = false ∧
        isBlank error.message = false := by
  unfold validateSpecErrorResponse
  constructor
  · intro h
    obtain ⟨⟨error⟩, hparse, h⟩ := except_bind_eq_ok.mp h
    obtain ⟨hstatus, hdecode⟩ := parseJsonResponse_eq_ok.mp hparse
    dsimp only at h
    split at h
    · cases h
    next hcode =>
    split at h
    · cases h
    next htype =>
    split at h
    · cases h
    next hmessage =>
    cases h
    exact ⟨hstatus, error, hdecode, by simpa using hcode, rfl, by simpa using htype,
      by simpa using hmessage⟩
  · rintro ⟨hstatus, error, hdecode, hcode, rfl, htype, hmessage⟩
    refine except_bind_eq_ok.mpr ⟨⟨error⟩, parseJsonResponse_eq_ok.mpr ⟨hstatus, hdecode⟩, ?_⟩
    simp [hcode, htype, hmessage, Pure.pure, Except.pure]

theorem validateErrorResponse_eq_ok {observation : Observation} {status : ℕ}
    {errorType : String} :
    validateErrorResponse web observation status errorType = .ok () ↔
      validateSpecErrorResponse web observation status = .ok errorType := by
  unfold validateErrorResponse
  constructor
  · intro h
    obtain ⟨actualType, hspec, h⟩ := except_bind_eq_ok.mp h
    split at h
    · cases h
    · next heq => exact (by simpa using heq : actualType = errorType) ▸ hspec
  · intro h
    exact except_bind_eq_ok.mpr ⟨errorType, h, by simp [Pure.pure, Except.pure]⟩

theorem validateStatus_observe {allowed : List ℕ} :
    validateStatus (observe web context id key reply) allowed = .ok () ↔
      ∃ status ∈ allowed, reply.status = some status := by
  rw [validateStatus_eq_ok, observe_status]

theorem validateErrorResponse_observe {status : ℕ} {errorType : String} :
    validateErrorResponse web (observe web context id key reply) status errorType = .ok () ↔
      reply.IsError web status errorType := by
  rw [validateErrorResponse_eq_ok, validateSpecErrorResponse_eq_ok, observe_status,
    observe_privateJson, HttpReply.IsError]

theorem allResults_eq_ok {results : List (Except String Unit)} :
    allResults results = .ok () ↔ ∀ result ∈ results, result = .ok () := by
  induction results with
  | nil => simp [allResults]
  | cons result results ih =>
    cases result with
    | ok a => simp [allResults, ih]
    | error e => simp [allResults]

theorem fromResult_eq_pass {result : Except String Unit} :
    Fact.fromResult result = .pass ↔ result = .ok () := by
  cases result with
  | ok a => simp [Fact.fromResult]
  | error e => simp [Fact.fromResult]

theorem unitResult_eq_ok {α : Type} {result : Except String α} :
    unitResult result = .ok () ↔ ∃ a, result = .ok a := by
  cases result with
  | ok a => exact ⟨fun _ => ⟨a, rfl⟩, fun _ => rfl⟩
  | error e => simp [unitResult, Except.map]

theorem passed_iff {fact : Fact} : fact.passed = true ↔ fact = .pass := by
  cases fact <;> simp [Fact.passed]

/-- A preflight passes if its answer is the error it asks for. -/
theorem validateErrorResponse_passed {status : ℕ} {errorType : String} :
    (Fact.fromResult (validateErrorResponse web (observe web context id key reply) status
      errorType)).passed = true ↔ reply.IsError web status errorType := by
  rw [passed_iff, fromResult_eq_pass, validateErrorResponse_observe]

end Replies

/-- The recorder holds one transcript for each call, under the ID of the call. -/
theorem operations_ids (web : WebCrates) (context : RecorderContext) (calls : List Recorded) :
    (OperationRecorder.after web context calls).operations.map OperationTranscript.id =
      Workflow.ids calls := by
  have hfold : ∀ (recorder : OperationRecorder),
      (calls.foldl (OperationRecorder.record web context) recorder).operations.map
        OperationTranscript.id = recorder.operations.map OperationTranscript.id ++
          Workflow.ids calls := by
    induction calls with
    | nil => simp [Workflow.ids]
    | cons call calls ih =>
      intro recorder
      rw [List.foldl_cons, ih]
      obtain ⟨call, reply⟩ := call
      cases call with
      | attempt => simp [OperationRecorder.record, Workflow.ids, RecorderCall.id]
      | skip => simp [OperationRecorder.record, Workflow.ids, RecorderCall.id]
  exact hfold .new

/-- A server that answers each operation in one way. -/
def answering (replies : String → HttpReply) (calls : List Recorded) :
    (call : RecorderCall) → call.Reply × List Recorded
  | .attempt id capability method url body key =>
    (replies id, calls ++ [⟨.attempt id capability method url body key, replies id⟩])
  | .skip id capability reason => ((), calls ++ [⟨.skip id capability reason, ()⟩])

/-- The run of a workflow against such a server. -/
theorem run_answering {α : Type} (workflow : Workflow α) (replies : String → HttpReply) :
    Prog.Run recording workflow.run []
      (workflow.run.exec (answering replies) []).1 (workflow.run.exec (answering replies) []).2 := by
  refine run_exec _ (fun calls call => ?_) _ _
  cases call with
  | attempt => rfl
  | skip => rfl

/-- An error as a catalog sends it. -/
def errorDocument (code : ℕ) (errorType : String) : Json :=
  .object [("error", .object [("message", .string "The entity is not available"),
    ("type", .string errorType), ("code", .number (.posInt code))])]

/-- A response with a JSON body. -/
def jsonReply (status : ℕ) (document : Json) : HttpReply :=
  .answered status (.ofList [("content-type", "application/json")] _)
    (.complete (utf8 (compactText document)))

def errorReply (code : ℕ) (errorType : String) : HttpReply :=
  jsonReply code (errorDocument code errorType)

def sampleSetting (documents : List Json) : Setting :=
  ⟨sampleWeb documents, ⟨none, []⟩⟩

end CatalogBench.Conformance
