import TraceGate.Storage

/-!
# Replaying a stored request

The replay crate: selecting a stored request, checking the target, building the
request to send from what was stored, and turning the answer into an audit row.
URL and method parsing and fresh identifiers come from other crates and are
parameters; what the HTTP client answers is a `DispatchResult`.
-/

namespace TraceGate.Replay

inductive ReplaySelector where
  | id (requestId : String)
  | lastFailed
deriving DecidableEq

structure ReplayOptions where
  selector : ReplaySelector
  target : String
  confirmSideEffects : Bool
deriving DecidableEq

structure ReplayOutcome where
  replayId : String
  originalRequestId : String
  replayRequestId : String
  target : String
  method : String
  path : String
  status : Nat
  latencyMs : Nat
  responseBodyBytes : Nat
  diffSummary : String
deriving DecidableEq

inductive ReplayError where
  | requestNotFound (requestId : String)
  | noFailedRequest
  | missingSideEffectConfirmation (method : String)
  | missingBody (requestId : String)
  | evictedBody (requestId : String)
  | truncatedBody (requestId : String)
  | invalidTarget (target reason : String)
  | originalUpstreamTarget (requestId target : String)
  | invalidMethod (requestId method reason : String)
  | invalidHeader (requestId name reason : String)
  | storage (err : DbError)
  | dispatchFailed (replayId requestId reason : String)
deriving DecidableEq

/-- The error texts, with the storage error's own text given. -/
def ReplayError.text (storageText : DbError → String) : ReplayError → String
  | requestNotFound requestId => s!"request `{requestId}` not found"
  | noFailedRequest => "no failed request found"
  | missingSideEffectConfirmation method =>
      s!"method `{method}` requires --confirm-side-effects before replay"
  | missingBody requestId => s!"cannot replay `{requestId}`: request body is missing"
  | evictedBody requestId => s!"cannot replay `{requestId}`: request body was evicted"
  | truncatedBody requestId => s!"cannot replay `{requestId}`: request body was truncated"
  | invalidTarget target reason => s!"invalid replay target `{target}`: {reason}"
  | originalUpstreamTarget requestId target =>
      s!"replay target `{target}` matches original upstream for request `{requestId}`"
  | invalidMethod requestId method reason =>
      s!"invalid stored method `{method}` for request `{requestId}`: {reason}"
  | invalidHeader requestId name reason =>
      s!"invalid stored header `{name}` for request `{requestId}`: {reason}"
  | storage err => "storage error: " ++ storageText err
  | dispatchFailed replayId requestId reason =>
      s!"replay dispatch `{replayId}` failed for request `{requestId}`: {reason}"

/-- A parsed URL, as its accessors show it. -/
structure Url where
  scheme : String
  host : Option String
  path : String
  query : Option String
  fragment : Option String
  origin : String
deriving DecidableEq

/-- Parsing URLs, methods and header names. -/
structure Parsers where
  url : String → Except String Url
  method : String → Except String Unit
  http : HttpCrate

/-- The target of a replay is an origin. -/
def validateTarget (parsers : Parsers) (target : String) : Except ReplayError String :=
  match parsers.url target with
  | .error reason => .error (.invalidTarget target reason)
  | .ok parsed =>
      if ¬ (parsed.scheme = "http" ∨ parsed.scheme = "https") then
        .error (.invalidTarget target "target must use http or https")
      else if parsed.host.isNone then
        .error (.invalidTarget target "target must include a host")
      else if parsed.path ≠ "/" || parsed.query.isSome || parsed.fragment.isSome then
        .error (.invalidTarget target
          "target must be an origin without path, query, or fragment")
      else .ok parsed.origin

def rejectOriginalUpstream (parsers : Parsers) (request : RequestDetails) (origin : String) :
    Except ReplayError Unit :=
  match request.request.upstream with
  | none => .ok ()
  | some upstream =>
      match parsers.url upstream with
      | .error _ => .ok ()
      | .ok parsed =>
          if parsed.origin = origin then
            .error (.originalUpstreamTarget request.request.requestId origin)
          else .ok ()

def isSideEffectMethod (method : String) : Bool :=
  method == "POST" || method == "PUT" || method == "PATCH" || method == "DELETE"

def methodRequiresCapturedBody (method : String) : Bool :=
  method == "POST" || method == "PUT" || method == "PATCH"

def validateCaptureBody (requestId : String) (capture : CaptureDetails) :
    Except ReplayError Unit :=
  if capture.bodyEvicted then .error (.evictedBody requestId)
  else if capture.requestBodyTruncated then .error (.truncatedBody requestId)
  else .ok ()

def replayBody (request : RequestDetails) (method : String) :
    Except ReplayError (Option (List UInt8)) :=
  let requestId := request.request.requestId
  if methodRequiresCapturedBody method then
    match request.capture with
    | none => .error (.missingBody requestId)
    | some capture => do
        validateCaptureBody requestId capture
        match capture.requestBody with
        | none => .error (.missingBody requestId)
        | some body => .ok (some body)
  else
    match request.capture with
    | none => .ok none
    | some capture =>
        if capture.requestBodyTruncated && capture.requestBody.isSome then
          .error (.truncatedBody requestId)
        else if capture.bodyEvicted && capture.requestBody.isSome then
          .error (.evictedBody requestId)
        else .ok capture.requestBody

def isHopByHopHeader (name : String) : Bool :=
  ["connection", "content-length", "host", "proxy-authenticate", "proxy-authorization", "te",
    "trailer", "transfer-encoding", "upgrade"].contains name

def isReplayHeaderAllowed (http : HttpCrate) (name : String) : Bool :=
  match http.headerNameFromBytes name with
  | .error _ => false
  | .ok name =>
      ["content-type", "accept", "accept-language", "user-agent"].contains name &&
        !isHopByHopHeader name

def replayHeader (http : HttpCrate) (request : RequestDetails) (header : StoredHeader) :
    Except ReplayError (String × String) :=
  match http.headerNameFromBytes header.name with
  | .error reason => .error (.invalidHeader request.request.requestId header.name reason)
  | .ok name => .ok (name, header.value)

def replayHeaders (http : HttpCrate) (request : RequestDetails) :
    Except ReplayError (List (String × String)) :=
  (request.requestHeaders.filter fun header => isReplayHeaderAllowed http header.name).mapM
    (replayHeader http request)

def storedPathAndQuery (request : RequestDetails) : String :=
  match request.request.redactedQuery with
  | some query => request.request.path ++ "?" ++ query
  | none => request.request.path

structure ReplayRequest where
  replayId : String
  replayRequestId : String
  target : String
  method : String
  path : String
  body : Option (List UInt8)
  headers : List (String × String)
deriving DecidableEq

/-- The two fresh identifiers of a replay. -/
structure FreshIds where
  replayId : String
  replayRequestId : String

def buildReplayRequest (parsers : Parsers) (fresh : FreshIds) (request : RequestDetails)
    (origin : String) (confirmSideEffects : Bool) : Except ReplayError ReplayRequest := do
  let method := request.request.method
  match parsers.method method with
  | .error reason => .error (.invalidMethod request.request.requestId method reason)
  | .ok () =>
      if isSideEffectMethod method && !confirmSideEffects then
        .error (.missingSideEffectConfirmation method)
      else
        let body ← replayBody request method
        let headers ← replayHeaders parsers.http request
        return ⟨fresh.replayId, fresh.replayRequestId, origin, method, storedPathAndQuery request,
          body, headers⟩

/-- Everything `replay` does between selecting the request and dispatching it. -/
def prepareReplay (parsers : Parsers) (options : ReplayOptions) (fresh : FreshIds)
    (request : RequestDetails) : Except ReplayError ReplayRequest := do
  let origin ← validateTarget parsers options.target
  rejectOriginalUpstream parsers request origin
  buildReplayRequest parsers fresh request origin options.confirmSideEffects

/-- The request handed to the HTTP client. -/
structure DispatchedRequest where
  method : String
  url : String
  headers : List (String × String)
  body : Option (List UInt8)
deriving DecidableEq

def dispatchedRequest (originalRequestId traceparent : String) (request : ReplayRequest) :
    DispatchedRequest :=
  { method := request.method
    url := request.target ++ request.path
    headers := request.headers ++
      [("x-tracegate-replay", "true"), ("x-tracegate-original-request-id", originalRequestId),
        ("x-request-id", request.replayRequestId), ("traceparent", traceparent)]
    body := request.body }

/-- What comes of sending it: a whole response, a response whose body fails, or no
response. -/
inductive DispatchResult where
  | answered (status responseBodyBytes : Nat)
  | bodyFailed (status : Nat) (reason : String)
  | failed (reason : String)
deriving DecidableEq

def diffSummary (originalStatus status responseBodyBytes : Nat) : String :=
  s!"original_status={originalStatus} replay_status={status} response_body_bytes={responseBodyBytes}"

/-- The audit row for a result. -/
def replayRun (original : RequestSummary) (request : ReplayRequest) (latencyMs : Nat)
    (nowMs : Int) (result : DispatchResult) : ReplayRunInsert :=
  let run := fun status error diffSummary =>
    { replayId := request.replayId, originalRequestId := original.requestId
      replayRequestId := request.replayRequestId, target := request.target
      method := request.method, path := request.path, status := status, latencyMs := latencyMs
      error := error, diffSummary := some diffSummary, createdAtMs := nowMs }
  match result with
  | .answered status bytes => run (some status) none (diffSummary original.status status bytes)
  | .bodyFailed _ reason => run none (some reason) "dispatch_failed"
  | .failed reason => run none (some reason) "dispatch_failed"

/-- What `replay` returns once the audit row is written. -/
def replayReturn (original : RequestSummary) (request : ReplayRequest) (latencyMs : Nat)
    (result : DispatchResult) : Except ReplayError ReplayOutcome :=
  match result with
  | .answered status bytes =>
      .ok
        { replayId := request.replayId, originalRequestId := original.requestId
          replayRequestId := request.replayRequestId, target := request.target
          method := request.method, path := request.path, status := status
          latencyMs := latencyMs, responseBodyBytes := bytes
          diffSummary := diffSummary original.status status bytes }
  | .bodyFailed _ reason =>
      .error (.dispatchFailed request.replayId original.requestId reason)
  | .failed reason => .error (.dispatchFailed request.replayId original.requestId reason)

/-- The pairs `replay_headers` sends: the allowed headers under their parsed names. -/
def allowedHeaders (http : HttpCrate) (headers : List StoredHeader) : List (String × String) :=
  (headers.filter fun header => isReplayHeaderAllowed http header.name).map fun header =>
    ((http.headerNameFromBytes header.name).toOption.getD header.name, header.value)

/-- An allowed name has been parsed, so no header fails, and the request's own
identifier is not read. -/
theorem replayHeaders_eq (http : HttpCrate) (request : RequestDetails) :
    replayHeaders http request = .ok (allowedHeaders http request.requestHeaders) := by
  rw [replayHeaders, allowedHeaders]
  induction request.requestHeaders with
  | nil => rfl
  | cons header rest inductionHypothesis =>
    cases allowed : isReplayHeaderAllowed http header.name with
    | false => simp [allowed, inductionHypothesis]
    | true =>
      cases parsed : http.headerNameFromBytes header.name with
      | error reason => simp [isReplayHeaderAllowed, parsed] at allowed
      | ok name =>
        simp only [List.filter_cons, allowed, if_true, List.mapM_cons, inductionHypothesis,
          replayHeader, parsed, List.map_cons, Except.toOption, Option.getD_some]
        rfl

/-- What a request that is built has passed, and what it is made of.

The method is read again, side effects are confirmed where the method has them, and there is a
body to send. The path and the headers need no check. -/
theorem buildReplayRequest_eq_ok (parsers : Parsers) (fresh : FreshIds)
    (request : RequestDetails) (origin : String) (confirmSideEffects : Bool)
    (replay : ReplayRequest) :
    buildReplayRequest parsers fresh request origin confirmSideEffects = .ok replay ↔
      parsers.method request.request.method = .ok () ∧
        (isSideEffectMethod request.request.method = true → confirmSideEffects = true) ∧
        ∃ body, replayBody request request.request.method = .ok body ∧
          replay = ⟨fresh.replayId, fresh.replayRequestId, origin, request.request.method,
            storedPathAndQuery request, body,
            allowedHeaders parsers.http request.requestHeaders⟩ := by
  rw [buildReplayRequest, replayHeaders_eq]
  cases parsers.method request.request.method with
  | error reason => simp
  | ok parsed =>
    cases isSideEffectMethod request.request.method with
    | false =>
      cases replayBody request request.request.method with
      | error err => simp [bind, Except.bind]
      | ok body => simp [bind, Except.bind, pure, Except.pure, eq_comm]
    | true =>
      cases confirmSideEffects with
      | false => simp
      | true =>
        cases replayBody request request.request.method with
        | error err => simp [bind, Except.bind]
        | ok body => simp [bind, Except.bind, pure, Except.pure, eq_comm]

/-- A replay run carries the identifier of its request, however the dispatch ended. -/
theorem replayId_replayRun (original : RequestSummary) (request : ReplayRequest)
    (latencyMs : Nat) (nowMs : Int) (result : DispatchResult) :
    (replayRun original request latencyMs nowMs result).replayId = request.replayId := by
  cases result <;> rfl

/-- A replay run names the request it replays, however the dispatch ended. -/
theorem originalRequestId_replayRun (original : RequestSummary) (request : ReplayRequest)
    (latencyMs : Nat) (nowMs : Int) (result : DispatchResult) :
    (replayRun original request latencyMs nowMs result).originalRequestId =
      original.requestId := by
  cases result <;> rfl

end TraceGate.Replay
