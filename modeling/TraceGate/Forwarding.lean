import TraceGate.Finalizer

/-!
# Requests in and requests out

An inbound request is read once for a policy preview, which gives its frames back
in front of the rest, and is then either sent upstream once with its own body or,
when it announces no body, as often as the route's retries allow with an empty
one. `Externals` are the parsers, printers and the digest the gateway asks other
crates for. What an `Attempt` meets is not the request's: the trace context of its moment, and
the answer of the HTTP client.
-/

namespace TraceGate

inductive HttpVersion where
  | http09
  | http10
  | http11
  | http2
  | http3
deriving DecidableEq

/-- A parsed target, as the accessors of the URI show it. -/
structure Uri where
  path : String
  query : Option String
  pathAndQuery : Option String
deriving DecidableEq

/-- A streamed body: its frames, and the error it ends with if it fails. -/
structure Body where
  frames : List Frame
  failure : Option String
deriving DecidableEq

def Body.empty : Body := ⟨[], none⟩

structure InboundRequest where
  method : String
  uri : Uri
  version : HttpVersion
  headers : HeaderMap
  body : Body
deriving DecidableEq

structure RequestTemplate where
  method : String
  uri : Uri
  version : HttpVersion
  headers : HeaderMap
deriving DecidableEq

structure UpstreamRequest where
  method : String
  uri : String
  version : HttpVersion
  headers : HeaderMap
  body : Body
deriving DecidableEq

structure ResponseHead where
  status : Nat
  headers : HeaderMap
deriving DecidableEq

inductive AttemptError where
  | timeout
  | transport (reason : String)
  | buildRequest (reason : String)
deriving DecidableEq

/-- What the HTTP client answers under the route's timeout. -/
inductive ClientAnswer where
  | response (head : ResponseHead)
  | timedOut
  | failed (reason : String)
deriving DecidableEq

/-- What one call of `inject_context` writes: the lines that the propagator sets for the current
span, all under the two names of the trace context, and the `traceparent` that is generated when
there is none. -/
structure TraceContext where
  lines : List (String × HeaderValue)
  named : ∀ line ∈ lines, line.1 = "traceparent" ∨ line.1 = "tracestate"
  generated : HeaderValue

/-- What one attempt meets. Another attempt of the request finds another trace context: its
`traceparent` may be generated anew. -/
structure Attempt where
  context : TraceContext
  answer : ClientAnswer

/-- What other crates compute for the gateway: header and URI parsing, UUID
parsing, the hexadecimal SHA-256 digest, and printing of addresses. -/
structure Externals where
  http : HttpCrate
  parseUri : String → Except String Unit
  isUuid : String → Bool
  sha256 : List UInt8 → String
  ipText : IpAddr → String
  socketAddrText : SocketAddr → String

def requestIdHeader : String := "x-request-id"

def requestIdHeaderValue (externals : Externals) (requestId : String) : HeaderValue :=
  match externals.http.headerValueFromStr requestId with
  | .ok value => value
  | .error _ => .ofAscii "invalid-request-id"

/-- The client's identifier when it is a UUID, else a fresh one. -/
def requestIdFromHeaders (externals : Externals) (fresh : String) (headers : HeaderMap) : String :=
  match (HeaderMap.get headers requestIdHeader).bind HeaderValue.toStr with
  | some value => if externals.isUuid value then value else fresh
  | none => fresh

def isAsciiHexdigit (char : Char) : Bool :=
  ('0' ≤ char && char ≤ '9') || ('a' ≤ char && char ≤ 'f') || ('A' ≤ char && char ≤ 'F')

def traceIdHexFromTraceparent (value : String) : Option String :=
  match Text.split '-' value with
  | [version, traceId, spanId, flags] =>
      if version.utf8ByteSize ≠ 2 || traceId.utf8ByteSize ≠ 32 || spanId.utf8ByteSize ≠ 16 ||
        flags.utf8ByteSize ≠ 2 || traceId == "00000000000000000000000000000000" ||
        spanId == "0000000000000000" || !version.toList.all isAsciiHexdigit ||
        !traceId.toList.all isAsciiHexdigit || !spanId.toList.all isAsciiHexdigit ||
        !flags.toList.all isAsciiHexdigit
      then none else some traceId
  | _ => none

/-- The loop of `split_body_preview`: the preview, the frames read for it, and the
frames left. A body that fails before the preview is complete fails it. -/
def splitFrames (limit : Nat) (failure : Option String) :
    List UInt8 → List Frame → List Frame → Except String (List UInt8 × List Frame × List Frame)
  | preview, read, [] =>
      if preview.length < limit then
        match failure with
        | some err => .error err
        | none => .ok (preview, read, [])
      else .ok (preview, read, [])
  | preview, read, frame :: rest =>
      if preview.length < limit then
        let preview :=
          match frame.dataRef with
          | some data => preview ++ data.take (min (limit - preview.length) data.length)
          | none => preview
        splitFrames limit failure preview (read ++ [frame]) rest
      else .ok (preview, read, frame :: rest)

/-- `split_body_preview`; the returned body gives the read frames back first. -/
def splitBodyPreview (body : Body) (limit : Nat) : Except String (List UInt8 × Body) :=
  if limit = 0 then .ok ([], body)
  else do
    let (preview, read, rest) ←
      splitFrames (min limit usizeMax) body.failure [] [] body.frames
    return (preview, { body with frames := read ++ rest })

/-- The loop moves frames without changing their sequence: what is queued and what is left make
up what was read and what was still to come. -/
theorem splitFrames_frames (limit : Nat) (failure : Option String) (preview : List UInt8)
    (read rest : List Frame) (result : List UInt8 × List Frame × List Frame)
    (split : splitFrames limit failure preview read rest = .ok result) :
    result.2.1 ++ result.2.2 = read ++ rest := by
  induction rest generalizing preview read with
  | nil =>
    simp only [splitFrames] at split
    split at split
    · cases failure with
      | some err => simp at split
      | none =>
        obtain rfl := Except.ok.inj split
        rfl
    · obtain rfl := Except.ok.inj split
      rfl
  | cons frame rest inductionHypothesis =>
    simp only [splitFrames] at split
    split at split
    · simpa using inductionHypothesis _ _ split
    · obtain rfl := Except.ok.inj split
      rfl

/-- The body left after a preview is the body, with its frames and its failure. -/
theorem splitBodyPreview_body (body : Body) (limit : Nat) (preview : List UInt8) (left : Body)
    (split : splitBodyPreview body limit = .ok (preview, left)) : left = body := by
  rw [splitBodyPreview] at split
  split at split
  · exact (Prod.mk.inj (Except.ok.inj split)).2.symm
  · cases looped : splitFrames (min limit usizeMax) body.failure [] [] body.frames with
    | error err => simp [looped, bind, Except.bind] at split
    | ok result =>
      have frames := splitFrames_frames _ _ _ _ _ _ looped
      simp only [looped, bind, Except.bind, pure, Except.pure, Except.ok.injEq,
        Prod.mk.injEq] at split
      rw [← split.2, frames]
      rfl

/-- The names `remove_hop_by_hop_headers` removes. -/
def hopByHopNames : List String :=
  ["connection", "keep-alive", "proxy-authenticate", "proxy-authorization", "te", "trailer",
    "transfer-encoding", "upgrade"]

def removeHopByHopHeaders (headers : HeaderMap) : HeaderMap :=
  hopByHopNames.foldl HeaderMap.remove headers

def headerValue (externals : Externals) (value : String) : Except AttemptError HeaderValue :=
  match externals.http.headerValueFromStr value with
  | .ok value => .ok value
  | .error err => .error (.buildRequest err)

def injectContext (context : TraceContext) (headers : HeaderMap) : HeaderMap :=
  let headers := context.lines.foldl
    (fun (headers : HeaderMap) line => headers.insert line.1 line.2) headers
  if headers.containsKey "traceparent" then headers
  else headers.insert "traceparent" context.generated

/-- The text that is parsed as the target of a request to the upstream. -/
def upstreamTarget (template : RequestTemplate) (upstream : Upstream) : String :=
  upstream.scheme ++ "://" ++ upstream.authority ++ template.uri.pathAndQuery.getD "/"

/-- The headers of a request to the upstream before the trace context is injected. -/
def upstreamHeaders (externals : Externals) (template : RequestTemplate) (requestId : String)
    (authority address : HeaderValue) : HeaderMap :=
  let headers := (removeHopByHopHeaders template.headers).insert "host" authority
  let headers := headers.insert requestIdHeader (requestIdHeaderValue externals requestId)
  let headers :=
    match template.headers.get "host" with
    | some host => headers.insert "x-forwarded-host" host
    | none => headers
  let headers := headers.insert "x-forwarded-for" address
  headers.insert "x-forwarded-proto" (.ofAscii "http")

/-- The request to the upstream before the trace context is injected. -/
def untracedRequest (externals : Externals) (template : RequestTemplate) (body : Body)
    (upstream : Upstream) (requestId : String) (remoteAddr : SocketAddr) :
    Except AttemptError UpstreamRequest := do
  match externals.parseUri (upstreamTarget template upstream) with
  | .error err => .error (.buildRequest err)
  | .ok () =>
      let authority ← headerValue externals upstream.authority
      let address ← headerValue externals (externals.ipText remoteAddr.ip)
      return ⟨template.method, upstreamTarget template upstream, template.version,
        upstreamHeaders externals template requestId authority address, body⟩

def UpstreamRequest.traced (context : TraceContext) (request : UpstreamRequest) :
    UpstreamRequest :=
  { request with headers := injectContext context request.headers }

def buildUpstreamRequest (externals : Externals) (context : TraceContext)
    (template : RequestTemplate) (body : Body) (upstream : Upstream) (requestId : String)
    (remoteAddr : SocketAddr) : Except AttemptError UpstreamRequest :=
  (untracedRequest externals template body upstream requestId remoteAddr).map
    (UpstreamRequest.traced context)

section Headers

variable (externals : Externals) (template : RequestTemplate) (requestId : String)
  (authority address : HeaderValue)

/-- The names under which these headers are: four that are always set, the forwarded host if the
client sent a `Host`, and the client's that are not removed. -/
theorem containsKey_upstreamHeaders (name : String) :
    (upstreamHeaders externals template requestId authority address).containsKey name = true ↔
      name ∈ ["host", requestIdHeader, "x-forwarded-for", "x-forwarded-proto"] ∨
        name = "x-forwarded-host" ∧ template.headers.containsKey "host" = true ∨
        name ∉ hopByHopNames ∧ template.headers.containsKey name = true := by
  have removed : (removeHopByHopHeaders template.headers).containsKey name = true ↔
      name ∉ hopByHopNames ∧ template.headers.containsKey name = true :=
    HeaderMap.containsKey_foldl_remove hopByHopNames template.headers name
  rw [← HeaderMap.isSome_get template.headers "host"]
  simp only [upstreamHeaders, List.mem_cons, List.not_mem_nil, or_false]
  cases template.headers.get "host" with
  | none =>
    simp only [HeaderMap.containsKey_insert, removed, Option.isSome_none, Bool.false_eq_true,
      and_false, false_or, or_assoc, or_left_comm]
  | some host =>
    simp only [HeaderMap.containsKey_insert, removed, Option.isSome_some, and_true, or_assoc,
      or_left_comm]

/-- What is under the names the gateway writes. A template without a `Host` keeps its
`x-forwarded-host`. -/
theorem getAll_upstreamHeaders :
    let headers := upstreamHeaders externals template requestId authority address
    headers.getAll "host" = [authority] ∧
      headers.getAll requestIdHeader = [requestIdHeaderValue externals requestId] ∧
      headers.getAll "x-forwarded-for" = [address] ∧
      headers.getAll "x-forwarded-proto" = [.ofAscii "http"] ∧
      headers.getAll "x-forwarded-host" =
        ((template.headers.get "host").map fun host => [host]).getD
          (template.headers.getAll "x-forwarded-host") := by
  have passed : (removeHopByHopHeaders template.headers).getAll "x-forwarded-host" =
      template.headers.getAll "x-forwarded-host" :=
    HeaderMap.getAll_foldl_remove hopByHopNames template.headers "x-forwarded-host" (by decide)
  cases host : template.headers.get "host" with
  | none => simp [upstreamHeaders, HeaderMap.getAll_insert, requestIdHeader, host, passed]
  | some value => simp [upstreamHeaders, HeaderMap.getAll_insert, requestIdHeader, host]

end Headers

/-- Injecting the trace context touches its two names only. The propagator's lines are all under
them, and so is the line that is generated. -/
theorem getAll_injectContext (context : TraceContext) (headers : HeaderMap) (name : String)
    (apart : name ≠ "traceparent" ∧ name ≠ "tracestate") :
    (injectContext context headers).getAll name = headers.getAll name := by
  have untouched : ∀ line ∈ context.lines, line.1 ≠ name := by
    rintro line member rfl
    rcases context.named line member with parent | state
    · exact apart.1 parent
    · exact apart.2 state
  have propagated := HeaderMap.getAll_foldl_insert context.lines headers name untouched
  simp only [injectContext]
  split
  · exact propagated
  · rw [HeaderMap.getAll_insert, if_neg apart.1, propagated]

/-- After injecting there is always a `traceparent`; every other name is there for a line of the
propagator or because it was there before. -/
theorem containsKey_injectContext (context : TraceContext) (headers : HeaderMap)
    (name : String) :
    (injectContext context headers).containsKey name = true ↔
      (∃ line ∈ context.lines, line.1 = name) ∨ name = "traceparent" ∨
        headers.containsKey name = true := by
  have propagated := HeaderMap.containsKey_foldl_insert context.lines headers
  simp only [injectContext]
  split
  next parent =>
    rw [propagated] at parent ⊢
    constructor
    · exact Or.imp_right Or.inr
    · rintro (set | rfl | kept)
      · exact Or.inl set
      · exact parent
      · exact Or.inr kept
  · rw [HeaderMap.containsKey_insert, propagated, or_left_comm]

/-- When there is a request to send, and what it consists of before the trace context is
injected. -/
theorem untracedRequest_eq_ok (externals : Externals) (template : RequestTemplate)
    (body : Body) (upstream : Upstream) (requestId : String) (remoteAddr : SocketAddr)
    (request : UpstreamRequest) :
    untracedRequest externals template body upstream requestId remoteAddr = .ok request ↔
      externals.parseUri (upstreamTarget template upstream) = .ok () ∧
        ∃ authority address,
          externals.http.headerValueFromStr upstream.authority = .ok authority ∧
          externals.http.headerValueFromStr (externals.ipText remoteAddr.ip) = .ok address ∧
          request = ⟨template.method, upstreamTarget template upstream, template.version,
            upstreamHeaders externals template requestId authority address, body⟩ := by
  simp only [untracedRequest, headerValue]
  cases externals.parseUri (upstreamTarget template upstream) with
  | error err => simp
  | ok parsed =>
    cases externals.http.headerValueFromStr upstream.authority with
    | error err => simp [bind, Except.bind]
    | ok authority =>
      cases externals.http.headerValueFromStr (externals.ipText remoteAddr.ip) with
      | error err => simp [bind, Except.bind]
      | ok address => simp [bind, Except.bind, pure, Except.pure, eq_comm]

/-- A request is built exactly when there is one to trace, and it is that one with the context
of its moment. -/
theorem buildUpstreamRequest_eq_ok (externals : Externals) (context : TraceContext)
    (template : RequestTemplate) (body : Body) (upstream : Upstream) (requestId : String)
    (remoteAddr : SocketAddr) (request : UpstreamRequest) :
    buildUpstreamRequest externals context template body upstream requestId remoteAddr =
        .ok request ↔
      ∃ untraced,
        untracedRequest externals template body upstream requestId remoteAddr = .ok untraced ∧
          request = untraced.traced context := by
  rw [buildUpstreamRequest]
  cases untracedRequest externals template body upstream requestId remoteAddr with
  | error err => simp [Except.map]
  | ok untraced => simp [Except.map, eq_comm]

/-- The result of one or more attempts, and the requests handed to the client. -/
structure Attempted where
  result : Except AttemptError ResponseHead
  sent : List UpstreamRequest

/-- A response as it is returned for an upstream's: the gateway's identifier replaces any that
the upstream gave. -/
def identified (externals : Externals) (requestId : String) (head : ResponseHead) :
    ResponseHead :=
  let headers := head.headers.insert requestIdHeader (requestIdHeaderValue externals requestId)
  { head with headers := headers }

/-- What an attempt that sent its request makes of the answer. -/
def ClientAnswer.settled (externals : Externals) (requestId : String) :
    ClientAnswer → Except AttemptError ResponseHead
  | .timedOut => .error .timeout
  | .failed reason => .error (.transport reason)
  | .response head => .ok (identified externals requestId head)

def requestOnce (externals : Externals) (upstream : Upstream) (template : RequestTemplate)
    (body : Body) (requestId : String) (remoteAddr : SocketAddr) (attempt : Attempt) :
    Attempted :=
  match buildUpstreamRequest externals attempt.context template body upstream requestId
      remoteAddr with
  | .error err => ⟨.error err, []⟩
  | .ok request => ⟨attempt.answer.settled externals requestId, [request]⟩

/-- The loop of `request_with_retries` over the attempts left. -/
def retryLoop (externals : Externals) (upstream : Upstream) (template : RequestTemplate)
    (requestId : String) (remoteAddr : SocketAddr) (attempts : Nat → Attempt) :
    Nat → Nat → Option AttemptError → List UpstreamRequest → Attempted
  | 0, _, lastError, sent => ⟨.error (lastError.getD (.transport "no attempts made")), sent⟩
  | left + 1, attempt, _, sent =>
      let attempted := requestOnce externals upstream template .empty requestId remoteAddr
        (attempts attempt)
      match attempted.result with
      | .ok response => ⟨.ok response, sent ++ attempted.sent⟩
      | .error err =>
          retryLoop externals upstream template requestId remoteAddr attempts left (attempt + 1)
            (some err) (sent ++ attempted.sent)

def u32Max : Nat := 2 ^ 32 - 1

def requestWithRetries (externals : Externals) (route : Route) (upstream : Upstream)
    (template : RequestTemplate) (requestId : String) (remoteAddr : SocketAddr)
    (attempts : Nat → Attempt) : Attempted :=
  retryLoop externals upstream template requestId remoteAddr attempts
    (min (route.retries + 1) u32Max) 0 none []

end TraceGate
