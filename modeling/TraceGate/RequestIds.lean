import TraceGate.EvaluationRecords
import TraceGate.ForwardedBodies

/-!
# One identifier for each request

The identifier chosen when a request arrives is what the log, the stored record, the
stored plugin decisions and the plugins' input carry, and it is the only `x-request-id`
of the response and of every request sent upstream. Clients, plugins and upstreams may
send values of their own; each place that hands a header map on overwrites them.

Of other crates it is assumed that a text read off a header value is written back as
that value, and that a fresh identifier is such a text. Injecting the trace context leaves
the header alone: it sets `traceparent` and `tracestate`.
-/

namespace TraceGate

/-- What is assumed of the HTTP crate. -/
structure Externals.CarriesIds (externals : Externals) : Prop where
  readsBack : ∀ (value : HeaderValue) (text : String), value.toStr = some text →
    externals.http.headerValueFromStr text = .ok value

/-- The text can be a header's value. -/
def HeaderText (text : String) : Prop := ∃ value : HeaderValue, value.toStr = some text

/-- The map has one `x-request-id`, and it is this one. -/
def CarriesId (requestId : String) (headers : HeaderMap) : Prop :=
  ∃ value : HeaderValue, headers.getAll requestIdHeader = [value] ∧ value.toStr = some requestId

/-! ## Where the identifier is written -/

section Written

variable {externals : Externals} (carries : externals.CarriesIds)

/-- The chosen identifier is the client's, read off a header value, or the fresh one.

Both are texts that a header can carry. -/
theorem headerText_requestIdFromHeaders (externals : Externals) (fresh : String)
    (headers : HeaderMap) (freshText : HeaderText fresh) :
    HeaderText (requestIdFromHeaders externals fresh headers) := by
  unfold requestIdFromHeaders
  split
  next text found =>
    obtain ⟨value, _, read⟩ := Option.bind_eq_some_iff.mp found
    split
    · exact ⟨value, read⟩
    · exact freshText
  · exact freshText

include carries in
/-- Writing the identifier into a map replaces every other value. -/
theorem carriesId_insert (requestId : String) (text : HeaderText requestId)
    (headers : HeaderMap) :
    CarriesId requestId
      (headers.insert requestIdHeader (requestIdHeaderValue externals requestId)) := by
  obtain ⟨value, read⟩ := text
  refine ⟨value, ?_, read⟩
  rw [HeaderMap.getAll_insert, if_pos rfl, requestIdHeaderValue, carries.readsBack value _ read]

include carries in
/-- A response of the gateway's own carries the identifier. -/
theorem carriesId_responseWithRequestId (status : Nat) (requestId : String)
    (text : HeaderText requestId) :
    CarriesId requestId (responseWithRequestId externals status requestId).headers :=
  carriesId_insert carries requestId text []

include carries in
/-- What is handed to the client carries the identifier, whatever the template had. The trace
context is injected last, but under other names. -/
theorem carriesId_of_sent (forward : Forward) (attempts : Nat → Attempt)
    (text : HeaderText forward.facts.requestId) (sent : UpstreamRequest)
    (member : sent ∈ (forward.attempt externals attempts).sent) :
    CarriesId forward.facts.requestId sent.headers := by
  obtain ⟨request, turn, built, rfl⟩ := forward.built externals attempts sent member
  obtain ⟨_, authority, address, _, _, rfl⟩ := (untracedRequest_eq_ok _ _ _ _ _ _ _).mp built
  obtain ⟨value, read⟩ := text
  obtain ⟨_, written, _⟩ := getAll_upstreamHeaders externals forward.template
    forward.facts.requestId authority address
  have untouched := getAll_injectContext (attempts turn).context
    (upstreamHeaders externals forward.template forward.facts.requestId authority address)
    requestIdHeader (by decide)
  refine ⟨value, untouched.trans (written.trans ?_), read⟩
  rw [requestIdHeaderValue, carries.readsBack value _ read]

include carries in
/-- Whatever the attempts end with, the response carries the identifier: that of an upstream has
it written over its own, and the gateway's own responses are built with it. -/
theorem carriesId_finish (forward : Forward) (clock : Clock) (attempts : Nat → Attempt)
    (requestCapture : CaptureBuffer) (text : HeaderText forward.facts.requestId) :
    CarriesId forward.facts.requestId
      (forward.finish externals clock (forward.attempt externals attempts)
        requestCapture).response.headers := by
  change CarriesId forward.facts.requestId
    (forward.respond externals (forward.attempt externals attempts).result).1.headers
  cases result : (forward.attempt externals attempts).result with
  | error err =>
    cases err with
    | timeout => exact carriesId_responseWithRequestId carries 504 _ text
    | transport reason => exact carriesId_responseWithRequestId carries 502 _ text
    | buildRequest reason => exact carriesId_responseWithRequestId carries 502 _ text
  | ok response =>
    obtain ⟨turn, head, _, rfl⟩ := forward.answered externals attempts response result
    exact carriesId_insert carries _ text head.headers

end Written

/-! ## What plugins are given -/

variable {Component : Type}

/-- The calls that handling a request makes. -/
def pluginCalls (externals : Externals) (state : GatewayState Component)
    (request : InboundRequest) (remoteAddr : SocketAddr) (around : Surroundings Component) :
    List (Policy.Invocation Component) :=
  match routeFor state request with
  | none => []
  | some route =>
      match state.runtimeFor route with
      | none => []
      | some _ =>
          if !around.admitted then []
          else
            match previewFor state route request.body with
            | .error _ => []
            | .ok (bodyPreview, _) =>
                (progressFor externals state request remoteAddr around route
                  bodyPreview).invocations

/-- The calls are those of the evaluation by which a request with its route, permit and preview
is denied or forwarded; on every other way through `prepare` there is none. -/
theorem mem_pluginCalls_iff (externals : Externals) (state : GatewayState Component)
    (request : InboundRequest) (remoteAddr : SocketAddr) (around : Surroundings Component)
    (call : Policy.Invocation Component) :
    call ∈ pluginCalls externals state request remoteAddr around ↔
      ∃ route bodyPreview body, Previewed state request around route bodyPreview body ∧
        call ∈ (progressFor externals state request remoteAddr around route
          bodyPreview).invocations := by
  constructor
  · intro member
    unfold pluginCalls at member
    split at member
    · exact absurd member List.not_mem_nil
    next route matched =>
      split at member
      · exact absurd member List.not_mem_nil
      next runtime found =>
        split at member
        · exact absurd member List.not_mem_nil
        next admitted =>
          split at member
          · exact absurd member List.not_mem_nil
          next bodyPreview body preview =>
            exact ⟨route, bodyPreview, body,
              ⟨matched, by rw [found]; rfl, by simpa using admitted, preview⟩, member⟩
  · rintro ⟨route, bodyPreview, body, previewed, member⟩
    obtain ⟨runtime, found⟩ := Option.isSome_iff_exists.mp previewed.runtime
    simpa only [pluginCalls, previewed.matched, found, previewed.admitted, previewed.preview,
      Bool.not_true, Bool.false_eq_true, if_false] using member

/-- Every plugin is called with the chosen identifier in its input. -/
theorem requestId_pluginCalls (externals : Externals) (state : GatewayState Component)
    (request : InboundRequest) (remoteAddr : SocketAddr) (around : Surroundings Component) :
    ∀ call ∈ pluginCalls externals state request remoteAddr around,
      call.input.requestId =
        requestIdFromHeaders externals around.freshRequestId request.headers := by
  intro call member
  obtain ⟨route, bodyPreview, _, _, made⟩ :=
    (mem_pluginCalls_iff externals state request remoteAddr around call).mp member
  rw [(Policy.mem_invocations _ _ _ call made).2]
  rfl

/-! ## What is stored -/

/-- The record and the decisions of a write are for this request. -/
def CaptureWrite.HoldsId (requestId : String) (write : CaptureWrite) : Prop :=
  write.record.requestId = requestId ∧
    ∀ decision ∈ write.pluginDecisions, decision.requestId = requestId

/-- Every write of a response is for the request whose record and decisions were attached
to it. -/
theorem holdsId_writes (requestId : String) (sha256 : List UInt8 → String)
    (redaction : RedactionConfig) (headers : HeaderMap) (input : StorageFinalizerInput)
    (polls : List (CaptureBuffer × Poll)) (requestCapture : CaptureBuffer)
    (record : input.record.requestId = requestId)
    (decisions : ∀ decision ∈ input.pluginDecisions, decision.requestId = requestId) :
    ∀ write ∈ (attachStorageFinalizer redaction headers input).writes sha256 polls requestCapture,
      write.HoldsId requestId := by
  obtain ⟨write, written, sameRecord, _, sameDecisions⟩ :=
    exists_write_attach sha256 redaction headers input polls requestCapture
  intro other member
  rw [written] at member
  obtain rfl := List.mem_singleton.mp member
  exact ⟨sameRecord ▸ record, sameDecisions ▸ decisions⟩

/-! ## Every exit -/

/-- The response, the log, the requests sent and every write carry the identifier. -/
structure Handled.CarriesId (externals : Externals) (requestId : String) (handled : Handled) :
    Prop where
  response : TraceGate.CarriesId requestId handled.response.headers
  log : handled.log.requestId = requestId
  sent : ∀ sent ∈ handled.sent, TraceGate.CarriesId requestId sent.headers
  stored : ∀ redaction polls requestCapture,
    ∀ write ∈ (attachStorageFinalizer redaction handled.response.headers
      handled.finalizer).writes externals.sha256 polls requestCapture, write.HoldsId requestId

/-- A request that the gateway answers itself carries the identifier everywhere: in the
response, in the log and in whatever its finalizer writes. Nothing is sent for it. -/
theorem LocalExit.carriesId {externals : Externals} (carries : externals.CarriesIds)
    (facts : RequestFacts) (clock : Clock) (pluginMetrics : List Policy.PolicyDecisionRecord)
    (exit : LocalExit) (text : HeaderText facts.requestId) :
    (exit.handled externals facts clock pluginMetrics).CarriesId externals facts.requestId where
  response := carriesId_responseWithRequestId carries exit.status facts.requestId text
  log := rfl
  sent := by simp [LocalExit.handled]
  stored := fun redaction polls requestCapture =>
    holdsId_writes facts.requestId externals.sha256 redaction _ _ polls requestCapture rfl
      (requestId_pluginDecisionInserts facts.requestId exit.records clock.decisionNowMs)

/-- A forwarded request carries the identifier everywhere: in the response, in the log, in every
attempt that was sent and in whatever its finalizer writes. -/
theorem Forward.carriesId {externals : Externals} (carries : externals.CarriesIds)
    (forward : Forward) (clock : Clock) (attempts : Nat → Attempt)
    (requestCapture : CaptureBuffer) (text : HeaderText forward.facts.requestId) :
    (forward.finish externals clock (forward.attempt externals attempts)
      requestCapture).CarriesId externals forward.facts.requestId where
  response := carriesId_finish carries forward clock attempts requestCapture text
  log := rfl
  sent := carriesId_of_sent carries forward attempts text
  stored := fun redaction polls requestCapture =>
    holdsId_writes forward.facts.requestId externals.sha256 redaction _ _ polls requestCapture rfl
      (requestId_pluginDecisionInserts forward.facts.requestId forward.records
        clock.decisionNowMs)

/-- A request for a route without a runtime is answered with 503 under the chosen identifier. -/
theorem unavailable_inv (externals : Externals) (state : GatewayState Component)
    (request : InboundRequest) (remoteAddr : SocketAddr) (around : Surroundings Component)
    (response : ResponseHead)
    (prepared : prepare externals state request remoteAddr around = .unavailable response) :
    response = responseWithRequestId externals 503
      (requestIdFromHeaders externals around.freshRequestId request.headers) := by
  have way := prepare_cases externals state request remoteAddr around
  rw [prepared] at way
  cases way with
  | unavailable => rfl

/-- Whatever a client, a plugin or an upstream sends, every exit carries the chosen
identifier everywhere, and so does the input of every plugin. -/
theorem one_request_id (externals : Externals) (carries : externals.CarriesIds)
    (state : GatewayState Component) (request : InboundRequest) (remoteAddr : SocketAddr)
    (around : Surroundings Component) (fresh : HeaderText around.freshRequestId) :
    (∀ response, handle externals state request remoteAddr around = .error response →
        CarriesId (requestIdFromHeaders externals around.freshRequestId request.headers)
          response.headers) ∧
      (∀ handled, handle externals state request remoteAddr around = .ok handled →
        handled.CarriesId externals
          (requestIdFromHeaders externals around.freshRequestId request.headers)) ∧
      ∀ call ∈ pluginCalls externals state request remoteAddr around,
        call.input.requestId =
          requestIdFromHeaders externals around.freshRequestId request.headers := by
  have text := headerText_requestIdFromHeaders externals around.freshRequestId request.headers
    fresh
  refine ⟨?_, ?_, requestId_pluginCalls externals state request remoteAddr around⟩
  · intro response returned
    unfold handle at returned
    split at returned
    next own prepared =>
      obtain rfl := Except.error.inj returned
      rw [unavailable_inv externals state request remoteAddr around own prepared]
      exact carriesId_responseWithRequestId carries 503 _ text
    · exact absurd returned (by simp)
    · exact absurd returned (by simp)
  · intro handled returned
    rcases (handle_eq_ok externals state request remoteAddr around handled).mp returned with
      prepared | ⟨forward, prepared, rfl⟩
    · obtain ⟨pluginMetrics, own, rfl⟩ :=
        exit_inv externals state request remoteAddr around handled prepared
      exact own.carriesId carries (requestFacts externals state.redaction around.freshRequestId
        request remoteAddr) around.clock pluginMetrics text
    · have facts := (forward_inv externals state request remoteAddr around forward prepared).1
      have same : forward.facts.requestId =
          requestIdFromHeaders externals around.freshRequestId request.headers :=
        congrArg RequestFacts.requestId facts
      rw [← same] at text ⊢
      exact forward.carriesId carries around.clock around.attempts _ text

/-- Writing a text that was read off a value gives the value.

Only values of visible characters, blanks and tabs are read as a text, one character a byte. -/
theorem ofAscii_of_toStr (value : HeaderValue) (text : String)
    (read : value.toStr = some text) : HeaderValue.ofAscii text = value := by
  unfold HeaderValue.toStr at read
  split at read
  · obtain rfl := Option.some.inj read
    have byte : ∀ byte : UInt8, UInt8.ofNat (Char.ofNat byte.toNat).toNat = byte := by
      intro byte
      have small : byte.toNat < 256 := byte.toNat_lt
      have valid : byte.toNat.isValidChar := Or.inl (by omega)
      have char : Char.ofNat byte.toNat = Char.ofNatAux byte.toNat valid := dif_pos valid
      rw [char]
      exact UInt8.ofNat_toNat
    simp [HeaderValue.ofAscii, Function.comp_def, byte]
  · exact absurd read (by simp)

/-- The sample externals read header values back. -/
theorem plainExternals_carriesIds : Exchange.plainExternals.CarriesIds where
  readsBack := fun value text read => congrArg Except.ok (ofAscii_of_toStr value text read)

/-- A client that sends two identifiers, neither of them usable. -/
def twoIds : InboundRequest :=
  { Exchange.uploadRequest with
    headers := [("x-request-id", .ofAscii "mine"), ("x-request-id", .ofAscii "other")] }

/-- An upstream that answers with one of its own. -/
def answeringId : Surroundings Unit :=
  { Exchange.uploadAround with
    attempts := fun _ =>
      ⟨Exchange.idleContext, .response ⟨200, [("x-request-id", .ofAscii "theirs")]⟩⟩ }

/-- Neither of the client's identifiers is usable, so the fresh one is carried, and the
upstream's own is overwritten. -/
theorem one_request_id_overwrites : ∃ handled,
    handle Exchange.plainExternals Exchange.uploadGateway twoIds Exchange.localAddr answeringId =
        .ok handled ∧
      handled.CarriesId Exchange.plainExternals "r" :=
  ⟨_, rfl, (one_request_id Exchange.plainExternals plainExternals_carriesIds
    Exchange.uploadGateway twoIds Exchange.localAddr answeringId
    ⟨.ofAscii "r", rfl⟩).2.1 _ rfl⟩

end TraceGate
