import TraceGate.Attempts
import TraceGate.Exchange

/-!
# The body an upstream receives

A request is dispatched in one of two ways: once with its own body, or with an empty
body as often as its route allows. The second way is taken on the headers' word that
there is no body. A client of HTTP/1 has to announce a body in them; one of HTTP/2
does not, and then its bytes reach no upstream.
-/

namespace TraceGate

/-- The bytes an upstream reads from a request. -/
def UpstreamRequest.bytes (request : UpstreamRequest) : List UInt8 :=
  dataBytes request.body.frames

/-- The gateway can build a request for the upstream, whatever its body and trace context. -/
def Buildable (externals : Externals) (upstream : Upstream) (template : RequestTemplate)
    (requestId : String) (remoteAddr : SocketAddr) : Bool :=
  (untracedRequest externals template .empty upstream requestId remoteAddr).isOk

namespace Forward

variable (externals : Externals) (forward : Forward) (attempts : Nat → Attempt)

/-- Something is sent exactly when a request can be built for the upstream: with the request's
own body there is one to send exactly when there is one with an empty body. -/
theorem sent_iff :
    (forward.attempt externals attempts).sent ≠ [] ↔
      Buildable externals forward.upstream forward.template forward.facts.requestId
        forward.facts.remoteAddr = true := by
  rw [sent_iff_built, untraced, untracedRequest_body, Buildable]
  cases untracedRequest externals forward.template .empty forward.upstream
      forward.facts.requestId forward.facts.remoteAddr with
  | error err => simp [Except.map, Except.isOk, Except.toBool]
  | ok request => simp [Except.map, Except.isOk, Except.toBool]

/-- What is sent has an empty body if the request may be retried, and else its own: the trace
context changes headers only. -/
theorem body_of_sent (sent : UpstreamRequest)
    (member : sent ∈ (forward.attempt externals attempts).sent) :
    sent.body = if forward.retryEligible then .empty else forward.body := by
  obtain ⟨request, turn, built, rfl⟩ := forward.built externals attempts sent member
  obtain ⟨_, _, _, _, _, rfl⟩ := (untracedRequest_eq_ok _ _ _ _ _ _ _).mp built
  rfl

end Forward

/-- Every request handed to the client carries the client's bytes exactly when the
body is empty, the headers rule out retries, or no request can be built. -/
theorem forwarded_bytes_iff {Component : Type} (externals : Externals)
    (state : GatewayState Component) (request : InboundRequest) (remoteAddr : SocketAddr)
    (around : Surroundings Component) (forward : Forward)
    (prepared : prepare externals state request remoteAddr around = .forward forward) :
    (∀ sent ∈ (forward.attempt externals around.attempts).sent,
        sent.bytes = dataBytes request.body.frames) ↔
      dataBytes request.body.frames = [] ∨
        retryEligible request.method request.headers = false ∨
        Buildable externals forward.upstream forward.template forward.facts.requestId
          forward.facts.remoteAddr = false := by
  have sameBody := body_of_forward externals state request remoteAddr around forward prepared
  have eligible := (forward_settings externals state request remoteAddr around forward
    prepared).1
  cases retried : retryEligible request.method request.headers with
  | false =>
    simp only [true_or, or_true, iff_true]
    intro sent member
    have carries := forward.body_of_sent externals around.attempts sent member
    rw [eligible, retried] at carries
    rw [UpstreamRequest.bytes, carries, ← sameBody]
    rfl
  | true =>
    have sends := forward.sent_iff externals around.attempts
    have empty : ∀ sent ∈ (forward.attempt externals around.attempts).sent,
        sent.body = .empty := by
      intro sent member
      rw [forward.body_of_sent externals around.attempts sent member, eligible, retried]
      rfl
    simp only [Bool.true_eq_false, false_or]
    constructor
    · intro carried
      cases buildable : Buildable externals forward.upstream forward.template
          forward.facts.requestId forward.facts.remoteAddr with
      | false => exact Or.inr rfl
      | true =>
        obtain ⟨first, member⟩ := List.exists_mem_of_ne_nil _ (sends.mpr buildable)
        left
        rw [← carried first member, UpstreamRequest.bytes, empty first member]
        rfl
    · rintro (nothing | unbuildable) sent member
      · rw [UpstreamRequest.bytes, empty sent member, nothing]
        rfl
      · have buildable := sends.mp (List.ne_nil_of_mem member)
        exact absurd (unbuildable.symm.trans buildable) (by simp)

/-- A POST arrives with its two bytes, in one attempt. -/
theorem forwarded_bytes_upload :
    (Exchange.uploadForward.attempt Exchange.plainExternals
        Exchange.uploadAround.attempts).sent.length = 1 ∧
      ∀ sent ∈ (Exchange.uploadForward.attempt Exchange.plainExternals
        Exchange.uploadAround.attempts).sent,
        sent.bytes = dataBytes Exchange.uploadRequest.body.frames :=
  ⟨rfl, (forwarded_bytes_iff Exchange.plainExternals Exchange.uploadGateway
    Exchange.uploadRequest Exchange.localAddr Exchange.uploadAround Exchange.uploadForward
    Exchange.prepare_upload).mpr (Or.inr (Or.inl (by decide)))⟩

/-- A GET over HTTP/2 with a data frame and no header that announces it. -/
def streamedGet : InboundRequest :=
  { Exchange.uploadRequest with method := "GET", version := .http2, headers := [] }

/-- A GET with a body is retried if need be, so its body is dropped and an empty one is sent. -/
theorem streamed_get_sent_empty : ∃ forward sent,
    prepare Exchange.plainExternals Exchange.uploadGateway streamedGet Exchange.localAddr
        Exchange.uploadAround = .forward forward ∧
      (forward.attempt Exchange.plainExternals Exchange.uploadAround.attempts).sent = [sent] ∧
      sent.bytes = [] ∧ dataBytes streamedGet.body.frames = [1, 2] :=
  ⟨_, _, rfl, rfl, rfl, rfl⟩

end TraceGate
