import TraceGate.Gateway

/-!
# The attempts at an upstream

A request that may be retried is sent again, with an empty body, while its attempts time out or
fail, up to the number its route allows. Any other request is sent once, with its own body. A
response ends the attempts, whatever its status.

Whether there is a request to send depends on neither the attempt nor the body. So either no
attempt sends anything and all fail alike, or each attempt made sends one and the same request
with the trace context of its own moment, and they end as the last of them did. Everything that
is said elsewhere of the attempts follows from these two cases.
-/

namespace TraceGate

/-- The response of an answer, if it is one. -/
def ClientAnswer.head : ClientAnswer → Option ResponseHead
  | .response head => some head
  | .timedOut | .failed _ => none

/-- An answer that is no response settles an attempt as failed: a timeout and an error of the
client are the two of this kind. -/
theorem ClientAnswer.settled_of_head_none (externals : Externals) (requestId : String)
    (answer : ClientAnswer) (silent : answer.head = none) :
    ∃ err, answer.settled externals requestId = .error err := by
  cases answer with
  | response head => exact absurd silent (by simp [ClientAnswer.head])
  | timedOut => exact ⟨_, rfl⟩
  | failed reason => exact ⟨_, rfl⟩

/-- An answer that is a response settles an attempt with that response, whatever its status,
under the identifier of the request. -/
theorem ClientAnswer.settled_of_head_some (externals : Externals) (requestId : String)
    (answer : ClientAnswer) (head : ResponseHead) (answered : answer.head = some head) :
    answer.settled externals requestId = .ok (identified externals requestId head) := by
  cases answer with
  | response own =>
    obtain rfl := Option.some.inj answered
    rfl
  | timedOut => exact absurd answered (by simp [ClientAnswer.head])
  | failed reason => exact absurd answered (by simp [ClientAnswer.head])

/-- An attempt that ends with a response got one, and what it ends with is that response under
the identifier of the request. -/
theorem ClientAnswer.response_of_settled (externals : Externals) (requestId : String)
    (answer : ClientAnswer) (response : ResponseHead)
    (settled : answer.settled externals requestId = .ok response) :
    ∃ head, answer = .response head ∧ response = identified externals requestId head := by
  cases answer with
  | response head => exact ⟨head, rfl, (Except.ok.inj settled).symm⟩
  | timedOut => exact absurd settled (by simp [ClientAnswer.settled])
  | failed reason => exact absurd settled (by simp [ClientAnswer.settled])

/-- The attempts up to the one at this turn were made, out of those allowed: all before it
remained without a response, and it was the last one allowed or got a response. -/
structure MadeUntil (answers : Nat → ClientAnswer) (allowed last : Nat) : Prop where
  within : last < allowed
  unanswered : ∀ turn < last, (answers turn).head = none
  stopped : (answers last).head = none → last + 1 = allowed

/-- An attempt without a response comes before those made after it, which saw the answers one
turn later and had one attempt less. -/
theorem MadeUntil.cons {answers : Nat → ClientAnswer} {allowed last : Nat}
    (made : MadeUntil (fun turn => answers (turn + 1)) allowed last)
    (failed : (answers 0).head = none) : MadeUntil answers (allowed + 1) (last + 1) where
  within := Nat.succ_lt_succ made.within
  unanswered
    | 0, _ => failed
    | turn + 1, before => made.unanswered turn (Nat.lt_of_succ_lt_succ before)
  stopped := fun silent => congrArg (· + 1) (made.stopped silent)

section Attempts

variable (externals : Externals) (upstream : Upstream) (template : RequestTemplate)
  (requestId : String) (remoteAddr : SocketAddr)

/-- A request carries the body it was given, and whether there is one to send does not depend on
the body: only the target and two header values can fail. -/
theorem untracedRequest_body (body : Body) :
    untracedRequest externals template body upstream requestId remoteAddr =
      (untracedRequest externals template .empty upstream requestId remoteAddr).map
        fun request => { request with body := body } := by
  simp only [untracedRequest]
  cases externals.parseUri (upstreamTarget template upstream) with
  | error err => rfl
  | ok parsed =>
    cases headerValue externals upstream.authority with
    | error err => rfl
    | ok authority =>
      cases headerValue externals (externals.ipText remoteAddr.ip) with
      | error err => rfl
      | ok address => rfl

/-- An attempt with a request to send hands it to the client under its own trace context, and
ends by the answer. -/
theorem requestOnce_of_built (body : Body) (request : UpstreamRequest)
    (built : untracedRequest externals template body upstream requestId remoteAddr = .ok request)
    (attempt : Attempt) :
    requestOnce externals upstream template body requestId remoteAddr attempt =
      ⟨attempt.answer.settled externals requestId, [request.traced attempt.context]⟩ := by
  simp only [requestOnce, buildUpstreamRequest, built, Except.map]

/-- An attempt without a request to send fails with the reason, and the client is not asked. -/
theorem requestOnce_of_unbuilt (body : Body) (err : AttemptError)
    (unbuilt : untracedRequest externals template body upstream requestId remoteAddr = .error err)
    (attempt : Attempt) :
    requestOnce externals upstream template body requestId remoteAddr attempt =
      ⟨.error err, []⟩ := by
  simp only [requestOnce, buildUpstreamRequest, unbuilt, Except.map]

/-- Without a request to send all attempts fail with the one reason, and nothing is sent.

The error of the attempt before is overwritten, so the induction is over any last error. -/
theorem retryLoop_of_unbuilt (err : AttemptError)
    (unbuilt : untracedRequest externals template .empty upstream requestId remoteAddr =
      .error err)
    (attempts : Nat → Attempt) (left attempt : Nat) (lastError : Option AttemptError)
    (sent : List UpstreamRequest) :
    retryLoop externals upstream template requestId remoteAddr attempts (left + 1) attempt
      lastError sent = ⟨.error err, sent⟩ := by
  induction left generalizing attempt lastError sent with
  | zero =>
    simp only [retryLoop, requestOnce_of_unbuilt externals upstream template requestId remoteAddr
      .empty err unbuilt, List.append_nil, Option.getD_some]
  | succ left inductionHypothesis =>
    rw [retryLoop]
    simp only [requestOnce_of_unbuilt externals upstream template requestId remoteAddr .empty err
      unbuilt, List.append_nil]
    exact inductionHypothesis (attempt + 1) (some err) sent

/-- With a request to send, each attempt sends it under its own trace context until one gets a
response or none is left, and they end as the last one did.

The induction is on the attempts left. An attempt without a response is put in front of those
that the rest of the loop makes. -/
theorem retryLoop_of_built (request : UpstreamRequest)
    (built : untracedRequest externals template .empty upstream requestId remoteAddr =
      .ok request)
    (attempts : Nat → Attempt) (left attempt : Nat) (lastError : Option AttemptError)
    (sent : List UpstreamRequest) :
    ∃ last, MadeUntil (fun turn => (attempts (turn + attempt)).answer) (left + 1) last ∧
      retryLoop externals upstream template requestId remoteAddr attempts (left + 1) attempt
          lastError sent =
        ⟨(attempts (last + attempt)).answer.settled externals requestId,
          sent ++ (List.range (last + 1)).map fun turn =>
            request.traced (attempts (turn + attempt)).context⟩ := by
  induction left generalizing attempt lastError sent with
  | zero =>
    refine ⟨0, ⟨Nat.one_pos, by simp, fun _ => rfl⟩, ?_⟩
    rw [retryLoop, requestOnce_of_built externals upstream template requestId remoteAddr .empty
      request built]
    cases result : (attempts attempt).answer.settled externals requestId with
    | ok response => simp [result]
    | error err => simp [retryLoop, result]
  | succ left inductionHypothesis =>
    rw [retryLoop, requestOnce_of_built externals upstream template requestId remoteAddr .empty
      request built]
    cases answered : (attempts attempt).answer.head with
    | some head =>
      refine ⟨0, ⟨Nat.succ_pos _, by simp, by simp [answered]⟩, ?_⟩
      simp [(attempts attempt).answer.settled_of_head_some externals requestId head answered]
    | none =>
      obtain ⟨err, failed⟩ :=
        (attempts attempt).answer.settled_of_head_none externals requestId answered
      obtain ⟨last, made, ends⟩ := inductionHypothesis (attempt + 1) (some err)
        (sent ++ [request.traced (attempts attempt).context])
      refine ⟨last + 1, MadeUntil.cons ?_ ?_, ?_⟩
      · simpa only [Nat.add_assoc, Nat.add_comm 1 attempt] using made
      · simpa using answered
      · simp only [failed, ends, List.append_assoc, List.singleton_append,
          List.range_succ_eq_map (n := last + 1), List.map_cons, List.map_map, Function.comp_def,
          Nat.succ_eq_add_one, Nat.add_assoc, Nat.add_comm 1 attempt, Nat.zero_add]

end Attempts

namespace Forward

/-- The request to send, before a trace context is injected. -/
def untraced (externals : Externals) (forward : Forward) : Except AttemptError UpstreamRequest :=
  untracedRequest externals forward.template
    (if forward.retryEligible then .empty else forward.body) forward.upstream
    forward.facts.requestId forward.facts.remoteAddr

/-- The number of attempts a request may make. -/
def allowed (forward : Forward) : Nat :=
  if forward.retryEligible then min (forward.route.retries + 1) u32Max else 1

variable (externals : Externals) (forward : Forward) (attempts : Nat → Attempt)

/-- Without a request to send the attempts fail and send nothing.

Whether a request can be built does not depend on the trace context, so no further attempt could
send it either. -/
theorem attempt_of_unbuilt (err : AttemptError)
    (unbuilt : forward.untraced externals = .error err) :
    forward.attempt externals attempts = ⟨.error err, []⟩ := by
  cases eligible : forward.retryEligible with
  | false =>
    simp only [untraced, attempt, eligible, Bool.false_eq_true, if_false] at unbuilt ⊢
    exact requestOnce_of_unbuilt _ _ _ _ _ _ err unbuilt (attempts 0)
  | true =>
    simp only [untraced, attempt, eligible, if_true, requestWithRetries] at unbuilt ⊢
    obtain ⟨left, count⟩ : ∃ left, min (forward.route.retries + 1) u32Max = left + 1 :=
      Nat.exists_eq_succ_of_ne_zero (by simp only [u32Max]; omega)
    rw [count]
    exact retryLoop_of_unbuilt _ _ _ _ _ err unbuilt attempts left 0 none []

/-- With a request to send it is sent until an attempt gets a response or the attempts are used
up, each time under the trace context of that attempt, and the attempts end as the last one
did. -/
theorem attempt_of_built (request : UpstreamRequest)
    (built : forward.untraced externals = .ok request) :
    ∃ last, MadeUntil (fun turn => (attempts turn).answer) forward.allowed last ∧
      forward.attempt externals attempts =
        ⟨(attempts last).answer.settled externals forward.facts.requestId,
          (List.range (last + 1)).map fun turn => request.traced (attempts turn).context⟩ := by
  cases eligible : forward.retryEligible with
  | false =>
    simp only [untraced, attempt, allowed, eligible, Bool.false_eq_true, if_false] at built ⊢
    exact ⟨0, ⟨Nat.one_pos, by simp, fun _ => rfl⟩,
      requestOnce_of_built _ _ _ _ _ _ request built (attempts 0)⟩
  | true =>
    simp only [untraced, attempt, allowed, eligible, if_true, requestWithRetries] at built ⊢
    obtain ⟨left, count⟩ : ∃ left, min (forward.route.retries + 1) u32Max = left + 1 :=
      Nat.exists_eq_succ_of_ne_zero (by simp only [u32Max]; omega)
    rw [count]
    exact retryLoop_of_built _ _ _ _ _ request built attempts left 0 none []

/-- The attempts send something exactly when there is a request to send: the first of them sends
it, whatever comes of it. -/
theorem sent_iff_built :
    (forward.attempt externals attempts).sent ≠ [] ↔
      ∃ request, forward.untraced externals = .ok request := by
  cases built : forward.untraced externals with
  | error err => simp [forward.attempt_of_unbuilt externals attempts err built]
  | ok request =>
    obtain ⟨last, _, ends⟩ := forward.attempt_of_built externals attempts request built
    simp [ends]

/-- Attempts that send nothing have failed: what could be built would have been sent. -/
theorem failed_of_unsent (unsent : (forward.attempt externals attempts).sent = []) :
    ∃ err, (forward.attempt externals attempts).result = .error err := by
  cases built : forward.untraced externals with
  | error err =>
    rw [forward.attempt_of_unbuilt externals attempts err built]
    exact ⟨err, rfl⟩
  | ok request =>
    exact absurd unsent ((forward.sent_iff_built externals attempts).mpr ⟨request, built⟩)

/-- Every request handed to the client is the one there was to send, under the trace context of
one of the attempts. -/
theorem built (sent : UpstreamRequest) (member : sent ∈ (forward.attempt externals attempts).sent) :
    ∃ request turn, forward.untraced externals = .ok request ∧
      sent = request.traced (attempts turn).context := by
  cases built : forward.untraced externals with
  | error err =>
    rw [forward.attempt_of_unbuilt externals attempts err built] at member
    exact absurd member List.not_mem_nil
  | ok request =>
    obtain ⟨last, _, ends⟩ := forward.attempt_of_built externals attempts request built
    rw [ends] at member
    obtain ⟨turn, _, same⟩ := List.mem_map.mp member
    exact ⟨request, turn, rfl, same.symm⟩

/-- Every request handed to the client is for the chosen upstream, with the client's path and
query: the trace context leaves the target alone. -/
theorem uri_of_sent (sent : UpstreamRequest)
    (member : sent ∈ (forward.attempt externals attempts).sent) :
    sent.uri = upstreamTarget forward.template forward.upstream := by
  obtain ⟨request, turn, built, rfl⟩ := forward.built externals attempts sent member
  obtain ⟨_, _, _, _, _, rfl⟩ := (untracedRequest_eq_ok _ _ _ _ _ _ _).mp built
  rfl

/-- A response that the attempts end with is the identified one of an upstream, the answer to
one of them. -/
theorem answered (response : ResponseHead)
    (answered : (forward.attempt externals attempts).result = .ok response) :
    ∃ turn head, (attempts turn).answer = .response head ∧
      response = identified externals forward.facts.requestId head := by
  cases built : forward.untraced externals with
  | error err =>
    rw [forward.attempt_of_unbuilt externals attempts err built] at answered
    exact absurd answered (by simp)
  | ok request =>
    obtain ⟨last, _, ends⟩ := forward.attempt_of_built externals attempts request built
    rw [ends] at answered
    exact ⟨last, ClientAnswer.response_of_settled externals _ _ response answered⟩

end Forward

end TraceGate
