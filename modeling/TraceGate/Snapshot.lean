import TraceGate.Exchange
import TraceGate.PolicyChain
import TraceGate.Reload

/-!
# One snapshot per request

A request loads the gateway's state once, when it arrives, and carries it through
the handler. Reloads replace the active state at any moment in between. The last
thing the handler does, attaching the finalizer to the response, loads the active
state a second time for the redaction of the response's headers.
-/

namespace TraceGate.Snapshot

variable {Component : Type}

/-- Where the handling of the request stands, with the state it carries. -/
inductive Phase (Component : Type) where
  | arriving
  | loaded (snapshot : GatewayState Component)
  | unavailable (snapshot : GatewayState Component) (response : ResponseHead)
  | forwarding (snapshot : GatewayState Component) (forward : Forward)
  | returning (snapshot : GatewayState Component) (handled : Handled)
  | attached (snapshot : GatewayState Component) (handled : Handled) (body : CapturingBody)

/-- The active state with its configuration, and the one request. -/
structure State (Component : Type) where
  active : GatewayState Component
  config : AppConfig
  phase : Phase Component

inductive Event where
  | load
  | prepare
  | finish
  | attach
  | reload (next : AppConfig)

/-- One request, and what happens around its handler. -/
structure Request (Component : Type) where
  externals : Externals
  inbound : InboundRequest
  remoteAddr : SocketAddr
  around : Surroundings Component

namespace Request

/-- The handler up to the choice of an upstream, under a snapshot. -/
def prepared (request : Request Component) (snapshot : GatewayState Component) : Prepared :=
  prepare request.externals snapshot request.inbound request.remoteAddr request.around

/-- The handler after the attempts. -/
def finished (request : Request Component) (forward : Forward) : Handled :=
  forward.finish request.externals request.around.clock
    (forward.attempt request.externals request.around.attempts)
    (forward.captureAfter request.around.polled)

/-- What a snapshot makes of the request. -/
def handled (request : Request Component) (snapshot : GatewayState Component) :
    Except ResponseHead Handled :=
  handle request.externals snapshot request.inbound request.remoteAddr request.around

end Request

def Handled.attach (redaction : RedactionConfig) (handled : Handled) : CapturingBody :=
  attachStorageFinalizer redaction handled.response.headers handled.finalizer

/-- One event of the request or of a reload beside it. The redaction with which a response is
attached is that of the active state, not the snapshot's. -/
def step (wasm : Policy.Wasmtime Component) (request : Request Component)
    (state : State Component) : Event → Option (State Component)
  | .load =>
      match state.phase with
      | .arriving => some { state with phase := .loaded state.active }
      | _ => none
  | .prepare =>
      match state.phase with
      | .loaded snapshot =>
          match request.prepared snapshot with
          | .unavailable response => some { state with phase := .unavailable snapshot response }
          | .exit handled => some { state with phase := .returning snapshot handled }
          | .forward forward => some { state with phase := .forwarding snapshot forward }
      | _ => none
  | .finish =>
      match state.phase with
      | .forwarding snapshot forward =>
          some { state with phase := .returning snapshot (request.finished forward) }
      | _ => none
  | .attach =>
      match state.phase with
      | .returning snapshot handled =>
          some
            { state with
              phase := .attached snapshot handled (Handled.attach state.active.redaction handled) }
      | _ => none
  | .reload next =>
      match reloadGateway wasm state.config next with
      | .error _ => some state
      | .ok built => some { state with active := built, config := next }

def start (config : AppConfig) (built : GatewayState Component) : State Component :=
  ⟨built, config, .arriving⟩

/-- No header of the list is sensitive. -/
def Conceals (redaction : RedactionConfig) (headers : List StoredHeader) : Prop :=
  ∀ stored ∈ headers, redaction.isSensitiveHeader stored.name = false

/-- Whatever is written for the request has no header its snapshot lists as
sensitive. -/
def WritesConceal (sha256 : List UInt8 → String) (redaction : RedactionConfig)
    (body : CapturingBody) : Prop :=
  ∀ requestCapture write, (body.finalize sha256 requestCapture).2 = some write →
    Conceals redaction write.requestHeaders ∧ Conceals redaction write.responseHeaders

/-- All that has been done for the request is what its snapshot alone makes of
it. -/
def FromSnapshot (request : Request Component) (state : State Component) : Prop :=
  match state.phase with
  | .arriving => True
  | .loaded _ => True
  | .unavailable snapshot response => request.handled snapshot = .error response
  | .forwarding snapshot forward => request.prepared snapshot = .forward forward
  | .returning snapshot handled => request.handled snapshot = .ok handled
  | .attached snapshot handled body =>
      request.handled snapshot = .ok handled ∧
        body = Handled.attach snapshot.redaction handled ∧
        WritesConceal request.externals.sha256 snapshot.redaction body

/-- When the finalizer is attached, the active redaction agrees with the snapshot's
on every header of the response. -/
def RedactionAgrees (state : State Component) (event : Event) : Prop :=
  match event, state.phase with
  | .attach, .returning snapshot handled =>
      ∀ line ∈ handled.response.headers,
        state.active.redaction.isSensitiveHeader (Text.toAsciiLowercase line.1) =
          snapshot.redaction.isSensitiveHeader (Text.toAsciiLowercase line.1)
  | _, _ => True

instance (state : State Component) (event : Event) : Decidable (RedactionAgrees state event) := by
  unfold RedactionAgrees
  split <;> infer_instance

/-- What holds whatever is reloaded: the handler itself reads its snapshot only. -/
def Inv (request : Request Component) (state : State Component) : Prop :=
  match state.phase with
  | .arriving => True
  | .loaded _ => True
  | .unavailable snapshot response => request.handled snapshot = .error response
  | .forwarding snapshot forward => request.prepared snapshot = .forward forward
  | .returning snapshot handled => request.handled snapshot = .ok handled
  | .attached snapshot handled _ => request.handled snapshot = .ok handled

/-- The finalizer attached under two redactions is the same exactly when they agree
on the response's headers. -/
theorem attach_eq_iff (handled : Handled) (left right : RedactionConfig) :
    Handled.attach left handled = Handled.attach right handled ↔
      ∀ line ∈ handled.response.headers,
        left.isSensitiveHeader (Text.toAsciiLowercase line.1) =
          right.isSensitiveHeader (Text.toAsciiLowercase line.1) := by
  rw [← storedHeaders_eq_iff]
  simp [Handled.attach, attachStorageFinalizer]

/-- A finalizer attached under the snapshot's redaction writes no header that the
snapshot lists as sensitive. -/
theorem writesConceal_attach (request : Request Component) (snapshot : GatewayState Component)
    (handled : Handled) (returned : request.handled snapshot = .ok handled) :
    WritesConceal request.externals.sha256 snapshot.redaction
      (Handled.attach snapshot.redaction handled) := by
  intro requestCapture write written
  have requestHeaders := requestHeaders_of_handle request.externals snapshot request.inbound
    request.remoteAddr request.around handled returned
  simp only [CapturingBody.finalize, CaptureFinalizer.finalize, Handled.attach,
    attachStorageFinalizer, Bool.false_eq_true, if_false, Option.some.injEq] at written
  subst written
  constructor
  · intro stored member
    simp only [Option.getD_some, requestHeaders] at member
    exact insensitive_of_mem_storedHeaders _ _ stored member
  · intro stored member
    exact insensitive_of_mem_storedHeaders _ _ stored member

/-- Attaching keeps to the snapshot exactly when the two redactions agree on every header of the
response. -/
theorem attach_exact (request : Request Component) (snapshot : GatewayState Component)
    (handled : Handled) (returned : request.handled snapshot = .ok handled)
    (active : RedactionConfig) :
    (request.handled snapshot = .ok handled ∧
        Handled.attach active handled = Handled.attach snapshot.redaction handled ∧
        WritesConceal request.externals.sha256 snapshot.redaction
          (Handled.attach active handled)) ↔
      ∀ line ∈ handled.response.headers,
        active.isSensitiveHeader (Text.toAsciiLowercase line.1) =
          snapshot.redaction.isSensitiveHeader (Text.toAsciiLowercase line.1) := by
  rw [← attach_eq_iff]
  constructor
  · exact fun whole => whole.2.1
  · intro same
    refine ⟨returned, same, ?_⟩
    rw [same]
    exact writesConceal_attach request snapshot handled returned

/-- A step keeps the invariant, and the request is served from its snapshot after it exactly if
it was before and the redactions agree where a response is attached.

Only attaching reads the active state. All other steps read the snapshot that the invariant
remembers, or change nothing of the request. -/
theorem step_exact (wasm : Policy.Wasmtime Component) (request : Request Component)
    (state : State Component) (event : Event) (next : State Component)
    (inv : Inv request state) (taken : step wasm request state event = some next) :
    Inv request next ∧
      (FromSnapshot request next ↔ FromSnapshot request state ∧ RedactionAgrees state event) := by
  cases event with
  | load =>
    cases phase : state.phase with
    | arriving =>
      simp only [step, phase, Option.some.injEq] at taken
      subst taken
      simp [Inv, FromSnapshot, RedactionAgrees, phase]
    | _ => simp [step, phase] at taken
  | prepare =>
    cases phase : state.phase with
    | loaded snapshot =>
      cases prepared : request.prepared snapshot with
      | unavailable response =>
        have refused : request.handled snapshot = .error response := by
          simp only [Request.prepared] at prepared
          simp [Request.handled, handle, prepared]
        simp only [step, phase, prepared, Option.some.injEq] at taken
        subst taken
        simp [Inv, FromSnapshot, RedactionAgrees, phase, refused]
      | exit handled =>
        have returned : request.handled snapshot = .ok handled :=
          (handle_eq_ok _ _ _ _ _ _).mpr (Or.inl prepared)
        simp only [step, phase, prepared, Option.some.injEq] at taken
        subst taken
        simp [Inv, FromSnapshot, RedactionAgrees, phase, returned]
      | forward forward =>
        simp only [step, phase, prepared, Option.some.injEq] at taken
        subst taken
        simp [Inv, FromSnapshot, RedactionAgrees, phase, prepared]
    | _ => simp [step, phase] at taken
  | finish =>
    cases phase : state.phase with
    | forwarding snapshot forward =>
      simp only [Inv, phase] at inv
      have returned : request.handled snapshot = .ok (request.finished forward) :=
        (handle_eq_ok _ _ _ _ _ _).mpr (Or.inr ⟨forward, inv, rfl⟩)
      simp only [step, phase, Option.some.injEq] at taken
      subst taken
      simp [Inv, FromSnapshot, RedactionAgrees, phase, inv, returned]
    | _ => simp [step, phase] at taken
  | attach =>
    cases phase : state.phase with
    | returning snapshot handled =>
      simp only [Inv, phase] at inv
      simp only [step, phase, Option.some.injEq] at taken
      subst taken
      have attached := attach_exact request snapshot handled inv state.active.redaction
      simp only [Inv, FromSnapshot, RedactionAgrees, phase, inv, true_and] at attached ⊢
      exact attached
    | _ => simp [step, phase] at taken
  | reload config =>
    simp only [step] at taken
    cases accepted : reloadGateway wasm state.config config with
    | error reason =>
      simp only [accepted, Option.some.injEq] at taken
      subst taken
      exact ⟨inv, by simp [RedactionAgrees]⟩
    | ok built =>
      simp only [accepted, Option.some.injEq] at taken
      subst taken
      exact ⟨inv, by simp [RedactionAgrees, FromSnapshot]⟩

/-- What is done and recorded for a request is what its snapshot makes of it,
exactly in the runs in which the redaction that is active when the finalizer is
attached agrees with the snapshot's on the response's headers. -/
theorem fromSnapshot_iff_redactionAgrees (wasm : Policy.Wasmtime Component)
    (request : Request Component) (config : AppConfig) (built : GatewayState Component)
    (events : List Event) (final : State Component)
    (completed : Runs.run (step wasm request) (start config built) events = some final) :
    FromSnapshot request final ↔
      Runs.Guarded (step wasm request) RedactionAgrees (start config built) events :=
  Runs.run_keeps_iff_guarded (step wasm request) RedactionAgrees (Inv request)
    (FromSnapshot request) (fun state event next => step_exact wasm request state event next)
    (start config built) final events trivial trivial completed

/-- A configuration that keeps a response header out of the store. -/
def concealingConfig : AppConfig :=
  { bareConfig with routes := [Exchange.uploadRoute], redaction := ⟨["x-session"], []⟩ }

/-- The same without the header. -/
def revealingConfig : AppConfig := { bareConfig with routes := [Exchange.uploadRoute] }

def concealingState : GatewayState Unit :=
  { Exchange.uploadGateway with redaction := ⟨["x-session"], []⟩ }

/-- An upload answered with a session header. -/
def sessionRequest : Request Unit :=
  { externals := Exchange.plainExternals, inbound := Exchange.uploadRequest
    remoteAddr := Exchange.localAddr
    around :=
      { Exchange.uploadAround with
        attempts := fun _ =>
          ⟨Exchange.idleContext, .response ⟨200, [("x-session", .ofAscii "s")]⟩⟩ } }

/-- A reload that leaves the redaction alone does not show in the request. -/
theorem fromSnapshot_of_same_redaction : ∃ final,
    Runs.run (step Policy.permissiveWasm sessionRequest) (start concealingConfig concealingState)
        [.load, .prepare, .reload { concealingConfig with routes := [] }, .finish, .attach] =
      some final ∧
    FromSnapshot sessionRequest final :=
  ⟨_, rfl, (fromSnapshot_iff_redactionAgrees Policy.permissiveWasm sessionRequest
    concealingConfig concealingState
    [.load, .prepare, .reload { concealingConfig with routes := [] }, .finish, .attach] _
    rfl).mpr (by decide)⟩

/-- A reload between arrival and response stores a header that the request's
snapshot lists as sensitive. -/
theorem reload_reveals_header : ∃ final,
    GatewayState.new Policy.permissiveWasm concealingConfig = .ok concealingState ∧
      Runs.run (step Policy.permissiveWasm sessionRequest)
        (start concealingConfig concealingState)
        [.load, .prepare, .reload revealingConfig, .finish, .attach] = some final ∧
      ¬ FromSnapshot sessionRequest final := by
  refine ⟨_, rfl, rfl, fun same => ?_⟩
  have concealed := (same.2.2 .disabled _ rfl).2 ⟨"x-session", "s"⟩ (by decide)
  exact absurd concealed (by decide)

end TraceGate.Snapshot
