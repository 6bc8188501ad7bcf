import Mathlib.Data.Finset.Prod
import Mathlib.Data.Set.Card
import TraceGate.Authority
import TraceGate.Families
import TraceGate.ForwardedBodies
import TraceGate.PolicyChain
import TraceGate.Reload

/-!
# Labels of the request metrics

Every handled request is counted under its route, its method and its status, in three
families. Routes come from the configuration and statuses have three digits, but the
method is the client's own token. So the number of label sets is bounded exactly when
the methods that clients send are taken from a finite set, and then by the product of
the three numbers.

Status codes of responses are those of the HTTP crate, from 100 to 999. Latencies are
kept as observed instead of in buckets.
-/

namespace TraceGate

structure RequestLabels where
  routeId : String
  method : String
  status : String
deriving DecidableEq

structure UpstreamErrorLabels where
  routeId : String
  method : String
  status : String
deriving DecidableEq

/-- The families `record_request` writes to. -/
structure Telemetry where
  requests : Family RequestLabels Nat
  requestDuration : Family RequestLabels (List Duration)
  upstreamErrors : Family UpstreamErrorLabels Nat

namespace Telemetry

def new : Telemetry := ⟨.empty, .empty, .empty⟩

/-- The labels of a request. -/
def labelsOf (metric : RequestMetric) : RequestLabels :=
  ⟨metric.routeId.getD "none", metric.method, toString metric.status⟩

def recordRequest (telemetry : Telemetry) (metric : RequestMetric) : Telemetry :=
  let labels := labelsOf metric
  { requests := telemetry.requests.update labels 0 (· + 1)
    requestDuration := telemetry.requestDuration.update labels [] (· ++ [metric.latency])
    upstreamErrors :=
      if metric.upstreamError then
        telemetry.upstreamErrors.update ⟨labels.routeId, labels.method, labels.status⟩ 0 (· + 1)
      else telemetry.upstreamErrors }

/-- No family has more label sets than this. -/
def AtMost (telemetry : Telemetry) (bound : Nat) : Prop :=
  telemetry.requests.size ≤ bound ∧ telemetry.requestDuration.size ≤ bound ∧
    telemetry.upstreamErrors.size ≤ bound

/-- A larger bound holds as well. -/
theorem AtMost.mono {telemetry : Telemetry} {bound larger : Nat} (atMost : telemetry.AtMost bound)
    (below : bound ≤ larger) : telemetry.AtMost larger :=
  ⟨atMost.1.trans below, atMost.2.1.trans below, atMost.2.2.trans below⟩

/-- The labels of every family satisfy a condition on routes, methods and statuses. -/
structure Within (allowed : String → String → String → Prop) (telemetry : Telemetry) : Prop where
  requests : ∀ labels ∈ telemetry.requests.labels,
    allowed labels.routeId labels.method labels.status
  requestDuration : ∀ labels ∈ telemetry.requestDuration.labels,
    allowed labels.routeId labels.method labels.status
  upstreamErrors : ∀ labels ∈ telemetry.upstreamErrors.labels,
    allowed labels.routeId labels.method labels.status

/-- Recording a request with allowed labels keeps them allowed.

Each of the three families gains at most the labels of the request. -/
theorem Within.recordRequest {allowed : String → String → String → Prop} {telemetry : Telemetry}
    (within : telemetry.Within allowed) (metric : RequestMetric)
    (own : allowed (labelsOf metric).routeId (labelsOf metric).method (labelsOf metric).status) :
    (telemetry.recordRequest metric).Within allowed where
  requests := by
    intro labels member
    rcases (Family.mem_labels_update _ _ _ _ _).mp member with rfl | earlier
    · exact own
    · exact within.requests labels earlier
  requestDuration := by
    intro labels member
    rcases (Family.mem_labels_update _ _ _ _ _).mp member with rfl | earlier
    · exact own
    · exact within.requestDuration labels earlier
  upstreamErrors := by
    intro labels member
    simp only [Telemetry.recordRequest] at member
    split at member
    · rcases (Family.mem_labels_update _ _ _ _ _).mp member with rfl | earlier
      · exact own
      · exact within.upstreamErrors labels earlier
    · exact within.upstreamErrors labels member

/-- Labels from finite sets of routes, methods and statuses bound every family.

The label sets of a family are distinct and lie in the product of the three. -/
theorem Within.atMost {telemetry : Telemetry} (routes methods statuses : Finset String)
    (within : telemetry.Within fun routeId method status =>
      routeId ∈ routes ∧ method ∈ methods ∧ status ∈ statuses) :
    telemetry.AtMost (routes.card * (methods.card * statuses.card)) := by
  rw [← Finset.card_product, ← Finset.card_product]
  have parts : ∀ routeId method status,
      routeId ∈ routes ∧ method ∈ methods ∧ status ∈ statuses →
        (routeId, method, status) ∈ routes ×ˢ methods ×ˢ statuses := by
    simp
  refine ⟨?_, ?_, ?_⟩
  · refine telemetry.requests.size_le_card
      (fun labels => (labels.routeId, labels.method, labels.status)) ?_ _
      fun labels member => parts _ _ _ (within.requests labels member)
    rintro ⟨_, _, _⟩ ⟨_, _, _⟩ ⟨⟩
    rfl
  · refine telemetry.requestDuration.size_le_card
      (fun labels => (labels.routeId, labels.method, labels.status)) ?_ _
      fun labels member => parts _ _ _ (within.requestDuration labels member)
    rintro ⟨_, _, _⟩ ⟨_, _, _⟩ ⟨⟩
    rfl
  · refine telemetry.upstreamErrors.size_le_card
      (fun labels => (labels.routeId, labels.method, labels.status)) ?_ _
      fun labels member => parts _ _ _ (within.upstreamErrors labels member)
    rintro ⟨_, _, _⟩ ⟨_, _, _⟩ ⟨⟩
    rfl

end Telemetry

/-! ## Runs of requests -/

variable {Component : Type}

/-- A request with its client and what happens around its handling. -/
structure Arrival (Component : Type) where
  request : InboundRequest
  remoteAddr : SocketAddr
  around : Surroundings Component

/-- Upstreams answer with status codes of three digits. -/
def Arrival.ThreeDigits (arrival : Arrival Component) : Prop :=
  ∀ turn head, arrival.around.answers turn = .response head →
    100 ≤ head.status ∧ head.status ≤ 999

def Telemetry.serve (externals : Externals) (state : GatewayState Component)
    (telemetry : Telemetry) (arrival : Arrival Component) : Telemetry :=
  match handle externals state arrival.request arrival.remoteAddr arrival.around with
  | .error _ => telemetry
  | .ok handled => telemetry.recordRequest handled.metric

/-- The metrics after a run of requests. -/
def Telemetry.served (externals : Externals) (state : GatewayState Component)
    (arrivals : List (Arrival Component)) : Telemetry :=
  arrivals.foldl (Telemetry.serve externals state) .new

/-- The statuses of three digits, as labels. -/
def statusLabels : Finset String := (Finset.range 900).image fun offset => toString (100 + offset)

/-- There are at most nine hundred status labels. -/
theorem card_statusLabels_le : statusLabels.card ≤ 900 :=
  Finset.card_image_le.trans (Finset.card_range 900).le

/-- A status of three digits has its label among them. -/
theorem mem_statusLabels (status : Nat) (atLeast : 100 ≤ status) (atMost : status ≤ 999) :
    toString status ∈ statusLabels := by
  refine Finset.mem_image.mpr ⟨status - 100, Finset.mem_range.mpr (by omega), ?_⟩
  rw [Nat.add_sub_cancel' atLeast]

/-- A denial has a status of three digits: one out of range is replaced by 403. -/
theorem statusFromDeny_threeDigits (deny : Policy.PolicyDeny) :
    100 ≤ Policy.statusFromDeny deny ∧ Policy.statusFromDeny deny ≤ 999 := by
  unfold Policy.statusFromDeny
  split
  next inRange => exact inRange
  · omega

/-- The status of a forwarded request is the upstream's or the gateway's own. -/
theorem Forward.status_threeDigits (externals : Externals) (forward : Forward) (clock : Clock)
    (attempts : Nat → Attempt) (requestCapture : CaptureBuffer)
    (threeDigits : ∀ turn head, (attempts turn).answer = .response head →
      100 ≤ head.status ∧ head.status ≤ 999) :
    100 ≤ (forward.finish externals clock (forward.attempt externals attempts)
        requestCapture).metric.status ∧
      (forward.finish externals clock (forward.attempt externals attempts)
        requestCapture).metric.status ≤ 999 := by
  change 100 ≤ (forward.respond externals (forward.attempt externals attempts).result).1.status ∧
    (forward.respond externals (forward.attempt externals attempts).result).1.status ≤ 999
  cases result : (forward.attempt externals attempts).result with
  | ok response =>
    obtain ⟨turn, head, answered, rfl⟩ := forward.answered externals attempts response result
    exact threeDigits turn head answered
  | error err =>
    cases err <;> simp [Forward.respond, responseWithRequestId]

/-- Where the labels of a handled request come from: the route found for it, its own method, and
a status of three digits.

The ways out of `handle` are gone through one by one. -/
theorem metric_of_handle (externals : Externals) (state : GatewayState Component)
    (arrival : Arrival Component) (handled : Handled)
    (returned : handle externals state arrival.request arrival.remoteAddr arrival.around =
      .ok handled) :
    handled.metric.routeId = (routeFor state arrival.request).map Route.id ∧
      handled.metric.method = arrival.request.method ∧
      (arrival.ThreeDigits → 100 ≤ handled.metric.status ∧ handled.metric.status ≤ 999) := by
  have selected := prepare_selectedRoute externals state ⟨none, arrival.request⟩
    arrival.remoteAddr arrival.around
  rcases (handle_eq_ok externals state arrival.request arrival.remoteAddr arrival.around
    handled).mp returned with prepared | ⟨forward, prepared, rfl⟩
  · rw [prepared] at selected
    refine ⟨selected.2.1, ?_⟩
    have way := prepare_cases externals state arrival.request arrival.remoteAddr arrival.around
    rw [prepared] at way
    cases way with
    | noRoute => exact ⟨rfl, fun _ => (by decide : 100 ≤ 404 ∧ 404 ≤ 999)⟩
    | previewFailed => exact ⟨rfl, fun _ => (by decide : 100 ≤ 403 ∧ 403 ≤ 999)⟩
    | limited | unhealthy => exact ⟨rfl, fun _ => (by decide : 100 ≤ 503 ∧ 503 ≤ 999)⟩
    | denied route bodyPreview body deny previewed denied =>
      exact ⟨rfl, fun _ => statusFromDeny_threeDigits deny⟩
  · rw [prepared] at selected
    have facts := (forward_inv externals state arrival.request arrival.remoteAddr arrival.around
      forward prepared).1
    refine ⟨?_, congrArg RequestFacts.method facts, forward.status_threeDigits externals _ _ _⟩
    have matched : routeFor state arrival.request = some forward.route := selected
    rw [matched]
    rfl

/-- The labels a gateway can use for methods of a finite set.

By induction on the arrivals, each of which is counted with labels from the three sets or not at
all. -/
theorem within_served (externals : Externals) (state : GatewayState Component)
    (methods : Finset String) (arrivals : List (Arrival Component)) (telemetry : Telemetry)
    (allowed : ∀ arrival ∈ arrivals, arrival.ThreeDigits ∧ arrival.request.method ∈ methods)
    (within : telemetry.Within fun routeId method status =>
      routeId ∈ ("none" :: state.router.map Route.id).toFinset ∧ method ∈ methods ∧
        status ∈ statusLabels) :
    (arrivals.foldl (Telemetry.serve externals state) telemetry).Within
      fun routeId method status =>
        routeId ∈ ("none" :: state.router.map Route.id).toFinset ∧ method ∈ methods ∧
          status ∈ statusLabels := by
  induction arrivals generalizing telemetry with
  | nil => exact within
  | cons arrival rest inductionHypothesis =>
    obtain ⟨⟨threeDigits, known⟩, others⟩ := List.forall_mem_cons.mp allowed
    refine inductionHypothesis _ others ?_
    unfold Telemetry.serve
    split
    · exact within
    next handled returned =>
      obtain ⟨route, method, status⟩ := metric_of_handle externals state arrival handled returned
      refine within.recordRequest handled.metric ⟨?_, ?_, ?_⟩
      · rw [Telemetry.labelsOf, route, List.mem_toFinset]
        cases matched : routeFor state arrival.request with
        | none => exact List.mem_cons_self
        | some chosen =>
          have member : chosen ∈ state.router := matchRoute_mem _ _ _ chosen matched
          exact List.mem_cons_of_mem _ (List.mem_map_of_mem member)
      · rw [Telemetry.labelsOf, method]
        exact known
      · obtain ⟨atLeast, atMost⟩ := status threeDigits
        exact mem_statusLabels handled.metric.status atLeast atMost

/-- Labels are never dropped, so every handled request of a run has its labels.

By induction on the arrivals, each of which keeps the labels there are. -/
theorem mem_labels_served (externals : Externals) (state : GatewayState Component)
    (arrivals : List (Arrival Component)) (telemetry : Telemetry) (labels : RequestLabels)
    (recorded : labels ∈ telemetry.requests.labels ∨
      ∃ arrival ∈ arrivals, ∃ handled,
        handle externals state arrival.request arrival.remoteAddr arrival.around =
            .ok handled ∧ Telemetry.labelsOf handled.metric = labels) :
    labels ∈ (arrivals.foldl (Telemetry.serve externals state) telemetry).requests.labels := by
  induction arrivals generalizing telemetry with
  | nil => simpa using recorded
  | cons arrival rest inductionHypothesis =>
    rw [List.foldl_cons]
    apply inductionHypothesis
    have kept : labels ∈ telemetry.requests.labels →
        labels ∈ (telemetry.serve externals state arrival).requests.labels := by
      intro earlier
      unfold Telemetry.serve
      split
      · exact earlier
      · exact (Family.mem_labels_update _ _ _ _ _).mpr (Or.inr earlier)
    rcases recorded with earlier | ⟨recording, member, handled, returned, same⟩
    · exact Or.inl (kept earlier)
    · rcases List.mem_cons.mp member with rfl | later
      · left
        unfold Telemetry.serve
        rw [returned]
        exact (Family.mem_labels_update _ _ _ _ _).mpr (Or.inl same.symm)
      · exact Or.inr ⟨recording, later, handled, returned, same⟩

/-- In every run of requests with these methods the families stay within the bound. -/
def LabelSetsBounded (externals : Externals) (state : GatewayState Component)
    (methods : Set String) (bound : Nat) : Prop :=
  ∀ arrivals : List (Arrival Component),
    (∀ arrival ∈ arrivals, arrival.ThreeDigits ∧ arrival.request.method ∈ methods) →
      (Telemetry.served externals state arrivals).AtMost bound

/-- A request with nothing but a method, which finds no permit. -/
def bareArrival (method : String) : Arrival Component :=
  { request := ⟨method, ⟨"/", none, some "/"⟩, .http11, [], .empty⟩
    remoteAddr := Exchange.localAddr
    around :=
      { freshRequestId := "r", admitted := false, outcomes := fun _ _ _ => .timedOut
        selected := none, attempts := fun _ => ⟨Exchange.idleContext, .timedOut⟩, polled := []
        clock := Exchange.stoppedClock } }

/-- A run of bare requests has a label set for each of their methods. -/
theorem card_le_size_of_bareArrivals (wasm : Policy.Wasmtime Component) (config : AppConfig)
    (externals : Externals) (state : GatewayState Component)
    (built : GatewayState.new wasm config = .ok state) (methods : Finset String) :
    methods.card ≤ (Telemetry.served externals state
      (methods.toList.map bareArrival)).requests.size := by
  apply Family.card_le_size _ RequestLabels.method
  intro method member
  obtain ⟨handled, returned⟩ := exists_handled wasm config externals state
    (bareArrival method : Arrival Component).request Exchange.localAddr
    (bareArrival method).around built
  refine ⟨Telemetry.labelsOf handled.metric, ?_,
    (metric_of_handle externals state (bareArrival method) handled returned).2.1⟩
  refine mem_labels_served externals state _ .new _ (Or.inr ⟨bareArrival method, ?_, handled,
    returned, rfl⟩)
  exact List.mem_map_of_mem (Finset.mem_toList.mpr member)

/-- Without a bound on the methods there is none on the label sets: more methods than the bound
are enough. -/
theorem not_bounded_of_infinite (wasm : Policy.Wasmtime Component) (config : AppConfig)
    (externals : Externals) (state : GatewayState Component)
    (built : GatewayState.new wasm config = .ok state) (methods : Set String)
    (infinite : methods.Infinite) (bound : Nat) :
    ¬LabelSetsBounded externals state methods bound := by
  intro bounded
  obtain ⟨chosen, within, count⟩ := infinite.exists_subset_card_eq (bound + 1)
  have atMost := (bounded (chosen.toList.map bareArrival) fun arrival member => ?_).1
  · have atLeast := card_le_size_of_bareArrivals wasm config externals state built chosen
    omega
  · obtain ⟨method, listed, rfl⟩ := List.mem_map.mp member
    refine ⟨fun turn head answered => ?_, within (Finset.mem_toList.mp listed)⟩
    cases answered

/-- The three families have boundedly many label sets exactly when the methods that are
sent are finitely many, and then at most one for each configured route or none, each
method and each status. -/
theorem label_sets_bounded_iff (wasm : Policy.Wasmtime Component) (config : AppConfig)
    (externals : Externals) (state : GatewayState Component)
    (built : GatewayState.new wasm config = .ok state) (methods : Set String) :
    ((∃ bound, LabelSetsBounded externals state methods bound) ↔ methods.Finite) ∧
      (methods.Finite → LabelSetsBounded externals state methods
        ((config.routes.length + 1) * (methods.ncard * 900))) := by
  have bounded : methods.Finite → LabelSetsBounded externals state methods
      ((config.routes.length + 1) * (methods.ncard * 900)) := by
    intro finite arrivals allowed
    have within := within_served externals state finite.toFinset arrivals .new
      (fun arrival member => ⟨(allowed arrival member).1,
        finite.mem_toFinset.mpr (allowed arrival member).2⟩)
      ⟨by simp [Telemetry.new, Family.empty, Family.labels],
        by simp [Telemetry.new, Family.empty, Family.labels],
        by simp [Telemetry.new, Family.empty, Family.labels]⟩
    refine within.atMost.mono ?_
    have routes : ("none" :: state.router.map Route.id).toFinset.card ≤
        config.routes.length + 1 := by
      rw [(GatewayState.new_eq_ok wasm config state built).1]
      simpa using List.toFinset_card_le ("none" :: config.routes.map Route.id)
    rw [Set.ncard_eq_toFinset_card methods finite]
    exact Nat.mul_le_mul routes (Nat.mul_le_mul le_rfl card_statusLabels_le)
  refine ⟨⟨?_, fun finite => ⟨_, bounded finite⟩⟩, bounded⟩
  rintro ⟨bound, holds⟩
  by_contra infinite
  exact not_bounded_of_infinite wasm config externals state built methods infinite bound holds

def uploadConfig : AppConfig := { bareConfig with routes := [Exchange.uploadRoute] }

/-- The methods of a client that repeats a letter. -/
def repeatedLetter (count : Nat) : String := String.ofList (List.replicate (count + 1) 'A')

/-- The gateway of `uploadConfig`. -/
def uploadState : GatewayState Unit :=
  { Exchange.uploadGateway with
    storageConfig := bareConfig.storage
    redaction := bareConfig.redaction
    routeRuntime := Map.insert (fun _ => none) "upload" (RouteRuntime.new Exchange.uploadRoute) }

/-- Two methods bound the label sets of a gateway with one route. -/
theorem label_sets_bounded_get_post :
    GatewayState.new Policy.permissiveWasm uploadConfig = .ok uploadState ∧
      LabelSetsBounded Exchange.plainExternals uploadState {"GET", "POST"}
        ((uploadConfig.routes.length + 1) * (({"GET", "POST"} : Set String).ncard * 900)) :=
  ⟨rfl, (label_sets_bounded_iff Policy.permissiveWasm uploadConfig Exchange.plainExternals
    uploadState rfl {"GET", "POST"}).2 (Set.toFinite _)⟩

/-- A client that sends method tokens of growing length exceeds every bound. -/
theorem methods_exceed_every_bound :
    GatewayState.new Policy.permissiveWasm uploadConfig = .ok uploadState ∧
      ∀ bound, ¬LabelSetsBounded Exchange.plainExternals uploadState
        (Set.range repeatedLetter) bound := by
  refine ⟨rfl, not_bounded_of_infinite Policy.permissiveWasm uploadConfig _ uploadState rfl _ ?_⟩
  refine Set.infinite_range_of_injective fun count other same => ?_
  have lengths := congrArg (fun text => text.toList.length) same
  simpa [repeatedLetter] using lengths

end TraceGate
