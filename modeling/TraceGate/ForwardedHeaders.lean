import TraceGate.Mutations
import TraceGate.Redaction
import TraceGate.RouteCalls

/-!
# The headers an upstream receives

The client's headers, changed by the plugins, lose eight hop-by-hop names; then the gateway
writes its own and the trace context is injected. What is left under a name is decided by
the last of these that touches it.

Two things pass that should not. `x-forwarded-host` is written only when there is a `Host`
to write, so a request without one keeps the client's. And the names a client lists in
`Connection` are not looked at, so only the eight are removed.
-/

namespace TraceGate

/-- The header is there after the plugins' mutations. -/
def survives (http : HttpCrate) (headers : HeaderMap) (setHeaders : List HeaderMutation)
    (removeHeaders : List String) (name : String) : Bool :=
  (Policy.lastSet http name setHeaders).isSome ||
    (!Policy.removesName http name removeHeaders && headers.containsKey name)

/-- A name has lines after the mutations exactly if it survives them: it is set, or it was there
and is not removed. -/
theorem containsKey_applyPolicyMutations (http : HttpCrate) (headers : HeaderMap)
    (setHeaders : List HeaderMutation) (removeHeaders : List String) (name : String) :
    (applyPolicyMutations http headers setHeaders removeHeaders).containsKey name =
      survives http headers setHeaders removeHeaders name := by
  rw [Bool.eq_iff_iff, ← not_iff_not, Bool.not_eq_true, Bool.not_eq_true,
    ← HeaderMap.getAll_eq_nil_iff, Policy.getAll_applyPolicyMutations, survives]
  cases Policy.lastSet http name setHeaders with
  | some value => simp
  | none =>
    cases Policy.removesName http name removeHeaders with
    | true => simp
    | false => simp [HeaderMap.getAll_eq_nil_iff]

/-! ## Who a request is from and for -/

/-- The headers that tell an upstream whom a request is from and for. -/
def identityNames : List String :=
  ["host", "x-forwarded-for", "x-forwarded-proto", "x-forwarded-host"]

/-- The four headers are the gateway's: the upstream's authority, the address of the peer, one
fixed value, and the `Host` of the template or nothing. -/
structure ToldByGateway (externals : Externals) (template : RequestTemplate)
    (upstream : Upstream) (remoteAddr : SocketAddr) (headers : HeaderMap) : Prop where
  host : (headers.getAll "host").map Except.ok =
    [externals.http.headerValueFromStr upstream.authority]
  forwardedFor : (headers.getAll "x-forwarded-for").map Except.ok =
    [externals.http.headerValueFromStr (externals.ipText remoteAddr.ip)]
  forwardedProto : headers.getAll "x-forwarded-proto" = [.ofAscii "http"]
  forwardedHost : headers.getAll "x-forwarded-host" = (template.headers.get "host").toList

/-- The four headers of a request that is built, by the upstream, the connection and the `Host`
that the client sent.

Injecting the trace context comes last and touches none of the four. -/
theorem identity_of_built {externals : Externals} {context : TraceContext}
    {template : RequestTemplate} {body : Body} {upstream : Upstream} {requestId : String}
    {remoteAddr : SocketAddr} {request : UpstreamRequest}
    (built : buildUpstreamRequest externals context template body upstream requestId remoteAddr =
      .ok request) :
    (request.headers.getAll "host").map Except.ok =
        [externals.http.headerValueFromStr upstream.authority] ∧
      (request.headers.getAll "x-forwarded-for").map Except.ok =
        [externals.http.headerValueFromStr (externals.ipText remoteAddr.ip)] ∧
      request.headers.getAll "x-forwarded-proto" = [.ofAscii "http"] ∧
      request.headers.getAll "x-forwarded-host" =
        ((template.headers.get "host").map fun host => [host]).getD
          (template.headers.getAll "x-forwarded-host") := by
  obtain ⟨_, untraced, rfl⟩ := (buildUpstreamRequest_eq_ok _ _ _ _ _ _ _ _).mp built
  obtain ⟨_, authority, address, host, client, rfl⟩ :=
    (untracedRequest_eq_ok _ _ _ _ _ _ _).mp untraced
  obtain ⟨hosts, _, clients, protos, forwarded⟩ :=
    getAll_upstreamHeaders externals template requestId authority address
  rw [host, client]
  simp only [UpstreamRequest.traced, getAll_injectContext context _ "host" (by decide),
    getAll_injectContext context _ "x-forwarded-for" (by decide),
    getAll_injectContext context _ "x-forwarded-proto" (by decide),
    getAll_injectContext context _ "x-forwarded-host" (by decide), hosts, clients, protos,
    forwarded, List.map_cons, List.map_nil, and_self]

section Identity

variable {externals : Externals} {upstream : Upstream} {remoteAddr : SocketAddr}

/-- With a `Host` the gateway overwrites `x-forwarded-host`; without one there must be nothing
to overwrite. -/
theorem toldByGateway_iff (context : TraceContext) (template : RequestTemplate) (body : Body)
    (requestId : String) (request : UpstreamRequest)
    (built : buildUpstreamRequest externals context template body upstream requestId remoteAddr =
      .ok request) :
    ToldByGateway externals template upstream remoteAddr request.headers ↔
      template.headers.containsKey "host" = true ∨
        template.headers.containsKey "x-forwarded-host" = false := by
  obtain ⟨host, client, proto, forwarded⟩ := identity_of_built built
  rw [← HeaderMap.isSome_get, ← HeaderMap.getAll_eq_nil_iff]
  constructor
  · intro told
    have own := told.forwardedHost
    rw [forwarded] at own
    cases found : template.headers.get "host" with
    | some value => exact Or.inl rfl
    | none =>
      rw [found] at own
      exact Or.inr own
  · intro condition
    refine ⟨host, client, proto, ?_⟩
    rw [forwarded]
    cases found : template.headers.get "host" with
    | some value => rfl
    | none =>
      rw [found] at condition
      exact condition.resolve_left (by simp)

/-- Of the four headers only `x-forwarded-host` can differ between templates with one `Host`,
and only when there is no `Host` at all. -/
theorem identity_agrees_iff (leftContext rightContext : TraceContext)
    (left right : RequestTemplate) (leftBody rightBody : Body) (leftId rightId : String)
    (leftRequest rightRequest : UpstreamRequest)
    (sameHost : left.headers.get "host" = right.headers.get "host")
    (leftBuilt : buildUpstreamRequest externals leftContext left leftBody upstream leftId
      remoteAddr = .ok leftRequest)
    (rightBuilt : buildUpstreamRequest externals rightContext right rightBody upstream rightId
      remoteAddr = .ok rightRequest) :
    (∀ name ∈ identityNames,
        leftRequest.headers.getAll name = rightRequest.headers.getAll name) ↔
      right.headers.containsKey "host" = true ∨
        left.headers.getAll "x-forwarded-host" = right.headers.getAll "x-forwarded-host" := by
  obtain ⟨leftHost, leftClient, leftProto, leftForwarded⟩ := identity_of_built leftBuilt
  obtain ⟨host, client, proto, forwarded⟩ := identity_of_built rightBuilt
  have values : Function.Injective (List.map (Except.ok : HeaderValue → Except String _)) :=
    List.map_injective_iff.mpr fun _ _ same => Except.ok.inj same
  have hosts := values (leftHost.trans host.symm)
  have clients := values (leftClient.trans client.symm)
  rw [← HeaderMap.isSome_get]
  rw [sameHost] at leftForwarded
  simp only [identityNames, List.forall_mem_cons, hosts, clients, leftProto, proto, leftForwarded,
    forwarded, true_and]
  cases right.headers.get "host" with
  | some value => simp
  | none => simp

end Identity

/-- The four headers are the gateway's exactly when the template has a `Host` or no
`x-forwarded-host`. Two requests under one `Host` agree in them exactly when there is such a
`Host`, or both templates have the same `x-forwarded-host`. -/
theorem forwarding_headers_told_by_gateway_iff (externals : Externals) (context : TraceContext)
    (method : String) (uri : Uri) (version : HttpVersion) (inbound : HeaderMap)
    (setHeaders : List HeaderMutation)
    (removeHeaders : List String) (body : Body) (upstream : Upstream) (requestId : String)
    (remoteAddr : SocketAddr) (request : UpstreamRequest)
    (built : buildUpstreamRequest externals context
      ⟨method, uri, version, applyPolicyMutations externals.http inbound setHeaders removeHeaders⟩
      body upstream requestId remoteAddr = .ok request) :
    let template : RequestTemplate :=
      ⟨method, uri, version, applyPolicyMutations externals.http inbound setHeaders removeHeaders⟩
    let present := survives externals.http inbound setHeaders removeHeaders
    (ToldByGateway externals template upstream remoteAddr request.headers ↔
        present "host" = true ∨ present "x-forwarded-host" = false) ∧
      ∀ (otherContext : TraceContext) (other : RequestTemplate) otherBody otherId otherRequest,
        other.headers.get "host" = template.headers.get "host" →
        buildUpstreamRequest externals otherContext other otherBody upstream otherId remoteAddr =
          .ok otherRequest →
        ((∀ name ∈ identityNames,
            otherRequest.headers.getAll name = request.headers.getAll name) ↔
          present "host" = true ∨
            other.headers.getAll "x-forwarded-host" =
              template.headers.getAll "x-forwarded-host") := by
  intro template present
  have present_eq : ∀ name, present name = template.headers.containsKey name := fun name =>
    (containsKey_applyPolicyMutations externals.http inbound setHeaders removeHeaders name).symm
  rw [present_eq, present_eq]
  refine ⟨toldByGateway_iff context template body requestId request built, ?_⟩
  intro otherContext other otherBody otherId otherRequest sameHost otherBuilt
  exact identity_agrees_iff otherContext context other template otherBody body otherId requestId
    otherRequest request sameHost otherBuilt built

/-- A template as a client of HTTP/1 gives it, with the headers of its own choice. -/
def clientTemplate (headers : HeaderMap) : RequestTemplate :=
  ⟨"GET", ⟨"/orders/7", none, some "/orders/7"⟩, .http11, headers⟩

/-- With a `Host`, the client's `x-forwarded-host` is overwritten. -/
theorem forwarding_headers_told_of_host : ∃ request,
    buildUpstreamRequest Exchange.plainExternals Exchange.idleContext
        (clientTemplate [("host", .ofAscii "shop"), ("x-forwarded-host", .ofAscii "evil")]) .empty
        ⟨"http", "10.0.0.7:3000"⟩ "r" Exchange.localAddr = .ok request ∧
      ToldByGateway Exchange.plainExternals
        (clientTemplate [("host", .ofAscii "shop"), ("x-forwarded-host", .ofAscii "evil")])
        ⟨"http", "10.0.0.7:3000"⟩ Exchange.localAddr request.headers := by
  refine ⟨_, rfl, (forwarding_headers_told_by_gateway_iff Exchange.plainExternals
    Exchange.idleContext "GET" ⟨"/orders/7", none, some "/orders/7"⟩ .http11
    [("host", .ofAscii "shop"), ("x-forwarded-host", .ofAscii "evil")] [] [] .empty
    ⟨"http", "10.0.0.7:3000"⟩ "r" Exchange.localAddr _ rfl).1.mpr (Or.inl rfl)⟩

/-- Without a `Host`, as over HTTP/2, the client's `x-forwarded-host` passes. -/
theorem forwarded_host_passes : ∃ request,
    buildUpstreamRequest Exchange.plainExternals Exchange.idleContext
        (clientTemplate [("x-forwarded-host", .ofAscii "evil")]) .empty
        ⟨"http", "10.0.0.7:3000"⟩ "r" Exchange.localAddr = .ok request ∧
      request.headers.getAll "x-forwarded-host" = [.ofAscii "evil"] ∧
      ¬ ToldByGateway Exchange.plainExternals
        (clientTemplate [("x-forwarded-host", .ofAscii "evil")]) ⟨"http", "10.0.0.7:3000"⟩
        Exchange.localAddr request.headers := by
  refine ⟨_, rfl, by decide +kernel, fun told => ?_⟩
  exact absurd told.forwardedHost (by decide +kernel)

/-! ## Hop-by-hop headers -/

/-- White space around a token. -/
def isTokenSpace (byte : UInt8) : Bool := byte == 32 || byte == 9

/-- The comma-separated tokens of a header value, in lowercase. -/
def valueTokens (value : HeaderValue) : List (List UInt8) :=
  (value.bytes.splitOn 44).map fun token =>
    (((token.dropWhile isTokenSpace).reverse.dropWhile isTokenSpace).reverse).map lowerByte

/-- A token of a `Connection` value names the header. -/
def namedByConnection (headers : HeaderMap) (name : String) : Bool :=
  (headers.getAll "connection").any fun value =>
    (valueTokens value).contains ((utf8Bytes name).map lowerByte)

/-- The gateway writes the header itself. -/
def GatewaySets (context : TraceContext) (template : RequestTemplate) (name : String) : Prop :=
  name ∈ ["host", requestIdHeader, "x-forwarded-for", "x-forwarded-proto"] ∨
    name = "x-forwarded-host" ∧ template.headers.containsKey "host" = true ∨
    (∃ line ∈ context.lines, line.1 = name) ∨
    name = "traceparent" ∧ template.headers.containsKey "traceparent" = false

/-- None of the eight names is there, and none that a token of `Connection` in the given
headers names, unless the gateway writes it. -/
structure ForwardsNoHop (context : TraceContext) (template : RequestTemplate)
    (connection headers : HeaderMap) : Prop where
  fixed : ∀ name ∈ hopByHopNames, headers.containsKey name = false
  named : ∀ name, headers.containsKey name = true → namedByConnection connection name = true →
    GatewaySets context template name

/-- The names under which the headers of a built request are: those the gateway sets, and the
client's that are not removed. -/
theorem containsKey_of_built {externals : Externals} {context : TraceContext}
    {template : RequestTemplate} {body : Body} {upstream : Upstream} {requestId : String}
    {remoteAddr : SocketAddr} {request : UpstreamRequest}
    (built : buildUpstreamRequest externals context template body upstream requestId remoteAddr =
      .ok request) (name : String) :
    request.headers.containsKey name = true ↔
      GatewaySets context template name ∨
        name ∉ hopByHopNames ∧ template.headers.containsKey name = true := by
  obtain ⟨_, untraced, rfl⟩ := (buildUpstreamRequest_eq_ok _ _ _ _ _ _ _ _).mp built
  obtain ⟨_, authority, address, _, _, rfl⟩ := (untracedRequest_eq_ok _ _ _ _ _ _ _).mp untraced
  rw [UpstreamRequest.traced, containsKey_injectContext, containsKey_upstreamHeaders, GatewaySets]
  by_cases parent : name = "traceparent"
  · subst parent
    have kept : "traceparent" ∉ hopByHopNames := by decide
    cases template.headers.containsKey "traceparent" with
    | true => simp [kept]
    | false => simp
  · simp only [parent, false_and, false_or, or_false, or_assoc, or_left_comm]

/-- The gateway writes no hop-by-hop header, neither by itself nor with the trace context. -/
theorem not_hopByHop_of_gatewaySets {context : TraceContext} {template : RequestTemplate}
    {name : String} (sets : GatewaySets context template name) : name ∉ hopByHopNames := by
  rcases sets with own | ⟨rfl, _⟩ | ⟨line, member, rfl⟩ | ⟨rfl, _⟩
  · revert name
    decide
  · decide
  · rcases context.named line member with parent | state
    · rw [parent]
      decide
    · rw [state]
      decide
  · decide

/-- No hop-by-hop header is forwarded exactly when no header of the template is named in
`Connection`, apart from the eight names and what the gateway writes. This holds for the
`Connection` lines of the client and for those the plugins leave. -/
theorem forwards_no_hop_iff (externals : Externals) (context : TraceContext)
    (method : String) (uri : Uri) (version : HttpVersion) (inbound : HeaderMap)
    (setHeaders : List HeaderMutation)
    (removeHeaders : List String) (body : Body) (upstream : Upstream) (requestId : String)
    (remoteAddr : SocketAddr) (request : UpstreamRequest)
    (built : buildUpstreamRequest externals context
      ⟨method, uri, version, applyPolicyMutations externals.http inbound setHeaders removeHeaders⟩
      body upstream requestId remoteAddr = .ok request) :
    let template : RequestTemplate :=
      ⟨method, uri, version, applyPolicyMutations externals.http inbound setHeaders removeHeaders⟩
    ∀ connection ∈ [inbound, template.headers],
      (ForwardsNoHop context template connection request.headers ↔
        ∀ name, survives externals.http inbound setHeaders removeHeaders name = true →
          namedByConnection connection name = true →
          name ∈ hopByHopNames ∨ GatewaySets context template name) := by
  intro template connection _
  have present := containsKey_of_built built
  constructor
  · intro forwards name survived named
    by_cases hop : name ∈ hopByHopNames
    · exact Or.inl hop
    · rw [← containsKey_applyPolicyMutations] at survived
      exact Or.inr (forwards.named name ((present name).mpr (Or.inr ⟨hop, survived⟩)) named)
  · intro condition
    constructor
    · intro name hop
      rw [← Bool.not_eq_true, present]
      rintro (sets | ⟨apart, _⟩)
      · exact not_hopByHop_of_gatewaySets sets hop
      · exact apart hop
    · intro name found named
      rcases (present name).mp found with sets | ⟨apart, kept⟩
      · exact sets
      · have survived : survives externals.http inbound setHeaders removeHeaders name = true := by
          rw [← containsKey_applyPolicyMutations]
          exact kept
        exact (condition name survived named).resolve_left apart

/-- The eight names are removed also when `Connection` names one of them. -/
theorem forwards_no_hop_of_keep_alive : ∃ request,
    buildUpstreamRequest Exchange.plainExternals Exchange.idleContext
        (clientTemplate [("connection", .ofAscii "Keep-Alive"), ("keep-alive", .ofAscii "5")])
        .empty ⟨"http", "10.0.0.7:3000"⟩ "r" Exchange.localAddr = .ok request ∧
      ForwardsNoHop Exchange.idleContext
        (clientTemplate [("connection", .ofAscii "Keep-Alive"), ("keep-alive", .ofAscii "5")])
        [("connection", .ofAscii "Keep-Alive"), ("keep-alive", .ofAscii "5")] request.headers := by
  refine ⟨_, rfl, (forwards_no_hop_iff Exchange.plainExternals Exchange.idleContext "GET"
    ⟨"/orders/7", none, some "/orders/7"⟩ .http11
    [("connection", .ofAscii "Keep-Alive"), ("keep-alive", .ofAscii "5")] [] [] .empty
    ⟨"http", "10.0.0.7:3000"⟩ "r" Exchange.localAddr _ rfl _ List.mem_cons_self).mpr ?_⟩
  intro name survived _
  rw [← containsKey_applyPolicyMutations, HeaderMap.containsKey_iff] at survived
  obtain ⟨line, member, rfl⟩ := survived
  left
  revert line
  decide +kernel

/-- A header that the client names in `Connection` reaches the upstream, although that makes it
a hop-by-hop header. -/
theorem connection_token_passes : ∃ request,
    buildUpstreamRequest Exchange.plainExternals Exchange.idleContext
        (clientTemplate [("connection", .ofAscii "close, X-Hop"), ("x-hop", .ofAscii "1")])
        .empty ⟨"http", "10.0.0.7:3000"⟩ "r" Exchange.localAddr = .ok request ∧
      namedByConnection [("connection", .ofAscii "close, X-Hop"), ("x-hop", .ofAscii "1")]
        "x-hop" = true ∧
      request.headers.getAll "x-hop" = [.ofAscii "1"] ∧
      ¬ ForwardsNoHop Exchange.idleContext
        (clientTemplate [("connection", .ofAscii "close, X-Hop"), ("x-hop", .ofAscii "1")])
        [("connection", .ofAscii "close, X-Hop"), ("x-hop", .ofAscii "1")] request.headers := by
  refine ⟨_, rfl, by decide +kernel, by decide +kernel, fun forwards => ?_⟩
  have sets := forwards.named "x-hop" (by decide +kernel) (by decide +kernel)
  rcases sets with own | ⟨other, _⟩ | ⟨line, member, _⟩ | ⟨other, _⟩
  · exact absurd own (by decide)
  · exact absurd other (by decide)
  · exact absurd member List.not_mem_nil
  · exact absurd other (by decide)

end TraceGate
