import TraceGate.Exchange
import TraceGate.Routing

/-!
# Where the authority is carried

A request names its authority in a `Host` header or, over HTTP/2 and in absolute form,
in its URI. The handler asks the header only. Without one, a request has no host, and
only routes with a wildcard among their hosts can match it.

The router takes the best of the routes that match. Taking the named routes out of the
competition changes its result exactly when one of them wins.
-/

namespace TraceGate

variable {Component : Type}

/-! ## Requests with and without a host -/

/-- A request as the server hands it over, with the authority of its URI. -/
structure Delivered where
  authority : Option String
  request : InboundRequest

/-- The route the handler selects. The authority of the URI is not asked. -/
def selectedRoute (state : GatewayState Component) (delivered : Delivered) : Option Route :=
  routeFor state delivered.request

/-- What the selected route decides: a forwarded request is on it, and every other exit
logs, counts and records it. -/
theorem prepare_selectedRoute (externals : Externals) (state : GatewayState Component)
    (delivered : Delivered) (remoteAddr : SocketAddr) (around : Surroundings Component) :
    match prepare externals state delivered.request remoteAddr around with
    | .unavailable _ => ∃ route, selectedRoute state delivered = some route
    | .exit handled =>
        handled.log.routeId = (selectedRoute state delivered).map Route.id ∧
          handled.metric.routeId = (selectedRoute state delivered).map Route.id ∧
          handled.finalizer.record.routeId = (selectedRoute state delivered).map Route.id
    | .forward forward => selectedRoute state delivered = some forward.route := by
  unfold selectedRoute
  have way := prepare_cases externals state delivered.request remoteAddr around
  generalize prepare externals state delivered.request remoteAddr around = prepared at way
  cases way with
  | noRoute unmatched => simp [unmatched, exitHandled, LocalExit.handled, noRouteExit]
  | unavailable route matched missing => exact ⟨route, matched⟩
  | limited route matched runtime refused =>
    simp [matched, exitHandled, LocalExit.handled, concurrencyLimitExit]
  | previewFailed route err matched runtime admitted failed =>
    simp [matched, exitHandled, LocalExit.handled, previewFailedExit]
  | denied route bodyPreview body deny previewed denied =>
    simp [previewed.matched, exitHandled, LocalExit.handled, policyDeniedExit]
  | unhealthy route bodyPreview body previewed undenied unselected =>
    simp [previewed.matched, exitHandled, LocalExit.handled, allUpstreamsUnhealthyExit]
  | forward route bodyPreview body index upstream previewed undenied selected =>
    exact previewed.matched

/-- The authority is in the `Host` header. -/
def Delivered.ViaHost (delivered : Delivered) (authority : String) : Prop :=
  (delivered.request.headers.get "host").bind HeaderValue.toStr = some authority

/-- The authority is in the URI only. -/
def Delivered.ViaUri (delivered : Delivered) (authority : String) : Prop :=
  delivered.authority = some authority ∧ delivered.request.headers.get "host" = none

/-- A route for the path that lists the authority's host, and no wildcard, comes before
every route for the path that lists a wildcard: its prefix is longer, or as long and
its position is earlier. -/
def NamedRouteWins (routes : List Route) (authority path : String) : Prop :=
  ∃ candidate, MatchesAt routes (normalizeHost authority) path candidate ∧
    "*" ∉ candidate.2.hosts ∧
    ∀ other, MatchesAt routes none path other → routeExceeds candidate other = true

/-- Without a host a route matches exactly if it lists the wildcard. -/
theorem hostMatches_none_iff (route : Route) :
    hostMatches route none = true ↔ "*" ∈ route.hosts := by
  simp [hostMatches]

/-- A route that matches without a host matches with any, because it lists the wildcard. -/
theorem MatchesAt.of_none {routes : List Route} {path : String} {candidate : Nat × Route}
    (matching : MatchesAt routes none path candidate) (host : Option String) :
    MatchesAt routes host path candidate := by
  refine ⟨matching.listed, ?_, matching.path⟩
  have wildcard := (hostMatches_none_iff candidate.2).mp matching.host
  exact List.any_eq_true.mpr ⟨"*", wildcard, by simp⟩

/-- A route that lists the wildcard matches without a host where it matches with one. -/
theorem MatchesAt.none_of_wildcard {routes : List Route} {host : Option String} {path : String}
    {candidate : Nat × Route} (matching : MatchesAt routes host path candidate)
    (wildcard : "*" ∈ candidate.2.hosts) : MatchesAt routes none path candidate :=
  ⟨matching.listed, (hostMatches_none_iff candidate.2).mpr wildcard, matching.path⟩

/-- The router answers the same with and without the host exactly when no named route
wins. -/
theorem matchRoute_eq_iff (routes : List Route) (authority path : String) :
    matchRoute routes (some authority) path = matchRoute routes none path ↔
      ¬ NamedRouteWins routes authority path := by
  have found := matchRoute_eq_some_iff routes (some authority) path
  have foundWithout := matchRoute_eq_some_iff routes none path
  have missing := matchRoute_eq_none_iff routes (some authority) path
  have missingWithout := matchRoute_eq_none_iff routes none path
  simp only [Option.bind_some, Option.bind_none] at found foundWithout missing missingWithout
  unfold NamedRouteWins
  generalize normalizeHost authority = host at found missing ⊢
  constructor
  · rintro same ⟨named, matching, noWildcard, wins⟩
    cases chosen : matchRoute routes none path with
    | none => exact missing.mp (same.trans chosen) named matching
    | some route =>
      obtain ⟨index, wildcard, _⟩ := (foundWithout route).mp chosen
      obtain ⟨best, bestMatching, maximal⟩ := (found route).mp (same.trans chosen)
      have bestWildcard : MatchesAt routes none path (best, route) :=
        bestMatching.none_of_wildcard ((hostMatches_none_iff route).mp wildcard.host)
      exact maximal named matching (wins (best, route) bestWildcard)
  · intro loses
    cases chosen : matchRoute routes (some authority) path with
    | none =>
      refine (missingWithout.mpr fun candidate matching => ?_).symm
      exact missing.mp chosen candidate (matching.of_none host)
    | some route =>
      obtain ⟨index, matching, maximal⟩ := (found route).mp chosen
      refine ((foundWithout route).mpr ?_).symm
      by_cases wildcard : "*" ∈ route.hosts
      · exact ⟨index, matching.none_of_wildcard wildcard,
          fun candidate other => maximal candidate (other.of_none host)⟩
      · refine (loses ⟨(index, route), matching, wildcard, ?_⟩).elim
        intro other otherMatching
        by_contra notExceeds
        have same := matching.eq_of_not_exceeds (otherMatching.of_none host) notExceeds
          (maximal other (otherMatching.of_none host))
        subst same
        exact wildcard ((hostMatches_none_iff route).mp otherMatching.host)

/-- Two requests for one authority and path, one of which names it only in its URI, are
routed alike exactly when no named route wins. -/
theorem same_route_iff (state : GatewayState Component) (first second : Delivered)
    (authority : String) (viaHost : first.ViaHost authority) (viaUri : second.ViaUri authority)
    (samePath : first.request.uri.path = second.request.uri.path) :
    selectedRoute state first = selectedRoute state second ↔
      ¬ NamedRouteWins state.router authority first.request.uri.path := by
  rw [selectedRoute, selectedRoute, routeFor, routeFor, viaHost, viaUri.2, ← samePath]
  exact matchRoute_eq_iff state.router authority first.request.uri.path

/-- A route that lists its host, and one for every host. -/
def namedRoute (start : String) : Route :=
  { Exchange.uploadRoute with id := "orders", hosts := ["orders.example"], pathPrefix := start }

def gatewayOf (routes : List Route) : GatewayState Unit :=
  { Exchange.uploadGateway with router := routes }

def viaHostRequest (path : String) : Delivered :=
  ⟨none, { Exchange.uploadRequest with
    uri := ⟨path, none, some path⟩, headers := [("host", .ofAscii "orders.example")] }⟩

def viaUriRequest (path : String) : Delivered :=
  ⟨some "orders.example", { Exchange.uploadRequest with
    uri := ⟨path, none, some path⟩, version := .http2, headers := [] }⟩

/-- A named route that loses to a longer prefix of the wildcard's route makes no difference. -/
theorem same_route_of_losing_named_route :
    selectedRoute (gatewayOf [namedRoute "/", { Exchange.uploadRoute with pathPrefix := "/api" }])
        (viaHostRequest "/api/1") =
      selectedRoute (gatewayOf [namedRoute "/", { Exchange.uploadRoute with pathPrefix := "/api" }])
        (viaUriRequest "/api/1") := by
  refine (same_route_iff _ (viaHostRequest "/api/1") (viaUriRequest "/api/1") "orders.example"
    rfl ⟨rfl, rfl⟩ rfl).mpr ?_
  rintro ⟨⟨index, route⟩, matching, noWildcard, wins⟩
  have loses := wins (1, { Exchange.uploadRoute with pathPrefix := "/api" })
    ⟨rfl, by decide, by decide⟩
  rcases index with _ | _ | index
  · obtain rfl := Option.some.inj matching.listed
    exact absurd loses (by decide)
  · obtain rfl := Option.some.inj matching.listed
    exact noWildcard (by decide)
  · exact absurd matching.listed (by simp [gatewayOf])

/-- The same authority reaches the named route by its header and the route for every
host by its URI. -/
theorem authority_in_uri_ignored :
    (viaHostRequest "/").ViaHost "orders.example" ∧ (viaUriRequest "/").ViaUri "orders.example" ∧
      (selectedRoute (gatewayOf [namedRoute "/", Exchange.uploadRoute])
        (viaHostRequest "/")).map Route.id = some "orders" ∧
      (selectedRoute (gatewayOf [namedRoute "/", Exchange.uploadRoute])
        (viaUriRequest "/")).map Route.id = some "upload" :=
  ⟨rfl, ⟨rfl, rfl⟩, by decide, by decide⟩

end TraceGate
