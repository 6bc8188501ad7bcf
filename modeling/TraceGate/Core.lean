import Mathlib.Algebra.Ring.Nat
import Mathlib.Data.List.Forall2
import TraceGate.Text

/-!
# Configuration, routes and route choice

The validated configuration a gateway runs on, as the core crate defines it,
with the redaction and capture predicates and the router. Durations are counted
in nanoseconds. An upstream keeps the scheme and the authority it was parsed
into; its parsed URI is read nowhere and is left out, and so is the route's own
round-robin counter, which the proxy replaces by its runtime's.
-/

namespace TraceGate

/-- Nanoseconds. -/
abbrev Duration := Nat

/-- `Duration::as_millis`. -/
def asMillis (duration : Duration) : Nat := duration / 1000000

/-- `Duration::from_millis`. -/
def fromMillis (millis : Nat) : Duration := millis * 1000000

/-- The largest `i64`. -/
def i64Max : Nat := 2 ^ 63 - 1

/-- The largest `usize` of a 64-bit target. -/
def usizeMax : Nat := 2 ^ 64 - 1

/-- Saturating arithmetic of `i64`: a result outside the type is its nearest bound. -/
def saturateI64 (value : Int) : Int := max (-(i64Max : Int) - 1) (min value i64Max)

/-- A map as a lookup function; `HashMap` is only read by key. -/
abbrev Map (κ ν : Type) := κ → Option ν

/-- `HashMap::insert`. -/
def Map.insert {κ ν : Type} [DecidableEq κ] (map : Map κ ν) (key : κ) (value : ν) : Map κ ν :=
  fun probe => if probe = key then some value else map probe

/-- A sequence of two computations succeeds when both do, the second on the result of the
first. -/
theorem bind_ok_iff {ε α β : Type} (first : Except ε α) (next : α → Except ε β) (final : β) :
    (first >>= next) = .ok final ↔ ∃ middle, first = .ok middle ∧ next middle = .ok final := by
  cases first with
  | error err => simp [bind, Except.bind]
  | ok middle => simp [bind, Except.bind]

/-- A check of all items succeeds when each of them passes, with its own result.

By induction on the items. -/
theorem mapM_ok_iff {ε α β : Type} (check : α → Except ε β) (items : List α)
    (results : List β) :
    items.mapM check = .ok results ↔
      List.Forall₂ (fun item result => check item = .ok result) items results := by
  induction items generalizing results with
  | nil =>
    rw [List.mapM_nil, List.forall₂_nil_left_iff, eq_comm]
    simp [pure, Except.pure]
  | cons item rest inductionHypothesis =>
    simp only [List.mapM_cons, bind_ok_iff, pure, Except.pure, Except.ok.injEq,
      List.forall₂_cons_left_iff, inductionHypothesis]
    constructor
    · rintro ⟨first, passed, others, following, rfl⟩
      exact ⟨first, others, passed, following, rfl⟩
    · rintro ⟨first, others, passed, following, rfl⟩
      exact ⟨first, passed, others, following, rfl⟩

/-- What the check of an item promises holds of all results, because each result is that of one
item. -/
theorem forall_of_mapM {ε α β : Type} {property : β → Prop} (check : α → Except ε β)
    (items : List α) (results : List β) (passed : items.mapM check = .ok results)
    (promised : ∀ item result, check item = .ok result → property result) :
    ∀ result ∈ results, property result := by
  have related := (mapM_ok_iff check items results).mp passed
  induction related with
  | nil => simp
  | cons first following inductionHypothesis =>
    have others := inductionHypothesis ((mapM_ok_iff check _ _).mpr following)
    exact List.forall_mem_cons.mpr ⟨promised _ _ first, others⟩

inductive RuntimeMode where
  | demo
  | production
deriving DecidableEq

def RuntimeMode.asStr : RuntimeMode → String
  | demo => "demo"
  | production => "production"

def RuntimeMode.isProduction (mode : RuntimeMode) : Bool := decide (mode = .production)

inductive IpAddr where
  | v4 (address : BitVec 32)
  | v6 (address : BitVec 128)
deriving DecidableEq

/-- `IpAddr::is_loopback`. -/
def IpAddr.isLoopback : IpAddr → Bool
  | .v4 address => address.toNat / 2 ^ 24 == 127
  | .v6 address => address == 1

/-- An address and a port; the scope is that of an IPv6 address, else 0. -/
structure SocketAddr where
  ip : IpAddr
  port : Nat
  scopeId : Nat
deriving DecidableEq

structure TlsConfig where
  enabled : Bool
  certPath : Option String
  keyPath : Option String
deriving DecidableEq

structure AdminConfig where
  tokenEnv : Option String
  token : Option String
  allowInternalNetwork : Bool
deriving DecidableEq

structure UpstreamTlsConfig where
  caCertPath : Option String
deriving DecidableEq

structure ObservabilityConfig where
  serviceName : String
  environment : String
  otlpEndpoint : Option String
  prometheusEnabled : Bool
  jsonLogs : Bool

structure StorageConfig where
  driver : String
  url : String
  retentionDays : Nat
  maxTotalCaptureBytes : Nat
  maxCaptureBytesPerRequest : Nat
  captureQueueCapacity : Nat
deriving DecidableEq

/-- `StorageConfig::default`. -/
def StorageConfig.default : StorageConfig :=
  { driver := "sqlite", url := "sqlite://tracegate.db", retentionDays := 7
    maxTotalCaptureBytes := 1073741824, maxCaptureBytesPerRequest := 1048576
    captureQueueCapacity := 1024 }

structure RedactionConfig where
  headers : List String
  queryParams : List String
deriving DecidableEq

/-- `RedactionConfig::default`. -/
def RedactionConfig.default : RedactionConfig :=
  ⟨["authorization", "cookie", "set-cookie", "x-api-key"], ["token", "access_token", "api_key"]⟩

namespace RedactionConfig

def isSensitiveHeader (redaction : RedactionConfig) (name : String) : Bool :=
  redaction.headers.any (Text.eqIgnoreAsciiCase · name)

def isSensitiveQueryParam (redaction : RedactionConfig) (name : String) : Bool :=
  redaction.queryParams.any (Text.eqIgnoreAsciiCase · name)

end RedactionConfig

inductive CapturePolicy where
  | off
  | errors
  | slow
  | errorsAndSlow
  | always
deriving DecidableEq

namespace CapturePolicy

def asStr : CapturePolicy → String
  | off => "off"
  | errors => "errors"
  | slow => "slow"
  | errorsAndSlow => "errors_and_slow"
  | always => "always"

def shouldCapture (policy : CapturePolicy) (isError isSlow : Bool) : Bool :=
  match policy with
  | off => false
  | errors => isError
  | slow => isSlow
  | errorsAndSlow => isError || isSlow
  | always => true

end CapturePolicy

structure CaptureConfig where
  policy : CapturePolicy
  slowThreshold : Duration
  captureRequestBody : Bool
  captureResponseBodyBytes : Nat

inductive PluginHook where
  | beforeRequest
deriving DecidableEq

def PluginHook.asStr : PluginHook → String
  | beforeRequest => "before_request"

structure PluginConfigValue where
  key : String
  value : String
deriving DecidableEq

structure PluginConfig where
  id : String
  path : String
  hook : PluginHook
  routes : List String
  timeout : Duration
  memoryLimitBytes : Nat
  fuel : Nat
  bodyPreviewBytes : Nat
  rawHeaders : List String
  config : List PluginConfigValue
deriving DecidableEq

structure Upstream where
  scheme : String
  authority : String
deriving DecidableEq

def Upstream.origin (upstream : Upstream) : String :=
  upstream.scheme ++ "://" ++ upstream.authority

structure Route where
  id : String
  hosts : List String
  pathPrefix : String
  upstreams : List Upstream
  timeout : Duration
  retries : Nat
  capture : CaptureConfig
  concurrencyLimit : Nat
  passiveHealthFailures : Nat
  passiveHealthCooldown : Duration

structure AppConfig where
  mode : RuntimeMode
  listen : SocketAddr
  adminListen : SocketAddr
  serverTls : TlsConfig
  admin : AdminConfig
  upstreamTls : UpstreamTlsConfig
  storage : StorageConfig
  redaction : RedactionConfig
  observability : ObservabilityConfig
  routes : List Route
  plugins : List PluginConfig

/-- Trim, drop the port (or everything after the bracket of an IPv6 literal,
which is then closed again), and lowercase. An empty host is no host. -/
def normalizeHost (host : String) : Option String :=
  let host := Text.trim host
  if host.isEmpty then none
  else
    let withoutPort :=
      if Text.startsWith host "[" then ((Text.split ']' host).head?.getD "") ++ "]"
      else (Text.split ':' host).head?.getD ""
    let normalized := Text.toAsciiLowercase (Text.trim withoutPort)
    if normalized.isEmpty then none else some normalized

def hostMatches (route : Route) (host : Option String) : Bool :=
  route.hosts.any fun candidate =>
    candidate == "*" || (host.map (Text.eqIgnoreAsciiCase candidate)).getD false

/-- A prefix matches at a segment boundary; the root matches everything. -/
def pathMatches (start path : String) : Bool :=
  start == "/" || path == start ||
    ((Text.stripStart start path).map (Text.startsWith · "/")).getD false

/-- The comparison `match_route` passes to `max_by`: longer prefix first, then
the lower index. It says whether the left candidate is the greater one. -/
def routeExceeds (left right : Nat × Route) : Bool :=
  decide (right.2.pathPrefix.utf8ByteSize < left.2.pathPrefix.utf8ByteSize) ||
    (left.2.pathPrefix.utf8ByteSize == right.2.pathPrefix.utf8ByteSize &&
      decide (left.1 < right.1))

/-- `Iterator::max_by`: the running maximum gives way unless it is strictly
greater than the next element. -/
def maxRoute : List (Nat × Route) → Option (Nat × Route)
  | [] => none
  | first :: rest =>
      some (rest.foldl (fun best next => if routeExceeds best next then best else next) first)

/-- `Router::match_route`. The router is its list of routes. -/
def matchRoute (routes : List Route) (hostHeader : Option String) (path : String) :
    Option Route :=
  let normalizedHost := hostHeader.bind normalizeHost
  let candidates := (routes.zipIdx.map Prod.swap).filter fun candidate =>
    hostMatches candidate.2 normalizedHost && pathMatches candidate.2.pathPrefix path
  (maxRoute candidates).map Prod.snd

/-- The running maximum of a scan is its start or one of the scanned elements. -/
theorem scan_mem (first : Nat × Route) (rest : List (Nat × Route)) :
    rest.foldl (fun best next => if routeExceeds best next then best else next) first ∈
      first :: rest := by
  induction rest generalizing first with
  | nil => simp
  | cons next tail inductionHypothesis =>
    rw [List.foldl_cons]
    by_cases kept : routeExceeds first next = true
    · simp only [kept, if_true]
      rcases List.mem_cons.mp (inductionHypothesis first) with same | later
      · exact List.mem_cons.mpr (Or.inl same)
      · exact List.mem_cons_of_mem _ (List.mem_cons_of_mem _ later)
    · simp only [kept]
      exact List.mem_cons_of_mem _ (inductionHypothesis next)

/-- The chosen route is one of the table: a candidate is a place in the table with the route
that stands there. -/
theorem matchRoute_mem (routes : List Route) (hostHeader : Option String) (path : String)
    (route : Route) (matched : matchRoute routes hostHeader path = some route) :
    route ∈ routes := by
  simp only [matchRoute, Option.map_eq_some_iff] at matched
  obtain ⟨entry, chosen, same⟩ := matched
  generalize listed : (routes.zipIdx.map Prod.swap).filter _ = candidates at chosen
  cases candidates with
  | nil => simp [maxRoute] at chosen
  | cons first rest =>
    have member : entry ∈ first :: rest := Option.some.inj chosen ▸ scan_mem first rest
    rw [← listed] at member
    obtain ⟨pair, inTable, swapped⟩ := List.mem_map.mp (List.mem_filter.mp member).1
    have inRoutes : pair.1 ∈ routes := List.fst_mem_of_mem_zipIdx inTable
    rw [← same, ← swapped]
    exact inRoutes

end TraceGate
