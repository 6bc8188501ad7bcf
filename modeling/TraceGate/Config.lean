import TraceGate.IpText
import TraceGate.RawConfig

/-!
# Loading a configuration

`load_config`: the file is read and parsed, and the raw configuration is validated
section by section. The file system, the environment and the parsers of the TOML,
URL and URI crates are parameters; addresses are parsed as the standard library does.

A host of a URL is one of three kinds and shows as one text each, so the texts a
check of hosts is given are exactly the canonical ones.
-/

namespace TraceGate

/-- `IpAddr::from_str`. -/
def readIpAddr (chars : List Char) : Option (IpAddr × List Char) :=
  match IpText.readIpv4Addr chars with
  | some (address, rest) => some (.v4 address, rest)
  | none => (IpText.readIpv6Addr chars).map fun (address, rest) => (.v6 address, rest)

def parseIpAddr (text : String) : Option IpAddr :=
  match readIpAddr text.toList with
  | some (address, []) => some address
  | _ => none

def readPort (chars : List Char) : Option (Nat × List Char) := do
  let chars ← IpText.readGivenChar ':' chars
  IpText.readNumber 10 65535 none true chars

def readScopeId (chars : List Char) : Option (Nat × List Char) := do
  let chars ← IpText.readGivenChar '%' chars
  IpText.readNumber 10 (2 ^ 32 - 1) none true chars

def readSocketAddrV4 (chars : List Char) : Option (SocketAddr × List Char) := do
  let (address, chars) ← IpText.readIpv4Addr chars
  let (port, chars) ← readPort chars
  return (⟨.v4 address, port, 0⟩, chars)

def readSocketAddrV6 (chars : List Char) : Option (SocketAddr × List Char) := do
  let chars ← IpText.readGivenChar '[' chars
  let (address, chars) ← IpText.readIpv6Addr chars
  let (scopeId, chars) := (readScopeId chars).getD (0, chars)
  let chars ← IpText.readGivenChar ']' chars
  let (port, chars) ← readPort chars
  return (⟨.v6 address, port, scopeId⟩, chars)

/-- `SocketAddr::from_str`. -/
def parseSocketAddr (text : String) : Option SocketAddr :=
  match (readSocketAddrV4 text.toList).or (readSocketAddrV6 text.toList) with
  | some (address, []) => some address
  | _ => none

namespace Config

/-- A host of a URL. A name has no brackets: they are forbidden in hosts. -/
inductive Host where
  | domain (name : String) (plain : ∀ char ∈ name.toList, char ≠ '[' ∧ char ≠ ']')
  | ipv4 (address : BitVec 32)
  | ipv6 (address : BitVec 128)

/-- `Url::host_str`: the canonical text of the host. -/
def Host.str : Host → String
  | .domain name _ => name
  | .ipv4 address => String.ofList (IpText.ipv4Text address)
  | .ipv6 address => String.ofList ('[' :: IpText.ipv6Text address ++ [']'])

structure Url where
  scheme : String
  host : Option Host
  port : Option Nat
  path : String
  query : Option String
  fragment : Option String

/-- `Url::port_or_known_default`. -/
def Url.portOrKnownDefault (url : Url) : Option Nat :=
  url.port.or
    (match url.scheme with
    | "http" | "ws" => some 80
    | "https" | "wss" => some 443
    | "ftp" => some 21
    | _ => none)

/-- What loading asks of the system and of other crates: variables of the environment,
whether a path is a file, the parsers of documents and URLs, and the scheme and the
authority of a URI. -/
structure Externals where
  envVar : String → Option String
  isFile : String → Except String Bool
  parseToml : String → Except String (List (String × Toml.Value))
  parseUrl : String → Except String Url
  parseUri : String → Except String (Option String × Option String)

inductive ConfigError where
  | read (path reason : String)
  | malformed (path reason : String)
  | parse (path : String) (fault : Toml.Fault)
  | invalid (text : String)
deriving DecidableEq

/-- The error texts, with the text of a fault given. -/
def ConfigError.text (faultText : Toml.Fault → String) : ConfigError → String
  | read path reason => s!"failed to read config `{path}`: {reason}"
  | malformed path reason => s!"failed to parse TOML config `{path}`: {reason}"
  | parse path fault =>
      let reason := faultText fault
      s!"failed to parse TOML config `{path}`: {reason}"
  | invalid text => s!"invalid config: {text}"

abbrev Checked (α : Type) := Except ConfigError α

/-- Go on if the condition holds. -/
def require (condition : Bool) (text : String) : Checked Unit :=
  if condition then .ok () else .error (.invalid text)

/-- A check that is passed had its condition met. -/
theorem of_require {condition : Bool} {text : String} {result : Unit}
    (passed : require condition text = .ok result) : condition = true := by
  cases condition with
  | false => exact absurd passed (by simp [require])
  | true => rfl

/-- A number in a range, both ends included. -/
def requireBetween (label : String) (low high value : Nat) : Checked Unit :=
  require (decide (low ≤ value) && decide (value ≤ high))
    s!"{label} must be between {low} and {high}"

def requiredOrDefault {α : Type} (field : String) (value : Option α) (default : α)
    (mode : RuntimeMode) : Checked α :=
  match value, mode.isProduction with
  | some value, _ => .ok value
  | none, false => .ok default
  | none, true => .error (.invalid s!"{field} must be explicitly set in production mode")

/-- A trimmed text, unless nothing is left of it. -/
def trimmed (value : Option String) : Option String :=
  (value.map Text.trim).filter fun value => !value.isEmpty

def isAsciiAlphanumeric (char : Char) : Bool :=
  ('a' ≤ char && char ≤ 'z') || ('A' ≤ char && char ≤ 'Z') || ('0' ≤ char && char ≤ '9')

def isIdChar (char : Char) : Bool := isAsciiAlphanumeric char || char == '-' || char == '_'

def isNameChar (char : Char) : Bool := isIdChar char || char == '.'

/-! ## Sections -/

def validateMode (raw : String) : Checked RuntimeMode :=
  match Text.toAsciiLowercase (Text.trim raw) with
  | "demo" => .ok .demo
  | "production" => .ok .production
  | value => .error (.invalid s!"server.mode `{value}` must be demo or production")

def parseListen (field value : String) : Checked SocketAddr :=
  match parseSocketAddr value with
  | some address => .ok address
  | none => .error (.invalid s!"{field}: invalid socket address syntax")

def requireReadableFile (externals : Externals) (field path : String) : Checked Unit :=
  match externals.isFile path with
  | .error err => .error (.invalid s!"{field} `{path}` is not readable: {err}")
  | .ok isFile => require isFile s!"{field} `{path}` must be a file"

def requirePath (field : String) (path : Option String) : Checked String :=
  match path with
  | some path => .ok path
  | none => .error (.invalid s!"{field} is required when TLS is enabled")

def validateServerTls (externals : Externals) (raw : TlsRawConfig) (mode : RuntimeMode) :
    Checked TlsConfig := do
  require (!mode.isProduction || raw.enabled)
    "server.tls.enabled must be true in production mode"
  let certPath := trimmed raw.certPath
  let keyPath := trimmed raw.keyPath
  if raw.enabled then
    let cert ← requirePath "server.tls.cert_path" certPath
    let key ← requirePath "server.tls.key_path" keyPath
    requireReadableFile externals "server.tls.cert_path" cert
    requireReadableFile externals "server.tls.key_path" key
  return ⟨raw.enabled, certPath, keyPath⟩

def validateAdmin (externals : Externals) (raw : AdminRawConfig) (adminListen : SocketAddr)
    (mode : RuntimeMode) : Checked AdminConfig := do
  require (!mode.isProduction || adminListen.ip.isLoopback || raw.allowInternalNetwork)
    "admin.allow_internal_network must be true when production admin_listen is non-loopback"
  let tokenEnv := trimmed raw.tokenEnv
  let token := trimmed (tokenEnv.bind externals.envVar)
  let name := tokenEnv.getD "TRACEGATE_ADMIN_TOKEN"
  require (!mode.isProduction || token.isSome)
    s!"admin token env `{name}` must contain a non-empty token in production mode"
  return ⟨tokenEnv, token, raw.allowInternalNetwork⟩

def validateUpstreamTls (externals : Externals) (raw : UpstreamTlsRawConfig) :
    Checked UpstreamTlsConfig := do
  let caCertPath := trimmed raw.caCertPath
  match caCertPath with
  | some path => requireReadableFile externals "upstream_tls.ca_cert_path" path
  | none => pure ()
  return ⟨caCertPath⟩

/-- The URL of the storage: written out, or named by a variable, or the default. -/
def storageUrl (externals : Externals) (raw : StorageRawConfig) : Checked String :=
  match trimmed raw.url, trimmed raw.urlEnv with
  | some url, none => .ok url
  | none, some envName =>
      match trimmed (externals.envVar envName) with
      | some url => .ok url
      | none => .error (.invalid s!"storage.url_env `{envName}` must contain a non-empty URL")
  | some _, some _ => .error (.invalid "storage.url and storage.url_env cannot both be set")
  | none, none => .ok StorageConfig.default.url

def validateStorage (externals : Externals) (raw : StorageRawConfig) (mode : RuntimeMode) :
    Checked StorageConfig := do
  let driver := Text.toAsciiLowercase (Text.trim raw.driver)
  let rawDriver := raw.driver
  require (driver == "sqlite" || driver == "postgres")
    s!"storage.driver must be `sqlite` or `postgres`, got `{rawDriver}`"
  let url ← storageUrl externals raw
  require (!url.isEmpty) "storage.url cannot be empty"
  require (driver != "sqlite" || Text.startsWith url "sqlite:")
    s!"storage.url `{url}` must use the sqlite scheme"
  require (driver != "postgres" || Text.startsWith url "postgres://" ||
      Text.startsWith url "postgresql://")
    s!"storage.url `{url}` must use the postgres scheme"
  let defaults := StorageConfig.default
  let retentionDays ← requiredOrDefault "storage.retention_days" raw.retentionDays
    defaults.retentionDays mode
  let maxTotalCaptureBytes ← requiredOrDefault "storage.max_total_capture_bytes"
    raw.maxTotalCaptureBytes defaults.maxTotalCaptureBytes mode
  let maxCaptureBytesPerRequest ← requiredOrDefault "storage.max_capture_bytes_per_request"
    raw.maxCaptureBytesPerRequest defaults.maxCaptureBytesPerRequest mode
  let captureQueueCapacity ← requiredOrDefault "storage.capture_queue_capacity"
    raw.captureQueueCapacity defaults.captureQueueCapacity mode
  requireBetween "storage.retention_days" 1 365 retentionDays
  require (decide (0 < maxTotalCaptureBytes))
    "storage.max_total_capture_bytes must be greater than 0"
  require (decide (0 < maxCaptureBytesPerRequest))
    "storage.max_capture_bytes_per_request must be greater than 0"
  require (decide (maxCaptureBytesPerRequest ≤ maxTotalCaptureBytes))
    ("storage.max_capture_bytes_per_request cannot exceed " ++
      "storage.max_total_capture_bytes")
  requireBetween "storage.capture_queue_capacity" 1 1000000 captureQueueCapacity
  return ⟨driver, url, retentionDays, maxTotalCaptureBytes, maxCaptureBytesPerRequest,
    captureQueueCapacity⟩

/-- The loop of `normalize_redaction_list` over the values left. -/
def normalizeValues (field : String) : List String → List String → Checked (List String)
  | [], _ => .ok []
  | value :: rest, seen => do
      let value := Text.toAsciiLowercase (Text.trim value)
      require (!value.isEmpty) s!"{field} cannot contain empty values"
      require (value.toList.all isNameChar)
        (s!"{field} value `{value}` may only contain ASCII letters, digits, hyphen, " ++
          "underscore, or dot")
      let normalized ← normalizeValues field rest (value :: seen)
      return if seen.contains value then normalized else value :: normalized

def normalizeRedactionList (field : String) (values : List String) : Checked (List String) :=
  normalizeValues field values []

def validateRedaction (raw : RedactionRawConfig) : Checked RedactionConfig := do
  let headers ← normalizeRedactionList "redaction.headers" raw.headers
  let queryParams ← normalizeRedactionList "redaction.query_params" raw.queryParams
  require (!headers.isEmpty) "redaction.headers cannot be empty"
  require (!queryParams.isEmpty) "redaction.query_params cannot be empty"
  return ⟨headers, queryParams⟩

def validateOtlpEndpoint (externals : Externals) (value : String) : Checked String :=
  match externals.parseUrl value with
  | .error err => .error (.invalid s!"observability.otlp_endpoint `{value}`: {err}")
  | .ok parsed =>
      let scheme := parsed.scheme
      if scheme = "http" ∨ scheme = "https" then .ok value
      else .error (.invalid
        s!"observability.otlp_endpoint `{value}` must use http or https, got `{scheme}`")

def validateObservability (externals : Externals) (logging : LoggingConfig)
    (raw : ObservabilityRawConfig) : Checked ObservabilityConfig := do
  let serviceName := Text.trim raw.serviceName
  require (!serviceName.isEmpty) "observability.service_name cannot be empty"
  let environment := Text.trim raw.environment
  require (!environment.isEmpty) "observability.environment cannot be empty"
  let otlpEndpoint ←
    match trimmed raw.otlpEndpoint with
    | none => .ok none
    | some value => (validateOtlpEndpoint externals value).map some
  let jsonLogs := (raw.jsonLogs.or logging.json).getD defaultJsonLogging
  return ⟨serviceName, environment, otlpEndpoint, raw.prometheusEnabled, jsonLogs⟩

/-! ## Routes -/

/-- The checks of route and plugin identifiers. -/
def validateId (kind id : String) : Checked Unit := do
  require (!id.isEmpty) s!"{kind} id cannot be empty"
  require (id.toList.all isIdChar)
    s!"{kind} id `{id}` may only contain ASCII letters, digits, hyphen, or underscore"

def validateRouteId (id : String) : Checked Unit := validateId "route" id

def validatePluginId (id : String) : Checked Unit := validateId "plugin" id

def validateHost (routeId host : String) : Checked Unit := do
  require (!(Text.trim host).isEmpty) s!"route `{routeId}` contains an empty host"
  require (host == "*" || !(host.toList.contains '/' || host.toList.contains ':'))
    s!"route `{routeId}` host `{host}` must be `*` or a hostname without scheme/port"

def validateHosts (routeId : String) (hosts : List String) : Checked Unit := do
  require (!hosts.isEmpty) s!"route `{routeId}` must define at least one host"
  hosts.forM (validateHost routeId)

def validatePathPrefix (routeId pathPrefix : String) : Checked Unit := do
  require (Text.startsWith pathPrefix "/") s!"route `{routeId}` path_prefix must start with `/`"
  require (!(decide (1 < pathPrefix.utf8ByteSize) && Text.endsWith pathPrefix "/"))
    s!"route `{routeId}` path_prefix must not end with `/`"

/-- `str::trim_matches` of the two brackets. -/
def trimBrackets (value : String) : String :=
  let isBracket := fun char => char == '[' || char == ']'
  String.ofList ((value.toList.dropWhile isBracket).reverse.dropWhile isBracket).reverse

def isBlockedUpstreamHost (host : String) (port : Option Nat) (adminListen : SocketAddr) : Bool :=
  let host := Text.toAsciiLowercase (trimBrackets host)
  if ["localhost", "metadata.google.internal", "169.254.169.254", "::1"].contains host then true
  else if Text.startsWith host "127." || host == "0.0.0.0" then true
  else
    match parseIpAddr host, port with
    | some ip, some port => decide (adminListen.ip = ip ∧ adminListen.port = port)
    | _, _ => false

/-- `Upstream::parse`. -/
def parseUpstream (externals : Externals) (value : String) : Checked Upstream :=
  match externals.parseUri value with
  | .error err => .error (.invalid s!"invalid upstream URI `{value}`: {err}")
  | .ok (none, _) => .error (.invalid s!"invalid upstream URI `{value}`: missing scheme")
  | .ok (some _, none) => .error (.invalid s!"invalid upstream URI `{value}`: missing authority")
  | .ok (some scheme, some authority) => .ok ⟨scheme, authority⟩

def validateUpstream (externals : Externals) (routeId value : String) (mode : RuntimeMode)
    (adminListen : SocketAddr) : Checked Upstream :=
  match externals.parseUrl value with
  | .error err => .error (.invalid s!"route `{routeId}` upstream `{value}` is invalid: {err}")
  | .ok parsed => do
      require (!mode.isProduction || parsed.scheme == "https")
        s!"route `{routeId}` upstream `{value}` must use https in production mode"
      require (parsed.scheme == "http" || parsed.scheme == "https")
        s!"route `{routeId}` upstream `{value}` must use http or https"
      match parsed.host with
      | none => .error (.invalid s!"route `{routeId}` upstream `{value}` must include a host")
      | some host =>
          require (!(mode.isProduction &&
              isBlockedUpstreamHost host.str parsed.portOrKnownDefault adminListen))
            (s!"route `{routeId}` upstream `{value}` targets a blocked local, metadata, " ++
              "or admin address")
          require (parsed.path == "/" && parsed.query.isNone && parsed.fragment.isNone)
            (s!"route `{routeId}` upstream `{value}` must be an origin such as " ++
              "http://service:3000")
          parseUpstream externals value

def validateCapturePolicy (routeId raw : String) : Checked CapturePolicy :=
  match Text.toAsciiLowercase (Text.trim raw) with
  | "off" => .ok .off
  | "errors" => .ok .errors
  | "slow" => .ok .slow
  | "errors_and_slow" => .ok .errorsAndSlow
  | "always" => .ok .always
  | value => .error (.invalid (s!"route `{routeId}` capture_policy `{value}` must be one of " ++
      "off, errors, slow, errors_and_slow, always"))

def validateCapture (route : RouteConfig) (storage : StorageConfig) : Checked CaptureConfig := do
  let routeId := route.id
  let policy ← validateCapturePolicy routeId route.capturePolicy
  requireBetween s!"route `{routeId}` slow_threshold_ms" 1 600000 route.slowThresholdMs
  require (decide (route.captureResponseBodyBytes ≤ storage.maxCaptureBytesPerRequest))
    (s!"route `{routeId}` capture_response_body_bytes cannot exceed " ++
      "storage.max_capture_bytes_per_request")
  return ⟨policy, fromMillis route.slowThresholdMs, route.captureRequestBody,
    route.captureResponseBodyBytes⟩

/-- One iteration of the loop over the routes, with the identifiers seen before. -/
def validateRoute (externals : Externals) (mode : RuntimeMode) (adminListen : SocketAddr)
    (storage : StorageConfig) (seen : List String) (route : RouteConfig) : Checked Route := do
  let id := route.id
  validateRouteId id
  require (!seen.contains id) s!"duplicate route id `{id}`"
  validateHosts id route.hosts
  validatePathPrefix id route.pathPrefix
  require (!route.upstreams.isEmpty) s!"route `{id}` must define at least one upstream"
  requireBetween s!"route `{id}` timeout_ms" 1 60000 route.timeoutMs
  requireBetween s!"route `{id}` retries" 0 3 route.retries
  requireBetween s!"route `{id}` concurrency_limit" 1 100000 route.concurrencyLimit
  requireBetween s!"route `{id}` passive_health_failures" 1 100 route.passiveHealthFailures
  requireBetween s!"route `{id}` passive_health_cooldown_ms" 1 600000 route.passiveHealthCooldownMs
  let upstreams ← route.upstreams.mapM fun upstream =>
    validateUpstream externals id upstream mode adminListen
  let capture ← validateCapture route storage
  return {
    id := id, hosts := route.hosts, pathPrefix := route.pathPrefix, upstreams := upstreams
    timeout := fromMillis route.timeoutMs, retries := route.retries, capture := capture
    concurrencyLimit := route.concurrencyLimit
    passiveHealthFailures := route.passiveHealthFailures
    passiveHealthCooldown := fromMillis route.passiveHealthCooldownMs }

/-- The loop over the routes. -/
def validateRoutes (externals : Externals) (mode : RuntimeMode) (adminListen : SocketAddr)
    (storage : StorageConfig) : List RouteConfig → List String → Checked (List Route)
  | [], _ => .ok []
  | route :: rest, seen => do
      let first ← validateRoute externals mode adminListen storage seen route
      let others ← validateRoutes externals mode adminListen storage rest (route.id :: seen)
      return first :: others

/-! ## Plugins -/

def validatePluginHook (pluginId raw : String) : Checked PluginHook :=
  match Text.toAsciiLowercase (Text.trim raw) with
  | "before_request" => .ok .beforeRequest
  | value => .error (.invalid s!"plugin `{pluginId}` hook `{value}` must be before_request")

/-- The routes a plugin targets, each once. -/
def validatePluginRoutes (pluginId : String) (routeIds : List String) :
    List String → List String → Checked (List String)
  | [], _ => .ok []
  | route :: rest, seen => do
      validateRouteId route
      require (routeIds.contains route) s!"plugin `{pluginId}` references unknown route `{route}`"
      let others ← validatePluginRoutes pluginId routeIds rest (route :: seen)
      return if seen.contains route then others else route :: others

def validatePluginConfigEntry (pluginId : String) (entry : String × String) :
    Checked PluginConfigValue := do
  let key := Text.trim entry.1
  require (!key.isEmpty) s!"plugin `{pluginId}` config key cannot be empty"
  require (key.toList.all isNameChar)
    (s!"plugin `{pluginId}` config key `{key}` may only contain ASCII letters, digits, " ++
      "hyphen, underscore, or dot")
  require (decide (entry.2.length ≤ 4096))
    s!"plugin `{pluginId}` config value `{key}` cannot exceed 4096 characters"
  return ⟨key, entry.2⟩

def validatePluginConfig (pluginId : String) (raw : List (String × String)) :
    Checked (List PluginConfigValue) :=
  raw.mapM (validatePluginConfigEntry pluginId)

/-- One iteration of the loop over the plugins, with the identifiers seen before. -/
def validatePlugin (routeIds : List String) (mode : RuntimeMode) (seen : List String)
    (plugin : PluginRawConfig) : Checked PluginConfig := do
  let id := plugin.id
  validatePluginId id
  require (!seen.contains id) s!"duplicate plugin id `{id}`"
  let path := Text.trim plugin.path
  require (!path.isEmpty) s!"plugin `{id}` path cannot be empty"
  let hook ← validatePluginHook id plugin.hook
  require (!plugin.routes.isEmpty) s!"plugin `{id}` must target at least one route"
  let routes ← validatePluginRoutes id routeIds plugin.routes []
  let timeoutMs ← requiredOrDefault s!"plugin `{id}` timeout_ms" plugin.timeoutMs
    defaultPluginTimeoutMs mode
  let memoryLimitBytes ← requiredOrDefault s!"plugin `{id}` memory_limit_bytes"
    plugin.memoryLimitBytes defaultPluginMemoryLimitBytes mode
  let fuel ← requiredOrDefault s!"plugin `{id}` fuel" plugin.fuel defaultPluginFuel mode
  requireBetween s!"plugin `{id}` timeout_ms" 1 5000 timeoutMs
  requireBetween s!"plugin `{id}` memory_limit_bytes" 65536 134217728 memoryLimitBytes
  require (decide (0 < fuel)) s!"plugin `{id}` fuel must be greater than 0"
  require (decide (plugin.bodyPreviewBytes ≤ 65536))
    s!"plugin `{id}` body_preview_bytes cannot exceed 65536"
  let rawHeaders ← normalizeRedactionList s!"plugin `{id}` raw_headers" plugin.rawHeaders
  let config ← validatePluginConfig id plugin.config
  return {
    id := id, path := path, hook := hook, routes := routes, timeout := fromMillis timeoutMs
    memoryLimitBytes := memoryLimitBytes, fuel := fuel
    bodyPreviewBytes := plugin.bodyPreviewBytes, rawHeaders := rawHeaders, config := config }

/-- The loop over the plugins. -/
def validatePlugins (routeIds : List String) (mode : RuntimeMode) :
    List PluginRawConfig → List String → Checked (List PluginConfig)
  | [], _ => .ok []
  | plugin :: rest, seen => do
      let first ← validatePlugin routeIds mode seen plugin
      let others ← validatePlugins routeIds mode rest (plugin.id :: seen)
      return first :: others

/-! ## The whole -/

def RawConfig.validate (externals : Externals) (raw : RawConfig) : Checked AppConfig := do
  let mode ← validateMode raw.server.mode
  let listen ← parseListen "server.listen" raw.server.listen
  let adminListen ← parseListen "server.admin_listen"
    (raw.server.adminListen.getD defaultAdminListen)
  let serverTls ← validateServerTls externals raw.server.tls mode
  let admin ← validateAdmin externals raw.admin adminListen mode
  let upstreamTls ← validateUpstreamTls externals raw.upstreamTls
  let observability ← validateObservability externals raw.logging raw.observability
  let storage ← validateStorage externals raw.storage mode
  let redaction ← validateRedaction raw.redaction
  require (!raw.routes.isEmpty) "at least one route must be configured"
  let routes ← validateRoutes externals mode adminListen storage raw.routes []
  let plugins ← validatePlugins (raw.routes.map RouteConfig.id) mode raw.plugins []
  return {
    mode := mode, listen := listen, adminListen := adminListen, serverTls := serverTls
    admin := admin, upstreamTls := upstreamTls, storage := storage, redaction := redaction
    observability := observability, routes := routes, plugins := plugins }

/-- `load_config`, for what reading the file answers. -/
def loadConfig (externals : Externals) (path : String) (content : Except String String) :
    Checked AppConfig :=
  match content with
  | .error reason => .error (.read path reason)
  | .ok text =>
      match externals.parseToml text with
      | .error reason => .error (.malformed path reason)
      | .ok document =>
          match readConfig (.table document) with
          | .error fault => .error (.parse path fault)
          | .ok raw => raw.validate externals

end Config

end TraceGate
