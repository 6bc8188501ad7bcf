import TraceGate.Core
import TraceGate.Toml

/-!
# The configuration as it is written

The raw records of the configuration crate and their derived readers, with both
layers of defaults: that of a field that is absent from its table, and that of a
whole section that is absent from the document. The two do not agree for `storage`:
a section without its caps has none, while an absent section has the default caps.
-/

namespace TraceGate.Config

structure TlsRawConfig where
  enabled : Bool
  certPath : Option String
  keyPath : Option String
deriving DecidableEq

structure ServerConfig where
  mode : String
  listen : String
  adminListen : Option String
  tls : TlsRawConfig
deriving DecidableEq

structure AdminRawConfig where
  tokenEnv : Option String
  allowInternalNetwork : Bool
deriving DecidableEq

structure UpstreamTlsRawConfig where
  caCertPath : Option String
deriving DecidableEq

structure LoggingConfig where
  json : Option Bool
deriving DecidableEq

structure StorageRawConfig where
  driver : String
  url : Option String
  urlEnv : Option String
  retentionDays : Option Nat
  maxTotalCaptureBytes : Option Nat
  maxCaptureBytesPerRequest : Option Nat
  captureQueueCapacity : Option Nat
deriving DecidableEq

structure RedactionRawConfig where
  headers : List String
  queryParams : List String
deriving DecidableEq

structure ObservabilityRawConfig where
  serviceName : String
  environment : String
  otlpEndpoint : Option String
  prometheusEnabled : Bool
  jsonLogs : Option Bool
deriving DecidableEq

structure RouteConfig where
  id : String
  hosts : List String
  pathPrefix : String
  upstreams : List String
  timeoutMs : Nat
  retries : Nat
  concurrencyLimit : Nat
  passiveHealthFailures : Nat
  passiveHealthCooldownMs : Nat
  capturePolicy : String
  slowThresholdMs : Nat
  captureRequestBody : Bool
  captureResponseBodyBytes : Nat
deriving DecidableEq

structure PluginRawConfig where
  id : String
  path : String
  hook : String
  routes : List String
  timeoutMs : Option Nat
  memoryLimitBytes : Option Nat
  fuel : Option Nat
  bodyPreviewBytes : Nat
  rawHeaders : List String
  config : List (String × String)
deriving DecidableEq

structure RawConfig where
  server : ServerConfig
  admin : AdminRawConfig
  upstreamTls : UpstreamTlsRawConfig
  storage : StorageRawConfig
  redaction : RedactionRawConfig
  logging : LoggingConfig
  observability : ObservabilityRawConfig
  routes : List RouteConfig
  plugins : List PluginRawConfig
deriving DecidableEq

/-! ## Defaults -/

def defaultMode : String := "demo"
def defaultJsonLogging : Bool := true
def defaultAdminListen : String := "127.0.0.1:9090"
def defaultAdminTokenEnv : Option String := some "TRACEGATE_ADMIN_TOKEN"
def defaultServiceName : String := "tracegate"
def defaultEnvironment : String := "local"
def defaultPrometheusEnabled : Bool := true
def defaultTimeoutMs : Nat := 3000
def defaultCapturePolicy : String := "off"
def defaultSlowThresholdMs : Nat := 500
def defaultPluginHook : String := "before_request"
def defaultPluginTimeoutMs : Nat := 5
def defaultPluginMemoryLimitBytes : Nat := 16 * 1024 * 1024
def defaultPluginFuel : Nat := 10000000
def defaultConcurrencyLimit : Nat := 100
def defaultPassiveHealthFailures : Nat := 3
def defaultPassiveHealthCooldownMs : Nat := 10000

/-! The defaults of absent sections. -/

def TlsRawConfig.default : TlsRawConfig := ⟨false, none, none⟩

def AdminRawConfig.default : AdminRawConfig := ⟨defaultAdminTokenEnv, false⟩

def UpstreamTlsRawConfig.default : UpstreamTlsRawConfig := ⟨none⟩

def LoggingConfig.default : LoggingConfig := ⟨none⟩

def StorageRawConfig.default : StorageRawConfig :=
  let defaults := StorageConfig.default
  { driver := defaults.driver
    url := some defaults.url
    urlEnv := none
    retentionDays := some defaults.retentionDays
    maxTotalCaptureBytes := some defaults.maxTotalCaptureBytes
    maxCaptureBytesPerRequest := some defaults.maxCaptureBytesPerRequest
    captureQueueCapacity := some defaults.captureQueueCapacity }

def RedactionRawConfig.default : RedactionRawConfig :=
  ⟨RedactionConfig.default.headers, RedactionConfig.default.queryParams⟩

def ObservabilityRawConfig.default : ObservabilityRawConfig :=
  ⟨defaultServiceName, defaultEnvironment, none, defaultPrometheusEnabled, none⟩

/-! ## Readers -/

open Toml

/-- `u32`, `u64` and `usize`, of a 64-bit target. -/
def u32 : Reader Nat := unsigned (2 ^ 32 - 1)
def u64 : Reader Nat := unsigned (2 ^ 64 - 1)
def usize : Reader Nat := unsigned usizeMax

/-- A present option is read as its content. -/
def present {α : Type} (read : Reader α) : Reader (Option α) := fun value =>
  (read value).map some

def readTls : Reader TlsRawConfig := fun value => do
  let fields ← value.fields
  return {
    enabled := ← defaulted fields "enabled" 0 boolean false
    certPath := ← optional fields "cert_path" 1 string
    keyPath := ← optional fields "key_path" 2 string }

def readServer : Reader ServerConfig := fun value => do
  let fields ← value.fields
  return {
    mode := ← defaulted fields "mode" 0 string defaultMode
    listen := ← required fields "listen" 1 string
    adminListen := ← optional fields "admin_listen" 2 string
    tls := ← defaulted fields "tls" 3 readTls TlsRawConfig.default }

def readAdmin : Reader AdminRawConfig := fun value => do
  let fields ← value.fields
  return {
    tokenEnv := ← defaulted fields "token_env" 0 (present string) defaultAdminTokenEnv
    allowInternalNetwork := ← defaulted fields "allow_internal_network" 1 boolean false }

def readUpstreamTls : Reader UpstreamTlsRawConfig := fun value => do
  let fields ← value.fields
  return { caCertPath := ← optional fields "ca_cert_path" 0 string }

/-- The only option without a default: an array has to hold it. -/
def readLogging : Reader LoggingConfig := fun value => do
  let fields ← value.fields
  match value with
  | .array _ => return { json := ← required fields "json" 0 (present boolean) }
  | _ => return { json := ← optional fields "json" 0 boolean }

def readStorage : Reader StorageRawConfig := fun value => do
  let fields ← value.fields
  return {
    driver := ← defaulted fields "driver" 0 string StorageConfig.default.driver
    url := ← optional fields "url" 1 string
    urlEnv := ← optional fields "url_env" 2 string
    retentionDays := ← optional fields "retention_days" 3 u32
    maxTotalCaptureBytes := ← optional fields "max_total_capture_bytes" 4 u64
    maxCaptureBytesPerRequest := ← optional fields "max_capture_bytes_per_request" 5 u64
    captureQueueCapacity := ← optional fields "capture_queue_capacity" 6 usize }

def readRedaction : Reader RedactionRawConfig := fun value => do
  let fields ← value.fields
  return {
    headers := ← defaulted fields "headers" 0 (list string) RedactionConfig.default.headers
    queryParams :=
      ← defaulted fields "query_params" 1 (list string) RedactionConfig.default.queryParams }

def readObservability : Reader ObservabilityRawConfig := fun value => do
  let fields ← value.fields
  return {
    serviceName := ← defaulted fields "service_name" 0 string defaultServiceName
    environment := ← defaulted fields "environment" 1 string defaultEnvironment
    otlpEndpoint := ← optional fields "otlp_endpoint" 2 string
    prometheusEnabled := ← defaulted fields "prometheus_enabled" 3 boolean defaultPrometheusEnabled
    jsonLogs := ← optional fields "json_logs" 4 boolean }

def readRoute : Reader RouteConfig := fun value => do
  let fields ← value.fields
  return {
    id := ← required fields "id" 0 string
    hosts := ← required fields "hosts" 1 (list string)
    pathPrefix := ← required fields "path_prefix" 2 string
    upstreams := ← required fields "upstreams" 3 (list string)
    timeoutMs := ← defaulted fields "timeout_ms" 4 u64 defaultTimeoutMs
    retries := ← defaulted fields "retries" 5 u32 0
    concurrencyLimit := ← defaulted fields "concurrency_limit" 6 usize defaultConcurrencyLimit
    passiveHealthFailures :=
      ← defaulted fields "passive_health_failures" 7 u32 defaultPassiveHealthFailures
    passiveHealthCooldownMs :=
      ← defaulted fields "passive_health_cooldown_ms" 8 u64 defaultPassiveHealthCooldownMs
    capturePolicy := ← defaulted fields "capture_policy" 9 string defaultCapturePolicy
    slowThresholdMs := ← defaulted fields "slow_threshold_ms" 10 u64 defaultSlowThresholdMs
    captureRequestBody := ← defaulted fields "capture_request_body" 11 boolean false
    captureResponseBodyBytes := ← defaulted fields "capture_response_body_bytes" 12 u64 0 }

def readPlugin : Reader PluginRawConfig := fun value => do
  let fields ← value.fields
  return {
    id := ← required fields "id" 0 string
    path := ← required fields "path" 1 string
    hook := ← defaulted fields "hook" 2 string defaultPluginHook
    routes := ← defaulted fields "routes" 3 (list string) []
    timeoutMs := ← optional fields "timeout_ms" 4 u64
    memoryLimitBytes := ← optional fields "memory_limit_bytes" 5 u64
    fuel := ← optional fields "fuel" 6 u64
    bodyPreviewBytes := ← defaulted fields "body_preview_bytes" 7 u64 0
    rawHeaders := ← defaulted fields "raw_headers" 8 (list string) []
    config := ← defaulted fields "config" 9 stringMap [] }

/-- `toml::from_str`, on the parsed document. -/
def readConfig : Reader RawConfig := fun document => do
  let fields ← document.fields
  return {
    server := ← required fields "server" 0 readServer
    admin := ← defaulted fields "admin" 1 readAdmin AdminRawConfig.default
    upstreamTls := ← defaulted fields "upstream_tls" 2 readUpstreamTls UpstreamTlsRawConfig.default
    storage := ← defaulted fields "storage" 3 readStorage StorageRawConfig.default
    redaction := ← defaulted fields "redaction" 4 readRedaction RedactionRawConfig.default
    logging := ← defaulted fields "logging" 5 readLogging LoggingConfig.default
    observability :=
      ← defaulted fields "observability" 6 readObservability ObservabilityRawConfig.default
    routes := ← defaulted fields "routes" 7 (list readRoute) []
    plugins := ← defaulted fields "plugins" 8 (list readPlugin) [] }

end TraceGate.Config
