import TraceGate.Reloads

/-!
# What is built once

Starting the gateway builds the telemetry, the listeners, the store with its capture
queue, the client for upstreams and the TLS acceptor from the configuration. A reload
builds none of them again. It refuses a configuration that changes what they were
built from, with one exception: the telemetry is built from the observability
section, which is not among the immutable fields.

What the system answers to opening files, binding addresses, connecting to the store
and setting up the tracing crates is a parameter.
-/

namespace TraceGate

/-- What starting asks of the system and of other crates. -/
structure Machine (Cert Key : Type) where
  buildExporter : String → Except String Unit
  setGlobalDefault : Except String Unit
  bind : SocketAddr → Except String Unit
  connectSqlite : String → Except String Unit
  connectPostgres : String → Except String Unit
  migrate : StorageConfig → Except String Unit
  runRetention : StorageConfig → Except String Unit
  openFile : String → Except String (List UInt8)
  pemCerts : List UInt8 → Except String (List Cert)
  pemPrivateKey : List UInt8 → Except String (Option Key)
  addRoot : Cert → Except String Unit
  withSingleCert : List Cert → Key → Except String Unit

/-- The text of an error, with what the failing part was. -/
def labelled {α : Type} (label : String) (result : Except String α) : Except String α :=
  result.mapError (label ++ ·)

/-! ## Telemetry -/

/-- The exporter's endpoint and the resource its spans are sent with. -/
structure TracerProvider where
  endpoint : String
  serviceName : String
  environment : String
deriving DecidableEq

/-- The installed subscriber: the format of logs, and the tracer of its spans. -/
structure Subscriber where
  json : Bool
  tracer : Option String
deriving DecidableEq

structure ObservabilityRuntime where
  prometheusEnabled : Bool
  tracerProvider : Option TracerProvider
  subscriber : Subscriber
deriving DecidableEq

variable {Cert Key Component : Type}

namespace Machine

variable (machine : Machine Cert Key)

def tracerProvider (config : ObservabilityConfig) : Except String (Option TracerProvider) :=
  match config.otlpEndpoint with
  | none => .ok none
  | some endpoint => do
      labelled "failed to initialize OTLP trace exporter: " (machine.buildExporter endpoint)
      return some ⟨endpoint, config.serviceName, config.environment⟩

/-- `tracegate_observability::init`. -/
def initObservability (config : ObservabilityConfig) : Except String ObservabilityRuntime := do
  let provider ← machine.tracerProvider config
  labelled "failed to install tracing subscriber: " machine.setGlobalDefault
  return ⟨config.prometheusEnabled, provider,
    ⟨config.jsonLogs, provider.map fun _ => config.serviceName⟩⟩

/-! ## The store -/

inductive StorageBackend where
  | sqlite (url : String)
  | postgres (url : String)
deriving DecidableEq

structure Storage where
  backend : StorageBackend
  config : StorageConfig
deriving DecidableEq

/-- `Storage::connect`. -/
def connect (config : StorageConfig) : Except String Storage :=
  match config.driver with
  | "sqlite" => do
      machine.connectSqlite config.url
      return ⟨.sqlite config.url, config⟩
  | "postgres" => do
      machine.connectPostgres config.url
      return ⟨.postgres config.url, config⟩
  | driver => .error s!"invalid storage config: unsupported storage driver `{driver}`"

def initializeStorage (config : StorageConfig) : Except String Storage :=
  labelled "capture store error: " do
    let storage ← machine.connect config
    machine.migrate config
    machine.runRetention config
    return storage

/-! ## Connections -/

def loadCerts (path : String) : Except String (List Cert) := do
  let file ← labelled s!"TLS error: failed to open cert {path}: " (machine.openFile path)
  labelled s!"TLS error: failed to read cert {path}: " (machine.pemCerts file)

def loadPrivateKey (path : String) : Except String Key := do
  let file ← labelled s!"TLS error: failed to open key {path}: " (machine.openFile path)
  match ← labelled s!"TLS error: failed to read key {path}: " (machine.pemPrivateKey file) with
  | some key => .ok key
  | none => .error s!"TLS error: no private key found in {path}"

/-- `build_upstream_client`: the roots that are trusted beside the usual ones. -/
def buildUpstreamClient (config : UpstreamTlsConfig) : Except String (List Cert) :=
  match config.caCertPath with
  | none => .ok []
  | some path => do
      let certs ← machine.loadCerts path
      certs.forM fun cert => labelled "TLS error: invalid upstream CA: " (machine.addRoot cert)
      return certs

/-- `tls_acceptor`: the certificates and the key that are shown. -/
def tlsAcceptor (config : TlsConfig) : Except String (Option (List Cert × Key)) :=
  if !config.enabled then .ok none
  else
    match config.certPath, config.keyPath with
    | none, _ => .error "TLS error: server TLS cert_path is missing"
    | some _, none => .error "TLS error: server TLS key_path is missing"
    | some certPath, some keyPath => do
        let certs ← machine.loadCerts certPath
        let key ← machine.loadPrivateKey keyPath
        labelled "TLS error: " (machine.withSingleCert certs key)
        return some (certs, key)

end Machine

/-! ## The gateway -/

/-- A running gateway: what was built once, and the two cells a reload writes. -/
structure Gateway (Cert Key Component : Type) where
  observability : ObservabilityRuntime
  listener : SocketAddr
  adminListener : SocketAddr
  storage : Machine.Storage
  captureQueueCapacity : Nat
  client : List Cert
  tlsAcceptor : Option (List Cert × Key)
  state : GatewayState Component
  currentConfig : AppConfig

namespace Gateway

/-- `serve`, up to where connections are accepted. -/
def start (machine : Machine Cert Key) (wasm : Policy.Wasmtime Component) (config : AppConfig) :
    Except String (Gateway Cert Key Component) := do
  let observability ← machine.initObservability config.observability
  labelled "failed to bind listener: " (machine.bind config.listen)
  labelled "failed to bind listener: " (machine.bind config.adminListen)
  let storage ← machine.initializeStorage config.storage
  let client ← machine.buildUpstreamClient config.upstreamTls
  let state ← labelled "policy engine error: "
    ((GatewayState.new wasm config).mapError Policy.PolicyError.text)
  let acceptor ← machine.tlsAcceptor config.serverTls
  return {
    observability := observability, listener := config.listen
    adminListener := config.adminListen, storage := storage
    captureQueueCapacity := config.storage.captureQueueCapacity, client := client
    tlsAcceptor := acceptor, state := state, currentConfig := config }

/-- A reload of a configuration that loaded, seen from outside. -/
def reload (wasm : Policy.Wasmtime Component) (gateway : Gateway Cert Key Component)
    (next : AppConfig) : Except String (Gateway Cert Key Component) := do
  let state ← reloadGateway wasm gateway.currentConfig next
  return { gateway with state := state, currentConfig := next }

/-- `GET /metrics`, for what rendering the registry answers: the status, the type of
the content, and the body. -/
def metrics (gateway : Gateway Cert Key Component) (headers : HeaderMap)
    (rendered : Except String String) : Nat × String × String :=
  if !legacyAuthorized headers gateway.currentConfig.admin "/metrics" then
    (401, "text/plain; charset=utf-8", "unauthorized\n")
  else if !gateway.observability.prometheusEnabled then
    (404, "text/plain; charset=utf-8", "metrics disabled\n")
  else
    match rendered with
    | .ok metrics =>
        (200, "application/openmetrics-text; version=1.0.0; charset=utf-8", metrics)
    | .error err => (500, "text/plain; charset=utf-8", s!"failed to render metrics: {err}\n")

end Gateway

/-! ## What a reload leaves behind -/

/-- A label changes the errors only. -/
@[simp]
theorem labelled_ok_iff {α : Type} (label : String) (result : Except String α) (value : α) :
    labelled label result = .ok value ↔ result = .ok value := by
  cases result with
  | error err => simp [labelled, Except.mapError]
  | ok found => simp [labelled, Except.mapError]

/-- The fields that the telemetry depends on: the names matter only to an exporter. -/
structure SameTelemetry (current next : ObservabilityConfig) : Prop where
  prometheusEnabled : current.prometheusEnabled = next.prometheusEnabled
  jsonLogs : current.jsonLogs = next.jsonLogs
  otlpEndpoint : current.otlpEndpoint = next.otlpEndpoint
  serviceName : next.otlpEndpoint.isSome = true → current.serviceName = next.serviceName
  environment : next.otlpEndpoint.isSome = true → current.environment = next.environment

/-- The runtime of a section whose exporter can be built. -/
def ObservabilityRuntime.ofConfig (config : ObservabilityConfig) : ObservabilityRuntime :=
  ⟨config.prometheusEnabled,
    config.otlpEndpoint.map fun endpoint => ⟨endpoint, config.serviceName, config.environment⟩,
    ⟨config.jsonLogs, config.otlpEndpoint.map fun _ => config.serviceName⟩⟩

/-- The telemetry starts exactly when the exporter of its endpoint can be built, if it has one,
and the subscriber can be installed; it is then what the section asks for. -/
theorem initObservability_ok_iff (machine : Machine Cert Key) (config : ObservabilityConfig)
    (runtime : ObservabilityRuntime) :
    machine.initObservability config = .ok runtime ↔
      (∀ endpoint, config.otlpEndpoint = some endpoint → machine.buildExporter endpoint = .ok ()) ∧
        machine.setGlobalDefault = .ok () ∧ .ofConfig config = runtime := by
  simp only [Machine.initObservability, Machine.tracerProvider, ObservabilityRuntime.ofConfig]
  cases config.otlpEndpoint with
  | none => simp [bind_ok_iff, pure, Except.pure, Unique.exists_iff]
  | some endpoint => simp [bind_ok_iff, pure, Except.pure, Unique.exists_iff]

/-- Two sections ask for the same telemetry exactly when they agree on what it depends on.

Without an endpoint there is no exporter, and then the names of the service and the environment
do not matter. -/
theorem ofConfig_eq_iff (current next : ObservabilityConfig) :
    ObservabilityRuntime.ofConfig current = .ofConfig next ↔ SameTelemetry current next := by
  constructor
  · intro same
    obtain ⟨prometheus, provider, subscriber⟩ := ObservabilityRuntime.mk.inj same
    obtain ⟨json, _⟩ := Subscriber.mk.inj subscriber
    cases endpoint : next.otlpEndpoint with
    | none =>
      have none : current.otlpEndpoint = none := by simpa [endpoint] using provider
      exact ⟨prometheus, json, none.trans endpoint.symm, by simp [endpoint], by simp [endpoint]⟩
    | some url =>
      rw [endpoint, Option.map_some, Option.map_eq_some_iff] at provider
      obtain ⟨own, found, resource⟩ := provider
      obtain ⟨rfl, service, environment⟩ := TracerProvider.mk.inj resource
      exact ⟨prometheus, json, found.trans endpoint.symm, fun _ => service, fun _ => environment⟩
  · intro same
    simp only [ObservabilityRuntime.ofConfig, same.prometheusEnabled, same.jsonLogs,
      same.otlpEndpoint]
    cases endpoint : next.otlpEndpoint with
    | none => rfl
    | some url =>
      have set : next.otlpEndpoint.isSome = true := by rw [endpoint]; rfl
      rw [same.serviceName set, same.environment set]

/-- Two sections start the same telemetry when they agree on what it depends on. -/
theorem initObservability_eq_iff (machine : Machine Cert Key) (current next : ObservabilityConfig)
    (runtime : ObservabilityRuntime) (built : machine.initObservability current = .ok runtime) :
    machine.initObservability next = .ok runtime ↔ SameTelemetry current next := by
  rw [initObservability_ok_iff] at built ⊢
  obtain ⟨exporter, subscriber, rfl⟩ := built
  rw [@eq_comm _ (ObservabilityRuntime.ofConfig next), ofConfig_eq_iff]
  refine ⟨fun same => same.2.2, fun same => ⟨?_, subscriber, same⟩⟩
  intro endpoint found
  exact exporter endpoint (same.otlpEndpoint.trans found)

/-- What starting on a configuration has built, part by part. -/
structure Gateway.Started (machine : Machine Cert Key) (wasm : Policy.Wasmtime Component)
    (config : AppConfig) (gateway : Gateway Cert Key Component) : Prop where
  observability : machine.initObservability config.observability = .ok gateway.observability
  listen : machine.bind config.listen = .ok ()
  adminListen : machine.bind config.adminListen = .ok ()
  storage : machine.initializeStorage config.storage = .ok gateway.storage
  client : machine.buildUpstreamClient config.upstreamTls = .ok gateway.client
  state : (GatewayState.new wasm config).mapError Policy.PolicyError.text = .ok gateway.state
  acceptor : machine.tlsAcceptor config.serverTls = .ok gateway.tlsAcceptor
  result : gateway = { gateway with
    listener := config.listen, adminListener := config.adminListen
    captureQueueCapacity := config.storage.captureQueueCapacity, currentConfig := config }

/-- A start that succeeds has built its parts one by one. -/
theorem Gateway.start_ok {machine : Machine Cert Key} {wasm : Policy.Wasmtime Component}
    {config : AppConfig} {gateway : Gateway Cert Key Component}
    (starts : Gateway.start machine wasm config = .ok gateway) :
    Gateway.Started machine wasm config gateway := by
  simp only [Gateway.start, bind_ok_iff, labelled_ok_iff, pure, Except.pure,
    Except.ok.injEq] at starts
  obtain ⟨observability, observabilityOk, _, listenOk, _, adminListenOk, storage, storageOk,
    client, clientOk, state, stateOk, acceptor, acceptorOk, rfl⟩ := starts
  exact ⟨observabilityOk, listenOk, adminListenOk, storageOk, clientOk, stateOk, acceptorOk, rfl⟩

/-- A reload is accepted with the state that `reload_gateway` builds, and keeps the rest. -/
theorem Gateway.reload_ok {wasm : Policy.Wasmtime Component} {next : AppConfig}
    {running reloaded : Gateway Cert Key Component}
    (accepted : running.reload wasm next = .ok reloaded) :
    reloadGateway wasm running.currentConfig next = .ok reloaded.state ∧
      reloaded = { running with state := reloaded.state, currentConfig := next } := by
  simp only [Gateway.reload, bind_ok_iff, pure, Except.pure, Except.ok.injEq] at accepted
  obtain ⟨state, reloads, rfl⟩ := accepted
  exact ⟨reloads, rfl⟩

/-- Starting on a configuration that a running gateway accepts builds what it has
already, but for the telemetry.

The sections that the parts are built from are those that a reload may not change. -/
theorem start_of_accepted (machine : Machine Cert Key) (wasm : Policy.Wasmtime Component)
    (current next : AppConfig) (running reloaded : Gateway Cert Key Component)
    (started : Gateway.start machine wasm current = .ok running)
    (accepted : running.reload wasm next = .ok reloaded) :
    Gateway.start machine wasm next =
      (machine.initObservability next.observability).map
        fun observability => { reloaded with observability := observability } := by
  have started := Gateway.start_ok started
  obtain ⟨reloads, kept⟩ := Gateway.reload_ok accepted
  rw [started.result] at reloads
  have builds := reloadGateway_eq_ok wasm current next _ reloads
  have same := sameImmutables_of_reloadGateway wasm current next _ reloads
  have listen := started.listen
  have adminListen := started.adminListen
  have storage := started.storage
  have client := started.client
  have acceptor := started.acceptor
  rw [same.listen] at listen
  rw [same.adminListen] at adminListen
  rw [same.storage] at storage
  rw [same.upstreamTls] at client
  rw [same.serverTls] at acceptor
  rw [kept, started.result]
  simp only [Gateway.start, listen, adminListen, storage, client, acceptor, builds,
    same.listen, same.adminListen, same.storage]
  cases machine.initObservability next.observability with
  | error err => rfl
  | ok runtime => rfl

/-- A gateway that accepts a configuration is the one a fresh start on it gives
exactly when the telemetry's settings are unchanged. -/
theorem reload_fully_effective_iff (machine : Machine Cert Key)
    (wasm : Policy.Wasmtime Component) (current next : AppConfig)
    (running reloaded : Gateway Cert Key Component)
    (started : Gateway.start machine wasm current = .ok running)
    (accepted : running.reload wasm next = .ok reloaded) :
    Gateway.start machine wasm next = .ok reloaded ↔
      SameTelemetry current.observability next.observability := by
  have built := (Gateway.start_ok started).observability
  have kept : reloaded.observability = running.observability := by
    rw [(Gateway.reload_ok accepted).2]
  rw [start_of_accepted machine wasm current next running reloaded started accepted,
    ← initObservability_eq_iff machine _ _ _ built, ← kept]
  cases machine.initObservability next.observability with
  | error err => simp [Except.map]
  | ok runtime =>
    constructor
    · intro same
      rw [← Except.ok.inj same]
    · intro same
      rw [Except.ok.inj same]
      rfl

/-! A machine on which everything succeeds. -/

def readyMachine : Machine Unit Unit where
  buildExporter _ := .ok ()
  setGlobalDefault := .ok ()
  bind _ := .ok ()
  connectSqlite _ := .ok ()
  connectPostgres _ := .ok ()
  migrate _ := .ok ()
  runRetention _ := .ok ()
  openFile _ := .ok []
  pemCerts _ := .ok []
  pemPrivateKey _ := .ok (some ())
  addRoot _ := .ok ()
  withSingleCert _ _ := .ok ()

/-- A reload of the redacted headers has the effect of a restart. -/
theorem reload_fully_effective_redaction :
    ∃ running reloaded,
      Gateway.start readyMachine Policy.permissiveWasm (Reloads.sampleConfig "x-first") =
        .ok running ∧
      running.reload Policy.permissiveWasm (Reloads.sampleConfig "x-second") = .ok reloaded ∧
      Gateway.start readyMachine Policy.permissiveWasm (Reloads.sampleConfig "x-second") =
        .ok reloaded :=
  ⟨_, _, rfl, rfl, (reload_fully_effective_iff readyMachine Policy.permissiveWasm
    (Reloads.sampleConfig "x-first") (Reloads.sampleConfig "x-second") _ _ rfl rfl).mpr
      ⟨rfl, rfl, rfl, fun _ => rfl, fun _ => rfl⟩⟩

def unmeasuredConfig : AppConfig :=
  { Reloads.sampleConfig "x-first" with
    observability := { bareConfig.observability with prometheusEnabled := false } }

/-- A reload that switches the metrics off is accepted, and they are still served. -/
theorem disabled_metrics_still_served :
    ∃ running reloaded fresh,
      Gateway.start readyMachine Policy.permissiveWasm (Reloads.sampleConfig "x-first") =
        .ok running ∧
      running.reload Policy.permissiveWasm unmeasuredConfig = .ok reloaded ∧
      Gateway.start readyMachine Policy.permissiveWasm unmeasuredConfig = .ok fresh ∧
      (reloaded.metrics Reloads.bearerToken (.ok "# EOF\n")).1 = 200 ∧
      (fresh.metrics Reloads.bearerToken (.ok "# EOF\n")).1 = 404 :=
  ⟨_, _, _, rfl, rfl, rfl, rfl, rfl⟩

end TraceGate
