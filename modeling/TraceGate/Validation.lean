import TraceGate.Config

/-!
# What validation has checked

`validate` is one long chain of checks, and so are the checks of a route, of a plugin and of
a section. What a chain that ends well has established is told once here, as a structure with
a field for each check. Whatever else is known of a configuration is read off these fields, so
a check that is added to the source or moved changes one structure and one proof.

The loops over the routes and over the plugins have one form: an item is checked with the
names of those before it, and no name is accepted twice.
-/

namespace TraceGate.Config

open Toml

/-! ## Single checks -/

/-- A number that is accepted lies in its range.

The check is one Boolean, the conjunction of the two bounds. -/
theorem of_requireBetween {label : String} {low high value : Nat} {result : Unit}
    (passed : requireBetween label low high value = .ok result) : low ≤ value ∧ value ≤ high := by
  simpa using of_require passed

/-- A cap that is checked and accepted in production was there.

Only an absent value meets the mode, and production refuses it. -/
theorem isSome_of_requiredOrDefault {α : Type} {field : String} {value : Option α} {default : α}
    {result : α} (accepted : requiredOrDefault field value default .production = .ok result) :
    value.isSome = true := by
  cases value with
  | none => exact absurd accepted (by simp [requiredOrDefault, RuntimeMode.isProduction])
  | some value => rfl

/-- A text that is left after trimming is not empty, since an empty one is dropped. -/
theorem trimmed_ne_empty (value : Option String) (text : String)
    (kept : trimmed value = some text) : text ≠ "" := by
  obtain ⟨_, nonempty⟩ := Option.filter_eq_some_iff.mp kept
  rintro rfl
  exact absurd nonempty (by decide)

/-! ## Items checked in turn -/

section InTurn

variable {ρ α : Type} {check : List String → ρ → Checked α} {name : ρ → String}

/-- Each item passes its check with the names seen before it. -/
inductive CheckedInTurn (check : List String → ρ → Checked α) (name : ρ → String) :
    List String → List ρ → List α → Prop where
  | nil (seen : List String) : CheckedInTurn check name seen [] []
  | cons {seen : List String} {raw : ρ} {raws : List ρ} {item : α} {items : List α}
      (first : check seen raw = .ok item)
      (rest : CheckedInTurn check name (name raw :: seen) raws items) :
      CheckedInTurn check name seen (raw :: raws) (item :: items)

namespace CheckedInTurn

variable {seen : List String} {raws : List ρ} {items : List α}

/-- Every result is that of a check. -/
theorem of_mem (checked : CheckedInTurn check name seen raws items) {item : α}
    (member : item ∈ items) : ∃ before, ∃ raw ∈ raws, check before raw = .ok item := by
  induction checked with
  | nil => exact absurd member List.not_mem_nil
  | @cons seen raw raws first items passed _ inductionHypothesis =>
    rcases List.mem_cons.mp member with rfl | later
    · exact ⟨seen, raw, List.mem_cons_self, passed⟩
    · obtain ⟨before, other, listed, accepted⟩ := inductionHypothesis later
      exact ⟨before, other, List.mem_cons_of_mem _ listed, accepted⟩

/-- Everything that was given has been checked. -/
theorem of_mem_raws (checked : CheckedInTurn check name seen raws items) {raw : ρ}
    (member : raw ∈ raws) : ∃ before item, check before raw = .ok item := by
  induction checked with
  | nil => exact absurd member List.not_mem_nil
  | @cons seen _ _ first _ passed _ inductionHypothesis =>
    rcases List.mem_cons.mp member with rfl | later
    · exact ⟨seen, first, passed⟩
    · exact inductionHypothesis later

/-- If a check keeps the name of its item, the results have the names that were given. -/
theorem map_eq (checked : CheckedInTurn check name seen raws items) (nameOf : α → String)
    (keeps : ∀ before raw item, check before raw = .ok item → nameOf item = name raw) :
    items.map nameOf = raws.map name := by
  induction checked with
  | nil => rfl
  | cons passed _ inductionHypothesis =>
    rw [List.map_cons, List.map_cons, inductionHypothesis, keeps _ _ _ passed]

/-- If a check refuses names seen before, no name occurs twice, and none of those seen before.

The two are one induction: a name of the rest is fresh for a list that begins with the name of
the first, so it is neither that one nor one seen earlier. -/
theorem nodup_names (checked : CheckedInTurn check name seen raws items)
    (fresh : ∀ before raw item, check before raw = .ok item → name raw ∉ before) :
    (raws.map name).Nodup ∧ ∀ raw ∈ raws, name raw ∉ seen := by
  induction checked with
  | nil => exact ⟨List.nodup_nil, by simp⟩
  | @cons seen raw raws item items passed _ inductionHypothesis =>
    obtain ⟨distinct, apart⟩ := inductionHypothesis
    constructor
    · rw [List.map_cons, List.nodup_cons]
      refine ⟨?_, distinct⟩
      intro repeated
      obtain ⟨later, listed, same⟩ := List.mem_map.mp repeated
      exact apart later listed (same ▸ List.mem_cons_self)
    · intro other member
      rcases List.mem_cons.mp member with rfl | later
      · exact fresh _ _ _ passed
      · exact fun earlier => apart other later (List.mem_cons_of_mem _ earlier)

end CheckedInTurn

end InTurn

/-! ## The sections -/

/-- What the check of the admin section has established. -/
structure ValidatedAdmin (externals : Externals) (raw : AdminRawConfig) (adminListen : SocketAddr)
    (mode : RuntimeMode) (admin : AdminConfig) : Prop where
  internal : mode = .production →
    adminListen.ip.isLoopback = true ∨ raw.allowInternalNetwork = true
  tokenEnv : admin.tokenEnv = trimmed raw.tokenEnv
  token : admin.token = trimmed (admin.tokenEnv.bind externals.envVar)
  present : mode = .production → admin.token.isSome = true
  allowInternalNetwork : admin.allowInternalNetwork = raw.allowInternalNetwork

/-- An accepted admin section has passed both checks, which ask something in production only. -/
theorem validateAdmin_ok {externals : Externals} {raw : AdminRawConfig} {adminListen : SocketAddr}
    {mode : RuntimeMode} {admin : AdminConfig}
    (passed : validateAdmin externals raw adminListen mode = .ok admin) :
    ValidatedAdmin externals raw adminListen mode admin := by
  simp only [validateAdmin, bind_ok_iff, pure, Except.pure, Except.ok.injEq] at passed
  obtain ⟨_, internal, _, present, rfl⟩ := passed
  refine ⟨?_, rfl, rfl, ?_, rfl⟩
  · rintro rfl
    simpa [RuntimeMode.isProduction] using of_require internal
  · rintro rfl
    simpa [RuntimeMode.isProduction] using of_require present

/-- What the check of the storage section has established. -/
structure ValidatedStorage (externals : Externals) (raw : StorageRawConfig) (mode : RuntimeMode)
    (storage : StorageConfig) : Prop where
  driver : storage.driver = Text.toAsciiLowercase (Text.trim raw.driver)
  known : storage.driver = "sqlite" ∨ storage.driver = "postgres"
  url : storageUrl externals raw = .ok storage.url
  retentionDays : requiredOrDefault "storage.retention_days" raw.retentionDays
    StorageConfig.default.retentionDays mode = .ok storage.retentionDays
  maxTotalCaptureBytes : requiredOrDefault "storage.max_total_capture_bytes"
    raw.maxTotalCaptureBytes StorageConfig.default.maxTotalCaptureBytes mode =
      .ok storage.maxTotalCaptureBytes
  maxCaptureBytesPerRequest : requiredOrDefault "storage.max_capture_bytes_per_request"
    raw.maxCaptureBytesPerRequest StorageConfig.default.maxCaptureBytesPerRequest mode =
      .ok storage.maxCaptureBytesPerRequest
  captureQueueCapacity : requiredOrDefault "storage.capture_queue_capacity"
    raw.captureQueueCapacity StorageConfig.default.captureQueueCapacity mode =
      .ok storage.captureQueueCapacity
  days : 1 ≤ storage.retentionDays ∧ storage.retentionDays ≤ 365
  perRequest : 0 < storage.maxCaptureBytesPerRequest ∧
    storage.maxCaptureBytesPerRequest ≤ storage.maxTotalCaptureBytes
  capacity : 1 ≤ storage.captureQueueCapacity ∧ storage.captureQueueCapacity ≤ 1000000

/-- An accepted storage section has its caps from the document or from the defaults, and they
are in their ranges. -/
theorem validateStorage_ok {externals : Externals} {raw : StorageRawConfig} {mode : RuntimeMode}
    {storage : StorageConfig} (passed : validateStorage externals raw mode = .ok storage) :
    ValidatedStorage externals raw mode storage := by
  simp only [validateStorage, bind_ok_iff, pure, Except.pure, Except.ok.injEq] at passed
  obtain ⟨_, known, url, urlOk, _, filled, _, sqlite, _, postgres, days, daysOk, total, totalOk,
    perRequest, perRequestOk, capacity, capacityOk, _, daysBetween, _, totalPositive, _,
    perRequestPositive, _, perRequestBelow, _, capacityBetween, rfl⟩ := passed
  exact {
    driver := rfl
    known := by simpa using of_require known
    url := urlOk
    retentionDays := daysOk
    maxTotalCaptureBytes := totalOk
    maxCaptureBytesPerRequest := perRequestOk
    captureQueueCapacity := capacityOk
    days := of_requireBetween daysBetween
    perRequest := ⟨by simpa using of_require perRequestPositive,
      by simpa using of_require perRequestBelow⟩
    capacity := of_requireBetween capacityBetween }

/-! ## Upstreams, routes and plugins -/

/-- What the check of an upstream has established: its URL with the host, and the parts that
`Upstream::parse` takes of it. -/
structure ValidatedUpstream (externals : Externals) (value : String) (mode : RuntimeMode)
    (adminListen : SocketAddr) (url : Url) (host : Host) (upstream : Upstream) : Prop where
  parsed : externals.parseUrl value = .ok url
  https : mode = .production → url.scheme = "https"
  found : url.host = some host
  unblocked : mode = .production →
    isBlockedUpstreamHost host.str url.portOrKnownDefault adminListen = false
  origin : url.path = "/" ∧ url.query = none ∧ url.fragment = none
  uri : externals.parseUri value = .ok (some upstream.scheme, some upstream.authority)

/-- `Upstream::parse` succeeds on a text with a scheme and an authority only. -/
theorem parseUpstream_ok {externals : Externals} {value : String} {upstream : Upstream}
    (parsed : parseUpstream externals value = .ok upstream) :
    externals.parseUri value = .ok (some upstream.scheme, some upstream.authority) := by
  simp only [parseUpstream] at parsed
  split at parsed
  · exact absurd parsed (by simp)
  · exact absurd parsed (by simp)
  · exact absurd parsed (by simp)
  next scheme authority read =>
    obtain rfl := Except.ok.inj parsed
    exact read

/-- An accepted upstream has a URL with a host, and in production one that is not blocked.

The checks of the host come after the match on it, so the chain is taken apart in two pieces. -/
theorem validateUpstream_ok {externals : Externals} {routeId value : String} {mode : RuntimeMode}
    {adminListen : SocketAddr} {upstream : Upstream}
    (passed : validateUpstream externals routeId value mode adminListen = .ok upstream) :
    ∃ url host, ValidatedUpstream externals value mode adminListen url host upstream := by
  simp only [validateUpstream] at passed
  split at passed
  · exact absurd passed (by simp)
  next url parsed =>
    simp only [bind_ok_iff] at passed
    obtain ⟨_, https, _, scheme, rest⟩ := passed
    split at rest
    · exact absurd rest (by simp)
    next host found =>
      simp only [bind_ok_iff] at rest
      obtain ⟨_, unblocked, _, origin, uri⟩ := rest
      refine ⟨url, host, parsed, ?_, found, ?_, ?_, parseUpstream_ok uri⟩
      · rintro rfl
        simpa [RuntimeMode.isProduction] using of_require https
      · rintro rfl
        simpa [RuntimeMode.isProduction] using of_require unblocked
      · simpa [and_assoc] using of_require origin

/-- What the check of a route has established. -/
structure ValidatedRoute (externals : Externals) (mode : RuntimeMode) (adminListen : SocketAddr)
    (storage : StorageConfig) (seen : List String) (raw : RouteConfig) (route : Route) :
    Prop where
  id : validateRouteId raw.id = .ok ()
  fresh : raw.id ∉ seen
  hosts : validateHosts raw.id raw.hosts = .ok ()
  rooted : Text.startsWith raw.pathPrefix "/" = true
  nonempty : raw.upstreams ≠ []
  timeout : 1 ≤ raw.timeoutMs ∧ raw.timeoutMs ≤ 60000
  retries : raw.retries ≤ 3
  concurrencyLimit : 1 ≤ raw.concurrencyLimit ∧ raw.concurrencyLimit ≤ 100000
  failures : 1 ≤ raw.passiveHealthFailures ∧ raw.passiveHealthFailures ≤ 100
  cooldown : 1 ≤ raw.passiveHealthCooldownMs ∧ raw.passiveHealthCooldownMs ≤ 600000
  upstreams : List.Forall₂
    (fun value upstream => validateUpstream externals raw.id value mode adminListen = .ok upstream)
    raw.upstreams route.upstreams
  capture : validateCapture raw storage = .ok route.capture
  result : route = {
    id := raw.id, hosts := raw.hosts, pathPrefix := raw.pathPrefix, upstreams := route.upstreams
    timeout := fromMillis raw.timeoutMs, retries := raw.retries, capture := route.capture
    concurrencyLimit := raw.concurrencyLimit
    passiveHealthFailures := raw.passiveHealthFailures
    passiveHealthCooldown := fromMillis raw.passiveHealthCooldownMs }

/-- An accepted route is the one that was written, with its upstreams parsed.

The checks are gone through in the order of the source, each of which has passed. -/
theorem validateRoute_ok {externals : Externals} {mode : RuntimeMode} {adminListen : SocketAddr}
    {storage : StorageConfig} {seen : List String} {raw : RouteConfig} {route : Route}
    (passed : validateRoute externals mode adminListen storage seen raw = .ok route) :
    ValidatedRoute externals mode adminListen storage seen raw route := by
  simp only [validateRoute, validatePathPrefix, bind_ok_iff, pure, Except.pure,
    Except.ok.injEq] at passed
  obtain ⟨_, id, _, fresh, _, hosts, _, ⟨_, rooted, _⟩, _, nonempty, _, timeout, _, retries, _,
    limit, _, failures, _, cooldown, upstreams, upstreamsOk, capture, captureOk, rfl⟩ := passed
  exact {
    id := id
    fresh := by simpa using of_require fresh
    hosts := hosts
    rooted := of_require rooted
    nonempty := by simpa using of_require nonempty
    timeout := of_requireBetween timeout
    retries := (of_requireBetween retries).2
    concurrencyLimit := of_requireBetween limit
    failures := of_requireBetween failures
    cooldown := of_requireBetween cooldown
    upstreams := (mapM_ok_iff _ _ _).mp upstreamsOk
    capture := captureOk
    result := rfl }

/-- The loop over the routes checks them in turn. -/
theorem validateRoutes_ok {externals : Externals} {mode : RuntimeMode} {adminListen : SocketAddr}
    {storage : StorageConfig} {raws : List RouteConfig} {seen : List String}
    {routes : List Route}
    (passed : validateRoutes externals mode adminListen storage raws seen = .ok routes) :
    CheckedInTurn (validateRoute externals mode adminListen storage) RouteConfig.id seen raws
      routes := by
  induction raws generalizing seen routes with
  | nil =>
    obtain rfl := Except.ok.inj passed
    exact .nil seen
  | cons raw rest inductionHypothesis =>
    simp only [validateRoutes, bind_ok_iff, pure, Except.pure, Except.ok.injEq] at passed
    obtain ⟨first, firstPassed, others, restPassed, rfl⟩ := passed
    exact .cons firstPassed (inductionHypothesis restPassed)

/-- A plugin is left with routes that exist, each once, and none that was seen before.

A route that comes again is dropped, so what is kept is fresh for the routes before it. -/
theorem validatePluginRoutes_ok {pluginId : String} {routeIds given seen routes : List String}
    (passed : validatePluginRoutes pluginId routeIds given seen = .ok routes) :
    routes.Nodup ∧ ∀ route ∈ routes, route ∈ routeIds ∧ route ∉ seen := by
  induction given generalizing seen routes with
  | nil =>
    obtain rfl := Except.ok.inj passed
    exact ⟨List.nodup_nil, by simp⟩
  | cons route rest inductionHypothesis =>
    simp only [validatePluginRoutes, bind_ok_iff, pure, Except.pure, Except.ok.injEq] at passed
    obtain ⟨_, _, _, known, others, following, rfl⟩ := passed
    obtain ⟨distinct, each⟩ := inductionHypothesis following
    have later : ∀ other ∈ others, other ∈ routeIds ∧ other ∉ seen := fun other member =>
      ⟨(each other member).1, fun old => (each other member).2 (List.mem_cons_of_mem _ old)⟩
    by_cases again : route ∈ seen
    · rw [if_pos (by simpa using again)]
      exact ⟨distinct, later⟩
    · rw [if_neg (by simpa using again)]
      refine ⟨List.nodup_cons.mpr ⟨?_, distinct⟩, List.forall_mem_cons.mpr ⟨⟨?_, again⟩, later⟩⟩
      · exact fun member => (each route member).2 List.mem_cons_self
      · simpa using of_require known

/-- What the check of a plugin has established. -/
structure ValidatedPlugin (routeIds : List String) (mode : RuntimeMode) (seen : List String)
    (raw : PluginRawConfig) (plugin : PluginConfig) : Prop where
  id : validatePluginId raw.id = .ok ()
  fresh : raw.id ∉ seen
  sameId : plugin.id = raw.id
  path : plugin.path = Text.trim raw.path
  hook : validatePluginHook raw.id raw.hook = .ok plugin.hook
  nonempty : raw.routes ≠ []
  routes : validatePluginRoutes raw.id routeIds raw.routes [] = .ok plugin.routes
  timeout : ∃ timeoutMs, plugin.timeout = fromMillis timeoutMs ∧
    requiredOrDefault s!"plugin `{raw.id}` timeout_ms" raw.timeoutMs defaultPluginTimeoutMs mode =
      .ok timeoutMs ∧ 1 ≤ timeoutMs ∧ timeoutMs ≤ 5000
  memory : requiredOrDefault s!"plugin `{raw.id}` memory_limit_bytes" raw.memoryLimitBytes
    defaultPluginMemoryLimitBytes mode = .ok plugin.memoryLimitBytes
  memoryBetween : 65536 ≤ plugin.memoryLimitBytes ∧ plugin.memoryLimitBytes ≤ 134217728
  fuel : requiredOrDefault s!"plugin `{raw.id}` fuel" raw.fuel defaultPluginFuel mode =
    .ok plugin.fuel
  fuelled : 0 < plugin.fuel
  preview : plugin.bodyPreviewBytes = raw.bodyPreviewBytes ∧ raw.bodyPreviewBytes ≤ 65536
  rawHeaders : normalizeRedactionList s!"plugin `{raw.id}` raw_headers" raw.rawHeaders =
    .ok plugin.rawHeaders
  config : validatePluginConfig raw.id raw.config = .ok plugin.config

/-- An accepted plugin targets routes that it names, within the limits of every plugin.

The checks are gone through in the order of the source, each of which has passed. -/
theorem validatePlugin_ok {routeIds : List String} {mode : RuntimeMode} {seen : List String}
    {raw : PluginRawConfig} {plugin : PluginConfig}
    (passed : validatePlugin routeIds mode seen raw = .ok plugin) :
    ValidatedPlugin routeIds mode seen raw plugin := by
  simp only [validatePlugin, bind_ok_iff, pure, Except.pure, Except.ok.injEq] at passed
  obtain ⟨_, id, _, fresh, _, _, hook, hookOk, _, nonempty, routes, routesOk, timeoutMs, timeoutOk,
    memory, memoryOk, fuel, fuelOk, _, timely, _, sized, _, fuelled, _, previewed, rawHeaders,
    rawHeadersOk, config, configOk, rfl⟩ := passed
  exact {
    id := id
    fresh := by simpa using of_require fresh
    sameId := rfl
    path := rfl
    hook := hookOk
    nonempty := by simpa using of_require nonempty
    routes := routesOk
    timeout := ⟨timeoutMs, rfl, timeoutOk, of_requireBetween timely⟩
    memory := memoryOk
    memoryBetween := of_requireBetween sized
    fuel := fuelOk
    fuelled := by simpa using of_require fuelled
    preview := ⟨rfl, by simpa using of_require previewed⟩
    rawHeaders := rawHeadersOk
    config := configOk }

/-- The loop over the plugins checks them in turn. -/
theorem validatePlugins_ok {routeIds : List String} {mode : RuntimeMode}
    {raws : List PluginRawConfig} {seen : List String} {plugins : List PluginConfig}
    (passed : validatePlugins routeIds mode raws seen = .ok plugins) :
    CheckedInTurn (validatePlugin routeIds mode) PluginRawConfig.id seen raws plugins := by
  induction raws generalizing seen plugins with
  | nil =>
    obtain rfl := Except.ok.inj passed
    exact .nil seen
  | cons raw rest inductionHypothesis =>
    simp only [validatePlugins, bind_ok_iff, pure, Except.pure, Except.ok.injEq] at passed
    obtain ⟨first, firstPassed, others, restPassed, rfl⟩ := passed
    exact .cons firstPassed (inductionHypothesis restPassed)

/-! ## The whole configuration -/

/-- What `validate` has established: every part of the configuration is that of its own
check. -/
structure Validated (externals : Externals) (raw : RawConfig) (config : AppConfig) : Prop where
  mode : validateMode raw.server.mode = .ok config.mode
  listen : parseListen "server.listen" raw.server.listen = .ok config.listen
  adminListen : parseListen "server.admin_listen"
    (raw.server.adminListen.getD defaultAdminListen) = .ok config.adminListen
  serverTls : validateServerTls externals raw.server.tls config.mode = .ok config.serverTls
  admin : validateAdmin externals raw.admin config.adminListen config.mode = .ok config.admin
  upstreamTls : validateUpstreamTls externals raw.upstreamTls = .ok config.upstreamTls
  observability : validateObservability externals raw.logging raw.observability =
    .ok config.observability
  storage : validateStorage externals raw.storage config.mode = .ok config.storage
  redaction : validateRedaction raw.redaction = .ok config.redaction
  nonempty : raw.routes ≠ []
  routes : validateRoutes externals config.mode config.adminListen config.storage raw.routes [] =
    .ok config.routes
  plugins : validatePlugins (raw.routes.map RouteConfig.id) config.mode raw.plugins [] =
    .ok config.plugins

/-- A configuration that is accepted has been checked part by part. -/
theorem validate_ok {externals : Externals} {raw : RawConfig} {config : AppConfig}
    (accepted : raw.validate externals = .ok config) : Validated externals raw config := by
  simp only [RawConfig.validate, bind_ok_iff, pure, Except.pure, Except.ok.injEq] at accepted
  obtain ⟨mode, modeOk, listen, listenOk, adminListen, adminListenOk, serverTls, serverTlsOk,
    admin, adminOk, upstreamTls, upstreamTlsOk, observability, observabilityOk, storage,
    storageOk, redaction, redactionOk, _, nonempty, routes, routesOk, plugins, pluginsOk,
    rfl⟩ := accepted
  exact ⟨modeOk, listenOk, adminListenOk, serverTlsOk, adminOk, upstreamTlsOk, observabilityOk,
    storageOk, redactionOk, by simpa using of_require nonempty, routesOk, pluginsOk⟩

/-- A configuration that was loaded is that of a document which was read and validated. -/
theorem loadConfig_ok {externals : Externals} {path : String} {content : Except String String}
    {config : AppConfig} (loaded : loadConfig externals path content = .ok config) :
    ∃ text document raw, content = .ok text ∧ externals.parseToml text = .ok document ∧
      readConfig (.table document) = .ok raw ∧ Validated externals raw config := by
  unfold loadConfig at loaded
  split at loaded
  · exact absurd loaded (by simp)
  next text =>
    split at loaded
    · exact absurd loaded (by simp)
    next document parsed =>
      split at loaded
      · exact absurd loaded (by simp)
      next raw read => exact ⟨text, document, raw, rfl, parsed, read, validate_ok loaded⟩

/-! ## Sections as they are read -/

/-- Where the fields of a storage section come from. -/
structure ReadStorage (fields : Fields) (raw : StorageRawConfig) : Prop where
  driver : defaulted fields "driver" 0 string StorageConfig.default.driver = .ok raw.driver
  url : optional fields "url" 1 string = .ok raw.url
  urlEnv : optional fields "url_env" 2 string = .ok raw.urlEnv
  retentionDays : optional fields "retention_days" 3 u32 = .ok raw.retentionDays
  maxTotalCaptureBytes :
    optional fields "max_total_capture_bytes" 4 u64 = .ok raw.maxTotalCaptureBytes
  maxCaptureBytesPerRequest :
    optional fields "max_capture_bytes_per_request" 5 u64 = .ok raw.maxCaptureBytesPerRequest
  captureQueueCapacity :
    optional fields "capture_queue_capacity" 6 usize = .ok raw.captureQueueCapacity

/-- A storage section that is read has been read field by field. -/
theorem readStorage_ok {value : Value} {raw : StorageRawConfig}
    (accepted : readStorage value = .ok raw) :
    ∃ fields, value.fields = .ok fields ∧ ReadStorage fields raw := by
  simp only [readStorage, bind_ok_iff, pure, Except.pure, Except.ok.injEq] at accepted
  obtain ⟨fields, found, driver, driverOk, url, urlOk, urlEnv, urlEnvOk, days, daysOk, total,
    totalOk, perRequest, perRequestOk, capacity, capacityOk, rfl⟩ := accepted
  exact ⟨fields, found, driverOk, urlOk, urlEnvOk, daysOk, totalOk, perRequestOk, capacityOk⟩

/-- Where the fields of a plugin come from. -/
structure ReadPlugin (fields : Fields) (raw : PluginRawConfig) : Prop where
  id : required fields "id" 0 string = .ok raw.id
  path : required fields "path" 1 string = .ok raw.path
  hook : defaulted fields "hook" 2 string defaultPluginHook = .ok raw.hook
  routes : defaulted fields "routes" 3 (list string) [] = .ok raw.routes
  timeoutMs : optional fields "timeout_ms" 4 u64 = .ok raw.timeoutMs
  memoryLimitBytes : optional fields "memory_limit_bytes" 5 u64 = .ok raw.memoryLimitBytes
  fuel : optional fields "fuel" 6 u64 = .ok raw.fuel
  bodyPreviewBytes : defaulted fields "body_preview_bytes" 7 u64 0 = .ok raw.bodyPreviewBytes
  rawHeaders : defaulted fields "raw_headers" 8 (list string) [] = .ok raw.rawHeaders
  config : defaulted fields "config" 9 stringMap [] = .ok raw.config

/-- A plugin that is read has been read field by field. -/
theorem readPlugin_ok {value : Value} {raw : PluginRawConfig}
    (accepted : readPlugin value = .ok raw) :
    ∃ fields, value.fields = .ok fields ∧ ReadPlugin fields raw := by
  simp only [readPlugin, bind_ok_iff, pure, Except.pure, Except.ok.injEq] at accepted
  obtain ⟨fields, found, id, idOk, path, pathOk, hook, hookOk, routes, routesOk, timeoutMs,
    timeoutOk, memory, memoryOk, fuel, fuelOk, preview, previewOk, rawHeaders, rawHeadersOk,
    config, configOk, rfl⟩ := accepted
  exact ⟨fields, found, idOk, pathOk, hookOk, routesOk, timeoutOk, memoryOk, fuelOk, previewOk,
    rawHeadersOk, configOk⟩

/-- Where the sections of a configuration come from. -/
structure ReadConfig (fields : Fields) (raw : RawConfig) : Prop where
  server : required fields "server" 0 readServer = .ok raw.server
  admin : defaulted fields "admin" 1 readAdmin AdminRawConfig.default = .ok raw.admin
  upstreamTls : defaulted fields "upstream_tls" 2 readUpstreamTls UpstreamTlsRawConfig.default =
    .ok raw.upstreamTls
  storage : defaulted fields "storage" 3 readStorage StorageRawConfig.default = .ok raw.storage
  redaction : defaulted fields "redaction" 4 readRedaction RedactionRawConfig.default =
    .ok raw.redaction
  logging : defaulted fields "logging" 5 readLogging LoggingConfig.default = .ok raw.logging
  observability : defaulted fields "observability" 6 readObservability
    ObservabilityRawConfig.default = .ok raw.observability
  routes : defaulted fields "routes" 7 (list readRoute) [] = .ok raw.routes
  plugins : defaulted fields "plugins" 8 (list readPlugin) [] = .ok raw.plugins

/-- A document that is read has been read section by section. -/
theorem readConfig_ok {document : Value} {raw : RawConfig}
    (accepted : readConfig document = .ok raw) :
    ∃ fields, document.fields = .ok fields ∧ ReadConfig fields raw := by
  simp only [readConfig, bind_ok_iff, pure, Except.pure, Except.ok.injEq] at accepted
  obtain ⟨fields, found, server, serverOk, admin, adminOk, upstreamTls, upstreamTlsOk, storage,
    storageOk, redaction, redactionOk, logging, loggingOk, observability, observabilityOk, routes,
    routesOk, plugins, pluginsOk, rfl⟩ := accepted
  exact ⟨fields, found, serverOk, adminOk, upstreamTlsOk, storageOk, redactionOk, loggingOk,
    observabilityOk, routesOk, pluginsOk⟩

end TraceGate.Config
