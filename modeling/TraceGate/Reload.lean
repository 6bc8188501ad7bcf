import TraceGate.Gateway

/-!
# Hot reload

A reload takes a new configuration that loaded and validated, refuses it when it
changes what was fixed at startup or when a plugin does not load, and otherwise
replaces the gateway's state by one built from nothing but the new configuration.
-/

namespace TraceGate

variable {Component : Type}

def validateReloadImmutables (current next : AppConfig) : Except String Unit :=
  if current.mode ≠ next.mode then .error "server.mode cannot change during hot reload"
  else if current.listen ≠ next.listen then
    .error "server.listen cannot change during hot reload"
  else if current.adminListen ≠ next.adminListen then
    .error "server.admin_listen cannot change during hot reload"
  else if current.serverTls ≠ next.serverTls then
    .error "server.tls cannot change during hot reload"
  else if current.admin.tokenEnv ≠ next.admin.tokenEnv ||
      current.admin.allowInternalNetwork ≠ next.admin.allowInternalNetwork then
    .error "admin auth settings cannot change during hot reload"
  else if current.upstreamTls ≠ next.upstreamTls then
    .error "upstream_tls cannot change during hot reload"
  else if current.storage ≠ next.storage then
    .error "storage settings cannot change during hot reload"
  else .ok ()

/-- The fields that a reload leaves alone. -/
structure SameImmutables (current next : AppConfig) : Prop where
  mode : current.mode = next.mode
  listen : current.listen = next.listen
  adminListen : current.adminListen = next.adminListen
  serverTls : current.serverTls = next.serverTls
  tokenEnv : current.admin.tokenEnv = next.admin.tokenEnv
  allowInternalNetwork : current.admin.allowInternalNetwork = next.admin.allowInternalNetwork
  upstreamTls : current.upstreamTls = next.upstreamTls
  storage : current.storage = next.storage

namespace SameImmutables

/-- A configuration shares its immutable fields with itself. -/
theorem refl (config : AppConfig) : SameImmutables config config :=
  ⟨rfl, rfl, rfl, rfl, rfl, rfl, rfl, rfl⟩

/-- What two steps leave alone is left alone. -/
theorem trans {first second third : AppConfig} (left : SameImmutables first second)
    (right : SameImmutables second third) : SameImmutables first third where
  mode := left.mode.trans right.mode
  listen := left.listen.trans right.listen
  adminListen := left.adminListen.trans right.adminListen
  serverTls := left.serverTls.trans right.serverTls
  tokenEnv := left.tokenEnv.trans right.tokenEnv
  allowInternalNetwork := left.allowInternalNetwork.trans right.allowInternalNetwork
  upstreamTls := left.upstreamTls.trans right.upstreamTls
  storage := left.storage.trans right.storage

end SameImmutables

/-- A check that refuses or goes on succeeds exactly when it does not refuse and what follows
succeeds. -/
theorem refused_or_ok_iff {refused : Prop} [Decidable refused] {reason : String}
    {rest : Except String Unit} :
    (if refused then .error reason else rest) = .ok () ↔ ¬ refused ∧ rest = .ok () := by
  by_cases holds : refused
  · simp [holds]
  · simp [holds]

/-- A new configuration passes the check exactly when it leaves these fields alone.

The checks are gone through one by one, each by `refused_or_ok_iff`. -/
theorem validateReloadImmutables_ok_iff (current next : AppConfig) :
    validateReloadImmutables current next = .ok () ↔ SameImmutables current next := by
  simp only [validateReloadImmutables, refused_or_ok_iff, ne_eq, not_not, Bool.or_eq_true,
    decide_eq_true_eq, not_or, and_true]
  constructor
  · rintro ⟨mode, listen, adminListen, serverTls, ⟨tokenEnv, internal⟩, upstreamTls, storage⟩
    exact ⟨mode, listen, adminListen, serverTls, tokenEnv, internal, upstreamTls, storage⟩
  · rintro ⟨mode, listen, adminListen, serverTls, tokenEnv, internal, upstreamTls, storage⟩
    exact ⟨mode, listen, adminListen, serverTls, ⟨tokenEnv, internal⟩, upstreamTls, storage⟩

/-- The part of `reload_gateway` under the write lock: the state that becomes
active, or the text of the rejection. -/
def reloadGateway (wasm : Policy.Wasmtime Component) (current next : AppConfig) :
    Except String (GatewayState Component) :=
  match validateReloadImmutables current next with
  | .error reason => .error reason
  | .ok () =>
      match GatewayState.new wasm next with
      | .error err => .error err.text
      | .ok state => .ok state

/-- An accepted reload activates what the new configuration builds. -/
theorem reloadGateway_eq_ok (wasm : Policy.Wasmtime Component) (current next : AppConfig)
    (state : GatewayState Component) (accepted : reloadGateway wasm current next = .ok state) :
    GatewayState.new wasm next = .ok state := by
  unfold reloadGateway at accepted
  split at accepted
  · exact absurd accepted (by simp)
  · split at accepted
    · exact absurd accepted (by simp)
    next built => rw [built, Except.ok.inj accepted]

/-- An accepted reload leaves the immutable fields alone, since it has passed the check on
them. -/
theorem sameImmutables_of_reloadGateway (wasm : Policy.Wasmtime Component)
    (current next : AppConfig) (state : GatewayState Component)
    (accepted : reloadGateway wasm current next = .ok state) : SameImmutables current next := by
  unfold reloadGateway at accepted
  split at accepted
  · exact absurd accepted (by simp)
  next passed => exact (validateReloadImmutables_ok_iff current next).mp passed

/-- A configuration without routes, plugins and redaction. -/
def bareConfig : AppConfig :=
  { mode := .demo, listen := ⟨.v4 0x7F000001, 8080, 0⟩
    adminListen := ⟨.v4 0x7F000001, 9090, 0⟩
    serverTls := ⟨false, none, none⟩, admin := ⟨none, none, false⟩, upstreamTls := ⟨none⟩
    storage := ⟨"sqlite", "sqlite::memory:", 7, 1024, 64, 8⟩, redaction := ⟨[], []⟩
    observability := ⟨"tracegate", "local", none, true, true⟩, routes := [], plugins := [] }

end TraceGate
