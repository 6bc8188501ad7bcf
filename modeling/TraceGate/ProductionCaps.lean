import TraceGate.Validation

/-!
# Caps of a production configuration

Production asks for explicit caps: a cap that is absent after reading is refused. A
section's own fields are absent when the document lacks them. An absent `storage`
section is filled with the default caps before the check, and passes it. So a
production configuration that loads has all its caps in the document exactly when
the document has a `storage` section.
-/

namespace TraceGate.Config

open Toml

/-! ## What the document sets -/

/-- A value of the document's root table. -/
def entry (document : List (String × Value)) (name : String) : Option Value :=
  (document.find? fun entry => entry.1 == name).map Prod.snd

/-- The record sets the field, by name or by position. -/
def SetsField (record : Value) (name : String) (position : Nat) : Prop :=
  ∃ fields, record.fields = .ok fields ∧ (fields name position).isSome = true

/-- The document sets the four caps of the storage section. -/
def SetsStorageCaps (document : List (String × Value)) : Prop :=
  ∃ storage, entry document "storage" = some storage ∧
    SetsField storage "retention_days" 3 ∧ SetsField storage "max_total_capture_bytes" 4 ∧
    SetsField storage "max_capture_bytes_per_request" 5 ∧
    SetsField storage "capture_queue_capacity" 6

/-- Every entry of the plugins sets its three caps. -/
def SetsPluginCaps (document : List (String × Value)) : Prop :=
  ∀ plugins, entry document "plugins" = some (.array plugins) → ∀ plugin ∈ plugins,
    SetsField plugin "timeout_ms" 4 ∧ SetsField plugin "memory_limit_bytes" 5 ∧
      SetsField plugin "fuel" 6

/-- A cap that is read as optional, and that production accepts, is set in its section.

Production accepts only what is present, and what is present after reading was in the
section. -/
theorem setsField_of_accepted {α : Type} {record : Value} {fields : Fields} {name : String}
    {position : Nat} {reader : Reader α} {field : String} {value : Option α} {default result : α}
    (found : record.fields = .ok fields)
    (read : optional fields name position reader = .ok value)
    (accepted : requiredOrDefault field value default .production = .ok result) :
    SetsField record name position :=
  ⟨fields, found,
    isSome_optional _ _ _ _ _ read ▸ isSome_of_requiredOrDefault accepted⟩

/-- A storage section that production accepts sets its four caps.

Production takes no default for a cap, so each was read, and what was read stands in the
section. -/
theorem setsStorageCaps_of_validated {externals : Externals} {value : Value}
    {raw : StorageRawConfig} {storage : StorageConfig} (read : readStorage value = .ok raw)
    (validated : ValidatedStorage externals raw .production storage) :
    SetsField value "retention_days" 3 ∧ SetsField value "max_total_capture_bytes" 4 ∧
      SetsField value "max_capture_bytes_per_request" 5 ∧
      SetsField value "capture_queue_capacity" 6 := by
  obtain ⟨fields, found, reads⟩ := readStorage_ok read
  exact ⟨setsField_of_accepted found reads.retentionDays validated.retentionDays,
    setsField_of_accepted found reads.maxTotalCaptureBytes validated.maxTotalCaptureBytes,
    setsField_of_accepted found reads.maxCaptureBytesPerRequest
      validated.maxCaptureBytesPerRequest,
    setsField_of_accepted found reads.captureQueueCapacity validated.captureQueueCapacity⟩

/-- A plugin that production accepts sets its three caps. -/
theorem setsPluginCaps_of_validated {routeIds seen : List String} {value : Value}
    {raw : PluginRawConfig} {plugin : PluginConfig} (read : readPlugin value = .ok raw)
    (validated : ValidatedPlugin routeIds .production seen raw plugin) :
    SetsField value "timeout_ms" 4 ∧ SetsField value "memory_limit_bytes" 5 ∧
      SetsField value "fuel" 6 := by
  obtain ⟨fields, found, reads⟩ := readPlugin_ok read
  obtain ⟨_, _, timeout, _⟩ := validated.timeout
  exact ⟨setsField_of_accepted found reads.timeoutMs timeout,
    setsField_of_accepted found reads.memoryLimitBytes validated.memory,
    setsField_of_accepted found reads.fuel validated.fuel⟩

/-- Every item of a list that is read has been read. -/
theorem exists_of_mem_mapM {α β : Type} (read : α → Except Fault β) (items : List α)
    (results : List β) (accepted : items.mapM read = .ok results) :
    ∀ item ∈ items, ∃ result ∈ results, read item = .ok result := by
  have related := (mapM_ok_iff read items results).mp accepted
  induction related with
  | nil => simp
  | cons firstRead following inductionHypothesis =>
    intro item member
    rcases List.mem_cons.mp member with rfl | later
    · exact ⟨_, List.mem_cons_self, firstRead⟩
    · obtain ⟨found, inOthers, itemRead⟩ :=
        inductionHypothesis ((mapM_ok_iff read _ _).mpr following) item later
      exact ⟨found, List.mem_cons_of_mem _ inOthers, itemRead⟩

/-- Where the raw storage section and the raw plugins come from: from the sections of these
names, if the document has them. -/
theorem sections_of_readConfig (document : List (String × Value)) (raw : RawConfig)
    (accepted : readConfig (.table document) = .ok raw) :
    (∀ value, entry document "storage" = some value → readStorage value = .ok raw.storage) ∧
      ∀ items, entry document "plugins" = some (.array items) →
        items.mapM readPlugin = .ok raw.plugins := by
  obtain ⟨fields, found, reads⟩ := readConfig_ok accepted
  obtain rfl := Except.ok.inj found
  constructor
  · intro value present
    rw [entry] at present
    simpa only [defaulted, present] using reads.storage
  · intro items present
    rw [entry] at present
    simpa only [defaulted, present, list] using reads.plugins

/-- A production configuration that loads has its caps in the document exactly when
the document has a storage section. -/
theorem production_caps_explicit_iff (externals : Externals) (path text : String)
    (document : List (String × Value)) (config : AppConfig)
    (parsed : externals.parseToml text = .ok document)
    (loaded : loadConfig externals path (.ok text) = .ok config)
    (production : config.mode = .production) :
    SetsStorageCaps document ∧ SetsPluginCaps document ↔
      (entry document "storage").isSome = true := by
  obtain ⟨_, _, raw, same, parses, read, validated⟩ := loadConfig_ok loaded
  obtain rfl := Except.ok.inj same
  obtain rfl := Except.ok.inj (parses.symm.trans parsed)
  obtain ⟨storageRead, pluginsRead⟩ := sections_of_readConfig _ raw read
  constructor
  · rintro ⟨⟨value, found, _⟩, _⟩
    rw [found]
    rfl
  · intro present
    obtain ⟨value, found⟩ := Option.isSome_iff_exists.mp present
    have storageOk := validateStorage_ok (production ▸ validated.storage)
    have pluginsOk := validatePlugins_ok (production ▸ validated.plugins)
    refine ⟨⟨value, found, setsStorageCaps_of_validated (storageRead value found) storageOk⟩, ?_⟩
    intro items listed item member
    obtain ⟨plugin, inPlugins, itemRead⟩ :=
      exists_of_mem_mapM readPlugin items raw.plugins (pluginsRead items listed) item member
    obtain ⟨_, _, passed⟩ := pluginsOk.of_mem_raws inPlugins
    exact setsPluginCaps_of_validated itemRead (validatePlugin_ok passed)

/-! A production document with one route, and with the sections given. -/

def apiUrl : Url := ⟨"https", some (.ipv4 0x0A000007), none, "/", none, none⟩

def productionExternals (document : List (String × Value)) : Externals where
  envVar _ := some "token"
  isFile _ := .ok true
  parseToml _ := .ok document
  parseUrl _ := .ok apiUrl
  parseUri _ := .ok (some "https", some "10.0.0.7")

def productionDocument (sections : List (String × Value)) : List (String × Value) :=
  [("server", .table
      [("mode", .string "production"), ("listen", .string "0.0.0.0:8443"),
       ("tls", .table [("enabled", .boolean true), ("cert_path", .string "tls.crt"),
         ("key_path", .string "tls.key")])]),
   ("routes", .array [.table
      [("id", .string "api"), ("hosts", .array [.string "*"]), ("path_prefix", .string "/"),
       ("upstreams", .array [.string "https://10.0.0.7"])]])] ++ sections

def cappedStorage : Value :=
  .table [("retention_days", .integer 7), ("max_total_capture_bytes", .integer 1048576),
    ("max_capture_bytes_per_request", .integer 4096), ("capture_queue_capacity", .integer 64)]

/-- A production document with all caps in its storage section and no plugins sets its caps. -/
theorem production_caps_explicit_storage :
    SetsStorageCaps (productionDocument [("storage", cappedStorage)]) ∧
      SetsPluginCaps (productionDocument [("storage", cappedStorage)]) :=
  (production_caps_explicit_iff
    (productionExternals (productionDocument [("storage", cappedStorage)]))
    "tracegate.toml" "" _ _ rfl rfl rfl).mpr rfl

/-- A production document without a storage section loads, and sets no caps: the section as a
whole has a default. -/
theorem absent_storage_loads :
    ∃ config,
      loadConfig (productionExternals (productionDocument [])) "tracegate.toml" (.ok "") =
        .ok config ∧
      config.mode = .production ∧ ¬ SetsStorageCaps (productionDocument []) := by
  refine ⟨_, rfl, rfl, ?_⟩
  rintro ⟨storage, found, _⟩
  exact absurd found (by simp [entry, productionDocument])

end TraceGate.Config
