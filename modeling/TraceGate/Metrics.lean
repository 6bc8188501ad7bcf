import TraceGate.EvidenceOrigin
import TraceGate.Telemetry

/-!
# What the metrics keep of requests and decisions

The gateway counts every request in three families of metrics and every plugin decision in four.
What a family holds after any sequence of them is a count, or a collection, over that sequence.
The evidence that is stored of a request has the same labels, and that of a decision the same
labels, failures and duration, so the two can be compared.

A plugin's record has one of four shapes, and it names a plugin and a route of a configuration.

Latencies are kept as observed instead of in buckets.
-/

namespace TraceGate

structure PluginDecisionLabels where
  pluginId : String
  routeId : String
  action : String
  outcome : String
deriving DecidableEq

structure PluginFailureLabels where
  pluginId : String
  routeId : String
deriving DecidableEq

structure PluginDecisionMetric where
  pluginId : String
  routeId : String
  action : String
  outcome : String
  duration : Duration
  timedOut : Bool
  errored : Bool

/-- The families `record_plugin_decision` writes to. -/
structure PluginTelemetry where
  pluginDecisions : Family PluginDecisionLabels Nat
  pluginDuration : Family PluginDecisionLabels (List Duration)
  pluginTimeouts : Family PluginFailureLabels Nat
  pluginErrors : Family PluginFailureLabels Nat

namespace PluginTelemetry

def new : PluginTelemetry := ⟨.empty, .empty, .empty, .empty⟩

def recordPluginDecision (telemetry : PluginTelemetry) (metric : PluginDecisionMetric) :
    PluginTelemetry :=
  let labels := ⟨metric.pluginId, metric.routeId, metric.action, metric.outcome⟩
  let failureLabels := ⟨metric.pluginId, metric.routeId⟩
  { pluginDecisions := telemetry.pluginDecisions.update labels 0 (· + 1)
    pluginDuration := telemetry.pluginDuration.update labels [] (· ++ [metric.duration])
    pluginTimeouts :=
      if metric.timedOut then telemetry.pluginTimeouts.update failureLabels 0 (· + 1)
      else telemetry.pluginTimeouts
    pluginErrors :=
      if metric.errored then telemetry.pluginErrors.update failureLabels 0 (· + 1)
      else telemetry.pluginErrors }

end PluginTelemetry

/-- The outcome label of a decision. -/
def pluginOutcome (timedOut errored : Bool) : String :=
  if timedOut then "timeout" else if errored then "error" else "ok"

def pluginMetric (record : Policy.PolicyDecisionRecord) : PluginDecisionMetric :=
  { pluginId := record.pluginId
    routeId := record.routeId
    action := record.action
    outcome := pluginOutcome record.timedOut record.error.isSome
    duration := record.duration
    timedOut := record.timedOut
    errored := record.error.isSome }

/-- `Proxy::record_plugin_metrics`. -/
def PluginTelemetry.recordPluginMetrics (telemetry : PluginTelemetry)
    (records : List Policy.PolicyDecisionRecord) : PluginTelemetry :=
  records.foldl (fun telemetry record => telemetry.recordPluginDecision (pluginMetric record))
    telemetry

/-! ## Metrics as counts -/

/-- The labels of a decision, in metrics and in evidence. -/
def Policy.PolicyDecisionRecord.labels (record : Policy.PolicyDecisionRecord) :
    PluginDecisionLabels :=
  ⟨record.pluginId, record.routeId, record.action,
    pluginOutcome record.timedOut record.error.isSome⟩

def Policy.PolicyDecisionRecord.failureLabels (record : Policy.PolicyDecisionRecord) :
    PluginFailureLabels :=
  ⟨record.pluginId, record.routeId⟩

/-- Recording decisions counts and gathers them: the loop over the records is three tallies and
one gathering at once. -/
theorem PluginTelemetry.recordPluginMetrics_eq (telemetry : PluginTelemetry)
    (records : List Policy.PolicyDecisionRecord) :
    telemetry.recordPluginMetrics records =
      { pluginDecisions := telemetry.pluginDecisions.tally (records.map (·.labels))
        pluginDuration := telemetry.pluginDuration.gather
          (records.map fun record => (record.labels, record.duration))
        pluginTimeouts := telemetry.pluginTimeouts.tally
          ((records.filter (·.timedOut)).map (·.failureLabels))
        pluginErrors := telemetry.pluginErrors.tally
          ((records.filter (·.error.isSome)).map (·.failureLabels)) } := by
  induction records generalizing telemetry with
  | nil => rfl
  | cons record rest inductionHypothesis =>
    rw [recordPluginMetrics, List.foldl_cons, ← recordPluginMetrics, inductionHypothesis]
    obtain ⟨pluginId, routeId, action, denyStatus, setHeaders, removeHeaders, events, duration,
      timedOut, error⟩ := record
    cases timedOut <;> cases error <;> rfl

/-- The labels of a stored request. -/
def RequestInsert.labels (record : RequestInsert) : RequestLabels :=
  ⟨record.routeId.getD "none", record.method, toString record.status⟩

def RequestInsert.errorLabels (record : RequestInsert) : UpstreamErrorLabels :=
  ⟨record.routeId.getD "none", record.method, toString record.status⟩

/-- The labels of a stored decision. -/
def PluginDecisionInsert.labels (decision : PluginDecisionInsert) : PluginDecisionLabels :=
  ⟨decision.pluginId, decision.routeId, decision.action,
    pluginOutcome decision.timedOut decision.error.isSome⟩

def PluginDecisionInsert.failureLabels (decision : PluginDecisionInsert) : PluginFailureLabels :=
  ⟨decision.pluginId, decision.routeId⟩

section Stored

variable (requestId : String) (records : List Policy.PolicyDecisionRecord) (nowMs : Nat → Int)

/-- Anything that is read off decisions alike is the same for the records they store.

The rows differ from the decisions in what the insertion adds, the request and the time, so the
comparison goes through the list place by place. -/
theorem map_pluginDecisionInserts {Value : Type} (stored : PluginDecisionInsert → Value)
    (recorded : Policy.PolicyDecisionRecord → Value)
    (alike : ∀ record createdAtMs, stored
      { requestId := requestId, pluginId := record.pluginId, routeId := record.routeId
        action := record.action, denyStatus := record.denyStatus
        setHeaders := record.setHeaders, removeHeaders := record.removeHeaders
        events := record.events.map fun event => ⟨event.name, event.code⟩
        durationMs := asMillis record.duration, timedOut := record.timedOut
        error := record.error, createdAtMs := createdAtMs } = recorded record) :
    (pluginDecisionInserts requestId records nowMs).map stored = records.map recorded := by
  have numbered : (records.zipIdx.map Prod.fst).map recorded = records.map recorded := by
    rw [List.zipIdx_map_fst]
  rw [pluginDecisionInserts, List.map_map, ← numbered, List.map_map]
  exact List.map_congr_left fun entry _ => alike entry.1 (nowMs entry.2)

end Stored

/-- What the metrics of a handled request and its finalizer's input have in common. -/
structure Handled.Told (handled : Handled) : Prop where
  labels : Telemetry.labelsOf handled.metric = handled.finalizer.record.labels
  error : handled.metric.upstreamError = handled.finalizer.record.isError
  decisions : ∃ nowMs, handled.finalizer.pluginDecisions =
    pluginDecisionInserts handled.finalizer.record.requestId handled.pluginMetrics nowMs

/-- What a returned request says to the metrics is what its record says to the store.

Every way out of `handle` builds both from the same values. -/
theorem told_of_handle {Component : Type} (externals : Externals)
    (gateway : GatewayState Component) (request : InboundRequest) (remoteAddr : SocketAddr)
    (around : Surroundings Component) (handled : Handled)
    (returned : handle externals gateway request remoteAddr around = .ok handled) :
    handled.Told := by
  have way := prepare_cases externals gateway request remoteAddr around
  rcases (handle_eq_ok externals gateway request remoteAddr around handled).mp returned with
    prepared | ⟨forward, prepared, rfl⟩
  · rw [prepared] at way
    cases way <;> exact ⟨rfl, rfl, around.clock.decisionNowMs, rfl⟩
  · exact ⟨rfl, rfl, around.clock.decisionNowMs, rfl⟩

/-- What both metrics and evidence keep of a decision. -/
structure Told where
  labels : PluginDecisionLabels
  failureLabels : PluginFailureLabels
  durationMs : Nat
  timedOut : Bool
  errored : Bool
deriving DecidableEq

def Policy.PolicyDecisionRecord.told (record : Policy.PolicyDecisionRecord) : Told :=
  ⟨record.labels, record.failureLabels, asMillis record.duration, record.timedOut,
    record.error.isSome⟩

def PluginDecisionInsert.told (decision : PluginDecisionInsert) : Told :=
  ⟨decision.labels, decision.failureLabels, decision.durationMs, decision.timedOut,
    decision.error.isSome⟩

/-- The stored decisions tell what the decisions told. -/
theorem map_told_pluginDecisionInserts (requestId : String)
    (records : List Policy.PolicyDecisionRecord) (nowMs : Nat → Int) :
    (pluginDecisionInserts requestId records nowMs).map (·.told) = records.map (·.told) :=
  map_pluginDecisionInserts requestId records nowMs _ _ fun _ _ => rfl

/-- Metrics of requests that came about by counting requests with these records. -/
structure Telemetry.Counted (telemetry : Telemetry) (records : List RequestInsert) : Prop where
  requests : telemetry.requests = Family.empty.tally (records.map (·.labels))
  durations : ∃ seen, telemetry.requestDuration = Family.empty.gather seen ∧
    seen.map Prod.fst = records.map (·.labels)
  errors : telemetry.upstreamErrors =
    Family.empty.tally ((records.filter (·.isError)).map (·.errorLabels))

/-- A request is counted under the labels of its record, and as an upstream error when its record
is one. -/
theorem Telemetry.Counted.record {telemetry : Telemetry} {records : List RequestInsert}
    (counted : telemetry.Counted records) {handled : Handled} (told : handled.Told) :
    (telemetry.recordRequest handled.metric).Counted (records ++ [handled.finalizer.record]) where
  requests := by
    rw [List.map_append, Family.tally_append, ← counted.requests]
    simp only [Telemetry.recordRequest, List.map_cons, List.map_nil, ← told.labels]
    rfl
  durations := by
    obtain ⟨seen, gathered, same⟩ := counted.durations
    refine ⟨seen ++ [(handled.finalizer.record.labels, handled.metric.latency)], ?_, by
      simp [same]⟩
    rw [Family.gather_append, ← gathered, ← told.labels]
    rfl
  errors := by
    rw [List.filter_append, List.map_append, Family.tally_append, ← counted.errors]
    have labels : (⟨(Telemetry.labelsOf handled.metric).routeId,
        (Telemetry.labelsOf handled.metric).method,
        (Telemetry.labelsOf handled.metric).status⟩ : UpstreamErrorLabels) =
          handled.finalizer.record.errorLabels := by
      rw [told.labels]
      rfl
    simp only [Telemetry.recordRequest, labels, told.error]
    by_cases failed : handled.finalizer.record.isError = true
    · simp only [failed, if_true, List.filter_cons_of_pos, List.filter_nil]
      rfl
    · simp only [failed, Bool.false_eq_true, if_false, List.filter_cons_of_neg,
        not_false_eq_true, List.filter_nil]
      rfl

/-- Decisions that are recorded later come behind those recorded before, so recording in two
parts is recording once. -/
theorem PluginTelemetry.recordPluginMetrics_append
    (records later : List Policy.PolicyDecisionRecord) :
    (new.recordPluginMetrics records).recordPluginMetrics later =
      new.recordPluginMetrics (records ++ later) := by
  rw [recordPluginMetrics, recordPluginMetrics, ← List.foldl_append]
  rfl

/-! ## The labels of plugins -/

/-- The actions and outcomes that go together. -/
def decisionShapes : List (String × String) :=
  [("allow", "ok"), ("deny", "ok"), ("deny", "error"), ("deny", "timeout")]

/-- A record as a call of a plugin leaves it. -/
structure Policy.PolicyDecisionRecord.WellFormed (record : Policy.PolicyDecisionRecord) :
    Prop where
  shape : (record.action, pluginOutcome record.timedOut record.error.isSome) ∈ decisionShapes
  timeout : record.timedOut = true → record.error.isSome = true

/-- A record of a call has one of the shapes, and one that timed out has an error.

A settled call gives the record of its decision, allowed or denied, without an error. Any other
gives the record of its failure. -/
theorem Policy.wellFormed_record {Component : Type} (http : HttpCrate) (routeId : String)
    (call : Policy.Invocation Component) : (call.record http routeId).WellFormed := by
  cases settled : Policy.settle http call.plugin routeId call.outcome with
  | ok pair =>
    obtain ⟨decision, record⟩ := pair
    obtain ⟨_, elapsed, _, _, rfl⟩ := (Policy.settle_eq_ok_iff _ _ _ _ _ _).mp settled
    simp only [Policy.Invocation.record, settled]
    refine ⟨?_, fun timedOut => absurd timedOut (by simp [Policy.recordFromDecision])⟩
    cases denied : decision.deny with
    | none => simp [Policy.recordFromDecision, denied, pluginOutcome, decisionShapes]
    | some deny => simp [Policy.recordFromDecision, denied, pluginOutcome, decisionShapes]
  | error record =>
    obtain ⟨elapsed, timedOut, error, rfl⟩ := Policy.settle_error http _ _ _ _ settled
    simp only [Policy.Invocation.record, settled]
    refine ⟨?_, fun _ => rfl⟩
    cases timedOut <;> simp [Policy.errorRecord, pluginOutcome, decisionShapes]

/-- Every record of an evaluation is well formed and names a plugin of the route's chain. -/
theorem Policy.record_of_evaluate {Component : Type} (http : HttpCrate)
    (engine : Policy.PolicyEngine Component) (outcomes : Policy.Outcomes Component)
    (request : Policy.PolicyRequest) (record : Policy.PolicyDecisionRecord)
    (listed : record ∈ (engine.evaluate http outcomes request).evaluation.records) :
    record.WellFormed ∧
      ∃ plugin ∈ engine.chain record.routeId, record.pluginId = plugin.config.id := by
  rw [Policy.evaluate_eq] at listed
  simp only [Policy.Progress.after, List.nil_append] at listed
  obtain ⟨call, made, rfl⟩ := List.mem_map.mp listed
  have shows := Policy.shows_record http request.routeId call
  have called := (Policy.untilDenial_isPrefix (engine.calls outcomes request)).subset made
  refine ⟨Policy.wellFormed_record http request.routeId call, call.plugin, ?_, shows.plugin⟩
  rw [shows.route]
  exact (Policy.mem_callsFrom outcomes request _ 0 call called).1

/-- The plugin decisions of a request that comes this far. -/
def Prepared.records : Prepared → List Policy.PolicyDecisionRecord
  | .unavailable _ => []
  | .exit handled => handled.pluginMetrics
  | .forward going => going.records

/-- The decisions on a request are well formed and made by plugins of its gateway's chains. They
all come from one evaluation; a request that gets to none has no decisions. -/
theorem record_of_prepare {Component : Type} (externals : Externals)
    (gateway : GatewayState Component) (request : InboundRequest) (remoteAddr : SocketAddr)
    (around : Surroundings Component) (record : Policy.PolicyDecisionRecord)
    (listed : record ∈ (prepare externals gateway request remoteAddr around).records) :
    record.WellFormed ∧
      ∃ plugin ∈ gateway.policy.chain record.routeId, record.pluginId = plugin.config.id := by
  have evaluated : ∀ route bodyPreview,
      record ∈ (evaluationFor externals gateway request remoteAddr around route
        bodyPreview).records →
      record.WellFormed ∧
        ∃ plugin ∈ gateway.policy.chain record.routeId, record.pluginId = plugin.config.id :=
    fun route bodyPreview => Policy.record_of_evaluate externals.http gateway.policy
      around.outcomes _ record
  have way := prepare_cases externals gateway request remoteAddr around
  generalize prepare externals gateway request remoteAddr around = prepared at way listed
  cases way with
  | noRoute | unavailable | limited | previewFailed => exact absurd listed List.not_mem_nil
  | denied route bodyPreview => exact evaluated route bodyPreview listed
  | unhealthy route bodyPreview => exact evaluated route bodyPreview listed
  | forward route bodyPreview => exact evaluated route bodyPreview listed

section Failures

variable {record : Policy.PolicyDecisionRecord} (wellFormed : record.WellFormed)
  (pluginId routeId : String)
include wellFormed

/-- The labels of a timeout are those of the records that timed out. -/
theorem Policy.PolicyDecisionRecord.WellFormed.labels_timeout :
    record.labels = ⟨pluginId, routeId, "deny", "timeout"⟩ ↔
      record.failureLabels = ⟨pluginId, routeId⟩ ∧ record.timedOut = true := by
  obtain ⟨shape, failed⟩ := wellFormed
  cases timedOut : record.timedOut <;> cases errored : record.error.isSome <;>
    simp_all [labels, failureLabels, pluginOutcome, decisionShapes]

/-- The labels of an error are those of the records with an error that did not time out. -/
theorem Policy.PolicyDecisionRecord.WellFormed.labels_error :
    record.labels = ⟨pluginId, routeId, "deny", "error"⟩ ↔
      record.failureLabels = ⟨pluginId, routeId⟩ ∧ record.error.isSome = true ∧
        record.timedOut = false := by
  obtain ⟨shape, failed⟩ := wellFormed
  cases timedOut : record.timedOut <;> cases errored : record.error.isSome <;>
    simp_all [labels, failureLabels, pluginOutcome, decisionShapes]

end Failures

/-- The counters of failures agree with the counters of decisions: timeouts with the decisions
labelled so, and errors with those labelled an error or a timeout.

Each counter is the number of records with its labels, and `labels_timeout` and `labels_error`
say which records these are. -/
theorem PluginTelemetry.failures_of_wellFormed (records : List Policy.PolicyDecisionRecord)
    (wellFormed : ∀ record ∈ records, record.WellFormed) (pluginId routeId : String) :
    (new.recordPluginMetrics records).pluginTimeouts.value ⟨pluginId, routeId⟩ 0 =
        (new.recordPluginMetrics records).pluginDecisions.value
          ⟨pluginId, routeId, "deny", "timeout"⟩ 0 ∧
      (new.recordPluginMetrics records).pluginErrors.value ⟨pluginId, routeId⟩ 0 =
        (new.recordPluginMetrics records).pluginDecisions.value
            ⟨pluginId, routeId, "deny", "timeout"⟩ 0 +
          (new.recordPluginMetrics records).pluginDecisions.value
            ⟨pluginId, routeId, "deny", "error"⟩ 0 := by
  have decisions : ∀ labels, (new.recordPluginMetrics records).pluginDecisions.value labels 0 =
      records.countP fun record => decide (record.labels = labels) := by
    intro labels
    rw [recordPluginMetrics_eq]
    exact Family.value_tally_map records _ labels
  have timeouts : (new.recordPluginMetrics records).pluginTimeouts.value ⟨pluginId, routeId⟩ 0 =
      records.countP fun record =>
        decide (record.failureLabels = ⟨pluginId, routeId⟩) && record.timedOut := by
    rw [recordPluginMetrics_eq]
    exact Family.value_tally_filter records _ _ _
  have errors : (new.recordPluginMetrics records).pluginErrors.value ⟨pluginId, routeId⟩ 0 =
      records.countP fun record =>
        decide (record.failureLabels = ⟨pluginId, routeId⟩) && record.error.isSome := by
    rw [recordPluginMetrics_eq]
    exact Family.value_tally_filter records _ _ _
  rw [decisions, decisions, timeouts, errors]
  constructor
  · refine List.countP_congr fun record listed => ?_
    simp [(wellFormed record listed).labels_timeout]
  · rw [List.countP_eq_countP_filter_add _ _ Policy.PolicyDecisionRecord.timedOut,
      List.countP_filter, List.countP_filter]
    congr 1
    · refine List.countP_congr fun record listed => ?_
      have failed := (wellFormed record listed).timeout
      simp only [(wellFormed record listed).labels_timeout, Bool.and_eq_true, decide_eq_true_eq]
      exact ⟨fun both => ⟨both.1.1, both.2⟩, fun both => ⟨⟨both.1, failed both.2⟩, both.2⟩⟩
    · refine List.countP_congr fun record listed => ?_
      simp [(wellFormed record listed).labels_error, and_assoc]

/-- The pairs of a plugin and a route that configurations name. -/
def configuredPairs (configs : List AppConfig) : List (String × String) :=
  configs.flatMap fun config =>
    config.plugins.flatMap fun plugin => plugin.routes.map fun routeId => (plugin.id, routeId)

/-- The plugins a built gateway calls for a route are configured for it. -/
theorem mem_configuredPairs {Component : Type} (wasm : Policy.Wasmtime Component)
    (configs : List AppConfig) (config : AppConfig) (known : config ∈ configs)
    (gateway : GatewayState Component) (built : GatewayState.new wasm config = .ok gateway)
    (routeId : String) (plugin : Policy.LoadedPlugin Component)
    (listed : plugin ∈ gateway.policy.chain routeId) :
    (plugin.config.id, routeId) ∈ configuredPairs configs := by
  obtain ⟨policy, loaded, same⟩ := (bind_ok_iff _ _ _).mp built
  obtain rfl := Except.ok.inj same
  have configured : plugin.config ∈ Policy.configuredFor config.plugins routeId := by
    rw [← Policy.new_chain wasm config.plugins policy loaded routeId]
    exact List.mem_map_of_mem listed
  obtain ⟨own, inPlugins, mention⟩ := List.mem_flatMap.mp configured
  obtain ⟨route, mentioned, rfl⟩ := List.mem_map.mp mention
  obtain ⟨inRoutes, isRoute⟩ := List.mem_filter.mp mentioned
  obtain rfl : route = routeId := of_decide_eq_true isRoute
  exact List.mem_flatMap.mpr ⟨config, known, List.mem_flatMap.mpr
    ⟨plugin.config, inPlugins, List.mem_map_of_mem inRoutes⟩⟩

namespace PluginTelemetry

/-- Records of configured plugins leave boundedly many label sets: four shapes for each pair in
the decisions and the durations, and one in the failures.

The label sets are distinct and lie in the product of the pairs and the shapes. -/
theorem size_of_pairs (records : List Policy.PolicyDecisionRecord)
    (pairs : List (String × String))
    (known : ∀ record ∈ records,
      record.WellFormed ∧ (record.pluginId, record.routeId) ∈ pairs) :
    (new.recordPluginMetrics records).pluginDecisions.size ≤ 4 * pairs.length ∧
      (new.recordPluginMetrics records).pluginDuration.size ≤ 4 * pairs.length ∧
      (new.recordPluginMetrics records).pluginTimeouts.size ≤ pairs.length ∧
      (new.recordPluginMetrics records).pluginErrors.size ≤ pairs.length := by
  have shapes : (pairs.toFinset ×ˢ decisionShapes.toFinset).card ≤ 4 * pairs.length := by
    rw [Finset.card_product, Nat.mul_comm]
    exact Nat.mul_le_mul (List.toFinset_card_le decisionShapes) (List.toFinset_card_le pairs)
  have decided : ∀ labels ∈ records.map (·.labels),
      ((labels.pluginId, labels.routeId), (labels.action, labels.outcome)) ∈
        pairs.toFinset ×ˢ decisionShapes.toFinset := by
    intro labels listed
    obtain ⟨record, member, rfl⟩ := List.mem_map.mp listed
    obtain ⟨wellFormed, pair⟩ := known record member
    exact Finset.mem_product.mpr ⟨List.mem_toFinset.mpr pair,
      List.mem_toFinset.mpr wellFormed.shape⟩
  have failed : ∀ kept : Policy.PolicyDecisionRecord → Bool,
      ∀ labels ∈ (records.filter kept).map (·.failureLabels),
        (labels.pluginId, labels.routeId) ∈ pairs.toFinset := by
    intro kept labels listed
    obtain ⟨record, member, rfl⟩ := List.mem_map.mp listed
    exact List.mem_toFinset.mpr (known record (List.mem_filter.mp member).1).2
  have decisionLossless : Function.Injective fun labels : PluginDecisionLabels =>
      ((labels.pluginId, labels.routeId), (labels.action, labels.outcome)) := by
    rintro ⟨_, _, _, _⟩ ⟨_, _, _, _⟩ ⟨⟩
    rfl
  have failureLossless : Function.Injective fun labels : PluginFailureLabels =>
      (labels.pluginId, labels.routeId) := by
    rintro ⟨_, _⟩ ⟨_, _⟩ ⟨⟩
    rfl
  rw [recordPluginMetrics_eq]
  refine ⟨(Family.size_le_card _ _ decisionLossless _ ?_).trans shapes,
    (Family.size_le_card _ _ decisionLossless _ ?_).trans shapes,
    (Family.size_le_card _ _ failureLossless _ ?_).trans (List.toFinset_card_le pairs),
    (Family.size_le_card _ _ failureLossless _ ?_).trans (List.toFinset_card_le pairs)⟩
  · intro labels member
    exact decided labels ((Family.mem_labels_tally_empty _ _).mp member)
  · intro labels member
    have listed := (Family.mem_labels_gather_empty _ _).mp member
    rw [List.map_map] at listed
    exact decided labels listed
  · intro labels member
    exact failed _ labels ((Family.mem_labels_tally_empty _ _).mp member)
  · intro labels member
    exact failed _ labels ((Family.mem_labels_tally_empty _ _).mp member)

end PluginTelemetry

end TraceGate
