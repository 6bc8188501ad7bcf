import TraceGate.Gateway
import TraceGate.Mutations
import TraceGate.Validation

/-!
# The records of an evaluation

Evaluating a request leaves one record for each plugin it called. What the loop returns
is a function of the calls alone: it makes the calls of the chain up to the first one
that denies, appends the record of each, collects the mutations of those that settled
into a decision, and denies with the last call. A validated plugin lists a route at most
once, so the chain of a route holds each plugin that lists it, once and in the order of
the configuration.
-/

namespace TraceGate

namespace Policy

variable {Component : Type}

/-! ## One call -/

section

variable (http : HttpCrate) (routeId : String) (call : Invocation Component)

/-- The record the loop appends for a call. -/
def Invocation.record : PolicyDecisionRecord :=
  match settle http call.plugin routeId call.outcome with
  | .ok (_, record) => record
  | .error record => record

/-- The denial a call ends the loop with. -/
def Invocation.deny : Option PolicyDeny :=
  match settle http call.plugin routeId call.outcome with
  | .ok (decision, _) => decision.deny
  | .error _ => some ⟨403, "request denied by policy"⟩

end

/-- What the record of a call shows of it. -/
structure Shows (http : HttpCrate) (routeId : String) (call : Invocation Component)
    (record : PolicyDecisionRecord) : Prop where
  plugin : record.pluginId = call.plugin.config.id
  route : record.routeId = routeId
  action : record.action = if (call.deny http routeId).isSome then "deny" else "allow"
  status : record.denyStatus = (call.deny http routeId).map PolicyDeny.status
  set : record.setHeaders =
    (call.normalized http).toList.flatMap fun decision =>
      decision.setHeaders.map HeaderMutation.name
  removed : record.removeHeaders =
    (call.normalized http).toList.flatMap NormalizedDecision.removeHeaders
  failed : record.error.isSome = true ∨ record.timedOut = true →
    call.deny http routeId = some ⟨403, "request denied by policy"⟩ ∧
      call.normalized http = none

/-- A call whose record is that of an error has no decision to show. -/
theorem normalized_of_settle_error (http : HttpCrate) (call : Invocation Component)
    (routeId : String) (record : PolicyDecisionRecord)
    (settled : settle http call.plugin routeId call.outcome = .error record) :
    call.normalized http = none := by
  cases outcome : call.outcome with
  | joinError reason elapsed => simp [Invocation.normalized, outcome]
  | timedOut => simp [Invocation.normalized, outcome]
  | returned guest elapsed =>
    cases called : call.plugin.call http guest with
    | error err => simp [Invocation.normalized, outcome, called, Except.toOption]
    | ok decision => simp [settle, outcome, called] at settled

/-- A record of an error is that of a denied call, with the plugin's own identifier and the
route it was called for. -/
theorem settle_error (http : HttpCrate) (plugin : LoadedPlugin Component) (routeId : String)
    (outcome : TaskOutcome) (record : PolicyDecisionRecord)
    (settled : settle http plugin routeId outcome = .error record) :
    ∃ elapsed timedOut error,
      record = errorRecord plugin.config.id routeId "deny" elapsed timedOut error := by
  cases outcome with
  | joinError reason elapsed => exact ⟨elapsed, false, reason, (Except.error.inj settled).symm⟩
  | timedOut =>
    exact ⟨plugin.config.timeout, true, _, (Except.error.inj settled).symm⟩
  | returned guest elapsed =>
    cases called : plugin.call http guest with
    | ok decision => simp [settle, called] at settled
    | error err =>
      simp only [settle, called, Except.error.injEq] at settled
      exact ⟨elapsed, false, err.text, settled.symm⟩

/-- The record of a call shows it, whether the call settled into a decision or failed. -/
theorem shows_record (http : HttpCrate) (routeId : String) (call : Invocation Component) :
    Shows http routeId call (call.record http routeId) := by
  cases settled : settle http call.plugin routeId call.outcome with
  | error record =>
    have unsettled := normalized_of_settle_error http call routeId record settled
    obtain ⟨elapsed, timedOut, error, rfl⟩ := settle_error http _ _ _ _ settled
    constructor <;> simp [Invocation.record, Invocation.deny, settled, unsettled, errorRecord]
  | ok pair =>
    obtain ⟨decision, record⟩ := pair
    have made := normalized_of_settle http call routeId decision record settled
    obtain ⟨_, elapsed, _, _, rfl⟩ := (settle_eq_ok_iff _ _ _ _ _ _).mp settled
    constructor <;>
      simp [Invocation.record, Invocation.deny, settled, made, recordFromDecision]

/-- A denial carries a status of an error, whether a plugin gave it or the gateway for it.

A plugin's status is normalized into the range, and the gateway's own is in it. -/
theorem status_of_deny (http : HttpCrate) (routeId : String) (call : Invocation Component)
    (deny : PolicyDeny) (denied : call.deny http routeId = some deny) :
    400 ≤ deny.status ∧ deny.status ≤ 599 := by
  cases settled : settle http call.plugin routeId call.outcome with
  | error record =>
    simp only [Invocation.deny, settled, Option.some.injEq] at denied
    subst denied
    decide
  | ok pair =>
    obtain ⟨decision, record⟩ := pair
    obtain ⟨given, _, _, accepted, _⟩ := (settle_eq_ok_iff _ _ _ _ _ _).mp settled
    simp only [Invocation.deny, settled] at denied
    rw [normalizeDecision_deny _ _ _ _ accepted] at denied
    obtain ⟨response, _, rfl⟩ := Option.map_eq_some_iff.mp denied
    simp only [normalizeDeny]
    split <;> omega

/-! ## The loop -/

section

variable (http : HttpCrate) (routeId : String)

/-- The calls up to the first that denies. -/
def untilDenial : List (Invocation Component) → List (Invocation Component)
  | [] => []
  | call :: rest =>
      if (call.deny http routeId).isSome then [call] else call :: untilDenial rest

/-- What calls add to what the loop has so far. -/
def Progress.after (progress : Progress Component) (made : List (Invocation Component)) :
    Progress Component :=
  let decisions := made.filterMap (Invocation.normalized http)
  { evaluation :=
      { denied := made.getLast?.bind (Invocation.deny http routeId)
        setHeaders :=
          progress.evaluation.setHeaders ++ decisions.flatMap NormalizedDecision.setHeaders
        removeHeaders :=
          progress.evaluation.removeHeaders ++ decisions.flatMap NormalizedDecision.removeHeaders
        records := progress.evaluation.records ++ made.map (Invocation.record http routeId) }
    invocations := progress.invocations ++ made }

variable {http routeId}

/-- The calls made are the first ones of the chain. -/
theorem untilDenial_isPrefix (calls : List (Invocation Component)) :
    untilDenial http routeId calls <+: calls := by
  induction calls with
  | nil => exact List.nil_prefix
  | cons call rest inductionHypothesis =>
    simp only [untilDenial]
    split
    · exact ⟨rest, rfl⟩
    · exact (List.prefix_cons_inj call).mpr inductionHypothesis

/-- Only the last call made denies, since no call is made after a denial.

By induction on the calls: a first one that denies is the last. -/
theorem undenied_of_mem_dropLast (calls : List (Invocation Component)) :
    ∀ call ∈ (untilDenial http routeId calls).dropLast, call.deny http routeId = none := by
  induction calls with
  | nil => simp [untilDenial]
  | cons first rest inductionHypothesis =>
    simp only [untilDenial]
    split
    · simp
    next undenied =>
      intro call member
      cases later : untilDenial http routeId rest with
      | nil => simp [later] at member
      | cons second others =>
        rw [later, List.dropLast_cons_cons, List.mem_cons] at member
        rcases member with rfl | inRest
        · simpa using undenied
        · exact inductionHypothesis call (later ▸ inRest)

/-- Without a denial all calls are made.

By induction on the calls: the last one made is that of the rest, unless the first one
denies. -/
theorem untilDenial_complete (calls : List (Invocation Component))
    (undenied : (untilDenial http routeId calls).getLast?.bind (Invocation.deny http routeId) =
      none) : untilDenial http routeId calls = calls := by
  induction calls with
  | nil => rfl
  | cons call rest inductionHypothesis =>
    simp only [untilDenial] at undenied ⊢
    split at undenied
    next denied => simp at undenied; simp [undenied] at denied
    next passed =>
      rw [if_neg passed]
      cases later : untilDenial http routeId rest with
      | nil => rw [← later, inductionHypothesis (by simp [later])]
      | cons second others =>
        rw [later, List.getLast?_cons_cons] at undenied
        rw [← later, inductionHypothesis (by rw [later]; exact undenied)]

/-- One call that does not deny, and then the others, is all of them: what has been merged so
far is carried along. -/
theorem Progress.after_cons (progress : Progress Component) (call : Invocation Component)
    (made : List (Invocation Component)) (undenied : call.deny http routeId = none) :
    progress.after http routeId (call :: made) =
      (progress.after http routeId [call]).after http routeId made := by
  have last : (call :: made).getLast?.bind (Invocation.deny http routeId) =
      made.getLast?.bind (Invocation.deny http routeId) := by
    cases made with
    | nil => simpa using undenied
    | cons second others => rw [List.getLast?_cons_cons]
  have decisions : (call :: made).filterMap (Invocation.normalized http) =
      [call].filterMap (Invocation.normalized http) ++
        made.filterMap (Invocation.normalized http) := by
    rw [← List.filterMap_append]
    rfl
  simp only [Progress.after, last, decisions, List.flatMap_append, List.append_assoc]
  rfl

/-- A call that settles into a decision is merged, and denies as the decision does. -/
theorem Progress.after_settled (progress : Progress Component) (call : Invocation Component)
    (decision : NormalizedDecision) (record : PolicyDecisionRecord)
    (settled : settle http call.plugin routeId call.outcome = .ok (decision, record)) :
    call.deny http routeId = decision.deny ∧
      progress.after http routeId [call] =
        ⟨{ progress.evaluation.merge decision record with denied := decision.deny },
          progress.invocations ++ [call]⟩ := by
  have made := normalized_of_settle http call routeId decision record settled
  have recorded : call.record http routeId = record := by
    simp [Invocation.record, settled]
  have judged : call.deny http routeId = decision.deny := by
    simp [Invocation.deny, settled]
  refine ⟨judged, ?_⟩
  simp [Progress.after, judged, made, recorded, PolicyEvaluation.merge]

/-- A call that does not settle denies and leaves its record, without any change of headers. -/
theorem Progress.after_refused (progress : Progress Component) (call : Invocation Component)
    (record : PolicyDecisionRecord)
    (settled : settle http call.plugin routeId call.outcome = .error record) :
    call.deny http routeId = some ⟨403, "request denied by policy"⟩ ∧
      progress.after http routeId [call] =
        ⟨{ progress.evaluation with
            denied := some ⟨403, "request denied by policy"⟩
            records := progress.evaluation.records ++ [record] },
          progress.invocations ++ [call]⟩ := by
  have unsettled := normalized_of_settle_error http call routeId record settled
  have recorded : call.record http routeId = record := by
    simp [Invocation.record, settled]
  have denied : call.deny http routeId = some ⟨403, "request denied by policy"⟩ := by
    simp [Invocation.deny, settled]
  refine ⟨denied, ?_⟩
  simp [Progress.after, denied, unsettled, recorded]

/-- The loop makes the calls up to the first that denies.

The induction is over the places left in the chain. A place without a plugin is passed over, and
a denial ends the loop and the calls alike. -/
theorem evaluateFrom_eq (engine : PolicyEngine Component) (outcomes : Outcomes Component)
    (request : PolicyRequest) (indexes : List Nat) (turn : Nat) (progress : Progress Component)
    (undecided : progress.evaluation.denied = none) :
    evaluateFrom http engine outcomes request indexes turn progress =
      progress.after http request.routeId (untilDenial http request.routeId
        (callsFrom outcomes request (engine.pluginsAt indexes) turn)) := by
  induction indexes generalizing turn progress with
  | nil =>
    obtain ⟨⟨denied, setHeaders, removeHeaders, records⟩, invocations⟩ := progress
    subst undecided
    simp [evaluateFrom, PolicyEngine.pluginsAt, callsFrom, untilDenial, Progress.after]
  | cons index rest inductionHypothesis =>
    cases found : engine.plugins[index]? with
    | none =>
      have same : engine.pluginsAt (index :: rest) = engine.pluginsAt rest := by
        simp [PolicyEngine.pluginsAt, found]
      simp only [evaluateFrom, found, same]
      exact inductionHypothesis turn progress undecided
    | some plugin =>
      let call : Invocation Component := ⟨plugin, request.inputFor plugin.config,
        outcomes turn plugin (request.inputFor plugin.config)⟩
      have listed : callsFrom outcomes request (engine.pluginsAt (index :: rest)) turn =
          call :: callsFrom outcomes request (engine.pluginsAt rest) (turn + 1) := by
        simp [PolicyEngine.pluginsAt, found, callsFrom, call]
      rw [listed, untilDenial]
      cases settled : settle http plugin request.routeId call.outcome with
      | error record =>
        obtain ⟨denied, added⟩ := progress.after_refused call record settled
        rw [denied, Option.isSome_some, if_pos rfl, added]
        simp [evaluateFrom, found, settled, call]
      | ok pair =>
        obtain ⟨decision, record⟩ := pair
        obtain ⟨judged, merged⟩ := progress.after_settled call decision record settled
        rw [judged]
        cases denied : decision.deny with
        | some deny =>
          rw [Option.isSome_some, if_pos rfl, merged, denied]
          simp [evaluateFrom, found, settled, call, denied, PolicyEvaluation.merge]
        | none =>
          rw [Option.isSome_none, if_neg Bool.false_ne_true,
            progress.after_cons call _ (judged.trans denied), merged, denied]
          have continued := inductionHypothesis (turn + 1)
            ⟨{ progress.evaluation.merge decision record with denied := none },
              progress.invocations ++ [call]⟩ rfl
          rw [← continued]
          obtain ⟨⟨earlier, setHeaders, removeHeaders, records⟩, invocations⟩ := progress
          subst undecided
          simp [evaluateFrom, found, settled, call, denied, PolicyEvaluation.merge]

/-- An evaluation makes the calls of its chain up to the first that denies. -/
theorem evaluate_eq (engine : PolicyEngine Component) (outcomes : Outcomes Component)
    (request : PolicyRequest) :
    engine.evaluate http outcomes request =
      Progress.after http request.routeId ⟨⟨none, [], [], []⟩, []⟩
        (untilDenial http request.routeId (engine.calls outcomes request)) :=
  evaluateFrom_eq engine outcomes request _ 0 _ rfl

/-- The calls of an evaluation are given to plugins of the chain, each with the input made for
it. -/
theorem mem_callsFrom (outcomes : Outcomes Component) (request : PolicyRequest)
    (plugins : List (LoadedPlugin Component)) (turn : Nat) (call : Invocation Component)
    (made : call ∈ callsFrom outcomes request plugins turn) :
    call.plugin ∈ plugins ∧ call.input = request.inputFor call.plugin.config := by
  induction plugins generalizing turn with
  | nil => exact absurd made List.not_mem_nil
  | cons plugin rest inductionHypothesis =>
    rcases List.mem_cons.mp made with rfl | later
    · exact ⟨List.mem_cons_self, rfl⟩
    · obtain ⟨listed, given⟩ := inductionHypothesis (turn + 1) later
      exact ⟨List.mem_cons_of_mem _ listed, given⟩

/-- A call that was made is one of the chain's, with the input made for its plugin. -/
theorem mem_invocations (engine : PolicyEngine Component) (outcomes : Outcomes Component)
    (request : PolicyRequest) (call : Invocation Component)
    (made : call ∈ (engine.evaluate http outcomes request).invocations) :
    call.plugin ∈ engine.chain request.routeId ∧
      call.input = request.inputFor call.plugin.config := by
  rw [evaluate_eq] at made
  exact mem_callsFrom outcomes request _ 0 call
    ((untilDenial_isPrefix (engine.calls outcomes request)).subset made)

end

/-- The plugins of a configuration that list a route, in order. -/
def listedFor (configs : List PluginConfig) (routeId : String) : List PluginConfig :=
  configs.filter fun config => decide (routeId ∈ config.routes)

/-- Plugins that list each route once are configured once for it. -/
theorem configuredFor_eq_listedFor (configs : List PluginConfig) (routeId : String)
    (once : ∀ config ∈ configs, config.routes.Nodup) :
    configuredFor configs routeId = listedFor configs routeId := by
  induction configs with
  | nil => rfl
  | cons config rest inductionHypothesis =>
    have others := inductionHypothesis fun other member =>
      once other (List.mem_cons_of_mem _ member)
    have count := List.Nodup.count (a := routeId) (once config List.mem_cons_self)
    simp only [configuredFor, listedFor, List.flatMap_cons, List.filter_cons] at others ⊢
    rw [others, List.filter_eq, count]
    by_cases listed : routeId ∈ config.routes <;> simp [listed]

/-- What an evaluation records of the plugins that list the route. -/
structure EvaluationRecord (http : HttpCrate) (configs : List PluginConfig)
    (request : PolicyRequest) (result : Progress Component) : Prop where
  called : ∃ called, called <+: listedFor configs request.routeId ∧
    result.invocations.map (fun call => call.plugin.config) = called ∧
    result.evaluation.records.map (fun record => (record.pluginId, record.routeId)) =
      called.map (fun config => (config.id, request.routeId)) ∧
    (result.evaluation.denied = none → called = listedFor configs request.routeId)
  allowed : ∀ record ∈ result.evaluation.records.dropLast, record.action = "allow"
  last : (∃ record, result.evaluation.records.getLast? = some record ∧ record.action = "deny") ↔
    result.evaluation.denied.isSome = true
  failed : ∀ record ∈ result.evaluation.records,
    record.error.isSome = true ∨ record.timedOut = true →
      record.action = "deny" ∧ record.denyStatus = some 403 ∧ record.setHeaders = [] ∧
        record.removeHeaders = [] ∧
        result.evaluation.denied.map PolicyDeny.status = some 403
  status : ∀ deny, result.evaluation.denied = some deny → ∀ route isSlow,
    let status := (policyDeniedExit route deny isSlow result.evaluation.records).status
    400 ≤ status ∧ status ≤ 599 ∧
      ∃ record, result.evaluation.records.getLast? = some record ∧
        record.denyStatus = some status
  setHeaders : result.evaluation.setHeaders =
      (result.decisions http).flatMap NormalizedDecision.setHeaders ∧
    result.evaluation.setHeaders.map HeaderMutation.name =
      result.evaluation.records.flatMap PolicyDecisionRecord.setHeaders
  removeHeaders : result.evaluation.removeHeaders =
      (result.decisions http).flatMap NormalizedDecision.removeHeaders ∧
    result.evaluation.removeHeaders =
      result.evaluation.records.flatMap PolicyDecisionRecord.removeHeaders

section

variable {http : HttpCrate} {routeId : String} (made : List (Invocation Component))

/-- The recorded names are those of the decisions: a call without a decision sets nothing and
records nothing. -/
theorem flatMap_setHeaders_record :
    ((made.filterMap (Invocation.normalized http)).flatMap NormalizedDecision.setHeaders).map
        HeaderMutation.name =
      (made.map (Invocation.record http routeId)).flatMap PolicyDecisionRecord.setHeaders := by
  induction made with
  | nil => rfl
  | cons call rest inductionHypothesis =>
    have shown := (shows_record http routeId call).set
    rw [List.map_cons, List.flatMap_cons, ← inductionHypothesis, shown]
    cases normalized : call.normalized http <;> simp [normalized]

/-- The recorded removals are those of the decisions. -/
theorem flatMap_removeHeaders_record :
    (made.filterMap (Invocation.normalized http)).flatMap NormalizedDecision.removeHeaders =
      (made.map (Invocation.record http routeId)).flatMap PolicyDecisionRecord.removeHeaders := by
  induction made with
  | nil => rfl
  | cons call rest inductionHypothesis =>
    have shown := (shows_record http routeId call).removed
    rw [List.map_cons, List.flatMap_cons, ← inductionHypothesis, shown]
    cases normalized : call.normalized http <;> simp [normalized]

/-- A call that was made is the last one, or one before it. -/
theorem mem_dropLast_or_getLast (call : Invocation Component) (member : call ∈ made) :
    call ∈ made.dropLast ∨ made.getLast? = some call := by
  rcases List.eq_nil_or_concat made with rfl | ⟨before, last, rfl⟩
  · exact absurd member List.not_mem_nil
  · rw [List.concat_eq_append] at member ⊢
    simpa [eq_comm] using member

/-- A call that denies is the last one made. -/
theorem getLast_of_denied (calls : List (Invocation Component)) (call : Invocation Component)
    (called : call ∈ untilDenial http routeId calls) (denied : call.deny http routeId ≠ none) :
    (untilDenial http routeId calls).getLast? = some call := by
  rcases mem_dropLast_or_getLast _ call called with earlier | final
  · exact absurd (undenied_of_mem_dropLast calls call earlier) denied
  · exact final

end

/-- The records of an evaluation show the calls it made.

The evaluation is what merging the calls up to the first denial leaves, and each part of the
record is read off that. -/
theorem evaluationRecord_of_chain (http : HttpCrate) (configs : List PluginConfig)
    (engine : PolicyEngine Component) (outcomes : Outcomes Component) (request : PolicyRequest)
    (chained : (engine.chain request.routeId).map LoadedPlugin.config =
      listedFor configs request.routeId) :
    EvaluationRecord http configs request (engine.evaluate http outcomes request) := by
  let calls := engine.calls outcomes request
  let made := untilDenial http request.routeId calls
  have result : engine.evaluate http outcomes request =
      Progress.after http request.routeId ⟨⟨none, [], [], []⟩, []⟩ made :=
    evaluate_eq engine outcomes request
  have shown : ∀ call : Invocation Component,
      Shows http request.routeId call (call.record http request.routeId) :=
    shows_record http request.routeId
  rw [result]
  have plugins : calls.map (fun call => call.plugin.config) =
      listedFor configs request.routeId := by
    rw [← chained, ← callsFrom_plugins outcomes request (engine.chain request.routeId) 0,
      List.map_map]
    rfl
  simp only [Progress.after, List.nil_append]
  refine ⟨⟨made.map fun call => call.plugin.config, ?_, rfl, ?_, ?_⟩, ?_, ?_, ?_, ?_, ?_, ?_⟩
  · rw [← plugins]
    exact (untilDenial_isPrefix calls).map _
  · rw [List.map_map, List.map_map]
    apply List.map_congr_left
    intro call _
    simp [(shown call).plugin, (shown call).route]
  · intro undenied
    rw [← plugins]
    exact congrArg _ (untilDenial_complete calls undenied)
  · intro record member
    rw [← List.map_dropLast] at member
    obtain ⟨call, earlier, rfl⟩ := List.mem_map.mp member
    simp [(shown call).action, undenied_of_mem_dropLast calls call earlier]
  · rw [List.getLast?_map]
    cases last : made.getLast? with
    | none => simp
    | some call => simp [(shown call).action, Option.isSome_iff_ne_none]
  · intro record member reason
    obtain ⟨call, called, rfl⟩ := List.mem_map.mp member
    obtain ⟨denied, unsettled⟩ := (shown call).failed reason
    have final : made.getLast? = some call := getLast_of_denied calls call called (by simp [denied])
    simp [(shown call).action, (shown call).status, (shown call).set, (shown call).removed,
      denied, unsettled, final]
  · intro deny denied route isSlow
    simp only
    obtain ⟨call, final, denies⟩ := Option.bind_eq_some_iff.mp denied
    obtain ⟨least, most⟩ := status_of_deny http request.routeId call deny denies
    have reaches : (policyDeniedExit route deny isSlow
        (made.map (Invocation.record http request.routeId))).status = deny.status := by
      simp only [policyDeniedExit, statusFromDeny]
      rw [if_pos (by omega)]
    refine ⟨by omega, by omega, call.record http request.routeId, ?_, ?_⟩
    · rw [List.getLast?_map, final, Option.map_some]
    · rw [(shown call).status, denies, reaches, Option.map_some]
  · exact ⟨rfl, flatMap_setHeaders_record made⟩
  · exact ⟨rfl, flatMap_removeHeaders_record made⟩

end Policy

/-! ## Validated plugins -/

namespace Config

/-- The plugins of a validated list each list a route once, since a route that comes again is
dropped. -/
theorem nodup_of_validatePlugins (routeIds : List String) (mode : RuntimeMode)
    (raws : List PluginRawConfig) (seen : List String) (plugins : List PluginConfig)
    (accepted : validatePlugins routeIds mode raws seen = .ok plugins) :
    ∀ plugin ∈ plugins, plugin.routes.Nodup := by
  intro plugin member
  obtain ⟨_, _, _, passed⟩ := (validatePlugins_ok accepted).of_mem member
  exact (validatePluginRoutes_ok (validatePlugin_ok passed).routes).1

end Config

namespace Policy

variable {Component : Type}

/-- For every validated plugin list, every route and every outcome of the calls, the
evaluation records the plugins it called. -/
theorem evaluation_records_calls (wasm : Wasmtime Component) (http : HttpCrate)
    (routeIds : List String) (mode : RuntimeMode) (raws : List Config.PluginRawConfig)
    (configs : List PluginConfig)
    (validated : Config.validatePlugins routeIds mode raws [] = .ok configs)
    (engine : PolicyEngine Component) (built : PolicyEngine.new wasm configs = .ok engine)
    (outcomes : Outcomes Component) (request : PolicyRequest) :
    EvaluationRecord http configs request (engine.evaluate http outcomes request) := by
  apply evaluationRecord_of_chain
  rw [new_chain wasm configs engine built request.routeId]
  exact configuredFor_eq_listedFor configs request.routeId
    (Config.nodup_of_validatePlugins routeIds mode raws [] configs validated)

/-- A plugin as it is written, naming its route twice. -/
def writtenPlugin (id : String) : Config.PluginRawConfig :=
  { id := id, path := "guard.wasm", hook := "before_request", routes := ["orders", "orders"]
    timeoutMs := some 5, memoryLimitBytes := some 16777216, fuel := some 1000000
    bodyPreviewBytes := 0, rawHeaders := [], config := [] }

/-- The first plugin sets a header, the second runs out of time. -/
def setThenTimeout : Outcomes Unit := fun _ plugin _ =>
  if plugin.config.id = "guard" then
    .returned (.ok ⟨true, none, [⟨"x-user", "admin"⟩], [], []⟩) 0
  else .timedOut

/-- The first of two plugins sets a header and the second runs out of time: both calls are on
record. -/
theorem evaluation_records_calls_pair :
    EvaluationRecord permissiveHttp [guardConfig, { guardConfig with id := "strip" }]
      ordersRequest (pairEngine.evaluate permissiveHttp setThenTimeout ordersRequest) := by
  refine evaluation_records_calls
    permissiveWasm permissiveHttp ["orders"] .demo [writtenPlugin "guard", writtenPlugin "strip"]
    [guardConfig, { guardConfig with id := "strip" }] (by decide +kernel) pairEngine ?_
    setThenTimeout ordersRequest
  have loaded : PolicyEngine.new permissiveWasm [guardConfig, { guardConfig with id := "strip" }] =
      .ok ⟨[⟨guardConfig, ()⟩, ⟨{ guardConfig with id := "strip" }, ()⟩],
        pushIndex 1 (pushIndex 0 (fun _ => none) "orders") "orders"⟩ := rfl
  rw [loaded, pairEngine]
  congr 2
  funext routeId
  by_cases same : routeId = "orders" <;> simp [pushIndex, Map.insert, same]

end Policy

end TraceGate
