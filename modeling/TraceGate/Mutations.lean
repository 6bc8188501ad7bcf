import Mathlib.Data.List.Induction
import TraceGate.PolicyChain

/-!
# Header mutations of a chain

Each plugin of a chain may set and remove headers. The evaluation collects the
mutations of the whole chain in two lists, and the gateway then removes everything
that is to be removed before it sets anything. Taken one plugin after another, the
last plugin that mentions a name would decide what becomes of it.

Names do not interact, so both ways are compared name by name. They differ at a name
exactly when some plugin sets it, a later one removes it, and none sets it again: the
removal that comes last is then carried out first.
-/

namespace TraceGate.Policy

variable {Component : Type}

section Names

variable (http : HttpCrate)

/-- One insertion of `apply_policy_mutations`. -/
def setHeader (headers : HeaderMap) (mutation : HeaderMutation) : HeaderMap :=
  match http.headerNameFromBytes mutation.name with
  | .error _ => headers
  | .ok name =>
    match http.headerValueFromStr mutation.value with
    | .error _ => headers
    | .ok value => HeaderMap.insert headers name value

/-- One removal of `apply_policy_mutations`. -/
def removeHeader (headers : HeaderMap) (text : String) : HeaderMap :=
  match http.headerNameFromBytes text with
  | .ok name => HeaderMap.remove headers name
  | .error _ => headers

variable (name : String)

/-- The value a mutation sets under the name, if it parses and is about the name. -/
def setValue (mutation : HeaderMutation) : Option HeaderValue :=
  match http.headerNameFromBytes mutation.name, http.headerValueFromStr mutation.value with
  | .ok parsed, .ok value => if parsed = name then some value else none
  | _, _ => none

/-- The value left by the last of the mutations that sets one. -/
def lastSet (mutations : List HeaderMutation) : Option HeaderValue :=
  (mutations.filterMap (setValue http name)).getLast?

/-- One of the removals is about the name. -/
def removesName (removeHeaders : List String) : Bool :=
  removeHeaders.any fun text =>
    match http.headerNameFromBytes text with
    | .ok parsed => parsed == name
    | .error _ => false

/-- The decision sets the name. -/
def NormalizedDecision.sets (decision : NormalizedDecision) : Bool :=
  (lastSet http name decision.setHeaders).isSome

/-- The decision removes the name. -/
def NormalizedDecision.removes (decision : NormalizedDecision) : Bool :=
  removesName http name decision.removeHeaders

/-- The decisions applied one plugin after another, for each its removals and then
its insertions. -/
def inTurn (headers : HeaderMap) (decisions : List NormalizedDecision) : HeaderMap :=
  decisions.foldl (fun headers decision =>
    applyPolicyMutations http headers decision.setHeaders decision.removeHeaders) headers

/-- The name is set by one plugin, removed by a later one, and not set from then on. -/
def RemovedForGood (decisions : List NormalizedDecision) : Prop :=
  ∃ before remover after, decisions = before ++ remover :: after ∧
    (∃ decision ∈ before, decision.sets http name = true) ∧
    remover.removes http name = true ∧
    ∀ decision ∈ remover :: after, decision.sets http name = false

end Names

/-! ## One name -/

section OneName

variable {http : HttpCrate} {name : String}

/-- What two batches set last is what the second one sets last, or else the first one. -/
theorem lastSet_append (first second : List HeaderMutation) :
    lastSet http name (first ++ second) =
      (lastSet http name second).or (lastSet http name first) := by
  simp only [lastSet, List.filterMap_append, List.getLast?_append]

/-- Two lists of removals remove a name if one of them does. -/
theorem removesName_append (first second : List String) :
    removesName http name (first ++ second) =
      (removesName http name first || removesName http name second) :=
  List.any_append

/-- What the insertions leave under a name: the last value set, or what was there.

By induction on the insertions, of which each replaces all the values of its own name. -/
theorem getAll_setHeaders (mutations : List HeaderMutation) (headers : HeaderMap) :
    (mutations.foldl (setHeader http) headers).getAll name =
      ((lastSet http name mutations).map fun value => [value]).getD (headers.getAll name) := by
  induction mutations generalizing headers with
  | nil => rfl
  | cons mutation rest inductionHypothesis =>
    rw [List.foldl_cons, inductionHypothesis, ← List.singleton_append, lastSet_append]
    cases later : lastSet http name rest with
    | some value => rfl
    | none =>
      simp only [Option.map_none, Option.getD_none, Option.none_or, lastSet,
        List.filterMap_cons, List.filterMap_nil, setValue, setHeader]
      cases parsedName : http.headerNameFromBytes mutation.name with
      | error err => rfl
      | ok parsed =>
        cases parsedValue : http.headerValueFromStr mutation.value with
        | error err => rfl
        | ok value =>
          by_cases same : parsed = name
          · simp [HeaderMap.getAll_insert, same]
          · simp [HeaderMap.getAll_insert, same, Ne.symm same]

/-- What the removals leave under a name: nothing if one of them names it, and what was there
otherwise. -/
theorem getAll_removeHeaders (removals : List String) (headers : HeaderMap) :
    (removals.foldl (removeHeader http) headers).getAll name =
      if removesName http name removals then [] else headers.getAll name := by
  induction removals generalizing headers with
  | nil => rfl
  | cons text rest inductionHypothesis =>
    rw [List.foldl_cons, inductionHypothesis, ← List.singleton_append, removesName_append]
    cases later : removesName http name rest with
    | true => simp
    | false =>
      cases parsedName : http.headerNameFromBytes text with
      | error err => simp [removesName, removeHeader, parsedName]
      | ok parsed =>
        by_cases same : parsed = name
        · simp [removesName, removeHeader, parsedName, HeaderMap.getAll_remove, same]
        · simp [removesName, removeHeader, parsedName, HeaderMap.getAll_remove, same,
            Ne.symm same]

/-- What both leave under a name: the last value set, else nothing if the name is
removed, else what was there. -/
theorem getAll_applyPolicyMutations (headers : HeaderMap) (setHeaders : List HeaderMutation)
    (removeHeaders : List String) :
    (applyPolicyMutations http headers setHeaders removeHeaders).getAll name =
      ((lastSet http name setHeaders).map fun value => [value]).getD
        (if removesName http name removeHeaders then [] else headers.getAll name) := by
  change (setHeaders.foldl (setHeader http)
    (removeHeaders.foldl (removeHeader http) headers)).getAll name = _
  rw [getAll_setHeaders, getAll_removeHeaders]

/-- The batch sets a name exactly when one of its decisions does. -/
theorem isSome_lastSet_flatMap (decisions : List NormalizedDecision) :
    (lastSet http name (decisions.flatMap NormalizedDecision.setHeaders)).isSome = true ↔
      ∃ decision ∈ decisions, decision.sets http name = true := by
  induction decisions with
  | nil => simp [lastSet]
  | cons decision rest inductionHypothesis =>
    rw [List.flatMap_cons, lastSet_append, Option.isSome_or, Bool.or_eq_true,
      inductionHypothesis]
    simp only [List.mem_cons, exists_eq_or_imp, NormalizedDecision.sets]
    exact or_comm

/-- One more decision: it does not set the name, and it removes what was set before
or leaves what was removed for good. -/
theorem removedForGood_concat_iff (decisions : List NormalizedDecision)
    (last : NormalizedDecision) :
    RemovedForGood http name (decisions ++ [last]) ↔
      last.sets http name = false ∧
        ((last.removes http name = true ∧
            ∃ decision ∈ decisions, decision.sets http name = true) ∨
          RemovedForGood http name decisions) := by
  constructor
  · rintro ⟨before, remover, after, split, earlier, removes, unset⟩
    rcases List.eq_nil_or_concat after with rfl | ⟨middle, final, rfl⟩
    · obtain ⟨rfl, same⟩ := List.append_inj' split rfl
      obtain rfl := (List.cons.inj same).1
      exact ⟨unset last List.mem_cons_self, Or.inl ⟨removes, earlier⟩⟩
    · rw [List.concat_eq_append] at split unset
      rw [← List.cons_append, ← List.append_assoc] at split
      obtain ⟨rfl, same⟩ := List.append_inj' split rfl
      obtain rfl := (List.cons.inj same).1
      refine ⟨unset last (by simp), Or.inr ⟨before, remover, middle, rfl, earlier, removes, ?_⟩⟩
      intro decision member
      exact unset decision (by rw [← List.cons_append]; exact List.mem_append_left _ member)
  · rintro ⟨unset, ⟨removes, earlier⟩ | ⟨before, remover, after, rfl, earlier, removes, rest⟩⟩
    · exact ⟨decisions, last, [], rfl, earlier, removes, by simpa using unset⟩
    · refine ⟨before, remover, after ++ [last], by simp, earlier, removes, ?_⟩
      rw [← List.cons_append]
      intro decision member
      rcases List.mem_append.mp member with inRest | final
      · exact rest decision inRest
      · exact List.mem_singleton.mp final ▸ unset

/-- What the decisions leave under a name when taken in turn: nothing if it is removed
for good, and what the batch leaves otherwise.

The induction takes the last plugin off. If it mentions the name it decides, in turn;
in the batch its removal only counts when no plugin sets the name. -/
theorem getAll_inTurn (headers : HeaderMap) (decisions : List NormalizedDecision) :
    (RemovedForGood http name decisions → (inTurn http headers decisions).getAll name = []) ∧
      (¬ RemovedForGood http name decisions →
        (inTurn http headers decisions).getAll name =
          (applyPolicyMutations http headers
            (decisions.flatMap NormalizedDecision.setHeaders)
            (decisions.flatMap NormalizedDecision.removeHeaders)).getAll name) := by
  induction decisions using List.reverseRecOn with
  | nil => exact ⟨fun ⟨_, _, _, split, _⟩ => by simp at split, fun _ => rfl⟩
  | append_singleton decisions last inductionHypothesis =>
    obtain ⟨removedBefore, keptBefore⟩ := inductionHypothesis
    have stepped : (inTurn http headers (decisions ++ [last])).getAll name =
        ((lastSet http name last.setHeaders).map fun value => [value]).getD
          (if last.removes http name then []
            else (inTurn http headers decisions).getAll name) := by
      rw [inTurn, List.foldl_concat, getAll_applyPolicyMutations]
      rfl
    rw [stepped, removedForGood_concat_iff, getAll_applyPolicyMutations, List.flatMap_append,
      List.flatMap_singleton, List.flatMap_append, List.flatMap_singleton, lastSet_append,
      removesName_append]
    cases set : lastSet http name last.setHeaders with
    | some value => simp [NormalizedDecision.sets, set]
    | none =>
      have unset : last.sets http name = false := by simp [NormalizedDecision.sets, set]
      cases removes : last.removes http name with
      | true =>
        have removesToo : removesName http name last.removeHeaders = true := removes
        refine ⟨by simp, fun kept => ?_⟩
        have unsetBefore : lastSet http name
            (decisions.flatMap NormalizedDecision.setHeaders) = none := by
          rw [← Option.not_isSome_iff_eq_none, isSome_lastSet_flatMap]
          exact fun earlier => kept ⟨unset, Or.inl ⟨rfl, earlier⟩⟩
        simp [unsetBefore, removesToo]
      | false =>
        have removesNot : removesName http name last.removeHeaders = false := removes
        refine ⟨fun good => ?_, fun kept => ?_⟩
        · simpa using removedBefore (by simpa [unset] using good)
        · have keptNow := keptBefore fun good => kept ⟨unset, Or.inr good⟩
          rw [getAll_applyPolicyMutations] at keptNow
          simpa [removesNot] using keptNow

/-- A name that is removed for good still stands in the batch, where all removals come before
all insertions. -/
theorem getAll_ne_nil_of_removedForGood (headers : HeaderMap)
    (decisions : List NormalizedDecision) (good : RemovedForGood http name decisions) :
    (applyPolicyMutations http headers (decisions.flatMap NormalizedDecision.setHeaders)
      (decisions.flatMap NormalizedDecision.removeHeaders)).getAll name ≠ [] := by
  obtain ⟨before, remover, after, rfl, ⟨setter, member, sets⟩, _⟩ := good
  have set := (isSome_lastSet_flatMap (before ++ remover :: after)).mpr
    ⟨setter, List.mem_append_left _ member, sets⟩
  obtain ⟨value, found⟩ := Option.isSome_iff_exists.mp set
  rw [getAll_applyPolicyMutations, found]
  exact List.cons_ne_nil value []

/-- The batch agrees with the decisions in turn exactly when no name is removed for
good. -/
theorem same_inTurn_iff (headers : HeaderMap) (decisions : List NormalizedDecision) :
    HeaderMap.Same
        (applyPolicyMutations http headers (decisions.flatMap NormalizedDecision.setHeaders)
          (decisions.flatMap NormalizedDecision.removeHeaders))
        (inTurn http headers decisions) ↔
      ∀ name, ¬ RemovedForGood http name decisions := by
  constructor
  · intro same name good
    refine getAll_ne_nil_of_removedForGood headers decisions good ?_
    rw [same name]
    exact (getAll_inTurn headers decisions).1 good
  · intro kept name
    exact ((getAll_inTurn headers decisions).2 (kept name)).symm

end OneName

/-! ## The chain -/

/-- The decision a call settles into, if it does. -/
def Invocation.normalized (http : HttpCrate) (call : Invocation Component) :
    Option NormalizedDecision :=
  match call.outcome with
  | .returned guest _ => (call.plugin.call http guest).toOption
  | _ => none

/-- The decisions of the plugins that were called, in the order of the calls. -/
def Progress.decisions (http : HttpCrate) (progress : Progress Component) :
    List NormalizedDecision :=
  progress.invocations.filterMap (Invocation.normalized http)

/-- The decision of a settled call is the one its normalization gives. -/
theorem normalized_of_settle (http : HttpCrate) (call : Invocation Component) (routeId : String)
    (decision : NormalizedDecision) (record : PolicyDecisionRecord)
    (settled : settle http call.plugin routeId call.outcome = .ok (decision, record)) :
    call.normalized http = some decision := by
  obtain ⟨given, elapsed, returned, accepted, _⟩ := (settle_eq_ok_iff _ _ _ _ _ _).mp settled
  simp [Invocation.normalized, returned, LoadedPlugin.call, Except.bind, accepted,
    Except.toOption]

/-- The two lists hold the mutations of the decisions made so far. -/
def Progress.Collected (http : HttpCrate) (progress : Progress Component) : Prop :=
  progress.evaluation.setHeaders =
      (progress.decisions http).flatMap NormalizedDecision.setHeaders ∧
    progress.evaluation.removeHeaders =
      (progress.decisions http).flatMap NormalizedDecision.removeHeaders

/-- An evaluation that denies nothing has collected the mutations of all its calls.

By induction on the chain: a call that settles adds its own mutations behind those collected,
and one that denies or fails ends the evaluation with a denial. -/
theorem collected_evaluateFrom (http : HttpCrate) (engine : PolicyEngine Component)
    (outcomes : Outcomes Component) (request : PolicyRequest) (indexes : List Nat) (turn : Nat)
    (progress : Progress Component) (collected : progress.Collected http)
    (undenied : (evaluateFrom http engine outcomes request indexes turn
      progress).evaluation.denied = none) :
    (evaluateFrom http engine outcomes request indexes turn progress).Collected http := by
  induction indexes generalizing turn progress with
  | nil => exact collected
  | cons index rest inductionHypothesis =>
    cases found : engine.plugins[index]? with
    | none =>
      simp only [evaluateFrom, found] at undenied ⊢
      exact inductionHypothesis turn progress collected undenied
    | some plugin =>
      simp only [evaluateFrom, found] at undenied ⊢
      cases settled : settle http plugin request.routeId
          (outcomes turn plugin (request.inputFor plugin.config)) with
      | error record => simp [settled] at undenied
      | ok pair =>
        obtain ⟨decision, record⟩ := pair
        cases denied : decision.deny with
        | some deny => simp [settled, denied] at undenied
        | none =>
          simp only [settled, denied] at undenied ⊢
          refine inductionHypothesis _ _ ?_ undenied
          have made := normalized_of_settle http
            ⟨plugin, request.inputFor plugin.config,
              outcomes turn plugin (request.inputFor plugin.config)⟩
            request.routeId decision record settled
          have extended : (Progress.decisions http
              ⟨progress.evaluation.merge decision record, progress.invocations ++
                [⟨plugin, request.inputFor plugin.config,
                  outcomes turn plugin (request.inputFor plugin.config)⟩]⟩) =
              progress.decisions http ++ [decision] := by
            simp [Progress.decisions, made]
          rw [Progress.Collected, extended]
          simp [PolicyEvaluation.merge, collected.1, collected.2]

/-- The headers a chain that denies nothing leaves are those its decisions leave one
plugin after another, exactly when no name is set by a plugin, removed by a later one
and not set from then on. -/
theorem mutations_in_plugin_order_iff (http : HttpCrate) (engine : PolicyEngine Component)
    (outcomes : Outcomes Component) (request : PolicyRequest) (headers : HeaderMap)
    (undenied : (engine.evaluate http outcomes request).evaluation.denied = none) :
    HeaderMap.Same
        (applyPolicyMutations http headers
          (engine.evaluate http outcomes request).evaluation.setHeaders
          (engine.evaluate http outcomes request).evaluation.removeHeaders)
        (inTurn http headers ((engine.evaluate http outcomes request).decisions http)) ↔
      ∀ name, ¬ RemovedForGood http name
        ((engine.evaluate http outcomes request).decisions http) := by
  obtain ⟨set, removed⟩ := collected_evaluateFrom http engine outcomes request _ 0 _
    ⟨rfl, rfl⟩ undenied
  rw [← same_inTurn_iff headers]
  simp only [PolicyEngine.evaluate, set, removed]

/-- Two plugins on one route. -/
def pairEngine : PolicyEngine Unit :=
  ⟨[⟨guardConfig, ()⟩, ⟨{ guardConfig with id := "strip" }, ()⟩],
    fun routeId => if routeId = "orders" then some [0, 1] else none⟩

/-- The first plugin sets a header, the second removes one of this name. -/
def setThenRemove (removed : String) : Outcomes Unit := fun _ plugin _ =>
  if plugin.config.id = "guard" then
    .returned (.ok ⟨true, none, [⟨"x-user", "admin"⟩], [], []⟩) 0
  else .returned (.ok ⟨true, none, [], [removed], []⟩) 0

/-- A removal of another header does not matter: the first plugin sets one header and the second
removes a different one. -/
theorem mutations_in_plugin_order_of_other_name :
    (pairEngine.evaluate permissiveHttp (setThenRemove "x-debug") ordersRequest).evaluation.denied =
        none ∧
      HeaderMap.Same
        (applyPolicyMutations permissiveHttp [("x-debug", .ofAscii "1")] [⟨"x-user", "admin"⟩]
          ["x-debug"])
        (inTurn permissiveHttp [("x-debug", .ofAscii "1")]
          ((pairEngine.evaluate permissiveHttp (setThenRemove "x-debug")
            ordersRequest).decisions permissiveHttp)) := by
  refine ⟨rfl, (mutations_in_plugin_order_iff permissiveHttp pairEngine
    (setThenRemove "x-debug") ordersRequest _ rfl).mpr fun name good => ?_⟩
  have decisions : (pairEngine.evaluate permissiveHttp (setThenRemove "x-debug")
      ordersRequest).decisions permissiveHttp =
        [⟨none, [⟨"x-user", "admin"⟩], [], []⟩] ++ [⟨none, [], ["x-debug"], []⟩] := rfl
  rw [decisions, removedForGood_concat_iff] at good
  obtain ⟨_, ⟨removes, setter, member, sets⟩ | ⟨before, remover, after, split, earlier, _⟩⟩ := good
  · obtain rfl : "x-debug" = name := by
      simpa [NormalizedDecision.removes, removesName, permissiveHttp] using removes
    obtain rfl := List.mem_singleton.mp member
    exact absurd sets (by decide)
  · have empty : before = [] := by
      have lengths := congrArg List.length split
      simp only [List.length_append, List.length_cons, List.length_nil] at lengths
      exact List.length_eq_zero_iff.mp (by omega)
    obtain ⟨_, member, _⟩ := earlier
    simp [empty] at member

/-- A header that the second plugin removes is sent all the same, since the first plugin's
insertion is applied after the second plugin's removal. -/
theorem removed_header_still_sent :
    (pairEngine.evaluate permissiveHttp (setThenRemove "x-user") ordersRequest).evaluation.denied =
        none ∧
      ¬ HeaderMap.Same
        (applyPolicyMutations permissiveHttp []
          (pairEngine.evaluate permissiveHttp (setThenRemove "x-user")
            ordersRequest).evaluation.setHeaders
          (pairEngine.evaluate permissiveHttp (setThenRemove "x-user")
            ordersRequest).evaluation.removeHeaders)
        (inTurn permissiveHttp [] ((pairEngine.evaluate permissiveHttp (setThenRemove "x-user")
          ordersRequest).decisions permissiveHttp)) := by
  refine ⟨rfl, fun same => ?_⟩
  exact absurd (same "x-user") (by decide)

end TraceGate.Policy
