import TraceGate.RouteCalls

/-!
# Passive health as a function of the recorded results

The two counters of an upstream are overwritten in place: reaching the threshold starts the
count anew, a success clears both. After any sequence of calls they are nevertheless a
function of the failures since the last success: their number modulo the threshold, and the
end of the cooldown that the last full threshold of them started.
-/

namespace TraceGate

open Runs

/-- The results recorded for an upstream, each with whether it failed and its time. -/
def resultsFor (index : Nat) (calls : List RouteCall) : List (Bool × Int) :=
  calls.filterMap fun
    | .select _ => none
    | .record recorded failed nowMs => if recorded = index then some (failed, nowMs) else none

/-- The times of the failures since the last success. -/
def failuresSince (results : List (Bool × Int)) : List Int :=
  ((results.reverse.takeWhile Prod.fst).map Prod.snd).reverse

/-- The counters are those that this many failures since the last success leave: the count
modulo the threshold, and the cooldown that the last full threshold started. -/
structure UpstreamRuntime.Reflects (runtime : RouteRuntime) (health : UpstreamRuntime)
    (failures : List Int) : Prop where
  counted : health.failures = failures.length % runtime.failureThreshold
  never : failures.length < runtime.failureThreshold → health.unhealthyUntilMs = 0
  cooling : runtime.failureThreshold ≤ failures.length →
    ∃ time, failures[runtime.failureThreshold *
        (failures.length / runtime.failureThreshold) - 1]? = some time ∧
      health.unhealthyUntilMs = saturateI64 (time + runtime.cooldownMs)

section Reflection

variable {runtime : RouteRuntime} {health : UpstreamRuntime}

/-- A failure is one more since the last success. -/
@[simp]
theorem failuresSince_failure (results : List (Bool × Int)) (nowMs : Int) :
    failuresSince (results ++ [(true, nowMs)]) = failuresSince results ++ [nowMs] := by
  simp [failuresSince]

/-- After a success there are none. -/
@[simp]
theorem failuresSince_success (results : List (Bool × Int)) (nowMs : Int) :
    failuresSince (results ++ [(false, nowMs)]) = [] := by
  simp [failuresSince]

/-- Fresh counters reflect that nothing was recorded. -/
theorem reflects_start (positive : 0 < runtime.failureThreshold) :
    UpstreamRuntime.Reflects runtime ⟨0, 0⟩ [] where
  counted := (Nat.zero_mod _).symm
  never := fun _ => rfl
  cooling := fun reached => absurd positive (Nat.not_lt_of_le reached)

/-- A failure that completes a threshold starts a cooldown at its own time and the count
anew; any other one is only counted. The count stays below the threshold, so it never
reaches the end of its thirty-two bits. -/
theorem UpstreamRuntime.Reflects.failure {failures : List Int}
    (positive : 0 < runtime.failureThreshold) (bounded : runtime.failureThreshold < 2 ^ 32)
    (reflects : health.Reflects runtime failures) (nowMs : Int) :
    (health.recorded runtime true nowMs).Reflects runtime (failures ++ [nowMs]) := by
  have below := Nat.mod_lt failures.length positive
  have split := Nat.div_add_mod failures.length runtime.failureThreshold
  have narrow : (health.failures + 1) % 2 ^ 32 =
      failures.length % runtime.failureThreshold + 1 := by
    rw [reflects.counted]
    exact Nat.mod_eq_of_lt (by omega)
  simp only [UpstreamRuntime.recorded, ↓reduceIte, narrow]
  by_cases completes : runtime.failureThreshold ≤ failures.length % runtime.failureThreshold + 1
  · have full : failures.length + 1 =
        runtime.failureThreshold * (failures.length / runtime.failureThreshold + 1) := by
      rw [Nat.mul_add]
      omega
    rw [if_pos completes]
    refine ⟨?_, ?_, ?_⟩
    · rw [List.length_append, List.length_singleton, full, Nat.mul_mod_right]
    · intro short
      rw [List.length_append, List.length_singleton, full] at short
      exact absurd short (Nat.not_lt_of_le (Nat.le_mul_of_pos_right _ (Nat.succ_pos _)))
    · intro _
      refine ⟨nowMs, ?_, rfl⟩
      rw [List.length_append, List.length_singleton, full, Nat.mul_div_cancel_left _ positive,
        ← full]
      simp
  · obtain ⟨quotient, remainder⟩ :
        (failures.length + 1) / runtime.failureThreshold =
          failures.length / runtime.failureThreshold ∧
        (failures.length + 1) % runtime.failureThreshold =
          failures.length % runtime.failureThreshold + 1 :=
      (Nat.div_mod_unique positive).mpr ⟨by omega, by omega⟩
    rw [if_neg completes]
    refine ⟨?_, ?_, ?_⟩
    · rw [List.length_append, List.length_singleton, remainder]
    · intro short
      rw [List.length_append, List.length_singleton] at short
      exact reflects.never (by omega)
    · intro reached
      rw [List.length_append, List.length_singleton] at reached ⊢
      have earlier : runtime.failureThreshold ≤ failures.length := by
        by_contra short
        have same := Nat.mod_eq_of_lt (Nat.lt_of_not_le short)
        omega
      obtain ⟨time, listed, ends⟩ := reflects.cooling earlier
      refine ⟨time, ?_, ends⟩
      rw [quotient, List.getElem?_append_left (List.getElem?_eq_some_iff.mp listed).1, listed]

/-- A success sets the counters back to fresh ones. -/
theorem UpstreamRuntime.Reflects.success (positive : 0 < runtime.failureThreshold)
    (nowMs : Int) : (health.recorded runtime false nowMs).Reflects runtime [] :=
  reflects_start positive

/-- An upstream is skipped while the cooldown lasts that its last full threshold of
failures started. A clock never shows a time before zero. -/
theorem UpstreamRuntime.Reflects.skips_iff {limits : RouteRuntime} {failures : List Int}
    {index : Nat} {now : Int} (found : runtime.upstreams[index]? = some health)
    (reflects : health.Reflects limits failures) (later : 0 ≤ now) :
    runtime.skips now index = true ↔
      limits.failureThreshold ≤ failures.length ∧
        ∃ time, failures[limits.failureThreshold *
            (failures.length / limits.failureThreshold) - 1]? = some time ∧
          now < saturateI64 (time + limits.cooldownMs) := by
  have test : runtime.skips now index = true ↔ now < health.unhealthyUntilMs := by
    simp [RouteRuntime.skips, Selection.healthy, found]
  rw [test]
  by_cases reached : limits.failureThreshold ≤ failures.length
  · obtain ⟨time, listed, ends⟩ := reflects.cooling reached
    rw [ends]
    constructor
    · intro before
      exact ⟨reached, time, listed, before⟩
    · rintro ⟨_, other, otherListed, before⟩
      obtain rfl : time = other := Option.some.inj (listed.symm.trans otherListed)
      exact before
  · rw [reflects.never (Nat.lt_of_not_le reached)]
    constructor
    · intro before
      omega
    · rintro ⟨impossible, _⟩
      exact absurd impossible reached

/-- A result is recorded by the threshold and the cooldown of the route alone. -/
theorem recorded_congr {left right : RouteRuntime} (health : UpstreamRuntime) (failed : Bool)
    (nowMs : Int) (threshold : left.failureThreshold = right.failureThreshold)
    (cooldown : left.cooldownMs = right.cooldownMs) :
    health.recorded left failed nowMs = health.recorded right failed nowMs := by
  simp only [UpstreamRuntime.recorded, threshold, cooldown]

/-- The runtime of a route after these calls. -/
structure Window.Recorded (route : Route) (window : Window) (calls : List RouteCall) : Prop where
  serves : window.runtime.Serves route
  threshold : window.runtime.failureThreshold = (RouteRuntime.new route).failureThreshold
  cooldown : window.runtime.cooldownMs = (RouteRuntime.new route).cooldownMs
  reflects : ∀ index (health : UpstreamRuntime), window.runtime.upstreams[index]? = some health →
    health.Reflects (RouteRuntime.new route) (failuresSince (resultsFor index calls))

/-- A fresh runtime of a route has recorded nothing for any of its upstreams. -/
theorem recorded_start (route : Route) (positive : 0 < route.passiveHealthFailures)
    (selected : List (Option (Nat × Upstream))) :
    (Window.mk (RouteRuntime.new route) selected).Recorded route [] where
  serves := serves_new route
  threshold := rfl
  cooldown := rfl
  reflects := by
    intro index health found
    simp only [RouteRuntime.new, List.getElem?_map, Option.map_eq_some_iff] at found
    obtain ⟨_, _, rfl⟩ := found
    exact reflects_start positive

/-- The results for an upstream in two stretches of calls are those in one and then those in the
other. -/
theorem resultsFor_append (index : Nat) (first second : List RouteCall) :
    resultsFor index (first ++ second) = resultsFor index first ++ resultsFor index second :=
  List.filterMap_append

/-- Every call returns, and the counters keep reflecting the results recorded so far.

A call that records a result for an upstream changes the counters of that upstream, by
`Reflects.failure` or `Reflects.success`. All others keep theirs, and a selection changes
none. -/
theorem Window.Recorded.step {route : Route} (positive : 0 < route.passiveHealthFailures)
    (bounded : route.passiveHealthFailures < 2 ^ 32) {window : Window} {calls : List RouteCall}
    (recorded : window.Recorded route calls) (call : RouteCall) :
    ∃ next, Window.step route window call = some next ∧
      next.Recorded route (calls ++ [call]) := by
  cases call with
  | select now =>
    obtain ⟨result, counter, selects, _⟩ := selectUpstream_returns recorded.serves now
    refine ⟨⟨{ window.runtime with nextUpstream := counter }, window.selected ++ [result]⟩,
      by simp only [Window.step, selects], recorded.serves, recorded.threshold,
      recorded.cooldown, ?_⟩
    intro index health found
    have same : resultsFor index (calls ++ [.select now]) = resultsFor index calls := by
      rw [resultsFor_append]
      exact List.append_nil _
    rw [same]
    exact recorded.reflects index health found
  | record changed failed nowMs =>
    refine ⟨_, rfl, (recordUpstreamResult_length changed failed nowMs).trans recorded.serves,
      ?_, ?_, ?_⟩
    · rw [← recorded.threshold]
      exact (recordUpstreamResult_limits changed failed nowMs).1
    · rw [← recorded.cooldown]
      exact (recordUpstreamResult_limits changed failed nowMs).2
    · intro index health found
      rw [getElem?_recordUpstreamResult] at found
      rw [resultsFor_append]
      by_cases same : changed = index
      · subst same
        rw [if_pos rfl, Option.map_eq_some_iff] at found
        obtain ⟨before, beforeFound, rfl⟩ := found
        rw [recorded_congr before failed nowMs recorded.threshold recorded.cooldown]
        have reflects := recorded.reflects changed before beforeFound
        have last : resultsFor changed [.record changed failed nowMs] = [(failed, nowMs)] := by
          simp [resultsFor]
        rw [last]
        cases failed with
        | true =>
          rw [failuresSince_failure]
          exact reflects.failure positive bounded nowMs
        | false =>
          rw [failuresSince_success]
          exact UpstreamRuntime.Reflects.success positive nowMs
      · have none : resultsFor index [.record changed failed nowMs] = [] := by
          simp [resultsFor, same]
        rw [if_neg same] at found
        rw [none, List.append_nil]
        exact recorded.reflects index health found

/-- Any number of calls returns, and the counters reflect their results.

By induction on the calls from the end. -/
theorem run_recorded (route : Route) (positive : 0 < route.passiveHealthFailures)
    (bounded : route.passiveHealthFailures < 2 ^ 32) (calls : List RouteCall) :
    ∃ final, run (Window.step route) ⟨RouteRuntime.new route, []⟩ calls = some final ∧
      final.Recorded route calls := by
  induction calls using List.reverseRecOn with
  | nil => exact ⟨_, rfl, recorded_start route positive []⟩
  | append_singleton calls call inductionHypothesis =>
    obtain ⟨middle, completed, recorded⟩ := inductionHypothesis
    obtain ⟨next, taken, kept⟩ := recorded.step positive bounded call
    refine ⟨next, ?_, kept⟩
    rw [run_append, completed]
    simp [run, taken]

/-- The health of an upstream is a function of the results recorded for it. With a
threshold that is at least one and fits its thirty-two bits, after any calls on the runtime
of a route the counters of each upstream reflect the failures since its last success, an
upstream is skipped exactly while the cooldown of its last full threshold lasts, and a
result leaves the other upstreams as they are. -/
theorem upstream_health_of_results (route : Route) (positive : 0 < route.passiveHealthFailures)
    (bounded : route.passiveHealthFailures < 2 ^ 32) (calls : List RouteCall) :
    ∃ final, run (Window.step route) ⟨RouteRuntime.new route, []⟩ calls = some final ∧
      (∀ index, index < route.upstreams.length →
        ∃ health : UpstreamRuntime, final.runtime.upstreams[index]? = some health ∧
          health.Reflects (RouteRuntime.new route) (failuresSince (resultsFor index calls)) ∧
          ∀ now, 0 ≤ now →
            (final.runtime.skips now index = true ↔
              route.passiveHealthFailures ≤ (failuresSince (resultsFor index calls)).length ∧
                ∃ time, (failuresSince (resultsFor index calls))[route.passiveHealthFailures *
                    ((failuresSince (resultsFor index calls)).length /
                      route.passiveHealthFailures) - 1]? = some time ∧
                  now < saturateI64 (time + (RouteRuntime.new route).cooldownMs))) ∧
      ∀ (runtime : RouteRuntime) index failed nowMs other, other ≠ index →
        (runtime.recordUpstreamResult index failed nowMs).upstreams[other]? =
          runtime.upstreams[other]? := by
  obtain ⟨final, completed, recorded⟩ := run_recorded route positive bounded calls
  refine ⟨final, completed, ?_, ?_⟩
  · intro index inRange
    have found := List.getElem?_eq_getElem (lt_of_lt_of_eq inRange recorded.serves.symm)
    have reflects := recorded.reflects index _ found
    exact ⟨_, found, reflects, fun now later => reflects.skips_iff found later⟩
  · intro runtime index failed nowMs other different
    rw [getElem?_recordUpstreamResult, if_neg (Ne.symm different)]

/-- Two failures in a row start a cooldown of one second. -/
def patientRoute : Route := { Selection.pairedRoute with passiveHealthFailures := 2 }

def threeFailures : List RouteCall :=
  [.record 0 true 10, .record 1 false 15, .record 0 true 20, .select 25, .record 0 true 30]

/-- The second failure started the cooldown, and the third counts towards the next one. -/
theorem third_failure_is_counted_anew :
    ∃ final, run (Window.step patientRoute) ⟨RouteRuntime.new patientRoute, []⟩ threeFailures =
        some final ∧
      ∃ health, final.runtime.upstreams[0]? = some health ∧ health.failures = 1 ∧
        final.runtime.skips 1019 0 = true ∧ final.runtime.skips 1020 0 = false := by
  obtain ⟨final, completed, health, _⟩ :=
    upstream_health_of_results patientRoute (by decide) (by decide) threeFailures
  obtain ⟨health, found, reflects, skips⟩ := health 0 (by decide)
  refine ⟨final, completed, health, found, reflects.counted, ?_, ?_⟩
  · exact (skips 1019 (by decide)).mpr ⟨by decide, 20, rfl, by decide⟩
  · refine Bool.eq_false_iff.mpr fun impossible => ?_
    obtain ⟨_, time, listed, before⟩ := (skips 1020 (by decide)).mp impossible
    obtain rfl : 20 = time := Option.some.inj listed
    exact absurd before (by decide)

end Reflection

end TraceGate
