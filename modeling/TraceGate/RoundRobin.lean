import TraceGate.Rotation
import TraceGate.RouteCalls

/-!
# Round robin over the healthy upstreams

A call of `select_upstream` takes as many values from the counter as it needs to come to a
healthy upstream, so calls use up the counter at different speeds. What a window of calls
has covered is therefore said of the counter: the values taken are consecutive, each call
takes at least one, and a value that points at a healthy upstream selects it. With as many
calls as upstreams the values make up a whole round.
-/

namespace TraceGate

open Runs

/-! ## The values a call takes from the counter -/

section Draws

variable {route : Route} {runtime : RouteRuntime} {now : Int}

/-- The values that the loop takes from the counter. -/
def RouteRuntime.draws (route : Route) (now : Int) : Nat → RouteRuntime → List Nat
  | 0, _ => []
  | remaining + 1, runtime =>
      runtime.nextUpstream ::
        if runtime.skips now (runtime.nextUpstream % route.upstreams.length) then
          draws route now remaining runtime.advanced
        else []

/-- The loop found its result with this many consecutive values of the counter: all but
the last pointed at upstreams it skipped, and one that is not skipped is the result. -/
structure Probed (route : Route) (now : Int) (runtime : RouteRuntime) (length : Nat)
    (result : Option (Nat × Upstream)) : Prop where
  skipped : ∀ value, runtime.nextUpstream ≤ value → value + 1 < runtime.nextUpstream + length →
    runtime.skips now (value % route.upstreams.length) = true
  found : ∀ value, runtime.nextUpstream ≤ value → value < runtime.nextUpstream + length →
    runtime.skips now (value % route.upstreams.length) = false →
    ∃ upstream, result = some (value % route.upstreams.length, upstream)
  chosen : ∀ index upstream, result = some (index, upstream) →
    runtime.skips now index = false ∧ route.upstreams[index]? = some upstream

/-- A loop whose first value points at a skipped upstream goes on from the next value.

Whatever is said about the values of the loop holds for the first one because it is skipped. -/
theorem Probed.step {length : Nat} {result : Option (Nat × Upstream)}
    (advances : runtime.advanced.nextUpstream = runtime.nextUpstream + 1)
    (skips : runtime.skips now (runtime.nextUpstream % route.upstreams.length) = true)
    (probed : Probed route now runtime.advanced length result) :
    Probed route now runtime (length + 1) result where
  skipped := by
    intro value low high
    rcases Nat.eq_or_lt_of_le low with first | later
    · exact first ▸ skips
    · exact probed.skipped value (by omega) (by omega)
  found := by
    intro value low high kept
    rcases Nat.eq_or_lt_of_le low with first | later
    · subst first
      exact absurd kept (by simp [skips])
    · exact probed.found value (by omega) (by omega) kept
  chosen := probed.chosen

/-- While the counter does not wrap, the loop takes consecutive values, at least one when
it may make a probe, and leaves the counter behind the last. -/
theorem probe_eq_ok (serves : runtime.Serves route) (nonempty : 0 < route.upstreams.length)
    (remaining : Nat)
    (unwrapped : ∀ value ∈ RouteRuntime.draws route now remaining runtime, value + 1 < 2 ^ 64) :
    ∃ length result, (0 < remaining → 0 < length) ∧
      RouteRuntime.probe route now remaining runtime =
        .ok (result, { runtime with nextUpstream := runtime.nextUpstream + length }) ∧
      Probed route now runtime length result := by
  induction remaining generalizing runtime with
  | zero =>
    refine ⟨0, none, id, rfl, ?_, ?_, ?_⟩
    · intro value low high
      omega
    · intro value low high
      omega
    · intro index upstream impossible
      exact absurd impossible (by simp)
  | succ remaining inductionHypothesis =>
    obtain ⟨upstream, upstreamFound, probes⟩ := probe_succ serves nonempty now remaining
    have bound := unwrapped runtime.nextUpstream (by simp [RouteRuntime.draws])
    have advances : runtime.advanced.nextUpstream = runtime.nextUpstream + 1 :=
      Nat.mod_eq_of_lt bound
    cases skips : runtime.skips now (runtime.nextUpstream % route.upstreams.length) with
    | true =>
      have rest : ∀ value ∈ RouteRuntime.draws route now remaining runtime.advanced,
          value + 1 < 2 ^ 64 := by
        intro value member
        exact unwrapped value (by simp [RouteRuntime.draws, skips, member])
      obtain ⟨length, result, _, probed, spec⟩ := inductionHypothesis serves.advanced rest
      refine ⟨length + 1, result, fun _ => Nat.succ_pos length, ?_, spec.step advances skips⟩
      rw [probes, if_pos skips, probed, advances, Nat.add_right_comm, Nat.add_assoc]
      rfl
    | false =>
      refine ⟨1, some (runtime.nextUpstream % route.upstreams.length, upstream),
        fun _ => Nat.one_pos, ?_, ?_, ?_, ?_⟩
      · rw [probes, skips, ← advances]
        rfl
      · intro value low high
        omega
      · intro value low high _
        have first : value = runtime.nextUpstream := by omega
        exact ⟨upstream, by rw [first]⟩
      · intro index chosen same
        obtain ⟨rfl, rfl⟩ := Prod.mk.inj (Option.some.inj same)
        exact ⟨skips, upstreamFound⟩

/-- A selection returns, having taken at least one value, with what a loop over the values
finds.

The counter must not wrap around at any value that the loop draws. -/
theorem selectUpstream_eq_ok (serves : runtime.Serves route)
    (nonempty : 0 < route.upstreams.length)
    (unwrapped : ∀ value ∈ RouteRuntime.draws route now route.upstreams.length runtime,
      value + 1 < 2 ^ 64) :
    ∃ length result, 0 < length ∧
      runtime.selectUpstream route now =
        .ok (result, { runtime with nextUpstream := runtime.nextUpstream + length }) ∧
      Probed route now runtime length result := by
  obtain ⟨length, result, positive, probed, spec⟩ :=
    probe_eq_ok serves nonempty route.upstreams.length unwrapped
  refine ⟨length, result, positive nonempty, ?_, spec⟩
  rw [RouteRuntime.selectUpstream, if_neg (by omega), probed]

end Draws

/-! ## Windows in which the healthy upstreams stay the same -/

/-- How often an upstream has been selected. -/
def Window.selections (window : Window) (index : Nat) : Nat :=
  (window.selected.map (Option.map Prod.fst)).count (some index)

/-- When an upstream is selected, exactly the upstreams of the set are healthy, and the
counter does not wrap during the call. -/
def Steady (route : Route) (fixed : Finset Nat) (window : Window) : RouteCall → Prop
  | .select now =>
      (∀ index, index < route.upstreams.length →
        (index ∈ fixed ↔ window.runtime.skips now index = false)) ∧
        ∀ value ∈ RouteRuntime.draws route now route.upstreams.length window.runtime,
          value + 1 < 2 ^ 64
  | .record _ _ _ => True

instance (route : Route) (fixed : Finset Nat) (window : Window) :
    ∀ call, Decidable (Steady route fixed window call)
  | .select _ => inferInstanceAs (Decidable (_ ∧ _))
  | .record _ _ _ => isTrue trivial

section Windows

variable {route : Route} {fixed : Finset Nat}

/-- What a window has covered since the counter stood at `start`. Each selection took at
least one value of the counter. -/
structure Window.Covered (route : Route) (fixed : Finset Nat) (start : Nat) (window : Window)
    (length : Nat) : Prop where
  serves : window.runtime.Serves route
  counter : window.runtime.nextUpstream = start + length
  taken : window.selected.length ≤ length
  found : ∀ value, start ≤ value → value < start + length →
    value % route.upstreams.length ∈ fixed →
    ∃ upstream, some (value % route.upstreams.length, upstream) ∈ window.selected
  healthy : ∀ index upstream, some (index, upstream) ∈ window.selected →
    index ∈ fixed ∧ route.upstreams[index]? = some upstream
  inTurn : (∀ index, index < route.upstreams.length → index ∈ fixed) →
    window.selected.map (Option.map Prod.fst) =
      (Rotation.turns route.upstreams.length start length).map some

/-- A selection from a steady window returns, and extends what is covered.

A value that points at an upstream of the fixed set ends the loop with that upstream, so
whatever was drawn and lies in the set is selected. If all upstreams are in the set, every loop
ends with its first value. -/
theorem Window.Covered.select {start length : Nat} {window : Window}
    (nonempty : 0 < route.upstreams.length) (covered : window.Covered route fixed start length)
    (now : Int) (steady : Steady route fixed window (.select now)) :
    ∃ next more, Window.step route window (.select now) = some next ∧
      next.Covered route fixed start (length + more) := by
  obtain ⟨exactly, unwrapped⟩ := steady
  obtain ⟨more, result, positive, selects, spec⟩ :=
    selectUpstream_eq_ok covered.serves nonempty unwrapped
  have inRange : ∀ value, value % route.upstreams.length < route.upstreams.length :=
    fun value => Nat.mod_lt value nonempty
  refine ⟨⟨{ window.runtime with nextUpstream := window.runtime.nextUpstream + more },
    window.selected ++ [result]⟩, more, by simp only [Window.step, selects],
    covered.serves, ?_, ?_, ?_, ?_, ?_⟩
  · simp only [covered.counter, Nat.add_assoc]
  · have taken := covered.taken
    simp only [List.length_append, List.length_cons, List.length_nil]
    omega
  · intro value low high member
    by_cases earlier : value < start + length
    · obtain ⟨upstream, listed⟩ := covered.found value low earlier member
      exact ⟨upstream, List.mem_append_left _ listed⟩
    · have counter := covered.counter
      obtain ⟨upstream, rfl⟩ := spec.found value (by omega) (by omega)
        ((exactly _ (inRange value)).mp member)
      exact ⟨upstream, by simp⟩
  · intro index upstream listed
    rcases List.mem_append.mp listed with earlier | last
    · exact covered.healthy index upstream earlier
    · obtain ⟨kept, upstreamFound⟩ := spec.chosen index upstream (List.mem_singleton.mp last).symm
      exact ⟨(exactly index (List.getElem?_eq_some_iff.mp upstreamFound).1).mpr kept,
        upstreamFound⟩
  · intro all
    have unskipped : ∀ value, window.runtime.skips now (value % route.upstreams.length) = false :=
      fun value => (exactly _ (inRange value)).mp (all _ (inRange value))
    have single : more = 1 := by
      by_contra several
      have skipped := spec.skipped window.runtime.nextUpstream (Nat.le_refl _) (by omega)
      exact absurd skipped (by simp [unskipped])
    subst single
    obtain ⟨upstream, rfl⟩ := spec.found window.runtime.nextUpstream (Nat.le_refl _) (by omega)
      (unskipped _)
    rw [Rotation.turns_add, Rotation.turns_one, List.map_append, List.map_append,
      covered.inTurn all, covered.counter]
    rfl

/-- Recording a result moves no counter, so it covers what was covered. -/
theorem Window.Covered.record {start length : Nat} {window : Window}
    (covered : window.Covered route fixed start length) (index : Nat) (failed : Bool)
    (nowMs : Int) :
    ({ window with runtime := window.runtime.recordUpstreamResult index failed nowMs } :
      Window).Covered route fixed start length where
  serves := (recordUpstreamResult_length index failed nowMs).trans covered.serves
  counter := by
    rw [← covered.counter]
    cases found : window.runtime.upstreams[index]? with
    | none => simp [RouteRuntime.recordUpstreamResult, found]
    | some health => simp [RouteRuntime.recordUpstreamResult, found]
  taken := covered.taken
  found := covered.found
  healthy := covered.healthy
  inTurn := covered.inTurn

/-- Every call of a steady window returns, and what is covered only grows. -/
theorem Window.Covered.step {start : Nat} {window : Window}
    (nonempty : 0 < route.upstreams.length) (call : RouteCall)
    (covered : ∃ length, window.Covered route fixed start length)
    (steady : Steady route fixed window call) :
    ∃ next, Window.step route window call = some next ∧
      ∃ length, next.Covered route fixed start length := by
  obtain ⟨length, covered⟩ := covered
  cases call with
  | select now =>
    obtain ⟨next, more, taken, kept⟩ := covered.select nonempty now steady
    exact ⟨next, taken, length + more, kept⟩
  | record index failed nowMs =>
    exact ⟨_, rfl, length, covered.record index failed nowMs⟩

/-- Each selection adds its result, and a recording adds none.

By induction on the calls. -/
theorem length_selected (route : Route) (window final : Window) (calls : List RouteCall)
    (completed : run (Window.step route) window calls = some final) :
    final.selected.length = window.selected.length + calls.countP RouteCall.isSelect := by
  induction calls generalizing window with
  | nil =>
    obtain rfl : window = final := Option.some.inj completed
    rfl
  | cons call rest inductionHypothesis =>
    obtain ⟨next, taken, following⟩ := (run_cons_iff _ window final call rest).mp completed
    rw [inductionHypothesis next following]
    cases call with
    | select now =>
      simp only [Window.step] at taken
      split at taken
      · exact absurd taken (by simp)
      · obtain rfl := Option.some.inj taken
        simp only [List.length_append, List.length_cons, List.length_nil, List.countP_cons,
          RouteCall.isSelect, ↓reduceIte]
        omega
    | record index failed nowMs =>
      obtain rfl := Option.some.inj taken
      simp [RouteCall.isSelect]

/-- In a window of calls during which the healthy upstreams stay the same and the counter does
not wrap, only healthy upstreams are selected; once there are as many selections as upstreams,
every healthy one has been selected; and when all are healthy, the numbers of selections of two
upstreams differ by at most one.

As many selections as upstreams take at least one round of values, so one of them points at the
upstream. -/
theorem selectUpstream_starves_none (route : Route) (nonempty : 0 < route.upstreams.length)
    (fixed : Finset Nat) (runtime : RouteRuntime) (serves : runtime.Serves route)
    (calls : List RouteCall)
    (steady : Guarded (Window.step route) (Steady route fixed) ⟨runtime, []⟩ calls) :
    ∃ final, run (Window.step route) ⟨runtime, []⟩ calls = some final ∧
      final.selected.length = calls.countP RouteCall.isSelect ∧
      (route.upstreams.length ≤ calls.countP RouteCall.isSelect →
        ∀ index ∈ fixed, index < route.upstreams.length → 0 < final.selections index) ∧
      (∀ index upstream, some (index, upstream) ∈ final.selected →
        index ∈ fixed ∧ route.upstreams[index]? = some upstream) ∧
      ((∀ index, index < route.upstreams.length → index ∈ fixed) →
        ∀ left right, left < route.upstreams.length → right < route.upstreams.length →
          final.selections left ≤ final.selections right + 1) := by
  have initial : ∃ length,
      (Window.mk runtime []).Covered route fixed runtime.nextUpstream length := by
    refine ⟨0, serves, rfl, Nat.le_refl 0, ?_, by simp, fun _ => rfl⟩
    intro value low high
    omega
  obtain ⟨final, completed, length, covered⟩ := guarded_completes (Window.step route)
    (Steady route fixed) (fun window => ∃ length,
      window.Covered route fixed runtime.nextUpstream length)
    (fun window call kept guarded => Window.Covered.step nonempty call kept guarded)
    ⟨runtime, []⟩ calls initial steady
  have selections := length_selected route ⟨runtime, []⟩ final calls completed
  simp only [List.length_nil, Nat.zero_add] at selections
  refine ⟨final, completed, selections, ?_, covered.healthy, ?_⟩
  · intro enough index member inRange
    have taken := covered.taken
    obtain ⟨value, low, high, points⟩ := Rotation.exists_turn runtime.nextUpstream inRange
    obtain ⟨upstream, listed⟩ := covered.found value low (by omega) (points.symm ▸ member)
    rw [Window.selections, List.count_pos_iff]
    exact List.mem_map.mpr ⟨_, listed, by rw [points]; rfl⟩
  · intro all left right leftInRange rightInRange
    have counted : ∀ index, final.selections index =
        (Rotation.turns route.upstreams.length runtime.nextUpstream length).count index := by
      intro index
      rw [Window.selections, covered.inTurn all,
        List.count_map_of_injective _ some (Option.some_injective Nat)]
    rw [counted, counted]
    exact Rotation.count_turns_le runtime.nextUpstream length leftInRange rightInRange

/-- The first of two upstreams is in cooldown, and the counter points at it. -/
def cooledRuntime : RouteRuntime :=
  { RouteRuntime.new Selection.pairedRoute with
    upstreams := [⟨0, 100⟩, ⟨0, 0⟩]
    nextUpstream := 6 }

def cooledCalls : List RouteCall := [.select 50, .record 1 false 55, .select 60]

/-- Both selections go to the second upstream, each with two values of the counter. -/
theorem cooled_upstream_is_passed_over :
    ∃ final, run (Window.step Selection.pairedRoute) ⟨cooledRuntime, []⟩ cooledCalls =
        some final ∧
      final.selected.length = 2 ∧ 0 < final.selections 1 ∧
      ∀ index upstream, some (index, upstream) ∈ final.selected →
        index ∈ ({1} : Finset Nat) ∧
          Selection.pairedRoute.upstreams[index]? = some upstream := by
  obtain ⟨final, completed, counted, covers, healthy, _⟩ :=
    selectUpstream_starves_none Selection.pairedRoute (by decide) {1} cooledRuntime rfl
      cooledCalls (by decide)
  exact ⟨final, completed, counted, covers (by decide) 1 (by decide) (by decide), healthy⟩

end Windows

end TraceGate
