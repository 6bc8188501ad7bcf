import TraceGate.EvaluationRecords
import TraceGate.Polling

/-!
# Body previews

Before its plugins are called, the gateway reads the request's body up to the largest
preview that a plugin of the route asks for. The frames it read are queued and given
again before the rest of the body. `Forwarding` reads the frames of a body; here the body
is any source, polled until the preview is long enough or the body ends. The loop over
polls is the loop over frames, and what it returns plays what the body played.

The preview is cut twice, at the largest limit of the route and then at each plugin's
own. A plugin's limit is not above the largest, so its preview is that of the whole body.
-/

namespace TraceGate

open Polling

/-! ## Reading a preview -/

section

variable (source : Source Frame String)

/-- `PrefixBody`: the queued frames, and then the inner body. -/
def PrefixBody : Source Frame String where
  State := List Frame × source.State
  poll
    | (frame :: queued, inner) => (.item frame, (queued, inner))
    | ([], inner) => ((source.poll inner).1, ([], (source.poll inner).2))

/-- The loop of `split_body_preview` with at most so many polls; none if it still
awaits a frame. -/
def previewLoop (limit : Nat) :
    Nat → List UInt8 → List Frame → source.State →
      Option (Except String (List UInt8 × (PrefixBody source).State))
  | 0, preview, read, state =>
      if preview.length < limit then none else some (.ok (preview, (read, state)))
  | polls + 1, preview, read, state =>
      if preview.length < limit then
        match source.poll state with
        | (.pending, next) => previewLoop limit polls preview read next
        | (.ended, next) => some (.ok (preview, (read, next)))
        | (.failed err, _) => some (.error err)
        | (.item frame, next) =>
            let preview :=
              match frame.dataRef with
              | some data => preview ++ data.take (min (limit - preview.length) data.length)
              | none => preview
            previewLoop limit polls preview (read ++ [frame]) next
      else some (.ok (preview, (read, state)))

/-- `split_body_preview`. With a limit of 0 the body is returned as it is, which is what
an empty queue before it amounts to. -/
def splitPolled (limit : Nat) (polls : Nat) (state : source.State) :
    Option (Except String (List UInt8 × (PrefixBody source).State)) :=
  if limit = 0 then some (.ok ([], ([], state)))
  else previewLoop source (min limit usizeMax) polls [] [] state

variable {source}

/-- Queued frames are played before the rest, and then the rest as the source plays it.

The outer induction is over the queue, the inner one over what the source plays. -/
theorem plays_prefixBody {state : source.State} {rest : List Frame} {failure : Option String}
    (plays : source.Plays state rest failure) (queued : List Frame) :
    (PrefixBody source).Plays (queued, state) (queued ++ rest) failure := by
  induction queued with
  | nil =>
    induction plays with
    | pending answered _ inductionHypothesis =>
      exact .pending (by simp [PrefixBody, answered]) inductionHypothesis
    | item answered _ inductionHypothesis =>
      exact .item (by simp [PrefixBody, answered]) inductionHypothesis
    | failed answered => exact .failed (by simp [PrefixBody, answered]; rfl)
    | ended answered => exact .ended (by simp [PrefixBody, answered]; rfl)
  | cons frame others inductionHypothesis => exact .item rfl inductionHypothesis

/-- What the loop over polls returns, the loop over frames does, and the state it leaves
plays the frames that were not read. -/
theorem splitFrames_of_previewLoop (keeps : source.KeepsEnd) (limit polls : Nat)
    (preview : List UInt8) (read : List Frame) (state : source.State) (frames : List Frame)
    (failure : Option String) (plays : source.Plays state frames failure)
    (result : List UInt8) (queued : List Frame) (left : source.State)
    (returned : previewLoop source limit polls preview read state =
      some (.ok (result, (queued, left)))) :
    ∃ rest, splitFrames limit failure preview read frames = .ok (result, queued, rest) ∧
      source.Plays left rest failure := by
  induction polls generalizing preview read state frames with
  | zero =>
    simp only [previewLoop] at returned
    split at returned
    · exact absurd returned (by simp)
    next long =>
      cases returned
      refine ⟨frames, ?_, plays⟩
      cases frames <;> simp [splitFrames, long]
  | succ polls inductionHypothesis =>
    simp only [previewLoop] at returned
    split at returned
    next short =>
      rw [source.plays_iff] at plays
      rcases answered : source.poll state with ⟨answer, next⟩
      rw [answered] at plays returned
      cases answer with
      | pending => exact inductionHypothesis preview read next frames plays returned
      | item frame =>
        obtain ⟨rest, rfl, following⟩ := plays
        simp only [splitFrames, short, if_true]
        exact inductionHypothesis _ _ next rest following returned
      | failed err => exact absurd returned (by simp)
      | ended =>
        obtain ⟨rfl, rfl⟩ := plays
        cases returned
        exact ⟨[], by simp [splitFrames, short], keeps.plays answered⟩
    next long =>
      cases returned
      refine ⟨frames, ?_, plays⟩
      cases frames <;> simp [splitFrames, long]

/-- A body that plays its frames is read in finitely many polls.

The induction is over what the body plays: a frame either fills the preview or leaves a shorter
body to read. -/
theorem exists_previewLoop (limit : Nat) (preview : List UInt8) (read : List Frame)
    {state : source.State} {frames : List Frame} {failure : Option String}
    (plays : source.Plays state frames failure) :
    ∃ polls result, previewLoop source limit polls preview read state = some result := by
  by_cases short : preview.length < limit
  · induction plays generalizing preview read with
    | pending answered _ inductionHypothesis =>
      obtain ⟨polls, result, returned⟩ := inductionHypothesis preview read short
      exact ⟨polls + 1, result, by simpa [previewLoop, short, answered] using returned⟩
    | @item state next frame frames failure answered _ inductionHypothesis =>
      let longer :=
        match frame.dataRef with
        | some data => preview ++ data.take (min (limit - preview.length) data.length)
        | none => preview
      by_cases still : longer.length < limit
      · obtain ⟨polls, result, returned⟩ := inductionHypothesis longer (read ++ [frame]) still
        refine ⟨polls + 1, result, ?_⟩
        simp only [previewLoop, short, if_true, answered]
        exact returned
      · refine ⟨1, .ok (longer, (read ++ [frame], next)), ?_⟩
        simp only [previewLoop, short, if_true, answered]
        exact if_neg still
    | @failed state next err answered =>
      exact ⟨1, .error err, by simp only [previewLoop, short, if_true, answered]⟩
    | @ended state next answered =>
      exact ⟨1, .ok (preview, (read, next)), by simp only [previewLoop, short, if_true, answered]⟩
  · exact ⟨0, .ok (preview, (read, state)), if_neg short⟩

end

/-- The preview is the start of the body, as far as the limit allows.

The induction is over the frames; what has been read so far is within the limit, so each frame
adds as much as still fits. -/
theorem preview_of_splitFrames (limit : Nat) (failure : Option String) (preview : List UInt8)
    (read frames : List Frame) (result : List UInt8) (queued rest : List Frame)
    (within : preview.length ≤ limit)
    (split : splitFrames limit failure preview read frames = .ok (result, queued, rest)) :
    result = (preview ++ dataBytes frames).take limit := by
  induction frames generalizing preview read with
  | nil =>
    have same : result = preview := by
      simp only [splitFrames] at split
      split at split
      · cases failure with
        | some err => exact absurd split (by simp)
        | none => exact (Prod.mk.inj (Except.ok.inj split)).1.symm
      · exact (Prod.mk.inj (Except.ok.inj split)).1.symm
    rw [same, dataBytes, dataChunks, List.filterMap_nil, List.flatten_nil, List.append_nil,
      List.take_of_length_le within]
  | cons frame others inductionHypothesis =>
    simp only [splitFrames] at split
    split at split
    next short =>
      cases frame with
      | trailers headers => exact inductionHypothesis preview _ within split
      | data bytes =>
        have cut : preview ++ bytes.take (min (limit - preview.length) bytes.length) =
            (preview ++ bytes).take limit := by
          rw [← List.take_eq_take_min, List.take_append, List.take_of_length_le within]
        simp only [Frame.dataRef, cut] at split
        have later := inductionHypothesis _ _ (by rw [List.length_take]; omega) split
        have whole : dataBytes (.data bytes :: others) = bytes ++ dataBytes others := rfl
        rw [later, whole, ← List.append_assoc]
        generalize preview ++ bytes = seen
        rw [List.take_append, List.take_append, List.take_take, Nat.min_self, List.length_take]
        by_cases long : limit ≤ seen.length
        · rw [Nat.min_eq_left long, Nat.sub_self, Nat.sub_eq_zero_of_le long]
        · rw [Nat.min_eq_right (by omega)]
    next long =>
      have full : preview.length = limit := by omega
      rw [← (Prod.mk.inj (Except.ok.inj split)).1, List.take_append_of_le_length (by omega),
        ← full, List.take_length]

/-- A preview that was read is the start of the body, and the returned body plays the
body again. -/
theorem splitPolled_ok {source : Source Frame String} (keeps : source.KeepsEnd) (limit : Nat)
    (polls : Nat) {state : source.State} {frames : List Frame} {failure : Option String}
    (plays : source.Plays state frames failure) (preview : List UInt8)
    (returned : (PrefixBody source).State)
    (split : splitPolled source limit polls state = some (.ok (preview, returned))) :
    preview = (dataBytes frames).take (min limit usizeMax) ∧
      (PrefixBody source).Plays returned frames failure := by
  unfold splitPolled at split
  split at split
  next unlimited =>
    cases split
    rw [unlimited, Nat.zero_min, List.take_zero]
    exact ⟨rfl, plays_prefixBody plays []⟩
  · obtain ⟨queued, left⟩ := returned
    obtain ⟨rest, read, following⟩ :=
      splitFrames_of_previewLoop keeps _ _ _ _ _ _ _ plays _ _ _ split
    have order : queued ++ rest = frames := splitFrames_frames _ _ _ _ _ _ read
    refine ⟨?_, order ▸ plays_prefixBody following queued⟩
    simpa using preview_of_splitFrames _ _ _ _ _ _ _ _ (by simp) read

/-! ## What the plugins see -/

namespace Policy

variable {Component : Type}

/-- No plugin of a route asks for more than the largest preview, which is the maximum over the
chain of the route. -/
theorem bodyPreviewBytes_le_max (engine : PolicyEngine Component) (routeId : String)
    (plugin : LoadedPlugin Component) (listed : plugin ∈ engine.chain routeId) :
    plugin.config.bodyPreviewBytes ≤ engine.maxBodyPreviewBytes routeId := by
  have member : plugin.config.bodyPreviewBytes ∈
      (engine.chain routeId).map fun plugin => plugin.config.bodyPreviewBytes :=
    List.mem_map_of_mem listed
  change plugin.config.bodyPreviewBytes ≤
    ((engine.chain routeId).map fun plugin => plugin.config.bodyPreviewBytes).max?.getD 0
  cases largest : ((engine.chain routeId).map fun plugin =>
      plugin.config.bodyPreviewBytes).max? with
  | none =>
    rw [List.max?_eq_none_iff] at largest
    exact absurd member (by rw [largest]; exact List.not_mem_nil)
  | some limit => exact (List.max?_eq_some_iff.mp largest).2 _ member

/-- The preview that a plugin is given of a body: its own limit decides. -/
def ownPreview (config : PluginConfig) (body : List UInt8) : Option (List UInt8) :=
  if config.bodyPreviewBytes = 0 then none
  else some (body.take (min config.bodyPreviewBytes body.length))

/-- Every plugin of a route sees the start of the body up to its own limit, whatever the
others ask for, and the body is left as it was. Limits are `u64`. -/
theorem plugins_see_own_previews (engine : PolicyEngine Component) (routeId : String)
    (machine : ∀ plugin ∈ engine.chain routeId, plugin.config.bodyPreviewBytes < 2 ^ 64)
    (source : Source Frame String) (keeps : source.KeepsEnd) (state : source.State)
    (frames : List Frame) (failure : Option String)
    (plays : source.Plays state frames failure) :
    (∃ polls result,
      splitPolled source (engine.maxBodyPreviewBytes routeId) polls state = some result) ∧
    ∀ polls preview returned,
      splitPolled source (engine.maxBodyPreviewBytes routeId) polls state =
          some (.ok (preview, returned)) →
        (∀ request : PolicyRequest, request.routeId = routeId →
          request.bodyPreview =
              (if engine.maxBodyPreviewBytes routeId > 0 then some preview else none) →
            (∀ plugin ∈ engine.chain routeId,
              (request.inputFor plugin.config).bodyPreview =
                ownPreview plugin.config (dataBytes frames)) ∧
            ∀ http outcomes, ∀ call ∈ (engine.evaluate http outcomes request).invocations,
              call.input.bodyPreview = ownPreview call.plugin.config (dataBytes frames)) ∧
          (PrefixBody source).Plays returned frames failure := by
  constructor
  · unfold splitPolled
    split
    · exact ⟨0, _, rfl⟩
    · exact exists_previewLoop _ [] [] plays
  · intro polls preview returned split
    obtain ⟨start, again⟩ := splitPolled_ok keeps _ polls plays preview returned split
    refine ⟨?_, again⟩
    intro request same shown
    have own : ∀ plugin ∈ engine.chain routeId,
        (request.inputFor plugin.config).bodyPreview =
          ownPreview plugin.config (dataBytes frames) := by
      intro plugin listed
      have least := bodyPreviewBytes_le_max engine routeId plugin listed
      have bound := machine plugin listed
      simp only [PolicyRequest.inputFor, ownPreview, shown]
      by_cases unasked : plugin.config.bodyPreviewBytes = 0
      · simp [unasked]
      · have fits : min plugin.config.bodyPreviewBytes usizeMax =
            plugin.config.bodyPreviewBytes := by
          simp only [usizeMax]
          omega
        have within : min plugin.config.bodyPreviewBytes
            (min (engine.maxBodyPreviewBytes routeId) usizeMax) =
              plugin.config.bodyPreviewBytes := by omega
        rw [if_pos (by omega), Option.bind_some, if_neg unasked, if_neg unasked, fits, start,
          List.take_take, within, ← List.take_eq_take_min]
    refine ⟨own, ?_⟩
    intro http outcomes call made
    obtain ⟨listed, given⟩ := mem_invocations engine outcomes request call made
    rw [given]
    exact own call.plugin (same ▸ listed)

end Policy

/-! ## Bodies as sources -/

/-- A body polled frame by frame, without a wait. -/
def Body.source : Source Frame String where
  State := Body
  poll
    | ⟨frame :: rest, failure⟩ => (.item frame, ⟨rest, failure⟩)
    | ⟨[], some err⟩ => (.failed err, ⟨[], none⟩)
    | ⟨[], none⟩ => (.ended, ⟨[], none⟩)

/-- A body given by its frames answers the same after its end as at it. -/
theorem Body.keepsEnd_source : Body.source.KeepsEnd := by
  rintro ⟨frames, failure⟩ next answered
  cases frames with
  | cons frame rest => exact absurd (congrArg Prod.fst answered) (by simp [Body.source])
  | nil =>
    cases failure with
    | some err => exact absurd (congrArg Prod.fst answered) (by simp [Body.source])
    | none =>
      obtain rfl := (Prod.mk.inj answered).2
      rfl

/-- A body given by its frames plays them, and then its failure if it has one. -/
theorem Body.plays_source (frames : List Frame) (failure : Option String) :
    Body.source.Plays (⟨frames, failure⟩ : Body) frames failure := by
  induction frames with
  | nil =>
    cases failure with
    | some err => exact .failed rfl
    | none => exact .ended rfl
  | cons frame rest inductionHypothesis => exact .item rfl inductionHypothesis

namespace Policy

/-- Two plugins on a route, of which the first asks for three bytes. -/
def previewEngine : PolicyEngine Unit :=
  ⟨[⟨{ guardConfig with bodyPreviewBytes := 3 }, ()⟩, ⟨{ guardConfig with id := "strip" }, ()⟩],
    fun routeId => if routeId = "orders" then some [0, 1] else none⟩

/-- A body with an empty frame, a frame across the limit, trailers and a late error. -/
def previewBody : Body :=
  ⟨[.data [1, 2], .data [], .data [3, 4], .data [5], .trailers []], some "reset"⟩

/-- Two plugins with different limits see previews of one upload that is cut in the middle of a
frame and fails later, and the upstream is still given all of it. -/
theorem plugins_see_own_previews_pair :
    splitPolled Body.source (previewEngine.maxBodyPreviewBytes "orders") 3 previewBody =
        some (.ok ([1, 2, 3],
          ([.data [1, 2], .data [], .data [3, 4]], ⟨[.data [5], .trailers []], some "reset"⟩))) ∧
      (PrefixBody Body.source).Plays
        ([.data [1, 2], .data [], .data [3, 4]], ⟨[.data [5], .trailers []], some "reset"⟩)
        previewBody.frames previewBody.failure := by
  have read : splitPolled Body.source (previewEngine.maxBodyPreviewBytes "orders") 3 previewBody =
      some (.ok ([1, 2, 3],
        ([.data [1, 2], .data [], .data [3, 4]],
          ⟨[.data [5], .trailers []], some "reset"⟩))) := rfl
  have limits : ∀ plugin ∈ previewEngine.chain "orders",
      plugin.config.bodyPreviewBytes < 2 ^ 64 := by
    intro plugin listed
    have chained : previewEngine.chain "orders" = previewEngine.plugins := rfl
    rw [chained] at listed
    simp only [previewEngine, List.mem_cons, List.not_mem_nil, or_false] at listed
    rcases listed with rfl | rfl <;> decide
  exact ⟨read, ((plugins_see_own_previews previewEngine "orders" limits Body.source
    Body.keepsEnd_source previewBody previewBody.frames previewBody.failure
    (Body.plays_source _ _)).2 _ _ _ read).2⟩

end Policy

end TraceGate
