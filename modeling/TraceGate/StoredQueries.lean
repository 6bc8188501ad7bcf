import TraceGate.Redaction
import TraceGate.RouteCalls

/-!
# What the stored row tells of a secret query value

A row of `requests` has the redacted query and a digest of the query as it was received. The
redacted query leaves sensitive values out; the digest is taken of the whole text, so another
value gives another digest. The row is therefore independent of the secret values of a
request exactly when its query has no part with a sensitive key.

Two runs are compared under the same surroundings. Readings of the clock that only become
latencies and timestamps may differ, and the row is compared without them.
-/

namespace TraceGate

variable {Component : Type}

/-- Two requests that differ only in the values of query parts with a sensitive key. The
texts of their URIs differ only where the queries do. -/
structure SameButQueryValues (redaction : RedactionConfig) (left right : InboundRequest) :
    Prop where
  method : left.method = right.method
  version : left.version = right.version
  headers : left.headers = right.headers
  body : left.body = right.body
  path : left.uri.path = right.uri.path
  query : Option.Rel (fun leftQuery rightQuery => List.Forall₂ (SamePart redaction)
    (Text.split '&' leftQuery) (Text.split '&' rightQuery)) left.uri.query right.uri.query
  uri : left.uri.query = right.uri.query → left.uri = right.uri

/-- A row without its latency and its timestamp. -/
def RequestInsert.untimed (record : RequestInsert) : RequestInsert :=
  { record with latencyMs := 0, createdAtMs := 0 }

/-- Setting the times aside leaves the digest of the query. -/
@[simp]
theorem RequestInsert.untimed_queryHash (record : RequestInsert) :
    record.untimed.queryHash = record.queryHash := rfl

/-- The same surroundings, but for readings of the clock that only tell how long something
took and when it was recorded. -/
structure SameAround (left right : Surroundings Component) : Prop where
  around : right = { left with clock := right.clock }
  slow : right.clock.slowElapsed = left.clock.slowElapsed

/-- The row that is written when the request's response has ended. -/
def StoresRow (externals : Externals) (state : GatewayState Component) (request : InboundRequest)
    (remoteAddr : SocketAddr) (around : Surroundings Component) (record : RequestInsert) : Prop :=
  ∃ handled polls requestCapture,
    handle externals state request remoteAddr around = .ok handled ∧
      ∃ write ∈ (attachStorageFinalizer state.redaction handled.response.headers
        handled.finalizer).writes externals.sha256 polls requestCapture, write.record = record

/-- The request's row is the one of every request that differs from it only in secret query
values. -/
def RowHidesValues (externals : Externals) (state : GatewayState Component)
    (request : InboundRequest) (remoteAddr : SocketAddr) (around : Surroundings Component) :
    Prop :=
  ∀ other otherAround record otherRecord, SameButQueryValues state.redaction request other →
    SameAround around otherAround → StoresRow externals state request remoteAddr around record →
    StoresRow externals state other remoteAddr otherAround otherRecord →
    otherRecord.untimed = record.untimed

/-- No part of the query has a sensitive key. -/
def NoSecretParts (redaction : RedactionConfig) (uri : Uri) : Prop :=
  ∀ query ∈ uri.query, ∀ part ∈ Text.split '&' query,
    redaction.isSensitiveQueryParam (partKey part) = false

/-! ## The row of a request -/

section Rows

variable {externals : Externals} {state : GatewayState Component} {request : InboundRequest}
  {remoteAddr : SocketAddr} {around : Surroundings Component}

/-- A row can be stored for a request exactly when it is the record of a handled request.

Whatever the client polls, one write is handed over, and it holds that record. -/
theorem storesRow_iff (record : RequestInsert) :
    StoresRow externals state request remoteAddr around record ↔
      ∃ handled, handle externals state request remoteAddr around = .ok handled ∧
        handled.finalizer.record = record := by
  constructor
  · rintro ⟨handled, polls, requestCapture, returned, write, member, same⟩
    obtain ⟨only, written, own, _⟩ := exists_write_attach externals.sha256 state.redaction
      handled.response.headers handled.finalizer polls requestCapture
    rw [written] at member
    obtain rfl := List.mem_singleton.mp member
    exact ⟨handled, returned, own.symm.trans same⟩
  · rintro ⟨handled, returned, same⟩
    obtain ⟨write, written, own, _⟩ := exists_write_attach externals.sha256 state.redaction
      handled.response.headers handled.finalizer [] .disabled
    exact ⟨handled, [], .disabled, returned, write, by simp [written], own.trans same⟩

/-- Other readings of the clock change the latency and the timestamp of the row only.

The ways through `handle` are gone through one by one. None of them depends on the clock except
by the slowness, which is the same. -/
theorem untimed_handle (clock : Clock) (slow : clock.slowElapsed = around.clock.slowElapsed) :
    (handle externals state request remoteAddr { around with clock := clock }).map
        (fun handled => handled.finalizer.record.untimed) =
      (handle externals state request remoteAddr around).map
        (fun handled => handled.finalizer.record.untimed) := by
  have evaluations : ∀ route bodyPreview,
      evaluationFor externals state request remoteAddr { around with clock := clock } route
          bodyPreview =
        evaluationFor externals state request remoteAddr around route bodyPreview :=
    fun _ _ => rfl
  simp only [handle, prepare, evaluations, slow]
  cases routeFor state request with
  | none => rfl
  | some route =>
    cases runtime : state.runtimeFor route with
    | none => simp only [runtime]
    | some found =>
      simp only [runtime]
      cases around.admitted with
      | false => rfl
      | true =>
        cases previewFor state route request.body with
        | error err => rfl
        | ok previewed =>
          simp only [Bool.not_true, Bool.false_eq_true, if_false]
          cases (evaluationFor externals state request remoteAddr around route
              previewed.1).denied with
          | some deny => rfl
          | none =>
            cases around.selected with
            | none => rfl
            | some selected => simp only [Forward.finish, slow]; rfl

/-- The same request with other readings of the clock gives the same row but for its
latency and timestamp. -/
theorem untimed_of_sameAround {otherAround : Surroundings Component}
    (same : SameAround around otherAround) (record otherRecord : RequestInsert)
    (stores : StoresRow externals state request remoteAddr around record)
    (otherStores : StoresRow externals state request remoteAddr otherAround otherRecord) :
    otherRecord.untimed = record.untimed := by
  obtain ⟨handled, returned, rfl⟩ := (storesRow_iff record).mp stores
  obtain ⟨otherHandled, otherReturned, rfl⟩ := (storesRow_iff otherRecord).mp otherStores
  have untimed := @untimed_handle _ externals state request remoteAddr around otherAround.clock
    same.slow
  rw [← same.around, returned, otherReturned] at untimed
  exact Except.ok.inj untimed

/-- The row has the digest of the query as it was received. -/
theorem StoresRow.queryHash {record : RequestInsert}
    (stores : StoresRow externals state request remoteAddr around record) :
    record.queryHash = request.uri.query.map (sha256Hex externals) := by
  obtain ⟨handled, returned, rfl⟩ := (storesRow_iff record).mp stores
  exact (facts_of_handle externals state request remoteAddr around handled returned).2.2.2

end Rows

/-! ## Other values under the same keys -/

/-- The key of a part is read up to its first equals sign, character by character. -/
theorem toList_partKey (part : String) :
    (partKey part).toList = part.toList.takeWhile (· != '=') := by
  rw [partKey_eq_rawKey, rawKey, String.toList_ofList]

/-- No key holds an equals sign. -/
theorem not_mem_partKey (part : String) : '=' ∉ (partKey part).toList := by
  rw [toList_partKey]
  intro held
  have unequal := List.all_eq_true.mp List.all_takeWhile '=' held
  simp at unequal

/-- A key has characters of its part only. -/
theorem partKey_subset (part : String) : (partKey part).toList ⊆ part.toList := by
  rw [toList_partKey]
  exact List.takeWhile_subset _

/-- The key of a part is read up to its first equals sign. -/
theorem partKey_append (key value : String) (plain : '=' ∉ key.toList) :
    partKey (key ++ "=" ++ value) = key := by
  have read := Text.takeWhile_append_separator '=' key.toList value.toList plain
  rw [← String.toList_inj, toList_partKey]
  simpa using read

/-- Another value under the part's key. -/
def revalued (part : String) : String := partKey part ++ "=" ++ (part ++ "x")

/-- A part with another value has its key. -/
theorem partKey_revalued (part : String) : partKey (revalued part) = partKey part :=
  partKey_append _ _ (not_mem_partKey part)

/-- A part with another value is another part, since it is longer. -/
theorem revalued_ne (part : String) : revalued part ≠ part := by
  intro same
  have lengths := congrArg String.length same
  simp only [revalued, String.length_append] at lengths
  have one : "x".length = 1 := rfl
  omega

/-- A query with other values under its sensitive keys. -/
def revaluedParts (redaction : RedactionConfig) (query : String) : List String :=
  (Text.split '&' query).map fun part =>
    if redaction.isSensitiveQueryParam (partKey part) then revalued part else part

def revaluedQuery (redaction : RedactionConfig) (query : String) : String :=
  Text.join '&' (revaluedParts redaction query)

/-- The parts of the changed query are the changed parts.

No changed part holds the separator, since the original holds none. -/
theorem split_revaluedQuery (redaction : RedactionConfig) (query : String) :
    Text.split '&' (revaluedQuery redaction query) = revaluedParts redaction query := by
  apply Text.split_join_of_not_mem
  · intro part member
    obtain ⟨original, listed, rfl⟩ := List.mem_map.mp member
    have clean := Text.not_mem_of_mem_split '&' query original listed
    have cleanKey : '&' ∉ (partKey original).toList := fun held =>
      clean (partKey_subset original held)
    split
    · simp [revalued, clean, cleanKey]
    · exact clean
  · simpa [revaluedParts] using Text.split_ne_nil '&' query

/-- The changed parts differ from the original ones in sensitive values only. -/
theorem samePart_revaluedParts (redaction : RedactionConfig) (query : String) :
    List.Forall₂ (SamePart redaction) (Text.split '&' query) (revaluedParts redaction query) := by
  rw [revaluedParts, List.forall₂_map_right_iff, List.forall₂_same]
  intro part _
  split
  next sensitive => exact .inr ⟨(partKey_revalued part).symm, sensitive⟩
  · exact .inl rfl

/-- A query with a sensitive part is another one with other values. -/
theorem revaluedQuery_ne (redaction : RedactionConfig) (query part : String)
    (listed : part ∈ Text.split '&' query)
    (sensitive : redaction.isSensitiveQueryParam (partKey part) = true) :
    revaluedQuery redaction query ≠ query := by
  intro same
  have parts := split_revaluedQuery redaction query
  rw [same, revaluedParts] at parts
  have kept := List.map_inj_left.mp ((List.map_id _).trans parts) part listed
  rw [if_pos sensitive] at kept
  exact revalued_ne part kept.symm

/-- The request with other values under its sensitive keys. -/
def InboundRequest.withQuery (request : InboundRequest) (query : String) : InboundRequest :=
  { request with
    uri := ⟨request.uri.path, some query, some (request.uri.path ++ "?" ++ query)⟩ }

/-- A request with the changed query differs from the original in sensitive values only.

Nothing but the query is changed, and of the query nothing but sensitive values. -/
theorem sameButQueryValues_revalued (redaction : RedactionConfig) (request : InboundRequest)
    (query : String) (received : request.uri.query = some query)
    (changed : revaluedQuery redaction query ≠ query) :
    SameButQueryValues redaction request (request.withQuery (revaluedQuery redaction query)) where
  method := rfl
  version := rfl
  headers := rfl
  body := rfl
  path := rfl
  query := by
    rw [received]
    apply Option.Rel.some
    rw [split_revaluedQuery]
    exact samePart_revaluedParts redaction query
  uri same := by
    rw [received] at same
    exact absurd (Option.some.inj same).symm changed

/-- Parts that differ in sensitive values only, and have none, are the same. -/
theorem parts_eq_of_plain {redaction : RedactionConfig} {left right : List String}
    (parts : List.Forall₂ (SamePart redaction) left right)
    (plain : ∀ part ∈ left, redaction.isSensitiveQueryParam (partKey part) = false) :
    left = right := by
  induction parts with
  | nil => rfl
  | cons first _ inductionHypothesis =>
    obtain ⟨plainFirst, plainRest⟩ := List.forall_mem_cons.mp plain
    rw [inductionHypothesis plainRest]
    rcases first with rfl | ⟨_, sensitive⟩
    · rfl
    · rw [plainFirst] at sensitive
      cases sensitive

/-- Queries that differ in sensitive values only, and have none, are the same. -/
theorem query_eq_of_plain {redaction : RedactionConfig} {left right : Option String}
    (queries : Option.Rel (fun leftQuery rightQuery => List.Forall₂ (SamePart redaction)
      (Text.split '&' leftQuery) (Text.split '&' rightQuery)) left right)
    (plain : ∀ query ∈ left, ∀ part ∈ Text.split '&' query,
      redaction.isSensitiveQueryParam (partKey part) = false) : left = right := by
  cases queries with
  | none => rfl
  | @some leftQuery rightQuery parts =>
    have same := parts_eq_of_plain parts (plain leftQuery rfl)
    rw [← Text.join_split '&' leftQuery, same, Text.join_split]

/-- Without sensitive parts there is nothing in which two such requests could differ. -/
theorem eq_of_noSecretParts {redaction : RedactionConfig} {left right : InboundRequest}
    (same : SameButQueryValues redaction left right) (plain : NoSecretParts redaction left.uri) :
    left = right := by
  have uris := same.uri (query_eq_of_plain same.query plain)
  obtain ⟨method, version, headers, body, _, _, _⟩ := same
  cases left
  cases right
  simp only at method version headers body uris
  subst method version headers body uris
  rfl

/-- The digest of a text tells texts apart if the digest of bytes tells bytes apart. -/
theorem sha256Hex_injective {externals : Externals}
    (injective : Function.Injective externals.sha256) :
    Function.Injective (sha256Hex externals) := by
  intro left right same
  have bytes := injective same
  exact String.toByteArray_inj.mp (ByteArray.ext (Array.toList_inj.mp bytes))

/-! ## When the row hides secret values -/

/-- When no two texts have one digest, the row of a request is the same for all secret
values in its query exactly when its query has no part with a sensitive key. -/
theorem rowHidesValues_iff (wasm : Policy.Wasmtime Component) (config : AppConfig)
    (externals : Externals) (injective : Function.Injective externals.sha256)
    (state : GatewayState Component) (built : GatewayState.new wasm config = .ok state)
    (request : InboundRequest) (remoteAddr : SocketAddr) (around : Surroundings Component) :
    RowHidesValues externals state request remoteAddr around ↔
      NoSecretParts state.redaction request.uri := by
  constructor
  · intro hides query received part listed
    by_contra sensitive
    rw [Bool.not_eq_false] at sensitive
    have changed := revaluedQuery_ne state.redaction query part listed sensitive
    have same := sameButQueryValues_revalued state.redaction request query received changed
    obtain ⟨handled, returned⟩ :=
      exists_handled wasm config externals state request remoteAddr around built
    obtain ⟨otherHandled, otherReturned⟩ :=
      exists_handled wasm config externals state _ remoteAddr around built
    have stores := (storesRow_iff _).mpr ⟨handled, returned, rfl⟩
    have otherStores := (storesRow_iff _).mpr ⟨otherHandled, otherReturned, rfl⟩
    have rows := hides _ around _ _ same ⟨rfl, rfl⟩ stores otherStores
    have digests := congrArg RequestInsert.queryHash rows
    rw [RequestInsert.untimed_queryHash, RequestInsert.untimed_queryHash, stores.queryHash,
      otherStores.queryHash, received] at digests
    exact changed (sha256Hex_injective injective (Option.some.inj digests))
  · intro plain other otherAround record otherRecord same sameAround stores otherStores
    obtain rfl := eq_of_noSecretParts same plain
    exact untimed_of_sameAround sameAround record otherRecord stores otherStores

/-- A digest that is the text itself, one letter a byte. -/
def spelledExternals : Externals :=
  { Exchange.plainExternals with
    sha256 := fun bytes => String.ofList (bytes.map Char.ofUInt8) }

/-- The sample digest spells the bytes out, so it tells them apart. -/
theorem spelledExternals_injective : Function.Injective spelledExternals.sha256 := by
  have letters : Function.Injective Char.ofUInt8 := by
    intro left right same
    have codes : left.toUInt32 = right.toUInt32 := congrArg Char.val same
    exact UInt8.toUInt32_inj.mp codes
  intro left right same
  exact List.map_injective_iff.mpr letters (String.ofList_injective same)

def tokenRequest (query : String) : InboundRequest :=
  { method := "GET", uri := ⟨"/orders/7", some query, some ("/orders/7?" ++ query)⟩
    version := .http11, headers := [("accept", .ofAscii "*/*")], body := .empty }

/-- A request without a sensitive parameter has nothing to hide. -/
theorem rowHidesValues_of_page :
    RowHidesValues spelledExternals tableState (tokenRequest "page=1") Exchange.localAddr
      Exchange.uploadAround := by
  refine (rowHidesValues_iff Policy.permissiveWasm tableConfig spelledExternals
    spelledExternals_injective tableState rfl _ _ _).mpr ?_
  intro query received
  obtain rfl := Option.some.inj received
  decide

/-- Two requests that differ only in their tokens are stored with different digests.

The redacted queries are both empty, so the rows differ in nothing but the digest. -/
theorem token_changes_row : ∃ record otherRecord,
    SameButQueryValues tableState.redaction (tokenRequest "token=a") (tokenRequest "token=b") ∧
      StoresRow spelledExternals tableState (tokenRequest "token=a") Exchange.localAddr
        Exchange.uploadAround record ∧
      StoresRow spelledExternals tableState (tokenRequest "token=b") Exchange.localAddr
        Exchange.uploadAround otherRecord ∧
      otherRecord.untimed ≠ record.untimed ∧
      record.redactedQuery = none ∧ otherRecord.redactedQuery = none ∧
      record.queryHash = some "token=a" ∧ otherRecord.queryHash = some "token=b" := by
  have same : SameButQueryValues tableState.redaction (tokenRequest "token=a")
      (tokenRequest "token=b") :=
    ⟨rfl, rfl, rfl, rfl, rfl, .some (.cons (.inr ⟨by decide, by decide⟩) .nil),
      fun queries => absurd queries (by decide)⟩
  have stores := (storesRow_iff _).mpr ⟨_, (rfl : handle spelledExternals tableState
    (tokenRequest "token=a") Exchange.localAddr Exchange.uploadAround = .ok _), rfl⟩
  have otherStores := (storesRow_iff _).mpr ⟨_, (rfl : handle spelledExternals tableState
    (tokenRequest "token=b") Exchange.localAddr Exchange.uploadAround = .ok _), rfl⟩
  have hash := stores.queryHash
  have otherHash := otherStores.queryHash
  refine ⟨_, _, same, stores, otherStores, fun rows => ?_, by decide +kernel,
    by decide +kernel, hash.trans (by decide +kernel), otherHash.trans (by decide +kernel)⟩
  have digests := congrArg RequestInsert.queryHash rows
  rw [RequestInsert.untimed_queryHash, RequestInsert.untimed_queryHash, hash, otherHash] at digests
  exact absurd digests (by decide +kernel)

end TraceGate
