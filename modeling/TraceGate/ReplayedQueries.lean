import TraceGate.ReplayUrls

/-!
# Which query a replayed record stores

The record of a request has its redacted query, and redacting that query again leaves it as it
is. So the replay of a record through the gateway would be recorded with the same query, if it
arrived with that query. The HTTP client parses the text of the URL first, however, and
percent-encodes some characters of a query, the apostrophe among them, which the query of a URI
may have. The second record has the query of the first exactly if no part that redaction keeps
has such a character.

Of the client and the gateway's server it is assumed that the request arrives with the path and
the query of the URL as it was parsed, and of the parser that it leaves an ampersand as it is.
-/

namespace TraceGate.Replay

variable {Component : Type}

/-- The request that arrives for one that was dispatched. -/
structure Arrives (parsers : Parsers) (sent : DispatchedRequest) (request : InboundRequest) :
    Prop where
  method : request.method = sent.method
  target : ∃ parsed, parsers.url sent.url = .ok parsed ∧ request.uri.path = parsed.path ∧
    request.uri.query = parsed.query

/-- A record is replayed through the gateway: a request is recorded, a replay of its record is
dispatched, and the gateway records what arrives. -/
structure ReplayedThrough (externals : Externals) (sql : SqlExternals) (parsers : Parsers)
    (state later : GatewayState Component) (request again : InboundRequest)
    (first second : RequestDetails) : Prop where
  recorded : Recorded externals state sql request first
  sent : ∃ options store events replaying replay traceparent,
    Runs.run (step sql parsers options) (start store) events = some replaying ∧
      replaying.phase = .dispatched first replay ∧
      Arrives parsers (dispatchedRequest first.request.requestId traceparent replay) again
  recordedAgain : Recorded externals later sql again second

/-- No part of the query that is not sensitive has a character that the parser encodes. -/
def RestPlain (reader : Whatwg.Reader) (redaction : RedactionConfig) (query : Option String) :
    Prop :=
  ∀ text ∈ query, ∀ part ∈ Text.split '&' text,
    redaction.isSensitiveQueryParam (rawKey part) = false →
      ∀ char ∈ part.toList, reader.query.encodes char = false

instance (reader : Whatwg.Reader) (redaction : RedactionConfig) (query : Option String) :
    Decidable (RestPlain reader redaction query) :=
  decidable_of_iff (query.all (fun text => (Text.split '&' text).all fun part =>
      redaction.isSensitiveQueryParam (rawKey part) ||
        part.toList.all fun char => !reader.query.encodes char) = true)
    (by simp [RestPlain, Option.all_eq_true, or_iff_not_imp_left])

/-- A URI's path has neither a question mark nor a number sign. -/
theorem endsPath_of_wellFormed {uri : Uri} (wellFormed : uri.WellFormed) :
    ∀ char ∈ uri.path.toList, Whatwg.endsPath char = false := by
  intro char member
  cases form : uri.pathAndQuery with
  | none => exact absurd member (by simp [(wellFormed.absent form).1])
  | some text =>
    obtain ⟨_, _, read⟩ := wellFormed.present text form
    have inside : char ∈ (readTarget text.toList).1.toList := by
      rw [read]
      exact member
    simpa [Whatwg.endsPath] using ne_of_mem_readTarget inside

section

variable (reader : Whatwg.Reader) (redaction : RedactionConfig)

/-- A query that is read as it is has plain parts only. -/
theorem restPlain_of_queryKept (query : Option String)
    (kept : reader.QueryKept (query.map String.toList)) : RestPlain reader redaction query := by
  rintro text received part listed _ char member
  exact kept text.toList (by simp [Option.mem_def.mp received]) char
    (Text.subset_of_mem_split listed member)

/-- The rest of a query is plain exactly when all its kept parts are. -/
theorem restPlain_some_iff (text : String) :
    RestPlain reader redaction (some text) ↔ ∀ part ∈ keptParts text redaction,
      ∀ char ∈ part.toList, reader.query.encodes char = false := by
  simp only [RestPlain, Option.mem_some, forall_eq', mem_keptParts, and_imp]

/-- What redaction leaves is read as it is exactly if the parts that it keeps are plain.

The redacted query is the kept parts with separators between them, and the separator itself is
never encoded. -/
theorem queryKept_redactedQuery_iff (separates : reader.query.encodes '&' = false)
    (query : Option String) :
    reader.QueryKept ((redactedQuery query redaction).map String.toList) ↔
      RestPlain reader redaction query := by
  cases query with
  | none => simp [redactedQuery, Whatwg.Reader.QueryKept, RestPlain]
  | some text =>
    rw [restPlain_some_iff]
    cases redacted : redactedQuery (some text) redaction with
    | none =>
      rw [redactedQuery_eq_none_iff] at redacted
      simp [redacted, Whatwg.Reader.QueryKept]
    | some output =>
      have whole := ((redactedQuery_eq_some_iff redaction text output).mp redacted).2
      constructor
      · intro kept part listed char member
        refine kept output.toList rfl char ?_
        rw [← whole]
        exact Text.subset_join '&' listed member
      · intro plain letters given char member
        rw [← Option.some.inj given, ← whole] at member
        rcases Text.eq_or_mem_of_mem_join member with rfl | ⟨part, listed, inPart⟩
        · exact separates
        · exact plain part listed char inPart

end

/-- What arrives has a query in the parser's normal form. It is the stored query if that is in
normal form. -/
theorem query_of_arrives (parsers : Parsers) (reader : Whatwg.Reader)
    (reads : parsers.ReadsUrls reader) (options : ReplayOptions) (fresh : FreshIds)
    (details : RequestDetails) (replay : ReplayRequest)
    (prepared : prepareReplay parsers options fresh details = .ok replay)
    (requestId traceparent : String) (again : InboundRequest)
    (arrives : Arrives parsers (dispatchedRequest requestId traceparent replay) again)
    (clear : ∀ char ∈ details.request.path.toList, Whatwg.endsPath char = false) :
    reader.QueryKept (again.uri.query.map String.toList) ∧
      (reader.QueryKept (details.request.redactedQuery.map String.toList) →
        again.uri.query = details.request.redactedQuery) := by
  obtain ⟨scheme, authority, host, _, outside, _, sent⟩ := url_dispatchedRequest parsers reader
    reads options fresh details replay prepared requestId traceparent
  obtain ⟨parsed, parsedSent, _, query⟩ := arrives.target
  rw [sent] at parsedSent
  cases read : reader.read scheme (authority ++ Whatwg.joined details.request.path.toList
      (details.request.redactedQuery.map String.toList)) with
  | error reason => exact absurd parsedSent (by simp [read, Except.map])
  | ok parts =>
    simp only [read, Except.map, Except.ok.injEq] at parsedSent
    have arrived : again.uri.query.map String.toList = parts.query := by
      rw [query, ← parsedSent]
      simp [urlOf, Function.comp_def]
    constructor
    · rw [arrived]
      exact (Whatwg.targetKept_of_read reader scheme _ parts read).query
    · intro kept
      have before : ∀ char ∈ authority ++ details.request.path.toList,
          Whatwg.endsPath char = false := by
        intro char member
        rcases List.mem_append.mp member with inAuthority | inPath
        · have ends := (outside char inAuthority).2
          simp only [Whatwg.endsAuthority, Bool.or_eq_false_iff] at ends
          exact ends.2
        · exact clear char inPath
      rw [Whatwg.joined, ← List.append_assoc] at read
      rw [Whatwg.query_of_read_kept reader scheme _ parts before kept read] at arrived
      exact Option.map_injective (fun _ _ => String.toList_inj.mp) arrived

/-- Redaction keeps exactly the rest of a query, whatever the query and the lists. A record that
is replayed through the gateway is stored with the same query if and only if the client's
parser leaves every part that is kept as it is. -/
theorem rest_kept_and_replayed_iff (parsers : Parsers) (reader : Whatwg.Reader)
    (reads : parsers.ReadsUrls reader) (separates : reader.query.encodes '&' = false)
    (redaction : RedactionConfig) (query : Option String) :
    KeepsRest redaction query (redactedQuery query redaction) ∧
      ∀ (externals : Externals) (sql : SqlExternals) (state later : GatewayState Component)
        (request again : InboundRequest) (first second : RequestDetails),
        state.redaction = redaction → later.redaction = redaction →
        request.uri.WellFormed → request.uri.query = query →
        ReplayedThrough externals sql parsers state later request again first second →
        (second.request.redactedQuery = first.request.redactedQuery ↔
          RestPlain reader redaction query) := by
  refine ⟨keepsRest_redactedQuery redaction query, ?_⟩
  rintro externals sql state later request again first second redacts redactsLater wellFormed
    received replayed
  obtain ⟨path, stored, _⟩ := replayed.recorded.target
  obtain ⟨_, storedAgain, _⟩ := replayed.recordedAgain.target
  obtain ⟨options, store, events, replaying, replay, traceparent, completed, dispatched,
    arrives⟩ := replayed.sent
  obtain ⟨fresh, prepared⟩ := prepared_run sql parsers options store events replaying completed
    first replay dispatched
  obtain ⟨normal, same⟩ := query_of_arrives parsers reader reads options fresh first replay
    prepared first.request.requestId traceparent again arrives
    (path ▸ endsPath_of_wellFormed wellFormed)
  rw [redacts, received] at stored
  rw [redactsLater] at storedAgain
  have plain := queryKept_redactedQuery_iff reader redaction separates
  constructor
  · intro unchanged
    have kept := (plain again.uri.query).mpr
      (restPlain_of_queryKept reader redaction again.uri.query normal)
    rw [← storedAgain, unchanged, stored] at kept
    exact (plain query).mp kept
  · intro rest
    have kept := (plain query).mpr rest
    rw [← stored] at kept
    rw [storedAgain, same kept, stored, redactedQuery_idem]

/-! Requests to the route for every path, with a query. -/

def itemsRequest (query : String) : InboundRequest :=
  { method := "GET", uri := ⟨"/items", some query, some ("/items?" ++ query)⟩, version := .http11
    headers := [], body := .empty }

def itemsRecord (query : String) : RequestInsert :=
  { sampleRecord with
    routeId := some "site", path := "/items", redactedQuery := some query
    queryHash := some "digest", latencyMs := 0, upstream := some "http://10.0.0.7:3000"
    createdAtMs := 0 }

/-- The store once such a request is recorded. -/
def itemsStore (query : String) : Store :=
  Store.empty.apply plainSql
    (.insertRequest (itemsRecord query) [] [⟨"x-request-id", "r"⟩] none [])

def itemsDetails (query : String) : RequestDetails :=
  { request := itemsRecord query, requestHeaders := []
    responseHeaders := [⟨"x-request-id", "r"⟩], capture := none, pluginDecisions := []
    replayRuns := [] }

/-- The stored request for items is replayed to the other origin with its stored query. -/
theorem dispatched_items (query : String) : ∃ replaying replay,
    Runs.run (step plainSql standardParsers replayOptions) (start (itemsStore query))
        replaySteps = some replaying ∧
      replaying.phase = .dispatched (itemsDetails query) replay ∧
      replay.method = "GET" ∧ replay.target ++ replay.path = "http://staging/items?" ++ query :=
  ⟨_, _, rfl, rfl, rfl, rfl⟩

/-- The record of such a request is replayed, and what arrives is recorded. -/
theorem replayedThrough_items (query stored arrived : String)
    (recorded : Recorded Exchange.plainExternals tableState plainSql (itemsRequest query)
      (itemsDetails stored))
    (read : standardUrl ("http://staging/items?" ++ stored) =
      .ok ⟨"http", some "staging", "/items", some arrived, none, "http://staging"⟩)
    (recordedAgain : Recorded Exchange.plainExternals tableState plainSql (itemsRequest arrived)
      (itemsDetails arrived)) :
    ReplayedThrough Exchange.plainExternals plainSql standardParsers tableState tableState
      (itemsRequest query) (itemsRequest arrived) (itemsDetails stored) (itemsDetails arrived) := by
  obtain ⟨replaying, replay, completed, dispatched, method, url⟩ := dispatched_items stored
  have sent : standardParsers.url (dispatchedRequest "r" "00" replay).url =
      .ok ⟨"http", some "staging", "/items", some arrived, none, "http://staging"⟩ := by
    rw [dispatchedRequest, url]
    exact read
  exact ⟨recorded, ⟨replayOptions, itemsStore stored, replaySteps, replaying, replay, "00",
    completed, dispatched, method.symm, _, sent, rfl, rfl⟩, recordedAgain⟩

def itemsAround : Surroundings Unit :=
  { Exchange.uploadAround with selected := some (0, tableUpstream) }

/-- A sensitive part is left out. The rest, with an escaped apostrophe and an empty part, is
stored again. -/
theorem rest_kept_and_replayed_escaped : ∃ first second,
    ReplayedThrough Exchange.plainExternals plainSql standardParsers tableState tableState
        (itemsRequest "name=o%27neil&token=s&") (itemsRequest "name=o%27neil&") first second ∧
      first.request.redactedQuery = some "name=o%27neil&" ∧
      second.request.redactedQuery = first.request.redactedQuery := by
  have wellFormed : (itemsRequest "name=o%27neil&token=s&").uri.WellFormed :=
    ⟨by simp [itemsRequest], by simp only [itemsRequest, Option.mem_some, forall_eq']; decide⟩
  have replayed := replayedThrough_items "name=o%27neil&token=s&" "name=o%27neil&"
    "name=o%27neil&"
    ⟨Exchange.localAddr, itemsAround, _, ⟨[], []⟩, attachStorageFinalizer _ _ _, .disabled, _,
      Store.empty, _, rfl, rfl, rfl, rfl, rfl⟩
    (by decide +kernel)
    ⟨Exchange.localAddr, itemsAround, _, ⟨[], []⟩, attachStorageFinalizer _ _ _, .disabled, _,
      Store.empty, _, rfl, rfl, rfl, rfl, rfl⟩
  obtain ⟨_, stores⟩ := @rest_kept_and_replayed_iff Unit standardParsers standardReader
    standardParsers_readsUrls (by decide) tableState.redaction (some "name=o%27neil&token=s&")
  exact ⟨_, _, replayed, rfl, (stores _ _ _ _ _ _ _ _ rfl rfl wellFormed rfl replayed).mpr
    (by decide)⟩

/-- An apostrophe is stored as it came. In the replay it arrives encoded, and is stored so. -/
theorem apostrophe_replayed_encoded : ∃ first second,
    (itemsRequest "name=o\x27neil&token=s").uri.WellFormed ∧
      ReplayedThrough Exchange.plainExternals plainSql standardParsers tableState tableState
        (itemsRequest "name=o\x27neil&token=s") (itemsRequest "name=o%27neil") first second ∧
      first.request.redactedQuery = some "name=o\x27neil" ∧
      second.request.redactedQuery = some "name=o%27neil" ∧
      second.request.redactedQuery ≠ first.request.redactedQuery := by
  have wellFormed : (itemsRequest "name=o\x27neil&token=s").uri.WellFormed :=
    ⟨by simp [itemsRequest], by simp only [itemsRequest, Option.mem_some, forall_eq']; decide⟩
  have replayed := replayedThrough_items "name=o\x27neil&token=s" "name=o\x27neil" "name=o%27neil"
    ⟨Exchange.localAddr, itemsAround, _, ⟨[], []⟩, attachStorageFinalizer _ _ _, .disabled, _,
      Store.empty, _, rfl, rfl, rfl, rfl, rfl⟩
    (by decide +kernel)
    ⟨Exchange.localAddr, itemsAround, _, ⟨[], []⟩, attachStorageFinalizer _ _ _, .disabled, _,
      Store.empty, _, rfl, rfl, rfl, rfl, rfl⟩
  exact ⟨_, _, wellFormed, replayed, rfl, rfl, by decide⟩

end TraceGate.Replay
