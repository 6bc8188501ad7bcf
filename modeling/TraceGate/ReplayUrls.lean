import TraceGate.ForwardedTargets
import TraceGate.Redaction
import TraceGate.ReplayGuards
import TraceGate.Whatwg

/-!
# Which URL a replay requests

A replay puts the stored path and query behind the target's origin and hands the text to the
HTTP client, which parses it. The parser follows the WHATWG algorithm: it resolves dot segments,
takes backslashes for slashes and percent-encodes some characters. The gateway forwards and
records the client's text as it came, and the audit row has the recorded text again. So the
request that is sent is the recorded one exactly if its path and query are in the parser's
normal form. The asterisk of `OPTIONS *` is not: it has no slash in front and joins the
authority.

Two things are assumed of the parser: that it reads what follows an http scheme by the
algorithm, and that the origin of an http URL is a text it reads as that origin again.
-/

namespace TraceGate.Replay

def urlOf (scheme : String) (parts : Whatwg.Parts) : Url :=
  ⟨scheme, some parts.host, String.ofList parts.path, parts.query.map String.ofList,
    parts.fragment.map String.ofList, parts.origin⟩

def IsHttp (scheme : String) : Prop := scheme = "http" ∨ scheme = "https"

/-- The origin is a scheme and an authority that is read as this origin. -/
def OriginText (reader : Whatwg.Reader) (scheme origin : String) : Prop :=
  ∃ authority host, origin = scheme ++ "://" ++ authority ∧ authority ≠ "" ∧
    (∀ char ∈ authority.toList, ' ' < char ∧ Whatwg.endsAuthority char = false) ∧
    reader.authority scheme authority.toList = .ok (host, origin)

/-- What is assumed of the parser of URLs. -/
structure Parsers.ReadsUrls (parsers : Parsers) (reader : Whatwg.Reader) : Prop where
  read : ∀ scheme text, IsHttp scheme →
    parsers.url (scheme ++ "://" ++ text) = (reader.read scheme text.toList).map (urlOf scheme)
  origin : ∀ text parsed, parsers.url text = .ok parsed → IsHttp parsed.scheme →
    OriginText reader parsed.scheme parsed.origin

/-- The URL that is sent has the target's origin and this path and query, and the row names
them. -/
def Resends (parsers : Parsers) (target path : String) (query : Option String)
    (sent : DispatchedRequest) (row : ReplayRunInsert) : Prop :=
  ∃ parsed, parsers.url sent.url = .ok parsed ∧ validateTarget parsers target = .ok parsed.origin ∧
    parsed.path = path ∧ parsed.query = query ∧ row.target = parsed.origin ∧
    row.path = parsed.path ++ (parsed.query.map ("?" ++ ·)).getD ""

/-- The stored target is the path, and behind it a question mark and the query if there is
one. -/
theorem storedPathAndQuery_eq (details : RequestDetails) :
    storedPathAndQuery details =
      details.request.path ++ (details.request.redactedQuery.map ("?" ++ ·)).getD "" := by
  unfold storedPathAndQuery
  cases details.request.redactedQuery with
  | none => simp
  | some query => simp [String.append_assoc]

/-- The characters of the stored target are those of its path and query joined. -/
theorem toList_storedPathAndQuery (details : RequestDetails) :
    (storedPathAndQuery details).toList =
      Whatwg.joined details.request.path.toList
        (details.request.redactedQuery.map String.toList) := by
  rw [storedPathAndQuery_eq, Whatwg.joined]
  cases details.request.redactedQuery with
  | none => simp
  | some query => simp

/-- What a prepared replay is sent to, and what it asks for. -/
theorem prepared_target (parsers : Parsers) (options : ReplayOptions) (fresh : FreshIds)
    (details : RequestDetails) (request : ReplayRequest)
    (prepared : prepareReplay parsers options fresh details = .ok request) :
    validateTarget parsers options.target = .ok request.target ∧
      request.path = storedPathAndQuery details := by
  simp only [prepareReplay, bind_ok_iff, buildReplayRequest_eq_ok] at prepared
  obtain ⟨origin, accepted, _, _, _, _, _, _, rfl⟩ := prepared
  exact ⟨accepted, rfl⟩

/-- A replay run carries the target and the path of its request, however the dispatch ended. -/
theorem target_replayRun (original : RequestSummary) (request : ReplayRequest) (latencyMs : Nat)
    (nowMs : Int) (result : DispatchResult) :
    (replayRun original request latencyMs nowMs result).target = request.target ∧
      (replayRun original request latencyMs nowMs result).path = request.path := by
  cases result <;> exact ⟨rfl, rfl⟩

/-- A prepared replay is sent to the stored path and query behind an authority that stands for
the target's origin. -/
theorem url_dispatchedRequest (parsers : Parsers) (reader : Whatwg.Reader)
    (reads : parsers.ReadsUrls reader) (options : ReplayOptions) (fresh : FreshIds)
    (details : RequestDetails) (request : ReplayRequest)
    (prepared : prepareReplay parsers options fresh details = .ok request)
    (requestId traceparent : String) :
    ∃ scheme authority host, authority ≠ [] ∧
      (∀ char ∈ authority, ' ' < char ∧ Whatwg.endsAuthority char = false) ∧
      reader.authority scheme authority = .ok (host, request.target) ∧
      parsers.url (dispatchedRequest requestId traceparent request).url =
        (reader.read scheme (authority ++ Whatwg.joined details.request.path.toList
          (details.request.redactedQuery.map String.toList))).map (urlOf scheme) := by
  obtain ⟨accepted, path⟩ := prepared_target parsers options fresh details request prepared
  obtain ⟨target, parsedTarget, valid, origin⟩ :=
    (validateTarget_eq_ok parsers options.target request.target).mp accepted
  have http : IsHttp target.scheme := valid.scheme
  obtain ⟨authority, host, text, nonempty, clear, own⟩ :=
    reads.origin options.target target parsedTarget http
  rw [origin] at text own
  refine ⟨target.scheme, authority.toList, host, by simpa using nonempty, clear, own, ?_⟩
  rw [dispatchedRequest, path, text, String.append_assoc, reads.read _ _ http,
    String.toList_append, toList_storedPathAndQuery]

/-- A prepared replay resends what is stored exactly if the parser leaves it as it is.

The target is an origin that reads as itself, so what is parsed is this origin with the stored
path and query behind it. -/
theorem resends_stored_iff (parsers : Parsers) (reader : Whatwg.Reader)
    (reads : parsers.ReadsUrls reader) (options : ReplayOptions) (fresh : FreshIds)
    (details : RequestDetails) (request : ReplayRequest)
    (prepared : prepareReplay parsers options fresh details = .ok request) (traceparent : String)
    (latencyMs : Nat) (nowMs : Int) (result : DispatchResult) :
    Resends parsers options.target details.request.path details.request.redactedQuery
        (dispatchedRequest details.request.requestId traceparent request)
        (replayRun details.request request latencyMs nowMs result) ↔
      reader.TargetKept details.request.path.toList
        (details.request.redactedQuery.map String.toList) := by
  obtain ⟨accepted, path⟩ := prepared_target parsers options fresh details request prepared
  obtain ⟨rowTarget, rowPath⟩ := target_replayRun details.request request latencyMs nowMs result
  obtain ⟨scheme, authority, host, nonempty, clear, own, sent⟩ := url_dispatchedRequest parsers
    reader reads options fresh details request prepared details.request.requestId traceparent
  constructor
  · rintro ⟨parsed, parsedSent, _, samePath, sameQuery, _, _⟩
    rw [sent] at parsedSent
    cases parts : reader.read scheme (authority ++ Whatwg.joined details.request.path.toList
        (details.request.redactedQuery.map String.toList)) with
    | error reason => simp [parts, Except.map] at parsedSent
    | ok given =>
      simp only [parts, Except.map, Except.ok.injEq] at parsedSent
      subst parsedSent
      rw [← samePath, ← sameQuery]
      simpa [urlOf, Function.comp_def] using
        Whatwg.targetKept_of_read reader scheme _ given parts
  · intro kept
    have read := Whatwg.read_joined reader scheme authority host request.target nonempty clear own
      kept
    refine ⟨_, sent.trans (congrArg _ read), accepted, ?_, ?_, rowTarget, ?_⟩
    · simp [urlOf]
    · simp [urlOf, Function.comp_def]
    · rw [rowPath, path, storedPathAndQuery_eq]
      simp [urlOf, Function.comp_def]

/-- What is in flight was prepared, in every state that a run reaches. -/
theorem prepared_run (sql : SqlExternals) (parsers : Parsers) (options : ReplayOptions)
    (store : Store) (events : List Event) (state : State)
    (completed : Runs.run (step sql parsers options) (start store) events = some state) :
    ∀ details request, state.phase = .dispatched details request →
      ∃ fresh, prepareReplay parsers options fresh details = .ok request := by
  refine Runs.run_invariant (step sql parsers options) (fun state => ∀ details request,
    state.phase = .dispatched details request →
      ∃ fresh, prepareReplay parsers options fresh details = .ok request) ?_ (start store) state
    events (by simp [start]) completed
  intro state event next earlier taken details request dispatched
  rcases dispatched_of_step sql parsers options state next event details request taken
    dispatched with before | ⟨fresh, _, _, prepared⟩
  · exact earlier details request before
  · exact ⟨fresh, prepared⟩

/-- Whenever a replay is in flight, in any run and against any store, its request goes to the
target's origin with the stored path and query, those of the audit row, if and only if the path
and the query are in the parser's normal form. -/
theorem replay_resends_stored_iff (sql : SqlExternals) (parsers : Parsers)
    (reader : Whatwg.Reader) (reads : parsers.ReadsUrls reader) (options : ReplayOptions)
    (store : Store) (events : List Event) (state : State)
    (completed : Runs.run (step sql parsers options) (start store) events = some state)
    (details : RequestDetails) (request : ReplayRequest)
    (dispatched : state.phase = .dispatched details request) (traceparent : String)
    (latencyMs : Nat) (nowMs : Int) (result : DispatchResult) :
    Resends parsers options.target details.request.path details.request.redactedQuery
        (dispatchedRequest details.request.requestId traceparent request)
        (replayRun details.request request latencyMs nowMs result) ↔
      reader.TargetKept details.request.path.toList
        (details.request.redactedQuery.map String.toList) := by
  obtain ⟨fresh, prepared⟩ := prepared_run sql parsers options store events state completed
    details request dispatched
  exact resends_stored_iff parsers reader reads options fresh details request prepared traceparent
    latencyMs nowMs result

/-! A parser with the sets of the standard that takes every visible text for a host. -/

def isControl (char : Char) : Bool := char ≤ ' ' || '~' < char

/-- The control characters, the blank, everything beyond ASCII and some more characters. -/
def encodeSet (others : List Char) (percent : others.contains '%' = false)
    (digit : ∀ value < 16, others.contains (Whatwg.upperHex value) = false) :
    Whatwg.EncodeSet where
  encodes char := isControl char || others.contains char
  control char blank := by simp [isControl, blank]
  percent := by rw [percent]; rfl
  digit value bounded := by
    rw [digit value bounded, Bool.or_false]
    exact (by decide : ∀ value < 16, isControl (Whatwg.upperHex value) = false) value bounded

def standardReader : Whatwg.Reader where
  path := encodeSet ['"', '#', '<', '>', '?', '\x60', '\x7b', '\x7d'] (by decide) (by decide)
  query := encodeSet ['"', '#', '<', '>', '\x27'] (by decide) (by decide)
  fragment := encodeSet ['"', '<', '>', '\x60'] (by decide) (by decide)
  authority scheme text :=
    if text.isEmpty || text.any (· ≤ ' ') then .error "empty host"
    else .ok (String.ofList text, scheme ++ "://" ++ String.ofList text)
  pathEnds char ends := by
    simp only [Whatwg.endsPath, Bool.or_eq_true, beq_iff_eq] at ends
    rcases ends with rfl | rfl <;> decide
  queryEnds := by decide

def standardUrl (text : String) : Except String Url :=
  if text.toList.take 7 = "http://".toList then
    (standardReader.read "http" (text.toList.drop 7)).map (urlOf "http")
  else if text.toList.take 8 = "https://".toList then
    (standardReader.read "https" (text.toList.drop 8)).map (urlOf "https")
  else .error "relative URL without a base"

def standardParsers : Parsers := { plainParsers with url := standardUrl }

/-- The origin that is read of any text is one that is read as itself.

The authority that was found is not empty, has visible characters only and none that ends an
authority. -/
theorem originText_of_read (scheme : String) (text : List Char) (parsed : Url)
    (read : (standardReader.read scheme text).map (urlOf scheme) = .ok parsed) :
    parsed.scheme = scheme ∧ OriginText standardReader scheme parsed.origin := by
  simp only [Whatwg.Reader.read] at read
  split at read
  · exact absurd read (by simp [Except.map])
  next host origin found =>
    simp only [Except.map, Except.ok.injEq] at read
    subst read
    refine ⟨rfl, ?_⟩
    have own := found
    simp only [standardReader] at found
    split at found
    · exact absurd found (by simp)
    next visible =>
      obtain ⟨rfl, rfl⟩ := Prod.mk.inj (Except.ok.inj found)
      simp only [Bool.or_eq_true, List.isEmpty_iff, List.any_eq_true, decide_eq_true_eq, not_or,
        not_exists, not_and] at visible
      obtain ⟨nonempty, shown⟩ := visible
      refine ⟨_, _, rfl, by simpa using nonempty, ?_, by rw [String.toList_ofList]; exact own⟩
      intro char member
      rw [String.toList_ofList] at member
      refine ⟨Char.not_le.mp (shown char member), ?_⟩
      simpa using List.mem_takeWhile_imp member

/-- The sample parsers read URLs as the standard's reader does.

A text is tried with one scheme and then with the other. -/
theorem standardParsers_readsUrls : standardParsers.ReadsUrls standardReader where
  read scheme text http := by
    have whole : ∀ start : String, (start ++ "://" ++ text).toList =
        (start ++ "://").toList ++ text.toList := fun start => String.toList_append
    simp only [standardParsers, standardUrl, whole]
    rcases http with rfl | rfl
    · rfl
    · rfl
  origin text parsed given http := by
    simp only [standardParsers, standardUrl] at given
    split at given
    · obtain ⟨same, origin⟩ := originText_of_read "http" _ parsed given
      rw [same]
      exact origin
    · split at given
      · obtain ⟨same, origin⟩ := originText_of_read "https" _ parsed given
        rw [same]
        exact origin
      · exact absurd given (by simp)

/-- A store with one request of the given path and query. -/
def storeAsking (path : String) (query : Option String) : Store :=
  Store.empty.apply plainSql
    (.insertRequest { sampleRecord with path := path, redactedQuery := query } [] [] none [])

/-- Repeated slashes, encoded slashes and question marks in a query are resent. -/
theorem replay_resends_stored_slashes : ∃ state details request,
    Runs.run (step plainSql standardParsers replayOptions)
        (start (storeAsking "//orders/%2F" (some "page=1?"))) replaySteps = some state ∧
      state.phase = .dispatched details request ∧
      Resends standardParsers "http://staging" "//orders/%2F" (some "page=1?")
        (dispatchedRequest "r" "00" request)
        (replayRun details.request request 1 1000 (.answered 200 0)) := by
  refine ⟨_, _, _, rfl, rfl, (replay_resends_stored_iff plainSql standardParsers standardReader
    standardParsers_readsUrls replayOptions (storeAsking "//orders/%2F" (some "page=1?"))
    replaySteps _ rfl _ _ rfl "00" 1 1000 (.answered 200 0)).mpr ?_⟩
  decide +kernel

/-- A request that climbs out of a directory, to the route for every path. -/
def dottedRequest : InboundRequest :=
  { method := "GET", uri := ⟨"/a/../b", none, some "/a/../b"⟩, version := .http11, headers := []
    body := .empty }

/-- The store once its row is written. -/
def dottedStore : Store :=
  Store.empty.apply plainSql (.insertRequest
    { sampleRecord with
      routeId := some "site", path := "/a/../b", latencyMs := 0
      upstream := some "http://10.0.0.7:3000", createdAtMs := 0 }
    [] [⟨"x-request-id", "r"⟩] none [])

/-- The gateway forwards and records the dots; the replay asks for another path than its audit
row names. -/
theorem dotted_path_resolved : ∃ handled details state request parsed,
    handle Exchange.plainExternals tableState dottedRequest Exchange.localAddr
        { Exchange.uploadAround with selected := some (0, tableUpstream) } = .ok handled ∧
      handled.sent.map UpstreamRequest.uri = ["http://10.0.0.7:3000/a/../b"] ∧
      Recorded Exchange.plainExternals tableState plainSql dottedRequest details ∧
      Runs.run (step plainSql standardParsers replayOptions) (start dottedStore) replaySteps =
        some state ∧
      state.phase = .dispatched details request ∧
      standardParsers.url (dispatchedRequest "r" "00" request).url = .ok parsed ∧
      parsed.path = "/b" ∧
      (replayRun details.request request 1 1000 (.answered 200 0)).path = "/a/../b" ∧
      ¬ Resends standardParsers "http://staging" "/a/../b" none
        (dispatchedRequest "r" "00" request)
        (replayRun details.request request 1 1000 (.answered 200 0)) := by
  have read : standardUrl "http://staging/a/../b" =
      .ok (urlOf "http" ⟨"staging", "http://staging", "/b".toList, none, none⟩) := by
    decide +kernel
  refine ⟨_, _, _, _, _, rfl, rfl,
    ⟨Exchange.localAddr, { Exchange.uploadAround with selected := some (0, tableUpstream) }, _,
      ⟨[], []⟩, attachStorageFinalizer _ _ _, .disabled, _, Store.empty, _, rfl, rfl, rfl, rfl,
      rfl⟩, rfl, rfl, read, by decide, rfl, ?_⟩
  rintro ⟨parsed, sent, _, path, _⟩
  obtain rfl := Except.ok.inj (sent.symm.trans read)
  exact absurd path (by decide)

end TraceGate.Replay
