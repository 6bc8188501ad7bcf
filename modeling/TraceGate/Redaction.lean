import Mathlib.Data.List.Forall2
import TraceGate.Exchange
import TraceGate.ReplayAudit
import TraceGate.TextLaws

/-!
# What redaction hides

Two requests that differ only in secrets, the values of sensitive headers and of
query parts with a sensitive key, are compared through everything that is made of
a request outside the exchange itself: the logged path, the stored headers and
query, the input of a plugin and a replay. Each of these keeps an item or leaves
it out by its name alone, so the items kept are the same on both sides.

What is kept of a query is exactly the rest of it, part for part, and it is kept again.
The last part asks how an upstream reads the keys that are left. A key is compared
as it is written, while an upstream decodes it first; the two agree exactly on
queries that spell no sensitive name by escapes.
-/

namespace TraceGate

/-- The key of a part of a query, as it is written. -/
def partKey (part : String) : String :=
  ((Text.splitOnce '=' part).map Prod.fst).getD part

/-- The parts of a query that `redacted_query` keeps. -/
def keptParts (query : String) (redaction : RedactionConfig) : List String :=
  (Text.split '&' query).filter fun part => !redaction.isSensitiveQueryParam (partKey part)

/-- A query is redacted to its kept parts, and to nothing if there are none. -/
theorem redactedQuery_some (query : String) (redaction : RedactionConfig) :
    redactedQuery (some query) redaction =
      if (keptParts query redaction).isEmpty then none
      else some (Text.join '&' (keptParts query redaction)) := rfl

/-- Sensitivity of a header does not depend on the case of its name, which is lowercased before
it is looked up. -/
theorem isSensitiveHeader_lowercase (redaction : RedactionConfig) (name : String) :
    redaction.isSensitiveHeader (Text.toAsciiLowercase name) =
      redaction.isSensitiveHeader name := by
  simp [RedactionConfig.isSensitiveHeader, Text.eqIgnoreAsciiCase]

/-- A set of lowercased names holds a lowercased name exactly when one of the names
is it, ignoring case. -/
theorem contains_lowercased (names : List String) (name : String) :
    (names.map Text.toAsciiLowercase).contains (Text.toAsciiLowercase name) =
      names.any (Text.eqIgnoreAsciiCase · name) := by
  induction names with
  | nil => rfl
  | cons first rest inductionHypothesis =>
    rw [List.map_cons, List.contains_cons, inductionHypothesis, List.any_cons]
    congr 1
    exact Bool.beq_comm

/-! ## Two requests -/

/-- Two lines under one name, with one value unless the name is sensitive. -/
def SameLine (redaction : RedactionConfig) (left right : String × HeaderValue) : Prop :=
  left.1 = right.1 ∧ (left.2 = right.2 ∨ redaction.isSensitiveHeader left.1 = true)

/-- Two equal parts, or two parts under one sensitive key. -/
def SamePart (redaction : RedactionConfig) (left right : String) : Prop :=
  left = right ∨
    partKey left = partKey right ∧ redaction.isSensitiveQueryParam (partKey left) = true

/-- Two requests that differ only in the values of sensitive headers and of query
parts with a sensitive key. Nothing is asked of their methods and bodies. -/
structure SameButSecrets (redaction : RedactionConfig) (left right : InboundRequest) : Prop where
  path : left.uri.path = right.uri.path
  query : Option.Rel (fun leftQuery rightQuery => List.Forall₂ (SamePart redaction)
    (Text.split '&' leftQuery) (Text.split '&' rightQuery)) left.uri.query right.uri.query
  headers : List.Forall₂ (SameLine redaction) left.headers right.headers

/-- The requests have different values in some line under the name. -/
def Differs (left right : InboundRequest) (name : String) : Prop :=
  ∃ lines ∈ left.headers.zip right.headers, lines.1.1 = name ∧ lines.1.2 ≠ lines.2.2

/-- The plugin is given the header even when it is sensitive. -/
def PluginConfig.namesRaw (config : PluginConfig) (name : String) : Bool :=
  config.rawHeaders.any (Text.eqIgnoreAsciiCase · name)

/-- One line as a plugin sees it, when it sees it. -/
def visibleLine (redaction : RedactionConfig) (config : PluginConfig)
    (line : String × HeaderValue) : Option Policy.Header :=
  if !redaction.isSensitiveHeader line.1 || config.namesRaw line.1 then
    some ⟨Text.toAsciiLowercase line.1, recordedValue line.2⟩
  else none

/-- The sets of lowercased names in `input_for` select lines as the redaction and
the plugin's list of raw headers do. -/
theorem headers_inputFor (redaction : RedactionConfig) (config : PluginConfig)
    (headers : HeaderMap) (request : Policy.PolicyRequest)
    (itsHeaders : request.headers = policyHeaders headers)
    (itsSensitive : request.sensitiveHeaders = redaction.headers) :
    (request.inputFor config).headers = headers.filterMap (visibleLine redaction config) := by
  simp only [Policy.PolicyRequest.inputFor, itsHeaders, itsSensitive, policyHeaders]
  rw [← List.filterMap_eq_filter, List.filterMap_map, List.map_filterMap]
  refine List.filterMap_congr fun line _ => ?_
  have sensitive := contains_lowercased redaction.headers line.1
  have named := contains_lowercased config.rawHeaders line.1
  simp only [Function.comp, Option.guard, sensitive, named, visibleLine,
    RedactionConfig.isSensitiveHeader, PluginConfig.namesRaw]
  exact apply_ite (Option.map _) _ _ _

/-- Related lists have the same image when related elements have. -/
theorem filterMap_eq_of_forall₂ {α β : Type} {related : α → α → Prop} {left right : List α}
    (image : α → Option β) (lists : List.Forall₂ related left right)
    (same : ∀ first second, related first second → image first = image second) :
    left.filterMap image = right.filterMap image := by
  induction lists with
  | nil => rfl
  | cons first _ inductionHypothesis =>
    rw [List.filterMap_cons, List.filterMap_cons, same _ _ first, inductionHypothesis]

/-- Queries whose parts differ in secrets only keep the same parts.

Two parts that differ have one sensitive key, so both are left out. -/
theorem keptParts_eq {redaction : RedactionConfig} {left right : String}
    (parts : List.Forall₂ (SamePart redaction) (Text.split '&' left) (Text.split '&' right)) :
    keptParts left redaction = keptParts right redaction := by
  rw [keptParts, keptParts, ← List.filterMap_eq_filter]
  apply filterMap_eq_of_forall₂ _ parts
  rintro first second (rfl | ⟨key, sensitive⟩)
  · rfl
  · have sensitiveToo : redaction.isSensitiveQueryParam (partKey second) = true := key ▸ sensitive
    simp [Option.guard, sensitive, sensitiveToo]

namespace SameButSecrets

variable {redaction : RedactionConfig} {left right : InboundRequest}

/-- Requests that differ in secrets only have the same redacted query. -/
theorem redactedQuery_eq (same : SameButSecrets redaction left right) :
    redactedQuery left.uri.query redaction = redactedQuery right.uri.query redaction := by
  have queries := same.query
  revert queries
  generalize left.uri.query = leftQuery
  generalize right.uri.query = rightQuery
  rintro (parts | _)
  · rw [redactedQuery_some, redactedQuery_some, keptParts_eq parts]
  · rfl

/-- Requests that differ in secrets only have the same redacted path and query. -/
theorem redactedPathAndQuery_eq (same : SameButSecrets redaction left right) :
    redactedPathAndQuery left.uri.path left.uri.query redaction =
      redactedPathAndQuery right.uri.path right.uri.query redaction := by
  rw [redactedPathAndQuery, redactedPathAndQuery, same.redactedQuery_eq, same.path]

/-- Requests that differ in secrets only have the same stored headers.

Lines that differ carry one sensitive name, and no line of such a name is stored. -/
theorem storedHeaders_eq (same : SameButSecrets redaction left right) :
    storedHeaders left.headers redaction = storedHeaders right.headers redaction := by
  have lines : left.headers.filterMap (storedLine redaction) =
      right.headers.filterMap (storedLine redaction) := by
    apply filterMap_eq_of_forall₂ _ same.headers
    rintro ⟨name, first⟩ ⟨_, second⟩ ⟨rfl, value | sensitive⟩
    · exact congrArg (fun value => storedLine redaction (name, value)) value
    · simp [storedLine, isSensitiveHeader_lowercase, sensitive]
  rw [storedHeaders, storedHeaders, lines]

/-- The headers a plugin sees are chosen by name, and the value of a header that is
shown although it is sensitive is the same on both sides. -/
theorem visibleHeaders_eq (same : SameButSecrets redaction left right) (config : PluginConfig)
    (spared : ∀ name, Differs left right name → config.namesRaw name = false) :
    left.headers.filterMap (visibleLine redaction config) =
      right.headers.filterMap (visibleLine redaction config) := by
  have lines : List.Forall₂
      (fun first second => SameLine redaction first second ∧
        (first.2 ≠ second.2 → config.namesRaw first.1 = false)) left.headers right.headers := by
    obtain ⟨lengths, pairs⟩ := List.forall₂_iff_zip.mp same.headers
    refine List.forall₂_iff_zip.mpr ⟨lengths, fun {first second} member => ?_⟩
    refine ⟨pairs member, fun differ => ?_⟩
    exact spared first.1 ⟨(first, second), member, rfl, differ⟩
  apply filterMap_eq_of_forall₂ _ lines
  rintro ⟨name, first⟩ ⟨_, second⟩ ⟨⟨rfl, value | sensitive⟩, unnamed⟩
  · exact congrArg (fun value => visibleLine redaction config (name, value)) value
  · by_cases differ : first = second
    · rw [differ]
    · simp [visibleLine, sensitive, unnamed differ]

end SameButSecrets

/-! ## Through the store to a replay -/

/-- The details a store shows of a request: it was handled, its response body's
finalizer was spent on a write, and the write was committed. -/
def Recorded {Component : Type} (externals : Externals) (state : GatewayState Component)
    (sql : SqlExternals) (request : InboundRequest) (details : RequestDetails) : Prop :=
  ∃ (remoteAddr : SocketAddr) (around : Surroundings Component) (handled : Handled)
    (redaction : RedactionConfig) (body : CapturingBody) (requestCapture : CaptureBuffer)
    (write : CaptureWrite) (store : Store) (next : Database),
    handle externals state request remoteAddr around = .ok handled ∧
      body.finalizer =
        (attachStorageFinalizer redaction handled.response.headers handled.finalizer).finalizer ∧
      (body.finalize externals.sha256 requestCapture).2 = some write ∧
      store.val.insertRequest sql write.record write.requestHeaders write.responseHeaders
        write.capture write.pluginDecisions = .ok next ∧
      next.showRequest sql write.record.requestId = some details

/-- What is shown of a request is its path, its redacted query and its stored
headers. -/
theorem Recorded.target {Component : Type} {externals : Externals}
    {state : GatewayState Component} {sql : SqlExternals} {request : InboundRequest}
    {details : RequestDetails} (recorded : Recorded externals state sql request details) :
    details.request.path = request.uri.path ∧
      details.request.redactedQuery = redactedQuery request.uri.query state.redaction ∧
      details.requestHeaders =
        (storedHeaders request.headers state.redaction).insertionSort storedHeaderLe := by
  obtain ⟨remoteAddr, around, handled, redaction, body, requestCapture, write, store, next,
    returned, attached, written, committed, shown⟩ := recorded
  obtain ⟨path, query⟩ := target_of_handle externals state request remoteAddr around handled
    returned
  have headers := requestHeaders_of_handle externals state request remoteAddr around handled
    returned
  simp only [CapturingBody.finalize, attached, attachStorageFinalizer,
    CaptureFinalizer.finalize, Bool.false_eq_true, if_false, Option.some.injEq,
    Option.getD_some] at written
  subst written
  obtain ⟨_, _, _, rfl⟩ := (Database.insertRequest_ok_iff sql store.property _ _ _ _ _ _).mp
    committed
  obtain ⟨row, rows⟩ := Database.showRequest_inserted sql store.property _ _ _ _ _ _ shown
  rw [row, rows, ← headers]
  exact ⟨path, query, rfl⟩

/-- Nothing that leaves the exchange depends on a secret: not the logged path, the
stored query and headers, what a plugin sees unless it is given a differing header,
nor the target and headers of a replay. -/
theorem secrets_do_not_flow {Component : Type} (externals : Externals)
    (state : GatewayState Component) (left right : InboundRequest)
    (same : SameButSecrets state.redaction left right) :
    redactedPathAndQuery left.uri.path left.uri.query state.redaction =
        redactedPathAndQuery right.uri.path right.uri.query state.redaction ∧
      redactedQuery left.uri.query state.redaction =
        redactedQuery right.uri.query state.redaction ∧
      storedHeaders left.headers state.redaction = storedHeaders right.headers state.redaction ∧
      (∀ config : PluginConfig,
        (∀ name, Differs left right name → config.namesRaw name = false) →
        ∀ leftId rightId leftAddr rightAddr leftRoute rightRoute leftPreview rightPreview,
          let leftInput := (policyRequest externals state
            (requestFacts externals state.redaction leftId left leftAddr) leftRoute left.headers
            leftPreview).inputFor config
          let rightInput := (policyRequest externals state
            (requestFacts externals state.redaction rightId right rightAddr) rightRoute
            right.headers rightPreview).inputFor config
          leftInput.headers = rightInput.headers ∧ leftInput.query = rightInput.query) ∧
      ∀ sql parsers leftDetails rightDetails leftFresh rightFresh leftOrigin rightOrigin
        leftConfirm rightConfirm leftReplay rightReplay,
        Recorded externals state sql left leftDetails →
        Recorded externals state sql right rightDetails →
        Replay.buildReplayRequest parsers leftFresh leftDetails leftOrigin leftConfirm =
          .ok leftReplay →
        Replay.buildReplayRequest parsers rightFresh rightDetails rightOrigin rightConfirm =
          .ok rightReplay →
        leftReplay.path = rightReplay.path ∧ leftReplay.headers = rightReplay.headers := by
  refine ⟨same.redactedPathAndQuery_eq, same.redactedQuery_eq, same.storedHeaders_eq, ?_, ?_⟩
  · intro config spared leftId rightId leftAddr rightAddr leftRoute rightRoute leftPreview
      rightPreview leftInput rightInput
    constructor
    · have shown := same.visibleHeaders_eq config spared
      rw [← headers_inputFor state.redaction config left.headers
        (policyRequest externals state _ leftRoute left.headers leftPreview) rfl rfl,
        ← headers_inputFor state.redaction config right.headers
        (policyRequest externals state _ rightRoute right.headers rightPreview) rfl rfl] at shown
      exact shown
    · exact same.redactedQuery_eq
  · intro sql parsers leftDetails rightDetails leftFresh rightFresh leftOrigin rightOrigin
      leftConfirm rightConfirm leftReplay rightReplay leftRecorded rightRecorded leftBuilt
      rightBuilt
    obtain ⟨leftPath, leftQuery, leftHeaders⟩ := leftRecorded.target
    obtain ⟨rightPath, rightQuery, rightHeaders⟩ := rightRecorded.target
    obtain ⟨_, _, _, _, rfl⟩ := (Replay.buildReplayRequest_eq_ok _ _ _ _ _ _).mp leftBuilt
    obtain ⟨_, _, _, _, rfl⟩ := (Replay.buildReplayRequest_eq_ok _ _ _ _ _ _).mp rightBuilt
    constructor
    · simp only [Replay.storedPathAndQuery, leftPath, leftQuery, rightPath, rightQuery, same.path,
        same.redactedQuery_eq]
    · simp only [leftHeaders, rightHeaders, same.storedHeaders_eq]

/-- A gateway without routes that keeps a header and a query parameter secret. -/
def secretGateway : GatewayState Unit :=
  { Exchange.uploadGateway with router := [], redaction := ⟨["Authorization"], ["token"]⟩ }

def secretRequest (secret : String) : InboundRequest :=
  { method := "GET", uri := ⟨"/items", some ("page=1&Token=" ++ secret), none⟩
    version := .http11
    headers := [("accept", .ofAscii "*/*"), ("authorization", .ofAscii secret)]
    body := .empty }

/-- The two requests differ in their token and their authorization only. -/
theorem secretRequest_sameButSecrets :
    SameButSecrets secretGateway.redaction (secretRequest "a") (secretRequest "b") where
  path := rfl
  query := .some (.cons (.inl rfl) (.cons (.inr ⟨by decide, by decide⟩) .nil))
  headers := .cons ⟨rfl, .inl rfl⟩ (.cons ⟨rfl, .inr (by decide)⟩ .nil)

/-- The details shown of either request. -/
def secretDetails : RequestDetails :=
  { request :=
      { sampleRecord with
        routeId := none, path := "/items", redactedQuery := some "page=1"
        queryHash := some "digest", status := 404, latencyMs := 0, createdAtMs := 0 }
    requestHeaders := [⟨"accept", "*/*"⟩], responseHeaders := [⟨"x-request-id", "r"⟩]
    capture := none, pluginDecisions := [], replayRuns := [] }

/-- Two requests with different tokens are recorded, and replayed alike. -/
theorem secrets_do_not_flow_token :
    secretRequest "a" ≠ secretRequest "b" ∧
      Recorded Exchange.plainExternals secretGateway plainSql (secretRequest "a")
        secretDetails ∧
      Recorded Exchange.plainExternals secretGateway plainSql (secretRequest "b")
        secretDetails ∧
      ∃ leftReplay rightReplay,
        Replay.buildReplayRequest Replay.plainParsers ⟨"p", "q"⟩ secretDetails "http://a:1"
          false = .ok leftReplay ∧
        Replay.buildReplayRequest Replay.plainParsers ⟨"p2", "q2"⟩ secretDetails "http://b:1"
          false = .ok rightReplay ∧
        leftReplay.path = rightReplay.path ∧ leftReplay.headers = rightReplay.headers := by
  have left : Recorded Exchange.plainExternals secretGateway plainSql (secretRequest "a")
      secretDetails :=
    ⟨Exchange.localAddr, Exchange.uploadAround, _, ⟨[], []⟩,
      attachStorageFinalizer _ _ _, .disabled, _, Store.empty, _, rfl, rfl, rfl, rfl, rfl⟩
  have right : Recorded Exchange.plainExternals secretGateway plainSql (secretRequest "b")
      secretDetails :=
    ⟨Exchange.localAddr, Exchange.uploadAround, _, ⟨[], []⟩,
      attachStorageFinalizer _ _ _, .disabled, _, Store.empty, _, rfl, rfl, rfl, rfl, rfl⟩
  refine ⟨by decide, left, right, _, _, rfl, rfl, ?_⟩
  exact (secrets_do_not_flow Exchange.plainExternals secretGateway _ _
    secretRequest_sameButSecrets).2.2.2.2 _ Replay.plainParsers _ _ _ _ _ _ false false _ _ left
    right rfl rfl

/-! ## What is kept -/

/-- A query is redacted to nothing exactly when none of its parts is kept. -/
theorem redactedQuery_eq_none_iff (redaction : RedactionConfig) (query : String) :
    redactedQuery (some query) redaction = none ↔ keptParts query redaction = [] := by
  rw [redactedQuery_some]
  split
  next empty => simpa using empty
  next filled => simpa using filled

/-- A query is redacted to a text exactly when that is its kept parts joined, of which there is
one at least. -/
theorem redactedQuery_eq_some_iff (redaction : RedactionConfig) (query output : String) :
    redactedQuery (some query) redaction = some output ↔
      keptParts query redaction ≠ [] ∧ Text.join '&' (keptParts query redaction) = output := by
  rw [redactedQuery_some]
  split
  next empty => simp [List.isEmpty_iff.mp empty]
  next filled => simp [List.isEmpty_iff.not.mp filled]

/-- The parts of a redacted query are the parts that were kept, since no part has the separator
in it. -/
theorem split_redactedQuery (redaction : RedactionConfig) (query output : String)
    (redacted : redactedQuery (some query) redaction = some output) :
    Text.split '&' output = keptParts query redaction := by
  obtain ⟨nonempty, rfl⟩ := (redactedQuery_eq_some_iff redaction query output).mp redacted
  exact Text.split_join '&' query _ (List.filter_subset_self _) nonempty

/-- What was kept once is kept again.

The parts of a redacted query are the kept ones, and filtering them again leaves them all. -/
theorem redactedQuery_idem (redaction : RedactionConfig) (query : Option String) :
    redactedQuery (redactedQuery query redaction) redaction = redactedQuery query redaction := by
  cases query with
  | none => rfl
  | some query =>
    cases redacted : redactedQuery (some query) redaction with
    | none => rfl
    | some output =>
      have again : keptParts output redaction = keptParts query redaction := by
        rw [keptParts, split_redactedQuery redaction query output redacted, keptParts,
          List.filter_filter]
        simp only [Bool.and_self]
      rw [redactedQuery_eq_some_iff] at redacted ⊢
      rwa [again]

/-- The raw key of a part: its text before the first equals sign, all of it if it has none. -/
def rawKey (part : String) : String := String.ofList (part.toList.takeWhile (· != '='))

/-- The key of a part is what stands before its first equals sign, or the whole part. -/
theorem partKey_eq_rawKey (part : String) : partKey part = rawKey part := by
  rw [partKey, rawKey, Text.splitOnce]
  split
  · rfl
  next absent =>
    rw [Text.takeWhile_of_not_mem '=' _ absent, String.ofList_toList]
    rfl

/-- What the redaction of a query is to be. Its parts are the parts of the query whose raw key
is not sensitive; there is none exactly if there is no query or every part of it is sensitive;
and redacting it again leaves it as it is. -/
structure KeepsRest (redaction : RedactionConfig) (query output : Option String) : Prop where
  parts : ∀ text ∈ query, ∀ kept ∈ output, Text.split '&' kept =
    (Text.split '&' text).filter fun part => !redaction.isSensitiveQueryParam (rawKey part)
  absent : output = none ↔ query = none ∨ ∃ text, query = some text ∧
    ∀ part ∈ Text.split '&' text, redaction.isSensitiveQueryParam (rawKey part) = true
  again : redactedQuery output redaction = output

/-- The kept parts are those whose raw key is not sensitive. -/
theorem keptParts_eq_filter (redaction : RedactionConfig) (query : String) :
    keptParts query redaction = (Text.split '&' query).filter fun part =>
      !redaction.isSensitiveQueryParam (rawKey part) := by
  simp only [keptParts, partKey_eq_rawKey]

/-- A part is kept exactly when it is one of the query whose raw key is not sensitive. -/
theorem mem_keptParts (redaction : RedactionConfig) (query part : String) :
    part ∈ keptParts query redaction ↔
      part ∈ Text.split '&' query ∧ redaction.isSensitiveQueryParam (rawKey part) = false := by
  rw [keptParts_eq_filter, List.mem_filter, Bool.not_eq_true']

/-- Redaction keeps all parts with keys that are not sensitive, in their order, and drops the
query where there are none. -/
theorem keepsRest_redactedQuery (redaction : RedactionConfig) (query : Option String) :
    KeepsRest redaction query (redactedQuery query redaction) where
  parts := by
    rintro text received kept redacted
    rw [received] at redacted
    rw [split_redactedQuery redaction text kept redacted, keptParts_eq_filter]
  absent := by
    cases query with
    | none => simp [redactedQuery]
    | some text => simp [redactedQuery_eq_none_iff, keptParts_eq_filter]
  again := redactedQuery_idem redaction query

/-! ## How an upstream reads a key -/

/-- The value of a hexadecimal digit, in either case. -/
def hexValue (digit : UInt8) : Option UInt8 :=
  if 48 ≤ digit && digit ≤ 57 then some (digit - 48)
  else if 65 ≤ digit && digit ≤ 70 then some (digit - 55)
  else if 97 ≤ digit && digit ≤ 102 then some (digit - 87)
  else none

/-- The byte that three bytes escape: a percent sign and two digits. -/
def escaped (first second third : UInt8) : Option UInt8 :=
  if first = 37 then do
    let high ← hexValue second
    let low ← hexValue third
    return 16 * high + low
  else none

/-- Percent decoding; a percent sign that starts no escape stands for itself. -/
def percentDecode : List UInt8 → List UInt8
  | first :: second :: third :: rest =>
      match escaped first second third with
      | some byte => byte :: percentDecode rest
      | none => first :: percentDecode (second :: third :: rest)
  | short => short

def utf8Bytes (text : String) : List UInt8 := text.toList.flatMap String.utf8EncodeChar

def lowerByte (byte : UInt8) : UInt8 := if 65 ≤ byte && byte ≤ 90 then byte + 32 else byte

/-- An upstream that decodes the key reads one of the configured names, ignoring
ASCII case. -/
def RedactionConfig.readsAsSensitive (redaction : RedactionConfig) (key : String) : Bool :=
  redaction.queryParams.any fun name =>
    (percentDecode (utf8Bytes key)).map lowerByte == (utf8Bytes name).map lowerByte

/-- Every part that an upstream would read as a sensitive parameter has a sensitive
key as it is written. -/
def SpellsPlainly (redaction : RedactionConfig) (query : String) : Prop :=
  ∀ part ∈ Text.split '&' query, redaction.readsAsSensitive (partKey part) = true →
    redaction.isSensitiveQueryParam (partKey part) = true

/-- No part of a redacted query reads as a sensitive parameter exactly when the
query spells no sensitive name by escapes only. -/
theorem redactedQuery_hides_iff (redaction : RedactionConfig) (query : String) :
    (∀ output, redactedQuery (some query) redaction = some output →
        ∀ part ∈ Text.split '&' output, redaction.readsAsSensitive (partKey part) = false) ↔
      SpellsPlainly redaction query := by
  constructor
  · intro hides part member reads
    by_contra plain
    have kept : part ∈ keptParts query redaction :=
      List.mem_filter.mpr ⟨member, by simpa using plain⟩
    have redacted : redactedQuery (some query) redaction =
        some (Text.join '&' (keptParts query redaction)) :=
      (redactedQuery_eq_some_iff redaction query _).mpr ⟨List.ne_nil_of_mem kept, rfl⟩
    have hidden := hides _ redacted part
    rw [split_redactedQuery redaction query _ redacted] at hidden
    exact absurd reads (by simp [hidden kept])
  · intro plainly output redacted part member
    rw [split_redactedQuery redaction query output redacted] at member
    obtain ⟨inQuery, kept⟩ := List.mem_filter.mp member
    by_contra reads
    have sensitive := plainly part inQuery (by simpa using reads)
    simp [sensitive] at kept

/-- An escaped letter carries a sensitive parameter through: keys are compared as they are
written. -/
theorem escaped_token_kept :
    redactedQuery (some "page=1&%74oken=secret") ⟨[], ["token"]⟩ =
        some "page=1&%74oken=secret" ∧
      "%74oken=secret" ∈ Text.split '&' "page=1&%74oken=secret" ∧
      RedactionConfig.readsAsSensitive ⟨[], ["token"]⟩ (partKey "%74oken=secret") = true := by
  decide

end TraceGate
