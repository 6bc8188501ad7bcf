import TraceGate.Exchange
import TraceGate.RouteCalls

/-!
# Where a built request goes

The target of a request to an upstream is a text: the upstream's scheme and authority with
the client's path and query behind them, parsed again as a URI. A reader of that text takes
for the authority everything up to the first slash, question mark or number sign. The
client's text begins with one of the first two unless it is the asterisk of `OPTIONS *`, or
whatever else a client of HTTP/2 may put into `:path`; such a text becomes part of the
authority.
-/

namespace TraceGate

/-- The characters at which the authority of a URI ends. -/
def endsAuthority (char : Char) : Bool := char == '/' || char == '?' || char == '#'

/-- A URI as its accessors show it. -/
structure UriParts where
  scheme : String
  authority : String
  path : String
  query : Option String
deriving DecidableEq

/-- The path and the query of what follows the authority. An empty path is shown as `/`, and
a fragment is dropped. -/
def readTarget (text : List Char) : String × Option String :=
  let kept := text.takeWhile (· != '#')
  let path := kept.takeWhile (· != '?')
  (if path.isEmpty then "/" else String.ofList path,
    (kept.dropWhile (· != '?')).tail?.map String.ofList)

/-- The parts of `scheme://rest`. -/
def readUri (text : String) : UriParts :=
  let scheme := text.toList.takeWhile (· != ':')
  let rest := text.toList.drop (scheme.length + 3)
  let target := readTarget (rest.dropWhile (!endsAuthority ·))
  ⟨String.ofList scheme, String.ofList (rest.takeWhile (!endsAuthority ·)), target.1, target.2⟩

/-- What the accessors of a parsed URI have to do with each other. A target in authority form
has no path and query; any other has a text, without fragment, of which both are parts. -/
structure Uri.WellFormed (uri : Uri) : Prop where
  absent : uri.pathAndQuery = none → uri.path = "" ∧ uri.query = none
  present : ∀ text ∈ uri.pathAndQuery, text ≠ "" ∧ '#' ∉ text.toList ∧
    readTarget text.toList = (uri.path, uri.query)

/-- The parser cuts an upstream's URI at the end of the scheme and of the authority. -/
def Config.Externals.CutsAuthorities (externals : Config.Externals) : Prop :=
  ∀ value scheme authority, externals.parseUri value = .ok (some scheme, some authority) →
    ':' ∉ scheme.toList ∧ ∀ char ∈ authority.toList, endsAuthority char = false

/-- The text names the upstream's scheme and authority, and the client's path and query. -/
def TargetsUpstream (upstream : Upstream) (uri : Uri) (text : String) : Prop :=
  readUri text = ⟨upstream.scheme, upstream.authority, if uri.path = "" then "/" else uri.path,
    uri.query⟩

/-- The client's text, if there is one, begins with its path or its query. -/
def Uri.BeginsTarget (uri : Uri) : Prop :=
  ∀ text ∈ uri.pathAndQuery, text.toList.head? = some '/' ∨ text.toList.head? = some '?'

/-! ## Reading a concatenation -/

/-- The path that is read of a target is never empty, since an empty one is read as a slash. -/
theorem readTarget_path_ne (text : List Char) : (readTarget text).1 ≠ "" := by
  simp only [readTarget]
  split
  · decide
  next nonempty =>
    intro empty
    exact nonempty (by simpa using congrArg String.toList empty)

/-- The path of a target ends at the first question mark or number sign, and has neither. -/
theorem ne_of_mem_readTarget {text : List Char} {char : Char}
    (member : char ∈ (readTarget text).1.toList) : char ≠ '?' ∧ char ≠ '#' := by
  simp only [readTarget] at member
  split at member
  · rw [show char = '/' by simpa using member]
    decide
  · rw [String.toList_ofList] at member
    have path := List.all_eq_true.mp List.all_takeWhile char member
    have kept := List.all_eq_true.mp List.all_takeWhile char (List.takeWhile_subset _ member)
    exact ⟨by simpa using path, by simpa using kept⟩

/-- The scheme and the authority are read back, and what follows the authority is added to it
up to the first character that ends it. -/
theorem readUri_append (scheme authority target : String) (plain : ':' ∉ scheme.toList)
    (clean : ∀ char ∈ authority.toList, endsAuthority char = false) :
    readUri (scheme ++ "://" ++ authority ++ target) =
      let read := readTarget (target.toList.dropWhile (!endsAuthority ·))
      ⟨scheme, authority ++ String.ofList (target.toList.takeWhile (!endsAuthority ·)), read.1,
        read.2⟩ := by
  have letters : ∀ letter ∈ scheme.toList, (letter != ':') = true := by
    intro letter member
    rw [bne_iff_ne]
    rintro rfl
    exact plain member
  have inside : ∀ char ∈ authority.toList, (!endsAuthority char) = true := by
    intro char member
    rw [clean char member]
    rfl
  have text : (scheme ++ "://" ++ authority ++ target).toList =
      scheme.toList ++ (':' :: '/' :: '/' :: (authority.toList ++ target.toList)) := by
    simp
  have schemeRead : (scheme ++ "://" ++ authority ++ target).toList.takeWhile (· != ':') =
      scheme.toList := by
    rw [text, List.takeWhile_append_of_pos letters]
    simp
  have restRead : (scheme ++ "://" ++ authority ++ target).toList.drop (scheme.toList.length + 3) =
      authority.toList ++ target.toList := by
    rw [text, List.drop_append]
    simp
  simp only [readUri, schemeRead, restRead, List.takeWhile_append_of_pos inside,
    List.dropWhile_append_of_pos inside, String.ofList_append, String.ofList_toList]

/-- A text adds nothing to an authority before it exactly when it begins with a path or a
query. -/
theorem takeWhile_eq_nil_iff_begins (text : String) (nonempty : text ≠ "")
    (whole : '#' ∉ text.toList) :
    text.toList.takeWhile (!endsAuthority ·) = [] ↔
      text.toList.head? = some '/' ∨ text.toList.head? = some '?' := by
  cases letters : text.toList with
  | nil => exact absurd (String.toList_eq_nil_iff.mp letters) nonempty
  | cons first rest =>
    have unfragmented : first ≠ '#' := by
      rintro rfl
      exact whole (by simp [letters])
    simp [List.takeWhile_cons, endsAuthority, unfragmented, or_iff_not_imp_left]

/-! ## The upstream of a validated configuration -/

/-- A request that is built goes to the upstream, with the client's path and query, exactly
when the client's text begins with its path or its query. -/
theorem built_targets_upstream_iff (parsers : Config.Externals)
    (cuts : parsers.CutsAuthorities) (routeId value : String) (mode : RuntimeMode)
    (adminListen : SocketAddr) (upstream : Upstream)
    (accepted : Config.validateUpstream parsers routeId value mode adminListen = .ok upstream)
    (externals : Externals) (context : TraceContext) (template : RequestTemplate)
    (wellFormed : template.uri.WellFormed) (body : Body) (requestId : String)
    (remoteAddr : SocketAddr) (request : UpstreamRequest)
    (built : buildUpstreamRequest externals context template body upstream requestId remoteAddr =
      .ok request) :
    TargetsUpstream upstream template.uri request.uri ↔ template.uri.BeginsTarget := by
  obtain ⟨_, _, validated⟩ := Config.validateUpstream_ok accepted
  obtain ⟨plain, clean⟩ := cuts value _ _ validated.uri
  obtain ⟨_, untraced, rfl⟩ := (buildUpstreamRequest_eq_ok _ _ _ _ _ _ _ _).mp built
  obtain ⟨_, authority, address, _, _, rfl⟩ := (untracedRequest_eq_ok _ _ _ _ _ _ _).mp untraced
  simp only [UpstreamRequest.traced, TargetsUpstream, Uri.BeginsTarget, upstreamTarget,
    readUri_append _ _ _ plain clean, UriParts.mk.injEq, true_and]
  cases form : template.uri.pathAndQuery with
  | none =>
    obtain ⟨path, query⟩ := wellFormed.absent form
    rw [path, query]
    simp [endsAuthority, readTarget]
  | some text =>
    obtain ⟨nonempty, whole, read⟩ := wellFormed.present text form
    have begins := takeWhile_eq_nil_iff_begins text nonempty whole
    simp only [Option.getD_some, Option.mem_some, forall_eq']
    rw [← begins]
    constructor
    · rintro ⟨unchanged, _⟩
      simpa using congrArg String.toList unchanged
    · intro nothing
      have kept : text.toList.dropWhile (!endsAuthority ·) = text.toList := by
        have both := List.takeWhile_append_dropWhile (p := (!endsAuthority ·)) (l := text.toList)
        rwa [nothing, List.nil_append] at both
      have path : template.uri.path ≠ "" := by
        have shown := readTarget_path_ne text.toList
        rwa [read] at shown
      rw [nothing, kept, read, if_neg path]
      exact ⟨by simp, rfl, rfl⟩

def tableUpstream : Upstream := ⟨"http", "10.0.0.7:3000"⟩

/-- The parsers of the table cut an authority where the standard does. -/
theorem tableExternals_cutsAuthorities : tableExternals.CutsAuthorities := by
  intro value scheme authority parsed
  obtain ⟨rfl, rfl⟩ : "http" = scheme ∧ "10.0.0.7:3000" = authority := by
    simpa [tableExternals] using parsed
  refine ⟨by decide, fun char member => ?_⟩
  have inside : "10.0.0.7:3000".toList.all (!endsAuthority ·) = true := by decide
  simpa using List.all_eq_true.mp inside char member

/-- The upstream of the table passes validation. -/
theorem tableUpstream_accepted :
    Config.validateUpstream tableExternals "orders" "http://10.0.0.7:3000" .demo
      ⟨.v4 0x7F000001, 9090, 0⟩ = .ok tableUpstream := rfl

/-- A query without a path, as in `http://gateway?page=1`, reaches the upstream. -/
theorem built_targets_upstream_of_query : ∃ request,
    buildUpstreamRequest Exchange.plainExternals Exchange.idleContext
        ⟨"GET", ⟨"/", some "page=1", some "?page=1"⟩, .http11, []⟩ .empty tableUpstream "r"
        Exchange.localAddr = .ok request ∧
      TargetsUpstream tableUpstream ⟨"/", some "page=1", some "?page=1"⟩ request.uri := by
  refine ⟨_, rfl, (built_targets_upstream_iff tableExternals tableExternals_cutsAuthorities
    "orders" "http://10.0.0.7:3000" .demo ⟨.v4 0x7F000001, 9090, 0⟩ tableUpstream
    tableUpstream_accepted Exchange.plainExternals Exchange.idleContext
    ⟨"GET", ⟨"/", some "page=1", some "?page=1"⟩, .http11, []⟩ ⟨by decide, ?_⟩ .empty "r"
    Exchange.localAddr _ rfl).mpr ?_⟩
  all_goals
    intro text present
    obtain rfl := Option.some.inj present
    decide

/-- `OPTIONS *` is matched to the route for every path. -/
def asteriskRequest : InboundRequest :=
  { method := "OPTIONS", uri := ⟨"*", none, some "*"⟩, version := .http11, headers := []
    body := .empty }

/-- The asterisk becomes part of the authority, while the log names the upstream. -/
theorem asterisk_joins_authority : ∃ handled request,
    asteriskRequest.uri.WellFormed ∧
      handle Exchange.plainExternals tableState asteriskRequest Exchange.localAddr
        { Exchange.uploadAround with selected := some (0, tableUpstream) } = .ok handled ∧
      handled.sent = [request] ∧
      readUri request.uri = ⟨"http", "10.0.0.7:3000*", "/", none⟩ ∧
      ¬ TargetsUpstream tableUpstream asteriskRequest.uri request.uri ∧
      handled.log.upstream = some "http://10.0.0.7:3000" := by
  have wellFormed : asteriskRequest.uri.WellFormed := by
    refine ⟨by decide, fun text present => ?_⟩
    obtain rfl := Option.some.inj present
    decide
  exact ⟨_, _, wellFormed, rfl, rfl, by decide +kernel, by rw [TargetsUpstream]; decide +kernel,
    by decide +kernel⟩

end TraceGate
