import Mathlib.Data.List.Basic
import TraceGate.Validation

/-!
# Which route a request gets

The router takes the best of the routes that match: the longest prefix, and among equally
long ones the first of the table. In a table that passed validation every prefix starts with
a slash, and then two matching prefixes of one length are the same text. So a route's place
in the table only matters among routes with the same prefix.
-/

namespace TraceGate

/-! ## The best of the matching routes -/

/-- A candidate exceeds another by a longer prefix, or by an earlier place with one as long. -/
theorem routeExceeds_iff (left right : Nat × Route) :
    routeExceeds left right = true ↔
      right.2.pathPrefix.utf8ByteSize < left.2.pathPrefix.utf8ByteSize ∨
        (left.2.pathPrefix.utf8ByteSize = right.2.pathPrefix.utf8ByteSize ∧
          left.1 < right.1) := by
  simp [routeExceeds]

/-- Nothing that was scanned exceeds the result.

By induction on the rest. What the loser of a comparison exceeds, the winner exceeds, so
whatever does not exceed the result of the rest need not be compared again. -/
theorem scan_maximal (first : Nat × Route) (rest : List (Nat × Route)) :
    ∀ candidate ∈ first :: rest, ¬ routeExceeds candidate
      (rest.foldl (fun best next => if routeExceeds best next then best else next) first) := by
  induction rest generalizing first with
  | nil =>
    intro candidate member
    rw [List.mem_singleton.mp member, List.foldl_nil, routeExceeds_iff]
    omega
  | cons next tail inductionHypothesis =>
    intro candidate member
    rw [List.foldl_cons]
    by_cases kept : routeExceeds first next = true
    · rw [if_pos kept]
      rcases List.mem_cons.mp member with rfl | later
      · exact inductionHypothesis _ _ List.mem_cons_self
      · rcases List.mem_cons.mp later with rfl | inTail
        · intro exceeds
          have best := inductionHypothesis first first List.mem_cons_self
          rw [routeExceeds_iff] at kept exceeds best
          omega
        · exact inductionHypothesis first candidate (List.mem_cons_of_mem _ inTail)
    · rw [if_neg kept]
      rcases List.mem_cons.mp member with rfl | later
      · intro exceeds
        have best := inductionHypothesis next next List.mem_cons_self
        rw [routeExceeds_iff] at kept exceeds best
        omega
      · exact inductionHypothesis next candidate later

/-- The route at a position of the table matches a host and a path. -/
structure MatchesAt (routes : List Route) (host : Option String) (path : String)
    (candidate : Nat × Route) : Prop where
  listed : routes[candidate.1]? = some candidate.2
  host : hostMatches candidate.2 host = true
  path : pathMatches candidate.2.pathPrefix path = true

/-- The candidates are the positions whose route matches the host and the path. -/
theorem mem_candidates_iff (routes : List Route) (host : Option String) (path : String)
    (candidate : Nat × Route) :
    candidate ∈ (routes.zipIdx.map Prod.swap).filter (fun candidate =>
        hostMatches candidate.2 host && pathMatches candidate.2.pathPrefix path) ↔
      MatchesAt routes host path candidate := by
  have listed : candidate ∈ routes.zipIdx.map Prod.swap ↔
      routes[candidate.1]? = some candidate.2 := by
    obtain ⟨index, route⟩ := candidate
    simp [List.mem_zipIdx_iff_getElem?]
  rw [List.mem_filter, listed, Bool.and_eq_true]
  exact ⟨fun ⟨found, hosted, pathed⟩ => ⟨found, hosted, pathed⟩,
    fun found => ⟨found.listed, found.host, found.path⟩⟩

/-- The best of some candidates is one of them, and none exceeds it. -/
theorem maxRoute_maximal (candidates : List (Nat × Route)) (best : Nat × Route)
    (chosen : maxRoute candidates = some best) :
    best ∈ candidates ∧ ∀ candidate ∈ candidates, ¬ routeExceeds candidate best := by
  cases candidates with
  | nil => exact absurd chosen (by simp [maxRoute])
  | cons first rest =>
    obtain rfl := Option.some.inj chosen
    exact ⟨scan_mem first rest, scan_maximal first rest⟩

/-- Two positions of which neither exceeds the other are the same. -/
theorem MatchesAt.eq_of_not_exceeds {routes : List Route} {host : Option String} {path : String}
    {left right : Nat × Route} (first : MatchesAt routes host path left)
    (second : MatchesAt routes host path right) (notLeft : ¬ routeExceeds left right)
    (notRight : ¬ routeExceeds right left) : left = right := by
  rw [routeExceeds_iff] at notLeft notRight
  have index : left.1 = right.1 := by omega
  have route := first.listed
  rw [index, second.listed] at route
  exact Prod.ext index (Option.some.inj route).symm

/-- The router finds a route exactly when it is at a matching position that no other
matching position exceeds. -/
theorem matchRoute_eq_some_iff (routes : List Route) (hostHeader : Option String)
    (path : String) (route : Route) :
    matchRoute routes hostHeader path = some route ↔
      ∃ index, MatchesAt routes (hostHeader.bind normalizeHost) path (index, route) ∧
        ∀ candidate, MatchesAt routes (hostHeader.bind normalizeHost) path candidate →
          ¬ routeExceeds candidate (index, route) := by
  simp only [matchRoute, Option.map_eq_some_iff]
  have members := mem_candidates_iff routes (hostHeader.bind normalizeHost) path
  generalize (routes.zipIdx.map Prod.swap).filter _ = candidates at members
  constructor
  · rintro ⟨best, chosen, rfl⟩
    obtain ⟨member, maximal⟩ := maxRoute_maximal candidates best chosen
    exact ⟨best.1, (members best).mp member,
      fun candidate matching => maximal candidate ((members candidate).mpr matching)⟩
  · rintro ⟨index, matching, maximal⟩
    cases chosen : maxRoute candidates with
    | none =>
      cases candidates with
      | nil => exact absurd ((members (index, route)).mpr matching) List.not_mem_nil
      | cons first rest => exact absurd chosen (by simp [maxRoute])
    | some best =>
      obtain ⟨member, bestMaximal⟩ := maxRoute_maximal candidates best chosen
      have bestMatching := (members best).mp member
      have same := bestMatching.eq_of_not_exceeds matching (maximal best bestMatching)
        (bestMaximal (index, route) ((members (index, route)).mpr matching))
      exact ⟨best, rfl, congrArg Prod.snd same⟩

/-- The router finds none exactly when nothing matches. -/
theorem matchRoute_eq_none_iff (routes : List Route) (hostHeader : Option String)
    (path : String) :
    matchRoute routes hostHeader path = none ↔
      ∀ candidate, ¬ MatchesAt routes (hostHeader.bind normalizeHost) path candidate := by
  simp only [matchRoute, Option.map_eq_none_iff]
  have members := mem_candidates_iff routes (hostHeader.bind normalizeHost) path
  generalize (routes.zipIdx.map Prod.swap).filter _ = candidates at members
  cases candidates with
  | nil =>
    simp only [maxRoute, true_iff]
    exact fun candidate matching => List.not_mem_nil ((members candidate).mpr matching)
  | cons first rest =>
    simp only [maxRoute, reduceCtorEq, false_iff, not_forall, not_not]
    exact ⟨first, (members first).mp List.mem_cons_self⟩

/-! ## What validation says of a table -/

namespace Config

/-- What routing relies on in a validated route. -/
structure AcceptedRoute (route : Route) : Prop where
  rooted : Text.startsWith route.pathPrefix "/" = true
  upstreams : 0 < route.upstreams.length

variable {externals : Externals} {mode : RuntimeMode} {adminListen : SocketAddr}
  {storage : StorageConfig}

/-- A validated route has the identifier that was written. -/
theorem ValidatedRoute.sameId {seen : List String} {raw : RouteConfig} {route : Route}
    (validated : ValidatedRoute externals mode adminListen storage seen raw route) :
    route.id = raw.id := by
  rw [validated.result]

/-- A validated route is fit for routing: its prefix was checked, and each of the upstreams
that were written has become one of its own. -/
theorem ValidatedRoute.accepted {seen : List String} {raw : RouteConfig} {route : Route}
    (validated : ValidatedRoute externals mode adminListen storage seen raw route) :
    AcceptedRoute route := by
  constructor
  · rw [validated.result]
    exact validated.rooted
  · rw [← validated.upstreams.length_eq]
    exact List.length_pos_iff.mpr validated.nonempty

/-- The routes of a validated configuration are fit for routing, and no two of them have one
identifier.

The loop over the routes checks each with the identifiers before it, and refuses those. -/
theorem Validated.acceptedRoutes {raw : RawConfig} {config : AppConfig}
    (validated : Validated externals raw config) :
    (∀ route ∈ config.routes, AcceptedRoute route) ∧ (config.routes.map Route.id).Nodup := by
  have table := validateRoutes_ok validated.routes
  constructor
  · intro route member
    obtain ⟨_, _, _, passed⟩ := table.of_mem member
    exact (validateRoute_ok passed).accepted
  · rw [table.map_eq Route.id fun _ _ _ passed => (validateRoute_ok passed).sameId]
    exact (table.nodup_names fun _ _ _ passed => (validateRoute_ok passed).fresh).1

end Config

/-! ## The longest matching prefix -/

/-- The route matches a `Host` header and a path. -/
def Route.Matches (route : Route) (hostHeader : Option String) (path : String) : Prop :=
  hostMatches route (hostHeader.bind normalizeHost) = true ∧
    pathMatches route.pathPrefix path = true

instance (route : Route) (hostHeader : Option String) (path : String) :
    Decidable (route.Matches hostHeader path) :=
  inferInstanceAs (Decidable (_ ∧ _))

/-- A text that another one starts with, and that is as long, is the other one. -/
theorem eq_of_isPrefix_of_size {left right : String} (starts : left.toList <+: right.toList)
    (size : left.utf8ByteSize = right.utf8ByteSize) : left = right := by
  obtain ⟨rest, joined⟩ := starts
  have whole : right = left ++ String.ofList rest := by
    apply String.toList_injective
    simp [← joined]
  rw [whole, String.utf8ByteSize_append] at size
  have empty : (String.ofList rest).utf8ByteSize = 0 := by omega
  rw [whole, String.utf8ByteSize_eq_zero_iff.mp empty, String.append_empty]

/-- A rooted prefix of one byte is the root. -/
theorem eq_root_of_size {start : String} (rooted : Text.startsWith start "/" = true)
    (size : start.utf8ByteSize = ("/" : String).utf8ByteSize) : start = "/" :=
  (eq_of_isPrefix_of_size (List.isPrefixOf_iff_prefix.mp rooted) size.symm).symm

/-- Apart from the root, a matching prefix is one in the literal sense. -/
theorem isPrefix_of_pathMatches {start path : String} (deeper : start ≠ "/")
    (matching : pathMatches start path = true) : start.toList <+: path.toList := by
  simp only [pathMatches, Bool.or_eq_true, beq_iff_eq] at matching
  rcases matching with (root | same) | stripped
  · exact absurd root deeper
  · exact same ▸ List.prefix_refl _
  · by_cases starts : Text.startsWith path start = true
    · exact List.isPrefixOf_iff_prefix.mp starts
    · simp [Text.stripStart, starts] at stripped

/-- Two matching prefixes of one length are the same: both are the root, or both are the
beginning of the path. -/
theorem pathPrefix_eq_of_size {left right path : String}
    (leftRooted : Text.startsWith left "/" = true) (rightRooted : Text.startsWith right "/" = true)
    (leftMatches : pathMatches left path = true) (rightMatches : pathMatches right path = true)
    (size : left.utf8ByteSize = right.utf8ByteSize) : left = right := by
  by_cases leftRoot : left = "/"
  · subst leftRoot
    exact (eq_root_of_size rightRooted size.symm).symm
  · by_cases rightRoot : right = "/"
    · subst rightRoot
      exact eq_root_of_size leftRooted size
    · have leftStarts := isPrefix_of_pathMatches leftRoot leftMatches
      have rightStarts := isPrefix_of_pathMatches rightRoot rightMatches
      rcases List.prefix_or_prefix_of_prefix leftStarts rightStarts with shorter | shorter
      · exact eq_of_isPrefix_of_size shorter size
      · exact (eq_of_isPrefix_of_size shorter size.symm).symm

section Tables

variable {routes reordered : List Route} {hostHeader : Option String} {path : String}
  {route : Route}

/-- A position matches exactly when its route does. -/
theorem matchesAt_iff (index : Nat) :
    MatchesAt routes (hostHeader.bind normalizeHost) path (index, route) ↔
      routes[index]? = some route ∧ route.Matches hostHeader path :=
  ⟨fun found => ⟨found.listed, found.host, found.path⟩,
    fun ⟨listed, host, pathed⟩ => ⟨listed, host, pathed⟩⟩

/-- The router finds none exactly when no route matches. -/
theorem matchRoute_eq_none_iff_forall :
    matchRoute routes hostHeader path = none ↔
      ∀ route ∈ routes, ¬ route.Matches hostHeader path := by
  rw [matchRoute_eq_none_iff]
  constructor
  · intro nothing route member matching
    obtain ⟨index, listed⟩ := List.mem_iff_getElem?.mp member
    exact nothing (index, route) ((matchesAt_iff index).mpr ⟨listed, matching⟩)
  · rintro nothing ⟨index, route⟩ found
    obtain ⟨listed, matching⟩ := (matchesAt_iff index).mp found
    exact nothing route (List.mem_of_getElem? listed) matching

/-- The chosen route matches, no matching route has a longer prefix, and no matching route
with a prefix as long is listed before it. -/
theorem matchRoute_eq_some_iff_first :
    matchRoute routes hostHeader path = some route ↔
      ∃ index : Nat, routes[index]? = some route ∧ route.Matches hostHeader path ∧
        ∀ (position : Nat) (other : Route), routes[position]? = some other →
          other.Matches hostHeader path →
          other.pathPrefix.utf8ByteSize ≤ route.pathPrefix.utf8ByteSize ∧
            (other.pathPrefix.utf8ByteSize = route.pathPrefix.utf8ByteSize →
              index ≤ position) := by
  rw [matchRoute_eq_some_iff]
  constructor
  · rintro ⟨index, found, maximal⟩
    obtain ⟨listed, matching⟩ := (matchesAt_iff index).mp found
    refine ⟨index, listed, matching, ?_⟩
    intro position other otherListed otherMatches
    have notBetter := maximal (position, other)
      ((matchesAt_iff position).mpr ⟨otherListed, otherMatches⟩)
    simp only [routeExceeds_iff] at notBetter
    constructor
    · omega
    · intro size
      omega
  · rintro ⟨index, listed, matching, best⟩
    refine ⟨index, (matchesAt_iff index).mpr ⟨listed, matching⟩, ?_⟩
    rintro ⟨position, other⟩ found
    obtain ⟨otherListed, otherMatches⟩ := (matchesAt_iff position).mp found
    have notBetter := best position other otherListed otherMatches
    simp only [routeExceeds_iff]
    omega

/-- Among the routes with its own prefix, the chosen route is the first that matches.

An earlier one that matches would have a prefix as long and an earlier place, and so would
exceed it. -/
theorem find_of_matchRoute (chosen : matchRoute routes hostHeader path = some route) :
    (routes.filter fun other => decide (other.pathPrefix = route.pathPrefix)).find?
      (fun other => decide (other.Matches hostHeader path)) = some route := by
  obtain ⟨index, listed, matching, best⟩ := matchRoute_eq_some_iff_first.mp chosen
  obtain ⟨inRange, same⟩ := List.getElem?_eq_some_iff.mp listed
  have split : routes = routes.take index ++ route :: routes.drop (index + 1) := by
    rw [← same, List.getElem_cons_drop, List.take_append_drop]
  rw [split, List.filter_append, List.filter_cons_of_pos (by simp)]
  refine List.find?_eq_some_iff_append.mpr ⟨by simpa using matching, _, _, rfl, ?_⟩
  intro other member
  obtain ⟨earlier, samePrefix⟩ := List.mem_filter.mp member
  obtain ⟨position, otherListed⟩ := List.mem_iff_getElem?.mp earlier
  rw [List.getElem?_take] at otherListed
  split at otherListed
  next before =>
    have samePrefix := of_decide_eq_true samePrefix
    by_cases otherMatches : other.Matches hostHeader path
    · have later := (best position other otherListed otherMatches).2 (by rw [samePrefix])
      omega
    · simp [otherMatches]
  next => exact absurd otherListed (by simp)

/-- No two routes of the table match with different prefixes of one length. -/
def PrefixesApart (routes : List Route) (hostHeader : Option String) (path : String) : Prop :=
  ∀ left ∈ routes, ∀ right ∈ routes, left.Matches hostHeader path →
    right.Matches hostHeader path →
    left.pathPrefix.utf8ByteSize = right.pathPrefix.utf8ByteSize →
    left.pathPrefix = right.pathPrefix

/-- Reordering a table changes nothing as long as routes with one prefix keep their order.
The two chosen routes have equally long, hence equal prefixes, and each is the first match
among the routes with that prefix. -/
theorem matchRoute_of_reordered (apart : PrefixesApart routes hostHeader path)
    (members : reordered.Perm routes)
    (kept : ∀ start, (reordered.filter fun other => decide (other.pathPrefix = start)) =
      routes.filter fun other => decide (other.pathPrefix = start)) :
    matchRoute reordered hostHeader path = matchRoute routes hostHeader path := by
  cases chosen : matchRoute routes hostHeader path with
  | none =>
    rw [matchRoute_eq_none_iff_forall] at chosen ⊢
    intro route member
    exact chosen route (members.mem_iff.mp member)
  | some route =>
    obtain ⟨index, listed, matching, best⟩ := matchRoute_eq_some_iff_first.mp chosen
    have member := List.mem_of_getElem? listed
    cases other : matchRoute reordered hostHeader path with
    | none =>
      exact absurd matching
        (matchRoute_eq_none_iff_forall.mp other route (members.mem_iff.mpr member))
    | some found =>
      obtain ⟨position, foundListed, foundMatches, foundBest⟩ :=
        matchRoute_eq_some_iff_first.mp other
      have foundMember := members.mem_iff.mp (List.mem_of_getElem? foundListed)
      obtain ⟨inReordered, inReorderedListed⟩ :=
        List.mem_iff_getElem?.mp (members.mem_iff.mpr member)
      obtain ⟨inRoutes, inRoutesListed⟩ := List.mem_iff_getElem?.mp foundMember
      have notLonger := (best inRoutes found inRoutesListed foundMatches).1
      have notShorter := (foundBest inReordered route inReorderedListed matching).1
      have samePrefix := apart found foundMember route member foundMatches matching
        (Nat.le_antisymm notLonger notShorter)
      have first := find_of_matchRoute chosen
      have otherFirst := find_of_matchRoute other
      rw [samePrefix, kept, first] at otherFirst
      exact otherFirst.symm

/-- Accepted routes that match one path with prefixes of one size have the same prefix. -/
theorem prefixesApart_of_accepted (accepted : ∀ route ∈ routes, Config.AcceptedRoute route) :
    PrefixesApart routes hostHeader path := by
  intro left leftMember right rightMember leftMatches rightMatches size
  exact pathPrefix_eq_of_size (accepted left leftMember).rooted (accepted right rightMember).rooted
    leftMatches.2 rightMatches.2 size

end Tables

/-- In a validated table a request gets a route exactly when one matches, and then the
matching route with the longest prefix, the first listed of those. Matching prefixes of one
length are equal, so only the order among routes with one prefix matters. -/
theorem matchRoute_longest_first (externals : Config.Externals) (raw : Config.RawConfig)
    (config : AppConfig) (accepted : raw.validate externals = .ok config)
    (hostHeader : Option String) (path : String) :
    (matchRoute config.routes hostHeader path = none ↔
      ∀ route ∈ config.routes, ¬ route.Matches hostHeader path) ∧
    (∀ route, matchRoute config.routes hostHeader path = some route ↔
      ∃ index : Nat, config.routes[index]? = some route ∧ route.Matches hostHeader path ∧
        ∀ (position : Nat) (other : Route), config.routes[position]? = some other →
          other.Matches hostHeader path →
          other.pathPrefix.utf8ByteSize ≤ route.pathPrefix.utf8ByteSize ∧
            (other.pathPrefix.utf8ByteSize = route.pathPrefix.utf8ByteSize →
              index ≤ position)) ∧
    (∀ left ∈ config.routes, ∀ right ∈ config.routes, left.Matches hostHeader path →
      right.Matches hostHeader path →
      left.pathPrefix.utf8ByteSize = right.pathPrefix.utf8ByteSize →
      left.pathPrefix = right.pathPrefix) ∧
    ∀ reordered, reordered.Perm config.routes →
      (∀ start, (reordered.filter fun other => decide (other.pathPrefix = start)) =
        config.routes.filter fun other => decide (other.pathPrefix = start)) →
      matchRoute reordered hostHeader path = matchRoute config.routes hostHeader path := by
  have each := ((Config.validate_ok accepted).acceptedRoutes).1
  refine ⟨matchRoute_eq_none_iff_forall, fun route => matchRoute_eq_some_iff_first,
    prefixesApart_of_accepted each, ?_⟩
  intro reordered members kept
  exact matchRoute_of_reordered (prefixesApart_of_accepted each) members kept

/-! Two routes for every host, the shorter prefix listed first. -/

def tableExternals : Config.Externals where
  envVar _ := none
  isFile _ := .ok true
  parseToml _ := .ok []
  parseUrl _ := .ok ⟨"http", some (.ipv4 0x0A000007), some 3000, "/", none, none⟩
  parseUri _ := .ok (some "http", some "10.0.0.7:3000")

def tableEntry (id start : String) : Config.RouteConfig :=
  ⟨id, ["*"], start, ["http://10.0.0.7:3000"], 3000, 0, 100, 3, 10000, "off", 500, false, 0⟩

def tableRaw : Config.RawConfig :=
  { server := ⟨"demo", "127.0.0.1:8080", none, ⟨false, none, none⟩⟩
    admin := .default, upstreamTls := .default, storage := .default, redaction := .default
    logging := .default, observability := .default
    routes := [tableEntry "site" "/", tableEntry "orders" "/orders"]
    plugins := [] }

def tableRoute (id start : String) : Route :=
  { id := id, hosts := ["*"], pathPrefix := start, upstreams := [⟨"http", "10.0.0.7:3000"⟩]
    timeout := fromMillis 3000, retries := 0, capture := ⟨.off, fromMillis 500, false, 0⟩
    concurrencyLimit := 100, passiveHealthFailures := 3
    passiveHealthCooldown := fromMillis 10000 }

def tableConfig : AppConfig :=
  { mode := .demo, listen := ⟨.v4 0x7F000001, 8080, 0⟩
    adminListen := ⟨.v4 0x7F000001, 9090, 0⟩, serverTls := ⟨false, none, none⟩
    admin := ⟨some "TRACEGATE_ADMIN_TOKEN", none, false⟩, upstreamTls := ⟨none⟩
    storage := StorageConfig.default, redaction := RedactionConfig.default
    observability := ⟨"tracegate", "local", none, true, true⟩
    routes := [tableRoute "site" "/", tableRoute "orders" "/orders"], plugins := [] }

/-- The sample table is accepted. -/
theorem tableRaw_accepted : tableRaw.validate tableExternals = .ok tableConfig := rfl

/-- The longer prefix is chosen, and listing the two the other way round changes nothing. -/
theorem matchRoute_longest_first_of_table :
    tableRaw.validate tableExternals = .ok tableConfig ∧
      matchRoute tableConfig.routes none "/orders/7" = some (tableRoute "orders" "/orders") ∧
      matchRoute [tableRoute "orders" "/orders", tableRoute "site" "/"] none "/orders/7" =
        matchRoute tableConfig.routes none "/orders/7" := by
  refine ⟨tableRaw_accepted, rfl, ?_⟩
  have unordered := (matchRoute_longest_first tableExternals tableRaw tableConfig
    tableRaw_accepted none "/orders/7").2.2.2
  refine unordered _ (List.Perm.swap _ _ []) fun start => ?_
  by_cases root : "/" = start
  · subst root
    rfl
  · by_cases deeper : "/orders" = start
    · subst deeper
      rfl
    · simp [tableConfig, tableRoute, root, deeper]

end TraceGate
