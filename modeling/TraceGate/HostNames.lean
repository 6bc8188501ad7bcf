import TraceGate.Config
import TraceGate.TextLaws

/-!
# Host names

The router compares the normalized `Host` header with the hosts of a route. The header is
trimmed, its port is dropped or everything after the bracket of an IPv6 literal, and the
rest is trimmed again and lowercased. On the characters of a text this is one function,
and an empty result means that there is no host. It does not mind a port, the case of
letters, or being applied again.

The hosts of a route are compared as they are written, up to the case of letters. What
the validator accepts is only known not to be empty and to hold no slash and no colon.
-/

namespace TraceGate

open Text

/-- The characters of a normalized host; none of them if there is no host. -/
def hostChars (chars : List Char) : List Char :=
  let host := trimChars chars
  let withoutPort :=
    if host.head? = some '[' then host.takeWhile (· != ']') ++ [']']
    else host.takeWhile (· != ':')
  (trimChars withoutPort).map Char.toLower

/-- The part of a trimmed host before its port. -/
def withoutPort (host : String) : String :=
  if startsWith host "[" then ((split ']' host).head?.getD "") ++ "]"
  else (split ':' host).head?.getD ""

/-- A text starts with the opening bracket exactly when its first character is one. -/
theorem startsWith_bracket (value : String) :
    startsWith value "[" = true ↔ value.toList.head? = some '[' := by
  have sign : "[".toList = ['['] := rfl
  rw [startsWith, sign]
  cases value.toList with
  | nil => simp
  | cons char rest =>
    simp only [List.isPrefixOf, Bool.and_true, beq_iff_eq, List.head?_cons, Option.some.injEq]
    exact eq_comm

/-- A text that starts with the opening bracket is the bracket and a rest. -/
theorem exists_opened {value : String} (starts : startsWith value "[" = true) :
    ∃ rest, value.toList = '[' :: rest :=
  List.head?_eq_some_iff.mp ((startsWith_bracket value).mp starts)

/-- What `normalize_host` computes step by step on texts is `hostChars` on their characters.

Both branches are followed: a bracketed host is cut behind its closing bracket, any other at its
first colon. -/
theorem toList_withoutPort (host : String) :
    (toAsciiLowercase (trim (withoutPort (trim host)))).toList = hostChars host.toList := by
  have opens : startsWith (trim host) "[" = true ↔ (trimChars host.toList).head? = some '[' := by
    rw [startsWith_bracket, toList_trim]
  rw [toList_toAsciiLowercase, toList_trim, withoutPort, hostChars]
  by_cases bracket : (trimChars host.toList).head? = some '['
  · have opened := opens.mpr bracket
    rw [if_pos opened, if_pos bracket, String.toList_append, toList_head_split, toList_trim]
    rfl
  · have unopened : ¬ startsWith (trim host) "[" = true := mt opens.mp bracket
    rw [if_neg unopened, if_neg bracket, toList_head_split, toList_trim]

/-- Nothing is left of a blank host. -/
theorem hostChars_of_blank (chars : List Char) (blank : trimChars chars = []) :
    hostChars chars = [] := by
  rw [hostChars, blank]
  rfl

/-- A text is empty exactly when it has no characters. -/
theorem isEmpty_iff_toList (value : String) : value.isEmpty = true ↔ value.toList = [] := by
  simp

/-- `normalize_host` on characters: nothing for a host of which nothing is left, and what is
left otherwise.

A host that is blank at the start is caught by the first check, and one that is blank after its
port is cut by the second; both have no characters in `hostChars`. -/
theorem normalizeHost_eq (host : String) :
    normalizeHost host =
      if hostChars host.toList = [] then none
      else some (String.ofList (hostChars host.toList)) := by
  have unfolded : normalizeHost host =
      if (trim host).isEmpty then none
      else if (toAsciiLowercase (trim (withoutPort (trim host)))).isEmpty then none
      else some (toAsciiLowercase (trim (withoutPort (trim host)))) := rfl
  have chars := toList_withoutPort host
  rw [unfolded]
  generalize toAsciiLowercase (trim (withoutPort (trim host))) = normalized at chars ⊢
  have trimmed : (trim host).isEmpty = true ↔ trimChars host.toList = [] := by
    rw [isEmpty_iff_toList, toList_trim]
  by_cases blank : trimChars host.toList = []
  · have empty := trimmed.mpr blank
    rw [if_pos empty, if_pos (hostChars_of_blank _ blank)]
  · have filled : ¬ (trim host).isEmpty = true := mt trimmed.mp blank
    rw [if_neg filled, ← chars]
    by_cases empty : normalized.toList = []
    · have isEmpty := (isEmpty_iff_toList normalized).mpr empty
      rw [if_pos isEmpty, if_pos empty]
    · have notEmpty : ¬ normalized.isEmpty = true := mt (isEmpty_iff_toList normalized).mp empty
      rw [if_neg notEmpty, if_neg empty, String.ofList_toList]

/-! ## Ports, brackets and case -/

/-- A bracketed literal has no white space at its ends, which are the two brackets. -/
theorem bare_bracketed (inner : List Char) : Bare ('[' :: (inner ++ [']'])) := by
  constructor
  · intro char found
    obtain rfl := Option.some.inj found
    rfl
  · intro char found
    rw [← List.cons_append, List.getLast?_append_of_ne_nil _ (by simp)] at found
    obtain rfl := Option.some.inj found
    rfl

/-- A colon and digits have no white space at their ends.

The last character is the colon or a digit, and a digit is no white space. -/
theorem bare_port (digits : List Char) (decimal : ∀ digit ∈ digits, digit.isDigit = true) :
    Bare (':' :: digits) := by
  have plain : ∀ digit : Char, digit.isDigit = true → isWhitespace digit = false := by
    intro digit isDigit
    simp only [Char.isDigit, Bool.and_eq_true, decide_eq_true_eq, ge_iff_le,
      UInt32.le_iff_toNat_le] at isDigit
    have code : 48 ≤ digit.toNat ∧ digit.toNat ≤ 57 := isDigit
    simp only [isWhitespace, Bool.or_eq_false_iff, Bool.and_eq_false_iff, decide_eq_false_iff_not,
      beq_eq_false_iff_ne]
    omega
  constructor
  · intro char found
    obtain rfl := Option.some.inj found
    rfl
  · intro char found
    rcases List.mem_cons.mp (List.mem_of_getLast? found) with rfl | digit
    · rfl
    · exact plain char (decimal char digit)

/-- A host without a bracket is cut at the first colon, trimmed and lowercased. -/
theorem hostChars_unbracketed (chars : List Char) (plain : (trimChars chars).head? ≠ some '[') :
    hostChars chars = (trimChars ((trimChars chars).takeWhile (· != ':'))).map Char.toLower := by
  rw [hostChars, if_neg plain]

/-- A bracketed host is cut at the first closing bracket, which is put back. -/
theorem hostChars_bracketed (chars inner rest : List Char)
    (trimmed : trimChars chars = '[' :: (inner ++ ']' :: rest)) (unclosed : ']' ∉ inner) :
    hostChars chars = ('[' :: (inner ++ [']'])).map Char.toLower := by
  have cut : ('[' :: (inner ++ ']' :: rest)).takeWhile (· != ']') = '[' :: inner := by
    rw [← List.cons_append]
    exact takeWhile_append_separator ']' _ rest (by simp [unclosed])
  have bracket : (trimChars chars).head? = some '[' := by rw [trimmed]; rfl
  rw [hostChars, if_pos bracket, trimmed, cut, List.cons_append,
    trimChars_of_bare (bare_bracketed inner)]

/-- A port after a host without a colon is dropped.

The host may have blanks around it: what is trimmed in front of the colon is trimmed again after
the cut. -/
theorem hostChars_port (chars digits : List Char) (colonless : ':' ∉ chars)
    (plain : (trimChars chars).head? ≠ some '[')
    (decimal : ∀ digit ∈ digits, digit.isDigit = true) :
    hostChars (chars ++ ':' :: digits) = hostChars chars := by
  have started : trimChars (chars ++ ':' :: digits) =
      chars.dropWhile isWhitespace ++ ':' :: digits :=
    trimChars_append chars _ (bare_port digits decimal) (by simp)
  have colonlessStart : ':' ∉ chars.dropWhile isWhitespace := fun member =>
    colonless ((List.dropWhile_sublist _).subset member)
  have cut : (trimChars (chars ++ ':' :: digits)).takeWhile (· != ':') =
      chars.dropWhile isWhitespace := by
    rw [started, takeWhile_append_separator ':' _ _ colonlessStart]
  have colonlessTrimmed : ':' ∉ trimChars chars := fun member =>
    colonlessStart ((List.rdropWhile_prefix _ _).subset member)
  have plainPort : (trimChars (chars ++ ':' :: digits)).head? ≠ some '[' := by
    rw [head?_trimChars] at plain
    rw [started]
    cases start : chars.dropWhile isWhitespace with
    | nil => simp
    | cons first rest =>
      rw [start] at plain
      exact plain
  rw [hostChars_unbracketed _ plainPort, hostChars_unbracketed _ plain, cut,
    takeWhile_of_not_mem ':' _ colonlessTrimmed, trimChars_trimChars, trimChars_dropWhile]

/-- The case of letters does not matter.

Lowercasing moves neither a colon nor a bracket nor white space, so the cuts fall at the same
places. -/
theorem hostChars_map_toLower (chars : List Char) :
    hostChars (chars.map Char.toLower) = hostChars chars := by
  have twice : Char.toLower ∘ Char.toLower = Char.toLower := funext toLower_idem
  have sign : ('[' : Char).toLower = '[' := rfl
  have first : (trimChars (chars.map Char.toLower)).head? = some '[' ↔
      (trimChars chars).head? = some '[' := by
    rw [trimChars_map_toLower, List.head?_map]
    cases (trimChars chars).head? with
    | none => simp
    | some char => simpa using toLower_eq_iff (by decide) char
  unfold hostChars
  by_cases bracket : (trimChars chars).head? = some '['
  · simp only [if_pos bracket, if_pos (first.mpr bracket)]
    have closing : [']'] = [']'].map Char.toLower := rfl
    rw [trimChars_map_toLower, takeWhile_map_toLower (by decide), closing, ← List.map_append,
      trimChars_map_toLower, List.map_map, twice]
    rfl
  · simp only [if_neg bracket, if_neg fun lowered => bracket (first.mp lowered)]
    rw [trimChars_map_toLower, takeWhile_map_toLower (by decide), trimChars_map_toLower,
      List.map_map, twice]

/-- Normalizing again changes nothing.

Proof: lowercasing does not matter, so only the cut is repeated. A bracketed host is cut
at the bracket that closes it. Another host holds no colon after the cut, and it starts
as the trimmed host does, so with no bracket. -/
theorem hostChars_hostChars (chars : List Char) :
    hostChars (hostChars chars) = hostChars chars := by
  cases trimmed : trimChars chars with
  | nil =>
    rw [hostChars_of_blank chars trimmed]
    rfl
  | cons first rest =>
    by_cases bracket : first = '['
    · subst bracket
      let inner := rest.takeWhile (· != ']')
      have cut : hostChars chars = ('[' :: (inner ++ [']'])).map Char.toLower := by
        have starts : (trimChars chars).head? = some '[' := by rw [trimmed]; rfl
        rw [hostChars, if_pos starts, trimmed]
        exact congrArg (List.map Char.toLower) (trimChars_of_bare (bare_bracketed inner))
      have unclosed : ']' ∉ inner := fun member => by
        simpa using List.mem_takeWhile_imp member
      rw [cut, hostChars_map_toLower]
      exact hostChars_bracketed _ inner [] (trimChars_of_bare (bare_bracketed inner)) unclosed
    · have plain : (trimChars chars).head? ≠ some '[' := by simpa [trimmed] using bracket
      let kept := trimChars ((trimChars chars).takeWhile (· != ':'))
      have colonless : ':' ∉ kept := fun member => by
        have inCut := (List.dropWhile_sublist _).subset ((List.rdropWhile_prefix _ _).subset member)
        simpa using List.mem_takeWhile_imp inCut
      have starts : kept.head? ≠ some '[' := by
        rw [head?_trimChars, trimmed]
        by_cases colon : first = ':'
        · simp [colon]
        · have visible : isWhitespace first = false :=
            (bare_trimChars chars).first first (by rw [trimmed]; rfl)
          simpa [colon, visible] using bracket
      have again : trimChars kept = kept := trimChars_trimChars _
      rw [hostChars_unbracketed chars plain, hostChars_map_toLower,
        hostChars_unbracketed kept (by rw [again]; exact starts), again,
        takeWhile_of_not_mem ':' kept colonless, again]

/-! ## Hosts with a port -/

/-- A host that a port may follow: it holds no colon and does not start with a bracket,
or it is a bracketed literal. -/
def TakesPort (host : String) : Prop :=
  (':' ∉ host.toList ∧ startsWith (trim host) "[" = false) ∨
    ∃ inner : String, host = "[" ++ inner ++ "]" ∧ ']' ∉ inner.toList

/-- The characters of a text in brackets. -/
theorem toList_bracketed (inner : String) :
    ("[" ++ inner ++ "]").toList = '[' :: (inner.toList ++ [']']) := by
  simp

/-- The characters of a host with a port. -/
theorem toList_withPort (host digits : String) :
    (host ++ ":" ++ digits).toList = host.toList ++ ':' :: digits.toList := by
  simp

/-- Nothing is trimmed off a bare host with a port, since neither the host nor the port has
white space at its ends. -/
theorem trimChars_withPort (host digits : String) (bare : Bare host.toList)
    (decimal : ∀ digit ∈ digits.toList, digit.isDigit = true) :
    trimChars (host ++ ":" ++ digits).toList = host.toList ++ ':' :: digits.toList := by
  rw [toList_withPort, trimChars_append _ _ (bare_port digits.toList decimal) (by simp),
    dropWhile_of_first _ bare.first]

/-- A trimmed host has no white space at its ends. -/
theorem bare_trim (host : String) : Bare (trim host).toList := by
  rw [toList_trim]
  exact bare_trimChars host.toList

/-- A port does not change what is compared, for a host that can take one.

Such a host has no colon, or is a bracketed literal whose bracket is closed by the cut. -/
theorem hostChars_withPort (host digits : String) (takes : TakesPort host)
    (decimal : ∀ digit ∈ digits.toList, digit.isDigit = true) :
    hostChars (host ++ ":" ++ digits).toList = hostChars host.toList := by
  rcases takes with ⟨colonless, plain⟩ | ⟨inner, rfl, unclosed⟩
  · rw [toList_withPort]
    refine hostChars_port _ _ colonless ?_ decimal
    intro bracket
    rw [(startsWith_bracket _).mpr
      ((congrArg List.head? (toList_trim host)).trans bracket)] at plain
    exact Bool.noConfusion plain
  · have bare : Bare ("[" ++ inner ++ "]").toList := by
      rw [toList_bracketed]
      exact bare_bracketed inner.toList
    have started : trimChars ("[" ++ inner ++ "]" ++ ":" ++ digits).toList =
        '[' :: (inner.toList ++ ']' :: ':' :: digits.toList) := by
      rw [trimChars_withPort _ _ bare decimal, toList_bracketed, List.cons_append,
        List.append_assoc]
      rfl
    have alone : trimChars ("[" ++ inner ++ "]").toList = '[' :: (inner.toList ++ [']']) := by
      rw [trimChars_of_bare bare, toList_bracketed]
    rw [hostChars_bracketed _ _ _ started unclosed, hostChars_bracketed _ _ [] alone unclosed]

/-- Hosts with the same compared characters are normalized alike. -/
theorem normalizeHost_congr (host other : String)
    (same : hostChars host.toList = hostChars other.toList) :
    normalizeHost host = normalizeHost other := by
  rw [normalizeHost_eq, normalizeHost_eq, same]

/-- A normalized host is its own normalization, and a host is routed as it is with a port
after it, in whatever case. -/
theorem host_respects_port_and_case (host digits : String) (takes : TakesPort host)
    (decimal : ∀ digit ∈ digits.toList, digit.isDigit = true) :
    (∀ given result, normalizeHost given = some result → normalizeHost result = some result) ∧
      normalizeHost (host ++ ":" ++ digits) = normalizeHost host ∧
      ∀ routes path variant,
        toAsciiLowercase variant = toAsciiLowercase host ∨
            toAsciiLowercase variant = toAsciiLowercase (host ++ ":" ++ digits) →
          matchRoute routes (some variant) path = matchRoute routes (some host) path := by
  have withPort := hostChars_withPort host digits takes decimal
  refine ⟨?_, normalizeHost_congr _ _ withPort, ?_⟩
  · intro given result normalized
    rw [normalizeHost_eq] at normalized
    split at normalized
    · exact absurd normalized (by simp)
    next filled =>
      obtain rfl := Option.some.inj normalized
      rw [normalizeHost_eq, String.toList_ofList, hostChars_hostChars, if_neg filled]
  · intro routes path variant cased
    have lowered : ∀ other : String, toAsciiLowercase variant = toAsciiLowercase other →
        hostChars variant.toList = hostChars other.toList := by
      intro other same
      have chars := congrArg String.toList same
      rw [toList_toAsciiLowercase, toList_toAsciiLowercase] at chars
      rw [← hostChars_map_toLower, chars, hostChars_map_toLower]
    have same : hostChars variant.toList = hostChars host.toList := by
      rcases cased with asHost | asPort
      · exact lowered host asHost
      · exact (lowered _ asPort).trans withPort
    simp only [matchRoute, Option.bind_some, normalizeHost_congr variant host same]

/-- The loopback literal with a port is compared like the literal alone. -/
theorem host_respects_port_and_case_literal :
    normalizeHost ("[" ++ "::1" ++ "]" ++ ":" ++ "8080") = normalizeHost ("[" ++ "::1" ++ "]") :=
  (host_respects_port_and_case ("[" ++ "::1" ++ "]") "8080" (Or.inr ⟨"::1", rfl, by decide⟩)
    (List.all_eq_true.mp (by decide +kernel))).2.1

/-! ## Hosts of a route -/

/-- A validated host is not blank, and holds no colon unless it is the wildcard.

The loop stops at the first host that fails its check, so where it ran through, every host
passed. -/
theorem of_validateHosts (routeId : String) (hosts : List String)
    (accepted : Config.validateHosts routeId hosts = .ok ()) :
    ∀ host ∈ hosts, trimChars host.toList ≠ [] ∧ (host ≠ "*" → ':' ∉ host.toList) := by
  have each : ∀ hosts : List String,
      (hosts.forM (Config.validateHost routeId) : Config.Checked Unit) = .ok () →
        ∀ host ∈ hosts, Config.validateHost routeId host = .ok () := by
    intro hosts passed
    induction hosts with
    | nil => simp
    | cons host rest inductionHypothesis =>
      rw [List.forM, bind_ok_iff] at passed
      obtain ⟨_, first, others⟩ := passed
      exact List.forall_mem_cons.mpr ⟨first, inductionHypothesis others⟩
  simp only [Config.validateHosts, bind_ok_iff] at accepted
  obtain ⟨_, _, passed⟩ := accepted
  intro host listed
  have valid := each hosts passed host listed
  simp only [Config.validateHost, bind_ok_iff] at valid
  obtain ⟨_, filled, signs⟩ := valid
  constructor
  · intro blank
    have empty := (isEmpty_iff_toList (trim host)).mpr ((toList_trim host).trans blank)
    have filled := Config.of_require filled
    rw [empty] at filled
    exact Bool.noConfusion filled
  · intro named colon
    have signs := Config.of_require signs
    simp [named, colon] at signs

/-- Every host of a route but the wildcard matches a request for it, alone or with a
port. -/
def HostsReachable (route : Route) : Prop :=
  ∀ host ∈ route.hosts, host ≠ "*" →
    hostMatches route (normalizeHost (trim host)) = true ∧
      ∀ digits : String, digits ≠ "" → (∀ digit ∈ digits.toList, digit.isDigit = true) →
        hostMatches route (normalizeHost (trim host ++ ":" ++ digits)) = true

/-- A host as the router can see it: without white space around it, and up to the bracket
that closes it if it opens one. -/
def plainForm (host : String) : Option String :=
  if startsWith (trim host) "[" then
    (splitOnce ']' (trim host)).map fun parts => parts.1 ++ "]"
  else some (trim host)

/-- The plain form of every host is listed, up to case, or there is a wildcard. -/
def PlainlyListed (hosts : List String) : Prop :=
  "*" ∈ hosts ∨
    ∀ host ∈ hosts, ∃ plain entry, plainForm host = some plain ∧ entry ∈ hosts ∧
      eqIgnoreAsciiCase entry plain = true

/-- Texts are equal up to case exactly when their lowercased characters are. -/
theorem eqIgnoreAsciiCase_iff (left right : String) :
    eqIgnoreAsciiCase left right = true ↔
      left.toList.map Char.toLower = right.toList.map Char.toLower := by
  rw [eqIgnoreAsciiCase, beq_iff_eq, ← String.toList_inj, toList_toAsciiLowercase,
    toList_toAsciiLowercase]

/-- What is compared is lowercased already. -/
theorem map_toLower_hostChars (chars : List Char) :
    (hostChars chars).map Char.toLower = hostChars chars := by
  have twice : Char.toLower ∘ Char.toLower = Char.toLower := funext toLower_idem
  rw [hostChars, List.map_map, twice]

/-- Without a wildcard, a host matches exactly the entries that are the same as what is left of
it up to case, and nothing is matched by a host of which nothing is left. -/
theorem hostMatches_normalizeHost_iff (route : Route) (named : "*" ∉ route.hosts)
    (host : String) :
    hostMatches route (normalizeHost host) = true ↔
      hostChars host.toList ≠ [] ∧
        ∃ entry ∈ route.hosts, entry.toList.map Char.toLower = hostChars host.toList := by
  simp only [hostMatches, List.any_eq_true, Bool.or_eq_true, beq_iff_eq, normalizeHost_eq]
  by_cases empty : hostChars host.toList = []
  · simp only [if_pos empty, Option.map_none, Option.getD_none, Bool.false_eq_true, or_false]
    constructor
    · rintro ⟨entry, listed, rfl⟩
      exact absurd listed named
    · intro matching
      exact absurd empty matching.1
  · simp only [if_neg empty, Option.map_some, Option.getD_some, eqIgnoreAsciiCase_iff,
      String.toList_ofList, map_toLower_hostChars]
    constructor
    · rintro ⟨entry, listed, rfl | same⟩
      · exact absurd listed named
      · exact ⟨empty, entry, listed, same⟩
    · rintro ⟨_, entry, listed, same⟩
      exact ⟨entry, listed, Or.inr same⟩

/-- The plain form of a host that opens a bracket ends where the bracket is closed.

The plain form exists only if a closing bracket does, and the text is split at the first one. -/
theorem plainForm_of_opened {host plain : String} (starts : startsWith (trim host) "[" = true)
    (found : plainForm host = some plain) :
    ∃ inner after, (trim host).toList = '[' :: (inner ++ ']' :: after) ∧ ']' ∉ inner ∧
      plain.toList = '[' :: (inner ++ [']']) := by
  rw [plainForm, if_pos starts] at found
  obtain ⟨parts, once, rfl⟩ := Option.map_eq_some_iff.mp found
  unfold splitOnce at once
  split at once
  next closed =>
    obtain rfl := Option.some.inj once
    obtain ⟨rest, opened⟩ := exists_opened starts
    have inside : ']' ∈ rest := by simpa [opened] using closed
    obtain ⟨inner, after, rfl, unclosed⟩ := List.eq_append_cons_of_mem inside
    refine ⟨inner, after, opened, unclosed, ?_⟩
    rw [String.toList_append, String.toList_ofList, opened, ← List.cons_append,
      takeWhile_append_separator ']' _ after (by simp [unclosed])]
    rfl
  · exact absurd once (by simp)

section

variable {host : String} (filled : trimChars host.toList ≠ []) (colonless : ':' ∉ host.toList)

include filled colonless

/-- The plain form is what the router compares, with a port or without one.

The two kinds of hosts are treated apart: a bracketed one is cut behind the bracket, and any
other one has no colon in its plain form. -/
theorem hostChars_of_plainForm {plain : String} (found : plainForm host = some plain) :
    plain.toList ≠ [] ∧ hostChars (trim host).toList = plain.toList.map Char.toLower ∧
      ∀ digits : String, (∀ digit ∈ digits.toList, digit.isDigit = true) →
        hostChars (trim host ++ ":" ++ digits).toList = plain.toList.map Char.toLower := by
  have twice : trimChars (trim host).toList = (trim host).toList :=
    trimChars_of_bare (bare_trim host)
  by_cases starts : startsWith (trim host) "[" = true
  · obtain ⟨inner, after, opened, unclosed, plainChars⟩ := plainForm_of_opened starts found
    rw [plainChars]
    refine ⟨by simp, ?_, ?_⟩
    · exact hostChars_bracketed _ inner after (by rw [twice, opened]) unclosed
    · intro digits decimal
      refine hostChars_bracketed _ inner (after ++ ':' :: digits.toList) ?_ unclosed
      rw [trimChars_withPort _ _ (bare_trim host) decimal, opened, List.cons_append,
        List.append_assoc]
      rfl
  · rw [plainForm, if_neg starts] at found
    obtain rfl := Option.some.inj found
    have colonlessTrimmed : ':' ∉ (trim host).toList := by
      rw [toList_trim]
      exact fun member => colonless
        ((List.dropWhile_sublist _).subset ((List.rdropWhile_prefix _ _).subset member))
    have takes : TakesPort (trim host) := by
      refine Or.inl ⟨colonlessTrimmed, ?_⟩
      have again : trim (trim host) = trim host := by
        rw [← String.toList_inj, toList_trim, twice]
      rw [again]
      simpa using starts
    have alone : hostChars (trim host).toList = (trim host).toList.map Char.toLower := by
      rw [hostChars_unbracketed, twice, takeWhile_of_not_mem ':' _ colonlessTrimmed, twice]
      rw [twice]
      exact fun bracket => starts ((startsWith_bracket _).mpr bracket)
    refine ⟨by rw [toList_trim]; exact filled, alone, ?_⟩
    intro digits decimal
    rw [hostChars_withPort _ _ takes decimal, alone]

omit filled colonless in
/-- A bracket that is never closed takes the port with it, so that what is compared has a colon,
and no entry of a validated route has one. -/
theorem mem_hostChars_of_unclosed (missing : plainForm host = none) (digits : String)
    (decimal : ∀ digit ∈ digits.toList, digit.isDigit = true) :
    ':' ∈ hostChars (trim host ++ ":" ++ digits).toList := by
  unfold plainForm at missing
  split at missing
  next starts =>
    have unclosed : ']' ∉ (trim host).toList := by
      intro closed
      rw [Option.map_eq_none_iff, splitOnce, if_pos closed] at missing
      exact absurd missing (by simp)
    have whole : trimChars (trim host ++ ":" ++ digits).toList =
        (trim host).toList ++ ':' :: digits.toList :=
      trimChars_withPort _ _ (bare_trim host) decimal
    obtain ⟨rest, opened⟩ := exists_opened starts
    have unclosedPort : ']' ∉ '[' :: (rest ++ ':' :: digits.toList) := by
      rw [← List.cons_append, ← opened]
      intro member
      rcases List.mem_append.mp member with inHost | inPort
      · exact unclosed inHost
      · rcases List.mem_cons.mp inPort with sign | inDigits
        · exact absurd sign (by decide)
        · exact absurd (decimal _ inDigits) (by decide)
    have bracket : (trimChars (trim host ++ ":" ++ digits).toList).head? = some '[' := by
      rw [whole, opened]
      rfl
    rw [hostChars, if_pos bracket, whole, opened, List.cons_append,
      takeWhile_of_not_mem ']' _ unclosedPort, List.cons_append,
      trimChars_of_bare (bare_bracketed _)]
    exact List.mem_map.mpr ⟨':', by simp, rfl⟩
  · exact absurd missing (by simp)

end

/-- The accepted hosts of a route are reachable exactly when the plain form of each is
listed, or there is a wildcard. -/
theorem hostsReachable_iff_plainlyListed (routeId : String) (route : Route)
    (accepted : Config.validateHosts routeId route.hosts = .ok ()) :
    HostsReachable route ↔ PlainlyListed route.hosts := by
  have valid := of_validateHosts routeId route.hosts accepted
  by_cases wildcard : "*" ∈ route.hosts
  · have always : ∀ host, hostMatches route host = true := fun host => by
      rw [hostMatches, List.any_eq_true]
      exact ⟨"*", wildcard, rfl⟩
    exact ⟨fun _ => Or.inl wildcard, fun _ _ _ _ => ⟨always _, fun _ _ _ => always _⟩⟩
  have named : ∀ host ∈ route.hosts, host ≠ "*" := fun host listed same =>
    wildcard (same ▸ listed)
  have matching := hostMatches_normalizeHost_iff route wildcard
  constructor
  · intro reachable
    refine Or.inr fun host listed => ?_
    obtain ⟨filled, colonless⟩ := valid host listed
    obtain ⟨alone, withPort⟩ := reachable host listed (named host listed)
    cases form : plainForm host with
    | none =>
      have decimal : ∀ digit ∈ "80".toList, digit.isDigit = true :=
        List.all_eq_true.mp (by decide +kernel)
      have colon := mem_hostChars_of_unclosed form "80" decimal
      obtain ⟨_, entry, inHosts, same⟩ := (matching _).mp (withPort "80" (by decide) decimal)
      rw [← same] at colon
      obtain ⟨char, member, lowered⟩ := List.mem_map.mp colon
      obtain rfl := (toLower_eq_iff (by decide) char).mp lowered
      exact absurd member ((valid entry inHosts).2 (named entry inHosts))
    | some plain =>
      obtain ⟨_, seen, _⟩ := hostChars_of_plainForm filled (colonless (named host listed)) form
      obtain ⟨_, entry, inHosts, same⟩ := (matching _).mp alone
      exact ⟨plain, entry, rfl, inHosts, (eqIgnoreAsciiCase_iff _ _).mpr (same.trans seen)⟩
  · rintro (impossible | each)
    · exact absurd impossible wildcard
    intro host listed notWildcard
    obtain ⟨filled, colonless⟩ := valid host listed
    obtain ⟨plain, entry, form, inHosts, same⟩ := each host listed
    obtain ⟨visible, alone, withPort⟩ :=
      hostChars_of_plainForm filled (colonless notWildcard) form
    have found := (eqIgnoreAsciiCase_iff _ _).mp same
    refine ⟨(matching _).mpr ?_, fun digits _ decimal => (matching _).mpr ?_⟩
    · rw [alone]
      exact ⟨by simpa using visible, entry, inHosts, found⟩
    · rw [withPort digits decimal]
      exact ⟨by simpa using visible, entry, inHosts, found⟩

/-- A route with these hosts. -/
def hostedRoute (hosts : List String) : Route :=
  { id := "orders", hosts := hosts, pathPrefix := "/", upstreams := [⟨"http", "a:1"⟩]
    timeout := fromMillis 1000, retries := 0, capture := ⟨.off, 0, false, 0⟩
    concurrencyLimit := 8, passiveHealthFailures := 1, passiveHealthCooldown := fromMillis 1000 }

/-- A name and a bracketed literal are both plainly listed. -/
theorem hostsReachable_of_literal :
    Config.validateHosts "orders" ["Example.com", "[local]"] = .ok () ∧
      HostsReachable (hostedRoute ["Example.com", "[local]"]) := by
  refine ⟨by decide +kernel, (hostsReachable_iff_plainlyListed "orders" _ (by decide +kernel)).mpr
    (Or.inr ?_)⟩
  intro host listed
  simp only [hostedRoute, List.mem_cons, List.not_mem_nil, or_false] at listed
  rcases listed with rfl | rfl
  · exact ⟨"Example.com", "Example.com", by decide +kernel, by simp [hostedRoute],
      by decide +kernel⟩
  · exact ⟨"[local]", "[local]", by decide +kernel, by simp [hostedRoute], by decide +kernel⟩

/-- A host with a blank before it is accepted, and no request matches it: the entry is compared
with its blank, and what it is compared with has none. -/
theorem indented_host_not_reachable :
    Config.validateHosts "orders" [" example.com"] = .ok () ∧
      hostMatches (hostedRoute [" example.com"]) (normalizeHost (trim " example.com")) = false ∧
      ¬ HostsReachable (hostedRoute [" example.com"]) := by
  have unmatched : hostMatches (hostedRoute [" example.com"])
      (normalizeHost (trim " example.com")) = false := by decide +kernel
  refine ⟨by decide +kernel, unmatched, fun reachable => ?_⟩
  have found := (reachable " example.com" (by simp [hostedRoute]) (by decide)).1
  rw [unmatched] at found
  exact Bool.noConfusion found

end TraceGate
