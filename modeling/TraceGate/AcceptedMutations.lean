import TraceGate.Mutations

/-!
# Mutations that normalization accepted

A plugin's mutations are checked where its decision is normalized, and applied in another
crate, which parses the texts again and skips those that do not parse. In between a name
was trimmed and lowercased, and a value was cut. Two facts about the HTTP crate's parsers
make the second parse succeed: a name is normalized by lowercasing it, and a value is
accepted character by character, so a cut of an accepted value is accepted.
-/

namespace TraceGate

/-- What is asked of the parsers of the HTTP crate. -/
structure HttpCrate.Standard (http : HttpCrate) : Prop where
  name : ∀ text parsed, http.headerNameFromBytes text = .ok parsed →
    parsed = Text.toAsciiLowercase text
  value : ∃ accepts : Char → Bool, ∀ text,
    (∃ value, http.headerValueFromStr text = .ok value) ↔ text.toList.all accepts = true

namespace Policy

section

variable {http : HttpCrate}

/-- A name that parses to itself, as `apply_policy_mutations` needs it. -/
def ParsesAsName (http : HttpCrate) (name : String) : Prop :=
  http.headerNameFromBytes name = .ok name

/-- A mutation whose name and value both parse. -/
def Parses (http : HttpCrate) (mutation : HeaderMutation) : Prop :=
  ParsesAsName http mutation.name ∧ ∃ value, http.headerValueFromStr mutation.value = .ok value

/-- A name that normalization accepts is read as itself when it is parsed again.

The crate reads a name as its lowercase form, which normalization has already taken. -/
theorem parses_of_normalizeRemoveHeader (standard : http.Standard) (pluginId given name : String)
    (accepted : normalizeRemoveHeader http pluginId given = .ok name) : ParsesAsName http name := by
  simp only [normalizeRemoveHeader] at accepted
  split at accepted
  · exact absurd accepted (by simp)
  next parsed read =>
    obtain rfl := Except.ok.inj accepted
    have same := standard.name _ _ read
    rw [Text.toAsciiLowercase_idem] at same
    rw [ParsesAsName, read, same]

/-- A cut of an accepted value is accepted.

The crate accepts a value by its characters, and a cut has no others than the whole. -/
theorem value_of_truncate (standard : http.Standard) (text : String) (maxChars : Nat)
    (accepted : ∃ value, http.headerValueFromStr text = .ok value) :
    ∃ value, http.headerValueFromStr (truncate text maxChars) = .ok value := by
  obtain ⟨accepts, exactly⟩ := standard.value
  unfold truncate
  split
  · exact accepted
  · have whole := (exactly text).mp accepted
    refine (exactly _).mpr ?_
    rw [Text.toList_takeChars]
    rw [List.all_eq_true] at whole ⊢
    intro char member
    exact whole char (List.mem_of_mem_take member)

/-- A mutation that normalization accepts parses again: its name as itself, and its value
although it may have been cut to 4096 characters. -/
theorem parses_of_normalizeSetHeader (standard : http.Standard) (pluginId : String)
    (given value : String) (mutation : HeaderMutation)
    (accepted : normalizeSetHeader http pluginId given value = .ok mutation) :
    Parses http mutation := by
  simp only [normalizeSetHeader, bind_ok_iff] at accepted
  obtain ⟨name, named, rest⟩ := accepted
  split at rest
  · exact absurd rest (by simp)
  next parsed read =>
    obtain rfl := Except.ok.inj rest
    exact ⟨parses_of_normalizeRemoveHeader standard pluginId given name named,
      value_of_truncate standard value 4096 ⟨parsed, read⟩⟩

/-- The mutations of an accepted decision parse again, those that set a header and those that
remove one, since each of them was normalized by itself. -/
theorem parses_of_normalizeDecision (standard : http.Standard) (pluginId : String)
    (given : RequestPolicyDecision) (decision : NormalizedDecision)
    (accepted : normalizeDecision http given pluginId = .ok decision) :
    (∀ mutation ∈ decision.setHeaders, Parses http mutation) ∧
      ∀ name ∈ decision.removeHeaders, ParsesAsName http name := by
  simp only [normalizeDecision, bind_ok_iff, pure, Except.pure, Except.ok.injEq] at accepted
  obtain ⟨sets, set, removes, removed, rfl⟩ := accepted
  refine ⟨forall_of_mapM _ _ _ set ?_, forall_of_mapM _ _ _ removed ?_⟩
  · intro header mutation normalized
    exact parses_of_normalizeSetHeader standard pluginId _ _ mutation normalized
  · intro text name normalized
    exact parses_of_normalizeRemoveHeader standard pluginId text name normalized

/-- The last of the mutations that sets a name. -/
def lastNamed (name : String) (mutations : List HeaderMutation) : Option HeaderMutation :=
  (mutations.filter fun mutation => mutation.name = name).getLast?

/-- There is no last mutation under a name exactly when no mutation has the name. -/
theorem lastNamed_eq_none_iff (name : String) (mutations : List HeaderMutation) :
    lastNamed name mutations = none ↔ name ∉ mutations.map HeaderMutation.name := by
  simp [lastNamed]

/-- The last mutation under a name is one of the mutations. -/
theorem mem_of_lastNamed {name : String} {mutations : List HeaderMutation}
    {last : HeaderMutation} (found : lastNamed name mutations = some last) : last ∈ mutations :=
  (List.mem_filter.mp (List.mem_of_getLast? found)).1

/-- When all mutations parse, the value that is set under a name is that of the last mutation
under it.

The induction is from the end of the list, where the deciding mutation stands. -/
theorem lastSet_of_parses (name : String) (mutations : List HeaderMutation)
    (parses : ∀ mutation ∈ mutations, Parses http mutation) :
    lastSet http name mutations =
      (lastNamed name mutations).bind fun mutation =>
        (http.headerValueFromStr mutation.value).toOption := by
  induction mutations using List.reverseRecOn with
  | nil => rfl
  | append_singleton before last inductionHypothesis =>
    obtain ⟨named, value, read⟩ := parses last (by simp)
    rw [ParsesAsName] at named
    have earlier := inductionHypothesis fun mutation member => parses mutation (by simp [member])
    rw [lastSet_append, earlier]
    by_cases same : last.name = name
    · subst same
      simp [lastSet, setValue, lastNamed, named, read, Except.toOption]
    · simp [lastSet, setValue, lastNamed, named, read, same]

/-- When all names parse, those listed are removed and no others: a name that is read as itself
is about no other header. -/
theorem removesName_of_parses (name : String) (names : List String)
    (parses : ∀ text ∈ names, ParsesAsName http text) :
    removesName http name names = true ↔ name ∈ names := by
  simp only [removesName, List.any_eq_true]
  constructor
  · rintro ⟨text, member, about⟩
    rw [parses text member] at about
    exact beq_iff_eq.mp about ▸ member
  · intro member
    refine ⟨name, member, ?_⟩
    rw [parses name member]
    exact beq_self_eq_true name

end

/-- The headers after the mutations of the decisions, as the gateway applies them. -/
def mutated (http : HttpCrate) (headers : HeaderMap) (decisions : List NormalizedDecision) :
    HeaderMap :=
  applyPolicyMutations http headers (decisions.flatMap NormalizedDecision.setHeaders)
    (decisions.flatMap NormalizedDecision.removeHeaders)

/-- What the mutations of the decisions leave in a header map: nothing is skipped, a name
that is set has the one value last set for it, a name that is only removed is gone, and
other names are as they were. -/
structure Applied (http : HttpCrate) (headers : HeaderMap)
    (decisions : List NormalizedDecision) : Prop where
  unskipped :
    (∀ mutation ∈ decisions.flatMap NormalizedDecision.setHeaders, Parses http mutation) ∧
      ∀ name ∈ decisions.flatMap NormalizedDecision.removeHeaders, ParsesAsName http name
  set : ∀ decision ∈ decisions, ∀ pluginId routeId duration timedOut error,
    ∀ name ∈ (recordFromDecision pluginId routeId decision duration timedOut error).setHeaders,
      ∃ mutation value,
        lastNamed name (decisions.flatMap NormalizedDecision.setHeaders) = some mutation ∧
        http.headerValueFromStr mutation.value = .ok value ∧
        (mutated http headers decisions).getAll name = [value]
  removed : ∀ decision ∈ decisions, ∀ pluginId routeId duration timedOut error,
    ∀ name ∈ (recordFromDecision pluginId routeId decision duration timedOut error).removeHeaders,
      (∀ other ∈ decisions, name ∉ other.setHeaders.map HeaderMutation.name) →
        (mutated http headers decisions).getAll name = []
  unnamed : ∀ name,
    (∀ decision ∈ decisions, name ∉ decision.setHeaders.map HeaderMutation.name ∧
      name ∉ decision.removeHeaders) →
        (mutated http headers decisions).getAll name = headers.getAll name

/-- No mutation of an accepted decision is skipped.

Applying skips what does not parse. Normalization has parsed everything once, and what it passes
on parses again, so nothing is left to skip. -/
theorem accepted_mutations_applied (http : HttpCrate) (standard : http.Standard)
    (given : List (String × RequestPolicyDecision)) (decisions : List NormalizedDecision)
    (accepted : given.mapM (fun decision => normalizeDecision http decision.2 decision.1) =
      .ok decisions)
    (headers : HeaderMap) : Applied http headers decisions := by
  have each := forall_of_mapM _ given decisions accepted fun decision _ normalized =>
    parses_of_normalizeDecision standard decision.1 decision.2 _ normalized
  have sets : ∀ mutation ∈ decisions.flatMap NormalizedDecision.setHeaders,
      Parses http mutation := by
    intro mutation member
    obtain ⟨decision, listed, inDecision⟩ := List.mem_flatMap.mp member
    exact (each decision listed).1 mutation inDecision
  have removes : ∀ name ∈ decisions.flatMap NormalizedDecision.removeHeaders,
      ParsesAsName http name := by
    intro name member
    obtain ⟨decision, listed, inDecision⟩ := List.mem_flatMap.mp member
    exact (each decision listed).2 name inDecision
  have unset : ∀ name, (∀ decision ∈ decisions,
      name ∉ decision.setHeaders.map HeaderMutation.name) →
        lastSet http name (decisions.flatMap NormalizedDecision.setHeaders) = none := by
    intro name absent
    have unnamed := (lastNamed_eq_none_iff name
      (decisions.flatMap NormalizedDecision.setHeaders)).mpr (by
        rw [List.map_flatMap, List.mem_flatMap]
        rintro ⟨decision, listed, named⟩
        exact absent decision listed named)
    rw [lastSet_of_parses name _ sets, unnamed, Option.bind_none]
  refine ⟨⟨sets, removes⟩, ?_, ?_, ?_⟩
  · intro decision listed _ _ _ _ _ name recorded
    have named : lastNamed name (decisions.flatMap NormalizedDecision.setHeaders) ≠ none := by
      rw [ne_eq, lastNamed_eq_none_iff, not_not, List.map_flatMap]
      exact List.mem_flatMap.mpr ⟨decision, listed, recorded⟩
    obtain ⟨last, found⟩ := Option.ne_none_iff_exists'.mp named
    obtain ⟨_, value, read⟩ := sets last (mem_of_lastNamed found)
    refine ⟨last, value, found, read, ?_⟩
    rw [mutated, getAll_applyPolicyMutations, lastSet_of_parses _ _ sets, found]
    simp [read, Except.toOption]
  · intro decision listed _ _ _ _ _ name recorded absent
    have gone := (removesName_of_parses name _ removes).mpr
      (List.mem_flatMap.mpr ⟨decision, listed, recorded⟩)
    rw [mutated, getAll_applyPolicyMutations, unset name absent, gone]
    rfl
  · intro name absent
    have kept : removesName http name (decisions.flatMap NormalizedDecision.removeHeaders) =
        false := by
      rw [← Bool.not_eq_true, removesName_of_parses name _ removes]
      intro member
      obtain ⟨decision, listed, inDecision⟩ := List.mem_flatMap.mp member
      exact (absent decision listed).2 inDecision
    rw [mutated, getAll_applyPolicyMutations,
      unset name fun decision listed => (absent decision listed).1, kept]
    rfl

/-- Parsers that take every name and the values without a line break. -/
def lenientHttp : HttpCrate :=
  ⟨fun text => .ok (Text.toAsciiLowercase text),
    fun text => if text.toList.all (· != '\n') then .ok (.ofAscii text) else .error "line break"⟩

/-- A crate that takes every name as it is and refuses values with a line break is a standard
one. -/
theorem standard_lenientHttp : lenientHttp.Standard := by
  refine ⟨fun text parsed read => (Except.ok.inj read).symm, (· != '\n'), fun text => ?_⟩
  simp only [lenientHttp]
  split
  next whole => simp [whole]
  next broken => simp [broken]

/-- Two plugins set a header, one of them in capitals, and the second removes another. -/
def capitalPair : List (String × RequestPolicyDecision) :=
  [("first", ⟨true, none, [⟨" X-User ", "a"⟩], [], []⟩),
    ("second", ⟨true, none, [⟨"x-user", "b"⟩], ["X-Debug"], []⟩)]

/-- Two decisions set one header, and the second removes another: both are carried out. -/
theorem accepted_mutations_applied_pair :
    Applied lenientHttp [("x-debug", .ofAscii "1"), ("accept", .ofAscii "*/*")]
      [⟨none, [⟨"x-user", "a"⟩], [], []⟩, ⟨none, [⟨"x-user", "b"⟩], ["x-debug"], []⟩] :=
  accepted_mutations_applied lenientHttp standard_lenientHttp capitalPair _ (by decide +kernel) _

end Policy

end TraceGate
