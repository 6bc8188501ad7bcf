import TraceGate.Validation

/-!
# Hosts of production upstreams

What the check of upstream hosts is for: no upstream of a production gateway is the
gateway's own host, the metadata service or the admin listener. The check compares
the text of the host, so a host passes it in any of the forms it does not list: a
name with a trailing dot, the unspecified IPv6 address, and an IPv4 address mapped
into IPv6, on either side of the comparison with the admin listener.
-/

namespace TraceGate

/-- `Ipv4Addr::to_ipv6_mapped`. -/
def toIpv6Mapped (address : BitVec 32) : BitVec 128 :=
  BitVec.ofNat 128 (0xFFFF * 2 ^ 32 + address.toNat)

/-- `IpAddr::to_canonical`: a mapped address counts as its IPv4 address. -/
def IpAddr.toCanonical : IpAddr → IpAddr
  | .v4 address => .v4 address
  | .v6 address =>
      if address.toNat / 2 ^ 32 = 0xFFFF then .v4 (BitVec.ofNat 32 (address.toNat % 2 ^ 32))
      else .v6 address

/-- `IpAddr::is_unspecified`. -/
def IpAddr.isUnspecified : IpAddr → Bool
  | .v4 address => address == 0
  | .v6 address => address == 0

/-- 169.254.169.254. -/
def metadataAddress : BitVec 32 := 0xA9FEA9FE

/-- A mapped address counts as the IPv4 address it maps. -/
@[simp]
theorem toCanonical_toIpv6Mapped (address : BitVec 32) :
    (IpAddr.v6 (toIpv6Mapped address)).toCanonical = .v4 address := by
  have small : address.toNat < 2 ^ 32 := address.isLt
  have value : (toIpv6Mapped address).toNat = 0xFFFF * 2 ^ 32 + address.toNat := by
    rw [toIpv6Mapped, BitVec.toNat_ofNat, Nat.mod_eq_of_lt (by omega)]
  have high : (0xFFFF * 2 ^ 32 + address.toNat) / 2 ^ 32 = 0xFFFF := by omega
  have low : (0xFFFF * 2 ^ 32 + address.toNat) % 2 ^ 32 = address.toNat := by omega
  simp only [IpAddr.toCanonical, value, high, low, if_true, BitVec.ofNat_toNat,
    BitVec.setWidth_eq]

/-- An IPv6 address is mapped, or canonical itself. -/
theorem toCanonical_v6 (address : BitVec 128) :
    (∃ embedded, address = toIpv6Mapped embedded) ∨
      (IpAddr.v6 address).toCanonical = .v6 address := by
  by_cases mapped : address.toNat / 2 ^ 32 = 0xFFFF
  · refine Or.inl ⟨BitVec.ofNat 32 (address.toNat % 2 ^ 32), ?_⟩
    apply BitVec.eq_of_toNat_eq
    simp only [toIpv6Mapped, BitVec.toNat_ofNat]
    omega
  · exact Or.inr (by simp only [IpAddr.toCanonical, if_neg mapped])

/-- An address that counts as an IPv4 address is that address or maps it.

An IPv6 address is mapped or counts as itself, by `toCanonical_v6`. -/
theorem toCanonical_eq_v4_iff (ip : IpAddr) (address : BitVec 32) :
    ip.toCanonical = .v4 address ↔ ip = .v4 address ∨ ip = .v6 (toIpv6Mapped address) := by
  constructor
  · intro canonical
    cases ip with
    | v4 own => exact Or.inl canonical
    | v6 own =>
      rcases toCanonical_v6 own with ⟨embedded, rfl⟩ | itself
      · rw [toCanonical_toIpv6Mapped] at canonical
        obtain rfl := IpAddr.v4.inj canonical
        exact Or.inr rfl
      · rw [itself] at canonical
        exact absurd canonical (by simp)
  · rintro (rfl | rfl)
    · rfl
    · exact toCanonical_toIpv6Mapped address

/-- An address that counts as an IPv6 address is that address. -/
theorem eq_of_toCanonical_eq_v6 (ip : IpAddr) (address : BitVec 128)
    (canonical : ip.toCanonical = .v6 address) : ip = .v6 address := by
  cases ip with
  | v4 own => exact absurd canonical (by simp [IpAddr.toCanonical])
  | v6 own =>
    rcases toCanonical_v6 own with ⟨embedded, rfl⟩ | itself
    · rw [toCanonical_toIpv6Mapped] at canonical
      exact absurd canonical (by simp)
    · rwa [itself] at canonical

namespace Config

/-! ## What the check is for -/

/-- A canonical address of the gateway's own host, of the metadata service or of the
admin listener. -/
def Internal (adminListen : SocketAddr) (port : Nat) (ip : IpAddr) : Prop :=
  ip.isLoopback = true ∨ ip.isUnspecified = true ∨ ip = .v4 metadataAddress ∨
    adminListen.ip.toCanonical = ip ∧ adminListen.port = port

def withoutTrailingDot (name : String) : String :=
  if Text.endsWith name "." then String.ofList name.toList.dropLast else name

/-- The host and the port are none of the gateway's own. -/
def Foreign (adminListen : SocketAddr) (port : Nat) : Host → Prop
  | .domain name _ =>
      Text.eqIgnoreAsciiCase (withoutTrailingDot name) "localhost" = false ∧
        Text.eqIgnoreAsciiCase (withoutTrailingDot name) "metadata.google.internal" = false
  | .ipv4 address => ¬ Internal adminListen port (IpAddr.toCanonical (.v4 address))
  | .ipv6 address => ¬ Internal adminListen port (IpAddr.toCanonical (.v6 address))

/-- The forms of internal hosts that the check does not list. -/
def Unlisted (adminListen : SocketAddr) (port : Nat) : Host → Prop
  | .domain name _ =>
      Text.toAsciiLowercase name = "localhost." ∨
        Text.toAsciiLowercase name = "metadata.google.internal."
  | .ipv4 address => adminListen.ip = .v6 (toIpv6Mapped address) ∧ adminListen.port = port
  | .ipv6 address =>
      address = 0 ∨ ∃ embedded, address = toIpv6Mapped embedded ∧
        ((IpAddr.v4 embedded).isLoopback = true ∨ embedded = 0 ∨ embedded = metadataAddress ∨
          adminListen.ip = .v4 embedded ∧ adminListen.port = port)

/-! ## The texts that are compared -/

/-- Characters that neither trimming nor lowercasing changes. -/
def Steady (char : Char) : Prop := (char ≠ '[' ∧ char ≠ ']') ∧ char.toLower = char

instance : DecidablePred Steady := fun char => by
  unfold Steady
  infer_instance

/-- No brackets are dropped in front of a text without them. -/
theorem dropWhile_plain (chars after : List Char)
    (plain : ∀ char ∈ chars, char ≠ '[' ∧ char ≠ ']') (nonempty : chars ≠ []) :
    (chars ++ after).dropWhile (fun char => char == '[' || char == ']') = chars ++ after := by
  cases chars with
  | nil => exact absurd rfl nonempty
  | cons first rest =>
    obtain ⟨opening, closing⟩ := plain first List.mem_cons_self
    simp [opening, closing]

/-- A text without brackets is not trimmed. -/
theorem trimBrackets_plain (chars : List Char)
    (plain : ∀ char ∈ chars, char ≠ '[' ∧ char ≠ ']') :
    trimBrackets (String.ofList chars) = String.ofList chars := by
  by_cases nonempty : chars = []
  · rw [nonempty]
    rfl
  · have front := dropWhile_plain chars [] plain nonempty
    have back := dropWhile_plain chars.reverse []
      (fun char member => plain char (List.mem_reverse.mp member)) (by simpa using nonempty)
    rw [List.append_nil] at front back
    rw [trimBrackets, String.toList_ofList, front, back, List.reverse_reverse]

/-- The brackets around a text without brackets are trimmed. -/
theorem trimBrackets_bracketed (chars : List Char)
    (plain : ∀ char ∈ chars, char ≠ '[' ∧ char ≠ ']') :
    trimBrackets (String.ofList ('[' :: chars ++ [']'])) = String.ofList chars := by
  by_cases nonempty : chars = []
  · rw [nonempty]
    rfl
  · have front := dropWhile_plain chars [']'] plain nonempty
    have back := dropWhile_plain chars.reverse []
      (fun char member => plain char (List.mem_reverse.mp member)) (by simpa using nonempty)
    rw [List.append_nil] at back
    simp [trimBrackets, front, back]

/-- A text of steady characters is lowercased already. -/
theorem toAsciiLowercase_steady (chars : List Char) (steady : ∀ char ∈ chars, Steady char) :
    Text.toAsciiLowercase (String.ofList chars) = String.ofList chars := by
  rw [Text.toAsciiLowercase, String.toList_ofList,
    List.map_congr_left fun char member => (steady char member).2, List.map_id']

/-- A dotted address has steady characters only. -/
theorem steady_ipv4Text (address : BitVec 32) : ∀ char ∈ IpText.ipv4Text address, Steady char :=
  IpText.of_mem_ipv4Text (by decide) (by decide) address

/-- An address with groups has steady characters only. -/
theorem steady_ipv6Text (address : BitVec 128) : ∀ char ∈ IpText.ipv6Text address, Steady char :=
  IpText.of_mem_ipv6Text (by decide) (by decide) address

/-- The text that the check compares. -/
def comparedText (host : String) : String := Text.toAsciiLowercase (trimBrackets host)

/-- A name is compared in lower case. -/
theorem comparedText_domain (name : String)
    (plain : ∀ char ∈ name.toList, char ≠ '[' ∧ char ≠ ']') :
    comparedText (Host.domain name plain).str = Text.toAsciiLowercase name := by
  have whole := trimBrackets_plain name.toList plain
  rw [String.ofList_toList] at whole
  rw [comparedText, Host.str, whole]

/-- A dotted address is compared as it is written. -/
theorem comparedText_ipv4 (address : BitVec 32) :
    comparedText (Host.ipv4 address).str = String.ofList (IpText.ipv4Text address) := by
  have steady := steady_ipv4Text address
  rw [comparedText, Host.str, trimBrackets_plain _ fun char member => (steady char member).1,
    toAsciiLowercase_steady _ steady]

/-- An address with groups is compared without its brackets. -/
theorem comparedText_ipv6 (address : BitVec 128) :
    comparedText (Host.ipv6 address).str = String.ofList (IpText.ipv6Text address) := by
  have steady := steady_ipv6Text address
  rw [comparedText, Host.str, trimBrackets_bracketed _ fun char member => (steady char member).1,
    toAsciiLowercase_steady _ steady]

/-- The text of a dotted address parses as the address. -/
theorem parseIpAddr_ipv4Text (address : BitVec 32) :
    parseIpAddr (String.ofList (IpText.ipv4Text address)) = some (.v4 address) := by
  have read := IpText.readIpv4Addr_text address [] (IpText.noDigit_nil 10)
  rw [List.append_nil] at read
  simp only [parseIpAddr, readIpAddr, String.toList_ofList, read]

/-- The text of an address with groups parses as the address: it has no dots, so it is not taken
for a dotted one. -/
theorem parseIpAddr_ipv6Text (address : BitVec 128) :
    parseIpAddr (String.ofList (IpText.ipv6Text address)) = some (.v6 address) := by
  simp only [parseIpAddr, readIpAddr, String.toList_ofList,
    IpText.readIpv4Addr_undotted _ (IpText.undotted_ipv6Text address),
    IpText.readIpv6Addr_text, Option.map_some]

/-- An address of 127.0.0.0/8 starts with its first octet. -/
theorem startsWith_loopback (address : BitVec 32)
    (loopback : (IpAddr.v4 address).isLoopback = true) :
    Text.startsWith (String.ofList (IpText.ipv4Text address)) "127." = true := by
  have octet : address.toNat / 256 / 256 / 256 % 256 = 127 := by
    have first : address.toNat / 2 ^ 24 = 127 := beq_iff_eq.mp loopback
    omega
  have first : IpText.octetText 127 = ['1', '2', '7'] := by decide
  simp [Text.startsWith, IpText.ipv4Text, IpText.octets, IpText.digitsOf, IpText.separated, octet,
    first]

/-- What a host that is not blocked is not: none of the listed texts, no text of 127.0.0.0/8,
not the unspecified address, and not the admin listener. -/
theorem not_blocked (host : String) (port : Nat) (adminListen : SocketAddr)
    (passed : isBlockedUpstreamHost host (some port) adminListen = false) :
    comparedText host ∉ ["localhost", "metadata.google.internal", "169.254.169.254", "::1"] ∧
      Text.startsWith (comparedText host) "127." = false ∧ comparedText host ≠ "0.0.0.0" ∧
      ∀ ip, parseIpAddr (comparedText host) = some ip →
        ¬ (adminListen.ip = ip ∧ adminListen.port = port) := by
  dsimp only [isBlockedUpstreamHost] at passed
  rw [comparedText]
  generalize Text.toAsciiLowercase (trimBrackets host) = text at *
  split at passed
  · exact absurd passed (by simp)
  next unlisted =>
    split at passed
    · exact absurd passed (by simp)
    next unlike =>
      rw [Bool.or_eq_true, not_or, Bool.not_eq_true] at unlike
      refine ⟨fun listed => unlisted (List.contains_iff_mem.mpr listed), unlike.1,
        fun same => unlike.2 (beq_iff_eq.mpr same), ?_⟩
      intro ip parsed
      rw [parsed] at passed
      exact of_decide_eq_false passed

/-! ## What passes the check -/

/-- A name that is not listed itself is listed without its dot when the dot is all
that it has more. -/
theorem eqIgnoreAsciiCase_withoutTrailingDot (name bare : String)
    (lowercase : Text.toAsciiLowercase bare = bare)
    (unlisted : Text.toAsciiLowercase name ≠ bare) :
    Text.eqIgnoreAsciiCase (withoutTrailingDot name) bare = true ↔
      Text.toAsciiLowercase name = bare ++ "." := by
  have dotLower : Char.toLower '.' = '.' := by decide
  rw [Text.eqIgnoreAsciiCase, lowercase, beq_iff_eq, withoutTrailingDot]
  split
  next dotted =>
    obtain ⟨start, whole⟩ := List.isSuffixOf_iff_suffix.mp dotted
    rw [Text.toAsciiLowercase, Text.toAsciiLowercase, ← whole, String.toList_ofList]
    simp [← String.toList_inj, dotLower]
  next undotted =>
    refine ⟨fun listed => absurd listed unlisted, ?_⟩
    intro dotted
    exfalso
    apply undotted
    apply List.isSuffixOf_iff_suffix.mpr
    have letters := congrArg String.toList dotted
    rw [Text.toAsciiLowercase, String.toList_ofList, String.toList_append] at letters
    obtain ⟨start, last, whole, _, lastLower⟩ := List.map_eq_append_iff.mp letters
    obtain ⟨letter, rfl, lowered⟩ : ∃ letter, last = [letter] ∧ letter.toLower = '.' := by
      simpa [List.map_eq_cons_iff] using lastLower
    rw [Text.eq_of_toLower_eq lowered (by decide)] at whole
    exact ⟨start, whole.symm⟩

/-- A name that is not blocked is foreign unless it is one of the two names with a dot at its
end.

A lowercased name ends in a dot only if the name does, so a blocked name is missed in this form
alone. -/
theorem foreign_domain_iff (adminListen : SocketAddr) (port : Nat) (name : String)
    (plain : ∀ char ∈ name.toList, char ≠ '[' ∧ char ≠ ']')
    (passed : isBlockedUpstreamHost (Host.domain name plain).str (some port) adminListen = false) :
    Foreign adminListen port (.domain name plain) ↔
      ¬ Unlisted adminListen port (.domain name plain) := by
  have unlisted := (not_blocked _ port adminListen passed).1
  rw [comparedText_domain] at unlisted
  simp only [List.mem_cons, not_or] at unlisted
  rw [Foreign, Unlisted, not_or, ← Bool.not_eq_true, ← Bool.not_eq_true,
    eqIgnoreAsciiCase_withoutTrailingDot name "localhost" (by decide) unlisted.1,
    eqIgnoreAsciiCase_withoutTrailingDot name "metadata.google.internal" (by decide) unlisted.2.1]
  exact Iff.rfl

/-- An IPv4 address that is not blocked is foreign unless it is one that the check does not
list. -/
theorem foreign_ipv4_iff (adminListen : SocketAddr) (port : Nat) (address : BitVec 32)
    (passed : isBlockedUpstreamHost (Host.ipv4 address).str (some port) adminListen = false) :
    Foreign adminListen port (.ipv4 address) ↔ ¬ Unlisted adminListen port (.ipv4 address) := by
  obtain ⟨unlisted, unlike, specified, notAdmin⟩ := not_blocked _ port adminListen passed
  rw [comparedText_ipv4] at unlisted unlike specified notAdmin
  have notLoopback : ¬ (IpAddr.v4 address).isLoopback = true := fun loopback =>
    absurd (startsWith_loopback address loopback) (by rw [unlike]; simp)
  have notUnspecified : ¬ (IpAddr.v4 address).isUnspecified = true := by
    intro unspecified
    obtain rfl : address = 0 := beq_iff_eq.mp unspecified
    exact specified (by decide)
  have notMetadata : IpAddr.v4 address ≠ .v4 metadataAddress := by
    intro metadata
    obtain rfl := IpAddr.v4.inj metadata
    exact unlisted (by decide)
  have notOwn := notAdmin _ (parseIpAddr_ipv4Text address)
  have canonical : (IpAddr.v4 address).toCanonical = .v4 address := rfl
  rw [Foreign, Unlisted, Internal, canonical, toCanonical_eq_v4_iff, or_and_right]
  simp only [notLoopback, notUnspecified, notMetadata, notOwn, Bool.false_eq_true, false_or]

/-- An IPv6 address that is not blocked is foreign unless it is one that the check does not
list.

A mapped address stands for an IPv4 address, whose text the check never sees. One that is not
mapped stands for itself. -/
theorem foreign_ipv6_iff (adminListen : SocketAddr) (port : Nat) (address : BitVec 128)
    (passed : isBlockedUpstreamHost (Host.ipv6 address).str (some port) adminListen = false) :
    Foreign adminListen port (.ipv6 address) ↔ ¬ Unlisted adminListen port (.ipv6 address) := by
  obtain ⟨unlisted, _, _, notAdmin⟩ := not_blocked _ port adminListen passed
  rw [comparedText_ipv6] at unlisted notAdmin
  have notOwn := notAdmin _ (parseIpAddr_ipv6Text address)
  have notLoopback : address ≠ 1 := by
    rintro rfl
    exact unlisted (by decide)
  rw [Foreign, Unlisted, not_iff_not]
  constructor
  · intro internal
    rcases toCanonical_v6 address with ⟨embedded, rfl⟩ | itself
    · rw [toCanonical_toIpv6Mapped] at internal
      refine Or.inr ⟨embedded, rfl, ?_⟩
      rcases internal with loopback | unspecified | metadata | ⟨admin, samePort⟩
      · exact Or.inl loopback
      · exact Or.inr (Or.inl (beq_iff_eq.mp unspecified))
      · exact Or.inr (Or.inr (Or.inl (IpAddr.v4.inj metadata)))
      · rcases (toCanonical_eq_v4_iff _ _).mp admin with plain | mapped
        · exact Or.inr (Or.inr (Or.inr ⟨plain, samePort⟩))
        · exact absurd ⟨mapped, samePort⟩ notOwn
    · rw [itself] at internal
      rcases internal with loopback | unspecified | metadata | ⟨admin, samePort⟩
      · exact absurd (beq_iff_eq.mp loopback) notLoopback
      · exact Or.inl (beq_iff_eq.mp unspecified)
      · exact absurd metadata (by simp)
      · exact absurd ⟨eq_of_toCanonical_eq_v6 _ _ admin, samePort⟩ notOwn
  · rintro (rfl | ⟨embedded, rfl, loopback | rfl | rfl | ⟨admin, samePort⟩⟩)
    · exact Or.inr (Or.inl (by decide))
    all_goals rw [toCanonical_toIpv6Mapped]
    · exact Or.inl loopback
    · exact Or.inr (Or.inl (by decide))
    · exact Or.inr (Or.inr (Or.inl rfl))
    · exact Or.inr (Or.inr (Or.inr ⟨by rw [admin]; rfl, samePort⟩))

/-- Every URL that is accepted has a host and a port, and its host passed the check. -/
theorem passed_of_validateUpstream (externals : Externals) (routeId value : String)
    (adminListen : SocketAddr) (url : Url) (upstream : Upstream)
    (parsed : externals.parseUrl value = .ok url)
    (accepted : validateUpstream externals routeId value .production adminListen =
      .ok upstream) :
    ∃ host port, url.host = some host ∧ url.portOrKnownDefault = some port ∧
      isBlockedUpstreamHost host.str (some port) adminListen = false := by
  obtain ⟨_, host, validated⟩ := validateUpstream_ok accepted
  obtain rfl := Except.ok.inj (parsed.symm.trans validated.parsed)
  obtain ⟨port, known⟩ : ∃ port, url.portOrKnownDefault = some port := by
    rw [Url.portOrKnownDefault, validated.https rfl]
    cases url.port with
    | none => exact ⟨443, rfl⟩
    | some port => exact ⟨port, rfl⟩
  exact ⟨host, port, validated.found, known, known ▸ validated.unblocked rfl⟩

/-- The host of an accepted production upstream is none of the gateway's own exactly
when it has none of the unlisted forms. -/
theorem production_upstream_foreign_iff (externals : Externals) (routeId value : String)
    (adminListen : SocketAddr) (url : Url) (upstream : Upstream)
    (parsed : externals.parseUrl value = .ok url)
    (accepted : validateUpstream externals routeId value .production adminListen =
      .ok upstream) :
    ∃ host port, url.host = some host ∧ url.portOrKnownDefault = some port ∧
      (Foreign adminListen port host ↔ ¬ Unlisted adminListen port host) := by
  obtain ⟨host, port, found, known, passed⟩ :=
    passed_of_validateUpstream externals routeId value adminListen url upstream parsed accepted
  refine ⟨host, port, found, known, ?_⟩
  cases host with
  | domain name plain => exact foreign_domain_iff adminListen port name plain passed
  | ipv4 address => exact foreign_ipv4_iff adminListen port address passed
  | ipv6 address => exact foreign_ipv6_iff adminListen port address passed

/-! An upstream with a host given, and the admin listener at its default address. -/

def originOf (host : Host) : Url := ⟨"https", some host, none, "/", none, none⟩

def originExternals (host : Host) : Externals where
  envVar _ := none
  isFile _ := .ok true
  parseToml _ := .ok []
  parseUrl _ := .ok (originOf host)
  parseUri _ := .ok (some "https", some host.str)

def defaultAdmin : SocketAddr := ⟨.v4 0x7F000001, 9090, 0⟩

/-- 10.0.0.7. -/
def serviceHost : Host := .ipv4 0x0A000007

/-- A service on another machine is accepted, and is none of the gateway's own hosts. -/
theorem production_upstream_foreign_service :
    validateUpstream (originExternals serviceHost) "api" "https://10.0.0.7" .production
        defaultAdmin = .ok ⟨"https", "10.0.0.7"⟩ ∧
      (originOf serviceHost).portOrKnownDefault = some 443 ∧
      Foreign defaultAdmin 443 serviceHost := by
  obtain ⟨host, port, found, known, foreign⟩ :=
    production_upstream_foreign_iff (originExternals serviceHost) "api" "https://10.0.0.7"
      defaultAdmin (originOf serviceHost) ⟨"https", "10.0.0.7"⟩ rfl (by rfl)
  obtain rfl : serviceHost = host := Option.some.inj found
  obtain rfl : 443 = port := Option.some.inj known
  refine ⟨by rfl, rfl, foreign.mpr ?_⟩
  rintro ⟨mapped, _⟩
  exact absurd mapped (by simp [defaultAdmin])

/-- The loopback address is accepted when it is mapped into IPv6. -/
theorem mapped_loopback_accepted :
    let host := Host.ipv6 (toIpv6Mapped 0x7F000001)
    host.str = "[::ffff:7f00:1]" ∧
      (∃ upstream, validateUpstream (originExternals host) "api" "https://[::ffff:127.0.0.1]"
        .production defaultAdmin = .ok upstream) ∧
      ¬ Foreign defaultAdmin 443 host := by
  refine ⟨by decide, ⟨_, rfl⟩, ?_⟩
  intro foreign
  apply foreign
  rw [toCanonical_toIpv6Mapped]
  exact Or.inl (by decide)

end Config

end TraceGate
