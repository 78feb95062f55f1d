import KeliNative.Lib.Layers
import KeliNative.Client.Preflight

/-!
# Registering profiles (`OutboundRegistry::from_profiles`, `direct.rs`)

Every profile goes into the map of its kind, under its tag.
-/

namespace KeliNative.Outbound
open Protocol Text List

inductive VmessBodySecurity where
  | none
  | aes128Gcm
  | chacha20Poly1305
  deriving DecidableEq

structure LegacyQuicTransportConfig where
  security : Option String
  key : Option String
  headerType : Option String
  deriving DecidableEq

inductive Carrier where
  | stream
  | http (host path : String)
  | grpc (host : String) (serviceName : Option String)
  | quic (config : LegacyQuicTransportConfig)
  deriving DecidableEq

structure TlsSettings where
  sni : String
  skipVerify : Bool
  deriving DecidableEq

inductive Credential where
  | text (credential : String)
  | pair (username password : String)
  deriving DecidableEq

inductive ProtocolSettings where
  | none
  | vless (flow : Option String)
  | vmess (security : VmessBodySecurity)
  | shadowsocks (cipher : String)
  deriving DecidableEq

structure OutboundSettings where
  server : Endpoint
  credential : Credential
  carrier : Carrier
  tls : Option TlsSettings
  protocol : ProtocolSettings
  deriving DecidableEq

inductive OutboundProfileError where
  | validation (tag : String) (source : ProtocolValidationError)
  | unsupportedSecurity (tag : String) (security : SecurityKind)
  | missingShadowsocksCipher (tag : String)
  | unsupportedVmessCipher (tag cipher : String)
  | unsupportedTransport (tag : String) (protocol : ProxyProtocol) (transport : TransportKind)
      (security : SecurityKind)
  deriving DecidableEq

/-! The derived `Debug` texts; `quote` is that of a `str`, which escapes what is not printable. -/

def debugOption (quote : String → String) : Option String → String
  | none => "None"
  | some text => "Some(" ++ quote text ++ ")"

def debugTransport (quote : String → String) : TransportKind → String
  | .tcp => "Tcp"
  | .webSocket path host => requestDebug "WebSocket" path host
  | .httpUpgrade path host => requestDebug "HttpUpgrade" path host
  | .http2 path host => requestDebug "Http2" path host
  | .grpc serviceName => "Grpc \x7b service_name: " ++ debugOption quote serviceName ++ " \x7d"
  | .quic security key headerType =>
      "Quic \x7b security: " ++ debugOption quote security ++ ", key: " ++ debugOption quote key ++
        ", header_type: " ++ debugOption quote headerType ++ " \x7d"
where
  requestDebug (name path : String) (host : Option String) : String :=
    name ++ " \x7b path: " ++ quote path ++ ", host: " ++ debugOption quote host ++ " \x7d"

def debugSecurity (quote : String → String) : SecurityKind → String
  | .none => "None"
  | .tls sni skipVerify =>
      "Tls \x7b sni: " ++ debugOption quote sni ++ ", skip_verify: " ++ toString skipVerify ++ " \x7d"

def OutboundProfileError.display (quote : String → String) : OutboundProfileError → String
  | .validation tag source =>
      "outbound profile " ++ tag ++ " is invalid: " ++ source.display
  | .unsupportedSecurity tag security =>
      "outbound profile " ++ tag ++ " security is unsupported: " ++ debugSecurity quote security
  | .missingShadowsocksCipher tag =>
      "outbound profile " ++ tag ++ " shadowsocks cipher is missing"
  | .unsupportedVmessCipher tag cipher =>
      "outbound profile " ++ tag ++ " vmess cipher is unsupported: " ++ cipher
  | .unsupportedTransport tag protocol transport security =>
      "outbound profile " ++ tag ++ " transport is unsupported: " ++ protocol.debug ++ "/" ++
        debugTransport quote transport ++ "/" ++ debugSecurity quote security

def vmessSecurityFromProfileCipher (tag : String) (cipher : Option String) :
    Except OutboundProfileError VmessBodySecurity :=
  let cipher := toAsciiLowercase (trim (cipher.getD "auto"))
  if cipher ∈ ["", "auto", "aes-128-gcm"] then .ok .aes128Gcm
  else if cipher = "chacha20-poly1305" then .ok .chacha20Poly1305
  else if cipher ∈ ["none", "zero"] then .ok .none
  else .error (.unsupportedVmessCipher tag cipher)

def splitTuicCredential (credential : String) : Option (String × String) :=
  match splitOnce ':' credential with
  | none => none
  | some (uuid, password) =>
      if (trim uuid).isEmpty ∨ (trim password).isEmpty then none
      else some (trim uuid, trim password)

def legacyQuicInternalServerName : String := "quic.internal.v2fly.org"

/-- Host and server name of the stream protocols, with the endpoint's host as default. -/
def streamSettings (endpoint : Endpoint) (transport : TransportKind) (security : SecurityKind) :
    StreamTransport × Carrier × Option TlsSettings :=
  match transport, security with
  | .tcp, .none => (.tcp, .stream, none)
  | .tcp, .tls sni skipVerify => (.tlsTcp, .stream, some ⟨sni.getD endpoint.host, skipVerify⟩)
  | .webSocket path host, .none => (.ws, .http (host.getD endpoint.host) path, none)
  | .webSocket path host, .tls sni skipVerify =>
      let host := host.getD endpoint.host
      (.tlsWs, .http host path, some ⟨sni.getD host, skipVerify⟩)
  | .httpUpgrade path host, .none => (.httpupgrade, .http (host.getD endpoint.host) path, none)
  | .httpUpgrade path host, .tls sni skipVerify =>
      let host := host.getD endpoint.host
      (.tlsHttpupgrade, .http host path, some ⟨sni.getD host, skipVerify⟩)
  | .grpc serviceName, .none => (.grpc, .grpc endpoint.host serviceName, none)
  | .grpc serviceName, .tls sni skipVerify =>
      let sni := sni.getD endpoint.host
      (.tlsGrpc, .grpc sni serviceName, some ⟨sni, skipVerify⟩)
  | .http2 path host, .none => (.h2, .http (host.getD endpoint.host) path, none)
  | .http2 path host, .tls sni skipVerify =>
      -- here the host follows the server name, not the other way round
      let sni := sni.getD endpoint.host
      (.tlsH2, .http (host.getD sni) path, some ⟨sni, skipVerify⟩)
  | .quic security key headerType, .none =>
      (.quic, .quic ⟨security, key, headerType⟩, some ⟨legacyQuicInternalServerName, true⟩)
  | .quic security key headerType, .tls sni skipVerify =>
      (.quic, .quic ⟨security, key, headerType⟩, some ⟨sni.getD endpoint.host, skipVerify⟩)

def streamOutbound (kind : StreamTransport → OutboundKind) (profile : OutboundProfile)
    (protocol : ProtocolSettings) : OutboundKind × OutboundSettings :=
  let (transport, carrier, tls) :=
    streamSettings profile.endpoint profile.transport profile.security
  (kind transport, ⟨profile.endpoint, .text profile.credential, carrier, tls, protocol⟩)

/-- The match of `add_profile`: the map of a profile and what is stored there. -/
def outboundOf (profile : OutboundProfile) :
    Except OutboundProfileError (OutboundKind × OutboundSettings) :=
  let ⟨tag, protocol, endpoint, transport, security, credential, cipher, flow⟩ := profile
  let plain (kind : OutboundKind) (credential : Credential) (tls : Option TlsSettings) :
      Except OutboundProfileError (OutboundKind × OutboundSettings) :=
    .ok (kind, ⟨endpoint, credential, .stream, tls, .none⟩)
  match protocol, transport, security with
  | .socks, .tcp, .none => plain .socks5Tcp (.text credential) none
  | .http, .tcp, .none => plain .httpConnect (.text credential) none
  | .trojan, _, _ => .ok (streamOutbound .trojan profile .none)
  | .vmess, _, _ => do
      let vmessSecurity ← vmessSecurityFromProfileCipher tag cipher
      return streamOutbound .vmess profile (.vmess vmessSecurity)
  | .vless, _, _ => .ok (streamOutbound .vless profile (.vless flow))
  | .shadowsocks, .tcp, .none =>
      match cipher with
      | none => .error (.missingShadowsocksCipher tag)
      | some cipher =>
          .ok (.shadowsocksTcp, ⟨endpoint, .text credential, .stream, none, .shadowsocks cipher⟩)
  | .anyTls, .tcp, .tls sni skipVerify =>
      plain .anytlsTlsTcp (.text credential) (some ⟨sni.getD endpoint.host, skipVerify⟩)
  | .naive, .tcp, .tls sni skipVerify =>
      plain .naiveH2Tcp (.text credential) (some ⟨sni.getD endpoint.host, skipVerify⟩)
  | .naive, .quic .., .tls sni skipVerify =>
      plain .naiveH3Quic (.text credential) (some ⟨sni.getD endpoint.host, skipVerify⟩)
  | .mieru, .tcp, .none =>
      match splitOnce ':' credential with
      | none => .error (.validation tag .invalidMieruCredential)
      | some (username, password) => plain .mieruTcp (.pair username password) none
  | .hy2, .quic .., .tls sni skipVerify =>
      plain .hy2 (.text credential) (some ⟨sni.getD endpoint.host, skipVerify⟩)
  | .tuic, .quic .., .tls sni skipVerify =>
      match splitTuicCredential credential with
      | none => .error (.validation tag .invalidTuicCredential)
      | some (uuid, password) =>
          plain .tuic (.pair uuid password) (some ⟨sni.getD endpoint.host, skipVerify⟩)
  | protocol, transport, security =>
      .error (.unsupportedTransport tag protocol transport security)

/-- The maps of a registry made from profiles. It has no direct tags. -/
structure ProfileRegistry where
  outbound : OutboundKind → String → Option OutboundSettings

namespace ProfileRegistry

def new : ProfileRegistry := ⟨fun _ _ => none⟩

def insert (registry : ProfileRegistry) (tag : String)
    (entry : OutboundKind × OutboundSettings) : ProfileRegistry :=
  ⟨fun kind other =>
    if kind = entry.1 ∧ other = tag then some entry.2 else registry.outbound kind other⟩

def addProfile (registry : ProfileRegistry) (profile : OutboundProfile) :
    Except OutboundProfileError ProfileRegistry :=
  match profile.validate with
  | .error source => .error (.validation profile.tag source)
  | .ok () => (outboundOf profile).map (registry.insert profile.tag)

def addProfiles (registry : ProfileRegistry) (profiles : List OutboundProfile) :
    Except OutboundProfileError ProfileRegistry :=
  profiles.foldlM addProfile registry

def fromProfiles (profiles : List OutboundProfile) :
    Except OutboundProfileError ProfileRegistry := new.addProfiles profiles

def servers (registry : ProfileRegistry) : OutboundRegistry :=
  ⟨[], fun kind tag => (registry.outbound kind tag).map (·.server)⟩

/-- The first map of `order` that has the tag, with the record it has there. -/
def find (registry : ProfileRegistry) (order : List OutboundKind) (tag : String) :
    Option (OutboundKind × OutboundSettings) :=
  Layers.find order fun kind => registry.outbound kind tag

end ProfileRegistry

/-- The registry serves the cipher of the profile; only VMess has one of its own. -/
def CipherServed (profile : OutboundProfile) : Prop :=
  profile.protocol = .vmess →
    toAsciiLowercase (trim (profile.cipher.getD "auto")) ∈
      ["", "auto", "aes-128-gcm", "chacha20-poly1305", "none", "zero"]

instance (profile : OutboundProfile) : Decidable (CipherServed profile) :=
  inferInstanceAs (Decidable (_ → _))

theorem isOk_vmessSecurity_iff (tag : String) (cipher : Option String) :
    (vmessSecurityFromProfileCipher tag cipher).isOk ↔
      toAsciiLowercase (trim (cipher.getD "auto")) ∈
        ["", "auto", "aes-128-gcm", "chacha20-poly1305", "none", "zero"] := by
  unfold vmessSecurityFromProfileCipher
  dsimp only
  generalize toAsciiLowercase (trim (cipher.getD "auto")) = name
  have hbranches : name ∈ ["", "auto", "aes-128-gcm", "chacha20-poly1305", "none", "zero"] ↔
      name ∈ ["", "auto", "aes-128-gcm"] ∨ name = "chacha20-poly1305" ∨ name ∈ ["none", "zero"] := by
    simp only [mem_cons, not_mem_nil, or_false, or_assoc]
  rw [hbranches]
  split_ifs with haes hchacha hnone
  · exact iff_of_true rfl (.inl haes)
  · exact iff_of_true rfl (.inr (.inl hchacha))
  · exact iff_of_true rfl (.inr (.inr hnone))
  · refine iff_of_false nofun ?_
    rintro (h | h | h)
    · exact haes h
    · exact hchacha h
    · exact hnone h

theorem looksLikeUuid_empty : looksLikeUuid "" = false := by decide +kernel

theorem splitTuicCredential_isSome {credential : String} (h : isTuicCredential credential) :
    (splitTuicCredential credential).isSome := by
  unfold isTuicCredential at h
  unfold splitTuicCredential
  cases hsplit : splitOnce ':' credential with
  | none => rw [hsplit] at h; cases h
  | some parts =>
    obtain ⟨uuid, password⟩ := parts
    simp only [hsplit, Bool.and_eq_true, Bool.not_eq_true'] at h
    obtain ⟨huuid, hpassword⟩ := h
    have huuid' : ¬(trim uuid).isEmpty := by
      intro hempty
      rw [String.isEmpty_iff.mp hempty, looksLikeUuid_empty] at huuid
      cases huuid
    have hpassword' : ¬(trim password).isEmpty := by rw [hpassword]; exact Bool.false_ne_true
    simp only
    rw [if_neg (not_or.mpr ⟨huuid', hpassword'⟩)]
    rfl

theorem splitOnce_isSome_of_isUserPassword {credential : String}
    (h : isUserPasswordCredential credential) : (splitOnce ':' credential).isSome := by
  unfold isUserPasswordCredential at h
  cases hsplit : splitOnce ':' credential with
  | none => rw [hsplit] at h; cases h
  | some parts => rfl

theorem ok_of_guard {ε : Type} {condition : Bool} {error : ε} {res : Except ε Unit}
    (h : (if !condition then .error error else res) = .ok ()) :
    condition = true ∧ res = .ok () := by
  cases condition with
  | false => cases h
  | true => exact ⟨rfl, h⟩

theorem isOk_outboundOf_iff {profile : OutboundProfile} (h : profile.validate = .ok ()) :
    (outboundOf profile).isOk ↔ CipherServed profile := by
  have htrans := OutboundProfile.validateTransport_of_validate h
  obtain ⟨tag, proto, endpoint, transport, security, credential, cipher, flow⟩ := profile
  clear h
  have hother (hne : proto ≠ .vmess) :
      CipherServed ⟨tag, proto, endpoint, transport, security, credential, cipher, flow⟩ :=
    fun hvmess => absurd hvmess hne
  cases proto with
  | vmess =>
    have hserved := isOk_vmessSecurity_iff tag cipher
    simp only [outboundOf, CipherServed, true_imp_iff]
    rw [← hserved]
    cases vmessSecurityFromProfileCipher tag cipher <;> rfl
  | trojan => exact iff_of_true rfl (hother (by decide))
  | vless => exact iff_of_true rfl (hother (by decide))
  | shadowsocks =>
    cases transport <;> cases security <;> try cases htrans
    cases cipher with
    | none => cases htrans
    | some cipher => exact iff_of_true rfl (hother (by decide))
  | mieru =>
    obtain ⟨hcredential, htrans⟩ := ok_of_guard htrans
    obtain ⟨parts, hparts⟩ :=
      Option.isSome_iff_exists.mp (splitOnce_isSome_of_isUserPassword hcredential)
    cases transport <;> cases security <;> try cases htrans
    refine iff_of_true ?_ (hother (by decide))
    simp only [outboundOf, hparts]
    rfl
  | tuic =>
    cases transport <;> cases security <;> try cases htrans
    have hcredential : isTuicCredential credential := by
      by_contra hnot
      simp only [OutboundProfile.validateTransport, hnot] at htrans
      cases htrans
    obtain ⟨parts, hparts⟩ := Option.isSome_iff_exists.mp (splitTuicCredential_isSome hcredential)
    refine iff_of_true ?_ (hother (by decide))
    simp only [outboundOf, hparts]
    rfl
  | naive =>
    obtain ⟨-, htrans⟩ := ok_of_guard htrans
    cases transport <;> cases security <;>
      first | exact iff_of_true rfl (hother (by decide)) | cases htrans
  | _ =>
    cases transport <;> cases security <;>
      first | exact iff_of_true rfl (hother (by decide)) | cases htrans

namespace ProfileRegistry

variable {registry registry' : ProfileRegistry} {profiles : List OutboundProfile}
  {profile : OutboundProfile} {record first : OutboundKind × OutboundSettings}
  {rest : List (OutboundKind × OutboundSettings)}

theorem isOk_addProfile_iff (h : profile.validate = .ok ()) (registry : ProfileRegistry) :
    (registry.addProfile profile).isOk ↔ CipherServed profile := by
  rw [← isOk_outboundOf_iff h]
  unfold addProfile
  rw [h]
  cases outboundOf profile <;> rfl

theorem isOk_addProfiles_iff (h : ∀ profile ∈ profiles, profile.validate = .ok ())
    (registry : ProfileRegistry) :
    (registry.addProfiles profiles).isOk ↔ ∀ profile ∈ profiles, CipherServed profile := by
  induction profiles generalizing registry with
  | nil => exact iff_of_true rfl (forall_mem_nil _)
  | cons profile profiles ih =>
    have hfirst := isOk_addProfile_iff (h profile mem_cons_self) registry
    have hrest := ih fun other hother => h other (mem_cons_of_mem _ hother)
    rw [forall_mem_cons, ← hfirst]
    unfold addProfiles
    rw [foldlM_cons]
    cases registry.addProfile profile with
    | error error => exact iff_of_false nofun fun hboth => nomatch hboth.1
    | ok next => exact (hrest next).trans (and_iff_right rfl).symm

/-- The records of the profiles with a tag, in the order they were registered. -/
def recordsOf (profiles : List OutboundProfile) (tag : String) :
    List (OutboundKind × OutboundSettings) :=
  profiles.filterMap fun profile =>
    if profile.tag = tag then (outboundOf profile).toOption else none

theorem recordsOf_cons_self (h : outboundOf profile = .ok record) :
    recordsOf (profile :: profiles) profile.tag = record :: recordsOf profiles profile.tag := by
  simp only [recordsOf, filterMap_cons, if_true, h]
  rfl

theorem recordsOf_cons_of_ne {tag : String} (h : profile.tag ≠ tag) :
    recordsOf (profile :: profiles) tag = recordsOf profiles tag := by
  simp only [recordsOf, filterMap_cons, h, if_false]

theorem addProfile_ok (h : registry.addProfile profile = .ok registry') :
    ∃ record, outboundOf profile = .ok record ∧ registry' = registry.insert profile.tag record := by
  unfold addProfile at h
  cases hvalidate : profile.validate with
  | error source => rw [hvalidate] at h; cases h
  | ok =>
    rw [hvalidate] at h
    cases hrecord : outboundOf profile with
    | error error => rw [hrecord] at h; cases h
    | ok record =>
      rw [hrecord] at h
      exact ⟨record, rfl, (Except.ok.inj h).symm⟩

theorem addProfiles_cons_ok (h : registry.addProfiles (profile :: profiles) = .ok registry') :
    ∃ record, outboundOf profile = .ok record ∧
      (registry.insert profile.tag record).addProfiles profiles = .ok registry' := by
  unfold addProfiles at h
  rw [foldlM_cons] at h
  cases hadd : registry.addProfile profile with
  | error error => rw [hadd] at h; cases h
  | ok next =>
    rw [hadd] at h
    obtain ⟨record, hrecord, rfl⟩ := addProfile_ok hadd
    exact ⟨record, hrecord, h⟩

theorem insert_outbound (registry : ProfileRegistry) (inserted : String)
    (record : OutboundKind × OutboundSettings) (tag : String) :
    (fun kind => (registry.insert inserted record).outbound kind tag) =
      if inserted = tag then
        Function.update (fun kind => registry.outbound kind tag) record.1 (some record.2)
      else fun kind => registry.outbound kind tag := by
  funext kind
  by_cases htag : inserted = tag
  · by_cases hkind : kind = record.1
    · subst hkind
      simp [insert, htag]
    · simp [insert, htag, hkind]
  · have htag' : tag ≠ inserted := Ne.symm htag
    simp [insert, htag, htag']

theorem outbound_addProfiles (h : registry.addProfiles profiles = .ok registry') (tag : String) :
    (fun kind => registry'.outbound kind tag) =
      Layers.fillFrom (fun kind => registry.outbound kind tag) (recordsOf profiles tag) := by
  induction profiles generalizing registry with
  | nil =>
    cases h
    rfl
  | cons profile profiles ih =>
    obtain ⟨record, hrecord, hrest⟩ := addProfiles_cons_ok h
    rw [ih hrest, insert_outbound]
    by_cases htag : profile.tag = tag
    · subst htag
      rw [if_pos rfl, recordsOf_cons_self hrecord]
      rfl
    · rw [if_neg htag, recordsOf_cons_of_ne htag]

theorem outbound_fromProfiles (h : fromProfiles profiles = .ok registry) (tag : String) :
    (fun kind => registry.outbound kind tag) = Layers.fill (recordsOf profiles tag) :=
  outbound_addProfiles h tag

theorem outboundOf_ok_of_mem (h : registry.addProfiles profiles = .ok registry')
    (hmem : profile ∈ profiles) : ∃ record, outboundOf profile = .ok record := by
  induction profiles generalizing registry with
  | nil => cases hmem
  | cons head profiles ih =>
    obtain ⟨record, hrecord, hrest⟩ := addProfiles_cons_ok h
    rcases mem_cons.mp hmem with rfl | hmem
    · exact ⟨record, hrecord⟩
    · exact ih hrest hmem

theorem recordsOf_eq_cons {tag : String} {first : OutboundProfile}
    (hfirst : profiles.find? (·.tag = tag) = some first) (hrecord : outboundOf first = .ok record) :
    ∃ rest, recordsOf profiles tag = record :: rest := by
  induction profiles with
  | nil => cases hfirst
  | cons profile profiles ih =>
    rw [List.find?_cons] at hfirst
    by_cases htag : profile.tag = tag
    · simp only [htag, decide_true, Option.some.injEq] at hfirst
      subst hfirst htag
      exact ⟨_, recordsOf_cons_self hrecord⟩
    · simp only [htag, decide_false] at hfirst
      rw [recordsOf_cons_of_ne htag]
      exact ih hfirst

/-- No record hides the first one from a lookup along the order. -/
def Unhidden (order : List OutboundKind) : List (OutboundKind × OutboundSettings) → Prop
  | [] => True
  | first :: rest =>
      (∀ record ∈ rest, order.idxOf first.1 ≤ order.idxOf record.1) ∧
        (first.1 ∈ order →
          ((first :: rest).reverse.find? (·.1 = first.1)).map (·.2) = some first.2)

instance (order : List OutboundKind) (records : List (OutboundKind × OutboundSettings)) :
    Decidable (Unhidden order records) :=
  match records with
  | [] => .isTrue trivial
  | _ :: _ => inferInstanceAs (Decidable (_ ∧ _))

theorem mem_connectOrder (kind : OutboundKind) : kind ∈ connectOrder := by
  rcases kind with _ | _ | transport | transport | transport | _ | _ | _ | _ | _ | _ | _
  case trojan | vless | vmess => cases transport <;> decide
  all_goals decide

section

variable (h : fromProfiles profiles = .ok registry) {tag : String}
  (hrecords : recordsOf profiles tag = first :: rest)

include h hrecords

theorem finds_only_first_iff (order : List OutboundKind) :
    (∀ found, registry.find order tag = some found → found = first) ↔
      Unhidden order (recordsOf profiles tag) := by
  unfold find
  rw [outbound_fromProfiles h tag, hrecords, Layers.finds_only_head_iff]
  unfold Unhidden
  rw [Layers.fill_eq]

theorem find_connectOrder_ne_none : registry.find connectOrder tag ≠ none := by
  unfold find
  rw [outbound_fromProfiles h tag, hrecords, Ne, Layers.find_eq_none_iff]
  intro hnone
  exact Layers.fill_ne_none mem_cons_self (hnone first.1 (mem_connectOrder first.1))

end

/-- What `connectWithDns` and `relayUdpDatagramWithDns` look up is the server of that record. -/
theorem servers_find (registry : ProfileRegistry) (order : List OutboundKind) (tag : String) :
    registry.servers.find order tag =
      (registry.find order tag).map fun record => (record.1, record.2.server) := by
  unfold find Layers.find
  rw [List.map_findSome?]
  simp only [OutboundRegistry.find, servers, Option.map_map, Function.comp_def]

theorem supported_find (parsed : ParsedOutboundProfiles) (tag : String) :
    (Client.SubscriptionPreflightReport.ofParsed parsed).supported.find? (·.tag = tag) =
      (parsed.profiles.find? (·.tag = tag)).map Client.SubscriptionNodeCapability.fromProfile := by
  simp only [Client.SubscriptionPreflightReport.ofParsed, List.find?_map]
  rfl

/-- The node preflight shows for a tag is the one that is used exactly if no other profile hides
it. -/
theorem tag_names_one_node_iff {profiles : List OutboundProfile}
    (skipped : List SkippedOutboundProfile) {registry : ProfileRegistry}
    (hreg : fromProfiles profiles = .ok registry) {tag : String} {first : OutboundProfile}
    (hfirst : profiles.find? (·.tag = tag) = some first) :
    (Client.SubscriptionPreflightReport.ofParsed ⟨profiles, skipped⟩).supported.find?
        (·.tag = tag) = some (.fromProfile first) ∧
      ∃ record, outboundOf first = .ok record ∧
        ((registry.find connectOrder tag = some record ∧
            ∀ found, registry.find udpOrder tag = some found → found = record) ↔
          Unhidden connectOrder (recordsOf profiles tag) ∧
            Unhidden udpOrder (recordsOf profiles tag)) := by
  refine ⟨by rw [supported_find, hfirst]; rfl, ?_⟩
  obtain ⟨record, hrecord⟩ :=
    outboundOf_ok_of_mem hreg (List.mem_of_find?_eq_some hfirst)
  obtain ⟨rest, hrecords⟩ := recordsOf_eq_cons hfirst hrecord
  refine ⟨record, hrecord, ?_⟩
  rw [← finds_only_first_iff hreg hrecords connectOrder,
    ← finds_only_first_iff hreg hrecords udpOrder]
  refine and_congr_left fun _ => ?_
  obtain ⟨found, hfound⟩ :=
    Option.ne_none_iff_exists'.mp (find_connectOrder_ne_none hreg hrecords)
  rw [hfound]
  constructor
  · intro heq other hother
    exact Option.some.inj (hother.symm.trans heq)
  · intro h
    rw [h found rfl]

theorem exists_registry (profiles : List OutboundProfile) (h : (fromProfiles profiles).isOk) :
    ∃ registry, fromProfiles profiles = .ok registry := by
  cases hreg : fromProfiles profiles with
  | error error => rw [hreg] at h; cases h
  | ok registry => exact ⟨registry, rfl⟩

def trojanNode : OutboundProfile where
  tag := "node"
  protocol := .trojan
  endpoint := ⟨"a.example", 443⟩
  transport := .tcp
  security := .tls none false
  credential := "password"
  cipher := none
  flow := none

def vmessNode : OutboundProfile where
  tag := "node"
  protocol := .vmess
  endpoint := ⟨"b.example", 443⟩
  transport := .tcp
  security := .none
  credential := "00000000-0000-0000-0000-000000000000"
  cipher := none
  flow := none

def anyTlsNode : OutboundProfile :=
  { trojanNode with protocol := .anyTls, endpoint := ⟨"b.example", 443⟩ }

/-- AnyTLS comes after Trojan in both orders, so the tag stands for the Trojan node. -/
theorem tag_names_one_node_first :
    ∃ registry, fromProfiles [trojanNode, anyTlsNode] = .ok registry ∧
      (Client.SubscriptionPreflightReport.ofParsed ⟨[trojanNode, anyTlsNode], []⟩).supported.find?
          (·.tag = "node") = some (.fromProfile trojanNode) ∧
        ∃ record, outboundOf trojanNode = .ok record ∧
          registry.find connectOrder "node" = some record ∧
            ∀ found, registry.find udpOrder "node" = some found → found = record := by
  obtain ⟨registry, hreg⟩ := exists_registry [trojanNode, anyTlsNode] (by decide +kernel)
  have hfirst : [trojanNode, anyTlsNode].find? (·.tag = "node") = some trojanNode := by
    decide +kernel
  obtain ⟨hshown, record, hrecord, huses⟩ :=
    tag_names_one_node_iff [] hreg hfirst
  exact ⟨registry, hreg, hshown, record, hrecord,
    huses.mpr ⟨by decide +kernel, by decide +kernel⟩⟩

/-- With a second profile under the same tag, TCP goes to the first server and UDP to the second. -/
theorem two_servers_under_one_tag :
    (∀ profile ∈ [trojanNode, vmessNode], profile.validate = .ok ()) ∧
      ∃ registry, fromProfiles [trojanNode, vmessNode] = .ok registry ∧
        registry.servers.find connectOrder "node" =
          some (.trojan .tlsTcp, ⟨"a.example", 443⟩) ∧
        registry.servers.find udpOrder "node" = some (.vmess .tcp, ⟨"b.example", 443⟩) := by
  obtain ⟨registry, hreg⟩ := exists_registry [trojanNode, vmessNode] (by decide +kernel)
  have hfinds (order : List OutboundKind) : registry.servers.find order "node" =
      (fromProfiles [trojanNode, vmessNode]).toOption.bind (·.servers.find order "node") := by
    rw [hreg]
    rfl
  refine ⟨?_, registry, hreg, ?_, ?_⟩
  · intro profile hprof
    have hvalid : [trojanNode, vmessNode].all (fun profile => profile.validate.isOk) = true := by
      decide +kernel
    cases hvalidate : profile.validate with
    | ok => rfl
    | error error =>
      have hok := List.all_eq_true.mp hvalid profile hprof
      rw [hvalidate] at hok
      cases hok
  · rw [hfinds]
    decide +kernel
  · rw [hfinds]
    decide +kernel

end ProfileRegistry

end KeliNative.Outbound
