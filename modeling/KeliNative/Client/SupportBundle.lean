import KeliNative.Net.Registry

/-!
# The profile section of support bundles (`support_bundle_profile_value`, `keli-cli/src/lib.rs`)

A bundle describes the profiles without their secrets.
-/

namespace KeliNative.Client
open Protocol Text Outbound List ProfileRegistry

/-- The values `json!` makes here. An object lists its entries in order. -/
inductive JsonReport where
  | null
  | bool (value : Bool)
  | number (value : ℕ)
  | text (value : String)
  | array (values : List JsonReport)
  | object (entries : List (String × JsonReport))

namespace JsonReport

def texts (values : List String) : JsonReport := .array (values.map .text)

def optional {α : Type} (make : α → JsonReport) : Option α → JsonReport
  | none => .null
  | some value => make value

end JsonReport

def profilesWithRegistrySupportedOutbounds (quote : String → String) (parsed : ParsedOutboundProfiles) :
    ParsedOutboundProfiles :=
  parsed.profiles.foldl (fun parsed profile =>
    match ProfileRegistry.fromProfiles [profile] with
    | .ok _ => { parsed with profiles := parsed.profiles ++ [profile] }
    | .error error => { parsed with skipped := parsed.skipped ++
        [⟨profile.tag, "registry unsupported: " ++ error.display quote⟩] })
    ⟨[], parsed.skipped⟩

structure SkippedSummaryReport where
  reason : String
  names : List String
  deriving DecidableEq

structure ProtocolCapabilityReport where
  protocol : String
  tcpRelaySupported : Bool
  udpSupported : Bool
  tags : List String
  deriving DecidableEq

def updateOrPush {α : Type} (found : α → Bool) (update : α → α) (fresh : α) : List α → List α
  | [] => [fresh]
  | entry :: entries =>
    if found entry then update entry :: entries else entry :: updateOrPush found update fresh entries

def skippedSummaryReports (skipped : List SkippedOutboundProfile) : List SkippedSummaryReport :=
  skipped.foldl (fun summaries skipped => updateOrPush (fun summary => summary.reason = skipped.reason)
    (fun summary => { summary with names := summary.names ++ [skipped.name] })
    ⟨skipped.reason, [skipped.name]⟩ summaries) []

def protocolCapabilityReports (profiles : List OutboundProfile) : List ProtocolCapabilityReport :=
  profiles.foldl (fun capabilities profile =>
    updateOrPush (fun capability => capability.protocol = profile.protocol.debug)
      (fun capability => { capability with
        tags := capability.tags ++ [profile.tag]
        udpSupported := capability.udpSupported || profileSupportsUdp profile })
      ⟨profile.protocol.debug, true, profileSupportsUdp profile, [profile.tag]⟩ capabilities) []

def udpSupportedTags (profiles : List OutboundProfile) : List String :=
  (profiles.filter profileSupportsUdp).map (·.tag)

def redactedSupportedProfileValue (profile : OutboundProfile) : JsonReport :=
  .object [("tag", .text profile.tag), ("protocol", .text profile.protocol.debug),
    ("transport", .text (transportLabel profile.transport)),
    ("security", .text (securityLabel profile.security)),
    ("tls_skip_verify", .optional .bool (tlsSkipVerify profile.security)),
    ("udp_supported", .bool (profileSupportsUdp profile))]

def sourceFormatText : SubscriptionInputFormat → String
  | .mihomoYaml => "mihomo_yaml"
  | .shareLinks => "share_links"

def skippedSummaryValue (summary : SkippedSummaryReport) : JsonReport :=
  .object [("reason", .text summary.reason), ("count", .number summary.names.length),
    ("names", .texts summary.names)]

def skippedValue (skipped : SkippedOutboundProfile) : JsonReport :=
  .object [("name", .text skipped.name), ("reason", .text skipped.reason)]

def protocolCapabilityValue (capability : ProtocolCapabilityReport) : JsonReport :=
  .object [("protocol", .text capability.protocol),
    ("tcp_relay_supported", .bool capability.tcpRelaySupported),
    ("udp_supported", .bool capability.udpSupported), ("tags", .texts capability.tags)]

def supportedProfilesValue (format : SubscriptionInputFormat) (parsed : ParsedOutboundProfiles) :
    JsonReport :=
  let supportedTags := parsed.profiles.map (·.tag)
  let udpTags := udpSupportedTags parsed.profiles
  let summary := skippedSummaryReports parsed.skipped
  let capabilities := protocolCapabilityReports parsed.profiles
  .object [("status", .text (if parsed.profiles = [] then "error" else "ok")),
    ("source_format", .text (sourceFormatText format)),
    ("supported_count", .number parsed.profiles.length),
    ("skipped_count", .number parsed.skipped.length),
    ("skipped_summary_count", .number summary.length),
    ("default_outbound", .optional .text supportedTags.head?),
    ("supported_tags", .texts supportedTags),
    ("supported", .array (parsed.profiles.map redactedSupportedProfileValue)),
    ("udp_supported_count", .number udpTags.length),
    ("udp_supported_tags", .texts udpTags),
    ("protocol_capability_count", .number capabilities.length),
    ("protocol_capabilities", .array (capabilities.map protocolCapabilityValue)),
    ("skipped_summary", .array (summary.map skippedSummaryValue)),
    ("skipped", .array (parsed.skipped.map skippedValue))]

def supportBundleProfileValue (readers : Readers) (quote : String → String) : Option String → JsonReport
  | none => .null
  | some configText =>
    let sourceFormat := Readers.detectSubscriptionInputFormat configText
    match readers.parseSubscriptionOutboundProfiles configText with
    | .error error => .object [("status", .text "error"),
        ("source_format", .text (sourceFormatText sourceFormat)),
        ("error", .text ("profile config parse failed: " ++ error.display))]
    | .ok parsed =>
      supportedProfilesValue sourceFormat (profilesWithRegistrySupportedOutbounds quote parsed)

def withoutNames : TransportKind → TransportKind
  | .tcp => .tcp
  | .webSocket .. => .webSocket "" none
  | .httpUpgrade .. => .httpUpgrade "" none
  | .http2 .. => .http2 "" none
  | .grpc .. => .grpc none
  | .quic .. => .quic none none none

def withoutSni : SecurityKind → SecurityKind
  | .none => .none
  | .tls _ skipVerify => .tls none skipVerify

/-- A profile with nothing but its tag, protocol, kinds, verification flag and cipher. -/
def withoutSecrets (profile : OutboundProfile) : OutboundProfile :=
  { profile with
    endpoint := ⟨"", 0⟩, transport := withoutNames profile.transport
    security := withoutSni profile.security, credential := "", flow := none }

def refusalText (profile : OutboundProfile) : String :=
  "outbound profile " ++ profile.tag ++ " vmess cipher is unsupported: " ++
    toAsciiLowercase (trim (profile.cipher.getD "auto"))

theorem fromProfiles_refused {prof : OutboundProfile} (hvalid : prof.validate = .ok ())
    (hcipher : ¬CipherServed prof) (quote : String → String) :
    ∃ error, fromProfiles [prof] = .error error ∧
      error.display quote = refusalText prof := by
  obtain ⟨hvmess, hname⟩ := Classical.not_imp.mp hcipher
  have hsecurity : vmessSecurityFromProfileCipher prof.tag prof.cipher =
      .error (.unsupportedVmessCipher prof.tag
        (toAsciiLowercase (trim (prof.cipher.getD "auto")))) := by
    unfold vmessSecurityFromProfileCipher
    dsimp only
    generalize toAsciiLowercase (trim (prof.cipher.getD "auto")) = name at hname
    simp only [mem_cons, not_mem_nil, or_false, not_or] at hname
    obtain ⟨hempty, hauto, haes, hchacha, hnone, hzero⟩ := hname
    rw [if_neg (by simp [hempty, hauto, haes]), if_neg hchacha, if_neg (by simp [hnone, hzero])]
  have houtbound : outboundOf prof = .error (.unsupportedVmessCipher prof.tag
      (toAsciiLowercase (trim (prof.cipher.getD "auto")))) := by
    obtain ⟨tag, proto, endpoint, transport, security, credential, cipher, flow⟩ := prof
    dsimp only at hvmess hsecurity
    subst hvmess
    simp only [outboundOf, hsecurity]
    rfl
  refine ⟨.unsupportedVmessCipher prof.tag (toAsciiLowercase (trim (prof.cipher.getD "auto"))),
    ?_, rfl⟩
  rw [fromProfiles, addProfiles, foldlM_cons,
    addProfile, hvalid]
  simp only [houtbound]
  rfl

theorem fromProfiles_served {prof : OutboundProfile} (hvalid : prof.validate = .ok ())
    (hcipher : CipherServed prof) : ∃ registry, fromProfiles [prof] = .ok registry := by
  have hok : (fromProfiles [prof]).isOk := by
    rw [fromProfiles, isOk_addProfiles_iff
      (forall_mem_singleton.mpr hvalid)]
    exact forall_mem_singleton.mpr hcipher
  exact exists_registry [prof] hok

def sortedByCipher (parsed : ParsedOutboundProfiles) : ParsedOutboundProfiles :=
  ⟨parsed.profiles.filter (CipherServed ·), parsed.skipped ++
    (parsed.profiles.filter (¬CipherServed ·)).map fun profile =>
      ⟨profile.tag, "registry unsupported: " ++ refusalText profile⟩⟩

theorem profilesWithRegistrySupportedOutbounds_eq {parsed : ParsedOutboundProfiles} (h : parsed.Valid)
    (quote : String → String) :
    profilesWithRegistrySupportedOutbounds quote parsed = sortedByCipher parsed := by
  obtain ⟨profiles, skipped⟩ := parsed
  unfold profilesWithRegistrySupportedOutbounds sortedByCipher
  suffices hloop : ∀ accepted, profiles.foldl _ (⟨accepted, skipped⟩ : ParsedOutboundProfiles) =
      ⟨accepted ++ profiles.filter (CipherServed ·), skipped ++
        (profiles.filter (¬CipherServed ·)).map fun prof =>
          ⟨prof.tag, "registry unsupported: " ++ refusalText prof⟩⟩ by
    exact hloop []
  induction profiles generalizing skipped with
  | nil =>
    intro accepted
    simp
  | cons prof profiles ih =>
    intro accepted
    obtain ⟨hvalid, hrest⟩ := forall_mem_cons.mp h
    rw [foldl_cons]
    by_cases hcipher : CipherServed prof
    · obtain ⟨registry, hreg⟩ := fromProfiles_served hvalid hcipher
      rw [hreg]
      dsimp only
      rw [ih _ hrest]
      simp [hcipher]
    · obtain ⟨error, hreg, hdisplay⟩ := fromProfiles_refused hvalid hcipher quote
      rw [hreg]
      dsimp only
      rw [hdisplay, ih _ hrest]
      simp [hcipher]

theorem transportLabel_withoutNames (transport : TransportKind) :
    transportLabel (withoutNames transport) = transportLabel transport := by
  cases transport <;> rfl

theorem securityLabel_withoutSni (security : SecurityKind) :
    securityLabel (withoutSni security) = securityLabel security := by
  cases security <;> rfl

theorem tlsSkipVerify_withoutSni (security : SecurityKind) :
    tlsSkipVerify (withoutSni security) = tlsSkipVerify security := by
  cases security <;> rfl

theorem redactedSupportedProfileValue_withoutSecrets (prof : OutboundProfile) :
    redactedSupportedProfileValue (withoutSecrets prof) = redactedSupportedProfileValue prof := by
  simp only [redactedSupportedProfileValue, withoutSecrets, transportLabel_withoutNames,
    securityLabel_withoutSni, tlsSkipVerify_withoutSni]
  rfl

variable (profiles : List OutboundProfile)

theorem protocolCapabilityReports_withoutSecrets :
    protocolCapabilityReports (profiles.map withoutSecrets) = protocolCapabilityReports profiles := by
  rw [protocolCapabilityReports, foldl_map]
  rfl

theorem udpSupportedTags_withoutSecrets :
    udpSupportedTags (profiles.map withoutSecrets) = udpSupportedTags profiles := by
  rw [udpSupportedTags, filter_map, map_map]
  rfl

theorem supportedProfilesValue_withoutSecrets (format : SubscriptionInputFormat)
    (profiles : List OutboundProfile) (skipped : List SkippedOutboundProfile) :
    supportedProfilesValue format ⟨profiles.map withoutSecrets, skipped⟩ =
      supportedProfilesValue format ⟨profiles, skipped⟩ := by
  have hvalues : (profiles.map withoutSecrets).map redactedSupportedProfileValue =
      profiles.map redactedSupportedProfileValue := by
    rw [map_map]
    exact map_congr_left fun prof _ => redactedSupportedProfileValue_withoutSecrets prof
  have htags : (profiles.map withoutSecrets).map (·.tag) = profiles.map (·.tag) := map_map
  simp only [supportedProfilesValue, hvalues, htags, protocolCapabilityReports_withoutSecrets,
    udpSupportedTags_withoutSecrets, length_map, map_eq_nil_iff]

theorem sortedByCipher_withoutSecrets (skipped : List SkippedOutboundProfile) :
    sortedByCipher ⟨profiles.map withoutSecrets, skipped⟩ =
      ⟨(sortedByCipher ⟨profiles, skipped⟩).profiles.map withoutSecrets,
        (sortedByCipher ⟨profiles, skipped⟩).skipped⟩ := by
  simp only [sortedByCipher, filter_map, map_map]
  rfl

theorem supportBundleProfileValue_eq {readers : Readers} {text : String} {parsed : ParsedOutboundProfiles}
    (htext : readers.parseSubscriptionOutboundProfiles text = .ok parsed) (quote : String → String) :
    supportBundleProfileValue readers quote (some text) =
      supportedProfilesValue (Readers.detectSubscriptionInputFormat text)
        (sortedByCipher ⟨parsed.profiles.map withoutSecrets, parsed.skipped⟩) := by
  rw [sortedByCipher_withoutSecrets, supportedProfilesValue_withoutSecrets, supportBundleProfileValue,
    htext]
  dsimp only
  rw [profilesWithRegistrySupportedOutbounds_eq (readers.validate_of_parse htext)]

/-- Two texts whose profiles differ in their secrets only have the same section. -/
theorem support_bundle_hides_secrets (readers : Readers) (quote : String → String)
    {text text' : String} {parsed parsed' : ParsedOutboundProfiles}
    (hformat : Readers.detectSubscriptionInputFormat text = Readers.detectSubscriptionInputFormat text')
    (htext : readers.parseSubscriptionOutboundProfiles text = .ok parsed)
    (htext' : readers.parseSubscriptionOutboundProfiles text' = .ok parsed')
    (hskipped : parsed.skipped = parsed'.skipped)
    (hprofs : List.Forall₂ (fun profile profile' => withoutSecrets profile = withoutSecrets profile')
      parsed.profiles parsed'.profiles) :
    supportBundleProfileValue readers quote (some text) =
      supportBundleProfileValue readers quote (some text') := by
  have hmaps : parsed.profiles.map withoutSecrets = parsed'.profiles.map withoutSecrets := by
    rw [← List.forall₂_eq_eq_eq, List.forall₂_map_left_iff, List.forall₂_map_right_iff]
    exact hprofs
  rw [supportBundleProfileValue_eq htext, supportBundleProfileValue_eq htext', hformat, hmaps, hskipped]

def refusedProxy (server path : String) (port : UInt16) (uuid : String) : MihomoProxy where
  name := some "node"
  protocol := some "vmess"
  server := some server
  port := some port
  uuid := some uuid
  cipher := some "RC4"
  network := some "ws"
  wsOpts := some { path := some path }

def refusedText (server path port uuid : String) : String :=
  "proxies:\n- name: node\n  type: vmess\n  server: " ++ server ++ "\n  port: " ++ port ++
    "\n  uuid: " ++ uuid ++ "\n  cipher: RC4\n  network: ws\n  ws-opts:\n    path: " ++ path ++ "\n"

def firstText : String :=
  refusedText "a.example" "/a" "443" "00000000-0000-0000-0000-00000000000a"

def secondText : String :=
  refusedText "b.example" "/b" "8443" "00000000-0000-0000-0000-00000000000b"

def twoServers : Readers where
  yaml text :=
    if text = firstText then
      .ok ⟨[refusedProxy "a.example" "/a" 443 "00000000-0000-0000-0000-00000000000a"]⟩
    else if text = secondText then
      .ok ⟨[refusedProxy "b.example" "/b" 8443 "00000000-0000-0000-0000-00000000000b"]⟩
    else .error "unreadable"
  json _ := .error "unreadable"
  url _ := .error "unreadable"
  base64 _ _ := .error "unreadable"
  utf8Error _ := "unreadable"

def refusedProfile (server path : String) (port : UInt16) (uuid : String) : OutboundProfile where
  tag := "node"
  protocol := .vmess
  endpoint := ⟨server, port⟩
  transport := .webSocket path (some server)
  security := .none
  credential := uuid
  cipher := some "RC4"
  flow := none

theorem support_bundle_hides_two_servers :
    supportBundleProfileValue twoServers id (some firstText) =
      supportBundleProfileValue twoServers id (some secondText) := by
  have ha : twoServers.parseSubscriptionOutboundProfiles firstText =
      .ok ⟨[refusedProfile "a.example" "/a" 443 "00000000-0000-0000-0000-00000000000a"], []⟩ := by
    decide +kernel
  have hb : twoServers.parseSubscriptionOutboundProfiles secondText =
      .ok ⟨[refusedProfile "b.example" "/b" 8443 "00000000-0000-0000-0000-00000000000b"], []⟩ := by
    decide +kernel
  have hformat : Readers.detectSubscriptionInputFormat firstText =
      Readers.detectSubscriptionInputFormat secondText := by decide +kernel
  exact support_bundle_hides_secrets twoServers id hformat ha hb rfl (.cons rfl .nil)

end KeliNative.Client
