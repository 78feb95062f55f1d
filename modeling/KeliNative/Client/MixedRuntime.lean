import KeliNative.Net.Registry
import KeliNative.Proxy.Runtime

/-!
# Runtimes from subscriptions (`keli-cli/src/lib.rs`)

From the profiles of a subscription to the runtime that serves its selected node.
-/

namespace KeliNative.Client
open Protocol Route Outbound Relay Proxy Text

structure Handle where
  id : ℕ
  deriving DecidableEq

structure RuntimeHandles where
  connectionMetrics : Handle
  connectionWorkerGauge : Handle
  activeConnectionRegistry : Handle
  deriving DecidableEq

structure ManagedMixedRuntime extends MixedProxyRuntime where
  registry : ProfileRegistry
  outbounds_eq : outbounds = registry.servers
  handles : RuntimeHandles
  maxConnectionWorkers : ℕ

def defaultTunTcpMaxActiveSessions : ℕ := 4096

def defaultManagedMixedMaxConnectionWorkers : ℕ := 1024

/-- Texts of the standard library: addresses, and the `Debug` of a `str`. -/
structure StdTexts where
  ipText : IpText
  quote : String → String

structure CliPortRange where
  start : UInt16
  stop : UInt16
  deriving DecidableEq

def CliPortRange.label (range : CliPortRange) : String :=
  if range.start = range.stop then toString range.start.toNat
  else toString range.start.toNat ++ "-" ++ toString range.stop.toNat

/-! The texts of these errors are for the command line; the routes only ask for success. -/

def parseCliBlockCidr (ipText : IpText) (input : String) : Option RouteIpCidr := do
  let (network, prefixLen) ← splitOnce '/' input
  let network ← ipText.parse network
  let prefixLen ← parseBelow 256 prefixLen
  (RouteIpCidr.new network (UInt8.ofNat prefixLen)).toOption

def parseCliPort (value : String) : Option UInt16 := (parseU16 value).filter (· ≠ 0)

def parseCliBlockPort (input : String) : Option CliPortRange :=
  match splitOnce '-' input with
  | some (start, stop) => do
      let start ← parseCliPort start
      let stop ← parseCliPort stop
      if start > stop then none else some ⟨start, stop⟩
  | none => (parseCliPort input).map fun port => ⟨port, port⟩

def blockCidrRulePrefix : String := "cidr:"

def blockPortRulePrefix : String := "port:"

/-- The rule of one block rule text. A text with one of the two prefixes that does not parse is a
domain suffix like any other. -/
def blockRule (ipText : IpText) (rule : String) : RouteRule :=
  let cidr := (stripped blockCidrRulePrefix rule).bind (parseCliBlockCidr ipText)
  let port := (stripped blockPortRulePrefix rule).bind parseCliBlockPort
  match cidr, port with
  | some cidr, _ =>
      ⟨"block-cidr:" ++ ipText.display cidr.network ++ "/" ++ toString cidr.prefixLen.toNat,
        .ipCidr cidr, .block⟩
  | none, some range =>
      ⟨"block-port:" ++ range.label,
        if range.start = range.stop then .portExact range.start
        else .portRange range.start range.stop, .block⟩
  | none, none => ⟨"block-domain:" ++ rule, .domainSuffix rule, .block⟩

def routesFromCli (ipText : IpText) (blockDomains : List String) (defaultAction : RouteAction) :
    RouteEngine := ⟨blockDomains.map (blockRule ipText), defaultAction⟩

def mixedRuntimeFromParsedProfiles (texts : StdTexts) (parsed : ParsedOutboundProfiles)
    (blockDomains : List String) (relayOptions : RelayOptions) (outboundTag : Option String)
    (dnsOptions : MixedDnsOptions) (handles : RuntimeHandles) :
    Except String ManagedMixedRuntime :=
  let availableTags := parsed.profiles.map (·.tag)
  match outboundTag.or availableTags.head? with
  | none => .error "profile config did not contain supported outbounds"
  | some selectedTag =>
      if selectedTag ∉ availableTags then
        .error ("outbound tag not found: " ++ selectedTag ++ "; available: " ++
          ", ".intercalate availableTags)
      else match ProfileRegistry.fromProfiles parsed.profiles with
        | .error error =>
            .error ("profile config contains unsupported outbound: " ++ error.display texts.quote)
        | .ok registry =>
            .ok {
              routes := routesFromCli texts.ipText blockDomains (.outbound selectedTag)
              relayOptions
              outbounds := registry.servers
              dnsOptions
              tunTcpMaxActiveSessions := defaultTunTcpMaxActiveSessions
              registry
              outbounds_eq := rfl
              handles
              maxConnectionWorkers := defaultManagedMixedMaxConnectionWorkers }

def mixedRuntimeFromSubscriptionConfigText (readers : Readers) (texts : StdTexts)
    (configText : String) (blockDomains : List String) (relayOptions : RelayOptions)
    (outboundTag : Option String) (dnsOptions : MixedDnsOptions) (handles : RuntimeHandles) :
    Except String ManagedMixedRuntime :=
  match readers.parseSubscriptionOutboundProfiles configText with
  | .error error => .error ("profile config parse failed: " ++ error.display)
  | .ok parsed =>
      mixedRuntimeFromParsedProfiles texts parsed blockDomains relayOptions outboundTag dnsOptions
        handles

variable {readers : Readers} {texts : StdTexts} {parsed : ParsedOutboundProfiles}
  {blockDomains : List String} {relayOptions : RelayOptions} {dnsOptions : MixedDnsOptions}
  {handles : RuntimeHandles}

theorem mixedRuntime_ok {tag : String} {rt : ManagedMixedRuntime}
    (h : mixedRuntimeFromParsedProfiles texts parsed blockDomains relayOptions (some tag) dnsOptions
      handles = .ok rt) :
    tag ∈ parsed.profiles.map (·.tag) ∧
      ProfileRegistry.fromProfiles parsed.profiles = .ok rt.registry ∧
      rt.routes = routesFromCli texts.ipText blockDomains (.outbound tag) ∧
      rt.handles = handles := by
  unfold mixedRuntimeFromParsedProfiles at h
  simp only [Option.some_or] at h
  split_ifs at h with hmem
  split at h
  · cases h
  · rename_i registry hreg
    cases h
    exact ⟨hmem, hreg, rfl, rfl⟩

theorem isOk_mixedRuntime_iff {tag : String} (h : tag ∈ parsed.profiles.map (·.tag)) :
    (mixedRuntimeFromParsedProfiles texts parsed blockDomains relayOptions (some tag) dnsOptions
      handles).isOk ↔ (ProfileRegistry.fromProfiles parsed.profiles).isOk := by
  unfold mixedRuntimeFromParsedProfiles
  simp only [Option.some_or]
  rw [if_neg (not_not.mpr h)]
  cases ProfileRegistry.fromProfiles parsed.profiles <;> rfl

/-- A plan that preflights can be run exactly if the registry serves the cipher of every VMess
profile. -/
theorem preflighted_plan_runnable_iff (texts : StdTexts) (blockDomains : List String)
    (relayOptions : RelayOptions) (dnsOptions : MixedDnsOptions) (handles : RuntimeHandles)
    {configText listen : String} {preferredOutbound : Option String} {plan : ConnectionPlan}
    (hplan : buildConnectionPlan readers configText preferredOutbound listen = .ok plan) :
    (∃ parsed, readers.parseSubscriptionOutboundProfiles configText = .ok parsed ∧
      ((mixedRuntimeFromParsedProfiles texts parsed blockDomains relayOptions
          (some plan.selectedOutbound) dnsOptions handles).isOk ↔
        ∀ profile ∈ parsed.profiles, CipherServed profile)) ∧
      ∀ (profile : OutboundProfile) (registry : ProfileRegistry), profile.validate = .ok () →
        ((registry.addProfile profile).isOk ↔ CipherServed profile) := by
  refine ⟨?_, fun profile registry hvalid => ProfileRegistry.isOk_addProfile_iff hvalid registry⟩
  obtain ⟨parsed, hparsed, hpreflight, -, -⟩ := buildConnectionPlan_ok hplan
  have hsel := selectedOutbound_mem hplan
  rw [hpreflight, SubscriptionPreflightReport.ofParsed_supportedTags] at hsel
  refine ⟨parsed, hparsed, ?_⟩
  rw [isOk_mixedRuntime_iff hsel]
  exact ProfileRegistry.isOk_addProfiles_iff (readers.validate_of_parse hparsed) .new

/-! Two documents and what a YAML reader makes of them. In the second one the node that is not
selected has a cipher the registry does not know. -/

def trojanProxy : MihomoProxy where
  name := some "good"
  protocol := some "trojan"
  server := some "a.example"
  port := some 443
  password := some "password"

def vmessProxy : MihomoProxy where
  name := some "other"
  protocol := some "vmess"
  server := some "b.example"
  port := some 443
  uuid := some "00000000-0000-0000-0000-000000000000"
  cipher := some "aes-128-cfb"

def trojanText : String :=
  "proxies:\n- name: good\n  type: trojan\n  server: a.example\n  port: 443\n" ++
    "  password: password\n"

def vmessText : String :=
  "- name: other\n  type: vmess\n  server: b.example\n  port: 443\n" ++
    "  uuid: 00000000-0000-0000-0000-000000000000\n  cipher: aes-128-cfb\n"

def twoDocuments : Readers where
  yaml text :=
    if text = trojanText then .ok ⟨[trojanProxy]⟩
    else if text = trojanText ++ vmessText then .ok ⟨[trojanProxy, vmessProxy]⟩
    else .error "unreadable"
  json _ := .error "unreadable"
  url _ := .error "unreadable"
  base64 _ _ := .error "unreadable"
  utf8Error _ := "unreadable"

def trojanProfile : OutboundProfile where
  tag := "good"
  protocol := .trojan
  endpoint := ⟨"a.example", 443⟩
  transport := .tcp
  security := .tls (some "a.example") false
  credential := "password"
  cipher := none
  flow := none

def vmessProfile : OutboundProfile where
  tag := "other"
  protocol := .vmess
  endpoint := ⟨"b.example", 443⟩
  transport := .tcp
  security := .none
  credential := "00000000-0000-0000-0000-000000000000"
  cipher := some "aes-128-cfb"
  flow := none

theorem parse_trojanText :
    twoDocuments.parseSubscriptionOutboundProfiles trojanText = .ok ⟨[trojanProfile], []⟩ := by
  decide +kernel

theorem parse_bothTexts :
    twoDocuments.parseSubscriptionOutboundProfiles (trojanText ++ vmessText) =
      .ok ⟨[trojanProfile, vmessProfile], []⟩ := by
  decide +kernel

def someStdTexts : StdTexts := ⟨decimalIpText, id⟩

def someRelayOptions : RelayOptions := ⟨none, none⟩

def someDnsOptions : MixedDnsOptions := ⟨.allowSystem, .dualStack, Duration.fromSecs 60⟩

def someHandles : RuntimeHandles := ⟨⟨0⟩, ⟨1⟩, ⟨2⟩⟩

theorem plan_good {configText : String} {parsed : ParsedOutboundProfiles}
    (hparsed : readers.parseSubscriptionOutboundProfiles configText = .ok parsed)
    (hgood : "good" ∈ parsed.profiles.map (·.tag)) (listen : String) :
    buildConnectionPlan readers configText (some "good") listen =
      .ok ⟨"good", listen, .ofParsed parsed⟩ := by
  unfold buildConnectionPlan preflightSubscriptionConfig
  rw [hparsed]
  rw [← SubscriptionPreflightReport.ofParsed_supportedTags] at hgood
  simp only [bind, Except.bind, SubscriptionPreflightReport.selectOutbound, hgood, if_true]
  rfl

/-- With the first document the node is planned and runs. -/
theorem preflighted_plan_runnable_good :
    ∃ plan, buildConnectionPlan twoDocuments trojanText (some "good") "127.0.0.1:7890" = .ok plan ∧
      ∃ parsed, twoDocuments.parseSubscriptionOutboundProfiles trojanText = .ok parsed ∧
        (mixedRuntimeFromParsedProfiles someStdTexts parsed [] someRelayOptions
          (some plan.selectedOutbound) someDnsOptions someHandles).isOk := by
  have hplan := plan_good parse_trojanText (by decide) "127.0.0.1:7890"
  obtain ⟨⟨parsed, hparsed, hiff⟩, -⟩ :=
    preflighted_plan_runnable_iff someStdTexts [] someRelayOptions someDnsOptions someHandles hplan
  refine ⟨_, hplan, parsed, hparsed, hiff.mpr ?_⟩
  rw [parse_trojanText] at hparsed
  cases hparsed
  decide

/-- With the second document the same node is planned and listed as supported, and cannot be run. -/
theorem supported_node_not_runnable :
    ∃ plan, buildConnectionPlan twoDocuments (trojanText ++ vmessText) (some "good")
        "127.0.0.1:7890" = .ok plan ∧
      plan.selectedOutbound = "good" ∧
      ∃ parsed,
        twoDocuments.parseSubscriptionOutboundProfiles (trojanText ++ vmessText) = .ok parsed ∧
        (mixedRuntimeFromParsedProfiles someStdTexts parsed [] someRelayOptions (some "good")
          someDnsOptions someHandles).map (·.routes) =
            .error ("profile config contains unsupported outbound: " ++
              "outbound profile other vmess cipher is unsupported: aes-128-cfb") :=
  ⟨_, plan_good parse_bothTexts (by decide) _, rfl, _, parse_bothTexts, by decide +kernel⟩

end KeliNative.Client
