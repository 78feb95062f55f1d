import KeliNative.Protocol.Subscription

/-!
# Preflight and connection plans (`keli-client-core/src/lib.rs`)

What a subscription offers before anything is started.
-/

namespace KeliNative.Client
open Protocol

inductive ClientErrorKind where
  | coreNotStarted
  | dnsTimeout
  | tcpConnectTimeout
  | tlsHandshakeFailed
  | webSocketUpgradeFailed
  | proxyAuthFailed
  | relayStalled
  | tunPermissionMissing
  | systemProxyLoop
  | routeNoOutbound
  | noSupportedOutbounds
  | outboundNotFound (tag : String)
  | panelTrafficRestricted (accountState riskControl : String)
  | configInvalid (error : String)
  deriving DecidableEq

def transportLabel : TransportKind → String
  | .tcp => "tcp"
  | .webSocket .. => "ws"
  | .httpUpgrade .. => "httpupgrade"
  | .http2 .. => "h2"
  | .grpc .. => "grpc"
  | .quic .. => "quic"

def securityLabel : SecurityKind → String
  | .none => "none"
  | .tls .. => "tls"

def tlsSkipVerify : SecurityKind → Option Bool
  | .none => none
  | .tls _ skipVerify => some skipVerify

def profileSupportsUdp (profile : OutboundProfile) : Bool :=
  decide (profile.protocol ∉ [.http, .naive])

structure SubscriptionNodeCapability where
  tag : String
  protocol : String
  transport : String
  security : String
  tlsSkipVerify : Option Bool
  udpSupported : Bool
  deriving DecidableEq

def SubscriptionNodeCapability.fromProfile (profile : OutboundProfile) :
    SubscriptionNodeCapability where
  tag := profile.tag
  protocol := profile.protocol.debug
  transport := transportLabel profile.transport
  security := securityLabel profile.security
  tlsSkipVerify := Client.tlsSkipVerify profile.security
  udpSupported := profileSupportsUdp profile

structure SubscriptionPreflightReport where
  supportedTags : List String
  supported : List SubscriptionNodeCapability
  skipped : List SkippedOutboundProfile
  defaultOutbound : Option String
  deriving DecidableEq

namespace SubscriptionPreflightReport

def isUsable (report : SubscriptionPreflightReport) : Bool := !report.supportedTags.isEmpty

def selectOutbound (report : SubscriptionPreflightReport) (preferred : Option String) :
    Except ClientErrorKind String :=
  match preferred with
  | some tag =>
      if tag ∈ report.supportedTags then .ok tag else .error (.outboundNotFound tag)
  | none =>
      match report.defaultOutbound with
      | some tag => .ok tag
      | none => .error .noSupportedOutbounds

def ofParsed (parsed : ParsedOutboundProfiles) : SubscriptionPreflightReport :=
  let supported := parsed.profiles.map SubscriptionNodeCapability.fromProfile
  let supportedTags := supported.map (·.tag)
  ⟨supportedTags, supported, parsed.skipped, supportedTags.head?⟩

theorem ofParsed_supportedTags (parsed : ParsedOutboundProfiles) :
    (ofParsed parsed).supportedTags = parsed.profiles.map (·.tag) := by
  simp only [ofParsed, List.map_map]
  rfl

theorem mem_of_selectOutbound {report : SubscriptionPreflightReport} {preferred : Option String}
    {tag : String} (hdefault : report.defaultOutbound = report.supportedTags.head?)
    (h : report.selectOutbound preferred = .ok tag) : tag ∈ report.supportedTags := by
  unfold selectOutbound at h
  cases preferred with
  | some preferred =>
    dsimp only at h
    split_ifs at h with hmem
    cases h
    exact hmem
  | none =>
    rw [hdefault] at h
    cases hhead : report.supportedTags.head? with
    | none => rw [hhead] at h; cases h
    | some first =>
      rw [hhead] at h
      cases h
      exact List.mem_of_mem_head? hhead

end SubscriptionPreflightReport

def preflightSubscriptionConfig (readers : Readers) (configText : String) :
    Except ClientErrorKind SubscriptionPreflightReport :=
  match readers.parseSubscriptionOutboundProfiles configText with
  | .ok parsed => .ok (.ofParsed parsed)
  | .error error => .error (.configInvalid error.display)

theorem preflight_ok {readers : Readers} {text : String} {report : SubscriptionPreflightReport}
    (h : preflightSubscriptionConfig readers text = .ok report) :
    ∃ parsed, readers.parseSubscriptionOutboundProfiles text = .ok parsed ∧
      report = .ofParsed parsed := by
  unfold preflightSubscriptionConfig at h
  split at h
  · cases h
    exact ⟨_, ‹_›, rfl⟩
  · cases h

inductive SubscriptionUpdateReason where
  | initialSubscription
  | selectedOutboundPreserved
  | selectedOutboundMissingUseDefault
  | selectedOutboundMissingNoDefault
  | noSupportedOutbounds
  deriving DecidableEq

structure SubscriptionUpdateReport where
  currentSupportedCount : ℕ
  newSupportedCount : ℕ
  newSkippedCount : ℕ
  currentDefaultOutbound : Option String
  newDefaultOutbound : Option String
  currentSelectedOutbound : Option String
  plannedSelectedOutbound : Option String
  selectedOutboundPreserved : Bool
  selectedOutboundChanged : Bool
  usable : Bool
  addedTags : List String
  removedTags : List String
  retainedTags : List String
  reason : SubscriptionUpdateReason
  deriving DecidableEq

def tagsAdded (current new : List String) : List String := new.filter (· ∉ current)

def tagsRemoved (current new : List String) : List String := current.filter (· ∉ new)

def tagsRetained (current new : List String) : List String := new.filter (· ∈ current)

def plannedSelection (new : SubscriptionPreflightReport) (effectiveCurrentSelected : Option String) :
    Option String × Bool × SubscriptionUpdateReason :=
  if !new.isUsable then (none, false, .noSupportedOutbounds)
  else match effectiveCurrentSelected with
    | some selected =>
        if selected ∈ new.supportedTags then (some selected, true, .selectedOutboundPreserved)
        else match new.defaultOutbound with
          | some defaultOutbound =>
              (some defaultOutbound, false, .selectedOutboundMissingUseDefault)
          | none => (none, false, .selectedOutboundMissingNoDefault)
    | none => (new.defaultOutbound, false, .initialSubscription)

def subscriptionUpdateReportFromPreflights (current : Option SubscriptionPreflightReport)
    (new : SubscriptionPreflightReport) (currentSelectedOutbound : Option String) :
    SubscriptionUpdateReport :=
  let currentTags := (current.map (·.supportedTags)).getD []
  let currentDefaultOutbound := current.bind (·.defaultOutbound)
  let effectiveCurrentSelected := currentSelectedOutbound <|> currentDefaultOutbound
  let planned := plannedSelection new effectiveCurrentSelected
  { currentSupportedCount := (current.map (·.supported.length)).getD 0
    newSupportedCount := new.supported.length
    newSkippedCount := new.skipped.length
    currentDefaultOutbound
    newDefaultOutbound := new.defaultOutbound
    currentSelectedOutbound := effectiveCurrentSelected
    plannedSelectedOutbound := planned.1
    selectedOutboundPreserved := planned.2.1
    selectedOutboundChanged := decide (effectiveCurrentSelected ≠ planned.1)
    usable := new.isUsable
    addedTags := tagsAdded currentTags new.supportedTags
    removedTags := tagsRemoved currentTags new.supportedTags
    retainedTags := tagsRetained currentTags new.supportedTags
    reason := planned.2.2 }

def preflightCurrent (readers : Readers) :
    Option String → Except ClientErrorKind (Option SubscriptionPreflightReport)
  | none => .ok none
  | some configText => (preflightSubscriptionConfig readers configText).map some

def planSubscriptionUpdate (readers : Readers) (currentConfigText : Option String)
    (newConfigText : String) (currentSelectedOutbound : Option String) :
    Except ClientErrorKind SubscriptionUpdateReport := do
  let current ← preflightCurrent readers currentConfigText
  let new ← preflightSubscriptionConfig readers newConfigText
  return subscriptionUpdateReportFromPreflights current new currentSelectedOutbound

structure ConnectionPlan where
  selectedOutbound : String
  listen : String
  preflight : SubscriptionPreflightReport
  deriving DecidableEq

def buildConnectionPlan (readers : Readers) (configText : String)
    (preferredOutbound : Option String) (listen : String) :
    Except ClientErrorKind ConnectionPlan := do
  let preflight ← preflightSubscriptionConfig readers configText
  let selectedOutbound ← preflight.selectOutbound preferredOutbound
  return ⟨selectedOutbound, listen, preflight⟩

section

variable {readers : Readers} {configText listen : String} {preferredOutbound : Option String}
  {plan : ConnectionPlan}
  (h : buildConnectionPlan readers configText preferredOutbound listen = .ok plan)

include h

theorem buildConnectionPlan_ok :
    ∃ parsed, readers.parseSubscriptionOutboundProfiles configText = .ok parsed ∧
      plan.preflight = .ofParsed parsed ∧
      plan.preflight.selectOutbound preferredOutbound = .ok plan.selectedOutbound ∧
      plan.listen = listen := by
  unfold buildConnectionPlan at h
  cases hpreflight : preflightSubscriptionConfig readers configText with
  | error error => rw [hpreflight] at h; cases h
  | ok preflight =>
    rw [hpreflight] at h
    cases hsel : preflight.selectOutbound preferredOutbound with
    | error error => simp only [bind, Except.bind, hsel] at h; cases h
    | ok selected =>
      simp only [bind, Except.bind, hsel] at h
      cases h
      obtain ⟨parsed, hparsed, hreport⟩ := preflight_ok hpreflight
      exact ⟨parsed, hparsed, hreport, hsel, rfl⟩

theorem selectedOutbound_mem : plan.selectedOutbound ∈ plan.preflight.supportedTags := by
  obtain ⟨parsed, -, hpreflight, hsel, -⟩ := buildConnectionPlan_ok h
  refine SubscriptionPreflightReport.mem_of_selectOutbound ?_ hsel
  rw [hpreflight]
  rfl

end

structure RuntimeConfig where
  configText : String
  preferredOutbound : Option String
  listen : String
  deriving DecidableEq

def RuntimeConfig.plan (readers : Readers) (config : RuntimeConfig) :
    Except ClientErrorKind ConnectionPlan :=
  buildConnectionPlan readers config.configText config.preferredOutbound config.listen

end KeliNative.Client
