import KeliNative.Client.MixedRuntime
import KeliNative.Client.Runtime

/-!
# The managed handle (`ManagedMixedHandle`, `keli-cli/src/lib.rs`)

A running core keeps its selection in the handle, in the active plan and in the shared runtime.
-/

namespace KeliNative.Client
open Protocol Route Outbound Relay Proxy

def ClientErrorKind.debug (quote : String → String) : ClientErrorKind → String
  | .coreNotStarted => "CoreNotStarted"
  | .dnsTimeout => "DnsTimeout"
  | .tcpConnectTimeout => "TcpConnectTimeout"
  | .tlsHandshakeFailed => "TlsHandshakeFailed"
  | .webSocketUpgradeFailed => "WebSocketUpgradeFailed"
  | .proxyAuthFailed => "ProxyAuthFailed"
  | .relayStalled => "RelayStalled"
  | .tunPermissionMissing => "TunPermissionMissing"
  | .systemProxyLoop => "SystemProxyLoop"
  | .routeNoOutbound => "RouteNoOutbound"
  | .noSupportedOutbounds => "NoSupportedOutbounds"
  | .outboundNotFound tag => "OutboundNotFound(" ++ quote tag ++ ")"
  | .panelTrafficRestricted accountState riskControl =>
      "PanelTrafficRestricted \x7b account_state: " ++ quote accountState ++ ", risk_control: " ++
        quote riskControl ++ " \x7d"
  | .configInvalid error => "ConfigInvalid(" ++ quote error ++ ")"

def SubscriptionUpdateReason.label : SubscriptionUpdateReason → String
  | .initialSubscription => "initial-subscription"
  | .selectedOutboundPreserved => "selected-outbound-preserved"
  | .selectedOutboundMissingUseDefault => "selected-outbound-missing-use-default"
  | .selectedOutboundMissingNoDefault => "selected-outbound-missing-no-default"
  | .noSupportedOutbounds => "no-supported-outbounds"

inductive ManagedNodeHealthState where
  | unknown
  | healthy
  | unhealthy
  deriving DecidableEq

def ManagedNodeHealthState.label : ManagedNodeHealthState → String
  | .unknown => "unknown"
  | .healthy => "healthy"
  | .unhealthy => "unhealthy"

structure ManagedNodeHealthStatus where
  tag : String
  state : ManagedNodeHealthState
  tcpAvailable : Option Bool
  udpAvailable : Option Bool
  latencyMs : Option ℕ
  errorKind : Option ConnectionErrorKind
  errorDetail : Option String
  checkedAt : Option SystemTime
  deriving DecidableEq

def ManagedNodeHealthStatus.unknown (tag : String) : ManagedNodeHealthStatus :=
  ⟨tag, .unknown, none, none, none, none, none, none⟩

inductive ManagedRecommendedSwitchReason where
  | ready
  | alreadySelected
  | noReadyAlternative
  | recommendedNotHealthy
  deriving DecidableEq

def ManagedRecommendedSwitchReason.label : ManagedRecommendedSwitchReason → String
  | .ready => "ready"
  | .alreadySelected => "already-selected"
  | .noReadyAlternative => "no-ready-alternative"
  | .recommendedNotHealthy => "recommended-not-healthy"

def managedNodeUdpRecommendationRank : Option Bool → ℕ
  | some true => 0
  | none => 1
  | some false => 2

def recommendationKey (health : ManagedNodeHealthStatus) : ℕ ×ₗ Bool ×ₗ ℕ :=
  toLex (managedNodeUdpRecommendationRank health.udpAvailable,
    toLex (health.latencyMs.isNone, health.latencyMs.getD (2 ^ 128 - 1)))

/-- The first of the best nodes that are healthy and not known to lack TCP. -/
def recommendManagedOutboundFromHealth (nodeHealth : List ManagedNodeHealthStatus)
    (selectedOutbound : String) : String :=
  let candidates := nodeHealth.filter fun health =>
    health.state = .healthy ∧ health.tcpAvailable ≠ some false
  ((candidates.argmin recommendationKey).map (·.tag)).getD selectedOutbound

structure SwitchSummary where
  recommendedSwitchReady : Bool
  recommendedSwitchReason : ManagedRecommendedSwitchReason
  deriving DecidableEq

def SwitchSummary.fromNodeHealth (nodeHealth : List ManagedNodeHealthStatus)
    (selectedOutbound recommendedOutbound : String) : SwitchSummary :=
  let healthy (tag : String) : Bool :=
    (nodeHealth.find? (·.tag = tag)).map (·.state) = some .healthy
  let recommendedIsSelected := decide (selectedOutbound = recommendedOutbound)
  let ready := !recommendedIsSelected && healthy recommendedOutbound
  { recommendedSwitchReady := ready
    recommendedSwitchReason :=
      if ready then .ready
      else if recommendedIsSelected && healthy selectedOutbound then .alreadySelected
      else if recommendedIsSelected then .noReadyAlternative
      else .recommendedNotHealthy }

structure ManagedSubscriptionStatus where
  selectedOutbound : String
  recommendedOutbound : String
  healthSummary : SwitchSummary
  nodeHealth : List ManagedNodeHealthStatus
  deriving DecidableEq

def ManagedSubscriptionStatus.fromPlan (plan : ConnectionPlan)
    (nodeHealth : String → Option ManagedNodeHealthStatus) : ManagedSubscriptionStatus :=
  let nodeHealth := plan.preflight.supportedTags.map fun tag => (nodeHealth tag).getD (.unknown tag)
  let recommendedOutbound := recommendManagedOutboundFromHealth nodeHealth plan.selectedOutbound
  ⟨plan.selectedOutbound, recommendedOutbound,
    .fromNodeHealth nodeHealth plan.selectedOutbound recommendedOutbound, nodeHealth⟩

structure ManagedMixedOptions where
  listen : String
  blockDomains : List String
  outboundTag : Option String
  relayOptions : RelayOptions
  systemProxy : Bool
  systemProxyBypass : List String
  dnsOptions : MixedDnsOptions
  tunTcpMaxActiveSessions : ℕ
  maxConnectionWorkers : ℕ
  deriving DecidableEq

/-- The core: its address as a text, its runtime, and the settings later runtimes are made with. -/
structure ManagedMixedCore (δ : Type) where
  state : ClientRuntime δ
  listenAddr : String
  runtime : ManagedMixedRuntime
  blockDomains : List String
  relayOptions : RelayOptions
  dnsOptions : MixedDnsOptions
  tunTcpMaxActiveSessions : ℕ

structure ManagedMixedHandle (δ : Type) extends ManagedMixedCore δ where
  selectedOutbound : Option String
  nodeHealth : String → Option ManagedNodeHealthStatus

/-- What is fixed for a process: the libraries that read documents, and the texts of values. -/
structure CoreEnvironment where
  readers : Readers
  texts : StdTexts

variable {δ : Type}

/-- `start_from_subscription_config_text` between the bound listener and the system proxy. -/
def startCore (env : CoreEnvironment) (options : ManagedMixedOptions) (configText : String)
    (listenAddr : String) (now : ℕ → SystemTime) (handles : RuntimeHandles) :
    Except String (ManagedMixedCore δ) :=
  let config : RuntimeConfig := ⟨configText, options.outboundTag, listenAddr⟩
  match (ClientRuntime.default (now 0)).start env.readers (fun i => now (i + 1)) config with
  | (.error error, _) => .error ("runtime start failed: " ++ error.debug env.texts.quote)
  | (.ok plan, state) =>
      match mixedRuntimeFromSubscriptionConfigText env.readers env.texts configText
        options.blockDomains options.relayOptions (some plan.selectedOutbound) options.dnsOptions
        handles with
      | .error error => .error error
      | .ok runtime =>
          .ok {
            state
            listenAddr
            runtime := { runtime with
              tunTcpMaxActiveSessions := options.tunTcpMaxActiveSessions
              maxConnectionWorkers := max options.maxConnectionWorkers 1 }
            blockDomains := options.blockDomains
            relayOptions := options.relayOptions
            dnsOptions := options.dnsOptions
            tunTcpMaxActiveSessions := options.tunTcpMaxActiveSessions }

def ManagedMixedCore.selectedOutbound (core : ManagedMixedCore δ) : Option String :=
  match core.state.status with
  | .running _ selectedOutbound _ => some selectedOutbound
  | _ => none

def ManagedMixedCore.spawnBackground (core : ManagedMixedCore δ) : ManagedMixedHandle δ :=
  { core with selectedOutbound := core.selectedOutbound, nodeHealth := fun _ => none }

namespace ManagedMixedHandle

def noActiveSubscription : String := "managed mixed core has no active subscription"

def withState (handle : ManagedMixedHandle δ) (state : ClientRuntime δ) : ManagedMixedHandle δ :=
  { handle with state }

def recordStatusNote (now : ℕ → SystemTime) (note : String) (handle : ManagedMixedHandle δ) :
    ManagedMixedHandle δ := handle.withState (handle.state.recordStatusNote now note)

def ensureActiveSubscriptionTag (handle : ManagedMixedHandle δ) (tag : String) :
    Except String Unit :=
  match handle.state.activePlan with
  | none => .error noActiveSubscription
  | some plan =>
      if tag ∈ plan.preflight.supportedTags then .ok ()
      else .error ("node health tag is not in active subscription: " ++ tag)

def setNodeHealth (now : ℕ → SystemTime) (health : ManagedNodeHealthStatus)
    (handle : ManagedMixedHandle δ) : ManagedMixedHandle δ :=
  { handle with
    nodeHealth := Function.update handle.nodeHealth health.tag (some health) }.recordStatusNote now
      ("node health recorded: " ++ health.tag ++ "=" ++ health.state.label)

def recordNodeHealth (now : ℕ → SystemTime) (health : ManagedNodeHealthStatus)
    (handle : ManagedMixedHandle δ) : Except String Unit × ManagedMixedHandle δ :=
  match handle.ensureActiveSubscriptionTag health.tag with
  | .error error => (.error error, handle)
  | .ok () => (.ok (), handle.setNodeHealth now health)

def pruneNodeHealthToActivePlan (handle : ManagedMixedHandle δ) : ManagedMixedHandle δ :=
  match handle.state.activePlan with
  | none => { handle with nodeHealth := fun _ => none }
  | some plan =>
      { handle with
        nodeHealth := fun tag =>
          if tag ∈ plan.preflight.supportedTags then handle.nodeHealth tag else none }

/-- The runtime written over the shared one: what belongs to the listener stays. -/
def swapRuntime (next : ManagedMixedRuntime) (handle : ManagedMixedHandle δ) :
    ManagedMixedHandle δ :=
  { handle with
    runtime := { next with
      tunTcpMaxActiveSessions := handle.tunTcpMaxActiveSessions
      handles := handle.runtime.handles
      maxConnectionWorkers := handle.runtime.maxConnectionWorkers } }

def reloadFromSubscriptionConfigText (env : CoreEnvironment) (now : ℕ → SystemTime)
    (handles : RuntimeHandles) (configText : String) (outboundTag : Option String)
    (handle : ManagedMixedHandle δ) : Except String Unit × ManagedMixedHandle δ :=
  let config : RuntimeConfig := ⟨configText, outboundTag, handle.listenAddr⟩
  match buildConnectionPlan env.readers configText outboundTag handle.listenAddr with
  | .error error =>
      (.error ("runtime reload failed: " ++ error.debug env.texts.quote),
        handle.withState (handle.state.reload env.readers now config).2)
  | .ok plan =>
      match mixedRuntimeFromSubscriptionConfigText env.readers env.texts configText
        handle.blockDomains handle.relayOptions (some plan.selectedOutbound) handle.dnsOptions
        handles with
      | .error error =>
          (.error ("runtime reload failed: " ++ error),
            handle.withState (handle.state.recordReloadRejected now (.configInvalid error)))
      | .ok next =>
          let handle := handle.swapRuntime next
          match handle.state.reload env.readers now config with
          | (.error error, state) =>
              (.error ("runtime reload failed: " ++ error.debug env.texts.quote),
                handle.withState state)
          | (.ok _, state) =>
              (.ok (), { handle.withState state with
                selectedOutbound := some plan.selectedOutbound }.pruneNodeHealthToActivePlan)

def subscriptionUpdateReportFromConfigText (env : CoreEnvironment) (configText : String)
    (handle : ManagedMixedHandle δ) : Except String SubscriptionUpdateReport :=
  match handle.state.activeConfig with
  | none => .error noActiveSubscription
  | some config =>
      match planSubscriptionUpdate env.readers (some config.configText) configText
        (handle.state.activePlan.map (·.selectedOutbound)) with
      | .ok report => .ok report
      | .error error =>
          .error ("subscription update plan failed: " ++ error.debug env.texts.quote)

abbrev UpdateOutcome := SubscriptionUpdateReport × Bool × Option String

def reloadWithUpdatePlan (env : CoreEnvironment) (now : ℕ → SystemTime) (handles : RuntimeHandles)
    (configText : String) (handle : ManagedMixedHandle δ) :
    Except String UpdateOutcome × ManagedMixedHandle δ :=
  match handle.subscriptionUpdateReportFromConfigText env configText with
  | .error error =>
      (.error error,
        handle.withState (handle.state.recordReloadRejected now (.configInvalid error)))
  | .ok report =>
      match report.plannedSelectedOutbound with
      | none =>
          let error := "subscription update rejected: no supported outbounds"
          let handle := handle.withState
            (handle.state.recordReloadRejected now .noSupportedOutbounds)
          (.ok (report, false, some error), handle.recordStatusNote (fun i => now (i + 1))
            (error ++ " reason=" ++ report.reason.label ++ " new_supported=" ++
              toString report.newSupportedCount ++ " new_skipped=" ++
              toString report.newSkippedCount))
      | some planned =>
          match handle.reloadFromSubscriptionConfigText env now handles configText
            (some planned) with
          | (.error error, handle) => (.error error, handle)
          | (.ok (), handle) =>
              (.ok (report, true, none), handle.recordStatusNote (fun i => now (i + 3))
                ("subscription update applied: reason=" ++ report.reason.label ++
                  " preserved=" ++ toString report.selectedOutboundPreserved ++
                  " changed=" ++ toString report.selectedOutboundChanged ++
                  " added=" ++ toString report.addedTags.length ++
                  " removed=" ++ toString report.removedTags.length ++
                  " retained=" ++ toString report.retainedTags.length))

def applyRecommendedOutbound (env : CoreEnvironment) (now : ℕ → SystemTime)
    (handles : RuntimeHandles) (handle : ManagedMixedHandle δ) :
    Except String Unit × ManagedMixedHandle δ :=
  match handle.state.activePlan with
  | none => (.error noActiveSubscription, handle)
  | some plan =>
      let status := ManagedSubscriptionStatus.fromPlan plan handle.nodeHealth
      let switch := " reason=" ++ status.healthSummary.recommendedSwitchReason.label ++
        " selected=" ++ plan.selectedOutbound ++ " recommended=" ++ status.recommendedOutbound
      if !status.healthSummary.recommendedSwitchReady then
        (.ok (), handle.recordStatusNote now ("recommended outbound switch skipped:" ++ switch))
      else
        let handle := handle.recordStatusNote now
          ("recommended outbound switch applying:" ++ switch)
        match handle.state.activeConfig with
        | none => (.error noActiveSubscription, handle)
        | some config =>
            handle.reloadFromSubscriptionConfigText env (fun i => now (i + 1)) handles
              config.configText (some status.recommendedOutbound)

end ManagedMixedHandle

end KeliNative.Client
