import KeliNative.Tun.Device

/-!
# Summaries of the packet loop (`keli-net-core/src/tun.rs`)

What a loop did, event by event, and the last of each kind.
-/

namespace KeliNative.Tun
open Route

def tunPacketLoopDroppedRouteHistoryLimit : ℕ := 256

def tunPacketLoopDnsHijackRouteHistoryLimit : ℕ := 256

structure TunPacketLoopSummary where
  idleEvents : ℕ := 0
  stopRequested : Bool := false
  packetLimitReached : Bool := false
  dnsResponsesWritten : ℕ := 0
  udpRelayResponsesWritten : ℕ := 0
  tcpResetsWritten : ℕ := 0
  relayPackets : ℕ := 0
  tcpRelayPlans : ℕ := 0
  udpRelayPlans : ℕ := 0
  lastRelayRouteAction : Option RouteAction := none
  lastRelayMatchedRule : Option String := none
  droppedPackets : ℕ := 0
  lastDroppedFlow : Option TunPacketFlow := none
  lastDroppedRouteAction : Option RouteAction := none
  lastDroppedMatchedRule : Option String := none
  recentDroppedRoutes : List TunPacketRouteDecision := []
  recentDnsHijackedRoutes : List TunPacketRouteDecision := []
  unsupportedPackets : ℕ := 0
  lastUnsupportedFlow : Option TunPacketFlow := none
  lastUnsupportedRouteAction : Option RouteAction := none
  lastUnsupportedMatchedRule : Option String := none
  packetErrors : ℕ := 0
  lastPacketError : Option TunPacketError := none
  udpRelayErrors : ℕ := 0
  lastUdpRelayError : Option TunUdpRelayError := none
  tcpSessionEvents : ℕ := 0
  tcpSessionPacketsWritten : ℕ := 0
  tcpMaxActiveSessions : ℕ := 0
  tcpSessionLimitRejections : ℕ := 0
  tcpSessionsPruned : ℕ := 0
  tcpServerClosedSessionsPruned : ℕ := 0
  tcpPostClosedSessionsPruned : ℕ := 0
  tcpServerCloseMarkerResets : ℕ := 0
  tcpPostCloseMarkerResets : ℕ := 0
  tcpSessionsOpen : ℕ := 0
  tcpServerCloseMarkersOpen : ℕ := 0
  tcpPostCloseMarkersOpen : ℕ := 0
  tcpSessionsPeak : ℕ := 0
  tcpServerCloseMarkersPeak : ℕ := 0
  tcpPostCloseMarkersPeak : ℕ := 0
  tcpSessionErrors : ℕ := 0
  lastTcpSessionError : Option TunTcpSessionError := none
  deriving DecidableEq

def recent {α : Type} (limit : ℕ) (entries : List α) : List α :=
  entries.drop (entries.length - limit)

def TunTcpSessionError.isSessionLimitExceeded : TunTcpSessionError → Bool
  | .packet (.tcpSessionLimitExceeded _ _) => true
  | _ => false

def TunPacketRelayAction.isTcpRelay : TunPacketRelayAction → Bool
  | .directTcp _ | .outboundTcp _ _ => true
  | _ => false

def TunPacketRelayAction.isUdpRelay : TunPacketRelayAction → Bool
  | .directUdp _ | .outboundUdp _ _ => true
  | _ => false

namespace TunPacketLoopSummary

def recordDroppedRoute (summary : TunPacketLoopSummary) (route : TunPacketRouteDecision) :
    TunPacketLoopSummary :=
  { summary with
    lastDroppedFlow := some route.flow
    lastDroppedRouteAction := some route.action
    lastDroppedMatchedRule := route.matchedRule
    recentDroppedRoutes := recent tunPacketLoopDroppedRouteHistoryLimit
      (summary.recentDroppedRoutes ++ [route]) }

def recordDnsHijackedRoute (summary : TunPacketLoopSummary) (plan : TunDnsHijackPlan) :
    TunPacketLoopSummary :=
  { summary with
    recentDnsHijackedRoutes := recent tunPacketLoopDnsHijackRouteHistoryLimit
      (summary.recentDnsHijackedRoutes ++ [⟨plan.flow, .hijackDns, none, true⟩]) }

def recordRelayPlan (summary : TunPacketLoopSummary) (plan : TunPacketRelayPlan)
    (tcp udp : Bool) : TunPacketLoopSummary :=
  { summary with
    lastRelayRouteAction := some plan.route.action
    lastRelayMatchedRule := plan.route.matchedRule
    tcpRelayPlans := summary.tcpRelayPlans + if tcp && plan.relayAction.isTcpRelay then 1 else 0
    udpRelayPlans := summary.udpRelayPlans + if udp && plan.relayAction.isUdpRelay then 1 else 0 }

def recordCloseMarkerReset (summary : TunPacketLoopSummary) (step : TunTcpSessionStep) :
    TunPacketLoopSummary :=
  match step with
  | .closeMarkerReset _ .serverClose =>
    { summary with tcpServerCloseMarkerResets := summary.tcpServerCloseMarkerResets + 1 }
  | .closeMarkerReset _ .postClose =>
    { summary with tcpPostCloseMarkerResets := summary.tcpPostCloseMarkerResets + 1 }
  | _ => summary

def recordEvent (summary : TunPacketLoopSummary) : TunPacketLoopEvent → TunPacketLoopSummary
  | .noPacket => { summary with idleEvents := summary.idleEvents + 1 }
  | .wrotePacket response =>
    { summary with dnsResponsesWritten := summary.dnsResponsesWritten + 1 }.recordDnsHijackedRoute
      response.plan
  | .wroteUdpRelayPacket response =>
    { summary with
      udpRelayResponsesWritten := summary.udpRelayResponsesWritten + 1 }.recordRelayPlan
        response.plan false true
  | .wroteTcpResetPacket _ => { summary with tcpResetsWritten := summary.tcpResetsWritten + 1 }
  | .tcpSession plan step packetsWritten =>
    ({ summary with
      tcpSessionEvents := summary.tcpSessionEvents + 1
      tcpSessionPacketsWritten :=
        summary.tcpSessionPacketsWritten + packetsWritten }.recordRelayPlan plan true
          false).recordCloseMarkerReset step
  | .relay plan =>
    { summary with relayPackets := summary.relayPackets + 1 }.recordRelayPlan plan true true
  | .drop plan =>
    { summary with droppedPackets := summary.droppedPackets + 1 }.recordDroppedRoute plan.route
  | .unsupported plan =>
    { summary with
      unsupportedPackets := summary.unsupportedPackets + 1
      lastUnsupportedFlow := some plan.route.flow
      lastUnsupportedRouteAction := some plan.route.action
      lastUnsupportedMatchedRule := plan.route.matchedRule }
  | .packetError error =>
    { summary with
      packetErrors := summary.packetErrors + 1
      lastPacketError := some error }
  | .udpRelayError error =>
    { summary with
      udpRelayErrors := summary.udpRelayErrors + 1
      lastUdpRelayError := some error }
  | .tcpSessionError error =>
    { summary with
      tcpSessionErrors := summary.tcpSessionErrors + 1
      tcpSessionLimitRejections :=
        summary.tcpSessionLimitRejections + if error.isSessionLimitExceeded then 1 else 0
      lastTcpSessionError := some error }

def recordTcpSessionPruneReport (summary : TunPacketLoopSummary)
    (report : TunTcpSessionPruneReport) : TunPacketLoopSummary :=
  { summary with
    tcpSessionsPruned := summary.tcpSessionsPruned + report.prunedSessions
    tcpServerClosedSessionsPruned :=
      summary.tcpServerClosedSessionsPruned + report.prunedServerClosedSessions
    tcpPostClosedSessionsPruned :=
      summary.tcpPostClosedSessionsPruned + report.prunedPostClosedSessions
    tcpSessionErrors := summary.tcpSessionErrors + report.closeErrors
    lastTcpSessionError := report.lastCloseError.or summary.lastTcpSessionError }

def recordStopRequested (summary : TunPacketLoopSummary) : TunPacketLoopSummary :=
  { summary with stopRequested := true }

def recordPacketLimitReached (summary : TunPacketLoopSummary) : TunPacketLoopSummary :=
  { summary with packetLimitReached := true }

def recordTcpSessionTableState (summary : TunPacketLoopSummary) (sessions : TunTcpSessionTable) :
    TunPacketLoopSummary :=
  let activeSessions := sessions.len
  let serverCloseMarkers := sessions.serverClosedSessions.keys.length
  let postCloseMarkers := sessions.postClosedSessions.keys.length
  { summary with
    tcpMaxActiveSessions := sessions.maxActiveSessions
    tcpSessionsOpen := activeSessions
    tcpServerCloseMarkersOpen := serverCloseMarkers
    tcpPostCloseMarkersOpen := postCloseMarkers
    tcpSessionsPeak := max summary.tcpSessionsPeak activeSessions
    tcpServerCloseMarkersPeak := max summary.tcpServerCloseMarkersPeak serverCloseMarkers
    tcpPostCloseMarkersPeak := max summary.tcpPostCloseMarkersPeak postCloseMarkers }

end TunPacketLoopSummary

end KeliNative.Tun
