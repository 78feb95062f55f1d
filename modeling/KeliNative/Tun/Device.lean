import KeliNative.Dns.Wire
import KeliNative.Net.Outbound
import KeliNative.Tun.Process

/-!
# Packets of the TUN device (`keli-net-core/src/tun.rs`)

One packet is read, routed by its destination, and answered, relayed or dropped.
-/

namespace KeliNative.Tun
open Route Dns Outbound Program

namespace TunPacketFlow

def routeDestination (flow : TunPacketFlow) : RouteDestination :=
  ⟨.ip flow.destinationIp, flow.destinationPort.getD 0⟩

def sourceSocketAddr (flow : TunPacketFlow) : Option SocketAddr :=
  flow.sourcePort.map fun port => ⟨flow.sourceIp, port⟩

def destinationSocketAddr (flow : TunPacketFlow) : Option SocketAddr :=
  flow.destinationPort.map fun port => ⟨flow.destinationIp, port⟩

def destinationOutboundTarget (ipText : IpText) (flow : TunPacketFlow) : Option OutboundTarget :=
  flow.destinationPort.map fun port => ⟨ipText.display flow.destinationIp, port⟩

def isDnsHijackCandidate (flow : TunPacketFlow) : Bool :=
  flow.protocol == .udp && flow.destinationPort == some 53

end TunPacketFlow

section

variable (ipText : IpText) (routes : RouteEngine) (dnsHijackEnabled : Bool)

def decideTunPacketRoute (packet : Bytes) : Except TunPacketError TunPacketRouteDecision := do
  let flow ← parseTunPacketFlow packet
  if dnsHijackEnabled ∧ flow.isDnsHijackCandidate then return ⟨flow, .hijackDns, none, true⟩
  let decision := routes.decideDestination flow.routeDestination
  return ⟨flow, decision.action, decision.matchedRule, false⟩

def tunRelayActionForTransport (flow : TunPacketFlow) (outboundTag : Option String) :
    TunPacketRelayAction :=
  match flow.destinationOutboundTarget ipText with
  | none => .unsupportedTransport flow.protocol
  | some target =>
    match flow.protocol, outboundTag with
    | .tcp, some tag => .outboundTcp tag target
    | .udp, some tag => .outboundUdp tag target
    | .tcp, none => .directTcp target
    | .udp, none => .directUdp target
    | protocol, _ => .unsupportedTransport protocol

def planTunPacketRelay (packet : Bytes) : Except TunPacketError TunPacketRelayPlan := do
  let route ← decideTunPacketRoute routes dnsHijackEnabled packet
  return ⟨route, match route.action with
    | .block => .drop
    | .hijackDns => .hijackDns
    | .direct => tunRelayActionForTransport ipText route.flow none
    | .outbound tag => tunRelayActionForTransport ipText route.flow (some tag)⟩

end

structure TunDnsHijackPlan where
  flow : TunPacketFlow
  question : DnsWireQuestion
  responseSource : SocketAddr
  responseDestination : SocketAddr
  deriving DecidableEq

structure TunDnsHijackResponse where
  plan : TunDnsHijackPlan
  dnsPayload : Bytes
  packet : Bytes
  rcode : UInt8
  deriving DecidableEq

structure TunUdpRelayResponse where
  plan : TunPacketRelayPlan
  relaySource : SocketAddr
  relayPayload : Bytes
  packet : Bytes
  deriving DecidableEq

structure TunTcpResetResponse where
  plan : TunPacketRelayPlan
  sequenceNumber : UInt32
  acknowledgmentNumber : UInt32
  packet : Bytes
  deriving DecidableEq

inductive TunPacketProcessAction where
  | writePacket (response : TunDnsHijackResponse)
  | writeTcpReset (response : TunTcpResetResponse)
  | relay (plan : TunPacketRelayPlan)
  deriving DecidableEq

inductive TunUdpRelayError where
  | unsupportedRelayAction (action : TunPacketRelayAction)
  | packet (error : TunPacketError)
  | responsePacket (error : TunPacketError)
  | planFlowMismatch (packetFlow planFlow : TunPacketFlow)
  | relay (error : String)
  deriving DecidableEq

inductive TunPacketLoopEvent where
  | noPacket
  | wrotePacket (response : TunDnsHijackResponse)
  | wroteUdpRelayPacket (response : TunUdpRelayResponse)
  | wroteTcpResetPacket (response : TunTcpResetResponse)
  | tcpSession (plan : TunPacketRelayPlan) (step : TunTcpSessionStep) (packetsWritten : ℕ)
  | relay (plan : TunPacketRelayPlan)
  | drop (plan : TunPacketRelayPlan)
  | unsupported (plan : TunPacketRelayPlan)
  | packetError (error : TunPacketError)
  | udpRelayError (error : TunUdpRelayError)
  | tcpSessionError (error : TunTcpSessionError)
  deriving DecidableEq

inductive TunPacketLoopError where
  | read (error : String)
  | write (error : String)
  deriving DecidableEq

def TunPacketLoopError.display : TunPacketLoopError → String
  | .read error => "TUN packet read failed: " ++ error
  | .write error => "TUN packet write failed: " ++ error

def loopEventForRelayPlan (plan : TunPacketRelayPlan) : TunPacketLoopEvent :=
  match plan.relayAction with
  | .drop => .drop plan
  | .unsupportedTransport _ => .unsupported plan
  | _ => .relay plan

def planTunDnsHijack (packet : Bytes) : Except TunPacketError TunDnsHijackPlan := do
  let udp ← parseTunUdpPayload packet
  if !udp.flow.isDnsHijackCandidate then throw (.notDnsHijackCandidate udp.flow.destinationPort)
  let question ← (parseDnsQuery udp.payload).mapError .dnsWire
  match udp.flow.destinationSocketAddr, udp.flow.sourceSocketAddr with
  | some responseSource, some responseDestination =>
    return ⟨udp.flow, question, responseSource, responseDestination⟩
  | _, _ => throw .missingUdpSocketAddress

def buildTunTcpResetResponse (plan : TunPacketRelayPlan) (segment : TunTcpSegment) :
    Except TunPacketError TunTcpResetResponse :=
  (buildTunTcpResetResponsePacket segment).map fun packet =>
    ⟨plan, tcpResetSequenceNumber segment, tcpResetAcknowledgmentNumber segment, packet⟩

structure TunUdpRelay (σ : Type) where
  relayUdpDatagram : OutboundTarget → Bytes → Program σ String UdpRelayResponse
  relayOutboundUdpDatagram : String → OutboundTarget → Bytes → Program σ String UdpRelayResponse

structure TunParts (σ : Type) where
  readPacket : Program σ String (Option Bytes)
  writePacket : Bytes → Program σ String Unit
  resolve : String → UInt16 → Program σ DnsError (List ResolvedAddress)
  udpRelay : TunUdpRelay σ
  tcpRelay : TunTcpSessionRelay σ
  now : σ → Instant × σ

/-- The other arguments of `process_tun_device_packet_with_relays`. -/
structure TunSettings where
  routes : RouteEngine
  dnsHijackEnabled : Bool
  dnsTtlSeconds : UInt32
  serverInitialSequenceNumber : UInt32
  windowSize : UInt16
  deriving DecidableEq

section

variable {σ : Type} (ipText : IpText) (parts : TunParts σ) (settings : TunSettings)

def buildTunDnsHijackResponse (packet : Bytes) : Program σ TunPacketError TunDnsHijackResponse := do
  let plan ← ofExcept (planTunDnsHijack packet)
  let (dnsPayload, rcode) ← mapError .dnsResolve
    (hijackedPayload parts.resolve plan.question settings.dnsTtlSeconds)
  let packet ← ofExcept (buildTunUdpResponsePacket plan.flow dnsPayload)
  return ⟨plan, dnsPayload, packet, rcode⟩

def processPlannedPacket (packet : Bytes) (plan : TunPacketRelayPlan) :
    Program σ TunPacketError TunPacketProcessAction :=
  if plan.relayAction = .hijackDns then do
    let response ← buildTunDnsHijackResponse parts settings packet
    return .writePacket response
  else if plan.relayAction = .drop ∧ plan.route.flow.protocol = .tcp then do
    let segment ← ofExcept (parseTunTcpSegment packet)
    if segment.flags.rst then return .relay plan
    else do
      let response ← ofExcept (buildTunTcpResetResponse plan segment)
      return .writeTcpReset response
  else return .relay plan

def processTunPacket (packet : Bytes) : Program σ TunPacketError TunPacketProcessAction := do
  let plan ← ofExcept
    (planTunPacketRelay ipText settings.routes settings.dnsHijackEnabled packet)
  processPlannedPacket parts settings packet plan

def relayUdpPayload (plan : TunPacketRelayPlan) (payload : Bytes) :
    Program σ TunUdpRelayError UdpRelayResponse :=
  match plan.relayAction with
  | .directUdp target => mapError .relay (parts.udpRelay.relayUdpDatagram target payload)
  | .outboundUdp tag target =>
    mapError .relay (parts.udpRelay.relayOutboundUdpDatagram tag target payload)
  | action => fail (.unsupportedRelayAction action)

def relayTunUdpPacket (packet : Bytes) (plan : TunPacketRelayPlan) :
    Program σ TunUdpRelayError TunUdpRelayResponse := do
  let udp ← ofExcept ((parseTunUdpPayload packet).mapError .packet)
  if udp.flow ≠ plan.route.flow then fail (.planFlowMismatch udp.flow plan.route.flow)
  else do
    let response ← relayUdpPayload parts plan udp.payload
    let packet ← ofExcept
      ((buildTunUdpResponsePacket udp.flow response.payload).mapError .responsePacket)
    return ⟨plan, response.source, response.payload, packet⟩

abbrev TunProgram (σ α : Type) := Program (TunTcpSessionTable × σ) TunPacketLoopError α

def writeTunPacket (packet : Bytes) : TunProgram σ Unit :=
  mapError .write (beside (parts.writePacket packet))

def writeTunPackets : List Bytes → TunProgram σ Unit
  | [] => .pure ()
  | packet :: rest => do
    writeTunPacket parts packet
    writeTunPackets rest

def relayUdpPlan (packet : Bytes) (plan : TunPacketRelayPlan) :
    TunProgram σ TunPacketLoopEvent := do
  match ← attempt (beside (relayTunUdpPacket parts packet plan)) with
  | .error error => return .udpRelayError error
  | .ok response =>
    writeTunPacket parts response.packet
    return .wroteUdpRelayPacket response

def readClock : TunProgram σ Instant := fun (table, s) =>
  let (now, s) := parts.now s
  (.ok now, (table, s))

def relayTcpPlan (packet : Bytes) (plan : TunPacketRelayPlan) : TunProgram σ TunPacketLoopEvent :=
  match parseTunTcpSegment packet with
  | .error error => .pure (.packetError error)
  | .ok segment => do
    let now ← readClock parts
    match ← attempt (processTunTcpSessionSegmentWithRelayPlan parts.tcpRelay segment (some plan) now
      settings.serverInitialSequenceNumber settings.windowSize) with
    | .error error => return .tcpSessionError error
    | .ok step =>
      writeTunPackets parts step.responsePackets
      return .tcpSession plan step step.responsePackets.length

def relayTunPacket (packet : Bytes) (plan : TunPacketRelayPlan) : TunProgram σ TunPacketLoopEvent :=
  match plan.relayAction with
  | .directUdp _ | .outboundUdp _ _ => relayUdpPlan parts packet plan
  | .directTcp _ | .outboundTcp _ _ => relayTcpPlan parts settings packet plan
  | _ => .pure (loopEventForRelayPlan plan)

def handleTunPacket (packet : Bytes) : TunProgram σ TunPacketLoopEvent := do
  match ← attempt (beside (processTunPacket ipText parts settings packet)) with
  | .error error => return .packetError error
  | .ok (.writePacket response) =>
    writeTunPacket parts response.packet
    return .wrotePacket response
  | .ok (.writeTcpReset response) =>
    writeTunPacket parts response.packet
    return .wroteTcpResetPacket response
  | .ok (.relay plan) => relayTunPacket parts settings packet plan

def processTunDevicePacketWithRelays : TunProgram σ TunPacketLoopEvent := do
  match ← mapError .read (beside parts.readPacket) with
  | none => return .noPacket
  | some packet => handleTunPacket ipText parts settings packet

end

end KeliNative.Tun
