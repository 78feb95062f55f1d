import KeliNative.Dns.Types
import KeliNative.Net.Route

/-!
# TUN packet data model (`keli-net-core/src/tun.rs`)

A flow has no invariant: the parser builds consistent ones, and every builder checks.
-/

namespace KeliNative.Tun
open KeliNative.Route KeliNative.Dns

inductive TunIpVersion where
  | ipv4
  | ipv6
  deriving DecidableEq

inductive TunTransportProtocol where
  | tcp
  | udp
  | icmp
  | icmpv6
  | other (value : UInt8)
  deriving DecidableEq

def TunTransportProtocol.fromIpProtocolNumber (value : UInt8) : TunTransportProtocol :=
  if value = 1 then .icmp
  else if value = 6 then .tcp
  else if value = 17 then .udp
  else if value = 58 then .icmpv6
  else .other value

def TunTransportProtocol.ipProtocolNumber : TunTransportProtocol → UInt8
  | .icmp => 1
  | .tcp => 6
  | .udp => 17
  | .icmpv6 => 58
  | .other value => value

structure TunPacketFlow where
  ipVersion : TunIpVersion
  protocol : TunTransportProtocol
  sourceIp : IpAddr
  destinationIp : IpAddr
  sourcePort : Option UInt16
  destinationPort : Option UInt16
  deriving DecidableEq

def TunPacketFlow.reversed (flow : TunPacketFlow) : TunPacketFlow :=
  { flow with
    sourceIp := flow.destinationIp
    destinationIp := flow.sourceIp
    sourcePort := flow.destinationPort
    destinationPort := flow.sourcePort }

/-- Nine flag bits. `from_bits` is the only constructor of the source's private
field, so the mask is part of the type. -/
structure TunTcpFlags where
  bits : UInt16
  masked : bits &&& 0x01ff = bits
  deriving DecidableEq

theorem flags_mask_idem (bits : UInt16) : bits &&& 0x01ff &&& 0x01ff = bits &&& 0x01ff := by
  rw [UInt16.and_assoc, UInt16.and_self]

namespace TunTcpFlags

def fromBits (bits : UInt16) : TunTcpFlags := ⟨bits &&& 0x01ff, flags_mask_idem bits⟩

def ack (flags : TunTcpFlags) : Bool := flags.bits &&& 0x0010 != 0
def psh (flags : TunTcpFlags) : Bool := flags.bits &&& 0x0008 != 0
def rst (flags : TunTcpFlags) : Bool := flags.bits &&& 0x0004 != 0
def syn (flags : TunTcpFlags) : Bool := flags.bits &&& 0x0002 != 0
def fin (flags : TunTcpFlags) : Bool := flags.bits &&& 0x0001 != 0

end TunTcpFlags

structure TunTcpSegment where
  flow : TunPacketFlow
  sequenceNumber : UInt32
  acknowledgmentNumber : UInt32
  headerLen : ℕ
  flags : TunTcpFlags
  windowSize : UInt16
  payload : Bytes
  deriving DecidableEq

structure TunUdpPayload where
  flow : TunPacketFlow
  payload : Bytes
  deriving DecidableEq

inductive TunPacketError where
  | packetTooShort
  | unsupportedIpVersion (version : UInt8)
  | ipv4HeaderTooShort (headerLen packetLen : ℕ)
  | ipv4TotalLengthTooShort (totalLength headerLen : ℕ)
  | ipv4PacketTruncated (totalLength packetLen : ℕ)
  | ipv4FragmentedPacket (fragmentOffset : UInt16) (moreFragments : Bool)
  | ipv6PacketTruncated (totalLength packetLen : ℕ)
  | ipv6ExtensionHeaderUnsupported (nextHeader : UInt8)
  | ipv6ExtensionHeaderTruncated (nextHeader : UInt8) (requiredLen availableLen : ℕ)
  | transportHeaderTooShort (protocol : TunTransportProtocol) (requiredLen availableLen : ℕ)
  | expectedUdpPayload (protocol : TunTransportProtocol)
  | expectedTcpSegment (protocol : TunTransportProtocol)
  | expectedTcpSynSegment (flags : TunTcpFlags)
  | tcpSessionLimitExceeded (activeSessions maxActiveSessions : ℕ)
  | tcpDataOffsetTooSmall (dataOffset : ℕ)
  | tcpSegmentTruncated (headerLen availableLen : ℕ)
  | udpLengthTooShort (udpLength : ℕ)
  | udpPacketTruncated (udpLength availableLen : ℕ)
  | notDnsHijackCandidate (destinationPort : Option UInt16)
  | missingUdpSocketAddress
  | missingTcpSocketAddress
  | ipVersionAddressMismatch (ipVersion : TunIpVersion) (sourceIp destinationIp : IpAddr)
  | udpResponsePayloadTooLarge (ipVersion : TunIpVersion) (payloadLen maxPayloadLen : ℕ)
  | tcpResponsePayloadTooLarge (ipVersion : TunIpVersion) (payloadLen maxPayloadLen : ℕ)
  | dnsResolve (error : DnsError)
  | dnsWire (error : DnsWireError)
  deriving DecidableEq

structure TunPacketRouteDecision where
  flow : TunPacketFlow
  action : RouteAction
  matchedRule : Option String
  dnsHijacked : Bool
  deriving DecidableEq

inductive TunPacketRelayAction where
  | drop
  | hijackDns
  | directTcp (target : OutboundTarget)
  | directUdp (target : OutboundTarget)
  | outboundTcp (tag : String) (target : OutboundTarget)
  | outboundUdp (tag : String) (target : OutboundTarget)
  | unsupportedTransport (protocol : TunTransportProtocol)
  deriving DecidableEq

structure TunPacketRelayPlan where
  route : TunPacketRouteDecision
  relayAction : TunPacketRelayAction
  deriving DecidableEq

end KeliNative.Tun
