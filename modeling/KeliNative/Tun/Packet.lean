import KeliNative.Tun.Flow

/-!
# TUN packet bytes (`keli-net-core/src/tun.rs`)

The TCP and UDP response builders and the packet parsers, byte for byte.
-/

namespace KeliNative.Tun
open KeliNative.BigEndian

def addChecksumBytes (sum : UInt32) : Bytes → UInt32
  | b0 :: b1 :: rest => addChecksumBytes (sum + (ofBe16 b0 b1).toUInt32) rest
  | [last] => sum + (last.toUInt32 <<< 8)
  | [] => sum

def carryOnce (sum : UInt32) : UInt32 := (sum &&& (0xffff : UInt32)) + (sum >>> (16 : UInt32))

/- Two rounds are enough for any 32-bit sum, so the fuel never cuts the loop short
(`foldChecksum_le`). -/
def foldChecksum : ℕ → UInt32 → UInt32
  | 0, sum => sum
  | fuel + 1, sum => if 0xffff < sum then foldChecksum fuel (carryOnce sum) else sum

def finishChecksum (sum : UInt32) : UInt16 := ~~~(foldChecksum 2 sum).toUInt16

def checksum (bytes : Bytes) : UInt16 := finishChecksum (addChecksumBytes 0 bytes)

theorem carryOnce_toNat (sum : UInt32) :
    (carryOnce sum).toNat = sum.toNat % 65536 + sum.toNat / 65536 := by
  have hs := sum.toNat_lt
  have hand : (sum &&& (0xffff : UInt32)).toNat = sum.toNat % 65536 := by
    rw [UInt32.toNat_and, show (0xffff : UInt32).toNat = 2 ^ 16 - 1 from rfl,
      Nat.and_two_pow_sub_one_eq_mod]
  have hshift : (sum >>> (16 : UInt32)).toNat = sum.toNat / 65536 := by
    rw [UInt32.toNat_shiftRight, show (16 : UInt32).toNat % 32 = 16 from rfl,
      Nat.shiftRight_eq_div_pow]
  rw [carryOnce, UInt32.toNat_add, hand, hshift]
  omega

def tcpChecksumIpv4 (sourceIp destinationIp : Ipv4Addr) (tcpSegment : Bytes) : UInt16 :=
  let sum := addChecksumBytes 0 sourceIp.octets
  let sum := addChecksumBytes sum destinationIp.octets
  let sum := addChecksumBytes sum [0, TunTransportProtocol.tcp.ipProtocolNumber]
  let sum := addChecksumBytes sum (be16 (UInt16.ofNat tcpSegment.length))
  finishChecksum (addChecksumBytes sum tcpSegment)

def tcpChecksumIpv6 (sourceIp destinationIp : Ipv6Addr) (tcpSegment : Bytes) : UInt16 :=
  let sum := addChecksumBytes 0 sourceIp.octets
  let sum := addChecksumBytes sum destinationIp.octets
  let sum := addChecksumBytes sum (be32 (UInt32.ofNat tcpSegment.length))
  let sum := addChecksumBytes sum [0, 0, 0, TunTransportProtocol.tcp.ipProtocolNumber]
  finishChecksum (addChecksumBytes sum tcpSegment)

def nonzeroChecksum (sum : UInt32) : UInt16 :=
  if finishChecksum sum = 0 then 0xffff else finishChecksum sum

def udpChecksumIpv4 (sourceIp destinationIp : Ipv4Addr) (udpDatagram : Bytes) : UInt16 :=
  let sum := addChecksumBytes 0 sourceIp.octets
  let sum := addChecksumBytes sum destinationIp.octets
  let sum := addChecksumBytes sum [0, TunTransportProtocol.udp.ipProtocolNumber]
  let sum := addChecksumBytes sum (be16 (UInt16.ofNat udpDatagram.length))
  nonzeroChecksum (addChecksumBytes sum udpDatagram)

def udpChecksumIpv6 (sourceIp destinationIp : Ipv6Addr) (udpDatagram : Bytes) : UInt16 :=
  let sum := addChecksumBytes 0 sourceIp.octets
  let sum := addChecksumBytes sum destinationIp.octets
  let sum := addChecksumBytes sum (be32 (UInt32.ofNat udpDatagram.length))
  let sum := addChecksumBytes sum [0, 0, 0, TunTransportProtocol.udp.ipProtocolNumber]
  nonzeroChecksum (addChecksumBytes sum udpDatagram)

/-- The data-offset byte: five words of header (`5 << 4`) and the `NS` bit. -/
def dataOffsetByte (flags : TunTcpFlags) : UInt8 :=
  (0x50 : UInt8) ||| ((flags.bits >>> 8) &&& 0x01).toUInt8

def writeTcpSegment (sourcePort destinationPort : UInt16) (sequenceNumber acknowledgmentNumber : UInt32)
    (flags : TunTcpFlags) (windowSize checksum : UInt16) (payload : Bytes) : Bytes :=
  be16 sourcePort ++ be16 destinationPort ++ be32 sequenceNumber ++ be32 acknowledgmentNumber ++
    [dataOffsetByte flags, flags.bits.toUInt8] ++ be16 windowSize ++ be16 checksum ++ be16 0 ++ payload

def ipv4Header (protocol : TunTransportProtocol) (totalLength : ℕ) (sourceIp destinationIp : Ipv4Addr)
    (checksum : UInt16) : Bytes :=
  [0x45, 0] ++ be16 (UInt16.ofNat totalLength) ++ [0, 0, 0, 0, 64, protocol.ipProtocolNumber] ++
    be16 checksum ++ sourceIp.octets ++ destinationIp.octets

def ipv6Header (protocol : TunTransportProtocol) (payloadLength : ℕ)
    (sourceIp destinationIp : Ipv6Addr) : Bytes :=
  [0x60, 0, 0, 0] ++ be16 (UInt16.ofNat payloadLength) ++ [protocol.ipProtocolNumber, 64] ++
    sourceIp.octets ++ destinationIp.octets

def buildIpv4TcpResponsePacket (sourceIp destinationIp : Ipv4Addr) (sourcePort destinationPort : UInt16)
    (sequenceNumber acknowledgmentNumber : UInt32) (flags : TunTcpFlags) (windowSize : UInt16)
    (payload : Bytes) : Bytes :=
  let header := ipv4Header .tcp (20 + (20 + payload.length)) sourceIp destinationIp
  let segment (ck : UInt16) := writeTcpSegment sourcePort destinationPort sequenceNumber
    acknowledgmentNumber flags windowSize ck payload
  header (checksum (header 0)) ++ segment (tcpChecksumIpv4 sourceIp destinationIp (segment 0))

def buildIpv6TcpResponsePacket (sourceIp destinationIp : Ipv6Addr) (sourcePort destinationPort : UInt16)
    (sequenceNumber acknowledgmentNumber : UInt32) (flags : TunTcpFlags) (windowSize : UInt16)
    (payload : Bytes) : Bytes :=
  let segment (ck : UInt16) := writeTcpSegment sourcePort destinationPort sequenceNumber
    acknowledgmentNumber flags windowSize ck payload
  ipv6Header .tcp (20 + payload.length) sourceIp destinationIp ++
    segment (tcpChecksumIpv6 sourceIp destinationIp (segment 0))

/-- The builder's payload limit: the 16-bit length field less the headers it counts. -/
def maxTcpPayloadLen : TunIpVersion → ℕ
  | .ipv4 => 65535 - 20 - 20
  | .ipv6 => 65535 - 20

def buildTunTcpResponsePacket (flow : TunPacketFlow) (sequenceNumber acknowledgmentNumber : UInt32)
    (flags : TunTcpFlags) (windowSize : UInt16) (payload : Bytes) : Except TunPacketError Bytes :=
  if flow.protocol ≠ .tcp then .error (.expectedTcpSegment flow.protocol)
  else match flow.destinationPort, flow.sourcePort with
    | none, _ => .error .missingTcpSocketAddress
    | some _, none => .error .missingTcpSocketAddress
    | some sourcePort, some destinationPort =>
      match flow.ipVersion, flow.destinationIp, flow.sourceIp with
      | .ipv4, .v4 sourceIp, .v4 destinationIp =>
          if maxTcpPayloadLen .ipv4 < payload.length then
            .error (.tcpResponsePayloadTooLarge .ipv4 payload.length (maxTcpPayloadLen .ipv4))
          else .ok (buildIpv4TcpResponsePacket sourceIp destinationIp sourcePort destinationPort
            sequenceNumber acknowledgmentNumber flags windowSize payload)
      | .ipv6, .v6 sourceIp, .v6 destinationIp =>
          if maxTcpPayloadLen .ipv6 < payload.length then
            .error (.tcpResponsePayloadTooLarge .ipv6 payload.length (maxTcpPayloadLen .ipv6))
          else .ok (buildIpv6TcpResponsePacket sourceIp destinationIp sourcePort destinationPort
            sequenceNumber acknowledgmentNumber flags windowSize payload)
      | _, _, _ => .error (.ipVersionAddressMismatch flow.ipVersion flow.sourceIp flow.destinationIp)

def writeUdpDatagram (sourcePort destinationPort checksum : UInt16) (payload : Bytes) : Bytes :=
  be16 sourcePort ++ be16 destinationPort ++ be16 (UInt16.ofNat (8 + payload.length)) ++
    be16 checksum ++ payload

def buildIpv4UdpResponsePacket (sourceIp destinationIp : Ipv4Addr)
    (sourcePort destinationPort : UInt16) (payload : Bytes) : Bytes :=
  let header := ipv4Header .udp (20 + (8 + payload.length)) sourceIp destinationIp
  let datagram (ck : UInt16) := writeUdpDatagram sourcePort destinationPort ck payload
  header (checksum (header 0)) ++ datagram (udpChecksumIpv4 sourceIp destinationIp (datagram 0))

def buildIpv6UdpResponsePacket (sourceIp destinationIp : Ipv6Addr)
    (sourcePort destinationPort : UInt16) (payload : Bytes) : Bytes :=
  let datagram (ck : UInt16) := writeUdpDatagram sourcePort destinationPort ck payload
  ipv6Header .udp (8 + payload.length) sourceIp destinationIp ++
    datagram (udpChecksumIpv6 sourceIp destinationIp (datagram 0))

def maxUdpPayloadLen : TunIpVersion → ℕ
  | .ipv4 => 65535 - 20 - 8
  | .ipv6 => 65535 - 8

def buildTunUdpResponsePacket (flow : TunPacketFlow) (payload : Bytes) :
    Except TunPacketError Bytes :=
  if flow.protocol ≠ .udp then .error (.expectedUdpPayload flow.protocol)
  else match flow.destinationPort, flow.sourcePort with
    | none, _ => .error .missingUdpSocketAddress
    | some _, none => .error .missingUdpSocketAddress
    | some sourcePort, some destinationPort =>
      match flow.ipVersion, flow.destinationIp, flow.sourceIp with
      | .ipv4, .v4 sourceIp, .v4 destinationIp =>
          if maxUdpPayloadLen .ipv4 < payload.length then
            .error (.udpResponsePayloadTooLarge .ipv4 payload.length (maxUdpPayloadLen .ipv4))
          else .ok (buildIpv4UdpResponsePacket sourceIp destinationIp sourcePort destinationPort
            payload)
      | .ipv6, .v6 sourceIp, .v6 destinationIp =>
          if maxUdpPayloadLen .ipv6 < payload.length then
            .error (.udpResponsePayloadTooLarge .ipv6 payload.length (maxUdpPayloadLen .ipv6))
          else .ok (buildIpv6UdpResponsePacket sourceIp destinationIp sourcePort destinationPort
            payload)
      | _, _, _ => .error (.ipVersionAddressMismatch flow.ipVersion flow.sourceIp flow.destinationIp)

structure TunPacketParts where
  flow : TunPacketFlow
  transportPayload : Bytes
  deriving DecidableEq

def parseTransportPorts (protocol : TunTransportProtocol) (payload : Bytes) :
    Except TunPacketError (Option UInt16 × Option UInt16) :=
  if protocol = .tcp ∨ protocol = .udp then
    if h : 4 ≤ payload.length then
      .ok (some (ofBe16 payload[0] payload[1]), some (ofBe16 payload[2] payload[3]))
    else .error (.transportHeaderTooShort protocol 4 payload.length)
  else .ok (none, none)

def parseIpv4PacketParts (packet : Bytes) : Except TunPacketError TunPacketParts :=
  if h : 20 ≤ packet.length then
    let headerLen := (packet[0] &&& 0x0f).toNat * 4
    let totalLength := (ofBe16 packet[2] packet[3]).toNat
    let fragmentControl := ofBe16 packet[6] packet[7]
    let moreFragments := fragmentControl &&& 0x2000 != 0
    let fragmentOffset := fragmentControl &&& 0x1fff
    if headerLen < 20 ∨ packet.length < headerLen then
      .error (.ipv4HeaderTooShort headerLen packet.length)
    else if totalLength < headerLen then .error (.ipv4TotalLengthTooShort totalLength headerLen)
    else if packet.length < totalLength then .error (.ipv4PacketTruncated totalLength packet.length)
    else if moreFragments = true ∨ fragmentOffset ≠ 0 then
      .error (.ipv4FragmentedPacket fragmentOffset moreFragments)
    else
      let protocol := TunTransportProtocol.fromIpProtocolNumber packet[9]
      let transportPayload := (packet.take totalLength).drop headerLen
      match parseTransportPorts protocol transportPayload with
      | .error error => .error error
      | .ok (sourcePort, destinationPort) =>
        .ok ⟨⟨.ipv4, protocol, .v4 ⟨packet[12], packet[13], packet[14], packet[15]⟩,
          .v4 ⟨packet[16], packet[17], packet[18], packet[19]⟩, sourcePort, destinationPort⟩,
          transportPayload⟩
  else .error .packetTooShort

def isIpv6SkippableExtensionHeader (nextHeader : UInt8) : Bool :=
  nextHeader == 0 || nextHeader == 43 || nextHeader == 60

def isIpv6ExtensionHeader (nextHeader : UInt8) : Bool :=
  nextHeader == 0 || nextHeader == 43 || nextHeader == 44 || nextHeader == 50 ||
    nextHeader == 51 || nextHeader == 60

def parseIpv6TransportHeader (packet : Bytes) (totalLength : ℕ) (htotal : totalLength ≤ packet.length)
    (nextHeader : UInt8) (offset : ℕ) : Except TunPacketError (UInt8 × ℕ) :=
  if isIpv6SkippableExtensionHeader nextHeader then
    if h : totalLength - offset < 2 then
      .error (.ipv6ExtensionHeaderTruncated nextHeader 2 (totalLength - offset))
    else
      let extensionLen := (packet[offset + 1].toNat + 1) * 8
      if totalLength - offset < extensionLen then
        .error (.ipv6ExtensionHeaderTruncated nextHeader extensionLen (totalLength - offset))
      else parseIpv6TransportHeader packet totalLength htotal packet[offset] (offset + extensionLen)
  else if isIpv6ExtensionHeader nextHeader then .error (.ipv6ExtensionHeaderUnsupported nextHeader)
  else .ok (nextHeader, offset)
termination_by totalLength - offset
decreasing_by omega

def ipv6AddrAt (packet : Bytes) (offset : ℕ) (h : offset + 16 ≤ packet.length) : Ipv6Addr :=
  ⟨(packet.drop offset).take 16, by rw [List.length_take, List.length_drop]; omega⟩

def parseIpv6PacketParts (packet : Bytes) : Except TunPacketError TunPacketParts :=
  if h : 40 ≤ packet.length then
    let totalLength := 40 + (ofBe16 packet[4] packet[5]).toNat
    if htotal : totalLength ≤ packet.length then
      match parseIpv6TransportHeader packet totalLength htotal packet[6] 40 with
      | .error error => .error error
      | .ok (nextHeader, transportOffset) =>
        let protocol := TunTransportProtocol.fromIpProtocolNumber nextHeader
        let transportPayload := (packet.take totalLength).drop transportOffset
        match parseTransportPorts protocol transportPayload with
        | .error error => .error error
        | .ok (sourcePort, destinationPort) =>
          .ok ⟨⟨.ipv6, protocol, .v6 (ipv6AddrAt packet 8 (by omega)),
            .v6 (ipv6AddrAt packet 24 (by omega)), sourcePort, destinationPort⟩, transportPayload⟩
    else .error (.ipv6PacketTruncated totalLength packet.length)
  else .error .packetTooShort

def parseTunPacketParts (packet : Bytes) : Except TunPacketError TunPacketParts :=
  match packet with
  | [] => .error .packetTooShort
  | first :: _ =>
    if first >>> 4 = 4 then parseIpv4PacketParts packet
    else if first >>> 4 = 6 then parseIpv6PacketParts packet
    else .error (.unsupportedIpVersion (first >>> 4))

def parseTunPacketFlow (packet : Bytes) : Except TunPacketError TunPacketFlow :=
  (parseTunPacketParts packet).map (·.flow)

def parseTunTcpSegment (packet : Bytes) : Except TunPacketError TunTcpSegment :=
  match parseTunPacketParts packet with
  | .error error => .error error
  | .ok ⟨flow, tp⟩ =>
    if flow.protocol ≠ .tcp then .error (.expectedTcpSegment flow.protocol)
    else if h : 20 ≤ tp.length then
      let headerLen := (tp[12] >>> 4).toNat * 4
      if headerLen < 20 then .error (.tcpDataOffsetTooSmall headerLen)
      else if tp.length < headerLen then .error (.tcpSegmentTruncated headerLen tp.length)
      else .ok {
        flow := flow
        sequenceNumber := ofBe32 tp[4] tp[5] tp[6] tp[7]
        acknowledgmentNumber := ofBe32 tp[8] tp[9] tp[10] tp[11]
        headerLen := headerLen
        flags := .fromBits (((tp[12] &&& 0x01).toUInt16 <<< 8) ||| tp[13].toUInt16)
        windowSize := ofBe16 tp[14] tp[15]
        payload := tp.drop headerLen }
    else .error (.transportHeaderTooShort .tcp 20 tp.length)

def parseTunUdpPayload (packet : Bytes) : Except TunPacketError TunUdpPayload :=
  match parseTunPacketParts packet with
  | .error error => .error error
  | .ok ⟨flow, tp⟩ =>
    if flow.protocol ≠ .udp then .error (.expectedUdpPayload flow.protocol)
    else if h : 8 ≤ tp.length then
      let udpLength := (ofBe16 tp[4] tp[5]).toNat
      if udpLength < 8 then .error (.udpLengthTooShort udpLength)
      else if tp.length < udpLength then .error (.udpPacketTruncated udpLength tp.length)
      else .ok ⟨flow, (tp.take udpLength).drop 8⟩
    else .error (.transportHeaderTooShort .udp 8 tp.length)

end KeliNative.Tun
