import KeliNative.Lib.KeyMap
import KeliNative.Lib.SeqNum
import KeliNative.Net.Io
import KeliNative.Tun.PacketRoundTrip

/-!
# TUN TCP session records (`keli-net-core/src/tun.rs`)

Instants are nanoseconds on one clock; a step reads the clock once.
-/

namespace KeliNative.Tun

structure TunTcpSessionKey where
  sourceIp : IpAddr
  sourcePort : UInt16
  destinationIp : IpAddr
  destinationPort : UInt16
  deriving DecidableEq

def TunTcpSessionKey.fromFlow (flow : TunPacketFlow) : Except TunPacketError TunTcpSessionKey :=
  if flow.protocol ≠ .tcp then .error (.expectedTcpSegment flow.protocol)
  else match flow.sourcePort, flow.destinationPort with
    | none, _ => .error .missingTcpSocketAddress
    | some _, none => .error .missingTcpSocketAddress
    | some sourcePort, some destinationPort =>
      .ok ⟨flow.sourceIp, sourcePort, flow.destinationIp, destinationPort⟩

inductive TunTcpSessionPhase where
  | synReceived
  | established
  | clientFinReceived
  deriving DecidableEq

structure TunTcpServerUnackedPayload where
  sequenceNumber : UInt32
  acknowledgmentNumber : UInt32
  payload : Bytes
  deriving DecidableEq

structure TunTcpSessionRecord where
  key : TunTcpSessionKey
  flow : TunPacketFlow
  clientInitialSequenceNumber : UInt32
  clientNextSequenceNumber : UInt32
  serverInitialSequenceNumber : UInt32
  serverNextSequenceNumber : UInt32
  serverUnackedPayload : Option TunTcpServerUnackedPayload
  windowSize : UInt16
  phase : TunTcpSessionPhase
  lastActivityAt : Instant
  deriving DecidableEq

structure TunTcpClientPayloadFrame where
  session : TunTcpSessionRecord
  sequenceNumber : UInt32
  acknowledgmentNumber : UInt32
  payload : Bytes
  ackPacket : Bytes
  deriving DecidableEq

structure TunTcpDuplicateClientPayloadAck where
  session : TunTcpSessionRecord
  sequenceNumber : UInt32
  acknowledgmentNumber : UInt32
  payload : Bytes
  ackPacket : Bytes
  deriving DecidableEq

structure TunTcpOutOfOrderClientPayloadAck where
  session : TunTcpSessionRecord
  sequenceNumber : UInt32
  acknowledgmentNumber : UInt32
  payload : Bytes
  ackPacket : Bytes
  deriving DecidableEq

structure TunTcpServerPayloadFrame where
  session : TunTcpSessionRecord
  sequenceNumber : UInt32
  acknowledgmentNumber : UInt32
  payload : Bytes
  packet : Bytes
  deriving DecidableEq

structure TunTcpServerCloseFrame where
  session : TunTcpSessionRecord
  sequenceNumber : UInt32
  acknowledgmentNumber : UInt32
  packet : Bytes
  deriving DecidableEq

structure TunTcpServerClosedSession where
  response : TunTcpServerCloseFrame
  lastActivityAt : Instant
  deriving DecidableEq

structure TunTcpPostCloseSession where
  session : TunTcpSessionRecord
  serverNextSequenceNumber : UInt32
  clientNextSequenceNumber : UInt32
  clientFinSequenceNumber : Option UInt32
  clientFinAckPacket : Option Bytes
  lastActivityAt : Instant
  deriving DecidableEq

structure TunTcpCloseFrame where
  session : TunTcpSessionRecord
  sequenceNumber : UInt32
  acknowledgmentNumber : UInt32
  packet : Bytes
  deriving DecidableEq

structure TunTcpSynAckResponse where
  session : TunTcpSessionRecord
  packet : Bytes
  deriving DecidableEq

structure TunTcpSessionResetFrame where
  sequenceNumber : UInt32
  acknowledgmentNumber : UInt32
  packet : Bytes
  deriving DecidableEq

inductive TunTcpCloseMarkerResetKind where
  | serverClose
  | postClose
  deriving DecidableEq

inductive TunTcpSessionStep where
  | noop
  | synAck (response : TunTcpSynAckResponse)
  | reset (response : TunTcpSessionResetFrame)
  | established (session : TunTcpSessionRecord)
  | clientAck (session : TunTcpSessionRecord)
  | clientPayload (frame : TunTcpClientPayloadFrame)
      (serverResponse : Option TunTcpServerPayloadFrame) (serverClose : Option TunTcpServerCloseFrame)
  | clientPayloadClosed (frame : TunTcpClientPayloadFrame) (response : TunTcpCloseFrame)
      (serverResponse : Option TunTcpServerPayloadFrame) (serverClose : Option TunTcpServerCloseFrame)
  | clientFinAck (response : TunTcpCloseFrame)
      (serverResponse : Option TunTcpServerPayloadFrame) (serverClose : Option TunTcpServerCloseFrame)
  | overlappingClientPayload (frame : TunTcpClientPayloadFrame)
      (serverResponse : Option TunTcpServerPayloadFrame) (serverClose : Option TunTcpServerCloseFrame)
  | duplicateClientPayload (ack : TunTcpDuplicateClientPayloadAck)
  | outOfOrderClientPayload (ack : TunTcpOutOfOrderClientPayloadAck)
  | serverPayload (response : TunTcpServerPayloadFrame)
  | serverPayloadRetransmission (response : TunTcpServerPayloadFrame)
  | serverClosed (response : TunTcpServerCloseFrame)
  | serverCloseRetransmission (response : TunTcpServerCloseFrame)
  | serverCloseAcknowledged (session : TunTcpSessionRecord)
  | closeMarkerReset (session : TunTcpSessionRecord) (kind : TunTcpCloseMarkerResetKind)
  | serverCloseClientFinAck (response : TunTcpCloseFrame)
  | clientFinDuplicateAck (response : TunTcpCloseFrame)
      (serverResponse : Option TunTcpServerPayloadFrame) (serverClose : Option TunTcpServerCloseFrame)
  | closed (session : TunTcpSessionRecord) (response : Option TunTcpCloseFrame)
  deriving DecidableEq

def serverPackets (serverResponse : Option TunTcpServerPayloadFrame)
    (serverClose : Option TunTcpServerCloseFrame) : List Bytes :=
  (serverResponse.map (·.packet)).toList ++ (serverClose.map (·.packet)).toList

def TunTcpSessionStep.responsePackets : TunTcpSessionStep → List Bytes
  | .synAck response => [response.packet]
  | .reset response => [response.packet]
  | .clientPayload frame serverResponse serverClose
  | .overlappingClientPayload frame serverResponse serverClose =>
      frame.ackPacket :: serverPackets serverResponse serverClose
  | .duplicateClientPayload ack => [ack.ackPacket]
  | .outOfOrderClientPayload ack => [ack.ackPacket]
  | .clientPayloadClosed _ response serverResponse serverClose
  | .clientFinAck response serverResponse serverClose =>
      response.packet :: serverPackets serverResponse serverClose
  | .serverPayload response | .serverPayloadRetransmission response => [response.packet]
  | .serverClosed response | .serverCloseRetransmission response => [response.packet]
  | .serverCloseClientFinAck response => [response.packet]
  | .clientFinDuplicateAck response serverResponse serverClose =>
      response.packet :: serverPackets serverResponse serverClose
  | .closed _ (some response) => [response.packet]
  | _ => []

inductive TunTcpSessionError where
  | packet (error : TunPacketError)
  | relay (error : String)
  deriving DecidableEq

inductive TunTcpServerRead where
  | noPayload
  | payload (bytes : Bytes)
  | closed
  deriving DecidableEq

def tcpSegmentSequenceLen (segment : TunTcpSegment) : UInt32 :=
  let sequenceLen := UInt32.ofNat segment.payload.length
  let sequenceLen := if segment.flags.syn then sequenceLen + 1 else sequenceLen
  if segment.flags.fin then sequenceLen + 1 else sequenceLen

def tcpSegmentNextSequenceNumber (segment : TunTcpSegment) : UInt32 :=
  segment.sequenceNumber + tcpSegmentSequenceLen segment

def isInitialTcpSynSegment (segment : TunTcpSegment) : Bool :=
  segment.flags.syn && !segment.flags.ack && !segment.flags.rst

def tcpResetSequenceNumber (segment : TunTcpSegment) : UInt32 :=
  if segment.flags.ack then segment.acknowledgmentNumber else 0

def tcpResetAcknowledgmentNumber (segment : TunTcpSegment) : UInt32 :=
  tcpSegmentNextSequenceNumber segment

def tcpSegmentAcknowledgesKnownServerSequence (segment : TunTcpSegment)
    (session : TunTcpSessionRecord) : Bool :=
  SeqNum.between (session.serverInitialSequenceNumber + 1) session.serverNextSequenceNumber
    segment.acknowledgmentNumber

def clearServerUnackedPayloadIfLatestAcknowledged (segment : TunTcpSegment)
    (session : TunTcpSessionRecord) : TunTcpSessionRecord :=
  if segment.acknowledgmentNumber = session.serverNextSequenceNumber then
    { session with serverUnackedPayload := none }
  else session

def tunTcpPhaseAcceptsServerResponse : TunTcpSessionPhase → Bool
  | .established | .clientFinReceived => true
  | .synReceived => false

def serverCloseNextSequenceNumber (response : TunTcpServerCloseFrame) : UInt32 :=
  response.sequenceNumber + 1

def tcpCloseSegmentMatchesSession (segment : TunTcpSegment) (session : TunTcpSessionRecord) : Bool :=
  match session.phase with
  | .synReceived => true
  | .established =>
      segment.flags.ack && segment.sequenceNumber == session.clientNextSequenceNumber &&
        segment.acknowledgmentNumber == session.serverNextSequenceNumber
  | .clientFinReceived =>
      segment.flags.rst && segment.flags.ack && !segment.flags.fin &&
        segment.sequenceNumber == session.clientNextSequenceNumber &&
        tcpSegmentAcknowledgesKnownServerSequence segment session

def isPureAck (segment : TunTcpSegment) : Bool :=
  segment.flags.ack && !segment.flags.syn && !segment.flags.rst && !segment.flags.fin &&
    segment.payload.isEmpty

def isClientFin (segment : TunTcpSegment) : Bool :=
  segment.flags.ack && segment.flags.fin && !segment.flags.syn && !segment.flags.rst

def buildTunTcpResetResponsePacket (segment : TunTcpSegment) : Except TunPacketError Bytes :=
  buildTunTcpResponsePacket segment.flow (tcpResetSequenceNumber segment)
    (tcpResetAcknowledgmentNumber segment) (.fromBits 0x0014) 0 []

def buildTunTcpSynAckResponsePacket (segment : TunTcpSegment) (serverInitialSequenceNumber : UInt32)
    (windowSize : UInt16) : Except TunPacketError Bytes :=
  if isInitialTcpSynSegment segment = false then .error (.expectedTcpSynSegment segment.flags)
  else buildTunTcpResponsePacket segment.flow serverInitialSequenceNumber
    (tcpSegmentNextSequenceNumber segment) (.fromBits 0x0012) windowSize []

def buildTunTcpAckResponsePacket (flow : TunPacketFlow) (sequenceNumber acknowledgmentNumber : UInt32)
    (windowSize : UInt16) : Except TunPacketError Bytes :=
  buildTunTcpResponsePacket flow sequenceNumber acknowledgmentNumber (.fromBits 0x0010) windowSize []

def buildTunTcpPayloadResponsePacket (flow : TunPacketFlow)
    (sequenceNumber acknowledgmentNumber : UInt32) (windowSize : UInt16) (payload : Bytes) :
    Except TunPacketError Bytes :=
  buildTunTcpResponsePacket flow sequenceNumber acknowledgmentNumber (.fromBits 0x0018) windowSize
    payload

def buildTunTcpFinAckResponsePacket (flow : TunPacketFlow)
    (sequenceNumber acknowledgmentNumber : UInt32) (windowSize : UInt16) :
    Except TunPacketError Bytes :=
  buildTunTcpResponsePacket flow sequenceNumber acknowledgmentNumber (.fromBits 0x0011) windowSize []

end KeliNative.Tun
