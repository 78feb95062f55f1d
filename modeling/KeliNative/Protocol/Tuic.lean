import KeliNative.Lib.Cursor
import KeliNative.Protocol.Target

/-!
# TUIC packets and the decoders of protocol messages (`keli-protocol/src/lib.rs`)

The readers take from the front of what is left of the input.
-/

namespace KeliNative.Protocol
open BigEndian Cursor Outbound Text

inductive ProtocolDecodingError where
  | unexpectedEof
  | invalidUtf8
  | invalidHy2Status (status : UInt8)
  | invalidEndpoint
  | invalidTuicVersion (version : UInt8)
  | invalidTuicCommand (command : UInt8)
  | invalidTuicAddressType (addressType : UInt8)
  deriving DecidableEq

def ProtocolDecodingError.display : ProtocolDecodingError → String
  | .unexpectedEof => "protocol message is truncated"
  | .invalidUtf8 => "protocol message contains invalid UTF-8"
  | .invalidHy2Status status => "HY2 TCP response status is invalid: " ++ toString status.toNat
  | .invalidEndpoint => "proxy endpoint is invalid"
  | .invalidTuicVersion version => "TUIC command version is invalid: " ++ toString version.toNat
  | .invalidTuicCommand command => "TUIC command type is invalid: " ++ toString command.toNat
  | .invalidTuicAddressType addressType =>
      "TUIC address type is invalid: " ++ toString addressType.toNat

abbrev Decoder (α : Type) := Cursor UInt8 ProtocolDecodingError α

def ProtocolDecodingError.IsEof (error : ProtocolDecodingError) : Prop := error = .unexpectedEof

def readU8 : Decoder UInt8 := next .unexpectedEof

def readBytes (amount : ℕ) : Decoder Bytes := take .unexpectedEof amount

def readU16 : Decoder UInt16 := do
  let bytes ← readBytes 2
  return ofBe16 (bytes.getD 0 0) (bytes.getD 1 0)

def readU32 : Decoder UInt32 := do
  let bytes ← readBytes 4
  return ofBe32 (bytes.getD 0 0) (bytes.getD 1 0) (bytes.getD 2 0) (bytes.getD 3 0)

section

variable {eof : ProtocolDecodingError → Prop} (heof : eof .unexpectedEof)

include heof

theorem reads_readU8 (byte : UInt8) : Reads eof readU8 [byte] byte := reads_next heof byte

theorem reads_readBytes (bytes : Bytes) : Reads eof (readBytes bytes.length) bytes bytes :=
  reads_take heof rfl

theorem reads_readU16 (word : UInt16) : Reads eof readU16 (be16 word) word := by
  have hbytes : Reads eof (readBytes 2) (be16 word) (be16 word) := reads_take heof rfl
  have hword := hbytes.map fun bytes => ofBe16 (bytes.getD 0 0) (bytes.getD 1 0)
  rwa [show ofBe16 ((be16 word).getD 0 0) ((be16 word).getD 1 0) = word from ofBe16_digits word]
    at hword

theorem reads_readU32 (word : UInt32) : Reads eof readU32 (be32 word) word := by
  have hbytes : Reads eof (readBytes 4) (be32 word) (be32 word) := reads_take heof rfl
  have hword := hbytes.map fun bytes =>
    ofBe32 (bytes.getD 0 0) (bytes.getD 1 0) (bytes.getD 2 0) (bytes.getD 3 0)
  rwa [show ofBe32 ((be32 word).getD 0 0) ((be32 word).getD 1 0) ((be32 word).getD 2 0)
    ((be32 word).getD 3 0) = word from ofBe32_digits word] at hword

end

def Ipv4Addr.ofOctets (bytes : Bytes) : Ipv4Addr :=
  ⟨bytes.getD 0 0, bytes.getD 1 0, bytes.getD 2 0, bytes.getD 3 0⟩

/-- `octets.copy_from_slice(bytes)` on sixteen zeros. -/
def Ipv6Addr.ofOctets (bytes : Bytes) : Ipv6Addr :=
  ⟨(bytes ++ List.replicate 16 0).take 16, by simp⟩

theorem Ipv6Addr.ofOctets_octets (ip : Ipv6Addr) : ofOctets ip.octets = ip := by
  obtain ⟨octets, hoctets⟩ := ip
  simp only [ofOctets, Ipv6Addr.mk.injEq]
  rw [List.take_append_of_le_length hoctets.ge, ← hoctets, List.take_length]

structure TuicPacketCommand where
  associateId : UInt16
  packetId : UInt16
  fragmentTotal : UInt8
  fragmentId : UInt8
  source : Endpoint
  payload : Bytes
  deriving DecidableEq

def encodeTuicPacketCommand (ipText : IpText) (associateId packetId : UInt16)
    (fragmentTotal fragmentId : UInt8) (target : Endpoint) (payload : Bytes) :
    Except ProtocolEncodingError Bytes :=
  if 65535 < payload.length then .error .packetTooLong
  else do
    let address ← encodeTuicTarget ipText target
    return [0x05, 0x02] ++ (be16 associateId ++ (be16 packetId ++ ([fragmentTotal] ++
      ([fragmentId] ++ (be16 (UInt16.ofNat payload.length) ++ (address ++ payload))))))

def decodeTuicTarget (ipText : IpText) : Decoder Endpoint := do
  let addressType ← readU8
  if addressType = 0xff then return ⟨"", 0⟩
  else if addressType = 0x00 then
    let length ← readU8
    let domain ← readBytes length.toNat
    let host ← ofOption .invalidUtf8 (fromUtf8 domain)
    let port ← readU16
    return ⟨host, port⟩
  else if addressType = 0x01 then
    let bytes ← readBytes 4
    let port ← readU16
    return ⟨ipText.display (.v4 (Ipv4Addr.ofOctets bytes)), port⟩
  else if addressType = 0x02 then
    let bytes ← readBytes 16
    let port ← readU16
    return ⟨ipText.display (.v6 (Ipv6Addr.ofOctets bytes)), port⟩
  else throw (.invalidTuicAddressType addressType)

def readTuicPacketCommand (ipText : IpText) : Decoder TuicPacketCommand := do
  let version ← readU8
  ensure (version = 0x05) (.invalidTuicVersion version)
  let commandType ← readU8
  ensure (commandType = 0x02) (.invalidTuicCommand commandType)
  let associateId ← readU16
  let packetId ← readU16
  let fragmentTotal ← readU8
  let fragmentId ← readU8
  let size ← readU16
  let source ← decodeTuicTarget ipText
  let payload ← readBytes size.toNat
  return ⟨associateId, packetId, fragmentTotal, fragmentId, source, payload⟩

def decodeTuicPacketCommand (ipText : IpText) (input : Bytes) :
    Except ProtocolDecodingError TuicPacketCommand :=
  (readTuicPacketCommand ipText input).map (·.1)

/-- The host a target is read back with: the canonical text of an address, and the normalised
name otherwise. -/
def readBackHost (ipText : IpText) (host : String) : String :=
  match ipText.parse (bareHost host) with
  | some ip => ipText.display ip
  | none => bareHost host

section

variable {eof : ProtocolDecodingError → Prop} (heof : eof .unexpectedEof) {ipText : IpText}
  {target : Endpoint}

include heof

theorem reads_decodeTuicTarget {addr : Bytes} (h : encodeTuicTarget ipText target = .ok addr) :
    Reads eof (decodeTuicTarget ipText) addr
      ⟨readBackHost ipText target.host, target.port⟩ := by
  have hport := fun host : String => (reads_readU16 heof target.port).map (Endpoint.mk host)
  unfold encodeTuicTarget encodeTarget at h
  unfold readBackHost
  cases hparse : ipText.parse (bareHost target.host) with
  | some ip =>
    simp only [hparse] at h
    cases h
    cases ip with
    | v4 ip =>
      have hoctets : Reads eof (readBytes 4) ip.octets ip.octets := reads_take heof rfl
      refine (reads_readU8 heof 0x01).bind ?_
      rw [if_neg (by decide), if_neg (by decide), if_pos rfl]
      exact hoctets.bind (hport _)
    | v6 ip =>
      have hoctets : Reads eof (readBytes 16) ip.octets ip.octets :=
        reads_take heof ip.octets_length
      refine (reads_readU8 heof 0x02).bind ?_
      rw [if_neg (by decide), if_neg (by decide), if_neg (by decide), if_pos rfl]
      refine hoctets.bind ?_
      rw [Ipv6Addr.ofOctets_octets]
      exact hport _
  | none =>
    simp only [hparse] at h
    split_ifs at h with href
    · cases h
    cases h
    have hlen : (UInt8.ofNat (utf8 (bareHost target.host)).length).toNat =
        (utf8 (bareHost target.host)).length := by
      rw [UInt8.toNat_ofNat', Nat.mod_eq_of_lt (by omega)]
    have hname : Reads eof (readBytes (UInt8.ofNat (utf8 (bareHost target.host)).length).toNat)
        (utf8 (bareHost target.host)) (utf8 (bareHost target.host)) := reads_take heof hlen.symm
    refine (reads_readU8 heof 0x00).bind ?_
    rw [if_neg (by decide), if_pos rfl]
    refine (reads_readU8 heof _).bind (hname.bind ?_)
    rw [fromUtf8_utf8]
    exact (reads_pure (bareHost target.host)).bind (hport _)

theorem reads_tuicPacketCommand {assoc packetId : UInt16} {total fragmentId : UInt8}
    {data command : Bytes} (h : encodeTuicPacketCommand ipText assoc packetId total
      fragmentId target data = .ok command) :
    Reads eof (readTuicPacketCommand ipText) command ⟨assoc, packetId, total, fragmentId,
      ⟨readBackHost ipText target.host, target.port⟩, data⟩ := by
  unfold encodeTuicPacketCommand at h
  split_ifs at h with hlong
  cases haddr : encodeTuicTarget ipText target with
  | error error =>
    rw [haddr] at h
    cases h
  | ok addr =>
    rw [haddr] at h
    cases h
    have hsize : data.length = (UInt16.ofNat data.length).toNat := by
      rw [UInt16.toNat_ofNat', Nat.mod_eq_of_lt (by omega)]
    have hbytes : Reads eof (readBytes (UInt16.ofNat data.length).toNat) data data :=
      reads_take heof hsize
    refine (reads_readU8 heof 0x05).bind ((reads_ensure rfl _).bind ?_)
    refine (reads_readU8 heof 0x02).bind ((reads_ensure rfl _).bind ?_)
    refine (reads_readU16 heof assoc).bind ((reads_readU16 heof packetId).bind ?_)
    refine (reads_readU8 heof total).bind ((reads_readU8 heof fragmentId).bind ?_)
    refine (reads_readU16 heof _).bind ((reads_decodeTuicTarget heof haddr).bind ?_)
    exact hbytes.map _

end

/-- A packet command is read back, whatever follows it, and no strict prefix of it is read. -/
theorem tuic_packet_round_trip (ipText : IpText) (associateId packetId : UInt16)
    (fragmentTotal fragmentId : UInt8) (target : Endpoint) (payload address : Bytes)
    (haddr : encodeTuicTarget ipText target = .ok address) (hpay : payload.length ≤ 65535) :
    ∃ command, encodeTuicPacketCommand ipText associateId packetId fragmentTotal fragmentId target
        payload = .ok command ∧
      (∀ rest, decodeTuicPacketCommand ipText (command ++ rest) = .ok ⟨associateId, packetId,
        fragmentTotal, fragmentId, ⟨readBackHost ipText target.host, target.port⟩, payload⟩) ∧
      ∀ front, front <+: command → front ≠ command →
        ∃ error, decodeTuicPacketCommand ipText front = .error error := by
  have hencoded : ∃ command, encodeTuicPacketCommand ipText associateId packetId fragmentTotal
      fragmentId target payload = .ok command := by
    rw [encodeTuicPacketCommand, if_neg (by omega), haddr]
    exact ⟨_, rfl⟩
  obtain ⟨command, hcmd⟩ := hencoded
  have heof : ProtocolDecodingError.IsEof .unexpectedEof := rfl
  have hrds := reads_tuicPacketCommand heof hcmd
  refine ⟨command, hcmd, fun rest => ?_, fun front hfront hne => ?_⟩
  · rw [decodeTuicPacketCommand, hrds.whole]
    rfl
  · obtain ⟨error, _, herr⟩ := hrds.cut front hfront hne
    exact ⟨error, by rw [decodeTuicPacketCommand, herr]; rfl⟩

theorem tuic_packet_round_trip_name :
    ∃ command, encodeTuicPacketCommand decimalIpText 1 2 1 0 ⟨" [dns.test] ", 53⟩ [7] = .ok command ∧
      (∀ rest, decodeTuicPacketCommand decimalIpText (command ++ rest) =
        .ok ⟨1, 2, 1, 0, ⟨readBackHost decimalIpText " [dns.test] ", 53⟩, [7]⟩) ∧
      ∀ front, front <+: command → front ≠ command →
        ∃ error, decodeTuicPacketCommand decimalIpText front = .error error :=
  tuic_packet_round_trip decimalIpText 1 2 1 0 ⟨" [dns.test] ", 53⟩ [7]
    [0, 8, 100, 110, 115, 46, 116, 101, 115, 116, 0, 53] (by decide +kernel) (by decide)

end KeliNative.Protocol
