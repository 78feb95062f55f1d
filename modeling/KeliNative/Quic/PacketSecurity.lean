import KeliNative.Framing.Framed
import KeliNative.Lib.Iteration

/-!
# Sealed packets of legacy QUIC (`quic.rs`)

Every segment is sealed on its own, and opened in place.
-/

namespace KeliNative.Quic
open Framing (chunks)

/-- `rand::thread_rng().fill_bytes(&mut nonce)` fills twelve bytes. -/
structure Nonce where
  bytes : Bytes
  sized : bytes.length = 12

/-- An AEAD cipher with its key; the first argument is the nonce. -/
structure PacketCipher where
  encrypt : Bytes → Bytes → Option Bytes
  decrypt : Bytes → Bytes → Option Bytes
  decrypt_encrypt : ∀ {nonce plain encrypted}, encrypt nonce plain = some encrypted →
    decrypt nonce encrypted = some plain
  decrypt_length : ∀ {nonce encrypted plain}, decrypt nonce encrypted = some plain →
    encrypted.length = plain.length + 16

inductive QuicPacketSecurity where
  | aes128Gcm (cipher : PacketCipher)
  | chaCha20Poly1305 (cipher : PacketCipher)

namespace QuicPacketSecurity

def cipher : QuicPacketSecurity → PacketCipher
  | .aes128Gcm cipher => cipher
  | .chaCha20Poly1305 cipher => cipher

def nonceSize (_ : QuicPacketSecurity) : ℕ := 12

def tagSize (_ : QuicPacketSecurity) : ℕ := 16

def packetOverhead (security : QuicPacketSecurity) : ℕ := security.nonceSize + security.tagSize

variable (security : QuicPacketSecurity)

def sealPacketInto (nonce : Nonce) (input output : Bytes) : Except IoError Bytes :=
  match security.cipher.encrypt nonce.bytes input with
  | none => .error ⟨.invalidData, "legacy QUIC packet seal failed"⟩
  | some encrypted => .ok (output ++ nonce.bytes ++ encrypted)

def sealPacket (nonce : Nonce) (input : Bytes) : Except IoError Bytes :=
  security.sealPacketInto nonce input []

def openPacket (input : Bytes) : Option Bytes :=
  if input.length ≤ security.packetOverhead then none
  else security.cipher.decrypt (input.take security.nonceSize) (input.drop security.nonceSize)

end QuicPacketSecurity

inductive EcnCodepoint where
  | ect0
  | ect1
  | ce
  deriving DecidableEq

structure Transmit where
  destination : SocketAddr
  ecn : Option EcnCodepoint
  contents : Bytes
  segmentSize : Option ℕ
  srcIp : Option IpAddr
  deriving DecidableEq

/-- The loop of `try_send` over the chunks; `nonces` are what the random source gives. -/
def sealEach (security : QuicPacketSecurity) (nonces : ℕ → Nonce) :
    ℕ → List Bytes → Bytes → Except IoError Bytes
  | _, [], packet => .ok packet
  | drawn, chunk :: rest, packet =>
    security.sealPacketInto (nonces drawn) chunk packet >>= sealEach security nonces (drawn + 1) rest

def wrapTransmit (security : QuicPacketSecurity) (nonces : ℕ → Nonce) (transmit : Transmit) :
    Except IoError Transmit :=
  let segmentSize := transmit.segmentSize.getD transmit.contents.length
  if segmentSize = 0 ∨ transmit.contents.length ≤ segmentSize then do
    let packet ← security.sealPacket (nonces 0) transmit.contents
    return { transmit with contents := packet, segmentSize := none }
  else do
    let wrappedSegmentSize := segmentSize + security.packetOverhead
    let packet ← sealEach security nonces 0 (chunks segmentSize transmit.contents) []
    return { transmit with contents := packet, segmentSize := some wrappedSegmentSize }

def trySend (inner : Transmit → Except IoError Unit) (security : QuicPacketSecurity)
    (nonces : ℕ → Nonce) (transmit : Transmit) : Except IoError Unit :=
  wrapTransmit security nonces transmit >>= inner

/-- The two fields of `quinn::udp::RecvMeta` that `open_meta` uses. -/
structure RecvMeta where
  len : ℕ
  stride : ℕ
  deriving DecidableEq

structure OpenState where
  buffer : Bytes
  inputOffset : ℕ
  outputOffset : ℕ
  outputStride : ℕ
  segmentCount : ℕ
  deriving DecidableEq

structure Opened where
  opened : Bool
  buffer : Bytes
  received : RecvMeta
  deriving DecidableEq

/-- `buffer[offset..offset + bytes.len()].copy_from_slice(bytes)`, within the buffer. -/
def copyInto (buffer : Bytes) (offset : ℕ) (bytes : Bytes) : Bytes :=
  buffer.take offset ++ bytes ++ buffer.drop (offset + bytes.length)

def openSegment (security : QuicPacketSecurity) (stride : ℕ) (received : RecvMeta)
    (state : OpenState) : Iteration OpenState Opened :=
  if state.inputOffset < received.len then
    let packetLen := min stride (received.len - state.inputOffset)
    if packetLen ≤ security.packetOverhead then .returned ⟨false, state.buffer, received⟩
    else if state.buffer.length < state.inputOffset + packetLen then .panicked
    else match security.openPacket ((state.buffer.drop state.inputOffset).take packetLen) with
      | none => .returned ⟨false, state.buffer, received⟩
      | some plain =>
        if state.buffer.length < state.outputOffset + plain.length then .panicked
        else .next {
          buffer := copyInto state.buffer state.outputOffset plain
          inputOffset := state.inputOffset + packetLen
          outputOffset := state.outputOffset + plain.length
          outputStride := if state.segmentCount = 0 then plain.length else state.outputStride
          segmentCount := state.segmentCount + 1 }
  else .returned ⟨true, state.buffer, state.outputOffset,
    if state.segmentCount ≤ 1 then state.outputOffset else state.outputStride⟩

def openStride (received : RecvMeta) : ℕ :=
  if received.stride = 0 then received.len else received.stride

def openMeta (security : QuicPacketSecurity) (buffer : Bytes) (received : RecvMeta) :
    Iteration OpenState Opened :=
  if openStride received ≤ security.packetOverhead then .returned ⟨false, buffer, received⟩
  else Iteration.iterate (openSegment security (openStride received) received) (received.len + 1)
    ⟨buffer, 0, 0, 0, 0⟩

end KeliNative.Quic
