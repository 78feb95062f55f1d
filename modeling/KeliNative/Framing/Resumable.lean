import KeliNative.Framing.Shadowsocks
import KeliNative.Framing.Vmess
import KeliNative.Framing.AnyTls
import KeliNative.Framing.WebSocket

/-!
# Reads that are retried

Between two frames nothing is lost by a retry after `WouldBlock`.
-/

namespace KeliNative.Framing

/-- Where `WouldBlock` meets no frame half read, retrying a read of the four framed streams gives
what a stream that never blocks gives. -/
theorem framed_reads_resume (κ : Type) (C : ShadowsocksCipher κ) :
    (∀ (plain : PlainStream ShadowsocksTcpStream.Chunk) (s t : ShadowsocksTcpStream κ),
      RelatedPlain (ShadowsocksTcpStream.Held C) s plain →
      RelatedPlain (ShadowsocksTcpStream.Held C) t plain → failuresLeft t = 0 →
      Resumes (ShadowsocksTcpStream.read C) failuresLeft s t) ∧
    (∀ (R : VmessBody) (plain : PlainStream VmessAeadStream.Chunk) (s t : VmessAeadStream),
      RelatedPlain (VmessAeadStream.Held R) s plain →
      RelatedPlain (VmessAeadStream.Held R) t plain → failuresLeft t = 0 →
      Resumes (VmessAeadStream.read R) failuresLeft s t) ∧
    (∀ (lossy : Bytes → String) (plain : PlainStream AnyTlsTcpStream.Frame) (s t : AnyTlsTcpStream),
      RelatedPlain AnyTlsTcpStream.Held s plain → RelatedPlain AnyTlsTcpStream.Held t plain →
      failuresLeft t = 0 → Resumes (AnyTlsTcpStream.read lossy) failuresLeft s t) ∧
    (∀ (masks : ℕ → WebSocket.Mask) (plain : PlainStream WebSocketStream.Frame)
      (s t : WebSocketStream), RelatedPlain WebSocketStream.Held s plain →
      RelatedPlain WebSocketStream.Held t plain → failuresLeft t = 0 →
      Resumes (WebSocketStream.read masks) failuresLeft s t) := by
  refine ⟨fun plain s t hs ht hnone => ?_, fun R plain s t hs ht hnone => ?_,
    fun lossy plain s t hs ht hnone => ?_, fun masks plain s t hs ht hnone => ?_⟩
  · exact ShadowsocksTcpStream.read_follows.resumes hs ht hnone
  · exact VmessAeadStream.read_follows.resumes hs ht hnone
  · exact AnyTlsTcpStream.read_follows.resumes hs ht hnone
  · exact WebSocketStream.read_follows.resumes hs ht hnone

def plainCipher : ShadowsocksCipher Unit where
  saltLen := 1
  tagLen := 0
  new _ := ()
  encryptPacket _ plain := (plain, ())
  decryptPacket _ bytes := (some bytes, ())
  saltLen_pos := Nat.one_pos
  encrypt_length _ _ := rfl
  decrypt_encrypt _ _ := rfl

def blocked : Arrival := .failed ⟨.wouldBlock, "operation would block"⟩

def arriving (bytes : Bytes) : List Arrival := bytes.map fun byte => .byte byte false

def arrivingStream {R : Type} (own : R) (arrivals : List Arrival) : Framed R where
  readBuffer := []
  readOffset := 0
  own := own
  inner := ⟨arrivals, .eof, [], [], []⟩

def shadowsocksArriving (arrivals : List Arrival) : ShadowsocksTcpStream Unit :=
  arrivingStream ⟨(), none⟩ arrivals

/-- A salt and the chunk `[65]`, with pauses around the salt. -/
theorem framed_reads_resume_between_frames :
    Resumes (ShadowsocksTcpStream.read plainCipher) failuresLeft
      (shadowsocksArriving ([blocked] ++ arriving [7] ++ [blocked] ++ arriving [0, 1, 65]))
      (shadowsocksArriving (arriving [7, 0, 1, 65])) ∧
    callReads (ShadowsocksTcpStream.read plainCipher) [4, 4]
      (shadowsocksArriving (arriving [7, 0, 1, 65])) = [(4, .ok [65]), (4, .ok [])] := by
  have hchunk : (ShadowsocksTcpStream.codec plainCipher).Delivers () [⟨[65], by decide⟩]
      (arriving [0, 1, 65] ++ []) := .frame rfl (.done ())
  have hpaused : ShadowsocksTcpStream.DeliversSalt plainCipher [7] [⟨[65], by decide⟩]
      (blocked :: (arriving [7] ++ (blocked :: (arriving [0, 1, 65] ++ [])))) :=
    .pause rfl (.salt rfl (.pause rfl hchunk))
  have hplain : ShadowsocksTcpStream.DeliversSalt plainCipher [7] [⟨[65], by decide⟩]
      (arriving [7] ++ (arriving [0, 1, 65] ++ [])) := .salt rfl hchunk
  refine ⟨(framed_reads_resume Unit plainCipher).1 ⟨[], [⟨[65], by decide⟩], .eof⟩ _ _
    ⟨rfl, rfl, [7], rfl, hpaused⟩ ⟨rfl, rfl, [7], rfl, hplain⟩ rfl, by decide⟩

def plainBody : VmessBody where
  iv := List.replicate 16 0
  mask _ := 0
  bodySeal _ plain := plain ++ List.replicate 16 0
  bodyOpen _ bytes := .ok (bytes.take (bytes.length - 16))
  seal_length _ plain := by rw [List.length_append, List.length_replicate]
  open_seal _ plain := by
    rw [List.length_append, List.length_replicate, Nat.add_sub_cancel, List.take_left]

def zeroMask : WebSocket.Mask := ⟨[0, 0, 0, 0], rfl⟩

/-- A frame that is interrupted by `WouldBlock` after its first byte is not read by a retry, in
every one of the streams. -/
theorem interrupted_frame_is_lost :
    (callReads (ShadowsocksTcpStream.read plainCipher) [4]
        (arrivingStream ⟨(), some ()⟩ (arriving [0, 1, 65])) = [(4, .ok [65])] ∧
      answered (callReads (ShadowsocksTcpStream.read plainCipher) [4, 4]
        (arrivingStream ⟨(), some ()⟩ (arriving [0] ++ [blocked] ++ arriving [1, 65]))) =
        [(4, .error ⟨.unexpectedEof, "missing shadowsocks chunk payload"⟩)]) ∧
    (callReads (VmessAeadStream.read plainBody) [4]
        (arrivingStream ⟨0, 0, 0, 0⟩ (arriving ([0, 17, 65] ++ List.replicate 16 0))) =
        [(4, .ok [65])] ∧
      answered (callReads (VmessAeadStream.read plainBody) [4, 4] (arrivingStream ⟨0, 0, 0, 0⟩
        (arriving [0] ++ [blocked] ++ arriving ([17, 65] ++ List.replicate 16 0)))) =
        [(4, .error ⟨.unexpectedEof, "failed to fill whole buffer"⟩)]) ∧
    (callReads (AnyTlsTcpStream.read fun _ => "") [4]
        (arrivingStream ⟨false, false⟩ (arriving [2, 0, 0, 0, 1, 0, 1, 65])) = [(4, .ok [65])] ∧
      answered (callReads (AnyTlsTcpStream.read fun _ => "") [4, 4] (arrivingStream ⟨false, false⟩
        (arriving [2] ++ [blocked] ++ arriving [0, 0, 0, 1, 0, 1, 65]))) =
        [(4, .error ⟨.unexpectedEof, "missing AnyTLS frame payload"⟩)]) ∧
    (callReads (WebSocketStream.read fun _ => zeroMask) [4]
        (arrivingStream ⟨0⟩ (arriving [0x82, 1, 65])) = [(4, .ok [65])] ∧
      answered (callReads (WebSocketStream.read fun _ => zeroMask) [4, 4]
        (arrivingStream ⟨0⟩ (arriving [0x82] ++ [blocked] ++ arriving [1, 65]))) =
        [(4, .ok [])]) := by
  refine ⟨⟨?_, ?_⟩, ⟨?_, ?_⟩, ⟨?_, ?_⟩, ?_, ?_⟩ <;> decide +kernel

end KeliNative.Framing
