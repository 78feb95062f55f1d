import KeliNative.Framing.Atomic
import KeliNative.Framing.ReadOut
import KeliNative.Protocol.Datagrams

/-!
# Datagrams over streams (`direct.rs`, `mieru.rs`)

A datagram is one packet with its length before it; over VMess it goes out in chunks.
-/

namespace KeliNative.Protocol
open BigEndian Cursor Framing Outbound Text List

def encodeAnytlsUotConnectRequest (ipText : IpText) (target : Endpoint) (payload : Bytes) :
    Except IoError Bytes :=
  if 65535 < payload.length then .error ⟨.invalidInput, "AnyTLS UoT payload is too large"⟩
  else do
    let targetHeader ← (encodeShadowsocksTarget ipText target).mapError protocolEncodingToIo
    return 1 :: targetHeader ++ (be16 (UInt16.ofNat payload.length) ++ payload)

def readAnytlsUotConnectResponse : StreamReader Bytes := do
  let length ← readStreamU16
  take notFilled length.toNat

def socks5AddressFromTarget (ipText : IpText) (target : Endpoint) : Except IoError Socks5Address :=
  match ipText.parse (bareHost target.host) with
  | some ip => .ok (socks5AddressFromIp ip)
  | none =>
    if utf8 target.host ≠ [] ∧ (utf8 target.host).length ≤ 255 then .ok (.domain target.host)
    else .error ⟨.invalidInput, "SOCKS5 UDP target domain length is invalid"⟩

def encodeUdpFrame (packet : Bytes) : Except IoError Bytes :=
  if 65535 < packet.length then .error ⟨.invalidInput, "Mieru UDP packet is too large"⟩
  else .ok (0x00 :: (be16 (UInt16.ofNat packet.length) ++ packet ++ [0xff]))

/-- The bytes that are written to the stream. -/
def writeUdpDatagram (ipText : IpText) (target : Endpoint) (payload : Bytes) :
    Except IoError Bytes := do
  let address ← socks5AddressFromTarget ipText target
  let packet ← (encodeSocks5UdpDatagram address target.port payload).mapError Socks5Error.toIoError
  encodeUdpFrame packet

def takeUdpFrame : Io Bytes (Option Bytes) := fun buffer =>
  let buffer := buffer.dropWhile (· != 0x00)
  if buffer.length < 4 then (.ok none, buffer)
  else
    let len := (ofBe16 (buffer.getD 1 0) (buffer.getD 2 0)).toNat
    let total := 1 + 2 + len + 1
    if buffer.length < total then (.ok none, buffer)
    else if buffer.getD (total - 1) 0 ≠ 0xff then
      (.error ⟨.invalidData, "invalid Mieru UDP frame marker"⟩, buffer)
    else (.ok (some ((buffer.drop 3).take len)), buffer.drop total)

/-- The byte after the packet decides. -/
theorem takeUdpFrame_marker {pkt rest frame : Bytes} (h : pkt.length ≤ 65535) {marker : UInt8}
    (hframe : 0x00 :: (be16 (UInt16.ofNat pkt.length) ++ pkt ++ marker :: rest) = frame) :
    takeUdpFrame frame =
      if marker = 0xff then (.ok (some pkt), rest)
      else (.error ⟨.invalidData, "invalid Mieru UDP frame marker"⟩, frame) := by
  have hsize : (UInt16.ofNat pkt.length).toNat = pkt.length := by
    rw [UInt16.toNat_ofNat']
    omega
  generalize UInt16.ofNat pkt.length = size at hsize hframe
  have hstart : frame.dropWhile (· != 0x00) = frame := by
    rw [← hframe]
    rfl
  have hword : ofBe16 (frame.getD 1 0) (frame.getD 2 0) = size := by
    rw [← hframe]
    exact ofBe16_digits size
  have hlen : frame.length = pkt.length + 4 + rest.length := by
    rw [← hframe, length_cons, length_append, length_append, be16_length,
      length_cons]
    omega
  have hfront : (0x00 :: (be16 size ++ pkt) : Bytes).length = pkt.length + 3 := by
    rw [length_cons, length_append, be16_length]
    omega
  have hmarker : frame.getD (1 + 2 + pkt.length + 1 - 1) 0 = marker := by
    rw [← hframe, ← cons_append, getD_append_right _ _ _ _ (by omega), hfront,
      show 1 + 2 + pkt.length + 1 - 1 - (pkt.length + 3) = 0 by omega]
    rfl
  have hpkt : (frame.drop 3).take pkt.length = pkt := by
    rw [← hframe]
    exact take_left
  have hrest : frame.drop (1 + 2 + pkt.length + 1) = rest := by
    rw [← hframe, ← cons_append, drop_append, hfront,
      drop_of_length_le (by omega),
      show 1 + 2 + pkt.length + 1 - (pkt.length + 3) = 1 by omega]
    rfl
  unfold takeUdpFrame
  simp only [hstart, hword, hsize, hlen, hmarker, hpkt, hrest]
  rw [if_neg (by omega), if_neg (by omega), ite_not]

theorem takeUdpFrame_encodeUdpFrame {pkt frame : Bytes} (h : encodeUdpFrame pkt = .ok frame) :
    takeUdpFrame frame = (.ok (some pkt), []) := by
  unfold encodeUdpFrame at h
  split_ifs at h with hlong
  cases h
  rw [takeUdpFrame_marker (by omega) rfl, if_pos rfl]

/-- `write_all` of the payload: a write takes its whole buffer, and there is none for an empty
one. -/
def sendVmessUdpBody (W : VmessBody) (payload : Bytes) : Io VmessAeadStream Unit :=
  if payload = [] then Program.pure ()
  else Program.bind (VmessAeadStream.write W payload) fun _ => Program.pure ()

theorem chunks_eq_singleton_iff {size : ℕ} (hsize : 0 < size) (bytes : Bytes) :
    chunks size bytes = [bytes] ↔ 1 ≤ bytes.length ∧ bytes.length ≤ size := by
  constructor
  · intro h
    obtain ⟨_, hchs⟩ := chunks_spec hsize bytes
    rw [h] at hchs
    obtain ⟨hne, hle⟩ := hchs bytes mem_cons_self
    exact ⟨length_pos_iff.mpr hne, hle⟩
  · rintro ⟨hpos, hle⟩
    have hnil : ∀ turns, chunksLoop size turns [] = [] := by
      intro turns
      cases turns with
      | zero => rfl
      | succ turns => rw [chunksLoop, if_pos rfl]
    obtain ⟨turns, hturns⟩ : ∃ turns, bytes.length = turns + 1 := ⟨bytes.length - 1, by omega⟩
    rw [chunks, hturns, chunksLoop, if_neg (length_pos_iff.mp hpos),
      take_of_length_le hle, drop_of_length_le hle, hnil]

theorem sendVmessUdpBody_sends {W : VmessBody} {payload : Bytes} {s s' : VmessAeadStream}
    (h : sendVmessUdpBody W payload s = (.ok (), s')) :
    ∃ frames, frames.map VmessAeadStream.layer.meaning =
        (chunks VmessAeadStream.writeChunkSize payload).map Meaning.data ∧
      Sent (VmessAeadStream.codec W) VmessAeadStream.writeState frames s s' := by
  unfold sendVmessUdpBody at h
  split_ifs at h with hempty
  · obtain rfl := (Prod.mk.inj h).2
    subst hempty
    exact ⟨[], rfl, .nil s⟩
  · obtain ⟨_, middle, hwrite, h⟩ := Program.bind_eq_ok h
    obtain rfl := (Prod.mk.inj h).2
    rw [VmessAeadStream.write, if_neg hempty] at hwrite
    obtain ⟨_, middle', hrun, hwrite⟩ := Program.bind_eq_ok hwrite
    obtain rfl := (Prod.mk.inj hwrite).2
    exact VmessAeadStream.writeChunk_sends.writeEach (chunks_spec (by decide) payload).2 hrun

/-- What the paths with a length before the payload write is one packet with this payload, and
nothing is left behind it. -/
def OnePacket (ipText : IpText) (target : Endpoint) (payload : Bytes) : Prop :=
  (∀ packet, encodeTrojanUdpPacket ipText target payload = .ok packet →
    ∃ source, readTrojanUdpPacket ipText packet = .ok ((source, payload), [])) ∧
  (∀ request, encodeAnytlsUotConnectRequest ipText target payload = .ok request →
    ∃ header packet, encodeShadowsocksTarget ipText target = .ok header ∧
      request = 1 :: header ++ packet ∧ readAnytlsUotConnectResponse packet = .ok (payload, [])) ∧
  ∀ frame, writeUdpDatagram ipText target payload = .ok frame →
    ∃ packet datagram, takeUdpFrame frame = (.ok (some packet), []) ∧
      parseSocks5UdpDatagram packet = .ok datagram ∧ datagram.payload = payload

theorem onePacket (ipText : IpText) (target : Endpoint) (data : Bytes) :
    OnePacket ipText target data := by
  have hany : ∀ error : IoError, (fun _ => True) error := fun _ => trivial
  refine ⟨fun pkt h => ?_, fun req h => ?_, fun frame h => ?_⟩
  · have hwhole := (reads_readTrojanUdpPacket hany h).whole []
    rw [append_nil] at hwhole
    exact ⟨_, hwhole⟩
  · unfold encodeAnytlsUotConnectRequest at h
    split_ifs at h with hlong
    cases hhead : encodeShadowsocksTarget ipText target with
    | error error =>
      rw [hhead] at h
      cases h
    | ok header =>
      rw [hhead] at h
      cases h
      have hsize : data.length = (UInt16.ofNat data.length).toNat := by
        rw [UInt16.toNat_ofNat']
        omega
      have hbytes : Reads (fun _ => True) (take notFilled (UInt16.ofNat data.length).toNat)
          data data := reads_take trivial hsize
      have hpkt : Reads (fun _ => True) readAnytlsUotConnectResponse
          (be16 (UInt16.ofNat data.length) ++ data) data :=
        (reads_readStreamU16 hany _).bind hbytes
      have hwhole := hpkt.whole []
      rw [append_nil] at hwhole
      exact ⟨header, _, rfl, rfl, hwhole⟩
  · unfold writeUdpDatagram at h
    cases haddr : socks5AddressFromTarget ipText target with
    | error error =>
      rw [haddr] at h
      cases h
    | ok addr =>
      rw [haddr] at h
      cases hbytes : encodeSocks5UdpAddress addr with
      | error error =>
        simp only [encodeSocks5UdpDatagram, hbytes, bind, Except.bind, Except.mapError,
          reduceCtorEq] at h
      | ok bytes =>
        simp only [encodeSocks5UdpDatagram, hbytes, bind, Except.bind, Except.mapError, pure,
          Except.pure] at h
        exact ⟨_, _, takeUdpFrame_encodeUdpFrame h,
          parse_encodedSocks5Datagram hbytes target.port data, rfl⟩

/-- A datagram sent over VMess is one chunk exactly if it has from 1 to 15000 bytes. -/
theorem one_datagram_iff (ipText : IpText) (target : Endpoint) (payload : Bytes) :
    (∀ (W : VmessBody) (stream s' : VmessAeadStream),
      sendVmessUdpBody W payload stream = (.ok (), s') →
      ∃ frames, frames.map VmessAeadStream.layer.meaning =
          (chunks VmessAeadStream.writeChunkSize payload).map Meaning.data ∧
        Sent (VmessAeadStream.codec W) VmessAeadStream.writeState frames stream s') ∧
    ((chunks VmessAeadStream.writeChunkSize payload = [payload] ∧ OnePacket ipText target payload) ↔
      1 ≤ payload.length ∧ payload.length ≤ 15000) := by
  refine ⟨fun W stream s' h => sendVmessUdpBody_sends h, ?_⟩
  rw [chunks_eq_singleton_iff (by decide)]
  constructor
  · intro h
    exact h.1
  · intro h
    exact ⟨h, onePacket ipText target payload⟩

theorem onInner_takes {R : Type} {bytes : Bytes} {s : Framed R} (h : s.inner.writes = []) :
    Framed.onInner (writeAll bytes) s = (.ok (), { s with
      inner := { s.inner with taken := s.inner.taken ++ bytes } }) :=
  Framed.onInner_run (writeAll_takes h)

theorem writeChunk_takes (W : VmessBody) (chunk : Bytes) (hsize : chunk.length + 16 < 65536)
    {s : VmessAeadStream} (h : s.inner.writes = []) : ∃ s',
      VmessAeadStream.writeChunk W chunk s = (.ok (), s') ∧ s'.inner.writes = [] := by
  unfold VmessAeadStream.writeChunk
  dsimp only
  rw [W.seal_length, if_neg (Nat.not_le.mpr hsize), onInner_takes]
  · dsimp only
    rw [onInner_takes]
    · exact ⟨_, rfl, h⟩
    · exact h
  · exact h

/-- A datagram of 15001 bytes is sent as two chunks. -/
theorem large_vmess_datagram_split :
    let stream : VmessAeadStream := writingStream ⟨0, 0, 0, 0⟩ []
    ∃ s' frames, sendVmessUdpBody countingBody (replicate 15001 0) stream = (.ok (), s') ∧
      frames.map VmessAeadStream.layer.meaning = [.data (replicate 15000 0), .data [0]] ∧
      Sent (VmessAeadStream.codec countingBody) VmessAeadStream.writeState frames stream s' := by
  intro stream
  have hne : replicate 15001 (0 : UInt8) ≠ [] :=
    ne_nil_of_length_pos (by rw [length_replicate]; decide)
  have hchs : chunks VmessAeadStream.writeChunkSize (replicate 15001 0) =
      [replicate 15000 0, [0]] := by
    rw [chunks, length_replicate, chunksLoop, if_neg hne, take_replicate, drop_replicate]
    rfl
  obtain ⟨middle, hfirst, hfree⟩ := writeChunk_takes countingBody (replicate 15000 0)
    (by rw [length_replicate]; decide) (rfl : stream.inner.writes = [])
  obtain ⟨s', hsecond, -⟩ := writeChunk_takes countingBody [0] (by decide) hfree
  have hrun : sendVmessUdpBody countingBody (replicate 15001 0) stream = (.ok (), s') := by
    rw [sendVmessUdpBody, if_neg hne, VmessAeadStream.write, if_neg hne, hchs]
    simp only [Program.bind, writeEach, hfirst, hsecond, Program.pure]
  obtain ⟨frames, hmean, hsent⟩ := sendVmessUdpBody_sends hrun
  rw [hchs] at hmean
  exact ⟨s', frames, hrun, hmean, hsent⟩

end KeliNative.Protocol
