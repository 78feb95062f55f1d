import KeliNative.Framing.Resumable
import KeliNative.Framing.Mieru

/-!
# Writes under back-pressure

`pump_write` hands the same bytes to a framed stream again after `WouldBlock`.
-/

namespace KeliNative.Framing
open Relay List

variable {R σ F : Type}

/-- The peer's stream, about to read the bytes that were sent, and then the end. -/
def Receives (sent : Bytes) (peer : Framed R) : Prop :=
  peer.remaining = [] ∧ ∃ arrivals taken, Carries arrivals sent ∧
    peer.inner = ⟨arrivals, .eof, [], [], taken⟩

/-- The bytes that were sent read as `bytes` at every peer in step, whatever the length of its
reads. -/
def ReadsAs (read : ℕ → Io (Framed R) Bytes) (inStep : Framed R → Prop) (sent bytes : Bytes) : Prop :=
  ∀ peer, Receives sent peer → inStep peer → ∀ len, 0 < len →
    drain read len (bytes.length + 1) peer = bytes

theorem pumped_reads_as {codec : Codec σ F} {layer : Layer F} {state : Framed R → σ} {limit : ℕ}
    {write : Bytes → Io (Framed R) ℕ} {read : ℕ → Io (Framed R) Bytes}
    {held : Framed R → List F → Ending → Prop} {allowed : WriteCall (Framed R) → Prop}
    (hwrite : SendsBuffer codec layer state limit write) (hundone : Undone state allowed write)
    (hread : FollowsPlain layer (RelatedPlain held) failuresLeft read)
    (hend : layer.atEnd .eof = .ok ()) {bufs : List (Bytes × ℕ)}
    (hlim : ∀ buf ∈ bufs, buf.1.length < limit) {s s' : Framed R}
    {calls : List (WriteCall (Framed R))}
    (hrun : pumpBuffers (watch write) bufs (s, []) = (.ok true, s', calls))
    (hcalls : ∀ call ∈ calls, allowed call) {inStep : Framed R → Prop}
    (hheld : ∀ (peer : Framed R) (frames : List F), inStep peer → peer.inner.ending = .eof →
      peer.inner.writes = [] → Carries peer.inner.arrivals (codec.encodeAll (state s) frames) →
      held peer frames .eof) :
    ∃ sent, s'.inner.taken = s.inner.taken ++ sent ∧
      ReadsAs read inStep sent (bufs.map Prod.fst).flatten := by
  obtain ⟨frames, hcarry, htaken, -⟩ := pumpBuffers_sent hwrite hundone hlim hrun hcalls
  refine ⟨_, htaken, ?_⟩
  rintro peer ⟨hrem, arr, taken, hcar, hinner⟩ hstep len hlen
  have hrel : RelatedPlain held peer ⟨[], frames, .eof⟩ := by
    refine ⟨hrem, hheld peer frames hstep ?_ ?_ ?_⟩
    · rw [hinner]
    · rw [hinner]
    · rw [hinner]
      exact hcar
  have hnone : failuresLeft peer = 0 := by
    rw [failuresLeft, hinner, hcar.countP_isFailed]
    rfl
  exact hread.drain_eq hlen hrel hnone (hcarry.holds hend) (Nat.lt_succ_self _)

theorem exists_limit (bufs : List (Bytes × ℕ)) :
    ∃ limit, ∀ buf ∈ bufs, buf.1.length < limit := by
  induction bufs with
  | nil => exact ⟨0, nofun⟩
  | cons buf bufs ih =>
    obtain ⟨limit, hlim⟩ := ih
    refine ⟨max limit (buf.1.length + 1), fun other hmem => ?_⟩
    rcases mem_cons.mp hmem with rfl | hmem
    · exact (Nat.lt_succ_self _).trans_le (le_max_right _ _)
    · exact (hlim other hmem).trans_le (le_max_left _ _)

/-- Where no inner write of a stream that counts blocks, and none of the others after a byte of the
call was taken, what was pumped is what a peer in step reads. -/
theorem pumped_writes_arrive (buffers : List (Bytes × ℕ)) :
    (∀ (κ : Type) (C : ShadowsocksCipher κ)
      (stream s' : ShadowsocksTcpStream κ) (calls : List (WriteCall (ShadowsocksTcpStream κ))),
      pumpBuffers (watch (ShadowsocksTcpStream.write C)) buffers (stream, []) =
        (.ok true, s', calls) → (∀ call ∈ calls, call.NeverBlocked) →
      ∃ sent, s'.inner.taken = stream.inner.taken ++ sent ∧
        ReadsAs (ShadowsocksTcpStream.read C)
          (fun peer => peer.own.decryptCipher = some stream.own.encryptCipher) sent
          (buffers.map Prod.fst).flatten) ∧
    (∀ (W : VmessBody) (stream s' : VmessAeadStream)
      (calls : List (WriteCall VmessAeadStream)),
      pumpBuffers (watch (VmessAeadStream.write W)) buffers (stream, []) =
        (.ok true, s', calls) → (∀ call ∈ calls, call.NeverBlocked) →
      ∃ sent, s'.inner.taken = stream.inner.taken ++ sent ∧
        ReadsAs (VmessAeadStream.read W)
          (fun peer => (peer.own.readCounter, peer.own.readMask) =
            (stream.own.writeCounter, stream.own.writeMask)) sent (buffers.map Prod.fst).flatten) ∧
    (∀ (lossy : Bytes → String) (stream s' : AnyTlsTcpStream)
      (calls : List (WriteCall AnyTlsTcpStream)),
      pumpBuffers (watch AnyTlsTcpStream.write) buffers (stream, []) = (.ok true, s', calls) →
      (∀ call ∈ calls, call.BlockedAtStart) →
      ∃ sent, s'.inner.taken = stream.inner.taken ++ sent ∧
        ReadsAs (AnyTlsTcpStream.read lossy) (fun peer => peer.own.streamClosed = false) sent
          (buffers.map Prod.fst).flatten) ∧
    (∀ (close : UInt32 → Bool) (aead : MieruAead) (minutes : ℕ → UInt32)
      (stream s' : MieruTcpStream)
      (calls : List (WriteCall MieruTcpStream)), (∀ reading, close (minutes reading) = true) →
      pumpBuffers (watch (MieruTcpStream.write aead minutes)) buffers (stream, []) =
        (.ok true, s', calls) → (∀ call ∈ calls, call.NeverBlocked) →
      ∃ sent, s'.inner.taken = stream.inner.taken ++ sent ∧
        ReadsAs (MieruTcpStream.read close aead)
          (fun peer => peer.own.closed = false ∧ peer.own.readBuffer = [] ∧
            (MieruTcpStream.writeState stream).Read peer.own) sent
          (buffers.map Prod.fst).flatten) ∧
    (∀ (masks peerMasks : ℕ → WebSocket.Mask)
      (stream s' : WebSocketStream) (calls : List (WriteCall WebSocketStream)),
      (∀ buffer ∈ buffers, buffer.1.length < 2 ^ 64) →
      pumpBuffers (watch (WebSocketStream.write masks)) buffers (stream, []) =
        (.ok true, s', calls) →
      (∀ call ∈ calls, call.BlockedAtStart ∧ call.FlushNeverBlocked) →
      ∃ sent, s'.inner.taken = stream.inner.taken ++ sent ∧
        ReadsAs (WebSocketStream.read peerMasks) (fun _ => True) sent
          (buffers.map Prod.fst).flatten) := by
  refine ⟨fun κ C stream s' calls hrun hcalls => ?_,
    fun W stream s' calls hrun hcalls => ?_,
    fun lossy stream s' calls hrun hcalls => ?_,
    fun close aead minutes stream s' calls hclock hrun hcalls => ?_,
    fun masks peerMasks stream s' calls hlim hrun hcalls => ?_⟩
  · obtain ⟨limit, hlim⟩ := exists_limit buffers
    refine pumped_reads_as (ShadowsocksTcpStream.write_sends limit)
      (undone_of_neverBlocked ShadowsocksTcpStream.write_answers)
      ShadowsocksTcpStream.read_follows rfl hlim hrun hcalls ?_
    intro peer frames hcipher hending _ hcar
    rw [ShadowsocksTcpStream.Held, hcipher]
    exact ⟨hending, Codec.delivers_of_carries _ hcar⟩
  · obtain ⟨limit, hlim⟩ := exists_limit buffers
    refine pumped_reads_as (VmessAeadStream.write_sends limit)
      (undone_of_neverBlocked VmessAeadStream.write_answers) VmessAeadStream.read_follows rfl
      hlim hrun hcalls ?_
    intro peer frames hcounters hending _ hcar
    rw [VmessAeadStream.Held, hcounters]
    exact ⟨hending, Codec.delivers_of_carries _ hcar⟩
  · obtain ⟨limit, hlim⟩ := exists_limit buffers
    refine pumped_reads_as (AnyTlsTcpStream.write_sends limit) AnyTlsTcpStream.write_undone
      AnyTlsTcpStream.read_follows rfl hlim hrun hcalls ?_
    intro peer frames hopen hending hwrs hcar
    have hacc : peer.inner.Accepting := by
      intro reply hmem
      rw [hwrs] at hmem
      cases hmem
    have hheld := AnyTlsTcpStream.held_of_open peer hacc hopen
      (Codec.delivers_of_carries _ hcar)
    rwa [hending] at hheld
  · obtain ⟨limit, hlim⟩ := exists_limit buffers
    refine pumped_reads_as (MieruTcpStream.write_sends hclock limit)
      (undone_of_neverBlocked MieruTcpStream.write_answers) MieruTcpStream.read_follows rfl
      hlim hrun hcalls ?_
    rintro peer frames ⟨hopen, hbuf, hnonce⟩ hending _ hcar
    have harriving : MieruTcpStream.Arriving close aead (MieruTcpStream.writeState stream) frames
        peer := by
      refine ⟨fun error hmem => ?_, hnonce, ?_⟩
      · have hnone := countP_eq_zero.mp hcar.countP_isFailed _ hmem
        exact absurd rfl hnone
      · rw [hbuf, nil_append]
        exact hcar.filterMap_eq
    have hheld := MieruTcpStream.held_of_open hopen harriving
    rwa [hending] at hheld
  · refine pumped_reads_as WebSocketStream.write_sends WebSocketStream.write_undone
      WebSocketStream.read_follows rfl hlim hrun hcalls ?_
    intro peer frames _ hending hwrs hcar
    refine ⟨?_, hending, Codec.delivers_of_carries _ hcar⟩
    intro reply hmem
    rw [hwrs] at hmem
    cases hmem

def writingStream {R : Type} (own : R) (writes : List WriteReply) : Framed R where
  readBuffer := []
  readOffset := 0
  own := own
  inner := ⟨[], .eof, writes, [], []⟩

def blockedWrite : WriteReply := .failed ⟨.wouldBlock, "operation would block"⟩

def anyTlsFrame : Bytes := [2, 0, 0, 0, 1, 0, 1, 65]

def anyTlsSent : AnyTlsTcpStream :=
  { writingStream ⟨false, false⟩ [] with inner := ⟨[], .eof, [], [], anyTlsFrame⟩ }

/-- The first call blocks before anything is taken, the second takes the frame. -/
def retriedCalls : List (WriteCall AnyTlsTcpStream) :=
  [⟨writingStream ⟨false, false⟩ [blockedWrite], writingStream ⟨false, false⟩ []⟩,
    ⟨writingStream ⟨false, false⟩ [], anyTlsSent⟩]

theorem pumped_writes_arrive_anytls :
    ReadsAs (AnyTlsTcpStream.read fun _ => "") (fun peer => peer.own.streamClosed = false)
      anyTlsFrame [65] := by
  have hrun : pumpBuffers (watch AnyTlsTcpStream.write) [([65], 2)]
      (writingStream ⟨false, false⟩ [blockedWrite], []) = (.ok true, anyTlsSent, retriedCalls) := rfl
  have hcalls : ∀ call ∈ retriedCalls, call.BlockedAtStart := by
    intro call hmem reply hreply
    rcases mem_pair.mp hmem with rfl | rfl <;> cases hreply
  obtain ⟨sent, htaken, hrds⟩ := (pumped_writes_arrive _).2.2.1 (fun _ => "") _ _ _ hrun hcalls
  rw [show sent = anyTlsFrame from htaken.symm] at hrds
  exact hrds

def countingCipher : ShadowsocksCipher UInt8 where
  saltLen := 1
  tagLen := 1
  new _ := 0
  encryptPacket nonce plain := (plain ++ [nonce], nonce + 1)
  decryptPacket nonce bytes :=
    (if bytes.getLast? = some nonce then some bytes.dropLast else none, nonce + 1)
  saltLen_pos := Nat.one_pos
  encrypt_length _ plain := length_append
  decrypt_encrypt nonce plain := by
    rw [getLast?_concat, if_pos rfl, dropLast_concat]

def nonceTag (nonce : Bytes) : Bytes := (nonce ++ replicate 16 0).take 16

theorem nonceTag_length (nonce : Bytes) : (nonceTag nonce).length = 16 := by
  rw [nonceTag, length_take, length_append, length_replicate]
  omega

def openTagged (nonce bytes : Bytes) : Option Bytes :=
  if bytes.drop (bytes.length - 16) = nonceTag nonce then some (bytes.take (bytes.length - 16))
  else none

theorem openTagged_append (nonce plain : Bytes) :
    openTagged nonce (plain ++ nonceTag nonce) = some plain := by
  rw [openTagged, length_append, nonceTag_length, Nat.add_sub_cancel, drop_left,
    if_pos rfl, take_left]

def countingBody : VmessBody where
  iv := replicate 16 0
  mask _ := 0
  bodySeal nonce plain := plain ++ nonceTag nonce
  bodyOpen nonce bytes :=
    match openTagged nonce bytes with
    | some plain => .ok plain
    | none => .error ⟨.invalidData, "vmess body decrypt failed"⟩
  seal_length nonce plain := by rw [length_append, nonceTag_length]
  open_seal nonce plain := by simp only [openTagged_append]

def countingAead : MieruAead where
  encrypt nonce plain := plain ++ nonceTag nonce.1.reverse
  decrypt nonce bytes := openTagged nonce.1.reverse bytes
  encrypt_length nonce plain := by rw [length_append, nonceTag_length]
  decrypt_encrypt nonce plain := openTagged_append _ _

def zeroNonce : MieruNonce := ⟨replicate 24 0, length_replicate⟩

def pumpedAndRead {R : Type} (write : Bytes → Io (Framed R) ℕ) (read : ℕ → Io (Framed R) Bytes)
    (own : R) (writes : List WriteReply) (peer : R) : Except RelayError Bool × Bytes :=
  let (outcome, stream) := pumpBuffers write [([65], 2)] (writingStream own writes)
  (outcome, drain read 4 9 (arrivingStream peer (arriving stream.inner.taken)))

/-- A write that blocks and is retried counts as written, but the peer does not read `[65]`. -/
theorem blocked_write_is_lost :
    pumpedAndRead (ShadowsocksTcpStream.write countingCipher)
      (ShadowsocksTcpStream.read countingCipher) ⟨0, none⟩ [blockedWrite] ⟨0, some 0⟩ =
      (.ok true, []) ∧
    pumpedAndRead (VmessAeadStream.write countingBody) (VmessAeadStream.read countingBody)
      ⟨0, 0, 0, 0⟩ [blockedWrite] ⟨0, 0, 0, 0⟩ = (.ok true, []) ∧
    pumpedAndRead (MieruTcpStream.write countingAead fun _ => 0)
      (MieruTcpStream.read (fun _ => true) countingAead)
      ⟨none, zeroNonce, 0, 1, [], false, 0⟩ [blockedWrite]
      ⟨some zeroNonce, zeroNonce, 0, 0, [], false, 0⟩ = (.ok true, []) ∧
    pumpedAndRead AnyTlsTcpStream.write (AnyTlsTcpStream.read fun _ => "") ⟨false, false⟩
      [.takes 3, blockedWrite] ⟨false, false⟩ = (.ok true, []) ∧
    pumpedAndRead (WebSocketStream.write fun _ => zeroMask) (WebSocketStream.read fun _ => zeroMask)
      ⟨0⟩ [.takes 1, blockedWrite] ⟨0⟩ = (.ok true, [0x81, 65]) := by
  refine ⟨?_, ?_, ?_, ?_, ?_⟩ <;> decide +kernel

end KeliNative.Framing
