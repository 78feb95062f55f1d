import KeliNative.Framing.Atomic
import KeliNative.Framing.ReadOut

/-!
# Round trips of the framed streams

What one stream writes, a stream in step reads.
-/

namespace KeliNative.Framing
open BigEndian List

/-- The stream below a peer: the bytes arrive, cut into reads in any way, and then the end. -/
def Fed (bytes : Bytes) (inner : InnerStream) : Prop :=
  Carries inner.arrivals bytes ∧ inner.ending = .eof ∧ inner.writes = []

theorem Fed.failuresLeft_eq_zero {R : Type} {bytes : Bytes} {stream : Framed R}
    (h : Fed bytes stream.inner) : failuresLeft stream = 0 := by
  obtain ⟨hcar, -, hwrs⟩ := h
  rw [failuresLeft, hcar.countP_isFailed, InnerStream.failedWrites, hwrs]
  rfl

inductive VmessAeadSecurity where
  | aes128Gcm
  | chacha20Poly1305
  deriving DecidableEq

/-- The AEADs under a key and a nonce, and the words of the SHAKE reader of an IV. -/
structure VmessCrypto where
  aesGcmSeal : Bytes → Bytes → Bytes → Bytes
  aesGcmOpen : Bytes → Bytes → Bytes → Except IoError Bytes
  chacha20Poly1305Key : Bytes → Bytes
  chacha20Poly1305Seal : Bytes → Bytes → Bytes → Bytes
  chacha20Poly1305Open : Bytes → Bytes → Bytes → Except IoError Bytes
  chunkMask : Bytes → ℕ → UInt16
  aesGcm_length : ∀ key nonce plain, (aesGcmSeal key nonce plain).length = plain.length + 16
  aesGcm_open_seal : ∀ key nonce plain, aesGcmOpen key nonce (aesGcmSeal key nonce plain) = .ok plain
  chacha20Poly1305_length : ∀ key nonce plain,
    (chacha20Poly1305Seal key nonce plain).length = plain.length + 16
  chacha20Poly1305_open_seal : ∀ key nonce plain,
    chacha20Poly1305Open key nonce (chacha20Poly1305Seal key nonce plain) = .ok plain

namespace VmessCrypto

variable (crypto : VmessCrypto)

def bodySeal (key nonce input : Bytes) : VmessAeadSecurity → Bytes
  | .aes128Gcm => crypto.aesGcmSeal key nonce input
  | .chacha20Poly1305 => crypto.chacha20Poly1305Seal (crypto.chacha20Poly1305Key key) nonce input

def bodyOpen (key nonce input : Bytes) : VmessAeadSecurity → Except IoError Bytes
  | .aes128Gcm => crypto.aesGcmOpen key nonce input
  | .chacha20Poly1305 => crypto.chacha20Poly1305Open (crypto.chacha20Poly1305Key key) nonce input

def body (security : VmessAeadSecurity) (key iv : Bytes) : VmessBody where
  iv := iv
  mask := crypto.chunkMask iv
  bodySeal nonce plain := crypto.bodySeal key nonce plain security
  bodyOpen nonce bytes := crypto.bodyOpen key nonce bytes security
  seal_length nonce plain := by
    cases security with
    | aes128Gcm => exact crypto.aesGcm_length key nonce plain
    | chacha20Poly1305 => exact crypto.chacha20Poly1305_length _ nonce plain
  open_seal nonce plain := by
    cases security with
    | aes128Gcm => exact crypto.aesGcm_open_seal key nonce plain
    | chacha20Poly1305 => exact crypto.chacha20Poly1305_open_seal _ nonce plain

end VmessCrypto

namespace VmessAeadStream

def new (inner : InnerStream) : VmessAeadStream := ⟨[], 0, ⟨0, 0, 0, 0⟩, inner⟩

theorem write_eq_chunkedWrite (W : VmessBody) :
    write W = chunkedWrite writeChunkSize (writeChunk W) := by
  funext buf
  unfold write
  split_ifs with hempty
  · rw [hempty]
    rfl
  · rfl

/-- Two streams under one key and IV: what the first writes, the second reads. -/
theorem vmess_stream_round_trip (crypto : VmessCrypto) (security : VmessAeadSecurity)
    (key iv : Bytes) {buffers : List Bytes} {inner : InnerStream} {writer : VmessAeadStream}
    (hrun : writeBuffers (write (crypto.body security key iv)) buffers (new inner) =
      (.ok (), writer)) :
    ∃ sent, writer.inner.taken = inner.taken ++ sent ∧
      ∀ below, Fed sent below → ∀ lens : List ℕ, (∀ len ∈ lens, 0 < len) →
        ReadsOut buffers.flatten
          (callReads (read (crypto.body security key iv)) lens (new below)) := by
  have hsize : 0 < writeChunkSize := by decide
  rw [write_eq_chunkedWrite] at hrun
  obtain ⟨chunks, hmean, htaken, -⟩ := writeChunk_sends.writeBuffers hsize hrun
  refine ⟨_, htaken, fun below hbelow lens hlens => ?_⟩
  have hrel : RelatedPlain (Held (crypto.body security key iv)) (new below) ⟨[], chunks, .eof⟩ :=
    ⟨rfl, hbelow.2.1, Codec.delivers_of_carries _ hbelow.1⟩
  exact read_follows.readsOut hlens hrel hbelow.failuresLeft_eq_zero
    ((carry_chunks hsize hmean).holds rfl)

def countingCrypto : VmessCrypto where
  aesGcmSeal _ nonce plain := plain ++ nonceTag nonce
  aesGcmOpen _ nonce bytes := countingBody.bodyOpen nonce bytes
  chacha20Poly1305Key key := key
  chacha20Poly1305Seal _ nonce plain := plain ++ nonceTag nonce
  chacha20Poly1305Open _ nonce bytes := countingBody.bodyOpen nonce bytes
  chunkMask iv index := UInt16.ofNat (iv.length + index)
  aesGcm_length _ nonce plain := countingBody.seal_length nonce plain
  aesGcm_open_seal _ nonce plain := countingBody.open_seal nonce plain
  chacha20Poly1305_length _ nonce plain := countingBody.seal_length nonce plain
  chacha20Poly1305_open_seal _ nonce plain := countingBody.open_seal nonce plain

def countingDirection : VmessBody := countingCrypto.body .aes128Gcm [] (replicate 16 0)

def threeBytesWritten : Except IoError Unit × VmessAeadStream :=
  writeBuffers (write countingDirection) [[65, 66], [67]] (new ⟨[], .eof, [], [], []⟩)

theorem vmess_three_bytes_round_trip :
    ReadsOut [65, 66, 67] (callReads (read countingDirection) [1, 5, 2, 2]
      (new ⟨arriving threeBytesWritten.2.inner.taken, .eof, [], [], []⟩)) := by
  have hok : threeBytesWritten.1 = .ok () := by decide +kernel
  obtain ⟨writer, hwriter⟩ : ∃ writer, threeBytesWritten = (.ok (), writer) :=
    ⟨threeBytesWritten.2, by rw [← hok]⟩
  have hrun := hwriter
  unfold threeBytesWritten countingDirection at hrun
  obtain ⟨sent, htaken, hrds⟩ := vmess_stream_round_trip countingCrypto .aes128Gcm [] _ hrun
  rw [hwriter, htaken]
  refine hrds ⟨arriving sent, .eof, [], [], []⟩ ⟨?_, rfl, rfl⟩ [1, 5, 2, 2] (by decide)
  exact map_map

end VmessAeadStream

structure CountsNonces {κ : Type} (C : ShadowsocksCipher κ) (count : κ → ℕ) : Prop where
  new : ∀ salt, count (C.new salt) = 0
  encrypt : ∀ cipher plain, count (C.encryptPacket cipher plain).2 = count cipher + 1

namespace ShadowsocksTcpStream

variable {κ : Type} {C : ShadowsocksCipher κ}

def new (C : ShadowsocksCipher κ) (salt : Bytes) (inner : InnerStream) : ShadowsocksTcpStream κ :=
  ⟨[], 0, ⟨C.new salt, none⟩, inner⟩

theorem count_after {count : κ → ℕ} (h : CountsNonces C count) (cipher : κ) (chunks : List Chunk) :
    count ((codec C).after cipher chunks) = count cipher + 2 * chunks.length := by
  induction chunks generalizing cipher with
  | nil => rfl
  | cons chunk chunks ih =>
    rw [Codec.after, ih, length_cons]
    change count (C.encryptPacket (C.encryptPacket cipher _).2 _).2 + _ = _
    rw [h.encrypt, h.encrypt]
    omega

def afterChunks (C : ShadowsocksCipher κ) : ℕ → ShadowsocksTcpStream κ → ShadowsocksTcpStream κ
  | 0, stream => stream
  | count + 1, stream => afterChunks C count (readNextChunk C stream).2

variable {stream : ShadowsocksTcpStream κ}

theorem readNextChunk_cipher {cipher : κ} {chunk : Chunk} {chunks : List Chunk}
    (hcipher : stream.own.decryptCipher = some cipher)
    (hcar : Carries stream.inner.arrivals ((codec C).encodeAll cipher (chunk :: chunks))) :
    (readNextChunk C stream).2.own.decryptCipher = some ((codec C).next cipher chunk) ∧
      Carries (readNextChunk C stream).2.inner.arrivals
        ((codec C).encodeAll ((codec C).next cipher chunk) chunks) := by
  obtain ⟨seg, rest, harr, hseg, hrest⟩ := Carries.split hcar
  have hrun : readNextChunk C stream = readChunk C cipher stream := by
    rw [readNextChunk, Program.bind, openCipher, hcipher]
  rw [hrun, readChunk_frame hseg harr]
  exact ⟨rfl, hrest⟩

theorem afterChunks_cipher {cipher : κ} {done left : List Chunk}
    (hcipher : stream.own.decryptCipher = some cipher)
    (hcar : Carries stream.inner.arrivals ((codec C).encodeAll cipher (done ++ left))) :
    (afterChunks C done.length stream).own.decryptCipher = some ((codec C).after cipher done) := by
  induction done generalizing cipher stream with
  | nil => exact hcipher
  | cons chunk done ih =>
    obtain ⟨hnext, hrest⟩ := readNextChunk_cipher hcipher hcar
    exact ih hnext hrest

theorem afterChunks_salt {salt : Bytes} (hsalt : salt.length = C.saltLen) {done left : List Chunk}
    (hne : done ≠ []) (hcipher : stream.own.decryptCipher = none)
    (hcar : Carries stream.inner.arrivals
      (salt ++ (codec C).encodeAll (C.new salt) (done ++ left))) :
    (afterChunks C done.length stream).own.decryptCipher =
      some ((codec C).after (C.new salt) done) := by
  obtain ⟨seg, rest, harr, hseg, hrest⟩ := Carries.split hcar
  obtain ⟨chunk, done, rfl⟩ := exists_cons_of_ne_nil hne
  have hread := readExactOrCleanEof_carries hseg harr
  rw [hsalt] at hread
  -- once the salt is read, the call goes on as it would have with the cipher at hand
  have hopn : readNextChunk C stream =
      readNextChunk C (setDecryptCipher (C.new salt) (stream.readTo rest)) := by
    rw [readNextChunk, Program.bind, openCipher, hcipher]
    simp only [Framed.onInner_run hread]
    rfl
  rw [length_cons, afterChunks, hopn]
  have hset : (setDecryptCipher (C.new salt) (stream.readTo rest)).own.decryptCipher =
      some (C.new salt) := rfl
  obtain ⟨hnext, hlater⟩ := readNextChunk_cipher hset hrest
  exact afterChunks_cipher hnext hlater

theorem chunks_le_iff {limit size : ℕ} (hlim : limit < size) (buf : Bytes) :
    (∀ chunk ∈ chunks size buf, chunk.length ≤ limit) ↔ buf.length ≤ limit := by
  obtain ⟨hflat, hchs⟩ := chunks_spec (Nat.zero_lt_of_lt hlim) buf
  constructor
  · intro h
    cases buf with
    | nil => exact Nat.zero_le _
    | cons byte bytes =>
      have hfirst : (byte :: bytes).take size ∈ chunks size (byte :: bytes) := by
        rw [chunks, length_cons, chunksLoop, if_neg (cons_ne_nil _ _)]
        exact mem_cons_self
      have hle := h _ hfirst
      rw [length_take] at hle
      omega
  · intro h chunk hmem
    have hsublist := sublist_flatten_of_mem hmem
    rw [hflat] at hsublist
    exact hsublist.length_le.trans h

/-- What the first stream writes behind its salt the second reads, and their ciphers stay in
step. -/
theorem shadowsocks_stream_round_trip {count : κ → ℕ} (hcnt : CountsNonces C count) {salt : Bytes}
    (hsalt : salt.length = C.saltLen) {buffers : List Bytes} {inner : InnerStream}
    {writer : ShadowsocksTcpStream κ}
    (hrun : writeBuffers (write C) buffers (new C salt inner) = (.ok (), writer)) :
    ∃ chunks : List Chunk,
      writer.inner.taken = inner.taken ++ (codec C).encodeAll (C.new salt) chunks ∧
      writer.own.encryptCipher = (codec C).after (C.new salt) chunks ∧
      (∀ below own, own.decryptCipher = none →
        Fed (salt ++ (codec C).encodeAll (C.new salt) chunks) below →
        (∀ lens : List ℕ, (∀ len ∈ lens, 0 < len) →
          ReadsOut buffers.flatten (callReads (read C) lens ⟨[], 0, own, below⟩)) ∧
        ∀ done left, chunks = done ++ left → done ≠ [] →
          (afterChunks C done.length ⟨[], 0, own, below⟩).own.decryptCipher =
              some ((codec C).after (C.new salt) done) ∧
            count ((codec C).after (C.new salt) done) = 2 * done.length) ∧
      ((∀ chunk ∈ chunks, chunk.1.length ≤ 0x3FFF) ↔ ∀ buffer ∈ buffers, buffer.length ≤ 0x3FFF) := by
  have hsize : 0 < 65535 := by decide
  obtain ⟨chunks, hmean, htaken, hst⟩ := writeChunk_sends.writeBuffers hsize hrun
  refine ⟨chunks, htaken, hst, fun below own hnone hfed => ⟨fun lens hlens => ?_, ?_⟩, ?_⟩
  · obtain ⟨segment, rest, harr, hseg, hrest⟩ := Carries.split hfed.1
    have hheld : Held C ⟨[], 0, own, below⟩ chunks .eof := by
      rw [Held, hnone, Arrives, harr]
      exact ⟨hfed.2.1, salt, hsalt, .salt hseg (Codec.delivers_of_carries _ hrest)⟩
    have hrel : RelatedPlain (Held C) ⟨[], 0, own, below⟩ ⟨[], chunks, .eof⟩ := ⟨rfl, hheld⟩
    exact read_follows.readsOut hlens hrel hfed.failuresLeft_eq_zero
      ((carry_chunks hsize hmean).holds rfl)
  · intro done left hsplit hne
    refine ⟨afterChunks_salt hsalt hne hnone (hsplit ▸ hfed.1), ?_⟩
    rw [count_after hcnt, hcnt.new, Nat.zero_add]
  · have hpays : chunks.map Subtype.val = buffers.flatMap (Framing.chunks 65535) :=
      map_injective_iff.mpr (fun _ _ h => Meaning.data.inj h) (by
        rw [map_map]
        exact hmean)
    have hall : (∀ chunk ∈ chunks, chunk.1.length ≤ 0x3FFF) ↔
        ∀ payload ∈ buffers.flatMap (Framing.chunks 65535), payload.length ≤ 0x3FFF := by
      rw [← hpays, forall_mem_map]
    rw [hall, forall_mem_flatMap]
    exact forall₂_congr fun buffer _ => chunks_le_iff (by decide) buffer

def numberCipher : ShadowsocksCipher ℕ where
  saltLen := 1
  tagLen := 1
  new _ := 0
  encryptPacket nonce plain := (plain ++ [UInt8.ofNat nonce], nonce + 1)
  decryptPacket nonce bytes :=
    (if bytes.getLast? = some (UInt8.ofNat nonce) then some bytes.dropLast else none, nonce + 1)
  saltLen_pos := Nat.one_pos
  encrypt_length _ plain := length_append
  decrypt_encrypt nonce plain := by
    rw [getLast?_concat, if_pos rfl, dropLast_concat]

theorem numberCipher_counts : CountsNonces numberCipher id := ⟨fun _ => rfl, fun _ _ => rfl⟩

def threeBytesInChunks : Except IoError Unit × ShadowsocksTcpStream ℕ :=
  writeBuffers (write numberCipher) [[65, 66], [67]] (new numberCipher [7] ⟨[], .eof, [], [], []⟩)

theorem shadowsocks_three_bytes_round_trip :
    ReadsOut [65, 66, 67] (callReads (read numberCipher) [1, 5, 2, 2]
      (arrivingStream ⟨0, none⟩ (arriving ([7] ++ threeBytesInChunks.2.inner.taken)))) := by
  have hok : threeBytesInChunks.1 = .ok () := by decide +kernel
  obtain ⟨writer, hwriter⟩ : ∃ writer, threeBytesInChunks = (.ok (), writer) :=
    ⟨threeBytesInChunks.2, by rw [← hok]⟩
  have hrun := hwriter
  unfold threeBytesInChunks at hrun
  obtain ⟨chunks, htaken, -, hpeer, -⟩ :=
    shadowsocks_stream_round_trip numberCipher_counts (rfl : [(7 : UInt8)].length = 1) hrun
  rw [nil_append] at htaken
  rw [hwriter, htaken]
  refine (hpeer ⟨arriving _, .eof, [], [], []⟩ ⟨0, none⟩ rfl ⟨?_, rfl, rfl⟩).1 [1, 5, 2, 2]
    (by decide)
  exact map_map

def relayBuffer : Bytes := replicate (16 * 1024) 0

/-- A whole buffer of the relay is written as one chunk, whose length is over the limit. -/
theorem relay_buffer_over_limit :
    ∃ writer, write plainCipher relayBuffer (new plainCipher [7] ⟨[], .eof, [], [], []⟩) =
        (.ok (16 * 1024), writer) ∧
      chunkLength writer.inner.taken = 0x4000 ∧ ¬0x4000 ≤ 0x3FFF := by
  have hlen : relayBuffer.length = 16 * 1024 := length_replicate
  have hchs : chunks 65535 relayBuffer = [relayBuffer] := by
    have htake : relayBuffer.take 65535 = relayBuffer :=
      take_of_length_le (by rw [hlen]; decide)
    have hdrop : relayBuffer.drop 65535 = [] :=
      drop_of_length_le (by rw [hlen]; decide)
    have hne : relayBuffer ≠ [] := by
      intro hnil
      rw [hnil] at hlen
      cases hlen
    rw [chunks, hlen, show 16 * 1024 = 16383 + 1 from rfl, chunksLoop, if_neg hne, htake, hdrop]
    rfl
  have hchunk : writeChunk plainCipher relayBuffer (new plainCipher [7] ⟨[], .eof, [], [], []⟩) =
      (.ok (), new plainCipher [7] ⟨[], .eof, [], [], be16 (UInt16.ofNat (16 * 1024)) ++ relayBuffer⟩) := by
    unfold writeChunk
    dsimp only
    rw [Framed.onInner_run (writeAll_takes rfl)]
    dsimp only
    rw [Framed.onInner_run (writeAll_takes rfl), hlen]
    rfl
  refine ⟨new plainCipher [7]
    ⟨[], .eof, [], [], be16 (UInt16.ofNat (16 * 1024)) ++ relayBuffer⟩, ?_, rfl, by decide⟩
  rw [write, hchs, writeEach, writeEach, Program.bind, Program.bind, hchunk]
  simp only [Program.pure, hlen]

end ShadowsocksTcpStream

end KeliNative.Framing
