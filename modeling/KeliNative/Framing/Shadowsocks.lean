import KeliNative.Framing.Sending

/-!
# Shadowsocks streams (`ShadowsocksTcpStream`, `keli-net-core/src/direct.rs`)

An encrypted length followed by an encrypted payload; each moves the cipher's nonce.
-/

namespace KeliNative.Framing
open BigEndian

/-- `Cipher` of the `shadowsocks-crypto` crate: decryption inverts encryption and moves the cipher
alike. -/
structure ShadowsocksCipher (κ : Type) where
  saltLen : ℕ
  tagLen : ℕ
  new : Bytes → κ
  encryptPacket : κ → Bytes → Bytes × κ
  decryptPacket : κ → Bytes → Option Bytes × κ
  saltLen_pos : 0 < saltLen
  encrypt_length : ∀ cipher plain, (encryptPacket cipher plain).1.length = plain.length + tagLen
  decrypt_encrypt : ∀ cipher plain, decryptPacket cipher (encryptPacket cipher plain).1 =
    (some plain, (encryptPacket cipher plain).2)

structure ShadowsocksCiphers (κ : Type) where
  encryptCipher : κ
  decryptCipher : Option κ
  deriving DecidableEq

abbrev ShadowsocksTcpStream (κ : Type) := Framed (ShadowsocksCiphers κ)

def chunkLength (plain : Bytes) : ℕ := (ofBe16 (plain.getD 0 0) (plain.getD 1 0)).toNat

theorem chunkLength_be16 {len : ℕ} (h : len < 65536) :
    chunkLength (be16 (UInt16.ofNat len)) = len :=
  be16_read h

namespace ShadowsocksTcpStream

variable {κ : Type} (C : ShadowsocksCipher κ)

def setDecryptCipher (cipher : κ) (stream : ShadowsocksTcpStream κ) : ShadowsocksTcpStream κ :=
  { stream with own := { stream.own with decryptCipher := some cipher } }

def openCipher : Io (ShadowsocksTcpStream κ) (Option κ) := fun stream =>
  match stream.own.decryptCipher with
  | some cipher => (.ok (some cipher), stream)
  | none =>
    match Framed.onInner (readExactOrCleanEof C.saltLen) stream with
    | (.error error, stream) => (.error error, stream)
    | (.ok none, stream) => (.ok none, stream)
    | (.ok (some salt), stream) => (.ok (some (C.new salt)), setDecryptCipher (C.new salt) stream)

def readPayload (cipher : κ) (payloadLen : ℕ) : Io (ShadowsocksTcpStream κ) Bool := fun stream =>
  match Framed.onInner (readExactOrCleanEof (payloadLen + C.tagLen)) stream with
  | (.error error, stream) => (.error error, stream)
  | (.ok none, stream) => (.error ⟨.unexpectedEof, "missing shadowsocks chunk payload"⟩, stream)
  | (.ok (some encryptedPayload), stream) =>
    match C.decryptPacket cipher encryptedPayload with
    | (none, cipher) => (.error ⟨.invalidData, "invalid shadowsocks chunk payload tag"⟩,
        setDecryptCipher cipher stream)
    | (some payload, cipher) => (.ok true, { setDecryptCipher cipher stream with
        readBuffer := payload.take payloadLen, readOffset := 0 })

def readChunk (cipher : κ) : Io (ShadowsocksTcpStream κ) Bool := fun stream =>
  match Framed.onInner (readExactOrCleanEof (2 + C.tagLen)) stream with
  | (.error error, stream) => (.error error, stream)
  | (.ok none, stream) => (.ok false, stream)
  | (.ok (some encryptedLen), stream) =>
    match C.decryptPacket cipher encryptedLen with
    | (none, cipher) => (.error ⟨.invalidData, "invalid shadowsocks chunk length tag"⟩,
        setDecryptCipher cipher stream)
    | (some plain, cipher) =>
      readPayload C cipher (chunkLength plain) (setDecryptCipher cipher stream)

def readNextChunk : Io (ShadowsocksTcpStream κ) Bool :=
  Program.bind (openCipher C) fun
    | none => Program.pure false
    | some cipher => readChunk C cipher

def read : ℕ → Io (ShadowsocksTcpStream κ) Bytes := Framed.read false true (readNextChunk C)

def setEncryptCipher (cipher : κ) (stream : ShadowsocksTcpStream κ) : ShadowsocksTcpStream κ :=
  { stream with own := { stream.own with encryptCipher := cipher } }

/- The cipher has moved over a packet before the packet is written. -/
def writeChunk (payload : Bytes) : Io (ShadowsocksTcpStream κ) Unit := fun stream =>
  let (encryptedLen, cipher) := C.encryptPacket stream.own.encryptCipher
    (be16 (UInt16.ofNat payload.length))
  match Framed.onInner (writeAll encryptedLen) (setEncryptCipher cipher stream) with
  | (.error error, stream) => (.error error, stream)
  | (.ok _, stream) =>
    let (encryptedPayload, cipher) := C.encryptPacket cipher payload
    Framed.onInner (writeAll encryptedPayload) (setEncryptCipher cipher stream)

def write (buffer : Bytes) : Io (ShadowsocksTcpStream κ) ℕ :=
  Program.bind (writeEach (writeChunk C) (chunks 65535 buffer)) fun _ => Program.pure buffer.length

abbrev Chunk := { payload : Bytes // payload.length < 65536 }

def afterLength (cipher : κ) (chunk : Chunk) : κ :=
  (C.encryptPacket cipher (be16 (UInt16.ofNat chunk.1.length))).2

def codec : Codec κ Chunk where
  encode cipher chunk := (C.encryptPacket cipher (be16 (UInt16.ofNat chunk.1.length))).1 ++
    (C.encryptPacket (afterLength C cipher chunk) chunk.1).1
  next cipher chunk := (C.encryptPacket (afterLength C cipher chunk) chunk.1).2

/-- A chunk without payload reads as an end of the stream, but closes nothing. -/
def layer : Layer Chunk where
  meaning chunk := .data chunk.1
  atEnd ending := ending.outcome.map fun _ => ()
  readsIntoEmpty := false

/-- The salt and then the chunks arrive, with `WouldBlock` only before the salt or a chunk. -/
inductive DeliversSalt (salt : Bytes) (chunks : List Chunk) : List Arrival → Prop
  | pause {arrivals : List Arrival} {error : IoError} (hkind : error.kind = .wouldBlock)
    (h : DeliversSalt salt chunks arrivals) : DeliversSalt salt chunks (.failed error :: arrivals)
  | salt {segment rest : List Arrival} (hseg : Carries segment salt)
    (h : (codec C).Delivers (C.new salt) chunks rest) : DeliversSalt salt chunks (segment ++ rest)

def Arrives (chunks : List Chunk) (arrivals : List Arrival) : Option κ → Prop
  | some cipher => (codec C).Delivers cipher chunks arrivals
  | none => ∃ salt : Bytes, salt.length = C.saltLen ∧ DeliversSalt C salt chunks arrivals

def Held (stream : ShadowsocksTcpStream κ) (chunks : List Chunk) (ending : Ending) : Prop :=
  stream.inner.ending = ending ∧ Arrives C chunks stream.inner.arrivals stream.own.decryptCipher

variable {C}

theorem fetch_nil (ending : Ending) :
    layer.fetch [] ending = (ending.outcome.map fun _ => none, [], ending) := by
  cases ending <;> rfl

variable {stream : ShadowsocksTcpStream κ}

theorem readPayload_frame {cipher : κ} {data : Bytes} {seg rest : List Arrival}
    (hseg : Carries seg (C.encryptPacket cipher data).1)
    (harr : stream.inner.arrivals = seg ++ rest) :
    readPayload C cipher data.length stream =
      (.ok true, { setDecryptCipher (C.encryptPacket cipher data).2 stream with
        readBuffer := data, readOffset := 0,
        inner := { stream.inner with arrivals := rest } }) := by
  have hread := readExactOrCleanEof_carries hseg harr
  rw [C.encrypt_length] at hread
  rw [readPayload, Framed.onInner_run hread]
  simp only [C.decrypt_encrypt, List.take_length]
  rfl

theorem readChunk_frame {cipher : κ} {chunk : Chunk} {seg rest : List Arrival}
    (hseg : Carries seg ((codec C).encode cipher chunk))
    (harr : stream.inner.arrivals = seg ++ rest) :
    readChunk C cipher stream = (.ok true, { setDecryptCipher ((codec C).next cipher chunk) stream with
      readBuffer := chunk.1, readOffset := 0,
      inner := { stream.inner with arrivals := rest } }) := by
  obtain ⟨first, second, rfl, hfirst, hsecond⟩ := Carries.split hseg
  rw [List.append_assoc] at harr
  have hlength := readExactOrCleanEof_carries hfirst harr
  rw [C.encrypt_length, be16_length] at hlength
  rw [readChunk, Framed.onInner_run hlength]
  simp only [C.decrypt_encrypt]
  rw [chunkLength_be16 chunk.2]
  exact readPayload_frame hsecond rfl

theorem readChunk_step {cipher : κ} {chunks : List Chunk}
    (hcipher : stream.own.decryptCipher = some cipher) (hrem : stream.remaining = [])
    (harrives : (codec C).Delivers cipher chunks stream.inner.arrivals) :
    NextStep layer (Held C) stream chunks stream.inner.ending (readChunk C cipher stream) := by
  generalize harr : stream.inner.arrivals = arrivals at harrives
  have hlen : 0 < 2 + C.tagLen := by omega
  cases harrives with
  | done =>
    have hread := readExactOrCleanEof_ended hlen harr
    have hheld : Held C stream [] stream.inner.ending := by
      rw [Held, harr, hcipher]
      exact ⟨rfl, .done cipher⟩
    rw [readChunk, Framed.onInner_run hread]
    cases hend : stream.inner.ending with
    | eof => exact .ended (fetch_nil _) le_rfl hrem (hend ▸ hheld)
    | failed error stays => exact .failed stays.2 (fetch_nil _) le_rfl hrem (hend ▸ hheld)
  | @pause _ _ rest error hkind h =>
    have hread := readExactOrCleanEof_failed hlen (ne_interrupted_of_wouldBlock hkind) harr
    rw [readChunk, Framed.onInner_run hread]
    have hheld : Held C (stream.readTo rest) chunks
        stream.inner.ending := by
      rw [Held, Framed.readTo_own, hcipher]
      exact ⟨rfl, h⟩
    exact .wouldBlock hkind (failuresLeft_pause harr) hrem hheld rfl
  | @frame _ chunk chunks seg rest hseg h =>
    rw [readChunk_frame hseg harr]
    exact .payload rfl (failuresLeft_append harr) rfl ⟨rfl, h⟩

theorem readNextChunk_step {chunks : List Chunk} {ending : Ending}
    (hrem : stream.remaining = []) (hheld : Held C stream chunks ending) :
    NextStep layer (Held C) stream chunks ending (readNextChunk C stream) := by
  obtain ⟨rfl, harrives⟩ := hheld
  rw [readNextChunk, Program.bind, openCipher]
  cases hcipher : stream.own.decryptCipher with
  | some cipher =>
    rw [hcipher] at harrives
    exact readChunk_step hcipher hrem harrives
  | none =>
    rw [hcipher] at harrives
    obtain ⟨salt, hsalt, harrives⟩ := harrives
    generalize harr : stream.inner.arrivals = arrivals at harrives
    cases harrives with
    | @pause rest error hkind h =>
      have hread := readExactOrCleanEof_failed C.saltLen_pos (ne_interrupted_of_wouldBlock hkind)
        harr
      simp only [Framed.onInner_run hread]
      have hheld : Held C (stream.readTo rest) chunks
          stream.inner.ending := by
        rw [Held, Framed.readTo_own, hcipher]
        exact ⟨rfl, salt, hsalt, h⟩
      exact .wouldBlock hkind (failuresLeft_pause harr) hrem hheld rfl
    | @salt seg rest hseg h =>
      have hread := readExactOrCleanEof_carries hseg harr
      rw [hsalt] at hread
      simp only [Framed.onInner_run hread]
      have hopn : NextStep layer (Held C)
          (setDecryptCipher (C.new salt) (stream.readTo rest))
          chunks stream.inner.ending _ := readChunk_step rfl hrem h
      exact hopn.behind rfl (failuresLeft_append harr)

theorem read_follows : FollowsPlain layer (RelatedPlain (Held C)) failuresLeft (read C) :=
  Framed.read_follows (fun _ _ _ _ _ h => h) fun _ _ _ hrem hheld =>
    readNextChunk_step hrem hheld

def writeState (stream : ShadowsocksTcpStream κ) : κ := stream.own.encryptCipher

theorem writeChunk_sends : SendsFrame (codec C) layer writeState 65535 (writeChunk C) := by
  intro data stream s' _ hsize h
  unfold writeChunk at h
  dsimp only at h
  split at h
  · cases h
  next middle hlength =>
    obtain ⟨inner, rfl, hfirst⟩ := onInner_writeAll_ok hlength
    obtain ⟨inner', rfl, hsecond⟩ := onInner_writeAll_ok h
    obtain ⟨writes, hinner⟩ := hfirst.trans hsecond
    refine ⟨⟨data, Nat.lt_succ_of_le hsize⟩, rfl, ?_, rfl⟩
    change inner'.taken = _
    rw [hinner]
    exact congrArg (stream.inner.taken ++ ·) (List.append_nil _).symm

theorem write_sends (limit : ℕ) : SendsBuffer (codec C) layer writeState limit (write C) :=
  writeChunk_sends.sendsBuffer (by decide) limit

theorem write_answers (buf : Bytes) : Answers Framed.inner (write C buf) := by
  refine (Answers.writeEach (fun chunk stream => ?_) _).bind fun _ => answers_pure _
  unfold writeChunk
  dsimp only
  split
  next hrun =>
    have hans := answered_writeAll hrun
    exact hans
  next hrun =>
    exact .after (answered_writeAll hrun)
      (answers_onInner (answers_writeAll _) (setEncryptCipher _ _))

end ShadowsocksTcpStream

end KeliNative.Framing
