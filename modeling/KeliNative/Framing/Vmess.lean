import KeliNative.Framing.Sending

/-!
# VMess body streams (`VmessAeadStream`, `keli-net-core/src/direct.rs`)

A masked length, followed by a payload sealed under the direction's counter.
-/

namespace KeliNative.Framing
open BigEndian

/-- One direction of a body: the mask words, and the AEAD of its key. A seal cannot fail; opening
inverts it. -/
structure VmessBody where
  iv : Bytes
  mask : ℕ → UInt16
  bodySeal : Bytes → Bytes → Bytes
  bodyOpen : Bytes → Bytes → Except IoError Bytes
  seal_length : ∀ nonce plain, (bodySeal nonce plain).length = plain.length + 16
  open_seal : ∀ nonce plain, bodyOpen nonce (bodySeal nonce plain) = .ok plain

def VmessBody.nonce (body : VmessBody) (counter : UInt16) : Bytes :=
  be16 counter ++ (body.iv.take 12).drop 2

/-- The counters of both directions, and how many mask words each has used. -/
structure VmessCounters where
  readCounter : UInt16
  readMask : ℕ
  writeCounter : UInt16
  writeMask : ℕ
  deriving DecidableEq

abbrev VmessAeadStream := Framed VmessCounters

namespace VmessAeadStream

variable (R W : VmessBody)

def unmaskLength (lengthBytes : Bytes) (stream : VmessAeadStream) : ℕ × VmessAeadStream :=
  let masked := ofBe16 (lengthBytes.getD 0 0) (lengthBytes.getD 1 0)
  ((masked ^^^ R.mask stream.own.readMask).toNat,
    { stream with own := { stream.own with readMask := stream.own.readMask + 1 } })

def readBody (encryptedLen : ℕ) : Io VmessAeadStream Bool := fun stream =>
  match Framed.onInner (readExact encryptedLen) stream with
  | (.error error, stream) => (.error error, stream)
  | (.ok encryptedPayload, stream) =>
    let nonce := R.nonce stream.own.readCounter
    let stream := { stream with
      own := { stream.own with readCounter := stream.own.readCounter + 1 } }
    match R.bodyOpen nonce encryptedPayload with
    | .error error => (.error error, stream)
    | .ok plain => (.ok !plain.isEmpty, { stream with readBuffer := plain, readOffset := 0 })

def readNextChunk : Io VmessAeadStream Bool := fun stream =>
  match Framed.onInner (readExactOrCleanEof 2) stream with
  | (.error error, stream) => (.error error, stream)
  | (.ok none, stream) => (.ok false, stream)
  | (.ok (some lengthBytes), stream) =>
    let (encryptedLen, stream) := unmaskLength R lengthBytes stream
    readBody R encryptedLen stream

def read : ℕ → Io VmessAeadStream Bytes := Framed.read false false (readNextChunk R)

def writeChunkSize : ℕ := 15000

/- The counter and the mask have moved before anything of the chunk is written. -/
def writeChunk (chunk : Bytes) : Io VmessAeadStream Unit := fun stream =>
  let encryptedPayload := W.bodySeal (W.nonce stream.own.writeCounter) chunk
  let stream := { stream with
    own := { stream.own with writeCounter := stream.own.writeCounter + 1 } }
  if 65536 ≤ encryptedPayload.length then
    (.error ⟨.invalidInput, "vmess chunk is too large"⟩, stream)
  else
    let maskedLen := UInt16.ofNat encryptedPayload.length ^^^ W.mask stream.own.writeMask
    let stream := { stream with own := { stream.own with writeMask := stream.own.writeMask + 1 } }
    match Framed.onInner (writeAll (be16 maskedLen)) stream with
    | (.error error, stream) => (.error error, stream)
    | (.ok _, stream) => Framed.onInner (writeAll encryptedPayload) stream

def write (buffer : Bytes) : Io VmessAeadStream ℕ :=
  if buffer = [] then Program.pure 0
  else Program.bind (writeEach (writeChunk W) (chunks writeChunkSize buffer)) fun _ =>
    Program.pure buffer.length

abbrev Chunk := { payload : Bytes // payload.length + 16 < 65536 }

/-- The format of the chunks, at a counter and a position of the mask stream. -/
def codec (body : VmessBody) : Codec (UInt16 × ℕ) Chunk where
  encode state chunk :=
    be16 (UInt16.ofNat (chunk.1.length + 16) ^^^ body.mask state.2) ++
      body.bodySeal (body.nonce state.1) chunk.1
  next state _ := (state.1 + 1, state.2 + 1)

def layer : Layer Chunk where
  meaning chunk := if chunk.1 = [] then .ends false else .data chunk.1
  atEnd ending := ending.outcome.map fun _ => ()
  readsIntoEmpty := false

def Held (stream : VmessAeadStream) (chunks : List Chunk) (ending : Ending) : Prop :=
  stream.inner.ending = ending ∧
    (codec R).Delivers (stream.own.readCounter, stream.own.readMask) chunks stream.inner.arrivals

variable {R}

theorem unmask_mask (len mask : UInt16) :
    ofBe16 ((be16 (len ^^^ mask)).getD 0 0) ((be16 (len ^^^ mask)).getD 1 0) ^^^ mask = len := by
  change ofBe16 (UInt8.ofNat ((len ^^^ mask).toNat / 256)) (UInt8.ofNat (len ^^^ mask).toNat) ^^^
    mask = len
  rw [ofBe16_digits, UInt16.xor_assoc, UInt16.xor_self, UInt16.xor_zero]

def opened (plain : Bytes) (rest : List Arrival) (stream : VmessAeadStream) : VmessAeadStream where
  readBuffer := plain
  readOffset := 0
  own := { stream.own with
    readCounter := stream.own.readCounter + 1, readMask := stream.own.readMask + 1 }
  inner := { stream.inner with arrivals := rest }

theorem readNextChunk_frame {chunk : Chunk} {seg rest : List Arrival} {s : VmessAeadStream}
    (hseg : Carries seg
      ((codec R).encode (s.own.readCounter, s.own.readMask) chunk))
    (harr : s.inner.arrivals = seg ++ rest) :
    readNextChunk R s = (.ok !chunk.1.isEmpty, opened chunk.1 rest s) := by
  obtain ⟨first, second, rfl, hfirst, hsecond⟩ := Carries.split hseg
  rw [List.append_assoc] at harr
  have hlen := readExactOrCleanEof_carries hfirst harr
  rw [be16_length] at hlen
  have hfits : (UInt16.ofNat (chunk.1.length + 16)).toNat =
      (R.bodySeal (R.nonce s.own.readCounter) chunk.1).length := by
    rw [R.seal_length, UInt16.toNat_ofNat']
    exact Nat.mod_eq_of_lt chunk.2
  rw [readNextChunk, Framed.onInner_run hlen]
  simp only [unmaskLength, unmask_mask, hfits]
  have hpay (s' : VmessAeadStream) (h : s'.inner.arrivals = second ++ rest) :=
    Framed.onInner_run (readExact_carries hsecond h)
  rw [readBody, hpay _ rfl]
  simp only [R.open_seal]
  rfl

theorem readNextChunk_step {s : VmessAeadStream} {chunks : List Chunk} {ending : Ending}
    (hrem : s.remaining = []) (hheld : Held R s chunks ending) :
    NextStep layer (Held R) s chunks ending (readNextChunk R s) := by
  obtain ⟨rfl, harrives⟩ := hheld
  generalize harr : s.inner.arrivals = arrivals at harrives
  cases harrives with
  | done =>
    have hheld : Held R s [] s.inner.ending := by
      rw [Held, harr]
      exact ⟨rfl, .done _⟩
    rw [readNextChunk, Framed.onInner_run (readExactOrCleanEof_ended Nat.zero_lt_two harr)]
    cases hend : s.inner.ending with
    | eof => exact .ended rfl le_rfl hrem (hend ▸ hheld)
    | failed error stays => exact .failed stays.2 rfl le_rfl hrem (hend ▸ hheld)
  | @pause _ _ rest error hkind h =>
    rw [readNextChunk, Framed.onInner_run (readExactOrCleanEof_failed Nat.zero_lt_two
      (ne_interrupted_of_wouldBlock hkind) harr)]
    have hheld : Held R (s.readTo rest) chunks
        s.inner.ending := ⟨rfl, h⟩
    exact .wouldBlock hkind (failuresLeft_pause harr) hrem hheld rfl
  | @frame _ chunk chunks seg rest hseg h =>
    have hheld : Held R (opened chunk.1 rest s) chunks s.inner.ending := ⟨rfl, h⟩
    rw [readNextChunk_frame hseg harr]
    by_cases hempty : chunk.1 = []
    · have hfetch : layer.fetch (chunk :: chunks) s.inner.ending =
          (.ok none, chunks, s.inner.ending) := by
        simp only [Layer.fetch, layer, hempty, ite_true]
      rw [hempty] at hheld ⊢
      exact .ended hfetch (failuresLeft_append harr) rfl hheld
    · have hfetch : layer.fetch (chunk :: chunks) s.inner.ending =
          (.ok (some chunk.1), chunks, s.inner.ending) := by
        simp only [Layer.fetch, layer, hempty, ite_false]
      have hfull : (!chunk.1.isEmpty) = true := by simpa using hempty
      rw [hfull]
      exact .payload hfetch (failuresLeft_append harr) rfl hheld

theorem read_follows : FollowsPlain layer (RelatedPlain (Held R)) failuresLeft (read R) :=
  Framed.read_follows (fun _ _ _ _ _ h => h) fun _ _ _ hrem hheld =>
    readNextChunk_step hrem hheld

variable {W : VmessBody}

def writeState (stream : VmessAeadStream) : UInt16 × ℕ :=
  (stream.own.writeCounter, stream.own.writeMask)

theorem writeChunk_sends : SendsFrame (codec W) layer writeState writeChunkSize (writeChunk W) := by
  intro data s s' hne hsize h
  have hfits : data.length + 16 < 65536 := by
    rw [writeChunkSize] at hsize
    omega
  unfold writeChunk at h
  dsimp only at h
  rw [W.seal_length, if_neg (Nat.not_le.mpr hfits)] at h
  split at h
  · cases h
  next middle hlen =>
    obtain ⟨inner, rfl, hfirst⟩ := onInner_writeAll_ok hlen
    obtain ⟨inner', rfl, hsecond⟩ := onInner_writeAll_ok h
    obtain ⟨writes, hinner⟩ := hfirst.trans hsecond
    refine ⟨⟨data, hfits⟩, if_neg hne, ?_, rfl⟩
    change inner'.taken = _
    rw [hinner]
    exact congrArg (s.inner.taken ++ ·) (List.append_nil _).symm

theorem write_sends (limit : ℕ) : SendsBuffer (codec W) layer writeState limit (write W) := by
  intro buf s count s' hne hlim h
  rw [write, if_neg hne] at h
  exact writeChunk_sends.sendsBuffer (by decide) limit buf s count s' hne hlim h

theorem write_answers (buf : Bytes) : Answers Framed.inner (write W buf) := by
  unfold write
  split
  · exact answers_pure 0
  refine (Answers.writeEach (fun chunk s => ?_) _).bind fun _ => answers_pure _
  unfold writeChunk
  dsimp only
  split
  · exact fun hpause => absurd hpause Bool.false_ne_true
  split
  next hrun =>
    have hans := answered_writeAll hrun
    exact hans
  next hrun => exact .after (answered_writeAll hrun) (answers_onInner (answers_writeAll _) _)

end VmessAeadStream

end KeliNative.Framing
