import KeliNative.Framing.Sending

/-!
# WebSocket client streams (`keli-net-core/src/websocket.rs`)

Both client streams read and write through the same functions.
-/

namespace KeliNative.Framing
open BigEndian List Layer

namespace WebSocket

def opcodeText : UInt8 := 1
def opcodeBinary : UInt8 := 2
def opcodeClose : UInt8 := 8
def opcodePing : UInt8 := 9
def opcodePong : UInt8 := 10

abbrev Mask := { mask : Bytes // mask.length = 4 }

def applyMask (mask payload : Bytes) : Bytes :=
  payload.mapIdx fun index byte => byte ^^^ mask.getD (index % 4) 0

theorem applyMask_applyMask (mask data : Bytes) :
    applyMask mask (applyMask mask data) = data := by
  have hcancel (byte key : UInt8) : byte ^^^ key ^^^ key = byte := by
    rw [UInt8.xor_assoc, UInt8.xor_self, UInt8.xor_zero]
  refine ext_getElem ?_ ?_
  · rw [applyMask, applyMask, length_mapIdx, length_mapIdx]
  · intro index h h'
    simp only [applyMask, getElem_mapIdx, hcancel]

theorem applyMask_length (mask data : Bytes) :
    (applyMask mask data).length = data.length := length_mapIdx

end WebSocket

structure WebSocketMasks where
  drawn : ℕ
  deriving DecidableEq

abbrev WebSocketStream := Framed WebSocketMasks

namespace WebSocketStream
open WebSocket

def payloadLenParts (len : ℕ) (masked : Bool) : List Bytes :=
  let maskBit : UInt8 := if masked then 0x80 else 0
  if len ≤ 125 then [[maskBit ||| UInt8.ofNat len]]
  else if len ≤ 65535 then [[maskBit ||| 126], be16 (UInt16.ofNat len)]
  else [[maskBit ||| 127], be64 (UInt64.ofNat len)]

def drawMask (masks : ℕ → Mask) : Io WebSocketStream Bytes := fun stream =>
  (.ok (masks stream.own.drawn).1, { stream with own := ⟨stream.own.drawn + 1⟩ })

def writeControlFrame (masks : ℕ → Mask) (opcode : UInt8) (payload : Bytes) :
    Io WebSocketStream Unit :=
  if 125 < payload.length then
    Program.fail ⟨.invalidData, "websocket control frame is too large"⟩
  else
    Program.bind (Framed.onInner (writeAll [0x80 ||| opcode])) fun _ =>
    Program.bind (Framed.onInner (writeEach writeAll (payloadLenParts payload.length true))) fun _ =>
    Program.bind (drawMask masks) fun mask =>
    Program.bind (Framed.onInner (writeAll mask)) fun _ =>
    Framed.onInner (writeEach writeAll ((applyMask mask payload).map fun byte => [byte]))

def readPayloadLen (firstLen : UInt8) : Io InnerStream ℕ := fun inner =>
  if firstLen.toNat ≤ 125 then (.ok firstLen.toNat, inner)
  else if firstLen = 126 then
    Program.bind (readExact 2) (fun bytes =>
      Program.pure (ofBe16 (bytes.getD 0 0) (bytes.getD 1 0)).toNat) inner
  else Program.bind (readExact 8) (fun bytes => Program.pure (ofBe64 bytes).toNat) inner

def readFrame : Io InnerStream (UInt8 × Bytes) :=
  Program.bind (readExact 2) fun header =>
  Program.bind (readPayloadLen (header.getD 1 0 &&& 0x7f)) fun len =>
  Program.bind (readExact (if header.getD 1 0 &&& 0x80 ≠ 0 then 4 else 0)) fun mask =>
  Program.bind (readExact len) fun payload =>
  Program.pure (header.getD 0 0,
    if header.getD 1 0 &&& 0x80 ≠ 0 then applyMask mask payload else payload)

def handleFrame (masks : ℕ → Mask) (next : Io WebSocketStream Bytes) (first : UInt8)
    (payload : Bytes) : Io WebSocketStream Bytes := fun stream =>
  let opcode := first &&& 0x0f
  if (opcode = opcodeText ∨ opcode = opcodeBinary) ∧ first &&& 0x80 ≠ 0 then (.ok payload, stream)
  else if opcode = opcodeClose then (.error ⟨.unexpectedEof, "websocket peer closed"⟩, stream)
  else if opcode = opcodePing then
    Program.bind (writeControlFrame masks opcodePong payload) (fun _ => next) stream
  else if opcode = opcodePong then next stream
  else (.error ⟨.invalidData, "unsupported websocket frame"⟩, stream)

/- Every turn reads a frame, so as many turns as there are arrivals are enough. -/
def readFramePayload (masks : ℕ → Mask) : ℕ → Io WebSocketStream Bytes
  | 0 => Program.pure []
  | turns + 1 => Program.bind (Framed.onInner readFrame) fun (first, payload) =>
    handleFrame masks (readFramePayload masks turns) first payload

/-- What `read` makes of one `read_frame_payload`; `next` is the loop again. -/
def extend (next : Io WebSocketStream Bool) :
    Except IoError Bytes × WebSocketStream → Except IoError Bool × WebSocketStream
  | (.ok payload, stream) =>
    if payload = [] then next { stream with readBuffer := [], readOffset := 0 }
    else (.ok true, { stream with readBuffer := payload, readOffset := 0 })
  | (.error error, stream) =>
    if error.kind = .unexpectedEof then (.ok false, stream) else (.error error, stream)

def fillBuffer (masks : ℕ → Mask) : ℕ → Io WebSocketStream Bool
  | 0 => Program.pure false
  | turns + 1 => fun stream =>
    extend (fillBuffer masks turns) (readFramePayload masks (stream.inner.arrivals.length + 1) stream)

def readNext (masks : ℕ → Mask) : Io WebSocketStream Bool := fun stream =>
  fillBuffer masks (stream.inner.arrivals.length + 1) stream

def read (masks : ℕ → Mask) : ℕ → Io WebSocketStream Bytes := Framed.read true true (readNext masks)

def writeMaskedBinaryFrame (masks : ℕ → Mask) (payload : Bytes) : Io WebSocketStream Unit :=
  Program.bind (drawMask masks) fun mask =>
  Program.bind (Framed.onInner (writeAll ([0x80 ||| opcodeBinary] ++
    (payloadLenParts payload.length true).flatten ++ mask ++ applyMask mask payload))) fun _ =>
  Framed.onInner InnerStream.flush

def write (masks : ℕ → Mask) (buffer : Bytes) : Io WebSocketStream ℕ :=
  Program.bind (writeMaskedBinaryFrame masks buffer) fun _ => Program.pure buffer.length

inductive LenForm where
  | short
  | medium
  | long
  deriving DecidableEq

def LenForm.bound : LenForm → ℕ
  | .short => 126
  | .medium => 65536
  | .long => 18446744073709551616

def LenForm.firstLen : LenForm → ℕ → UInt8
  | .short, len => UInt8.ofNat len
  | .medium, _ => 126
  | .long, _ => 127

def LenForm.extended : LenForm → ℕ → Bytes
  | .short, _ => []
  | .medium, len => be16 (UInt16.ofNat len)
  | .long, len => be64 (UInt64.ofNat len)

structure Frame where
  first : UInt8
  mask : Option Mask
  form : LenForm
  payload : Bytes
  fits : payload.length < form.bound

namespace Frame

def maskBit (frame : Frame) : UInt8 := if frame.mask.isSome then 0x80 else 0

def maskBytes (frame : Frame) : Bytes := frame.mask.elim [] (·.1)

def body (frame : Frame) : Bytes := frame.mask.elim frame.payload fun mask =>
  applyMask mask.1 frame.payload

end Frame

def codec : Codec Unit Frame where
  encode _ frame := [frame.first, frame.maskBit ||| frame.form.firstLen frame.payload.length] ++
    (frame.form.extended frame.payload.length ++ (frame.maskBytes ++ frame.body))
  next _ _ := ()

/-- An empty data frame is passed over; a ping that is too long to answer is an error. -/
def layer : Layer Frame where
  meaning frame :=
    let opcode := frame.first &&& 0x0f
    if (opcode = opcodeText ∨ opcode = opcodeBinary) ∧ frame.first &&& 0x80 ≠ 0 then
      if frame.payload = [] then .skip else .data frame.payload
    else if opcode = opcodeClose then .ends false
    else if opcode = opcodePing then
      if 125 < frame.payload.length then
        .failed ⟨.invalidData, "websocket control frame is too large"⟩
      else .skip
    else if opcode = opcodePong then .skip
    else .failed ⟨.invalidData, "unsupported websocket frame"⟩
  atEnd ending :=
    if ending.exactError.kind = .unexpectedEof then .ok () else .error ending.exactError
  readsIntoEmpty := true

def Held (stream : WebSocketStream) (frames : List Frame) (ending : Ending) : Prop :=
  stream.inner.Accepting ∧ stream.inner.ending = ending ∧
    codec.Delivers () frames stream.inner.arrivals

theorem length_bits (masked : Bool) (len : Fin 128) :
    (((if masked then (0x80 : UInt8) else 0) ||| UInt8.ofNat len) &&& 0x7f = UInt8.ofNat len) ∧
      (((if masked then (0x80 : UInt8) else 0) ||| UInt8.ofNat len) &&& 0x80 ≠ 0 ↔
        masked = true) := by
  revert masked len
  decide

variable (frame : Frame) {segment rest : List Arrival}

theorem firstLen_eq : ∃ len : Fin 128,
    frame.form.firstLen frame.payload.length = UInt8.ofNat len := by
  have hfits := frame.fits
  cases hform : frame.form with
  | short =>
    rw [hform] at hfits
    exact ⟨⟨frame.payload.length, hfits.trans (by decide)⟩, rfl⟩
  | medium => exact ⟨126, rfl⟩
  | long => exact ⟨127, rfl⟩

theorem second_byte :
    (frame.maskBit ||| frame.form.firstLen frame.payload.length) &&& 0x7f =
        frame.form.firstLen frame.payload.length ∧
      ((frame.maskBit ||| frame.form.firstLen frame.payload.length) &&& 0x80 ≠ 0 ↔
        frame.mask.isSome = true) := by
  obtain ⟨len, hlen⟩ := firstLen_eq frame
  rw [hlen]
  exact length_bits frame.mask.isSome len

theorem readPayloadLen_carries {form : LenForm} {len : ℕ} (hfits : len < form.bound)
    {inner : InnerStream} (h : Carries segment (form.extended len))
    (harr : inner.arrivals = segment ++ rest) :
    readPayloadLen (form.firstLen len) inner = (.ok len, { inner with arrivals := rest }) := by
  cases form with
  | short =>
    have hlen : (UInt8.ofNat len).toNat = len :=
      UInt8.toNat_ofNat'.trans (Nat.mod_eq_of_lt (hfits.trans (by decide)))
    have hbound : (UInt8.ofNat len).toNat ≤ 125 := by
      rw [hlen]
      exact Nat.le_of_lt_succ hfits
    rw [h.eq_nil, nil_append] at harr
    rw [LenForm.firstLen, readPayloadLen, if_pos hbound, hlen, ← harr]
  | medium =>
    have hread : readExact 2 inner =
        (.ok (be16 (UInt16.ofNat len)), { inner with arrivals := rest }) :=
      readExact_carries h harr
    have hlen : (ofBe16 ((be16 (UInt16.ofNat len)).getD 0 0)
        ((be16 (UInt16.ofNat len)).getD 1 0)).toNat = len := be16_read hfits
    rw [LenForm.firstLen, readPayloadLen, if_neg (by decide), if_pos rfl, Program.bind, hread]
    simp only [hlen]
    rfl
  | long =>
    have hread : readExact 8 inner =
        (.ok (be64 (UInt64.ofNat len)), { inner with arrivals := rest }) :=
      readExact_carries h harr
    have hlen : (ofBe64 (be64 (UInt64.ofNat len))).toNat = len := by
      rw [ofBe64_be64, UInt64.toNat_ofNat']
      exact Nat.mod_eq_of_lt hfits
    rw [LenForm.firstLen, readPayloadLen, if_neg (by decide), if_neg (by decide), Program.bind, hread]
    simp only [hlen]
    rfl

theorem maskBytes_length : frame.maskBytes.length = if frame.mask.isSome = true then 4 else 0 := by
  cases hmask : frame.mask with
  | none =>
    rw [Frame.maskBytes, hmask]
    rfl
  | some mask =>
    rw [Frame.maskBytes, hmask]
    exact mask.2

theorem body_length : frame.body.length = frame.payload.length := by
  cases hmask : frame.mask with
  | none =>
    rw [Frame.body, hmask]
    rfl
  | some mask =>
    rw [Frame.body, hmask]
    exact applyMask_length _ _

theorem unmask_body :
    (if frame.mask.isSome = true then applyMask frame.maskBytes frame.body else frame.body) =
      frame.payload := by
  cases hmask : frame.mask with
  | none =>
    rw [Frame.body, hmask]
    rfl
  | some mask =>
    rw [Frame.body, Frame.maskBytes, hmask]
    exact applyMask_applyMask _ _

theorem readFrame_frame {frame : Frame} {inner : InnerStream}
    (hseg : Carries segment (codec.encode () frame)) (harr : inner.arrivals = segment ++ rest) :
    readFrame inner = (.ok (frame.first, frame.payload), { inner with arrivals := rest }) := by
  obtain ⟨header, segment, rfl, hhead, hseg⟩ := Carries.split hseg
  obtain ⟨extended, segment, rfl, hextended, hseg⟩ := Carries.split hseg
  obtain ⟨mask, body, rfl, hmask, hbody⟩ := Carries.split hseg
  obtain ⟨hlenbits, hmaskbit⟩ := second_byte frame
  simp only [append_assoc] at harr
  have hread : readExact 2 inner = (.ok [frame.first, frame.maskBit |||
      frame.form.firstLen frame.payload.length], { inner with arrivals := _ }) :=
    readExact_carries hhead harr
  have hmask' (inner' : InnerStream) (h : inner'.arrivals = mask ++ (body ++ rest)) :=
    readExact_carries hmask h
  have hbody' (inner' : InnerStream) (h : inner'.arrivals = body ++ rest) :=
    readExact_carries hbody h
  rw [body_length] at hbody'
  rw [maskBytes_length] at hmask'
  rw [readFrame, Program.bind, hread]
  simp only [getD_cons_succ, getD_cons_zero, hlenbits, hmaskbit]
  rw [Program.bind, readPayloadLen_carries frame.fits hextended rfl]
  simp only
  rw [Program.bind, hmask' _ rfl]
  simp only
  rw [Program.bind, hbody' _ rfl]
  simp only [unmask_body]
  rfl

variable {masks : ℕ → Mask}

theorem onlyWrites_writeEach (parts : List Bytes) : OnlyWrites (writeEach writeAll parts) := by
  induction parts with
  | nil => exact onlyWrites_pure
  | cons part parts ih => exact onlyWrites_bind (onlyWrites_writeAll part) ih

theorem onlyWrites_drawMask {next : Bytes → Io WebSocketStream Unit}
    (h : ∀ mask, Framed.OnlyWrites (next mask)) :
    Framed.OnlyWrites (Program.bind (drawMask masks) next) := fun s hacc =>
  h _ { s with own := ⟨s.own.drawn + 1⟩ } hacc

theorem writeControlFrame_writes (masks : ℕ → Mask) (opcode : UInt8) {data : Bytes}
    (hshort : ¬125 < data.length) :
    Framed.OnlyWrites (writeControlFrame masks opcode data) := by
  rw [writeControlFrame, if_neg hshort]
  refine Framed.onlyWrites_bind (Framed.onlyWrites_onInner (onlyWrites_writeAll _)) ?_
  refine Framed.onlyWrites_bind (Framed.onlyWrites_onInner (onlyWrites_writeEach _)) ?_
  refine onlyWrites_drawMask fun mask => ?_
  refine Framed.onlyWrites_bind (Framed.onlyWrites_onInner (onlyWrites_writeAll _)) ?_
  exact Framed.onlyWrites_onInner (onlyWrites_writeEach _)

def Frame.IsAnswered (frame : Frame) : Prop :=
  frame.first &&& 0x0f = opcodePing ∧ frame.payload.length ≤ 125

instance (frame : Frame) : Decidable frame.IsAnswered :=
  inferInstanceAs (Decidable (_ ∧ _))

/-- A relation between what a stream has written and the frames to come that every frame keeps. -/
structure Tracks (masks : ℕ → Mask) (written : WebSocketStream → List Frame → Prop) : Prop where
  reads {stream : WebSocketStream} {frames : List Frame} (buffer : Bytes) (offset : ℕ)
    (rest : List Arrival) (h : written stream frames) :
    written { stream.readTo rest with readBuffer := buffer, readOffset := offset } frames
  passes {stream : WebSocketStream} {frame : Frame} {frames : List Frame}
    (hother : ¬frame.IsAnswered) (h : written stream (frame :: frames)) : written stream frames
  answers {stream : WebSocketStream} {frame : Frame} {frames : List Frame}
    (hping : frame.IsAnswered) (h : written stream (frame :: frames)) :
    written (writeControlFrame masks opcodePong frame.payload stream).2 frames

def HeldWith (written : WebSocketStream → List Frame → Prop) (stream : WebSocketStream)
    (frames : List Frame) (ending : Ending) : Prop :=
  Held stream frames ending ∧ written stream frames

variable {written : WebSocketStream → List Frame → Prop}

def Follows (written : WebSocketStream → List Frame → Prop) (frames : List Frame)
    (arrivals : List Arrival) (next : Io WebSocketStream Bool) : Prop :=
  ∀ stream : WebSocketStream, stream.inner.arrivals = arrivals → stream.remaining = [] →
    stream.inner.Accepting → written stream frames →
    NextStep layer (HeldWith written) stream frames stream.inner.ending (next stream)

/-- One turn of the loop in `read`, with `fuel` turns of the loop in `read_frame_payload`. -/
def turn (masks : ℕ → Mask) (turns fuel : ℕ) : Io WebSocketStream Bool := fun stream =>
  extend (fillBuffer masks turns) (readFramePayload masks fuel stream)

theorem extend_failed {error : IoError} (hkind : error.kind ≠ .unexpectedEof)
    (next : Io WebSocketStream Bool) (s : WebSocketStream) :
    extend next (.error error, s) = (.error error, s) := if_neg hkind

section

variable {frames : List Frame} {turns fuel : ℕ}

theorem ping_follows {data : Bytes} (hshort : ¬125 < data.length) {arr : List Arrival}
    (hdelivers : codec.Delivers () frames arr)
    (hnext : Follows written frames arr (turn masks turns fuel)) {s : WebSocketStream}
    (harr : s.inner.arrivals = arr) (hrem : s.remaining = [])
    (hacc : s.inner.Accepting)
    (hwritten : written (writeControlFrame masks opcodePong data s).2 frames) :
    NextStep layer (HeldWith written) s frames s.inner.ending
      (extend (fillBuffer masks turns) (Program.bind (writeControlFrame masks opcodePong data)
        (fun _ => readFramePayload masks fuel) s)) := by
  obtain ⟨own, out, inner, hrun, hwrote⟩ :=
    writeControlFrame_writes masks opcodePong hshort s hacc
  rw [hrun] at hwritten
  simp only [Program.bind, hrun]
  cases hwrote with
  | @wrote writes taken hacc' hfewer =>
    have hstep := hnext { s with
      own := own, inner := { s.inner with writes := writes, taken := taken } }
      harr hrem hacc' hwritten
    exact hstep.behind rfl (Nat.add_le_add_left hfewer _)
  | @blocked error writes taken hkind hacc' hfewer =>
    have hheld : Held { s with
        own := own, inner := { s.inner with writes := writes, taken := taken } } frames
        s.inner.ending := ⟨hacc', rfl, harr ▸ hdelivers⟩
    rw [extend_failed (by rw [hkind]; decide)]
    exact .wouldBlock hkind (Nat.add_lt_add_left hfewer _) hrem ⟨hheld, hwritten⟩ rfl

theorem handleFrame_step (htrk : Tracks masks written) {frame : Frame}
    (hdelivers : codec.Delivers () frames rest)
    (hnext : Follows written frames rest (turn masks turns fuel))
    (hempty : Follows written frames rest (fillBuffer masks turns)) {s : WebSocketStream}
    (harr : s.inner.arrivals = segment ++ rest) (hrem : s.remaining = [])
    (hacc : s.inner.Accepting) (hwritten : written s (frame :: frames)) :
    NextStep layer (HeldWith written) s (frame :: frames) s.inner.ending
      (extend (fillBuffer masks turns) (handleFrame masks (readFramePayload masks fuel)
        frame.first frame.payload (s.readTo rest))) := by
  have hfewer := failuresLeft_append harr
  have hpassed (hother : ¬frame.IsAnswered) (buf : Bytes) (off : ℕ) :
      written { s.readTo rest with readBuffer := buf, readOffset := off } frames :=
    htrk.reads buf off rest (htrk.passes hother hwritten)
  have hheld (hother : ¬frame.IsAnswered) (buf : Bytes) (off : ℕ) :
      HeldWith written { s.readTo rest with readBuffer := buf, readOffset := off } frames
        s.inner.ending := ⟨⟨hacc, rfl, hdelivers⟩, hpassed hother buf off⟩
  have hsame (hother : ¬frame.IsAnswered) := hheld hother s.readBuffer s.readOffset
  unfold handleFrame
  dsimp only
  split
  next hdata =>
    have hother : ¬frame.IsAnswered := by
      rintro ⟨hping, -⟩
      rw [hping] at hdata
      exact absurd hdata.1 (by decide)
    by_cases hpay : frame.payload = []
    · have hskip : layer.fetch frames s.inner.ending =
          layer.fetch (frame :: frames) s.inner.ending := by
        simp only [fetch, layer, if_pos hdata, if_pos hpay]
      rw [extend, if_pos hpay]
      have hstep := hempty { s.readTo rest with readBuffer := [], readOffset := 0 } rfl rfl
        hacc (hpassed hother [] 0)
      exact hstep.behind hskip hfewer
    · have hfetch : layer.fetch (frame :: frames) s.inner.ending =
          (.ok (some frame.payload), frames, s.inner.ending) := by
        simp only [fetch, layer, if_pos hdata, if_neg hpay]
      rw [extend, if_neg hpay]
      exact .payload hfetch hfewer rfl (hheld hother frame.payload 0)
  next hdata =>
  split
  next hclose =>
    have hother : ¬frame.IsAnswered := by
      rintro ⟨hping, -⟩
      rw [hping] at hclose
      exact absurd hclose (by decide)
    refine .ended ?_ hfewer hrem (hsame hother)
    simp only [fetch, layer, if_neg hdata, if_pos hclose]
  next hclose =>
  split
  next hping =>
    by_cases hlong : 125 < frame.payload.length
    · simp only [Program.bind, writeControlFrame, if_pos hlong, Program.fail]
      rw [extend_failed (show ErrorKind.invalidData ≠ .unexpectedEof by decide)]
      refine .failed (show ErrorKind.invalidData ≠ .wouldBlock by decide) ?_ hfewer hrem
        (hsame fun h => absurd h.2 (by omega))
      simp only [fetch, layer, if_neg hdata, if_neg hclose, if_pos hping, if_pos hlong]
    · have hskip : layer.fetch frames s.inner.ending =
          layer.fetch (frame :: frames) s.inner.ending := by
        simp only [fetch, layer, if_neg hdata, if_neg hclose, if_pos hping, if_neg hlong]
      have hans : written (writeControlFrame masks opcodePong frame.payload
          (s.readTo rest)).2 frames :=
        htrk.answers ⟨hping, Nat.le_of_not_lt hlong⟩ (htrk.reads _ _ rest hwritten)
      have harr' : (s.readTo rest).inner.arrivals = rest := rfl
      exact (ping_follows hlong hdelivers hnext harr' hrem hacc hans).behind
        hskip hfewer
  next hping =>
  have hother : ¬frame.IsAnswered := fun h => hping h.1
  split
  next hpong =>
    have hskip : layer.fetch frames s.inner.ending =
        layer.fetch (frame :: frames) s.inner.ending := by
      simp only [fetch, layer, if_neg hdata, if_neg hclose, if_neg hping, if_pos hpong]
    have hstep := hnext (s.readTo rest) rfl hrem hacc (hpassed hother _ _)
    exact hstep.behind hskip hfewer
  next hpong =>
    rw [extend_failed (show ErrorKind.invalidData ≠ .unexpectedEof by decide)]
    refine .failed (show ErrorKind.invalidData ≠ .wouldBlock by decide) ?_ hfewer hrem (hsame hother)
    simp only [fetch, layer, if_neg hdata, if_neg hclose, if_neg hping, if_neg hpong]

theorem turn_step (htrk : Tracks masks written) {arrivals : List Arrival}
    (harrives : codec.Delivers () frames arrivals) (hturns : arrivals.length ≤ turns)
    (hfuel : arrivals.length < fuel) : Follows written frames arrivals (turn masks turns fuel) := by
  obtain ⟨fuel, rfl⟩ := Nat.exists_eq_succ_of_ne_zero (by omega : fuel ≠ 0)
  generalize hst : () = state at harrives
  induction harrives generalizing turns fuel with
  | done =>
    intro s harr hrem hacc hwritten
    have hheld : HeldWith written s [] s.inner.ending :=
      ⟨⟨hacc, rfl, harr ▸ .done ()⟩, hwritten⟩
    have hread : readFrame s.inner = (.error s.inner.ending.exactError, s.inner) := by
      rw [readFrame, Program.bind, readExact_ended Nat.zero_lt_two harr]
    rw [turn, readFramePayload, Program.bind, Framed.onInner_run hread]
    dsimp only
    by_cases hkind : s.inner.ending.exactError.kind = .unexpectedEof
    · rw [extend, if_pos hkind]
      refine .ended ?_ le_rfl hrem hheld
      simp only [fetch, layer, if_pos hkind]
      rfl
    · rw [extend_failed hkind]
      refine .failed ?_ ?_ le_rfl hrem hheld
      · cases hend : s.inner.ending with
        | eof => exact (show ErrorKind.unexpectedEof ≠ .wouldBlock by decide)
        | failed error stays => exact stays.2
      · simp only [fetch, layer, if_neg hkind]
        rfl
  | @pause _ frames rest error hkind h =>
    intro s harr hrem hacc hwritten
    have hheld : HeldWith written (s.readTo rest) frames s.inner.ending :=
      ⟨⟨hacc, rfl, h⟩, htrk.reads _ _ rest hwritten⟩
    have hread : readFrame s.inner =
        (.error error, { s.inner with arrivals := rest }) := by
      rw [readFrame, Program.bind,
        readExact_failed Nat.zero_lt_two (ne_interrupted_of_wouldBlock hkind) harr]
    rw [turn, readFramePayload, Program.bind, Framed.onInner_run hread]
    dsimp only
    rw [extend_failed (by rw [hkind]; decide)]
    exact .wouldBlock hkind (failuresLeft_pause harr) hrem hheld rfl
  | @frame _ frame frames segment rest hseg h ih =>
    intro s harr hrem hacc hwritten
    have hlength : 2 ≤ segment.length := by
      rw [hseg.length_eq]
      change 2 ≤ (_ ++ _ : Bytes).length
      rw [length_append]
      exact Nat.le_add_right 2 _
    rw [length_append] at hturns hfuel
    obtain ⟨turns, rfl⟩ := Nat.exists_eq_succ_of_ne_zero (by omega : turns ≠ 0)
    obtain ⟨fuel, rfl⟩ := Nat.exists_eq_succ_of_ne_zero (by omega : fuel ≠ 0)
    have hempty : Follows written frames rest (fillBuffer masks (turns + 1)) := by
      intro s' harr' hrem' hacc' hwritten'
      change NextStep _ _ _ _ _ (turn masks turns (s'.inner.arrivals.length + 1) s')
      rw [harr']
      exact ih (by omega) rest.length (Nat.lt_succ_self _) rfl s' harr' hrem'
        hacc' hwritten'
    rw [turn, readFramePayload, Program.bind, Framed.onInner_run (readFrame_frame hseg harr)]
    exact handleFrame_step htrk h (ih (by omega) fuel (by omega) rfl) hempty harr hrem
      hacc hwritten

end

theorem read_follows_with (htrk : Tracks masks written) :
    FollowsPlain layer (RelatedPlain (HeldWith written)) failuresLeft (read masks) := by
  apply Framed.read_follows
  · intro s frames ending buf off hheld
    exact ⟨hheld.1, htrk.reads buf off s.inner.arrivals hheld.2⟩
  · intro s frames ending hrem hheld
    obtain ⟨⟨hacc, rfl, harrives⟩, hwritten⟩ := hheld
    exact turn_step htrk harrives le_rfl (Nat.lt_succ_self _) s rfl hrem hacc
      hwritten

theorem read_follows : FollowsPlain layer (RelatedPlain Held) failuresLeft (read masks) := by
  have htrk : Tracks masks fun _ _ => True := ⟨fun _ _ _ _ => trivial, fun _ _ => trivial,
    fun _ _ => trivial⟩
  have hheld : HeldWith (fun _ _ => True) = Held := by
    funext s frames ending
    exact propext (and_iff_left trivial)
  have hfollows := read_follows_with htrk
  rwa [hheld] at hfollows

def writeState (_ : WebSocketStream) : Unit := ()

def minimalForm (len : ℕ) : LenForm :=
  if len ≤ 125 then .short else if len ≤ 65535 then .medium else .long

theorem minimalForm_fits {len : ℕ} (h : len < 2 ^ 64) : len < (minimalForm len).bound := by
  unfold minimalForm
  split
  · exact Nat.lt_succ_of_le ‹_›
  split
  · exact Nat.lt_succ_of_le ‹_›
  · exact h

theorem payloadLenParts_flatten (len : ℕ) :
    (payloadLenParts len true).flatten =
      (0x80 ||| (minimalForm len).firstLen len) :: (minimalForm len).extended len := by
  unfold payloadLenParts minimalForm
  dsimp only
  by_cases hshort : len ≤ 125
  · rw [if_pos hshort, if_pos hshort]
    rfl
  by_cases hmedium : len ≤ 65535
  · rw [if_neg hshort, if_neg hshort, if_pos hmedium, if_pos hmedium]
    rfl
  · rw [if_neg hshort, if_neg hshort, if_neg hmedium, if_neg hmedium]
    rfl

def binaryFrame (mask : Mask) (payload : Bytes) (h : payload.length < 2 ^ 64) : Frame where
  first := 0x80 ||| opcodeBinary
  mask := some mask
  form := minimalForm payload.length
  payload := payload
  fits := minimalForm_fits h

theorem binaryFrame_meaning (mask : Mask) {payload : Bytes} (h : payload.length < 2 ^ 64)
    (hne : payload ≠ []) : layer.meaning (binaryFrame mask payload h) = .data payload := by
  have hbinary : ((0x80 ||| opcodeBinary) &&& 0x0f = opcodeText ∨
      (0x80 ||| opcodeBinary) &&& 0x0f = opcodeBinary) ∧ (0x80 ||| opcodeBinary) &&& 0x80 ≠ 0 := by
    decide
  simp only [layer, binaryFrame, if_pos hbinary, if_neg hne]

theorem binaryFrame_encode (mask : Mask) (data : Bytes) (h : data.length < 2 ^ 64) :
    codec.encode () (binaryFrame mask data h) = [0x80 ||| opcodeBinary] ++
      (payloadLenParts data.length true).flatten ++ mask.1 ++ applyMask mask.1 data := by
  rw [payloadLenParts_flatten, append_assoc, append_assoc]
  rfl

theorem writeMaskedBinaryFrame_ok {data : Bytes} (h : data.length < 2 ^ 64)
    {writer writer' : WebSocketStream}
    (hrun : writeMaskedBinaryFrame masks data writer = (.ok (), writer')) :
    writer'.inner.taken = writer.inner.taken ++
      codec.encode () (binaryFrame (masks writer.own.drawn) data h) := by
  obtain ⟨mask, s₁, hdraw, hrun⟩ := Program.bind_eq_ok hrun
  obtain ⟨_, s₂, hwrite, hflush⟩ := Program.bind_eq_ok hrun
  obtain ⟨hdrawn, rfl⟩ := Prod.mk.inj hdraw
  obtain rfl := Except.ok.inj hdrawn
  obtain ⟨inner, rfl, writes, rfl⟩ := onInner_writeAll_ok hwrite
  obtain ⟨inner', rfl, hflushed⟩ := onInner_eq hflush
  have htaken := flush_taken { writer.inner with
    writes := writes, taken := writer.inner.taken ++ ([0x80 ||| opcodeBinary] ++
      (payloadLenParts data.length true).flatten ++ (masks writer.own.drawn).1 ++
        applyMask (masks writer.own.drawn).1 data) }
  rw [hflushed] at htaken
  rw [binaryFrame_encode]
  exact htaken

theorem write_sends : SendsBuffer codec layer writeState (2 ^ 64) (write masks) := by
  intro buf s count s' hne hlim h
  obtain ⟨_, middle, hframe, h⟩ := Program.bind_eq_ok h
  obtain ⟨hcnt, rfl⟩ := Prod.mk.inj h
  refine ⟨(Except.ok.inj hcnt).symm, [binaryFrame (masks s.own.drawn) buf hlim],
    ⟨[buf], ?_, ?_, append_nil _⟩, ?_, rfl⟩
  · rw [map_singleton, map_singleton, binaryFrame_meaning _ _ hne]
  · simpa using hne
  · change middle.inner.taken = s.inner.taken ++ (codec.encode () _ ++ [])
    rw [append_nil]
    exact writeMaskedBinaryFrame_ok hlim hframe

theorem write_undone :
    Undone writeState (fun call => call.BlockedAtStart ∧ call.FlushNeverBlocked) (write masks) := by
  rintro buf s error s' hrun hpause ⟨hstart, hflushes⟩
  obtain hrun | ⟨_, _, _, hrun⟩ := Program.bind_eq_error hrun
  swap
  · cases hrun
  obtain hdraw | ⟨_, _, hdraw, hrun⟩ := Program.bind_eq_error hrun
  · cases hdraw
  cases hdraw
  obtain hwrite | ⟨_, _, hwrite, hflush⟩ := Program.bind_eq_error hrun
  · have hans := answered_writeAll hwrite
    exact ⟨hans.taken_eq hpause hstart, rfl⟩
  -- the frame is written, and only the flush after it can have failed
  obtain ⟨_, rfl, writes, rfl⟩ := onInner_writeAll_ok hwrite
  obtain ⟨inner, rfl, hflushed⟩ := onInner_eq hflush
  have hused := flush_error hflushed
  change s.inner.flushes = _ at hused
  refine absurd hpause (Bool.eq_false_iff.mp (hflushes error ?_))
  rw [WriteCall.flushes, hused, length_cons, Nat.add_sub_cancel_left]
  exact mem_cons_self

end WebSocketStream

end KeliNative.Framing
