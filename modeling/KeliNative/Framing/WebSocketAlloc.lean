import KeliNative.Framing.WebSocket
import KeliNative.Lib.Iteration

/-!
# Buffers of the WebSocket reader (`read_frame_payload`, `websocket.rs`)

A buffer of the announced length is made first; one beyond `isize::MAX` bytes panics.
-/

namespace KeliNative.Framing
open BigEndian Program Iteration

theorem read_fewer {len : ℕ} (hlen : 0 < len) (inner : InnerStream) :
    (inner.arrivals = [] ∧ InnerStream.read len inner = (inner.ending.outcome, inner)) ∨
      (InnerStream.read len inner).2.arrivals.length < inner.arrivals.length := by
  obtain ⟨len, rfl⟩ := Nat.exists_eq_add_one_of_ne_zero hlen.ne'
  cases harr : inner.arrivals with
  | nil =>
    refine .inl ⟨rfl, ?_⟩
    rw [InnerStream.read, harr]
  | cons arrival arr =>
    refine .inr ?_
    cases arrival with
    | failed error =>
      rw [InnerStream.read, harr]
      exact Nat.lt_succ_self _
    | byte value stop =>
      obtain ⟨byte, bytes, taken, rest, hread, hsplit, hcar⟩ := read_byte harr len
      have hlength := hcar.length_eq
      rw [hread, ← harr, hsplit, List.length_append, hlength, List.length_cons]
      dsimp only
      omega

theorem read_arrivals_le {len : ℕ} (hlen : 0 < len) (inner : InnerStream) :
    (InnerStream.read len inner).2.arrivals.length ≤ inner.arrivals.length := by
  rcases read_fewer hlen inner with ⟨-, hread⟩ | hlt
  · rw [hread]
  · exact hlt.le

theorem fillLoop_arrivals_le (repeats : Bool) (len turns : ℕ) (got : Bytes) (inner : InnerStream) :
    (fillLoop repeats len turns got inner).2.arrivals.length ≤ inner.arrivals.length := by
  induction turns generalizing got inner with
  | zero => exact le_rfl
  | succ turns ih =>
    rw [fillLoop]
    split_ifs with hmore
    · have hle := read_arrivals_le (Nat.sub_pos_of_lt hmore) inner
      generalize InnerStream.read (len - got.length) inner = run at hle
      obtain ⟨out, inner'⟩ := run
      rcases out with error | bytes
      · dsimp only
        split_ifs
        · exact (ih _ _).trans hle
        · exact hle
      · cases bytes with
        | nil => exact hle
        | cons byte bytes => exact (ih _ _).trans hle
    · exact le_rfl

theorem fillLoop_full {repeats : Bool} {len turns : ℕ} {got bytes : Bytes}
    {inner inner' : InnerStream} (hmore : got.length < len)
    (h : fillLoop repeats len (turns + 1) got inner = (.ok (.full bytes), inner')) :
    inner'.arrivals.length < inner.arrivals.length := by
  rw [fillLoop, if_pos hmore] at h
  rcases read_fewer (Nat.sub_pos_of_lt hmore) inner with ⟨-, hread⟩ | hlt
  · -- the end is no reason to go on
    rw [hread] at h
    cases hend : inner.ending with
    | eof =>
      rw [hend] at h
      cases (Prod.mk.inj h).1
    | failed error stays =>
      rw [hend] at h
      simp only [Ending.outcome] at h
      rw [if_neg fun hagain => stays.1 hagain.2] at h
      cases (Prod.mk.inj h).1
  · generalize InnerStream.read (len - got.length) inner = run at h hlt
    obtain ⟨out, middle⟩ := run
    have hloop (got : Bytes)
        (h : fillLoop repeats len turns got middle = (.ok (.full bytes), inner')) :
        inner'.arrivals.length < inner.arrivals.length := by
      have hle := fillLoop_arrivals_le repeats len turns got middle
      rw [h] at hle
      exact hle.trans_lt hlt
    rcases out with error | read
    · dsimp only at h
      split_ifs at h
      · exact hloop _ h
      · cases (Prod.mk.inj h).1
    · cases read with
      | nil => cases Except.ok.inj (Prod.mk.inj h).1
      | cons byte read => exact hloop _ h

theorem readExact_arrivals_le (len : ℕ) (inner : InnerStream) :
    (readExact len inner).2.arrivals.length ≤ inner.arrivals.length := by
  have hle := fillLoop_arrivals_le true len (len + inner.arrivals.length) [] inner
  rw [readExact, Program.bind, fill]
  generalize fillLoop true len (len + inner.arrivals.length) [] inner = run at hle
  obtain ⟨out, inner'⟩ := run
  rcases out with error | filled
  · exact hle
  · cases filled with
    | full bytes => exact hle
    | ended got => exact hle

theorem readExact_fewer {len : ℕ} (hlen : 0 < len) {bytes : Bytes} {inner inner' : InnerStream}
    (h : readExact len inner = (.ok bytes, inner')) :
    inner'.arrivals.length < inner.arrivals.length := by
  obtain ⟨filled, middle, hfill, hrest⟩ := bind_eq_ok h
  cases filled with
  | ended got => cases (Prod.mk.inj hrest).1
  | full filled =>
    obtain rfl := (Prod.mk.inj hrest).2
    rw [fill, show len + inner.arrivals.length = len + inner.arrivals.length - 1 + 1 by omega] at hfill
    exact fillLoop_full hlen hfill

theorem writeAll_arrivals (bytes : Bytes) (inner : InnerStream) :
    (writeAll bytes inner).2.arrivals = inner.arrivals := by
  have hloop (turns : ℕ) : (writeAllLoop turns bytes inner).2.arrivals = inner.arrivals := by
    induction turns generalizing bytes inner with
    | zero => rfl
    | succ turns ih =>
      have hwrite : (InnerStream.write bytes inner).2.arrivals = inner.arrivals := by
        unfold InnerStream.write
        split <;> rfl
      rw [writeAllLoop]
      split_ifs
      · rfl
      · generalize InnerStream.write bytes inner = run at hwrite
        obtain ⟨out, inner'⟩ := run
        rcases out with error | count
        · dsimp only
          split_ifs
          · exact (ih _ _).trans hwrite
          · exact hwrite
        · cases count with
          | zero => exact hwrite
          | succ count => exact (ih _ _).trans hwrite
  exact hloop _

namespace WebSocketStream
open WebSocket

def isizeMax : ℕ := 2 ^ 63 - 1

structure FrameHeader where
  first : UInt8
  masked : Bool
  len : ℕ
  mask : Bytes
  deriving DecidableEq

def readFrameHeader : Io InnerStream FrameHeader :=
  Program.bind (readExact 2) fun header =>
  Program.bind (readPayloadLen (header.getD 1 0 &&& 0x7f)) fun len =>
  Program.bind (readExact (if header.getD 1 0 &&& 0x80 ≠ 0 then 4 else 0)) fun mask =>
  Program.pure ⟨header.getD 0 0, decide (header.getD 1 0 &&& 0x80 ≠ 0), len, mask⟩

def readFrameBody (header : FrameHeader) : Io InnerStream (UInt8 × Bytes) :=
  Program.bind (readExact header.len) fun payload =>
  Program.pure (header.first, if header.masked then applyMask header.mask payload else payload)

def frameOutcome (masks : ℕ → Mask) (first : UInt8) (payload : Bytes) (stream : WebSocketStream) :
    Iteration WebSocketStream (Except IoError Bytes × WebSocketStream) :=
  let opcode := first &&& 0x0f
  if (opcode = opcodeText ∨ opcode = opcodeBinary) ∧ first &&& 0x80 ≠ 0 then
    .returned (.ok payload, stream)
  else if opcode = opcodeClose then
    .returned (.error ⟨.unexpectedEof, "websocket peer closed"⟩, stream)
  else if opcode = opcodePing then
    match writeControlFrame masks opcodePong payload stream with
    | (.ok _, stream) => .next stream
    | (.error error, stream) => .returned (.error error, stream)
  else if opcode = opcodePong then .next stream
  else .returned (.error ⟨.invalidData, "unsupported websocket frame"⟩, stream)

/-- One turn of the loop: `vec![0; len]` is made between the header and the payload. -/
def frameTurn (masks : ℕ → Mask) (stream : WebSocketStream) :
    Iteration WebSocketStream (Except IoError Bytes × WebSocketStream) :=
  match Framed.onInner readFrameHeader stream with
  | (.error error, stream) => .returned (.error error, stream)
  | (.ok header, stream) =>
    if isizeMax < header.len then .panicked
    else match Framed.onInner (readFrameBody header) stream with
      | (.error error, stream) => .returned (.error error, stream)
      | (.ok (first, payload), stream) => frameOutcome masks first payload stream

variable {masks : ℕ → Mask}

theorem readFrame_eq : readFrame = Program.bind readFrameHeader readFrameBody := by
  funext inner
  simp only [readFrame, readFrameHeader, readFrameBody, Program.bind, Program.pure]
  rcases readExact 2 inner with ⟨error | header, inner⟩
  · rfl
  dsimp only
  rcases readPayloadLen (header.getD 1 0 &&& 0x7f) inner with ⟨error | len, inner⟩
  · rfl
  dsimp only
  rcases readExact (if header.getD 1 0 &&& 0x80 ≠ 0 then 4 else 0) inner with ⟨error | mask, inner⟩
  · rfl
  dsimp only
  rcases readExact len inner with ⟨error | data, inner⟩
  · rfl
  · simp only [decide_eq_true_eq]

theorem readFramePayload_of_returned {turns : ℕ} {s : WebSocketStream}
    {run : Except IoError Bytes × WebSocketStream}
    (h : iterate (frameTurn masks) turns s = .returned run) :
    readFramePayload masks turns s = run := by
  induction turns generalizing s with
  | zero => cases h
  | succ turns ih =>
    rw [iterate, frameTurn] at h
    rw [readFramePayload, readFrame_eq, Program.bind]
    simp only [Framed.onInner, Program.bind] at h ⊢
    rcases hhead : readFrameHeader s.inner with ⟨error | header, inner⟩
    · rw [hhead] at h
      exact (returned.inj h)
    rw [hhead] at h
    dsimp only at h ⊢
    split_ifs at h with hlen
    rcases hbody : readFrameBody header inner with ⟨error | ⟨first, data⟩, inner⟩
    · rw [hbody] at h
      exact (returned.inj h)
    rw [hbody] at h
    dsimp only at h ⊢
    generalize ({ s with inner := inner } : WebSocketStream) = s' at h ⊢
    unfold frameOutcome at h
    unfold handleFrame
    dsimp only at h ⊢
    split_ifs at h ⊢
    · exact returned.inj h
    · exact returned.inj h
    · rw [Program.bind]
      rcases hpong : writeControlFrame masks opcodePong data s' with ⟨error | _, s''⟩
      · rw [hpong] at h
        exact returned.inj h
      · rw [hpong] at h
        exact ih h
    · exact ih h
    · exact returned.inj h

theorem preserves_readExact (len bound : ℕ) :
    Program.Preserves (fun inner : InnerStream => inner.arrivals.length ≤ bound) (readExact len) :=
  fun inner h => (readExact_arrivals_le len inner).trans h

theorem preserves_readPayloadLen (firstLen : UInt8) (bound : ℕ) :
    Program.Preserves (fun inner : InnerStream => inner.arrivals.length ≤ bound)
      (readPayloadLen firstLen) := by
  intro inner h
  unfold readPayloadLen
  split_ifs
  · exact h
  · exact preserves_bind (preserves_readExact 2 bound) (fun _ => preserves_pure _)
      inner h
  · exact preserves_bind (preserves_readExact 8 bound) (fun _ => preserves_pure _)
      inner h

theorem readFrameHeader_fewer {header : FrameHeader} {inner inner' : InnerStream}
    (h : readFrameHeader inner = (.ok header, inner')) :
    inner'.arrivals.length < inner.arrivals.length := by
  obtain ⟨bytes, middle, hfirst, hrest⟩ := bind_eq_ok h
  have hfewer := readExact_fewer Nat.zero_lt_two hfirst
  have hkeeps := preserves_bind
    (preserves_readPayloadLen (bytes.getD 1 0 &&& 0x7f) middle.arrivals.length) (fun len =>
      preserves_bind
        (preserves_readExact (if bytes.getD 1 0 &&& 0x80 ≠ 0 then 4 else 0) middle.arrivals.length)
        fun mask => preserves_pure
          (⟨bytes.getD 0 0, decide (bytes.getD 1 0 &&& 0x80 ≠ 0), len, mask⟩ : FrameHeader))
    middle le_rfl
  rw [hrest] at hkeeps
  exact hkeeps.trans_lt hfewer

theorem readFrameBody_arrivals_le (header : FrameHeader) (inner : InnerStream) :
    (readFrameBody header inner).2.arrivals.length ≤ inner.arrivals.length :=
  preserves_bind (preserves_readExact header.len inner.arrivals.length)
    (fun _ => preserves_pure _) inner le_rfl

theorem preserves_onInner_writeAll (bytes : Bytes) (arr : List Arrival) :
    Program.Preserves (fun s : WebSocketStream => s.inner.arrivals = arr)
      (Framed.onInner (writeAll bytes)) :=
  fun s h => (writeAll_arrivals bytes s.inner).trans h

theorem preserves_onInner_writeEach (parts : List Bytes) (arr : List Arrival) :
    Program.Preserves (fun s : WebSocketStream => s.inner.arrivals = arr)
      (Framed.onInner (writeEach writeAll parts)) := by
  have hparts : Program.Preserves (fun inner : InnerStream => inner.arrivals = arr)
      (writeEach writeAll parts) := by
    induction parts with
    | nil => exact preserves_pure ()
    | cons part parts ih =>
      exact preserves_bind (fun inner h => (writeAll_arrivals part inner).trans h) fun _ => ih
  exact fun s h => hparts s.inner h

theorem preserves_drawMask (arr : List Arrival) :
    Program.Preserves (fun s : WebSocketStream => s.inner.arrivals = arr)
      (drawMask masks) :=
  fun _ h => h

theorem writeControlFrame_arrivals (opcode : UInt8) (data : Bytes) (s : WebSocketStream) :
    (writeControlFrame masks opcode data s).2.inner.arrivals = s.inner.arrivals := by
  have hkeeps : Program.Preserves
      (fun s' : WebSocketStream => s'.inner.arrivals = s.inner.arrivals)
      (writeControlFrame masks opcode data) := by
    unfold writeControlFrame
    apply preserves_ite
    · exact preserves_fail _
    · apply preserves_bind (preserves_onInner_writeAll _ _)
      intro _
      apply preserves_bind (preserves_onInner_writeEach _ _)
      intro _
      apply preserves_bind (preserves_drawMask _)
      intro mask
      apply preserves_bind (preserves_onInner_writeAll _ _)
      intro _
      exact preserves_onInner_writeEach _ _
  exact hkeeps s rfl

theorem frameOutcome_next {first : UInt8} {data : Bytes} {s s' : WebSocketStream}
    (h : frameOutcome masks first data s = .next s') :
    s'.inner.arrivals = s.inner.arrivals := by
  unfold frameOutcome at h
  dsimp only at h
  split_ifs at h
  · have hkeeps : (writeControlFrame masks opcodePong data s).2.inner.arrivals =
        s.inner.arrivals := writeControlFrame_arrivals opcodePong data s
    generalize writeControlFrame masks opcodePong data s = run at h hkeeps
    obtain ⟨error | _, s''⟩ := run
    · cases h
    · rw [← next.inj h]
      exact hkeeps
  · rw [next.inj h]

theorem frameOutcome_ne_panicked (first : UInt8) (data : Bytes) (s : WebSocketStream) :
    frameOutcome masks first data s ≠ .panicked := by
  intro h
  unfold frameOutcome at h
  dsimp only at h
  split_ifs at h
  generalize writeControlFrame masks opcodePong data s = run at h
  obtain ⟨error | _, s'⟩ := run
  · cases h
  · cases h

theorem frameTurn_next {s s' : WebSocketStream} (h : frameTurn masks s = .next s') :
    s'.inner.arrivals.length < s.inner.arrivals.length := by
  unfold frameTurn at h
  simp only [Framed.onInner] at h
  rcases hhead : readFrameHeader s.inner with ⟨error | header, inner⟩
  · rw [hhead] at h
    cases h
  rw [hhead] at h
  dsimp only at h
  split_ifs at h
  have hfewer := readFrameHeader_fewer hhead
  have hle := readFrameBody_arrivals_le header inner
  rcases hbody : readFrameBody header inner with ⟨error | ⟨first, data⟩, inner'⟩
  · rw [hbody] at h
    cases h
  rw [hbody] at h hle
  rw [frameOutcome_next h]
  exact hle.trans_lt hfewer

def Announces (stream : WebSocketStream) (len : ℕ) : Prop :=
  ∃ header inner, readFrameHeader stream.inner = (.ok header, inner) ∧ header.len = len

theorem frameTurn_panicked_iff (s : WebSocketStream) :
    frameTurn masks s = .panicked ↔ ∃ len, Announces s len ∧ isizeMax < len := by
  unfold frameTurn
  simp only [Framed.onInner]
  rcases hhead : readFrameHeader s.inner with ⟨error | header, inner⟩
  · dsimp only
    constructor
    · intro h
      cases h
    · rintro ⟨len, ⟨header, inner', hok, -⟩, -⟩
      rw [hhead] at hok
      cases (Prod.mk.inj hok).1
  dsimp only
  split_ifs with hlen
  · exact ⟨fun _ => ⟨header.len, ⟨header, inner, hhead, rfl⟩, hlen⟩, fun _ => rfl⟩
  · constructor
    · intro h
      exfalso
      generalize readFrameBody header inner = run at h
      obtain ⟨error | ⟨first, data⟩, inner'⟩ := run
      · cases h
      · exact frameOutcome_ne_panicked first data _ h
    · rintro ⟨len, ⟨header', inner', hok, rfl⟩, hlarge⟩
      rw [hhead] at hok
      obtain rfl := Except.ok.inj (Prod.mk.inj hok).1
      exact absurd hlarge hlen

/-- It returns without a panic exactly if no frame it comes to announces more than `isize::MAX`
bytes. -/
theorem read_frame_payload_returns_iff (masks : ℕ → Mask) (stream : WebSocketStream) :
    (∃ turns run, Iteration.iterate (frameTurn masks) turns stream = .returned run ∧
        readFramePayload masks turns stream = run) ↔
      ∀ s', Iteration.Reaches (frameTurn masks) stream s' →
        ∀ len, Announces s' len → len ≤ isizeMax := by
  constructor
  · rintro ⟨turns, run, hrun, -⟩ s' hreach len hannounces
    by_contra hlarge
    have hpanic : frameTurn masks s' = .panicked :=
      (frameTurn_panicked_iff s').mpr ⟨len, hannounces, Nat.lt_of_not_le hlarge⟩
    exact Iteration.not_returned_of_panicked hreach hpanic turns run hrun
  · intro h
    obtain ⟨turns, hstops⟩ : ∃ turns, ∀ s',
        Iteration.iterate (frameTurn masks) turns stream ≠ .next s' := by
      apply Iteration.exists_stopped fun s' => s'.inner.arrivals.length
      exact fun _ hnext => frameTurn_next hnext
    cases hrun : Iteration.iterate (frameTurn masks) turns stream with
    | next s' => exact absurd hrun (hstops s')
    | returned run => exact ⟨turns, run, hrun, readFramePayload_of_returned hrun⟩
    | panicked =>
      obtain ⟨s', hreach, hpanic⟩ := Iteration.panicked_of_iterate hrun
      obtain ⟨len, hannounces, hlarge⟩ := (frameTurn_panicked_iff s').mp hpanic
      exact absurd (h s' hreach len hannounces) (Nat.not_le_of_lt hlarge)

def hugeFrame : List Arrival :=
  [0x82, 0x7f, 0xff, 0xff, 0xff, 0xff, 0xff, 0xff, 0xff, 0xff].map fun byte => .byte byte false

theorem huge_frame_panics :
    Iteration.iterate (frameTurn fun _ => ⟨[0, 0, 0, 0], rfl⟩) 1
      (⟨[], 0, ⟨0⟩, ⟨hugeFrame, .eof, [], [], []⟩⟩ : WebSocketStream) = .panicked := by
  have hhead : readFrameHeader ⟨hugeFrame, .eof, [], [], []⟩ =
      (.ok ⟨0x82, false, 18446744073709551615, []⟩, ⟨[], .eof, [], [], []⟩) := by
    decide +kernel
  rw [Iteration.iterate, frameTurn, Framed.onInner_run hhead]
  rfl

end WebSocketStream

end KeliNative.Framing
