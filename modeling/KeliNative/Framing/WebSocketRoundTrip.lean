import KeliNative.Framing.ReadOut
import KeliNative.Framing.WebSocket

/-!
# Round trips of the WebSocket streams

Data frames with pings and pongs between them.
-/

namespace KeliNative.Framing.WebSocketStream
open WebSocket List

variable {masks : ℕ → Mask}

def controlFrame (opcode : UInt8) (mask : Mask) (payload : Bytes) (h : payload.length ≤ 125) :
    Frame where
  first := 0x80 ||| opcode
  mask := some mask
  form := .short
  payload := payload
  fits := Nat.lt_succ_of_le h

theorem controlFrame_encode (opcode : UInt8) (mask : Mask) {data : Bytes}
    (h : data.length ≤ 125) :
    codec.encode () (controlFrame opcode mask data h) = [0x80 ||| opcode] ++
      ((payloadLenParts data.length true).flatten ++ (mask.1 ++ applyMask mask.1 data)) := by
  have hform : minimalForm data.length = .short := if_pos h
  rw [payloadLenParts_flatten, hform]
  rfl

def pongs (masks : ℕ → Mask) : ℕ → List Frame → List Frame
  | _, [] => []
  | drawn, frame :: frames =>
    if h : frame.IsAnswered then
      controlFrame opcodePong (masks drawn) frame.payload h.2 :: pongs masks (drawn + 1) frames
    else pongs masks drawn frames

theorem pongs_append (drawn : ℕ) (frames more : List Frame) :
    pongs masks drawn (frames ++ more) =
      pongs masks drawn frames ++ pongs masks (drawn + (pongs masks drawn frames).length) more := by
  induction frames generalizing drawn with
  | nil => rfl
  | cons frame frames ih =>
    rw [cons_append, pongs, pongs]
    split_ifs with h
    · rw [ih, length_cons, cons_append, Nat.add_right_comm, Nat.add_assoc]
    · exact ih drawn

variable {frame : Frame}

theorem pongs_of_not (h : ¬frame.IsAnswered) (drawn : ℕ) : pongs masks drawn [frame] = [] := by
  rw [pongs, dif_neg h, pongs]

theorem pongs_of_answered (h : frame.IsAnswered) (drawn : ℕ) :
    pongs masks drawn [frame] = [controlFrame opcodePong (masks drawn) frame.payload h.2] := by
  rw [pongs, dif_pos h, pongs]

theorem writeEach_ok {parts : List Bytes} {inner inner' : InnerStream}
    (h : writeEach writeAll parts inner = (.ok (), inner')) : TookAll parts.flatten inner inner' := by
  induction parts generalizing inner with
  | nil =>
    obtain rfl := (Prod.mk.inj h).2
    refine ⟨inner.writes, ?_⟩
    rw [flatten_nil, append_nil]
  | cons part parts ih =>
    obtain ⟨_, middle, hpart, hparts⟩ := Program.bind_eq_ok h
    exact (writeAll_ok hpart).trans (ih hparts)

theorem writeControlFrame_ok {opcode : UInt8} {data : Bytes} (hshort : data.length ≤ 125)
    {s s' : WebSocketStream}
    (h : writeControlFrame masks opcode data s = (.ok (), s')) :
    s'.own.drawn = s.own.drawn + 1 ∧
      TookAll (codec.encode () (controlFrame opcode (masks s.own.drawn) data hshort))
        s.inner s'.inner := by
  rw [writeControlFrame, if_neg (Nat.not_lt_of_le hshort)] at h
  obtain ⟨_, s₁, hfirst, h⟩ := Program.bind_eq_ok h
  obtain ⟨_, s₂, hlen, h⟩ := Program.bind_eq_ok h
  obtain ⟨mask, s₃, hdraw, h⟩ := Program.bind_eq_ok h
  obtain ⟨_, s₄, hmask, hbody⟩ := Program.bind_eq_ok h
  obtain ⟨inner₁, rfl, htook₁⟩ := onInner_writeAll_ok hfirst
  obtain ⟨inner₂, rfl, htook₂⟩ := onInner_eq hlen
  obtain ⟨hdrawn, rfl⟩ := Prod.mk.inj hdraw
  obtain rfl := Except.ok.inj hdrawn
  obtain ⟨inner₄, rfl, htook₄⟩ := onInner_writeAll_ok hmask
  obtain ⟨inner₅, rfl, htook₅⟩ := onInner_eq hbody
  have hbytes : ((applyMask (masks s.own.drawn).1 data).map fun byte => [byte]).flatten =
      applyMask (masks s.own.drawn).1 data := by
    rw [← flatMap_def, flatMap_singleton']
  have htook := htook₁.trans ((writeEach_ok htook₂).trans (htook₄.trans (writeEach_ok htook₅)))
  rw [hbytes] at htook
  refine ⟨rfl, ?_⟩
  rw [controlFrame_encode]
  exact htook

/-- What a stream has written is the answers to the pings it met. -/
structure Answering (masks : ℕ → Mask) (start : WebSocketStream) (frames : List Frame)
    (stream : WebSocketStream) (left : List Frame) : Prop where
  accepting : stream.inner.Accepting
  noFailures : stream.inner.failedWrites = 0
  met : ∃ met, frames = met ++ left ∧
    stream.inner.taken =
      start.inner.taken ++ codec.encodeAll () (pongs masks start.own.drawn met) ∧
    stream.own.drawn = start.own.drawn + (pongs masks start.own.drawn met).length

theorem answering_tracks (start : WebSocketStream) (frames : List Frame) :
    Tracks masks (Answering masks start frames) where
  reads _ _ _ h := ⟨h.accepting, h.noFailures, h.met⟩
  passes := by
    intro s frame left hother h
    obtain ⟨met, hframes, htaken, hdrawn⟩ := h.met
    refine ⟨h.accepting, h.noFailures, met ++ [frame], ?_, ?_⟩
    · rw [hframes, append_assoc]
      rfl
    · rw [pongs_append, pongs_of_not hother, append_nil]
      exact ⟨htaken, hdrawn⟩
  answers := by
    intro s frame left hping h
    obtain ⟨met, hframes, htaken, hdrawn⟩ := h.met
    obtain ⟨own, out, inner, hrun, hwrote⟩ := writeControlFrame_writes masks opcodePong
      (Nat.not_lt_of_le hping.2) s h.accepting
    rw [hrun]
    have hnone := h.noFailures
    cases hwrote with
    | blocked _ _ hfewer => omega
    | @wrote writes taken hacc hfewer =>
      obtain ⟨hdrawn', htook⟩ := writeControlFrame_ok hping.2 hrun
      have hpongs : pongs masks start.own.drawn (met ++ [frame]) =
          pongs masks start.own.drawn met ++
            [controlFrame opcodePong (masks s.own.drawn) frame.payload hping.2] := by
        rw [pongs_append, pongs_of_answered hping, hdrawn]
      refine ⟨hacc, Nat.le_zero.mp (hfewer.trans hnone.le), met ++ [frame], ?_, ?_, ?_⟩
      · rw [hframes, append_assoc]
        rfl
      · obtain ⟨writes', hinner⟩ := htook
        have htaken' := congrArg InnerStream.taken hinner
        rw [hpongs, Codec.encodeAll_append, ← append_assoc, ← htaken]
        exact htaken'.trans (congrArg _ (append_nil _).symm)
      · rw [hpongs, length_append, ← Nat.add_assoc, ← hdrawn]
        exact hdrawn'

def Frame.IsData (frame : Frame) : Prop :=
  (frame.first &&& 0x0f = opcodeText ∨ frame.first &&& 0x0f = opcodeBinary) ∧
    frame.first &&& 0x80 ≠ 0

instance (frame : Frame) : Decidable frame.IsData := inferInstanceAs (Decidable (_ ∧ _))

def Frame.IsPingOrPong (frame : Frame) : Prop :=
  (frame.first &&& 0x0f = opcodePing ∨ frame.first &&& 0x0f = opcodePong) ∧
    frame.payload.length ≤ 125

instance (frame : Frame) : Decidable frame.IsPingOrPong := inferInstanceAs (Decidable (_ ∧ _))

def dataBytes (frames : List Frame) : Bytes :=
  frames.flatMap fun frame => if frame.IsData then frame.payload else []

theorem meaning_data (h : frame.IsData) :
    layer.meaning frame = if frame.payload = [] then .skip else .data frame.payload := if_pos h

theorem not_isData_of_isPingOrPong (h : frame.IsPingOrPong) : ¬frame.IsData := by
  rintro ⟨hdata, -⟩
  rcases h.1 with hopcode | hopcode
  · rw [hopcode] at hdata
    exact absurd hdata (by decide)
  · rw [hopcode] at hdata
    exact absurd hdata (by decide)

theorem meaning_control (h : frame.IsPingOrPong) : layer.meaning frame = .skip := by
  have hdata := not_isData_of_isPingOrPong h
  have hlong : ¬125 < frame.payload.length := Nat.not_lt_of_le h.2
  unfold Frame.IsData at hdata
  simp only [layer, if_neg hdata]
  rcases h.1 with hopcode | hopcode
  · have hclose : ¬opcodePing = opcodeClose := by decide
    rw [hopcode, if_neg hclose, if_pos rfl, if_neg hlong]
  · have hclose : ¬opcodePong = opcodeClose := by decide
    have hping : ¬opcodePong = opcodePing := by decide
    rw [hopcode, if_neg hclose, if_neg hping, if_pos rfl]

theorem holds_dataBytes {frames : List Frame}
    (h : ∀ frame ∈ frames, frame.IsData ∨ frame.IsPingOrPong) :
    layer.Holds frames .eof (dataBytes frames) := by
  induction frames with
  | nil => exact .nil rfl
  | cons frame frames ih =>
    obtain ⟨hframe, hframes⟩ := forall_mem_cons.mp h
    have hrest := ih hframes
    rw [dataBytes, flatMap_cons]
    rcases hframe with hdata | hctl
    · have hmean := meaning_data hdata
      rw [if_pos hdata]
      by_cases hempty : frame.payload = []
      · rw [if_pos hempty] at hmean
        rw [hempty]
        exact .skip hmean hrest
      · rw [if_neg hempty] at hmean
        exact .data hmean hempty hrest
    · rw [if_neg (not_isData_of_isPingOrPong hctl)]
      exact .skip (meaning_control hctl) hrest

theorem dataBytes_append (frames more : List Frame) :
    dataBytes (frames ++ more) = dataBytes frames ++ dataBytes more := flatMap_append

theorem readFramePayload_data (hdata : frame.IsData) {seg rest : List Arrival}
    (hseg : Carries seg (codec.encode () frame)) {reader : WebSocketStream}
    (harr : reader.inner.arrivals = seg ++ rest) (turns : ℕ) :
    readFramePayload masks (turns + 1) reader = (.ok frame.payload, reader.readTo rest) := by
  rw [readFramePayload, Program.bind, Framed.onInner_run (readFrame_frame hseg harr)]
  exact if_pos hdata

/-- A ping, an empty binary frame with a long length and a masked text frame. -/
def pingAndData : List Frame :=
  [⟨0x89, none, .short, [1], by decide⟩, ⟨0x82, none, .medium, [], by decide⟩,
    ⟨0x81, some ⟨[5, 6, 7, 8], rfl⟩, .short, [65, 66], by decide⟩]

def pingAndDataStream : WebSocketStream :=
  ⟨[], 0, ⟨0⟩, ⟨(codec.encodeAll () pingAndData).map fun byte => .byte byte false, .eof, [], [], []⟩⟩

end KeliNative.Framing.WebSocketStream
