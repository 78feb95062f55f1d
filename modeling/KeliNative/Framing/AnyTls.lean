import KeliNative.Framing.Sending

/-!
# AnyTLS streams (`AnyTlsTcpStream`, `keli-net-core/src/direct.rs`)

Only the data of the one stream the client opens is passed on.
-/

namespace KeliNative.Framing
open BigEndian

structure AnyTlsFlags where
  streamClosed : Bool
  finSent : Bool
  deriving DecidableEq

abbrev AnyTlsTcpStream := Framed AnyTlsFlags

namespace AnyTlsTcpStream

def cmdWaste : UInt8 := 0
def cmdPsh : UInt8 := 2
def cmdFin : UInt8 := 3
def cmdAlert : UInt8 := 5
def cmdHeartRequest : UInt8 := 8
def cmdHeartResponse : UInt8 := 9
def streamId : UInt32 := 1

def frameHeader (cmd : UInt8) (sid : UInt32) (len : ℕ) : Bytes :=
  [cmd] ++ be32 sid ++ be16 (UInt16.ofNat len)

def writeParts (cmd : UInt8) (sid : UInt32) (data : Bytes) : Io InnerStream Unit :=
  Program.bind (writeAll (frameHeader cmd sid data.length)) fun _ => writeAll data

def writeFrame (cmd : UInt8) (sid : UInt32) (data : Bytes) : Io AnyTlsTcpStream Unit := fun stream =>
  if 65535 < data.length then
    (.error ⟨.invalidInput, "AnyTLS frame payload is too large"⟩, stream)
  else Framed.onInner (writeParts cmd sid data) stream

def headerSid (header : Bytes) : UInt32 :=
  ofBe32 (header.getD 1 0) (header.getD 2 0) (header.getD 3 0) (header.getD 4 0)

def headerLen (header : Bytes) : ℕ := (ofBe16 (header.getD 5 0) (header.getD 6 0)).toNat

def readFrame : Io AnyTlsTcpStream (Option (UInt8 × UInt32 × Bytes)) :=
  Program.bind (Framed.onInner (readExactOrCleanEof 7)) fun
    | none => Program.pure none
    | some header =>
      Program.bind (Framed.onInner (readExactOrCleanEof (headerLen header))) fun
        | none => Program.fail ⟨.unexpectedEof, "missing AnyTLS frame payload"⟩
        | some data => Program.pure (some (header.getD 0 0, headerSid header, data))

def handleFrame (lossy : Bytes → String) (next : Io AnyTlsTcpStream Bool) (cmd : UInt8)
    (sid : UInt32) (data : Bytes) : Io AnyTlsTcpStream Bool := fun stream =>
  if cmd = cmdPsh ∧ sid = streamId then
    (.ok true, { stream with readBuffer := data, readOffset := 0 })
  else if cmd = cmdFin ∧ sid = streamId then
    (.ok false, { stream with own := { stream.own with streamClosed := true } })
  else if cmd = cmdAlert then
    (.error ⟨.permissionDenied, "AnyTLS alert: " ++ lossy data⟩, stream)
  else if cmd = cmdHeartRequest then
    Program.bind (writeFrame cmdHeartResponse sid []) (fun _ => next) stream
  else next stream

/- Every turn reads a frame, so as many turns as there are arrivals are enough. -/
def readFrames (lossy : Bytes → String) : ℕ → Io AnyTlsTcpStream Bool
  | 0 => Program.pure false
  | turns + 1 => Program.bind readFrame fun
    | none => Program.pure false
    | some (cmd, sid, data) => handleFrame lossy (readFrames lossy turns) cmd sid data

def readNextDataFrame (lossy : Bytes → String) : Io AnyTlsTcpStream Bool := fun stream =>
  if stream.own.streamClosed then (.ok false, stream)
  else readFrames lossy (stream.inner.arrivals.length + 1) stream

def read (lossy : Bytes → String) : ℕ → Io AnyTlsTcpStream Bytes :=
  Framed.read false true (readNextDataFrame lossy)

def write (buffer : Bytes) : Io AnyTlsTcpStream ℕ :=
  Program.bind (writeEach (writeFrame cmdPsh streamId) (chunks 65535 buffer)) fun _ =>
    Program.pure buffer.length

structure Frame where
  cmd : UInt8
  sid : UInt32
  data : Bytes
  fits : data.length < 65536

def codec : Codec Unit Frame where
  encode _ frame := frameHeader frame.cmd frame.sid frame.data.length ++ frame.data
  next _ _ := ()

def layer (lossy : Bytes → String) : Layer Frame where
  meaning frame :=
    if frame.cmd = cmdPsh ∧ frame.sid = streamId then .data frame.data
    else if frame.cmd = cmdFin ∧ frame.sid = streamId then .ends true
    else if frame.cmd = cmdAlert then
      .failed ⟨.permissionDenied, "AnyTLS alert: " ++ lossy frame.data⟩
    else .skip
  atEnd ending := ending.outcome.map fun _ => ()
  readsIntoEmpty := false

/-- Once closed, the stream is at its end whatever still arrives. The answers it writes may block,
but do not fail otherwise. -/
def Held (stream : AnyTlsTcpStream) (frames : List Frame) (ending : Ending) : Prop :=
  stream.inner.Accepting ∧
    if stream.own.streamClosed then frames = [] ∧ ending = .eof
    else stream.inner.ending = ending ∧ codec.Delivers () frames stream.inner.arrivals

variable {lossy : Bytes → String}

variable {frames : List Frame} {stream : AnyTlsTcpStream}

theorem held_of_open (stream : AnyTlsTcpStream) (hacc : stream.inner.Accepting)
    (hopen : stream.own.streamClosed = false) (h : codec.Delivers () frames stream.inner.arrivals) :
    Held stream frames stream.inner.ending := by
  rw [Held, hopen]
  exact ⟨hacc, rfl, h⟩

theorem headerLen_frameHeader {cmd : UInt8} {sid : UInt32} {len : ℕ} (h : len < 65536) :
    headerLen (frameHeader cmd sid len) = len :=
  be16_read h

theorem readFrame_frame {frame : Frame} {seg rest : List Arrival}
    (hseg : Carries seg (codec.encode () frame))
    (harr : stream.inner.arrivals = seg ++ rest) :
    readFrame stream = (.ok (some (frame.cmd, frame.sid, frame.data)), stream.readTo rest) := by
  obtain ⟨first, second, rfl, hfirst, hsecond⟩ := Carries.split hseg
  rw [List.append_assoc] at harr
  have hhead := readExactOrCleanEof_carries hfirst harr
  have hsid : headerSid (frameHeader frame.cmd frame.sid frame.data.length) = frame.sid :=
    ofBe32_digits frame.sid
  have hdata (s' : AnyTlsTcpStream) (h : s'.inner.arrivals = second ++ rest) :=
    Framed.onInner_run (readExactOrCleanEof_carries hsecond h)
  change readExactOrCleanEof 7 stream.inner = _ at hhead
  rw [readFrame, Program.bind, Framed.onInner_run hhead]
  simp only [headerLen_frameHeader frame.fits]
  rw [Program.bind, hdata _ rfl]
  simp only [hsid]
  rfl

/-- What a frame does to a stream that has read it; `next` is the loop again. -/
inductive FrameStep (lossy : Bytes → String) (next : Io AnyTlsTcpStream Bool) (frame : Frame)
    (stream : AnyTlsTcpStream) : Except IoError Bool × AnyTlsTcpStream → Prop
  | data (hmean : (layer lossy).meaning frame = .data frame.data) (hcmd : frame.cmd = cmdPsh) :
    FrameStep lossy next frame stream
      (.ok true, { stream with readBuffer := frame.data, readOffset := 0 })
  | closed (hmean : (layer lossy).meaning frame = .ends true)
    (hfin : frame.cmd = cmdFin ∧ frame.sid = streamId) :
    FrameStep lossy next frame stream
      (.ok false, { stream with own := { stream.own with streamClosed := true } })
  | failed {error : IoError} (hmean : (layer lossy).meaning frame = .failed error)
    (hkind : error.kind = .permissionDenied) (hcmd : frame.cmd = cmdAlert) :
    FrameStep lossy next frame stream (.error error, stream)
  | skipped (hmean : (layer lossy).meaning frame = .skip)
    (hopen : ¬(frame.cmd = cmdFin ∧ frame.sid = streamId)) (hother : frame.cmd ≠ cmdHeartRequest) :
    FrameStep lossy next frame stream (next stream)
  | answered (hmean : (layer lossy).meaning frame = .skip)
    (hreq : frame.cmd = cmdHeartRequest) :
    FrameStep lossy next frame stream
      (Program.bind (writeFrame cmdHeartResponse frame.sid []) (fun _ => next) stream)

theorem handleFrame_cases (next : Io AnyTlsTcpStream Bool) (frame : Frame) (stream : AnyTlsTcpStream) :
    FrameStep lossy next frame stream
      (handleFrame lossy next frame.cmd frame.sid frame.data stream) := by
  unfold handleFrame
  split
  next h => exact .data (if_pos h) h.1
  next hpsh =>
  split
  next h =>
    refine .closed ?_ h
    simp only [layer, if_neg hpsh, if_pos h]
  next hfin =>
  split
  next h =>
    refine .failed ?_ rfl h
    simp only [layer, if_neg hpsh, if_neg hfin, if_pos h]
  next halert =>
  have hskip : (layer lossy).meaning frame = .skip := by
    simp only [layer, if_neg hpsh, if_neg hfin, if_neg halert]
  split
  next hreq => exact .answered hskip hreq
  next hother => exact .skipped hskip hfin hother

theorem writeFrame_empty (cmd : UInt8) (sid : UInt32) :
    writeFrame cmd sid [] = Framed.onInner (writeParts cmd sid []) := by
  funext stream
  exact if_neg (Nat.not_lt_zero _)

theorem onlyWrites_writeParts (cmd : UInt8) (sid : UInt32) (data : Bytes) :
    OnlyWrites (writeParts cmd sid data) :=
  onlyWrites_bind (onlyWrites_writeAll _) (onlyWrites_writeAll data)

theorem answer_step {G : Type} {layer : Layer G} {held : AnyTlsTcpStream → List G → Ending → Prop}
    {frames : List G} {ending : Ending} (sid : UInt32) {next : Io AnyTlsTcpStream Bool}
    (hrem : stream.remaining = []) (hacc : stream.inner.Accepting)
    (hafter : ∀ out writes taken,
      writeFrame cmdHeartResponse sid [] stream =
        (out, { stream with inner := { stream.inner with writes := writes, taken := taken } }) →
      { stream.inner with writes := writes, taken := taken }.Accepting →
      held { stream with inner := { stream.inner with writes := writes, taken := taken } } frames
        ending ∧
      NextStep layer held
        { stream with inner := { stream.inner with writes := writes, taken := taken } } frames ending
        (next { stream with inner := { stream.inner with writes := writes, taken := taken } })) :
    NextStep layer held stream frames ending
      (Program.bind (writeFrame cmdHeartResponse sid []) (fun _ => next) stream) := by
  have hwrs := onlyWrites_writeParts cmdHeartResponse sid [] stream.inner hacc
  rw [writeFrame_empty] at hafter ⊢
  rw [Program.bind]
  generalize hrun : writeParts cmdHeartResponse sid [] stream.inner = run at hwrs
  rw [Framed.onInner_run hrun]
  cases hwrs with
  | @wrote writes taken hacc' hfewer =>
    have hstep := (hafter _ writes taken (Framed.onInner_run hrun) hacc').2
    exact hstep.behind rfl (Nat.add_le_add_left hfewer _)
  | @blocked error writes taken hkind hacc' hfewer =>
    have hheld := (hafter _ writes taken (Framed.onInner_run hrun) hacc').1
    exact .wouldBlock hkind (Nat.add_lt_add_left hfewer _) hrem hheld rfl

/-- A relation between what a stream has written and the frames to come that every frame keeps. -/
structure Tracks (written : AnyTlsTcpStream → List Frame → Prop) : Prop where
  reads {stream : AnyTlsTcpStream} {frames : List Frame} (buffer : Bytes) (offset : ℕ)
    (rest : List Arrival) (h : written stream frames) :
    written { stream.readTo rest with readBuffer := buffer, readOffset := offset } frames
  passes {stream : AnyTlsTcpStream} {frame : Frame} {frames : List Frame}
    (hopen : ¬(frame.cmd = cmdFin ∧ frame.sid = streamId)) (hother : frame.cmd ≠ cmdHeartRequest)
    (h : written stream (frame :: frames)) : written stream frames
  closes {stream : AnyTlsTcpStream} {frame : Frame} {frames : List Frame}
    (hfin : frame.cmd = cmdFin ∧ frame.sid = streamId) (h : written stream (frame :: frames)) :
    written { stream with own := { stream.own with streamClosed := true } } []
  answers {stream : AnyTlsTcpStream} {frame : Frame} {frames : List Frame}
    (hreq : frame.cmd = cmdHeartRequest) (h : written stream (frame :: frames)) :
    written (writeFrame cmdHeartResponse frame.sid [] stream).2 frames

def HeldWith (written : AnyTlsTcpStream → List Frame → Prop) (stream : AnyTlsTcpStream)
    (frames : List Frame) (ending : Ending) : Prop :=
  Held stream frames ending ∧ written stream frames

variable {written : AnyTlsTcpStream → List Frame → Prop}

def Follows (lossy : Bytes → String) (written : AnyTlsTcpStream → List Frame → Prop)
    (frames : List Frame) (arrivals : List Arrival) (next : Io AnyTlsTcpStream Bool) : Prop :=
  ∀ stream : AnyTlsTcpStream, stream.inner.arrivals = arrivals → stream.remaining = [] →
    stream.inner.Accepting → stream.own.streamClosed = false → written stream frames →
    NextStep (layer lossy) (HeldWith written) stream frames stream.inner.ending (next stream)

section

variable (htrk : Tracks written)

include htrk

theorem handleFrame_step {frame : Frame} {seg rest : List Arrival}
    {next : Io AnyTlsTcpStream Bool} (hdelivers : codec.Delivers () frames rest)
    (hnext : Follows lossy written frames rest next)
    (harr : stream.inner.arrivals = seg ++ rest) (hrem : stream.remaining = [])
    (hacc : stream.inner.Accepting) (hopen : stream.own.streamClosed = false)
    (hwrote : written stream (frame :: frames)) :
    NextStep (layer lossy) (HeldWith written) stream (frame :: frames) stream.inner.ending
      (handleFrame lossy next frame.cmd frame.sid frame.data (stream.readTo rest)) := by
  have hfewer := failuresLeft_append harr
  have hpassed (hfin : ¬(frame.cmd = cmdFin ∧ frame.sid = streamId))
      (hother : frame.cmd ≠ cmdHeartRequest) (buf : Bytes) (off : ℕ) :
      HeldWith written { stream.readTo rest with readBuffer := buf, readOffset := off } frames
        stream.inner.ending :=
    ⟨held_of_open _ hacc hopen hdelivers,
      htrk.reads buf off rest (htrk.passes hfin hother hwrote)⟩
  have hdist {cmd : UInt8} (h : frame.cmd = cmd) (hfin : cmd ≠ cmdFin)
      (hreq : cmd ≠ cmdHeartRequest) :
      ¬(frame.cmd = cmdFin ∧ frame.sid = streamId) ∧ frame.cmd ≠ cmdHeartRequest := by
    rw [h]
    exact ⟨fun hand => hfin hand.1, hreq⟩
  have hcases := @handleFrame_cases lossy next frame (stream.readTo rest)
  generalize handleFrame lossy next frame.cmd frame.sid frame.data (stream.readTo rest) = run at hcases
  cases hcases with
  | data hmean hcmd =>
    obtain ⟨hfin, hother⟩ := hdist hcmd (by decide) (by decide)
    have hfetch : (layer lossy).fetch (frame :: frames) stream.inner.ending =
        (.ok (some frame.data), frames, stream.inner.ending) := by
      rw [Layer.fetch, hmean]
    exact .payload hfetch hfewer rfl (hpassed hfin hother frame.data 0)
  | closed hmean hfin =>
    have hclosed := htrk.closes hfin
      (htrk.reads stream.readBuffer stream.readOffset rest hwrote)
    refine .ended ?_ hfewer hrem ⟨⟨hacc, rfl, rfl⟩, hclosed⟩
    rw [Layer.fetch, hmean]
  | failed hmean hkind hcmd =>
    obtain ⟨hfin, hother⟩ := hdist hcmd (by decide) (by decide)
    refine .failed (by rw [hkind]; decide) ?_ hfewer hrem
      (hpassed hfin hother stream.readBuffer stream.readOffset)
    rw [Layer.fetch, hmean]
  | skipped hmean hfin hother =>
    have hheld := hpassed hfin hother stream.readBuffer stream.readOffset
    have hstep := hnext (stream.readTo rest) rfl hrem hacc hopen hheld.2
    refine hstep.behind ?_ hfewer
    rw [Layer.fetch, hmean]
  | answered hmean hreq =>
    have hans := htrk.answers hreq
      (htrk.reads stream.readBuffer stream.readOffset rest hwrote)
    have hskip : (layer lossy).fetch frames stream.inner.ending =
        (layer lossy).fetch (frame :: frames) stream.inner.ending := by
      rw [Layer.fetch, hmean]
    have hrem' : (stream.readTo rest).remaining = [] := hrem
    have hacc' : (stream.readTo rest).inner.Accepting := hacc
    refine (answer_step frame.sid hrem' hacc' ?_).behind hskip hfewer
    intro out writes taken hrun hacpt
    have hkept : written (writeFrame cmdHeartResponse frame.sid [] (stream.readTo rest)).2 frames :=
      hans
    rw [hrun] at hkept
    exact ⟨⟨held_of_open _ hacpt hopen hdelivers, hkept⟩,
      hnext _ rfl hrem hacpt hopen hkept⟩

theorem readFrames_step {arr : List Arrival} (harrives : codec.Delivers () frames arr)
    {turns : ℕ} (hturns : arr.length < turns) :
    Follows lossy written frames arr (readFrames lossy turns) := by
  obtain ⟨turns, rfl⟩ := Nat.exists_eq_succ_of_ne_zero (by omega : turns ≠ 0)
  generalize hst : () = state at harrives
  induction harrives generalizing turns with
  | done =>
    intro stream harr hrem hacc hopen hwrote
    have hheld : HeldWith written stream [] stream.inner.ending :=
      ⟨held_of_open stream hacc hopen (harr ▸ .done ()), hwrote⟩
    rw [readFrames, Program.bind, readFrame, Program.bind,
      Framed.onInner_run (readExactOrCleanEof_ended (Nat.zero_lt_succ 6) harr)]
    cases hend : stream.inner.ending with
    | eof => exact .ended rfl le_rfl hrem (hend ▸ hheld)
    | failed error stays => exact .failed stays.2 rfl le_rfl hrem (hend ▸ hheld)
  | @pause _ frames rest error hkind h =>
    intro stream harr hrem hacc hopen hwrote
    have hheld : HeldWith written (stream.readTo rest) frames stream.inner.ending :=
      ⟨held_of_open (stream.readTo rest) hacc hopen h, htrk.reads _ _ rest hwrote⟩
    rw [readFrames, Program.bind, readFrame, Program.bind,
      Framed.onInner_run (readExactOrCleanEof_failed (Nat.zero_lt_succ 6)
        (ne_interrupted_of_wouldBlock hkind) harr)]
    exact .wouldBlock hkind (failuresLeft_pause harr) hrem hheld rfl
  | @frame _ frame frames seg rest hseg h ih =>
    intro stream harr hrem hacc hopen hwrote
    rw [readFrames, Program.bind, readFrame_frame hseg harr]
    have hlen : 7 ≤ seg.length := by
      rw [hseg.length_eq]
      change 7 ≤ (frameHeader frame.cmd frame.sid frame.data.length ++ frame.data).length
      rw [List.length_append]
      exact Nat.le_add_right 7 _
    rw [List.length_append] at hturns
    obtain ⟨turns, rfl⟩ := Nat.exists_eq_succ_of_ne_zero (by omega : turns ≠ 0)
    exact handleFrame_step htrk h (ih turns (by omega) rfl) harr hrem hacc hopen
      hwrote

theorem readNextDataFrame_step {ending : Ending} (hrem : stream.remaining = [])
    (hheld : HeldWith written stream frames ending) :
    NextStep (layer lossy) (HeldWith written) stream frames ending
      (readNextDataFrame lossy stream) := by
  obtain ⟨⟨hacc, harrives⟩, hwrote⟩ := hheld
  cases hopen : stream.own.streamClosed with
  | true =>
    rw [hopen] at harrives
    obtain ⟨rfl, rfl⟩ := harrives
    rw [readNextDataFrame, if_pos hopen]
    refine .ended rfl le_rfl hrem ⟨?_, hwrote⟩
    rw [Held, hopen]
    exact ⟨hacc, rfl, rfl⟩
  | false =>
    rw [hopen] at harrives
    obtain ⟨rfl, harrives⟩ := harrives
    rw [readNextDataFrame, if_neg (by rw [hopen]; nofun)]
    exact readFrames_step htrk harrives (Nat.lt_succ_self _) stream rfl hrem hacc
      hopen hwrote

theorem read_follows_with :
    FollowsPlain (layer lossy) (RelatedPlain (HeldWith written)) failuresLeft (read lossy) := by
  apply Framed.read_follows
  · intro stream frames ending buf off hheld
    exact ⟨hheld.1, htrk.reads buf off stream.inner.arrivals hheld.2⟩
  · intro stream frames ending hrem hheld
    exact readNextDataFrame_step htrk hrem hheld

end

theorem read_follows :
    FollowsPlain (layer lossy) (RelatedPlain Held) failuresLeft (read lossy) := by
  have htrk : Tracks fun _ _ => True := ⟨fun _ _ _ _ => trivial, fun _ _ _ => trivial,
    fun _ _ => trivial, fun _ _ => trivial⟩
  have hheld : HeldWith (fun _ _ => True) = Held := by
    funext stream frames ending
    exact propext (and_iff_left trivial)
  have hfollows : FollowsPlain (layer lossy) (RelatedPlain (HeldWith fun _ _ => True)) failuresLeft
      (read lossy) := read_follows_with htrk
  rwa [hheld] at hfollows

def writeState (_ : AnyTlsTcpStream) : Unit := ()

theorem writeFrame_sends :
    SendsFrame codec (layer lossy) writeState 65535 (writeFrame cmdPsh streamId) := by
  intro data stream s' _ hsize h
  rw [writeFrame, if_neg (Nat.not_lt.mpr hsize)] at h
  obtain ⟨inner, rfl, hparts⟩ := onInner_eq h
  obtain ⟨_, middle, hhead, hdata⟩ := Program.bind_eq_ok hparts
  obtain ⟨writes, rfl⟩ := (writeAll_ok hhead).trans (writeAll_ok hdata)
  refine ⟨⟨cmdPsh, streamId, data, Nat.lt_succ_of_le hsize⟩, ?_, ?_, rfl⟩
  · simp only [layer, and_self, ite_true]
  · exact congrArg (stream.inner.taken ++ ·) (List.append_nil _).symm

theorem write_sends (limit : ℕ) : SendsBuffer codec (layer lossy) writeState limit write :=
  writeFrame_sends.sendsBuffer (by decide) limit

theorem write_undone : Undone writeState WriteCall.BlockedAtStart write := by
  intro buf stream error s' hrun hpause hstart
  have hanswers : Answers Framed.inner (write buf) := by
    refine (Answers.writeEach (fun data stream => ?_) _).bind fun _ => answers_pure _
    unfold writeFrame
    split
    · exact fun hpause => absurd hpause Bool.false_ne_true
    · exact answers_onInner ((answers_writeAll _).bind fun _ => answers_writeAll _) stream
  have hans := hanswers stream
  rw [hrun] at hans
  exact ⟨hans.taken_eq hpause hstart, rfl⟩

end AnyTlsTcpStream

end KeliNative.Framing
