import KeliNative.Framing.AnyTls
import KeliNative.Framing.ReadOut

/-!
# One stream among the frames of a session

The data of the own stream reads out, and requests that are met are answered.
-/

namespace KeliNative.Framing.AnyTlsTcpStream
open BigEndian List

variable {lossy : Bytes → String}

def Frame.IsOwn (cmd : UInt8) (frame : Frame) : Prop := frame.cmd = cmd ∧ frame.sid = streamId

instance (cmd : UInt8) (frame : Frame) : Decidable (frame.IsOwn cmd) :=
  inferInstanceAs (Decidable (_ ∧ _))

def untilFin : List Frame → List Frame
  | [] => []
  | frame :: frames => if frame.IsOwn cmdFin then [frame] else frame :: untilFin frames

def ownData (frames : List Frame) : Bytes :=
  frames.flatMap fun frame => if frame.IsOwn cmdPsh then frame.data else []

def heartResponses (frames : List Frame) : List Frame :=
  (frames.filter fun frame => frame.cmd = cmdHeartRequest).map fun frame =>
    ⟨cmdHeartResponse, frame.sid, [], by decide⟩

def alertError (lossy : Bytes → String) (frame : Frame) : IoError :=
  ⟨.permissionDenied, "AnyTLS alert: " ++ lossy frame.data⟩

variable {frame : Frame} (frames : List Frame) {stream : AnyTlsTcpStream}

theorem untilFin_cons (h : ¬frame.IsOwn cmdFin) (frames : List Frame) :
    untilFin (frame :: frames) = frame :: untilFin frames := if_neg h

theorem untilFin_fin (h : frame.IsOwn cmdFin) (frames : List Frame) :
    untilFin (frame :: frames) = [frame] := if_pos h

theorem heartResponses_append (more : List Frame) :
    heartResponses (frames ++ more) = heartResponses frames ++ heartResponses more := by
  rw [heartResponses, filter_append, map_append]
  rfl

theorem heartResponses_of_ne (h : frame.cmd ≠ cmdHeartRequest) : heartResponses [frame] = [] := by
  simp [heartResponses, h]

theorem ownData_append (more : List Frame) :
    ownData (frames ++ more) = ownData frames ++ ownData more := flatMap_append

/-- What a stream has written is the responses to the requests it met. -/
structure Answering (start : AnyTlsTcpStream) (frames : List Frame) (stream : AnyTlsTcpStream)
    (left : List Frame) : Prop where
  accepting : stream.inner.Accepting
  noFailures : stream.inner.failedWrites = 0
  met : ∃ met, untilFin frames = met ++ untilFin left ∧
    stream.inner.taken = start.inner.taken ++ codec.encodeAll () (heartResponses met)

theorem writeParts_taken (cmd : UInt8) (sid : UInt32) (data : Bytes) {inner : InnerStream}
    (hacc : inner.Accepting) (hnone : inner.failedWrites = 0) :
    ∃ inner', writeParts cmd sid data inner = (.ok (), inner') ∧ inner'.Accepting ∧
      inner'.failedWrites = 0 ∧
      TookAll (frameHeader cmd sid data.length ++ data) inner inner' := by
  have hwrs := onlyWrites_writeParts cmd sid data inner hacc
  generalize hrun : writeParts cmd sid data inner = run at hwrs
  cases hwrs with
  | blocked _ _ hfewer => omega
  | @wrote writes taken hacc' hfewer =>
    obtain ⟨_, middle, hhead, hdata⟩ := Program.bind_eq_ok hrun
    exact ⟨_, rfl, hacc', Nat.le_zero.mp (hfewer.trans hnone.le),
      (writeAll_ok hhead).trans (writeAll_ok hdata)⟩

theorem answering_tracks (start : AnyTlsTcpStream) (frames : List Frame) :
    Tracks (Answering start frames) where
  reads _ _ _ h := ⟨h.accepting, h.noFailures, h.met⟩
  passes := by
    intro stream frame left hopen hother h
    obtain ⟨met, hframes, htaken⟩ := h.met
    refine ⟨h.accepting, h.noFailures, met ++ [frame], ?_, ?_⟩
    · rw [hframes, untilFin_cons hopen, append_assoc]
      rfl
    · rw [heartResponses_append, heartResponses_of_ne hother, append_nil]
      exact htaken
  closes := by
    intro stream frame left hfin h
    obtain ⟨met, hframes, htaken⟩ := h.met
    have hother : frame.cmd ≠ cmdHeartRequest := by
      rw [hfin.1]
      decide
    refine ⟨h.accepting, h.noFailures, met ++ [frame], ?_, ?_⟩
    · rw [hframes, untilFin_fin hfin, untilFin, append_nil]
    · rw [heartResponses_append, heartResponses_of_ne hother, append_nil]
      exact htaken
  answers := by
    intro stream frame left hreq h
    obtain ⟨met, hframes, htaken⟩ := h.met
    have hopen : ¬frame.IsOwn cmdFin := by
      rintro ⟨hcmd, -⟩
      rw [hreq] at hcmd
      exact absurd hcmd (by decide)
    obtain ⟨inner, hrun, hacc, hnone, writes, htook⟩ :=
      writeParts_taken cmdHeartResponse frame.sid [] h.accepting h.noFailures
    have hresp : heartResponses [frame] =
        [⟨cmdHeartResponse, frame.sid, [], by decide⟩] := by
      simp [heartResponses, hreq]
    rw [writeFrame_empty, Framed.onInner_run hrun]
    refine ⟨hacc, hnone, met ++ [frame], ?_, ?_⟩
    · rw [hframes, untilFin_cons hopen, append_assoc]
      rfl
    · rw [heartResponses_append, hresp, Codec.encodeAll_append, ← append_assoc, ← htaken]
      exact (congrArg InnerStream.taken htook).trans (congrArg _ (append_nil _).symm)

theorem meaning_psh (h : frame.IsOwn cmdPsh) : (layer lossy).meaning frame = .data frame.data := if_pos h

theorem not_psh_of_fin (h : frame.IsOwn cmdFin) : ¬frame.IsOwn cmdPsh := by
  rintro ⟨hcmd, -⟩
  rw [h.1] at hcmd
  exact absurd hcmd (by decide)

theorem meaning_fin (h : frame.IsOwn cmdFin) : (layer lossy).meaning frame = .ends true := by
  have hpsh := not_psh_of_fin h
  unfold Frame.IsOwn at h hpsh
  simp only [layer, if_neg hpsh, if_pos h]

theorem meaning_alert (h : frame.cmd = cmdAlert) :
    (layer lossy).meaning frame = .failed (alertError lossy frame) := by
  have hpsh : ¬frame.IsOwn cmdPsh := by
    rintro ⟨hcmd, -⟩
    rw [h] at hcmd
    exact absurd hcmd (by decide)
  have hfin : ¬frame.IsOwn cmdFin := by
    rintro ⟨hcmd, -⟩
    rw [h] at hcmd
    exact absurd hcmd (by decide)
  unfold Frame.IsOwn at hpsh hfin
  simp only [layer, if_neg hpsh, if_neg hfin, if_pos h, alertError]

theorem meaning_other (hpsh : ¬frame.IsOwn cmdPsh) (hfin : ¬frame.IsOwn cmdFin)
    (halert : frame.cmd ≠ cmdAlert) : (layer lossy).meaning frame = .skip := by
  unfold Frame.IsOwn at hpsh hfin
  simp only [layer, if_neg hpsh, if_neg hfin, if_neg halert]

theorem ownData_cons (frame : Frame) (frames : List Frame) :
    ownData (frame :: frames) =
      (if frame.IsOwn cmdPsh then frame.data else []) ++ ownData frames := flatMap_cons

theorem ended_tail {frames : List Frame} {ending : Ending} (hfin : ¬frame.IsOwn cmdFin)
    (h : ending = .eof ∨ ∃ other ∈ frame :: frames, other.IsOwn cmdFin) :
    ending = .eof ∨ ∃ other ∈ frames, other.IsOwn cmdFin := by
  rcases h with heof | ⟨other, hmem, hother⟩
  · exact .inl heof
  · rcases mem_cons.mp hmem with rfl | hmem
    · exact absurd hother hfin
    · exact .inr ⟨other, hmem, hother⟩

theorem holds_ownData {frames : List Frame} {ending : Ending}
    (hend : ending = .eof ∨ ∃ frame ∈ frames, frame.IsOwn cmdFin)
    (hdata : ∀ frame ∈ untilFin frames, frame.IsOwn cmdPsh → frame.data ≠ [])
    (halert : ∀ frame ∈ untilFin frames, frame.cmd ≠ cmdAlert) :
    (layer lossy).Holds frames ending (ownData (untilFin frames)) := by
  induction frames with
  | nil =>
    have heof : ending = .eof := hend.resolve_right (by simp)
    rw [heof]
    exact .nil rfl
  | cons frame frames ih =>
    by_cases hfin : frame.IsOwn cmdFin
    · rw [untilFin_fin hfin, ownData_cons, if_neg (not_psh_of_fin hfin)]
      exact .closed (meaning_fin hfin) rfl
    · rw [untilFin_cons hfin] at hdata halert
      obtain ⟨hframe, hrest⟩ := forall_mem_cons.mp hdata
      obtain ⟨hno, hnone⟩ := forall_mem_cons.mp halert
      have hholds := ih (ended_tail hfin hend) hrest hnone
      rw [untilFin_cons hfin, ownData_cons]
      by_cases hpsh : frame.IsOwn cmdPsh
      · rw [if_pos hpsh]
        exact .data (meaning_psh hpsh) (hframe hpsh) hholds
      · rw [if_neg hpsh]
        exact .skip (meaning_other hpsh hfin hno) hholds

theorem fails_ownData {frames before after : List Frame} {alert : Frame} {ending : Ending}
    (hsplit : untilFin frames = before ++ alert :: after) (hcmd : alert.cmd = cmdAlert)
    (hdata : ∀ frame ∈ before, frame.IsOwn cmdPsh → frame.data ≠ [])
    (halert : ∀ frame ∈ before, frame.cmd ≠ cmdAlert) :
    (layer lossy).FailsAfter (· = alertError lossy alert) frames ending (ownData before) := by
  induction before generalizing frames with
  | nil =>
    cases frames with
    | nil => cases hsplit
    | cons frame frames =>
      have hframe : frame = alert := by
        rw [untilFin] at hsplit
        split_ifs at hsplit
        · exact (List.cons.inj hsplit).1
        · exact (List.cons.inj hsplit).1
      rw [hframe]
      exact .failed (meaning_alert hcmd) rfl
  | cons first before ih =>
    cases frames with
    | nil => cases hsplit
    | cons frame frames =>
      obtain ⟨hfirst, hrest⟩ := forall_mem_cons.mp hdata
      obtain ⟨hno, hnone⟩ := forall_mem_cons.mp halert
      by_cases hfin : frame.IsOwn cmdFin
      · rw [untilFin_fin hfin] at hsplit
        have hnil := (List.cons.inj hsplit).2
        simp at hnil
      · rw [untilFin_cons hfin] at hsplit
        obtain ⟨rfl, hsplit'⟩ := List.cons.inj hsplit
        have hfails := ih hsplit' hrest hnone
        rw [ownData_cons]
        by_cases hpsh : frame.IsOwn cmdPsh
        · rw [if_pos hpsh]
          exact .data (meaning_psh hpsh) (hfirst hpsh) hfails
        · rw [if_neg hpsh]
          exact .skip (meaning_other hpsh hfin hno) hfails

theorem writeEach_psh {parts : List Bytes} (hparts : ∀ part ∈ parts, part.length ≤ 65535)
    (hacc : stream.inner.Accepting) (hnone : stream.inner.failedWrites = 0) :
    ∃ frames s', writeEach (writeFrame cmdPsh streamId) parts stream = (.ok (), s') ∧
      s'.inner.taken = stream.inner.taken ++ codec.encodeAll () frames ∧
      (∀ frame ∈ frames, frame.IsOwn cmdPsh) ∧ frames.map Frame.data = parts := by
  induction parts generalizing stream with
  | nil => exact ⟨[], stream, rfl, (append_nil _).symm, by simp, rfl⟩
  | cons part parts ih =>
    obtain ⟨hpart, hrest⟩ := forall_mem_cons.mp hparts
    obtain ⟨inner, hrun, hacc', hnone', writes, htook⟩ :=
      writeParts_taken cmdPsh streamId part hacc hnone
    have hfirst : writeFrame cmdPsh streamId part stream =
        (.ok (), { stream with inner := inner }) := by
      rw [writeFrame, if_neg (Nat.not_lt.mpr hpart), Framed.onInner_run hrun]
    have hmiddle : ({ stream with inner := inner } : AnyTlsTcpStream).inner.Accepting := hacc'
    obtain ⟨frames, s', hlater, htaken, hown, hpays⟩ := ih hrest hmiddle hnone'
    refine ⟨⟨cmdPsh, streamId, part, Nat.lt_succ_of_le hpart⟩ :: frames, s', ?_, ?_, ?_, ?_⟩
    · rw [writeEach, Program.bind, hfirst]
      exact hlater
    · rw [htaken, htook]
      exact append_assoc _ _ _
    · intro frame hmem
      rcases mem_cons.mp hmem with rfl | hmem
      · exact ⟨rfl, rfl⟩
      · exact hown frame hmem
    · rw [map_cons, hpays]

theorem write_psh (buf : Bytes) (hacc : stream.inner.Accepting)
    (hnone : stream.inner.failedWrites = 0) :
    ∃ frames s', write buf stream = (.ok buf.length, s') ∧
      s'.inner.taken = stream.inner.taken ++ codec.encodeAll () frames ∧
      (∀ frame ∈ frames, frame.IsOwn cmdPsh ∧ frame.data.length ≤ 65535) ∧
      (frames.map Frame.data).flatten = buf := by
  obtain ⟨hflat, hchs⟩ := chunks_spec (by decide : 0 < 65535) buf
  obtain ⟨frames, s', hrun, htaken, hown, hpays⟩ :=
    writeEach_psh (fun part hpart => (hchs part hpart).2) hacc hnone
  refine ⟨frames, s', ?_, htaken, ?_, ?_⟩
  · rw [write, Program.bind, hrun]
    rfl
  · intro frame hmem
    exact ⟨hown frame hmem, Nat.le_of_lt_succ frame.fits⟩
  · rw [hpays, hflat]

theorem related_start {frames : List Frame}
    (hcar : Carries stream.inner.arrivals (codec.encodeAll () frames))
    (hacc : stream.inner.Accepting) (hfail : stream.inner.failedWrites = 0)
    (hrem : stream.remaining = []) (hopen : stream.own.streamClosed = false) :
    RelatedPlain (HeldWith (Answering stream frames)) stream
      ⟨[], frames, stream.inner.ending⟩ := by
  have hheld := held_of_open stream hacc hopen (Codec.delivers_of_carries _ hcar)
  exact ⟨hrem, hheld, hacc, hfail, [], rfl, (append_nil _).symm⟩

/-- The data of the own stream reads out up to its end or the first alert, and the requests that
were met are answered. -/
theorem session_demultiplexes (lossy : Bytes → String) (frames : List Frame)
    (stream : AnyTlsTcpStream) (lens : List ℕ)
    (hcar : Carries stream.inner.arrivals (codec.encodeAll () frames))
    (hend : stream.inner.ending = .eof ∨ ∃ frame ∈ frames, frame.IsOwn cmdFin)
    (hacc : stream.inner.Accepting) (hfail : stream.inner.failedWrites = 0)
    (hrem : stream.remaining = []) (hopen : stream.own.streamClosed = false)
    (hdata : ∀ frame ∈ untilFin frames, frame.IsOwn cmdPsh → frame.data ≠ [])
    (hlens : ∀ len ∈ lens, 0 < len) :
    ((∀ frame ∈ untilFin frames, frame.cmd ≠ cmdAlert) →
      ReadsOut (ownData (untilFin frames)) (callReads (read lossy) lens stream)) ∧
    (∀ before alert after, untilFin frames = before ++ alert :: after → alert.cmd = cmdAlert →
      (∀ frame ∈ before, frame.cmd ≠ cmdAlert) →
      ReadsThenFails (· = alertError lossy alert) (ownData before)
        (callReads (read lossy) lens stream)) ∧
    (∃ met left, untilFin frames = met ++ left ∧
      (afterReads (read lossy) lens stream).inner.taken =
        stream.inner.taken ++ codec.encodeAll () (heartResponses met) ∧
      ((∀ frame ∈ untilFin frames, frame.cmd ≠ cmdAlert) →
        ownData met = returnedBytes (callReads (read lossy) lens stream) ++
          (afterReads (read lossy) lens stream).remaining ∧
        ((∃ len, (len, .ok []) ∈ callReads (read lossy) lens stream) → left = []))) ∧
    ∀ buffer, ∃ sent s', write buffer stream = (.ok buffer.length, s') ∧
      s'.inner.taken = stream.inner.taken ++ codec.encodeAll () sent ∧
      (∀ frame ∈ sent, frame.IsOwn cmdPsh ∧ frame.data.length ≤ 65535) ∧
      (sent.map Frame.data).flatten = buffer := by
  have hrel := related_start hcar hacc hfail hrem hopen
  have hnone : failuresLeft stream = 0 := by
    rw [failuresLeft, hcar.countP_isFailed, hfail]
  have hread : FollowsPlain (layer lossy) (RelatedPlain (HeldWith (Answering stream frames)))
      failuresLeft (read lossy) := read_follows_with (answering_tracks stream frames)
  refine ⟨?_, ?_, ?_, fun buffer => write_psh buffer hacc hfail⟩
  · intro halert
    exact hread.readsOut hlens hrel hnone (holds_ownData hend hdata halert)
  · intro before alert after hsplit hcmd halert
    have hbef : ∀ frame ∈ before, frame.IsOwn cmdPsh → frame.data ≠ [] := by
      intro frame hmem
      apply hdata frame
      rw [hsplit]
      exact List.mem_append_left _ hmem
    exact hread.readsThenFails hlens hrel hnone (fails_ownData hsplit hcmd hbef halert)
  · by_cases halert : ∀ frame ∈ untilFin frames, frame.cmd ≠ cmdAlert
    · obtain ⟨-, plain, rest, hlast, hled⟩ :=
        hread.afterReads hlens hrel hnone (holds_ownData hend hdata halert)
      obtain ⟨met, hsplit, htaken⟩ := hlast.held.2.met
      refine ⟨met, untilFin plain.frames, hsplit, htaken, fun _ => ⟨?_, ?_⟩⟩
      · have hleft {frame : Frame} (hmem : frame ∈ untilFin plain.frames) :
            frame ∈ untilFin frames := by
          rw [hsplit]
          exact List.mem_append_right _ hmem
        have hrest : (layer lossy).Holds plain.frames .eof (ownData (untilFin plain.frames)) :=
          holds_ownData (.inl rfl) (fun frame hmem => hdata frame (hleft hmem))
            fun frame hmem => halert frame (hleft hmem)
        have hbytes : ownData (untilFin frames) = _ := hled.bytes
        rw [hled.holds.unique hrest, ← hlast.buffer, ← List.append_assoc, hsplit,
          ownData_append] at hbytes
        exact List.append_cancel_right hbytes
      · intro hended
        rw [hled.ended hended]
        rfl
    · obtain ⟨plain, hlast⟩ := hread.related_afterReads lens hrel hnone
      obtain ⟨met, hsplit, htaken⟩ := hlast.held.2.met
      exact ⟨met, _, hsplit, htaken, fun hno => absurd hno halert⟩

/-- A heartbeat request, data of another stream, own data, and data behind the own `FIN`. -/
def sessionFrames : List Frame :=
  [⟨cmdHeartRequest, 7, [], by decide⟩, ⟨cmdPsh, 3, [9], by decide⟩,
    ⟨cmdPsh, streamId, [65, 66], by decide⟩, ⟨cmdWaste, 0, [0, 0], by decide⟩,
    ⟨cmdFin, streamId, [], by decide⟩, ⟨cmdPsh, streamId, [67], by decide⟩]

/-- They arrive with a cut behind every zero, and a write takes three bytes at first. -/
def sessionStream : AnyTlsTcpStream :=
  ⟨[], 0, ⟨false, false⟩,
    ⟨(codec.encodeAll () sessionFrames).map fun byte => .byte byte (byte == 0), .eof, [.takes 3], [],
      []⟩⟩

theorem session_demultiplexes_six :
    ReadsOut [65, 66] (callReads (read fun _ => "") [1, 4, 4, 4] sessionStream) ∧
      (afterReads (read fun _ => "") [1, 4, 4, 4] sessionStream).inner.taken =
        [9, 0, 0, 0, 7, 0, 0] := by
  have halert : ∀ frame ∈ untilFin sessionFrames, frame.cmd ≠ cmdAlert := by decide
  have hended : (4, Except.ok []) ∈
      callReads (read fun _ => "") [1, 4, 4, 4] sessionStream := by decide +kernel
  have hacc : sessionStream.inner.Accepting := by
    intro reply hmem
    rw [List.mem_singleton.mp hmem]
    exact Nat.zero_lt_succ 2
  obtain ⟨hrds, -, ⟨met, left, hsplit, htaken, hmet⟩, -⟩ :=
    session_demultiplexes (fun _ => "") sessionFrames sessionStream [1, 4, 4, 4] List.map_map (.inl rfl)
      hacc rfl rfl rfl (by decide) (by decide)
  rw [(hmet halert).2 ⟨4, hended⟩, List.append_nil] at hsplit
  refine ⟨hrds halert, ?_⟩
  rw [htaken, ← hsplit]
  decide +kernel

end KeliNative.Framing.AnyTlsTcpStream
