import KeliNative.Framing.Sending
import KeliNative.Framing.MieruSegment

/-!
# Mieru streams (`MieruTcpStream`, `keli-net-core/src/mieru.rs`)

Bytes are kept until they make up a segment, so a read that fails loses nothing.
-/

namespace KeliNative.Framing
open Mieru List

/-- The fields beside `inner` and the deque `pending`, which is what remains of the last payload;
`stamps` counts the readings of the clock. -/
structure MieruSession where
  readNonce : Option MieruNonce
  writeNonce : MieruNonce
  sessionId : UInt32
  writeSequence : UInt32
  readBuffer : Bytes
  closed : Bool
  stamps : ℕ
  deriving DecidableEq

abbrev MieruTcpStream := Framed MieruSession

namespace MieruTcpStream

variable (close : UInt32 → Bool) (aead : MieruAead) (minutes : ℕ → UInt32)

/-- The nonce the next segment starts with; the first one comes before its segment. -/
def nextNonce (session : MieruSession) : Option MieruNonce :=
  match session.readNonce with
  | some nonce => some nonce
  | none =>
    if h : 24 ≤ session.readBuffer.length then
      some ⟨session.readBuffer.take 24, (List.length_take).trans (min_eq_left h)⟩
    else none

def attempt (session : MieruSession) : SegmentAttempt :=
  match nextNonce session with
  | none => .needMore
  | some nonce =>
    tryDecodeSegment close aead session.readBuffer session.readNonce.isNone nonce

def endedEarly : IoError := ⟨.unexpectedEof, "Mieru stream closed before next segment"⟩

/- A turn decodes a segment, uses up an arrival or ends at the end of the stream. -/
def readNextSegment : ℕ → MieruTcpStream → Except IoError MieruSegment × MieruTcpStream
  | 0, stream => (.error endedEarly, stream)
  | turns + 1, stream =>
    match attempt close aead stream.own with
    | .complete segment consumed nonce => (.ok segment, { stream with own := { stream.own with
        readBuffer := stream.own.readBuffer.drop consumed, readNonce := some nonce } })
    | .invalid => (.error ⟨.invalidData, "invalid Mieru segment"⟩, stream)
    | .needMore =>
      match Framed.onInner (InnerStream.read 4096) stream with
      | (.error error, stream) => (.error error, stream)
      | (.ok [], stream) => (.error endedEarly, stream)
      | (.ok bytes, stream) => readNextSegment turns { stream with
          own := { stream.own with readBuffer := stream.own.readBuffer ++ bytes } }

def handleSegment (next : Io MieruTcpStream Bool) (segment : MieruSegment) :
    Io MieruTcpStream Bool := fun stream =>
  let protocolType := segment.metadata.protocolType
  if protocolType = dataServerToClient ∨ protocolType = dataClientToServer then
    if segment.payload = [] then next { stream with readBuffer := [], readOffset := 0 }
    else (.ok true, { stream with readBuffer := segment.payload, readOffset := 0 })
  else if protocolType = closeSessionRequest ∨ protocolType = closeSessionResponse then
    (.ok false, { stream with own := { stream.own with closed := true } })
  else next stream

def fillPending : ℕ → MieruTcpStream → Except IoError Bool × MieruTcpStream
  | 0, stream => (.ok false, stream)
  | turns + 1, stream =>
    if stream.own.closed then (.ok false, stream)
    else match readNextSegment close aead (stream.inner.arrivals.length + 1) stream with
      | (.ok segment, stream) => handleSegment (fillPending turns) segment stream
      | (.error error, stream) =>
        if error.kind = .unexpectedEof then
          (.ok false, { stream with own := { stream.own with closed := true } })
        else (.error error, stream)

/- A turn that goes on has taken a segment off what was there. -/
def readNext : Io MieruTcpStream Bool := fun stream => fillPending close aead
  (stream.own.readBuffer.length + stream.inner.arrivals.length + 1) stream

def read : ℕ → Io MieruTcpStream Bytes := Framed.read false true (readNext close aead)

def saturatingSucc (sequence : UInt32) : UInt32 :=
  if sequence = 4294967295 then sequence else sequence + 1

/- The sequence number and the nonces have moved before the segment is written. -/
def writeSegment (protocolType : UInt8) (payload : Bytes) : Io MieruTcpStream Unit := fun stream =>
  let own := stream.own
  let metadata : MieruMetadata := {
    protocolType, sessionId := own.sessionId, sequence := own.writeSequence, statusCode := statusOk
    payloadLen := payload.length, prefixLen := 0, suffixLen := 0 }
  let own := { own with writeSequence := saturatingSucc own.writeSequence }
  let start := if own.writeSequence = 1 then own.writeNonce.1 else []
  match encodeMetadata (minutes own.stamps) metadata with
  | .error error => (.error error, { stream with own := own })
  | .ok bytes =>
    let segment := start ++ segmentBody aead own.writeNonce bytes payload
    Framed.onInner (writeAll segment) { stream with own := { own with
      stamps := own.stamps + 1, writeNonce := nonceAfter own.writeNonce payload } }

def write (input : Bytes) : Io MieruTcpStream ℕ :=
  if input = [] then Program.pure 0
  else Program.bind
    (writeEach (writeSegment aead minutes dataClientToServer) (chunks maxTcpFragmentLen input))
    fun _ => Program.pure input.length

/-- The nonce the next segment is sealed with, and whether it is sent before the segment. -/
structure Wire where
  nonce : MieruNonce
  first : Bool

structure Segment (close : UInt32 → Bool) where
  stamp : UInt32
  isClose : close stamp = true
  segment : MieruSegment
  padding : Padding
  written : segment.metadata.Written
  payloadLen : segment.metadata.payloadLen = segment.payload.length
  prefixLen : segment.metadata.prefixLen = padding.before.length
  suffixLen : segment.metadata.suffixLen = padding.after.length

def codec : Codec Wire (Segment close) where
  encode wire segment :=
    segmentBytes aead segment.stamp segment.segment segment.padding wire.first wire.nonce
  next wire segment := ⟨nonceAfter wire.nonce segment.segment.payload, false⟩

def meaningOf (protocolType : UInt8) (payload : Bytes) : Meaning :=
  if protocolType = dataServerToClient ∨ protocolType = dataClientToServer then
    if payload = [] then .skip else .data payload
  else if protocolType = closeSessionRequest ∨ protocolType = closeSessionResponse then .ends true
  else .skip

def layer : Layer (Segment close) where
  meaning segment := meaningOf segment.segment.metadata.protocolType segment.segment.payload
  atEnd
    | .eof => .ok ()
    | .failed error _ => if error.kind = .unexpectedEof then .ok () else .error error
  readsIntoEmpty := false

def Wire.Read (wire : Wire) (session : MieruSession) : Prop :=
  session.readNonce = if wire.first then none else some wire.nonce

/-- What has arrived and what will are the segments; `WouldBlock` may come anywhere. -/
structure Arriving (wire : Wire) (segments : List (Segment close)) (stream : MieruTcpStream) : Prop where
  blocks : ∀ error, .failed error ∈ stream.inner.arrivals → error.kind = .wouldBlock
  nonce : wire.Read stream.own
  bytes : stream.own.readBuffer ++ stream.inner.arrivals.filterMap Arrival.value? =
    (codec close aead).encodeAll wire segments

def Held (stream : MieruTcpStream) (segments : List (Segment close)) (ending : Ending) : Prop :=
  if stream.own.closed then segments = [] ∧ (layer close).atEnd ending = .ok ()
  else stream.inner.ending = ending ∧ ∃ wire, Arriving close aead wire segments stream

variable {close} {aead} {minutes} {wire : Wire} {segments : List (Segment close)}

theorem encode_length_pos (close : UInt32 → Bool) (aead : MieruAead) (wire : Wire)
    (seg : Segment close) : 0 < ((codec close aead).encode wire seg).length := by
  change 0 < (segmentBytes _ _ _ _ _ _).length
  rw [segmentBytes_length]
  omega

variable {stream : MieruTcpStream}

theorem attempt_spec (h : Arriving close aead wire segments stream) :
    attempt close aead stream.own = match segments with
      | [] => .needMore
      | seg :: _ =>
        if stream.own.readBuffer.length < ((codec close aead).encode wire seg).length then .needMore
        else .complete seg.segment ((codec close aead).encode wire seg).length
          ((codec close aead).next wire seg).nonce := by
  have hnonce := h.nonce
  have hbytes := h.bytes
  rw [Wire.Read] at hnonce
  rw [attempt, nextNonce, hnonce]
  cases segments with
  | nil =>
    have hempty := (append_eq_nil_iff.mp hbytes).1
    cases wire.first with
    | true =>
      simp only [ite_true, hempty]
      rfl
    | false =>
      simp only [Bool.false_eq_true, ite_false, hempty]
      rfl
  | cons seg segments =>
    have hspec (hnonce : wire.first = true → 24 ≤ stream.own.readBuffer.length) :=
      tryDecodeSegment_spec seg.isClose seg.written seg.payloadLen seg.prefixLen
        seg.suffixLen hbytes hnonce
    cases hfirst : wire.first with
    | false =>
      have hdecoded := hspec (by rw [hfirst]; nofun)
      rw [hfirst] at hdecoded
      simp only [Bool.false_eq_true, ite_false, Option.isNone_some]
      rw [hdecoded, ← hfirst]
      rfl
    | true =>
      simp only [ite_true, Option.isNone_none]
      by_cases hlong : 24 ≤ stream.own.readBuffer.length
      · have hdecoded := hspec fun _ => hlong
        rw [hfirst] at hdecoded
        rw [dif_pos hlong]
        have hstart : stream.own.readBuffer.take 24 = wire.nonce.1 := by
          have htake := congrArg (List.take 24) hbytes
          rw [take_append_of_le_length hlong] at htake
          rw [htake]
          change List.take 24 ((if wire.first then wire.nonce.1 else []) ++ _ ++ _) = _
          rw [hfirst, if_pos rfl, append_assoc, take_left' wire.nonce.2]
        have hsame : (⟨stream.own.readBuffer.take 24, (length_take).trans (min_eq_left hlong)⟩ :
            MieruNonce) = wire.nonce := Subtype.ext hstart
        simp only [hsame]
        rw [hdecoded, ← hfirst]
        rfl
      · have hshort : stream.own.readBuffer.length < ((codec close aead).encode wire seg).length := by
          change _ < (segmentBytes _ _ _ _ _ _).length
          rw [segmentBytes_length, hfirst, if_pos rfl]
          omega
        rw [dif_neg hlong, if_pos hshort]

def moved (stream : MieruTcpStream) (readBuffer : Bytes) (readNonce : Option MieruNonce)
    (arrivals : List Arrival) : MieruTcpStream :=
  { stream with
    own := { stream.own with readBuffer := readBuffer, readNonce := readNonce }
    inner := { stream.inner with arrivals := arrivals } }

inductive SegmentStep (close : UInt32 → Bool) (aead : MieruAead) (wire : Wire)
    (segments : List (Segment close)) (stream : MieruTcpStream) :
    Except IoError MieruSegment × MieruTcpStream → Prop
  | wouldBlock {error : IoError} {readBuffer : Bytes} {arrivals : List Arrival}
    (hkind : error.kind = .wouldBlock)
    (h : Arriving close aead wire segments (stream.moved readBuffer stream.own.readNonce arrivals))
    (hfewer : arrivals.countP Arrival.isFailed < stream.inner.arrivals.countP Arrival.isFailed) :
    SegmentStep close aead wire segments stream
      (.error error, stream.moved readBuffer stream.own.readNonce arrivals)
  | segment {segment : Segment close} {rest : List (Segment close)} {readBuffer : Bytes}
    {readNonce : Option MieruNonce} {arrivals : List Arrival} (hsegs : segments = segment :: rest)
    (h : Arriving close aead ((codec close aead).next wire segment) rest
      (stream.moved readBuffer readNonce arrivals))
    (hfewer : arrivals.countP Arrival.isFailed ≤ stream.inner.arrivals.countP Arrival.isFailed) :
    SegmentStep close aead wire segments stream
      (.ok segment.segment, stream.moved readBuffer readNonce arrivals)
  | ended {error : IoError} {readBuffer : Bytes} {arrivals : List Arrival} (hsegs : segments = [])
    (herr : stream.inner.ending = .eof ∧ error = endedEarly ∨
      ∃ stays, stream.inner.ending = .failed error stays)
    (h : Arriving close aead wire segments (stream.moved readBuffer stream.own.readNonce arrivals))
    (hfewer : arrivals.countP Arrival.isFailed ≤ stream.inner.arrivals.countP Arrival.isFailed) :
    SegmentStep close aead wire segments stream
      (.error error, stream.moved readBuffer stream.own.readNonce arrivals)

theorem Arriving.next {seg : Segment close}
    (h : Arriving close aead wire (seg :: segments) stream)
    (hlen : ((codec close aead).encode wire seg).length ≤ stream.own.readBuffer.length) :
    Arriving close aead ((codec close aead).next wire seg) segments (stream.moved
      (stream.own.readBuffer.drop ((codec close aead).encode wire seg).length)
      (some ((codec close aead).next wire seg).nonce) stream.inner.arrivals) where
  blocks := h.blocks
  nonce := rfl
  bytes := by
    have hdrop := congrArg (List.drop ((codec close aead).encode wire seg).length) h.bytes
    rw [drop_append_of_le_length hlen, Codec.encodeAll, drop_left] at hdrop
    exact hdrop

theorem Arriving.read (h : Arriving close aead wire segments stream) {bytes : Bytes}
    {taken rest : List Arrival} (harr : stream.inner.arrivals = taken ++ rest)
    (htaken : Carries taken bytes) :
    Arriving close aead wire segments
      (stream.moved (stream.own.readBuffer ++ bytes) stream.own.readNonce rest) where
  blocks error hmem := h.blocks error (by
    rw [harr]
    exact mem_append_right _ hmem)
  nonce := h.nonce
  bytes := by
    have hbytes := h.bytes
    rw [harr, filterMap_append, htaken.filterMap_eq, ← append_assoc] at hbytes
    exact hbytes

theorem SegmentStep.after {readBuffer : Bytes} {arr : List Arrival}
    {run : Except IoError MieruSegment × MieruTcpStream}
    (h : SegmentStep close aead wire segments
      (stream.moved readBuffer stream.own.readNonce arr) run)
    (hfewer : arr.countP Arrival.isFailed ≤ stream.inner.arrivals.countP Arrival.isFailed) :
    SegmentStep close aead wire segments stream run := by
  cases h with
  | wouldBlock hkind h hless => exact .wouldBlock hkind h (hless.trans_le hfewer)
  | segment hsegs h hless => exact .segment hsegs h (hless.trans hfewer)
  | ended hsegs herr h hless => exact .ended hsegs herr h (hless.trans hfewer)

theorem readNextSegment_step {turns : ℕ} (hturns : stream.inner.arrivals.length < turns)
    (h : Arriving close aead wire segments stream) :
    SegmentStep close aead wire segments stream (readNextSegment close aead turns stream) := by
  induction turns generalizing stream with
  | zero => exact absurd hturns (Nat.not_lt_zero _)
  | succ turns ih =>
    have hatt := attempt_spec h
    rw [readNextSegment]
    by_cases hwhole : ∃ seg rest, segments = seg :: rest ∧
      ((codec close aead).encode wire seg).length ≤ stream.own.readBuffer.length
    · obtain ⟨seg, rest, rfl, hlen⟩ := hwhole
      simp only [Nat.not_lt.mpr hlen, ite_false] at hatt
      rw [hatt]
      exact .segment rfl (h.next hlen) le_rfl
    · have hmore : attempt close aead stream.own = .needMore := by
        rw [hatt]
        cases segments with
        | nil => rfl
        | cons seg rest =>
          exact if_pos (Nat.not_le.mp fun hlen => hwhole ⟨seg, rest, rfl, hlen⟩)
      rw [hmore]
      dsimp only
      cases harr : stream.inner.arrivals with
      | nil =>
        have hsegs : segments = [] := by
          cases segments with
          | nil => rfl
          | cons seg rest =>
            have hbytes := h.bytes
            rw [harr, filterMap_nil, append_nil] at hbytes
            refine absurd ⟨seg, rest, rfl, ?_⟩ hwhole
            rw [hbytes, Codec.encodeAll, length_append]
            exact Nat.le_add_right _ _
        have hread : InnerStream.read 4096 stream.inner =
            (stream.inner.ending.outcome, stream.inner) := by
          rw [InnerStream.read, harr]
        rw [Framed.onInner_run hread]
        cases hending : stream.inner.ending with
        | eof => exact .ended hsegs (.inl ⟨hending, rfl⟩) h le_rfl
        | failed error stays =>
          exact .ended hsegs (.inr ⟨stays, hending⟩) h le_rfl
      | cons arrival arrivals =>
        cases arrival with
        | failed error =>
          have hread : InnerStream.read 4096 stream.inner =
              (.error error, { stream.inner with arrivals := arrivals }) := by
            rw [InnerStream.read, harr]
          rw [Framed.onInner_run hread]
          have hkind := h.blocks error (by rw [harr]; exact mem_cons_self)
          have harriving : Arriving close aead wire segments
              (stream.moved stream.own.readBuffer stream.own.readNonce arrivals) := by
            refine ⟨fun error hmem => h.blocks error ?_, h.nonce, ?_⟩
            · rw [harr]
              exact mem_cons_of_mem _ hmem
            · have hbytes := h.bytes
              rw [harr] at hbytes
              exact hbytes
          refine .wouldBlock hkind harriving ?_
          rw [harr, countP_cons_of_pos rfl]
          exact Nat.lt_succ_self _
        | byte value stop =>
          obtain ⟨byte, bytes, taken, rest, hread, hsplit, hcar⟩ := read_byte harr 4095
          rw [Framed.onInner_run hread]
          have htaken : 0 < taken.length := by
            rw [hcar.length_eq]
            exact Nat.succ_pos _
          have hlength := congrArg List.length hsplit
          rw [length_append] at hlength
          have hfuel : (stream.moved (stream.own.readBuffer ++ byte :: bytes) stream.own.readNonce
              rest).inner.arrivals.length < turns := by
            change rest.length < turns
            omega
          refine (ih hfuel (h.read hsplit hcar)).after ?_
          rw [hsplit, countP_append]
          exact Nat.le_add_left _ _

theorem failuresLeft_moved (readBuffer : Bytes) (readNonce : Option MieruNonce)
    {arr : List Arrival}
    (h : arr.countP Arrival.isFailed ≤ stream.inner.arrivals.countP Arrival.isFailed) :
    failuresLeft (stream.moved readBuffer readNonce arr) ≤ failuresLeft stream :=
  Nat.add_le_add_right h _

theorem held_of_open (hopen : stream.own.closed = false)
    (h : Arriving close aead wire segments stream) :
    Held close aead stream segments stream.inner.ending := by
  rw [Held, hopen]
  exact ⟨rfl, wire, h⟩

theorem held_of_closed (hclosed : stream.own.closed = true) {ending : Ending}
    (h : (layer close).atEnd ending = .ok ()) : Held close aead stream [] ending := by
  rw [Held, hclosed]
  exact ⟨rfl, h⟩

theorem fillPending_step {turns : ℕ} (hturns : segments.length < turns)
    (h : Arriving close aead wire segments stream) (hrem : stream.remaining = [])
    (hopen : stream.own.closed = false) :
    NextStep (layer close) (Held close aead) stream segments stream.inner.ending
      (fillPending close aead turns stream) := by
  induction turns generalizing segments wire stream with
  | zero => exact absurd hturns (Nat.not_lt_zero _)
  | succ turns ih =>
    have hstep := readNextSegment_step (Nat.lt_succ_self _) h
    rw [fillPending, hopen, if_neg Bool.false_ne_true]
    generalize readNextSegment close aead (stream.inner.arrivals.length + 1) stream = run at hstep
    cases hstep with
    | wouldBlock hkind h' hfewer =>
      dsimp only
      rw [if_neg (by rw [hkind]; nofun)]
      exact .wouldBlock hkind (Nat.add_lt_add_right hfewer _) hrem (held_of_open hopen h') rfl
    | @segment seg rest readBuffer readNonce arr hsegs h' hfewer =>
      subst hsegs
      have hless := failuresLeft_moved readBuffer readNonce hfewer
      have hgone (buf : Bytes) (off : ℕ) :
          Arriving close aead ((codec close aead).next wire seg) rest
            { stream.moved readBuffer readNonce arr with
              readBuffer := buf, readOffset := off } :=
        ⟨h'.blocks, h'.nonce, h'.bytes⟩
      have hlater := Nat.lt_of_succ_lt_succ hturns
      unfold handleSegment
      dsimp only
      split
      next hdata =>
        by_cases hpay : seg.segment.payload = []
        · have hskip : (layer close).fetch rest stream.inner.ending =
              (layer close).fetch (seg :: rest) stream.inner.ending := by
            simp only [Layer.fetch, layer, meaningOf, if_pos hdata, if_pos hpay]
          rw [if_pos hpay]
          exact (ih hlater (hgone [] 0) rfl hopen).behind hskip hless
        · have hfetch : (layer close).fetch (seg :: rest) stream.inner.ending =
              (.ok (some seg.segment.payload), rest, stream.inner.ending) := by
            simp only [Layer.fetch, layer, meaningOf, if_pos hdata, if_neg hpay]
          rw [if_neg hpay]
          exact .payload hfetch hless rfl (held_of_open hopen (hgone seg.segment.payload 0))
      next hdata =>
      split
      next hclose =>
        have hfetch : (layer close).fetch (seg :: rest) stream.inner.ending =
            (.ok none, [], .eof) := by
          simp only [Layer.fetch, layer, meaningOf, if_neg hdata, if_pos hclose]
        exact .ended hfetch hless hrem (held_of_closed rfl rfl)
      next hclose =>
        have hskip : (layer close).fetch rest stream.inner.ending =
            (layer close).fetch (seg :: rest) stream.inner.ending := by
          simp only [Layer.fetch, layer, meaningOf, if_neg hdata, if_neg hclose]
        have hstep := ih hlater (hgone stream.readBuffer stream.readOffset) hrem hopen
        exact hstep.behind hskip hless
    | @ended error readBuffer arr hsegs herr h' hfewer =>
      subst hsegs
      have hless := failuresLeft_moved readBuffer stream.own.readNonce hfewer
      dsimp only
      by_cases hkind : error.kind = .unexpectedEof
      · have hend : (layer close).atEnd stream.inner.ending = .ok () := by
          rcases herr with ⟨hending, -⟩ | ⟨stays, hending⟩
          · rw [hending]
            rfl
          · rw [hending]
            exact if_pos hkind
        have hfetch : (layer close).fetch [] stream.inner.ending = (.ok none, [], stream.inner.ending) := by
          rw [Layer.fetch, hend]
          rfl
        rw [if_pos hkind]
        exact .ended hfetch hless hrem (held_of_closed rfl hend)
      · rcases herr with ⟨-, rfl⟩ | ⟨stays, hending⟩
        · exact absurd rfl hkind
        · have hfetch : (layer close).fetch [] stream.inner.ending =
              (.error error, [], stream.inner.ending) := by
            rw [Layer.fetch, hending]
            simp only [layer, if_neg hkind]
            rfl
          rw [if_neg hkind]
          exact .failed stays.2 hfetch hless hrem (held_of_open hopen h')

theorem segments_le_bytes (h : Arriving close aead wire segments stream) :
    segments.length ≤ stream.own.readBuffer.length + stream.inner.arrivals.length := by
  have hall (wire : Wire) (segments : List (Segment close)) :
      segments.length ≤ ((codec close aead).encodeAll wire segments).length := by
    induction segments generalizing wire with
    | nil => exact le_rfl
    | cons seg segments ih =>
      have hpos := encode_length_pos close aead wire seg
      have hrest := ih ((codec close aead).next wire seg)
      rw [Codec.encodeAll, length_append, length_cons]
      omega
  have hvalues := length_filterMap_le Arrival.value? stream.inner.arrivals
  have hbytes := congrArg List.length h.bytes
  have hsegs := hall wire segments
  rw [length_append] at hbytes
  omega

theorem read_follows :
    FollowsPlain (layer close) (RelatedPlain (Held close aead)) failuresLeft (read close aead) := by
  refine Framed.read_follows (fun stream segments ending buf off h => ?_)
    fun stream segments ending hrem hheld => ?_
  · cases hclosed : stream.own.closed with
    | true =>
      rw [Held, hclosed] at h
      obtain ⟨rfl, hend⟩ := h
      rw [Held, hclosed]
      exact ⟨rfl, hend⟩
    | false =>
      rw [Held, hclosed] at h ⊢
      obtain ⟨rfl, wire, h⟩ := h
      exact ⟨rfl, wire, h.blocks, h.nonce, h.bytes⟩
  · rw [readNext]
    cases hclosed : stream.own.closed with
    | true =>
      rw [Held, hclosed] at hheld
      obtain ⟨rfl, hend⟩ := hheld
      have hfetch : (layer close).fetch [] ending = (.ok none, [], ending) := by
        rw [Layer.fetch, hend]
        rfl
      rw [fillPending, if_pos hclosed]
      exact .ended hfetch le_rfl hrem (held_of_closed hclosed hend)
    | false =>
      rw [Held, hclosed] at hheld
      obtain ⟨rfl, wire, h⟩ := hheld
      exact fillPending_step (Nat.lt_succ_of_le (segments_le_bytes h)) h hrem hclosed

/-- The nonce the next segment is written with, and whether it comes first. -/
def writeState (stream : MieruTcpStream) : Wire :=
  ⟨stream.own.writeNonce, stream.own.writeSequence = 0⟩

theorem toNat_saturatingSucc (seq : UInt32) :
    (saturatingSucc seq).toNat = min (seq.toNat + 1) 4294967295 := by
  have hlt := seq.toNat_lt
  unfold saturatingSucc
  split
  next h =>
    rw [h]
    rfl
  next h =>
    have hne : seq.toNat ≠ 4294967295 := fun heq => h (UInt32.toNat_inj.mp heq)
    rw [UInt32.toNat_add, UInt32.toNat_one]
    omega

theorem saturatingSucc_eq_one (seq : UInt32) : saturatingSucc seq = 1 ↔ seq = 0 := by
  rw [← UInt32.toNat_inj, ← UInt32.toNat_inj, toNat_saturatingSucc, UInt32.toNat_one,
    UInt32.toNat_zero]
  omega

theorem saturatingSucc_ne_zero (seq : UInt32) : saturatingSucc seq ≠ 0 := by
  rw [Ne, ← UInt32.toNat_inj, toNat_saturatingSucc, UInt32.toNat_zero]
  omega

def Fits (protocolType : UInt8) (payload : Bytes) : Prop :=
  (isSessionType protocolType || isDataType protocolType) = true ∧
    payload.length ≤ payloadLimit protocolType

instance (protocolType : UInt8) (payload : Bytes) : Decidable (Fits protocolType payload) :=
  inferInstanceAs (Decidable (_ ∧ _))

theorem payloadLimit_le (kind : UInt8) : payloadLimit kind ≤ 65535 := by
  unfold payloadLimit
  split
  · decide
  · decide

def writtenSegment {minutes : ℕ → UInt32} (hclock : ∀ reading, close (minutes reading) = true)
    (session : MieruSession) (protocolType : UInt8) (payload : Bytes) (h : Fits protocolType payload) :
    Segment close where
  stamp := minutes session.stamps
  isClose := hclock session.stamps
  segment := ⟨{
    protocolType, sessionId := session.sessionId
    sequence := session.writeSequence, statusCode := statusOk
    payloadLen := payload.length, prefixLen := 0, suffixLen := 0 }, payload⟩
  padding := ⟨[], []⟩
  written := ⟨h.1, h.2, Nat.zero_lt_succ _, Nat.zero_lt_succ _, fun _ => rfl, fun _ => rfl⟩
  payloadLen := rfl
  prefixLen := rfl
  suffixLen := rfl

theorem writeSegment_ok (hclock : ∀ reading, close (minutes reading) = true) {kind : UInt8}
    {data : Bytes} (hfits : Fits kind data) {s' : MieruTcpStream}
    (h : writeSegment aead minutes kind data stream = (.ok (), s')) :
    Sent (codec close aead) writeState [writtenSegment hclock stream.own kind data hfits]
      stream s' := by
  have hsize : ¬65535 < data.length := Nat.not_lt_of_le (hfits.2.trans (payloadLimit_le _))
  unfold writeSegment at h
  dsimp only at h
  rw [encodeMetadata, if_neg hsize] at h
  obtain ⟨inner, rfl, writes, rfl⟩ := onInner_writeAll_ok h
  have hstart : (if saturatingSucc stream.own.writeSequence = 1 then stream.own.writeNonce.1 else []) =
      if (writeState stream).first then (writeState stream).nonce.1 else [] := by
    simp only [writeState, saturatingSucc_eq_one, decide_eq_true_eq]
  constructor
  · change stream.inner.taken ++ _ =
      stream.inner.taken ++ (segmentBytes _ _ _ ⟨[], []⟩ _ _ ++ [])
    rw [append_nil, segmentBytes_unpadded, hstart]
    rfl
  · change Wire.mk _ _ = Wire.mk _ _
    rw [decide_eq_false (saturatingSucc_ne_zero _)]
    rfl

theorem fits_data {data : Bytes} (h : data.length ≤ maxTcpFragmentLen) :
    Fits dataClientToServer data := ⟨rfl, h⟩

theorem writeSegment_sends (hclock : ∀ reading, close (minutes reading) = true) :
    SendsFrame (codec close aead) (layer close) writeState maxTcpFragmentLen
    (writeSegment aead minutes dataClientToServer) := by
  intro payload stream s' hne hsize h
  have hmean : meaningOf dataClientToServer payload = .data payload := by
    rw [meaningOf, if_pos (.inr rfl), if_neg hne]
  exact ⟨writtenSegment hclock stream.own dataClientToServer payload (fits_data hsize), hmean,
    writeSegment_ok hclock (fits_data hsize) h⟩

theorem write_sends (hclock : ∀ reading, close (minutes reading) = true) (limit : ℕ) :
    SendsBuffer (codec close aead) (layer close) writeState limit (write aead minutes) := by
  intro buf stream count s' hne hlim h
  rw [write, if_neg hne] at h
  exact (writeSegment_sends hclock).sendsBuffer (by decide) limit buf stream count s' hne
    hlim h

theorem write_answers (input : Bytes) : Answers Framed.inner (write aead minutes input) := by
  unfold write
  split
  · exact answers_pure 0
  refine (Answers.writeEach (fun data stream => ?_) _).bind fun _ => answers_pure _
  unfold writeSegment encodeMetadata
  dsimp only
  split
  next h =>
    split at h
    · cases h
      exact fun hpause => absurd hpause Bool.false_ne_true
    · cases h
  · exact answers_onInner (answers_writeAll _) _

end MieruTcpStream

end KeliNative.Framing
